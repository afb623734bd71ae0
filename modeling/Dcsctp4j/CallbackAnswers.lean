import Dcsctp4j.CallbackDispatch
import Dcsctp4j.Clock
import Dcsctp4j.Foundation.PlayedDialogue

/-! # Answers to dcsctp's calls

What each wrapper returns to dcsctp. Apart from its references, a wrapper is the
dialogue in which it asks the application and reads the answers.
-/

namespace Dcsctp4j

open NativeFrame NativeFrame.Program

/-! ## Calls with their answers -/

@[reducible] def CallbackEvent.Answer : CallbackEvent → Type
  | .sendPacketWithStatus _ => Native.SendPacketStatus
  | _ => Unit

@[reducible] def WrapperCall.Answer : WrapperCall → Type
  | .callback event => event.Answer
  | .createTimeout _ => WrappedTimeout
  | .timeMillis => Native.TimeMs
  | .now => Int64
  | .getRandomInt _ _ => UInt32
  | .timeoutStart _ _ _ | .timeoutStop _ | .timeoutRestart _ _ _ => Unit

def CallbackEvent.perform (libraries : Libraries) : (event : CallbackEvent) → Jni event.Answer
  | .sendPacket data => WrappedSocketCallbacks.sendPacket data
  | .sendPacketWithStatus data => WrappedSocketCallbacks.sendPacketWithStatus data
  | .onMessageReceived message => WrappedSocketCallbacks.onMessageReceived message
  | .onError error message => WrappedSocketCallbacks.onError libraries error message
  | .onAborted error message => WrappedSocketCallbacks.onAborted libraries error message
  | .onConnected => WrappedSocketCallbacks.onConnected
  | .onClosed => WrappedSocketCallbacks.onClosed
  | .onConnectionRestarted => WrappedSocketCallbacks.onConnectionRestarted
  | .onStreamsResetFailed streams reason =>
      WrappedSocketCallbacks.onStreamsResetFailed libraries streams reason
  | .onStreamsResetPerformed streams => WrappedSocketCallbacks.onStreamsResetPerformed streams
  | .onIncomingStreamsReset streams => WrappedSocketCallbacks.onIncomingStreamsReset streams
  | .onBufferedAmountLow streamId => WrappedSocketCallbacks.onBufferedAmountLow streamId
  | .onTotalBufferedAmountLow => WrappedSocketCallbacks.onTotalBufferedAmountLow
  | .onSentPacket now payload => WrappedPacketObserver.onSentPacket now payload
  | .onReceivedPacket now payload => WrappedPacketObserver.onReceivedPacket now payload

def WrapperCall.perform (libraries : Libraries) : (wrapper : WrapperCall) → Jni wrapper.Answer
  | .callback event => event.perform libraries
  | .createTimeout precision => do
      let timeout ← WrappedSocketCallbacks.createTimeout precision
      return { timeout }
  | .timeMillis => WrappedSocketCallbacks.timeMillis libraries
  | .now => WrappedSocketCallbacks.now
  | .getRandomInt low high => WrappedSocketCallbacks.getRandomInt low high
  | .timeoutStart timeout duration timeoutId => timeout.start duration timeoutId
  | .timeoutStop timeout => timeout.stop
  | .timeoutRestart timeout duration timeoutId => timeout.restart duration timeoutId

section Discarding

variable {α β : Type} (setting : JniSetting) (env : JniEnv)

theorem discard_run (program : Jni α) :
    (program >>= fun _ => pure () : Jni Unit).run setting env =
      ((program.run setting env).1.map fun _ => (), (program.run setting env).2) := by
  rw [run_bind]
  rcases program.run setting env with ⟨result, after⟩
  cases result <;> rfl

theorem discard_mapped (program : Jni α) (result : α → β) :
    (program >>= fun _ => pure () : Jni Unit).run setting env =
      (((program >>= fun value => pure (result value) : Jni β).run setting env).1.map
          fun _ => (),
        ((program >>= fun value => pure (result value) : Jni β).run setting env).2) := by
  rw [run_bind, run_bind]
  rcases program.run setting env with ⟨outcome, after⟩
  cases outcome <;> rfl

theorem discard_unit (program : Jni Unit) :
    program.run setting env =
      ((program.run setting env).1.map fun _ => (), (program.run setting env).2) := by
  rcases program.run setting env with ⟨result, after⟩
  cases result <;> rfl

/-- The runs considered before are these, with the answer left out. -/
theorem WrapperCall.run_eq_perform (libraries : Libraries) (wrapper : WrapperCall) :
    (wrapper.run libraries).run setting env =
      (((wrapper.perform libraries).run setting env).1.map fun _ => (),
        ((wrapper.perform libraries).run setting env).2) := by
  cases wrapper with
  | callback event =>
      cases event with
      | sendPacketWithStatus data => exact discard_run setting env _
      | _ => exact discard_unit setting env _
  | createTimeout precision =>
      exact discard_mapped setting env (WrappedSocketCallbacks.createTimeout precision)
        WrappedTimeout.mk
  | timeMillis => exact discard_run setting env _
  | now => exact discard_run setting env _
  | getRandomInt low high => exact discard_run setting env _
  | timeoutStart timeout duration timeoutId => exact discard_unit setting env _
  | timeoutStop timeout => exact discard_unit setting env _
  | timeoutRestart timeout duration timeoutId => exact discard_unit setting env _

end Discarding

/-! ## Calls as dialogues -/

abbrev AppDialogue := Dialogue ApplicationCall ApplicationCall.Reply

def askJava {α : Type} (method : ApplicationCall) (read : method.Reply → α) : AppDialogue α :=
  .ask method fun reply => .reply (read reply)

def CallbackEvent.dialogue (libraries : Libraries) :
    (event : CallbackEvent) → AppDialogue event.Answer
  | .sendPacketWithStatus data =>
      askJava (.sendPacketWithStatus (toByteArray data)) fun status => ⟨status.nativeStatus⟩
  | .sendPacket data => askJava (.sendPacketWithStatus (toByteArray data)) fun _ => ()
  | .onMessageReceived message =>
      askJava (.onMessageReceived
        { streamId := message.streamId.value.toInt16
          ppid := message.ppid.value.toInt32
          payload := toByteArray message.payload }) fun _ => ()
  | .onError error message =>
      askJava (.onError (ErrorKindMembers.map error) (libraries.javaStringCreate message))
        fun _ => ()
  | .onAborted error message =>
      askJava (.onAborted (ErrorKindMembers.map error) (libraries.javaStringCreate message))
        fun _ => ()
  | .onConnected => askJava .onConnected fun _ => ()
  | .onClosed => askJava .onClosed fun _ => ()
  | .onConnectionRestarted => askJava .onConnectionRestarted fun _ => ()
  | .onStreamsResetFailed streams reason =>
      askJava (.onStreamsResetFailed (toShortArray streams) (libraries.javaStringCreate reason))
        fun _ => ()
  | .onStreamsResetPerformed streams | .onIncomingStreamsReset streams =>
      askJava (.onStreamsResetPerformed (toShortArray streams)) fun _ => ()
  | .onBufferedAmountLow streamId =>
      askJava (.onBufferedAmountLow streamId.value.toInt16) fun _ => ()
  | .onTotalBufferedAmountLow => askJava .onTotalBufferedAmountLow fun _ => ()
  | .onSentPacket now payload =>
      askJava (.onSentPacket now.value (toByteArray payload)) fun _ => ()
  | .onReceivedPacket now payload =>
      askJava (.onReceivedPacket now.value (toByteArray payload)) fun _ => ()

def WrapperCall.dialogue (libraries : Libraries) :
    (wrapper : WrapperCall) → AppDialogue wrapper.Answer
  | .callback event => event.dialogue libraries
  | .createTimeout precision =>
      askJava (.createTimeout (DelayPrecisionMembers.map precision)) fun timeout => ⟨timeout⟩
  | .timeMillis => askJava .now fun instant =>
      ⟨libraries.timestampMs (WrappedSocketCallbacks.toTimestamp instant)⟩
  | .now => askJava .now WrappedSocketCallbacks.toTimestamp
  | .getRandomInt low high =>
      askJava (.getRandomInt low.toUInt64.toInt64 high.toUInt64.toInt64)
        fun random => random.toUInt64.toUInt32
  | .timeoutStart timeout duration timeoutId =>
      askJava (.timeoutStart timeout.timeout duration.value.toInt64 timeoutId.value.toInt64)
        fun _ => ()
  | .timeoutStop timeout => askJava (.timeoutStop timeout.timeout) fun _ => ()
  | .timeoutRestart timeout duration timeoutId =>
      .ask (.timeoutStop timeout.timeout) fun _ =>
        askJava (.timeoutStart timeout.timeout duration.value.toInt64
          timeoutId.value.toInt64) fun _ => ()

/-! ## The wrappers play their dialogues -/

section Pieces

variable {α : Type} {held : List Nat} {dialogue : AppDialogue α}

theorem callJava_plays (method : ApplicationCall) :
    Plays held (callJava method) (.ask method .reply) :=
  Plays.call method

theorem passAll_returns (refs : List (LocalRef JObject))
    (owned : ∀ ref ∈ refs, ref.handle ∈ held) : Returns held (passAll refs) () := by
  induction refs with
  | nil => exact Returns.pure ()
  | cons ref rest induction =>
      rcases List.forall_mem_cons.mp owned with ⟨refOwned, restOwned⟩
      exact Returns.bind (Returns.useRef refOwned) (induction restOwned)

theorem fill_returns (ref : LocalRef JObject) (owned : ref.handle ∈ held) :
    Returns held (fill ref) () := by
  have twice : Returns held (do
      let _ ← useRef ref
      let _ ← useRef ref
      return () : Jni Unit) () :=
    Returns.bind (Returns.useRef owned) <|
      Returns.bind (Returns.useRef owned) (Returns.pure ())
  unfold fill
  split
  · exact twice
  · exact twice
  · exact Returns.pure ()

theorem withArguments_plays {method : Jni α} (inner : ∀ held, Plays held method dialogue)
    (arguments : List JObject) (refs : List (LocalRef JObject)) (held : List Nat)
    (owned : ∀ ref ∈ refs, ref.handle ∈ held) :
    Plays held (withArguments method arguments refs) dialogue := by
  induction arguments generalizing refs held with
  | nil => exact Plays.afterSilent (passAll_returns refs owned) (inner held)
  | cons argument rest induction =>
      apply Plays.withLocal
      intro handle
      apply Plays.afterSilent (fill_returns ⟨handle, argument⟩ List.mem_cons_self)
      apply induction
      exact owned_cons owned

theorem invoke_plays (target : WeakTarget) (arguments : List JObject) {method : Jni α}
    (inner : ∀ held, Plays held method dialogue) :
    Plays held (invoke target arguments method) dialogue := by
  apply Plays.ifResolves
  apply Plays.withLocal
  intro handle
  apply withArguments_plays inner
  simp

theorem returnedObject_plays {method : ApplicationCall} (object : method.Reply → JObject)
    (result : method.Reply → α) :
    Plays held (do
      let value ← callJava method
      withLocal (object value) fun ref => do
        let _ ← useRef ref
        return result value) (askJava method result) := by
  apply Plays.bind (callJava_plays method)
  intro value
  apply Plays.withLocal
  intro handle
  exact Plays.afterSilent (Returns.useRef List.mem_cons_self) (Plays.pure _)

theorem answered_plays {β : Type} {program : Jni α} (plays : Plays held program dialogue)
    (result : α → β) :
    Plays held (program >>= fun value => pure (result value))
      (dialogue >>= fun value => .reply (result value)) :=
  Plays.bind plays fun value => Plays.pure (result value)

end Pieces

section Wrappers

variable {held : List Nat}

theorem sendPacketWithStatus_plays (data : List UInt8) :
    Plays held (WrappedSocketCallbacks.sendPacketWithStatus data)
      (askJava (.sendPacketWithStatus (toByteArray data))
        fun status : Java.SendPacketStatus => Native.SendPacketStatus.mk status.nativeStatus) := by
  have method : ∀ held, Plays held (Java.sendPacketWithStatus_ (toByteArray data))
      (askJava (.sendPacketWithStatus (toByteArray data)) Java.SendPacketStatus.nativeStatus) :=
    fun _ => answered_plays (callJava_plays _) _
  exact answered_plays (invoke_plays .socketCallbacks [.bytes (toByteArray data)] method) _

theorem createTimeout_plays (precision : Native.DelayPrecision) :
    Plays held (WrappedSocketCallbacks.createTimeout precision)
      (askJava (.createTimeout (DelayPrecisionMembers.map precision)) id) :=
  invoke_plays _ _ fun _ => returnedObject_plays _ id

theorem now_plays :
    Plays held WrappedSocketCallbacks.now
      (askJava .now WrappedSocketCallbacks.toTimestamp) :=
  invoke_plays _ _ fun _ => returnedObject_plays _ _

theorem CallbackEvent.perform_plays (libraries : Libraries) (event : CallbackEvent) :
    Plays held (event.perform libraries) (event.dialogue libraries) := by
  cases event with
  | sendPacketWithStatus data => exact sendPacketWithStatus_plays data
  | sendPacket data => exact answered_plays (sendPacketWithStatus_plays data) _
  | _ => exact invoke_plays _ _ fun _ => callJava_plays _

theorem WrapperCall.perform_plays (libraries : Libraries) (wrapper : WrapperCall)
    (held : List Nat) :
    Plays held (wrapper.perform libraries) (wrapper.dialogue libraries) := by
  cases wrapper with
  | callback event => exact event.perform_plays libraries
  | createTimeout precision => exact answered_plays (createTimeout_plays precision) _
  | timeMillis => exact answered_plays now_plays _
  | now => exact now_plays
  | getRandomInt low high =>
      have asked : Plays held (invoke .socketCallbacks [] (callJava
          (.getRandomInt low.toUInt64.toInt64 high.toUInt64.toInt64))) (.ask _ .reply) :=
        invoke_plays _ _ fun _ => callJava_plays _
      exact answered_plays asked _
  | timeoutStart timeout duration timeoutId => exact callJava_plays _
  | timeoutStop timeout => exact callJava_plays _
  | timeoutRestart timeout duration timeoutId =>
      exact Plays.bind (callJava_plays _) fun _ => callJava_plays _

end Wrappers

/-! ## What dcsctp is told -/

/-- dcsctp numbers its statuses from zero. -/
def statusDenotes : Java.SendPacketStatus → Native.SendPacketStatus → Prop
  | .kSuccess, status => status.value.toInt = 0
  | .kTemporaryFailure, status => status.value.toInt = 1
  | .kError, status => status.value.toInt = 2

def precisionDenotes : Java.DelayPrecision → Native.DelayPrecision → Prop
  | .kLow, .kLow | .kHigh, .kHigh => True
  | _, _ => False

/-- The application was asked for what dcsctp wants to know, and dcsctp is told what
the application answered. -/
def AnswerDenotes (libraries : Libraries) (reply : (call : ApplicationCall) → call.Reply) :
    (wrapper : WrapperCall) → wrapper.Answer → Prop
  | .callback (.sendPacketWithStatus data), status =>
      ∃ jData, bytesDenote jData data ∧
        statusDenotes (reply (.sendPacketWithStatus jData)) status
  | .createTimeout precision, wrapped =>
      ∃ jPrecision, precisionDenotes jPrecision precision ∧
        wrapped.timeout = reply (.createTimeout jPrecision)
  | .now, micros =>
      (reply .now).Normal → (reply .now).microseconds ∈ MachineNumbers.signedRange 64 →
        micros.toInt = (reply .now).microseconds
  | .timeMillis, time =>
      (reply .now).Normal → (reply .now).microseconds ∈ MachineNumbers.signedRange 64 →
        ∃ micros, micros.toInt = (reply .now).microseconds ∧
          time.value = libraries.timestampMs micros
  | .getRandomInt low high, random =>
      ∃ jLow jHigh : Int64, jLow.toInt = low.toNat ∧ jHigh.toInt = high.toNat ∧
        (jLow ≤ reply (.getRandomInt jLow jHigh) → reply (.getRandomInt jLow jHigh) < jHigh →
          (random.toNat : Int) = (reply (.getRandomInt jLow jHigh)).toInt)
  | _, _ => True

theorem toInt_unsigned (number : UInt32) : number.toUInt64.toInt64.toInt = number.toNat := by
  have bound := number.toNat_lt
  have wide : number.toUInt64.toNat = number.toNat := UInt32.toNat_toUInt64 number
  have signed : (number.toUInt64.toBitVec.toNat : Int) ∈ MachineNumbers.signedRange 64 := by
    constructor
    · omega
    · rw [UInt64.toNat_toBitVec, wide]
      omega
  have same := (MachineNumbers.toInt_eq_toNat_iff (by decide) number.toUInt64.toBitVec).mpr signed
  rw [UInt64.toNat_toBitVec, wide] at same
  exact same

theorem toNat_random {low high : UInt32} {random : Int64}
    (above : low.toUInt64.toInt64 ≤ random) (below : random < high.toUInt64.toInt64) :
    (random.toUInt64.toUInt32.toNat : Int) = random.toInt := by
  rw [Int64.le_iff_toInt_le, toInt_unsigned] at above
  rw [Int64.lt_iff_toInt_lt, toInt_unsigned] at below
  have bound := high.toNat_lt
  rw [UInt64.toNat_toUInt32, toNat_toUInt64, unsignedReading]
  omega

theorem WrapperCall.converse_dialogue (libraries : Libraries)
    (answer : List ApplicationCall → (call : ApplicationCall) → call.Reply)
    (asked : List ApplicationCall) (wrapper : WrapperCall) :
    ((wrapper.dialogue libraries).converse answer asked).2 =
      asked ++ wrapper.applicationCalls libraries := by
  cases wrapper with
  | callback event => cases event <;> rfl
  | timeoutRestart timeout duration timeoutId =>
      exact List.append_assoc asked [_] [_]
  | _ => rfl

theorem WrapperCall.answer_denotes (libraries : Libraries)
    (answer : List ApplicationCall → (call : ApplicationCall) → call.Reply)
    (asked : List ApplicationCall) (wrapper : WrapperCall) :
    AnswerDenotes libraries (answer asked) wrapper
      ((wrapper.dialogue libraries).converse answer asked).1 := by
  cases wrapper with
  | callback event =>
      cases event with
      | sendPacketWithStatus data =>
          refine ⟨toByteArray data, bytesDenote_toByteArray data, ?_⟩
          change statusDenotes (answer asked (.sendPacketWithStatus (toByteArray data)))
            ⟨(answer asked (.sendPacketWithStatus (toByteArray data))).nativeStatus⟩
          cases answer asked (.sendPacketWithStatus (toByteArray data)) <;> rfl
      | _ => trivial
  | createTimeout precision =>
      refine ⟨DelayPrecisionMembers.map precision, ?_, rfl⟩
      cases precision <;> trivial
  | timeMillis =>
      intro normal inRange
      exact ⟨_, (toTimestamp_exact_iff normal).mpr inRange, rfl⟩
  | now =>
      intro normal inRange
      exact (toTimestamp_exact_iff normal).mpr inRange
  | getRandomInt low high =>
      refine ⟨low.toUInt64.toInt64, high.toUInt64.toInt64, toInt_unsigned low,
        toInt_unsigned high, ?_⟩
      intro above below
      exact toNat_random above below
  | timeoutStart _ _ _ => trivial
  | timeoutStop _ => trivial
  | timeoutRestart _ _ _ => trivial

/-- Whatever the application answers, dcsctp is told. The application is asked
nothing else, and the frame keeps its references. -/
theorem answers_relayed (libraries : Libraries) {setting : JniSetting}
    {answer : List ApplicationCall → (call : ApplicationCall) → call.Reply}
    (serves : setting.Serves answer) (env : JniEnv) (wrapper : WrapperCall) :
    ∃ value after, (wrapper.perform libraries).run setting env = (.ok value, after) ∧
      AnswerDenotes libraries (answer env.received) wrapper value ∧
      after.received = env.received ++ wrapper.applicationCalls libraries ∧
      after.table.live = env.table.live := by
  rcases wrapper.perform_plays libraries [] setting answer env serves (by simp) with
    ⟨table, -, ran⟩
  refine ⟨_, _, ran, wrapper.answer_denotes libraries answer env.received,
    wrapper.converse_dialogue libraries answer env.received, ?_⟩
  have noneHeld : ∀ handle ∈ ([] : List Nat), handle ∈ env.table.live := by simp
  have live := (wrapper.run_contract libraries setting env noneHeld).live
  rwa [wrapper.run_eq_perform, ran] at live

theorem compliantSetting_serves : compliantSetting.Serves fun _ => compliantReply where
  resolves _ := rfl
  replies _ _ := rfl

/-- Random numbers that Java has no `int` for. -/
theorem answers_relayed_random :
    ∃ value after, ((WrapperCall.getRandomInt 4294967294 4294967295).perform
        asciiLibraries).run compliantSetting emptyEnv = (.ok value, after) ∧
      AnswerDenotes asciiLibraries compliantReply (.getRandomInt 4294967294 4294967295) value ∧
      after.received = [] ++ (WrapperCall.getRandomInt 4294967294 4294967295).applicationCalls
        asciiLibraries ∧
      after.table.live = [] :=
  answers_relayed asciiLibraries compliantSetting_serves emptyEnv _

end Dcsctp4j
