import Dcsctp4j.WrappedObjects

/-! # Calls that dcsctp makes

Every way in which dcsctp enters the wrappers, what a wrapper run by it needs,
and which methods of the application it calls.
-/

namespace Dcsctp4j

open NativeFrame NativeFrame.Program

/-! ## Events and calls -/

/-- What dcsctp reports, as opposed to what it asks for. -/
inductive CallbackEvent
  | sendPacket (data : List UInt8)
  | sendPacketWithStatus (data : List UInt8)
  | onMessageReceived (message : Native.DcSctpMessage)
  | onError (error : Native.ErrorKind) (message : NativeText)
  | onAborted (error : Native.ErrorKind) (message : NativeText)
  | onConnected
  | onClosed
  | onConnectionRestarted
  | onStreamsResetFailed (outgoingStreams : List Native.StreamId) (reason : NativeText)
  | onStreamsResetPerformed (outgoingStreams : List Native.StreamId)
  | onIncomingStreamsReset (incomingStreams : List Native.StreamId)
  | onBufferedAmountLow (streamId : Native.StreamId)
  | onTotalBufferedAmountLow
  | onSentPacket (now : Native.TimeMs) (payload : List UInt8)
  | onReceivedPacket (now : Native.TimeMs) (payload : List UInt8)
deriving DecidableEq

/-- Every virtual method of the wrappers. -/
inductive WrapperCall
  | callback (event : CallbackEvent)
  | createTimeout (precision : Native.DelayPrecision)
  | timeMillis
  | now
  | getRandomInt (low high : UInt32)
  | timeoutStart (timeout : WrappedTimeout) (duration : Native.DurationMs)
      (timeoutId : Native.TimeoutId)
  | timeoutStop (timeout : WrappedTimeout)
  | timeoutRestart (timeout : WrappedTimeout) (duration : Native.DurationMs)
      (timeoutId : Native.TimeoutId)
deriving DecidableEq

namespace CallbackEvent

def run (libraries : Libraries) : CallbackEvent → Jni Unit
  | sendPacket data => WrappedSocketCallbacks.sendPacket data
  | sendPacketWithStatus data => do
      let _ ← WrappedSocketCallbacks.sendPacketWithStatus data
      return ()
  | onMessageReceived message => WrappedSocketCallbacks.onMessageReceived message
  | onError error message => WrappedSocketCallbacks.onError libraries error message
  | onAborted error message => WrappedSocketCallbacks.onAborted libraries error message
  | onConnected => WrappedSocketCallbacks.onConnected
  | onClosed => WrappedSocketCallbacks.onClosed
  | onConnectionRestarted => WrappedSocketCallbacks.onConnectionRestarted
  | onStreamsResetFailed streams reason =>
      WrappedSocketCallbacks.onStreamsResetFailed libraries streams reason
  | onStreamsResetPerformed streams =>
      WrappedSocketCallbacks.onStreamsResetPerformed streams
  | onIncomingStreamsReset streams =>
      WrappedSocketCallbacks.onIncomingStreamsReset streams
  | onBufferedAmountLow streamId => WrappedSocketCallbacks.onBufferedAmountLow streamId
  | onTotalBufferedAmountLow => WrappedSocketCallbacks.onTotalBufferedAmountLow
  | onSentPacket now payload => WrappedPacketObserver.onSentPacket now payload
  | onReceivedPacket now payload => WrappedPacketObserver.onReceivedPacket now payload

def target : CallbackEvent → WeakTarget
  | onSentPacket _ _ | onReceivedPacket _ _ => .packetObserver
  | _ => .socketCallbacks

def applicationCall (libraries : Libraries) : CallbackEvent → ApplicationCall
  | sendPacket data | sendPacketWithStatus data =>
      .sendPacketWithStatus (toByteArray data)
  | onMessageReceived message =>
      .onMessageReceived
        { streamId := message.streamId.value.toInt16
          ppid := message.ppid.value.toInt32
          payload := toByteArray message.payload }
  | onError error message =>
      .onError (ErrorKindMembers.map error) (libraries.javaStringCreate message)
  | onAborted error message =>
      .onAborted (ErrorKindMembers.map error) (libraries.javaStringCreate message)
  | onConnected => .onConnected
  | onClosed => .onClosed
  | onConnectionRestarted => .onConnectionRestarted
  | onStreamsResetFailed streams reason =>
      .onStreamsResetFailed (toShortArray streams) (libraries.javaStringCreate reason)
  | onStreamsResetPerformed streams | onIncomingStreamsReset streams =>
      .onStreamsResetPerformed (toShortArray streams)
  | onBufferedAmountLow streamId => .onBufferedAmountLow streamId.value.toInt16
  | onTotalBufferedAmountLow => .onTotalBufferedAmountLow
  | onSentPacket now payload => .onSentPacket now.value (toByteArray payload)
  | onReceivedPacket now payload => .onReceivedPacket now.value (toByteArray payload)

end CallbackEvent

namespace WrapperCall

def run (libraries : Libraries) : WrapperCall → Jni Unit
  | callback event => event.run libraries
  | createTimeout precision => do
      let _ ← WrappedSocketCallbacks.createTimeout precision
      return ()
  | timeMillis => do
      let _ ← WrappedSocketCallbacks.timeMillis libraries
      return ()
  | now => do
      let _ ← WrappedSocketCallbacks.now
      return ()
  | getRandomInt low high => do
      let _ ← WrappedSocketCallbacks.getRandomInt low high
      return ()
  | timeoutStart timeout duration timeoutId => timeout.start duration timeoutId
  | timeoutStop timeout => timeout.stop
  | timeoutRestart timeout duration timeoutId => timeout.restart duration timeoutId

def weaks : WrapperCall → List WeakTarget
  | callback event => [event.target]
  | createTimeout _ | timeMillis | now | getRandomInt _ _ => [.socketCallbacks]
  | timeoutStart _ _ _ | timeoutStop _ | timeoutRestart _ _ _ => []

def applicationCalls (libraries : Libraries) : WrapperCall → List ApplicationCall
  | callback event => [event.applicationCall libraries]
  | createTimeout precision => [.createTimeout (DelayPrecisionMembers.map precision)]
  | timeMillis | now => [.now]
  | getRandomInt low high =>
      [.getRandomInt low.toUInt64.toInt64 high.toUInt64.toInt64]
  | timeoutStart timeout duration timeoutId =>
      [.timeoutStart timeout.timeout duration.value.toInt64 timeoutId.value.toInt64]
  | timeoutStop timeout => [.timeoutStop timeout.timeout]
  | timeoutRestart timeout duration timeoutId =>
      [.timeoutStop timeout.timeout,
        .timeoutStart timeout.timeout duration.value.toInt64 timeoutId.value.toInt64]

end WrapperCall

/-! ## Contracts of the shared pieces -/

section Pieces

variable {α : Type} {held : List Nat}

theorem callJava_contract (method : ApplicationCall) :
    Contract held (callJava method) [] [method] :=
  Contract.call method

/-- The text and the exception object are gone when the exception leaves. -/
theorem throwNew_run (text : String) (setting : JniSetting) (env : JniEnv) :
    ((throwNew text : Jni α).run setting env).2.table.live = env.table.live ∧
      ((throwNew text : Jni α).run setting env).2.staleUses = env.staleUses ∧
      ((throwNew text : Jni α).run setting env).1 =
        .error (.managedException ⟨"java.lang.Throwable", text⟩) := by
  simp [throwNew, run_bind, withLocal, owning, acquire, useRef, throwException]

theorem withObj_contract (target : WeakTarget) {body : LocalRef JObject → Jni α}
    {calls : List ApplicationCall}
    (inner : ∀ handle, Contract (handle :: held)
      (body ⟨handle, .weakTarget target⟩) [] calls) :
    Contract held (target.withObj body) [target] calls := by
  apply Contract.ifResolves
  · exact Contract.withLocal _ inner
  · intro setting env _
    rcases @throwNew_run α target.clearedText setting env with ⟨live, staleUses, raised⟩
    exact ⟨live, staleUses, _, raised⟩

theorem fill_contract (ref : LocalRef JObject) (owned : ref.handle ∈ held) :
    Contract held (fill ref) [] [] := by
  have twice : Contract held (do
      let _ ← useRef ref
      let _ ← useRef ref
      return () : Jni Unit) [] [] :=
    Contract.afterSilent (Contract.useRef owned) fun _ =>
      Contract.afterSilent (Contract.useRef owned) fun _ => Contract.pure ()
  unfold fill
  split
  · exact twice
  · exact twice
  · exact Contract.pure ()

theorem passAll_contract (refs : List (LocalRef JObject))
    (owned : ∀ ref ∈ refs, ref.handle ∈ held) : Contract held (passAll refs) [] [] := by
  induction refs with
  | nil => exact Contract.pure ()
  | cons ref rest induction =>
      rcases List.forall_mem_cons.mp owned with ⟨refOwned, restOwned⟩
      apply Contract.afterSilent (Contract.useRef refOwned)
      intro _
      exact induction restOwned

theorem owned_cons {refs : List (LocalRef JObject)} {ref : LocalRef JObject}
    (owned : ∀ ref ∈ refs, ref.handle ∈ held) :
    ∀ other ∈ ref :: refs, other.handle ∈ ref.handle :: held := by
  intro other member
  rcases List.mem_cons.mp member with equal | member
  · simp [equal]
  · exact List.mem_cons_of_mem _ (owned other member)

theorem withArguments_contract {method : Jni α} {calls : List ApplicationCall}
    (inner : ∀ held, Contract held method [] calls) (arguments : List JObject)
    (refs : List (LocalRef JObject)) (held : List Nat)
    (owned : ∀ ref ∈ refs, ref.handle ∈ held) :
    Contract held (withArguments method arguments refs) [] calls := by
  induction arguments generalizing refs held with
  | nil =>
      apply Contract.afterSilent (passAll_contract refs owned)
      intro _
      exact inner held
  | cons argument rest induction =>
      apply Contract.withLocal
      intro handle
      apply Contract.afterSilent (fill_contract ⟨handle, argument⟩ List.mem_cons_self)
      intro _
      apply induction
      exact owned_cons owned

theorem invoke_contract (target : WeakTarget) (arguments : List JObject)
    {method : Jni α} {calls : List ApplicationCall}
    (inner : ∀ held, Contract held method [] calls) :
    Contract held (invoke target arguments method) [target] calls := by
  apply withObj_contract
  intro handle
  apply withArguments_contract inner
  simp

end Pieces

/-! ## What reaches the application -/

section Reaching

theorem withArguments_makes {α : Type} {method : Jni α} {calls : List ApplicationCall}
    (inner : ∀ held, Makes held method calls) (arguments : List JObject)
    (refs : List (LocalRef JObject)) (held : List Nat)
    (owned : ∀ ref ∈ refs, ref.handle ∈ held) :
    Makes held (withArguments method arguments refs) calls := by
  induction arguments generalizing refs held with
  | nil =>
      apply Makes.afterSilent (passAll_contract refs owned)
      intro _
      exact inner held
  | cons argument rest induction =>
      apply Makes.withLocal
      intro handle
      apply Makes.afterSilent (fill_contract ⟨handle, argument⟩ List.mem_cons_self)
      intro _
      apply induction
      exact owned_cons owned

theorem invoke_received {setting : JniSetting} {target : WeakTarget}
    (resolves : setting.resolves target = true) (arguments : List JObject)
    (method : ApplicationCall) (env : JniEnv) :
    ((invoke target arguments (callJava method)).run setting env).2.received =
      env.received ++ [method] := by
  have makes : Makes [] (withLocal (.weakTarget target) fun object =>
      withArguments (callJava method) arguments [object]) [method] := by
    apply Makes.withLocal
    intro handle
    exact withArguments_makes (fun _ => Makes.call method) arguments _ _ (by simp)
  have runs : (invoke target arguments (callJava method)).run setting env =
      (withLocal (.weakTarget target) fun object =>
        withArguments (callJava method) arguments [object]).run setting env := by
    rw [invoke, WeakTarget.withObj, run_bind, resolves_run, resolves]
    rfl
  rw [runs]
  exact makes setting env (by simp)

end Reaching

/-! ## Contracts of the wrappers -/

section Wrappers

variable {held : List Nat}

theorem sendPacketWithStatus_contract (data : List UInt8) :
    Contract held (WrappedSocketCallbacks.sendPacketWithStatus data)
      [.socketCallbacks] [.sendPacketWithStatus (toByteArray data)] := by
  apply Contract.map
  apply invoke_contract
  intro held
  exact Contract.map (callJava_contract _) _

theorem returnedObject_contract {method : ApplicationCall} {β : Type}
    (object : method.Reply → JObject) (result : method.Reply → β) :
    Contract held (do
      let value ← callJava method
      withLocal (object value) fun ref => do
        let _ ← useRef ref
        return result value) [] [method] := by
  have scope : ∀ value : method.Reply, Contract held
      (withLocal (object value) fun ref => (do
        let _ ← useRef ref
        return result value : Jni β)) [] [] := by
    intro value
    apply Contract.withLocal
    intro handle
    apply Contract.map
    apply Contract.useRef
    exact List.mem_cons_self
  simpa using Contract.bind (callJava_contract method) scope

theorem createTimeout_contract (precision : Native.DelayPrecision) :
    Contract held (WrappedSocketCallbacks.createTimeout precision)
      [.socketCallbacks] [.createTimeout (DelayPrecisionMembers.map precision)] := by
  apply invoke_contract
  intro held
  exact returnedObject_contract _ _

theorem now_contract :
    Contract held WrappedSocketCallbacks.now [.socketCallbacks] [.now] := by
  apply invoke_contract
  intro held
  exact returnedObject_contract _ _

theorem CallbackEvent.run_contract (libraries : Libraries) (event : CallbackEvent) :
    Contract held (event.run libraries) [event.target]
      [event.applicationCall libraries] := by
  cases event with
  | sendPacket data => exact Contract.map (sendPacketWithStatus_contract data) _
  | sendPacketWithStatus data => exact Contract.map (sendPacketWithStatus_contract data) _
  | _ => exact invoke_contract _ _ fun _ => callJava_contract _

theorem WrapperCall.run_contract (libraries : Libraries) (wrapper : WrapperCall) :
    Contract held (wrapper.run libraries) wrapper.weaks
      (wrapper.applicationCalls libraries) := by
  cases wrapper with
  | callback event => exact event.run_contract libraries
  | createTimeout precision => exact Contract.map (createTimeout_contract precision) _
  | timeMillis => exact Contract.map (Contract.map now_contract _) _
  | now => exact Contract.map now_contract _
  | getRandomInt low high =>
      apply Contract.map
      apply Contract.map
      exact invoke_contract _ _ fun _ => callJava_contract _
  | timeoutStart timeout duration timeoutId => exact callJava_contract _
  | timeoutStop timeout => exact callJava_contract _
  | timeoutRestart timeout duration timeoutId =>
      exact Contract.bind (callJava_contract _) fun _ => callJava_contract _

end Wrappers

end Dcsctp4j
