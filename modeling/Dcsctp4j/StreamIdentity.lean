import Dcsctp4j.NativeStreams
import Dcsctp4j.CallbackDispatch
import Dcsctp4j.OptionsStore
import Dcsctp4j.Foundation.KeyedStore

/-! # Streams keep their identity

Setters, getters, resets and reports, in any order and with any names: each name
stands for one stream of dcsctp throughout.
-/

namespace Dcsctp4j

open NativeFrame NativeFrame.Program Transition

variable {σ : Type}

/-! ## dcsctp's streams as stores -/

namespace StreamSocket

def priorities (dcsctp : StreamSocket σ) :
    KeyedStore σ Native.StreamId Native.StreamPriority where
  read := dcsctp.getStreamPriority
  write := dcsctp.setStreamPriority

def thresholds (dcsctp : StreamSocket σ) : KeyedStore σ Native.StreamId UInt64 where
  read := dcsctp.bufferedAmountLowThreshold
  write := dcsctp.setBufferedAmountLowThreshold

def javaPriorities (dcsctp : StreamSocket σ) : KeyedStore σ Int16 Int16 :=
  dcsctp.priorities.through toStreamId (fun priority => ⟨priority.toUInt16⟩)
    fun priority => priority.value.toInt16

def javaThresholds (dcsctp : StreamSocket σ) : KeyedStore σ Int16 Int64 :=
  dcsctp.thresholds.through toStreamId Int64.toUInt64 UInt64.toInt64

/-- dcsctp keeps a priority and a threshold for each stream; a reset changes
neither, and discards messages of its own streams only. -/
structure KeepsStreams (dcsctp : StreamSocket σ) : Prop where
  priorities : dcsctp.priorities.Lawful
  thresholds : dcsctp.thresholds.Lawful
  setStreamPriority : ∀ socket id priority,
    let after := dcsctp.setStreamPriority socket id priority
    dcsctp.bufferedAmountLowThreshold after = dcsctp.bufferedAmountLowThreshold socket ∧
      dcsctp.bufferedAmount after = dcsctp.bufferedAmount socket
  setBufferedAmountLowThreshold : ∀ socket id bytes,
    let after := dcsctp.setBufferedAmountLowThreshold socket id bytes
    dcsctp.getStreamPriority after = dcsctp.getStreamPriority socket ∧
      dcsctp.bufferedAmount after = dcsctp.bufferedAmount socket
  resetStreams : ∀ socket ids,
    let after := (dcsctp.resetStreams socket ids).2
    dcsctp.getStreamPriority after = dcsctp.getStreamPriority socket ∧
      dcsctp.bufferedAmountLowThreshold after = dcsctp.bufferedAmountLowThreshold socket ∧
      ∀ id, id ∉ ids → dcsctp.bufferedAmount after id = dcsctp.bufferedAmount socket id

section Lawful

variable {dcsctp : StreamSocket σ}

theorem KeepsStreams.javaPriorities (keeps : dcsctp.KeepsStreams) :
    dcsctp.javaPriorities.Lawful :=
  keeps.priorities.through toStreamId_injective Int16.toInt16_toUInt16

theorem KeepsStreams.javaThresholds (keeps : dcsctp.KeepsStreams) :
    dcsctp.javaThresholds.Lawful :=
  keeps.thresholds.through toStreamId_injective Int64.toInt64_toUInt64

end Lawful

end StreamSocket

/-! ## Calls and reports -/

inductive StreamOperation
  | setStreamPriority (streamId streamPriority : Int16)
  | getStreamPriority (streamId : Int16)
  | setBufferedAmountLowThreshold (streamId : Int16) (bytes : Int64)
  | bufferedAmountLowThreshold (streamId : Int16)
  | bufferedAmount (streamId : Int16)
  | resetStreams (outgoingStreams : List Int16)
deriving DecidableEq

inductive StreamAnswer
  | done
  | priority (value : Int16)
  | bytes (value : Int64)
  | status (status : Java.ResetStreamsStatus)
deriving DecidableEq

namespace StreamOperation

def streams : StreamOperation → List Int16
  | setStreamPriority streamId _ | getStreamPriority streamId
  | setBufferedAmountLowThreshold streamId _ | bufferedAmountLowThreshold streamId
  | bufferedAmount streamId => [streamId]
  | resetStreams outgoingStreams => outgoingStreams

def run (dcsctp : StreamSocket σ) (socket : σ) : StreamOperation → Jni (StreamAnswer × σ)
  | setStreamPriority streamId streamPriority => do
      let socket ← NativeSctpSocket.setStreamPriority dcsctp socket streamId streamPriority
      return (.done, socket)
  | getStreamPriority streamId => do
      let priority ← NativeSctpSocket.getStreamPriority dcsctp socket streamId
      return (.priority priority, socket)
  | setBufferedAmountLowThreshold streamId bytes => do
      let socket ← NativeSctpSocket.setBufferedAmountLowThreshold dcsctp socket streamId bytes
      return (.done, socket)
  | bufferedAmountLowThreshold streamId => do
      let bytes ← NativeSctpSocket.bufferedAmountLowThreshold dcsctp socket streamId
      return (.bytes bytes, socket)
  | bufferedAmount streamId => do
      let bytes ← NativeSctpSocket.bufferedAmount dcsctp socket streamId
      return (.bytes bytes, socket)
  | resetStreams outgoingStreams => do
      let (status, socket) ← NativeSctpSocket.resetStreams dcsctp socket
        (outgoingStreams.map some)
      return (.status status, socket)

def result (dcsctp : StreamSocket σ) (socket : σ) : StreamOperation → StreamAnswer × σ
  | setStreamPriority streamId priority =>
      (.done, dcsctp.javaPriorities.write socket streamId priority)
  | getStreamPriority streamId => (.priority (dcsctp.javaPriorities.read socket streamId), socket)
  | setBufferedAmountLowThreshold streamId bytes =>
      (.done, dcsctp.javaThresholds.write socket streamId bytes)
  | bufferedAmountLowThreshold streamId =>
      (.bytes (dcsctp.javaThresholds.read socket streamId), socket)
  | bufferedAmount streamId =>
      (.bytes (dcsctp.bufferedAmount socket (toStreamId streamId)).toInt64, socket)
  | resetStreams streams =>
      let (status, socket) := dcsctp.resetStreams socket (toStreamIds streams)
      (.status (ResetStreamsStatusMembers.map status), socket)

theorem run_result (operation : StreamOperation) (dcsctp : StreamSocket σ) (socket : σ)
    (setting : JniSetting) (env : JniEnv) :
    (operation.run dcsctp socket).run setting env =
      (.ok (operation.result dcsctp socket), env) := by
  cases operation with
  | resetStreams streams =>
      rw [run, run_bind_ok (resetStreams_run dcsctp socket streams setting env)]
      rfl
  | _ => rfl

theorem result_of_run {operation : StreamOperation} {dcsctp : StreamSocket σ} {socket after : σ}
    {answer : StreamAnswer} {setting : JniSetting} {env left : JniEnv}
    (ran : (operation.run dcsctp socket).run setting env = (.ok (answer, after), left)) :
    (operation.result dcsctp socket).2 = after := by
  rw [run_result] at ran
  have answered : operation.result dcsctp socket = (answer, after) :=
    Except.ok.inj (congrArg Prod.fst ran)
  rw [answered]

end StreamOperation

/-- A call of the application's, a reset whose list does not unbox, or an event
that dcsctp reports. -/
inductive StreamEvent
  | call (operation : StreamOperation) (answer : StreamAnswer)
  | refused (outgoingStreams : List (Option Int16))
  | report (event : CallbackEvent)
deriving DecidableEq

namespace StreamEvent

def priorityWrite : StreamEvent → Option (Int16 × Int16)
  | call (.setStreamPriority streamId priority) _ => some (streamId, priority)
  | _ => none

def thresholdWrite : StreamEvent → Option (Int16 × Int64)
  | call (.setBufferedAmountLowThreshold streamId bytes) _ => some (streamId, bytes)
  | _ => none

end StreamEvent

structure StreamSession (σ : Type) where
  socket : σ
  env : JniEnv

/-- A refused reset ends in `unboxList`, before the native method. Between the
calls dcsctp reports what it likes; amounts may have changed by then, what was
set has not. -/
inductive StreamStep (libraries : Libraries) (dcsctp : StreamSocket σ) (setting : JniSetting) :
    StreamSession σ → StreamEvent → StreamSession σ → Prop
  | call {first last : StreamSession σ} {operation : StreamOperation} {answer : StreamAnswer}
      (ran : (operation.run dcsctp first.socket).run setting first.env =
        (.ok (answer, last.socket), last.env)) :
      StreamStep libraries dcsctp setting first (.call operation answer) last
  | refused {first : StreamSession σ} {outgoingStreams : List (Option Int16)}
      {fault : Fault Throwable} {env : JniEnv}
      (ran : (NativeSctpSocket.unboxList outgoingStreams).run setting first.env =
        (.error fault, env)) :
      StreamStep libraries dcsctp setting first (.refused outgoingStreams) ⟨first.socket, env⟩
  | report {first last : StreamSession σ} {event : CallbackEvent}
      (ran : ((event.run libraries).run setting first.env).2 = last.env)
      (priorities : dcsctp.getStreamPriority last.socket =
        dcsctp.getStreamPriority first.socket)
      (thresholds : dcsctp.bufferedAmountLowThreshold last.socket =
        dcsctp.bufferedAmountLowThreshold first.socket) :
      StreamStep libraries dcsctp setting first (.report event) last

def streamApi (libraries : Libraries) (dcsctp : StreamSocket σ) (options : Native.DcSctpOptions)
    (setting : JniSetting) : System (StreamSession σ) StreamEvent where
  initial session := ∀ id,
    dcsctp.getStreamPriority session.socket id = options.defaultStreamPriority ∧
      dcsctp.bufferedAmountLowThreshold session.socket id = 0
  step := StreamStep libraries dcsctp setting

/-! ## What a step leaves -/

section Step

variable {libraries : Libraries} {dcsctp : StreamSocket σ} {setting : JniSetting}
  {first last : StreamSession σ} {event : StreamEvent} {socket after : σ}

theorem javaPriorities_congr
    (same : dcsctp.getStreamPriority after = dcsctp.getStreamPriority socket) :
    dcsctp.javaPriorities.read after = dcsctp.javaPriorities.read socket := by
  funext stream
  exact congrArg (fun read => (read (toStreamId stream)).value.toInt16) same

theorem javaThresholds_congr
    (same : dcsctp.bufferedAmountLowThreshold after =
      dcsctp.bufferedAmountLowThreshold socket) :
    dcsctp.javaThresholds.read after = dcsctp.javaThresholds.read socket := by
  funext stream
  exact congrArg (fun read => (read (toStreamId stream)).toInt64) same

theorem result_priorities (keeps : dcsctp.KeepsStreams) (operation : StreamOperation)
    (answer : StreamAnswer) (socket : σ) :
    dcsctp.javaPriorities.read (operation.result dcsctp socket).2 =
      KeyedStore.applyWrite (StreamEvent.call operation answer).priorityWrite
        (dcsctp.javaPriorities.read socket) := by
  cases operation with
  | setStreamPriority streamId priority => exact keeps.javaPriorities socket streamId priority
  | setBufferedAmountLowThreshold streamId bytes =>
      exact javaPriorities_congr (keeps.setBufferedAmountLowThreshold socket _ _).1
  | resetStreams streams => exact javaPriorities_congr (keeps.resetStreams socket _).1
  | getStreamPriority _ | bufferedAmountLowThreshold _ | bufferedAmount _ => rfl

theorem result_thresholds (keeps : dcsctp.KeepsStreams) (operation : StreamOperation)
    (answer : StreamAnswer) (socket : σ) :
    dcsctp.javaThresholds.read (operation.result dcsctp socket).2 =
      KeyedStore.applyWrite (StreamEvent.call operation answer).thresholdWrite
        (dcsctp.javaThresholds.read socket) := by
  cases operation with
  | setStreamPriority streamId priority =>
      exact javaThresholds_congr (keeps.setStreamPriority socket _ _).1
  | setBufferedAmountLowThreshold streamId bytes =>
      exact keeps.javaThresholds socket streamId bytes
  | resetStreams streams => exact javaThresholds_congr (keeps.resetStreams socket _).2.1
  | getStreamPriority _ | bufferedAmountLowThreshold _ | bufferedAmount _ => rfl

theorem result_amounts (keeps : dcsctp.KeepsStreams) (operation : StreamOperation) (socket : σ)
    {stream : Int16} (apart : stream ∉ operation.streams) :
    dcsctp.bufferedAmount (operation.result dcsctp socket).2 (toStreamId stream) =
      dcsctp.bufferedAmount socket (toStreamId stream) := by
  cases operation with
  | setStreamPriority streamId priority =>
      exact congrFun (keeps.setStreamPriority socket _ _).2 _
  | setBufferedAmountLowThreshold streamId bytes =>
      exact congrFun (keeps.setBufferedAmountLowThreshold socket _ _).2 _
  | resetStreams streams =>
      apply (keeps.resetStreams socket _).2.2
      intro member
      exact apart ((List.mem_map_of_injective toStreamId_injective).mp member)
  | getStreamPriority _ | bufferedAmountLowThreshold _ | bufferedAmount _ => rfl

theorem priorityWrite_ne {operation : StreamOperation} {stream : Int16}
    (apart : stream ∉ operation.streams) (answer : StreamAnswer) (priority : Int16) :
    (StreamEvent.call operation answer).priorityWrite ≠ some (stream, priority) := by
  intro writes
  cases operation <;> cases writes
  exact apart List.mem_cons_self

theorem thresholdWrite_ne {operation : StreamOperation} {stream : Int16}
    (apart : stream ∉ operation.streams) (answer : StreamAnswer) (bytes : Int64) :
    (StreamEvent.call operation answer).thresholdWrite ≠ some (stream, bytes) := by
  intro writes
  cases operation <;> cases writes
  exact apart List.mem_cons_self

theorem StreamStep.priorities (keeps : dcsctp.KeepsStreams)
    (step : StreamStep libraries dcsctp setting first event last) :
    dcsctp.javaPriorities.read last.socket =
      KeyedStore.applyWrite event.priorityWrite (dcsctp.javaPriorities.read first.socket) := by
  cases step with
  | @call _ operation answer ran =>
      rw [← StreamOperation.result_of_run ran]
      exact result_priorities keeps operation answer first.socket
  | refused ran => rfl
  | report ran priorities thresholds => exact javaPriorities_congr priorities

theorem StreamStep.thresholds (keeps : dcsctp.KeepsStreams)
    (step : StreamStep libraries dcsctp setting first event last) :
    dcsctp.javaThresholds.read last.socket =
      KeyedStore.applyWrite event.thresholdWrite (dcsctp.javaThresholds.read first.socket) := by
  cases step with
  | @call _ operation answer ran =>
      rw [← StreamOperation.result_of_run ran]
      exact result_thresholds keeps operation answer first.socket
  | refused ran => rfl
  | report ran priorities thresholds => exact javaThresholds_congr thresholds

end Step

/-! ## Streams keep their identity -/

structure SameStream (dcsctp : StreamSocket σ) (socket after : σ) (stream : Int16)
    (setting : JniSetting) (env : JniEnv) : Prop where
  priority : (NativeSctpSocket.getStreamPriority dcsctp after stream).run setting env =
    (NativeSctpSocket.getStreamPriority dcsctp socket stream).run setting env
  threshold :
    (NativeSctpSocket.bufferedAmountLowThreshold dcsctp after stream).run setting env =
      (NativeSctpSocket.bufferedAmountLowThreshold dcsctp socket stream).run setting env
  amount : (NativeSctpSocket.bufferedAmount dcsctp after stream).run setting env =
    (NativeSctpSocket.bufferedAmount dcsctp socket stream).run setting env

/-- Every method that takes one stream asks dcsctp about the same one. -/
structure NamesStream (dcsctp : StreamSocket σ) (setting : JniSetting)
    (session : StreamSession σ) (stream : Int16) (id : Native.StreamId) : Prop where
  setStreamPriority : ∀ priority,
    (NativeSctpSocket.setStreamPriority dcsctp session.socket stream priority).run setting
        session.env =
      (.ok (dcsctp.setStreamPriority session.socket id ⟨priority.toUInt16⟩), session.env)
  getStreamPriority :
    (NativeSctpSocket.getStreamPriority dcsctp session.socket stream).run setting session.env =
      (.ok (dcsctp.getStreamPriority session.socket id).value.toInt16, session.env)
  setBufferedAmountLowThreshold : ∀ bytes,
    (NativeSctpSocket.setBufferedAmountLowThreshold dcsctp session.socket stream bytes).run
        setting session.env =
      (.ok (dcsctp.setBufferedAmountLowThreshold session.socket id bytes.toUInt64), session.env)
  bufferedAmountLowThreshold :
    (NativeSctpSocket.bufferedAmountLowThreshold dcsctp session.socket stream).run setting
        session.env =
      (.ok (dcsctp.bufferedAmountLowThreshold session.socket id).toInt64, session.env)
  bufferedAmount :
    (NativeSctpSocket.bufferedAmount dcsctp session.socket stream).run setting session.env =
      (.ok (dcsctp.bufferedAmount session.socket id).toInt64, session.env)

/-- Each `short` stands for one stream, after the given history. -/
structure StreamsIdentified (libraries : Libraries) (dcsctp : StreamSocket σ)
    (options : Native.DcSctpOptions) (setting : JniSetting) (session : StreamSession σ)
    (history : List StreamEvent) : Prop where
  /-- Getters return what was set last under the same name, or the default. -/
  getStreamPriority : ∀ stream,
    (NativeSctpSocket.getStreamPriority dcsctp session.socket stream).run setting session.env =
      (.ok (KeyedStore.lastWritten StreamEvent.priorityWrite
        (fun _ => DcSctpOptions.getDefaultStreamPriority options) history stream), session.env)
  bufferedAmountLowThreshold : ∀ stream,
    (NativeSctpSocket.bufferedAmountLowThreshold dcsctp session.socket stream).run setting
        session.env =
      (.ok (KeyedStore.lastWritten StreamEvent.thresholdWrite (fun _ => 0) history stream),
        session.env)
  /-- It is the stream with the number that the `short` has without a sign. -/
  named : ∀ stream : Int16, ∃ id, unsignedReading 16 stream.toInt = id.value.toNat ∧
    NamesStream dcsctp setting session stream id
  /-- Every call returns and leaves the other streams alone. -/
  apart : ∀ operation : StreamOperation, ∃ answer after,
    (operation.run dcsctp session.socket).run setting session.env =
        (.ok (answer, after), session.env) ∧
      ∀ stream, stream ∉ operation.streams →
        SameStream dcsctp session.socket after stream setting session.env
  resetStreams : ∀ streams : List Int16, ∃ ids, streamsDenote streams ids ∧
    (NativeSctpSocket.resetStreams dcsctp session.socket (streams.map some)).run setting
        session.env =
      (.ok (ResetStreamsStatusMembers.map (dcsctp.resetStreams session.socket ids).1,
        (dcsctp.resetStreams session.socket ids).2), session.env)
  /-- A list with null in it names no streams, and none are passed. -/
  refused : ∀ outgoingStreams : List (Option Int16), none ∈ outgoingStreams →
    (NativeSctpSocket.resetStreams dcsctp session.socket outgoingStreams).run setting
        session.env =
      (.error (.managedException ⟨"java.lang.NullPointerException", ""⟩), session.env)
  /-- While the application is there, reports reach it under the names it used. -/
  onStreamsReset : setting.resolves .socketCallbacks = true →
    ∀ (streams : List Int16) (ids : List Native.StreamId), streamsDenote streams ids →
      ((WrappedSocketCallbacks.onStreamsResetPerformed ids).run setting
          session.env).2.received =
        session.env.received ++ [.onStreamsResetPerformed streams] ∧
      ∀ reason, ∃ jReason,
        ((WrappedSocketCallbacks.onStreamsResetFailed libraries ids reason).run setting
            session.env).2.received =
          session.env.received ++ [.onStreamsResetFailed streams jReason]
  onBufferedAmountLow : setting.resolves .socketCallbacks = true →
    ∀ (stream : Int16) (id : Native.StreamId), unsignedReading 16 stream.toInt = id.value.toNat →
      ((WrappedSocketCallbacks.onBufferedAmountLow id).run setting session.env).2.received =
        session.env.received ++ [.onBufferedAmountLow stream]

section Identity

variable {libraries : Libraries} {dcsctp : StreamSocket σ} {options : Native.DcSctpOptions}
  {setting : JniSetting}

theorem result_sameStream (keeps : dcsctp.KeepsStreams) (operation : StreamOperation)
    (socket : σ) {stream : Int16} (apart : stream ∉ operation.streams) (env : JniEnv) :
    SameStream dcsctp socket (operation.result dcsctp socket).2 stream setting env := by
  have priority := congrFun (result_priorities keeps operation .done socket) stream
  rw [KeyedStore.applyWrite_of_ne (priorityWrite_ne apart .done)] at priority
  have threshold := congrFun (result_thresholds keeps operation .done socket) stream
  rw [KeyedStore.applyWrite_of_ne (thresholdWrite_ne apart .done)] at threshold
  have amount := result_amounts keeps operation socket apart
  exact
    { priority := congrArg (fun priority => (Except.ok priority, env)) priority
      threshold := congrArg (fun bytes => (Except.ok bytes, env)) threshold
      amount := congrArg (fun bytes : UInt64 => (Except.ok bytes.toInt64, env)) amount }

theorem names_toStreamId (dcsctp : StreamSocket σ) (setting : JniSetting)
    (session : StreamSession σ) (stream : Int16) :
    NamesStream dcsctp setting session stream (toStreamId stream) where
  setStreamPriority _ := rfl
  getStreamPriority := rfl
  setBufferedAmountLowThreshold _ := rfl
  bufferedAmountLowThreshold := rfl
  bufferedAmount := rfl

/-- After any sequence of calls and reports the streams are the ones named. -/
theorem streams_identified (keeps : dcsctp.KeepsStreams) {first last : StreamSession σ}
    {events : List StreamEvent}
    (initial : (streamApi libraries dcsctp options setting).initial first)
    (run : (streamApi libraries dcsctp options setting).Run first events last) :
    StreamsIdentified libraries dcsctp options setting last events.reverse := by
  have priorities : dcsctp.javaPriorities.read last.socket =
      KeyedStore.lastWritten StreamEvent.priorityWrite
        (fun _ => DcSctpOptions.getDefaultStreamPriority options) events.reverse := by
    have start : dcsctp.javaPriorities.read first.socket =
        fun _ => DcSctpOptions.getDefaultStreamPriority options := by
      funext stream
      exact congrArg (fun priority => priority.value.toInt16) (initial (toStreamId stream)).1
    rw [← start]
    exact KeyedStore.read_run (fun session => dcsctp.javaPriorities.read session.socket)
      (fun _ _ _ step => StreamStep.priorities keeps step) run
  have thresholds : dcsctp.javaThresholds.read last.socket =
      KeyedStore.lastWritten StreamEvent.thresholdWrite (fun _ => 0) events.reverse := by
    have start : dcsctp.javaThresholds.read first.socket = fun _ => 0 := by
      funext stream
      exact congrArg UInt64.toInt64 (initial (toStreamId stream)).2
    rw [← start]
    exact KeyedStore.read_run (fun session => dcsctp.javaThresholds.read session.socket)
      (fun _ _ _ step => StreamStep.thresholds keeps step) run
  exact
    { getStreamPriority := fun stream =>
        congrArg (fun priority => (Except.ok priority, last.env)) (congrFun priorities stream)
      bufferedAmountLowThreshold := fun stream =>
        congrArg (fun bytes => (Except.ok bytes, last.env)) (congrFun thresholds stream)
      named := fun stream => ⟨toStreamId stream, (toNat_toUInt16 stream).symm,
        names_toStreamId dcsctp setting last stream⟩
      apart := fun operation => ⟨_, _, operation.run_result dcsctp last.socket setting last.env,
        fun _ apart => result_sameStream keeps operation last.socket apart last.env⟩
      resetStreams := fun streams => ⟨_, streamsDenote_toStreamIds streams,
        resetStreams_run dcsctp last.socket streams setting last.env⟩
      refused := fun _ missing =>
        resetStreams_null missing dcsctp last.socket setting last.env
      onStreamsReset := by
        intro resolves streams ids denotes
        have shorts : toShortArray ids = streams := by
          rw [streamsDenote_unique denotes, toShortArray_toStreamIds]
        rw [← shorts]
        exact ⟨invoke_received resolves _ _ last.env,
          fun _ => ⟨_, invoke_received resolves _ _ last.env⟩⟩
      onBufferedAmountLow := by
        intro resolves stream id denotes
        rw [denoted_unique denotes]
        have received := invoke_received resolves []
          (.onBufferedAmountLow (toStreamId stream).value.toInt16) last.env
        rwa [toInt16_toStreamId] at received }

end Identity

/-- A socket whose streams are three tables; a reset empties the queues. -/
structure StreamTables where
  priorities : Native.StreamId → Native.StreamPriority
  thresholds : Native.StreamId → UInt64
  amounts : Native.StreamId → UInt64

def storingSocket : StreamSocket StreamTables where
  setStreamPriority tables id priority :=
    { tables with priorities := Function.update tables.priorities id priority }
  getStreamPriority := StreamTables.priorities
  setBufferedAmountLowThreshold tables id bytes :=
    { tables with thresholds := Function.update tables.thresholds id bytes }
  bufferedAmountLowThreshold := StreamTables.thresholds
  bufferedAmount := StreamTables.amounts
  resetStreams tables ids :=
    (.kPerformed, { tables with amounts := fun id => if id ∈ ids then 0 else tables.amounts id })

theorem storingSocket_keeps : storingSocket.KeepsStreams where
  priorities _ _ _ := rfl
  thresholds _ _ _ := rfl
  setStreamPriority _ _ _ := ⟨rfl, rfl⟩
  setBufferedAmountLowThreshold _ _ _ := ⟨rfl, rfl⟩
  resetStreams _ _ := ⟨rfl, rfl, fun _ outside => if_neg outside⟩

def freshStreams : StreamSession StreamTables where
  socket := ⟨fun _ => ⟨256⟩, fun _ => 0, fun id => if id.value = 65535 then 900 else 0⟩
  env := emptyEnv

def prioritizedStreams : StreamSession StreamTables where
  socket := storingSocket.setStreamPriority freshStreams.socket ⟨65535⟩ ⟨7⟩
  env := emptyEnv

/-- The stream of that name is the one with the priority and with the message. -/
theorem streams_identified_prioritized :
    StreamsIdentified asciiLibraries storingSocket sampleOptions compliantSetting
        prioritizedStreams [.call (.setStreamPriority (-1) 7) .done] ∧
      (NativeSctpSocket.getStreamPriority storingSocket prioritizedStreams.socket (-1)).run
        compliantSetting emptyEnv = (.ok 7, emptyEnv) ∧
      (NativeSctpSocket.bufferedAmount storingSocket prioritizedStreams.socket (-1)).run
        compliantSetting emptyEnv = (.ok 900, emptyEnv) ∧
      (NativeSctpSocket.bufferedAmount storingSocket prioritizedStreams.socket 1).run
        compliantSetting emptyEnv = (.ok 0, emptyEnv) := by
  have step : (streamApi asciiLibraries storingSocket sampleOptions compliantSetting).step
      freshStreams (.call (.setStreamPriority (-1) 7) .done) prioritizedStreams := .call rfl
  exact ⟨streams_identified storingSocket_keeps (fun _ => ⟨rfl, rfl⟩) (.cons step (.nil _)),
    rfl, rfl, rfl⟩

end Dcsctp4j
