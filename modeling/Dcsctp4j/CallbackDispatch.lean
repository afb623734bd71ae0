import Dcsctp4j.WrapperCalls
import Mathlib.Data.List.Forall2

/-! # Dispatch of dcsctp's events

Which call of the application stands for which event, and when the wrappers
deliver exactly these calls.
-/

namespace Dcsctp4j

open NativeFrame NativeFrame.Program

/-! ## What a call of the application denotes -/

def bytesDenote (java : List Int8) (native : List UInt8) : Prop :=
  java.map (fun byte => unsignedReading 8 byte.toInt) = native.map UInt8.toNat

def streamsDenote (java : List Int16) (native : List Native.StreamId) : Prop :=
  java.map (fun stream => unsignedReading 16 stream.toInt) =
    native.map fun stream => stream.value.toNat

def messageDenotes (java : Java.DcSctpMessage) (native : Native.DcSctpMessage) : Prop :=
  unsignedReading 16 java.streamId.toInt = native.streamId.value.toNat ∧
    unsignedReading 32 java.ppid.toInt = native.ppid.value.toNat ∧
    bytesDenote java.payload native.payload

def errorDenotes : Java.ErrorKind → Native.ErrorKind → Prop
  | .kNoError, .kNoError
  | .kTooManyRetries, .kTooManyRetries
  | .kNotConnected, .kNotConnected
  | .kParseFailed, .kParseFailed
  | .kWrongSequence, .kWrongSequence
  | .kPeerReported, .kPeerReported
  | .kProtocolViolation, .kProtocolViolation
  | .kResourceExhaustion, .kResourceExhaustion
  | .kUnsupportedOperation, .kUnsupportedOperation => True
  | _, _ => False

/-- The method of the same meaning with arguments of the same meaning; `reads`
compares texts. -/
def Denotes (reads : JString → NativeText → Prop) :
    CallbackEvent → ApplicationCall → Prop
  | .sendPacket data, .sendPacketWithStatus jData
  | .sendPacketWithStatus data, .sendPacketWithStatus jData => bytesDenote jData data
  | .onMessageReceived message, .onMessageReceived jMessage =>
      messageDenotes jMessage message
  | .onError error message, .onError jError jMessage
  | .onAborted error message, .onAborted jError jMessage =>
      errorDenotes jError error ∧ reads jMessage message
  | .onConnected, .onConnected
  | .onClosed, .onClosed
  | .onConnectionRestarted, .onConnectionRestarted
  | .onTotalBufferedAmountLow, .onTotalBufferedAmountLow => True
  | .onStreamsResetFailed streams reason, .onStreamsResetFailed jStreams jReason =>
      streamsDenote jStreams streams ∧ reads jReason reason
  | .onStreamsResetPerformed streams, .onStreamsResetPerformed jStreams
  | .onIncomingStreamsReset streams, .onIncomingStreamsReset jStreams =>
      streamsDenote jStreams streams
  | .onBufferedAmountLow streamId, .onBufferedAmountLow jStreamId =>
      unsignedReading 16 jStreamId.toInt = streamId.value.toNat
  | .onSentPacket now payload, .onSentPacket jNow jPayload
  | .onReceivedPacket now payload, .onReceivedPacket jNow jPayload =>
      jNow = now.value ∧ bytesDenote jPayload payload
  | _, _ => False

theorem bytesDenote_toByteArray (bytes : List UInt8) :
    bytesDenote (toByteArray bytes) bytes := by
  simp [bytesDenote, toByteArray]

theorem streamsDenote_toShortArray (streams : List Native.StreamId) :
    streamsDenote (toShortArray streams) streams := by
  simp [streamsDenote, toShortArray]

theorem errorDenotes_map (error : Native.ErrorKind) :
    errorDenotes (ErrorKindMembers.map error) error := by
  cases error <;> trivial

/-! ## One event -/

def CallbackEvent.isIncomingStreamsReset : CallbackEvent → Bool
  | .onIncomingStreamsReset _ => true
  | _ => false

/-- The wrapper of `OnIncomingStreamsReset` is the one that calls a method of
another meaning. -/
theorem CallbackEvent.denotes_applicationCall_iff (libraries : Libraries)
    {reads : JString → NativeText → Prop}
    (textsRead : ∀ text, reads (libraries.javaStringCreate text) text)
    (event : CallbackEvent) :
    Denotes reads event (event.applicationCall libraries) ↔
      event.isIncomingStreamsReset = false := by
  cases event <;>
    simp [Denotes, applicationCall, isIncomingStreamsReset, messageDenotes, textsRead,
      bytesDenote_toByteArray, streamsDenote_toShortArray, errorDenotes_map]

/-! ## Runs of events -/

def runEvents (libraries : Libraries) : List CallbackEvent → Jni Unit
  | [] => pure ()
  | event :: rest => do
      event.run libraries
      runEvents libraries rest

theorem runEvents_contract (libraries : Libraries) {held : List Nat}
    (events : List CallbackEvent) :
    Contract held (runEvents libraries events) (events.map CallbackEvent.target)
      (events.map (CallbackEvent.applicationCall libraries)) := by
  induction events with
  | nil => exact Contract.pure ()
  | cons event rest induction =>
      exact Contract.bind (event.run_contract libraries) fun _ => induction

/-- A JVM in which no reference has been cleared and no method throws. -/
structure Undisturbed (setting : JniSetting) : Prop where
  resolves : ∀ target, setting.resolves target = true
  returns : ∀ history call, ∃ value, setting.reply history call = .ok value

theorem Undisturbed.willing {setting : JniSetting} (undisturbed : Undisturbed setting)
    (weaks : List WeakTarget) (history calls : List ApplicationCall) :
    setting.Willing weaks history calls where
  resolves := fun weak _ => undisturbed.resolves weak
  answers := setting.answers_of_forall undisturbed.returns calls history

theorem runEvents_received (libraries : Libraries) {setting : JniSetting}
    (undisturbed : Undisturbed setting) (env : JniEnv) (events : List CallbackEvent) :
    ((runEvents libraries events).run setting env).2.received =
      env.received ++ events.map (CallbackEvent.applicationCall libraries) := by
  have noneHeld : ∀ handle ∈ ([] : List Nat), handle ∈ env.table.live := by simp
  have meets := runEvents_contract libraries events setting env noneHeld
  exact (meets.succeeds (undisturbed.willing _ _ _)).2

/-- The application receives one call for each event, in order, and each call
denotes its event. -/
def Dispatched (libraries : Libraries) (reads : JString → NativeText → Prop)
    (setting : JniSetting) (env : JniEnv) (events : List CallbackEvent) : Prop :=
  ∃ calls, ((runEvents libraries events).run setting env).2.received =
      env.received ++ calls ∧
    List.Forall₂ (Denotes reads) events calls

/-- Dispatch is faithful exactly for the runs without incoming stream resets. -/
theorem dispatched_iff (libraries : Libraries) (reads : JString → NativeText → Prop)
    (textsRead : ∀ text, reads (libraries.javaStringCreate text) text)
    (setting : JniSetting) (undisturbed : Undisturbed setting) (env : JniEnv)
    (events : List CallbackEvent) :
    Dispatched libraries reads setting env events ↔
      ∀ event ∈ events, event.isIncomingStreamsReset = false := by
  have received := runEvents_received libraries undisturbed env events
  have pointwise : List.Forall₂ (Denotes reads) events
      (events.map (CallbackEvent.applicationCall libraries)) ↔
        ∀ event ∈ events, event.isIncomingStreamsReset = false := by
    rw [List.forall₂_map_right_iff, List.forall₂_same]
    exact forall₂_congr fun event _ => event.denotes_applicationCall_iff libraries textsRead
  rw [← pointwise]
  constructor
  · intro dispatched
    rcases dispatched with ⟨calls, equal, denotes⟩
    rw [received] at equal
    rwa [List.append_cancel_left equal]
  · exact fun denotes => ⟨_, received, denotes⟩

theorem compliantSetting_undisturbed : Undisturbed compliantSetting where
  resolves _ := rfl
  returns _ call := ⟨compliantReply call, rfl⟩

/-- The failing input: the peer resets its stream 7. -/
theorem incomingReset_not_dispatched :
    ((runEvents asciiLibraries [.onIncomingStreamsReset [⟨7⟩]]).run
        compliantSetting emptyEnv).2.received = [.onStreamsResetPerformed [7]] ∧
      ¬Dispatched asciiLibraries (fun text bytes => text = bytes.map UInt8.toUInt16)
        compliantSetting emptyEnv [.onIncomingStreamsReset [⟨7⟩]] := by
  have received := runEvents_received asciiLibraries compliantSetting_undisturbed emptyEnv
    [.onIncomingStreamsReset [⟨7⟩]]
  refine ⟨received, ?_⟩
  intro dispatched
  rcases dispatched with ⟨calls, equal, denotes⟩
  rw [received] at equal
  have calls_eq := List.append_cancel_left equal
  rw [← calls_eq] at denotes
  simp [Denotes, CallbackEvent.applicationCall] at denotes

theorem dispatched_iff_example :
    Dispatched asciiLibraries (fun text bytes => text = bytes.map UInt8.toUInt16)
        compliantSetting emptyEnv
        [.onSentPacket ⟨5⟩ [200], .sendPacket [200], .onBufferedAmountLow ⟨65535⟩] ↔
      ∀ event ∈ ([.onSentPacket ⟨5⟩ [200], .sendPacket [200],
        .onBufferedAmountLow ⟨65535⟩] : List CallbackEvent),
          event.isIncomingStreamsReset = false :=
  dispatched_iff asciiLibraries _ (fun _ => rfl) compliantSetting
    compliantSetting_undisturbed emptyEnv _

end Dcsctp4j
