import Dcsctp4j.BatchSend
import Dcsctp4j.CallbackDispatch

/-! # Streams by their Java names

The stream methods of the Java class `NativeSctpSocket` name streams by a
`short`, dcsctp by an unsigned number of 16 bits. Both name the same streams,
whichever method or callback the name passes.
-/

namespace Dcsctp4j

open NativeFrame NativeFrame.Program

variable {σ : Type}

namespace Native

inductive ResetStreamsStatus
  | kNotConnected
  | kPerformed
  | kNotSupported
deriving DecidableEq

end Native

namespace Java

inductive ResetStreamsStatus
  | kNotConnected
  | kPerformed
  | kNotSupported
deriving DecidableEq

end Java

def ResetStreamsStatusMembers.map : Native.ResetStreamsStatus → Java.ResetStreamsStatus
  | .kNotConnected => .kNotConnected
  | .kPerformed => .kPerformed
  | .kNotSupported => .kNotSupported

structure StreamSocket (σ : Type) where
  setStreamPriority : σ → Native.StreamId → Native.StreamPriority → σ
  getStreamPriority : σ → Native.StreamId → Native.StreamPriority
  setBufferedAmountLowThreshold : σ → Native.StreamId → UInt64 → σ
  bufferedAmountLowThreshold : σ → Native.StreamId → UInt64
  bufferedAmount : σ → Native.StreamId → UInt64
  resetStreams : σ → List Native.StreamId → Native.ResetStreamsStatus × σ

namespace NativeSctpSocket

/-! ## `native_sctp_socket.cpp` -/

def setStreamPriority_ (dcsctp : StreamSocket σ) (socket : σ)
    (streamId streamPriority : Int16) : Jni σ :=
  pure (dcsctp.setStreamPriority socket ⟨streamId.toUInt16⟩ ⟨streamPriority.toUInt16⟩)

def getStreamPriority_ (dcsctp : StreamSocket σ) (socket : σ) (streamId : Int16) : Jni Int16 :=
  pure (dcsctp.getStreamPriority socket ⟨streamId.toUInt16⟩).value.toInt16

def resetStreams_ (dcsctp : StreamSocket σ) (socket : σ)
    (outgoingStreams : LocalRef (List Int16)) : Jni (Java.ResetStreamsStatus × σ) :=
  withArrayAccess outgoingStreams fun jstreams => do
    let vstreams := jstreams.map fun stream => Native.StreamId.mk stream.toUInt16
    let (status, socket) := dcsctp.resetStreams socket vstreams
    return (ResetStreamsStatusMembers.map status, socket)

def bufferedAmount_ (dcsctp : StreamSocket σ) (socket : σ) (streamId : Int16) : Jni Int64 :=
  pure (dcsctp.bufferedAmount socket ⟨streamId.toUInt16⟩).toInt64

def bufferedAmountLowThreshold_ (dcsctp : StreamSocket σ) (socket : σ) (streamId : Int16) :
    Jni Int64 :=
  pure (dcsctp.bufferedAmountLowThreshold socket ⟨streamId.toUInt16⟩).toInt64

def setBufferedAmountLowThreshold_ (dcsctp : StreamSocket σ) (socket : σ) (streamId : Int16)
    (bytes : Int64) : Jni σ :=
  pure (dcsctp.setBufferedAmountLowThreshold socket ⟨streamId.toUInt16⟩ bytes.toUInt64)

/-! ## The Java side -/

def setStreamPriority (dcsctp : StreamSocket σ) (socket : σ) (streamId streamPriority : Int16) :
    Jni σ :=
  inFrame (setStreamPriority_ dcsctp socket streamId streamPriority)

def getStreamPriority (dcsctp : StreamSocket σ) (socket : σ) (streamId : Int16) : Jni Int16 :=
  inFrame (getStreamPriority_ dcsctp socket streamId)

/-- The loop of `unboxList` from index `idx` on; null cannot be unboxed. -/
def unboxFrom (ret : List Int16) (idx : Nat) : List (Option Int16) → Jni (List Int16)
  | [] => pure ret
  | none :: _ => throwException ⟨"java.lang.NullPointerException", ""⟩
  | some s :: rest =>
      if idx < ret.length then unboxFrom (ret.set idx s) (idx + 1) rest
      else
        throwException ⟨"java.lang.ArrayIndexOutOfBoundsException",
          s!"Index {idx} out of bounds for length {ret.length}"⟩

def unboxList (l : List (Option Int16)) : Jni (List Int16) :=
  unboxFrom (List.replicate l.length 0) 0 l

def callResetStreams_ (dcsctp : StreamSocket σ) (socket : σ) (outgoingStreams : List Int16) :
    Jni (Java.ResetStreamsStatus × σ) :=
  inFrame do
    let outgoingStreams ← acquire outgoingStreams
    resetStreams_ dcsctp socket outgoingStreams

def resetStreams (dcsctp : StreamSocket σ) (socket : σ)
    (outgoingStreams : List (Option Int16)) : Jni (Java.ResetStreamsStatus × σ) := do
  let streams ← unboxList outgoingStreams
  callResetStreams_ dcsctp socket streams

def bufferedAmount (dcsctp : StreamSocket σ) (socket : σ) (streamId : Int16) : Jni Int64 :=
  inFrame (bufferedAmount_ dcsctp socket streamId)

def bufferedAmountLowThreshold (dcsctp : StreamSocket σ) (socket : σ) (streamId : Int16) :
    Jni Int64 :=
  inFrame (bufferedAmountLowThreshold_ dcsctp socket streamId)

def setBufferedAmountLowThreshold (dcsctp : StreamSocket σ) (socket : σ) (streamId : Int16)
    (bytes : Int64) : Jni σ :=
  inFrame (setBufferedAmountLowThreshold_ dcsctp socket streamId bytes)

end NativeSctpSocket

/-! ## One name for each stream -/

def toStreamId (stream : Int16) : Native.StreamId := ⟨stream.toUInt16⟩

def toStreamIds (streams : List Int16) : List Native.StreamId := streams.map toStreamId

@[simp] theorem toInt16_toStreamId (stream : Int16) :
    (toStreamId stream).value.toInt16 = stream := Int16.toInt16_toUInt16 stream

theorem toStreamId_injective : Function.Injective toStreamId := by
  intro first second same
  rw [← toInt16_toStreamId first, same, toInt16_toStreamId]

theorem streamsDenote_toStreamIds (streams : List Int16) :
    streamsDenote streams (toStreamIds streams) := by
  simp [streamsDenote, toStreamIds, toStreamId, toNat_toUInt16]

theorem toShortArray_toStreamIds (streams : List Int16) :
    toShortArray (toStreamIds streams) = streams := by
  simp [toShortArray, toStreamIds, Function.comp_def]

theorem denoted_unique {stream : Int16} {id : Native.StreamId}
    (denotes : unsignedReading 16 stream.toInt = id.value.toNat) : id = toStreamId stream := by
  rw [← toNat_toUInt16] at denotes
  exact congrArg Native.StreamId.mk (UInt16.toNat.inj denotes).symm

theorem streamsDenote_unique {streams : List Int16} {ids : List Native.StreamId}
    (denotes : streamsDenote streams ids) : ids = toStreamIds streams := by
  have same : (toStreamIds streams).map (fun id => id.value.toNat) =
      ids.map fun id => id.value.toNat :=
    (streamsDenote_toStreamIds streams).symm.trans denotes
  have injective : Function.Injective fun id : Native.StreamId => id.value.toNat := by
    intro first second equal
    exact congrArg Native.StreamId.mk (UInt16.toNat.inj equal)
  exact ((List.map_injective_iff.mpr injective) same).symm

/-! ## The loop of `unboxList` -/

theorem unboxFrom_run (unboxed rest : List Int16) (setting : JniSetting) (env : JniEnv) :
    (NativeSctpSocket.unboxFrom (unboxed ++ List.replicate rest.length 0) unboxed.length
      (rest.map some)).run setting env = (.ok (unboxed ++ rest), env) := by
  induction rest generalizing unboxed with
  | nil => rfl
  | cons stream rest induction =>
      have inside : unboxed.length <
          (unboxed ++ List.replicate (stream :: rest).length 0).length := by simp
      have stored : (unboxed ++ List.replicate (stream :: rest).length 0).set unboxed.length
          stream = (unboxed ++ [stream]) ++ List.replicate rest.length 0 := by
        simp [List.replicate_succ]
      have next := induction (unboxed ++ [stream])
      rw [List.length_append, List.length_singleton, List.append_assoc unboxed] at next
      rw [List.map_cons, NativeSctpSocket.unboxFrom, if_pos inside, stored, List.append_assoc, next,
        List.append_assoc, List.singleton_append]

theorem unboxList_run (streams : List Int16) (setting : JniSetting) (env : JniEnv) :
    (NativeSctpSocket.unboxList (streams.map some)).run setting env = (.ok streams, env) := by
  rw [NativeSctpSocket.unboxList, List.length_map]
  exact unboxFrom_run [] streams setting env

theorem unboxFrom_null {l : List (Option Int16)} (member : none ∈ l) (ret : List Int16)
    (idx : Nat) (fits : idx + l.length ≤ ret.length) (setting : JniSetting) (env : JniEnv) :
    (NativeSctpSocket.unboxFrom ret idx l).run setting env =
      (.error (.managedException ⟨"java.lang.NullPointerException", ""⟩), env) := by
  induction l generalizing ret idx with
  | nil => cases member
  | cons head rest induction =>
      rw [List.length_cons] at fits
      cases head with
      | none => rfl
      | some stream =>
          have later : none ∈ rest := by simpa using member
          rw [NativeSctpSocket.unboxFrom, if_pos (by omega)]
          apply induction later
          rw [List.length_set]
          omega

theorem resetStreams_null {outgoingStreams : List (Option Int16)}
    (member : none ∈ outgoingStreams) (dcsctp : StreamSocket σ) (socket : σ)
    (setting : JniSetting) (env : JniEnv) :
    (NativeSctpSocket.resetStreams dcsctp socket outgoingStreams).run setting env =
      (.error (.managedException ⟨"java.lang.NullPointerException", ""⟩), env) := by
  have refused : (NativeSctpSocket.unboxList outgoingStreams).run setting env = _ :=
    unboxFrom_null member _ 0 (by simp) setting env
  rw [NativeSctpSocket.resetStreams, run_bind_error refused]

theorem resetStreams_run (dcsctp : StreamSocket σ) (socket : σ) (streams : List Int16)
    (setting : JniSetting) (env : JniEnv) :
    let reset := dcsctp.resetStreams socket (toStreamIds streams)
    (NativeSctpSocket.resetStreams dcsctp socket (streams.map some)).run setting env =
      (.ok (ResetStreamsStatusMembers.map reset.1, reset.2), env) := by
  intro reset
  let ref : LocalRef (List Int16) := ⟨env.table.next, streams⟩
  have acquired : (acquire streams : Jni _).run setting env =
      (.ok ref, { env with table := env.table.acquire }) := rfl
  have owned : ref.handle ∈ env.table.acquire.live := List.mem_cons_self
  have native : (NativeSctpSocket.resetStreams_ dcsctp socket ref).run setting
      { env with table := env.table.acquire } =
        (.ok (ResetStreamsStatusMembers.map reset.1, reset.2),
          { env with table := env.table.acquire }) := withArrayAccess_run owned rfl owned
  rw [NativeSctpSocket.resetStreams, run_bind_ok (unboxList_run streams setting env),
    NativeSctpSocket.callResetStreams_, inFrame_run, run_bind_ok acquired, native]

end Dcsctp4j
