import Dcsctp4j.BridgeRefinement
import Dcsctp4j.TimeoutRelay

/-! # Sockets that make no calls

The models of sending, of streams, of received ranges and of timeouts look at one
part of dcsctp each and leave out what it calls meanwhile. They are the whole
interface over a socket that serves each operation at once.
-/

namespace Dcsctp4j

open NativeFrame NativeFrame.Program

variable {σ : Type} {sizeType : SizeType}

/-! ## The socket and its parts -/

abbrev CallFree (σ : Type) : Type := (operation : NativeOperation) → σ → operation.Result × σ

namespace CallFree

def machine (serve : CallFree σ) : DcSctpMachine σ := fun operation =>
  .ask .load fun socket =>
    .ask (.store (serve operation socket).2) fun _ => .reply (serve operation socket).1

def sending (serve : CallFree σ) : DcSctpSocket σ where
  send socket message options := serve (.send message options) socket
  sendMany socket messages options := serve (.sendMany messages options) socket

def streams (serve : CallFree σ) : StreamSocket σ where
  setStreamPriority socket id priority := (serve (.setStreamPriority id priority) socket).2
  getStreamPriority socket id := (serve (.getStreamPriority id) socket).1
  setBufferedAmountLowThreshold socket id bytes :=
    (serve (.setBufferedAmountLowThreshold id bytes) socket).2
  bufferedAmountLowThreshold socket id := (serve (.bufferedAmountLowThreshold id) socket).1
  bufferedAmount socket id := (serve (.bufferedAmount id) socket).1
  resetStreams socket ids := serve (.resetStreams ids) socket

def handle (serve : CallFree σ) (socket : σ) (timeoutId : Native.TimeoutId) : σ :=
  (serve (.handleTimeout timeoutId) socket).2

section Methods

variable (serve : CallFree σ) (libraries : Libraries) (socket : σ)

theorem enter_eq (operation : NativeOperation) :
    serve.machine.enter libraries operation socket = pure (serve operation socket) := rfl

/-! ## Sending -/

/-- The JVM takes over the array that a native method returns. -/
def takeArray (returned : LocalRef (List Int32) × σ) : Jni (List Int32 × σ) := do
  let nativeStatuses ← useRef returned.1
  return (nativeStatuses, returned.2)

theorem fillArray_run (elements : List Int32) (setting : JniSetting) (env : JniEnv) :
    (do
      let statusArray ← acquire elements
      let _ ← useRef statusArray
      let _ ← useRef statusArray
      return (statusArray, socket) : Jni (LocalRef (List Int32) × σ)).run setting env =
        (.ok (⟨env.table.next, elements⟩, socket), { env with table := env.table.acquire }) := by
  let acquired : JniEnv := { env with table := env.table.acquire }
  let ref : LocalRef (List Int32) := ⟨env.table.next, elements⟩
  have live : ref.handle ∈ acquired.table.live := List.mem_cons_self
  have used := useRef_live live setting
  have made : (acquire elements : Jni _).run setting env = (.ok ref, acquired) := rfl
  rw [run_bind_ok made, run_bind_ok used, run_bind_ok used]
  rfl

/-- It does not matter whether the array is taken over before or after the elements
of the messages' array are given back. -/
theorem sendManyNative_eq (messages : LocalRef (List Java.DcSctpMessage))
    (joptions : LocalRef Java.SendOptions) :
    SocketApi.sendMany_ libraries serve.machine socket messages joptions =
      NativeSctpSocket.sendMany_ serve.sending socket messages joptions >>= takeArray := by
  rw [NativeSctpSocket.sendMany_, withArrayAccess, bind_assoc, SocketApi.sendMany_,
    withArrayAccess]
  apply congrArg (useRef messages >>= ·)
  funext jmessages
  rw [← guarded_bind]
  · simp only [bind_assoc]
    rfl
  · intro setting env returned middle ran
    rcases run_bind_inv ran with ⟨vmessages, first, -, ran⟩
    rcases run_bind_inv ran with ⟨options, second, -, ran⟩
    let served := serve (.sendMany vmessages options) socket
    have filled := fillArray_run served.2 (served.1.map Native.SendStatus.toInt32) setting second
    cases ran.symm.trans filled
    refine ⟨(served.1.map Native.SendStatus.toInt32, served.2), fun after sameTable => ?_⟩
    have live : second.table.next ∈ after.table.live := by
      rw [sameTable]
      exact List.mem_cons_self
    exact run_bind_ok (useRef_live live setting) _
  · intro setting env
    have kept := useRef_table messages setting env
    rcases used : (useRef messages : Jni _).run setting env with ⟨outcome, after⟩
    rw [used] at kept
    cases outcome with
    | error fault =>
        rw [run_bind_error used]
        exact kept
    | ok elements =>
        rw [run_bind_ok used]
        exact kept

theorem sendMany_eq (messages : List Java.DcSctpMessage) (options : Java.SendOptions) :
    SocketApi.sendMany libraries serve.machine socket messages options =
      NativeSctpSocket.sendMany serve.sending socket messages options := by
  simp only [SocketApi.sendMany, sendManyNative_eq]
  rfl

/-! ## Received packets -/

def receive (data : JavaByteArray) : Except Throwable PacketView → Jni (Unit × σ)
  | .error throwable => throwException throwable
  | .ok dataView =>
      match dataView.contents data with
      | none => SocketApi.readOutside
      | some packet => pure (serve (.receivePacket packet) socket)

theorem receivePacket_eq (sizeType : SizeType) (data : JavaByteArray) (offset length : Int32) :
    SocketApi.receivePacket libraries serve.machine socket sizeType data offset length =
      serve.receive socket data
        (NativeSctpSocket.receivePacket sizeType data offset length) := by
  apply ext
  intro setting env
  cases checked : NativeSctpSocket.receivePacket sizeType data offset length with
  | error throwable => exact receivePacket_throws libraries _ socket checked setting env
  | ok dataView =>
      rw [NativeSctpSocket.receivePacket] at checked
      split at checked
      · cases checked
      · rename_i within
        rw [SocketApi.receivePacket, if_neg within, inFrame_run]
        cases contents : dataView.contents data with
        | none =>
            simp [run_bind, acquire, useRef, guarded, SocketApi.receivePacket_,
              SocketApi.receiveView, SocketApi.readOutside, receive, checked, contents]
        | some packet =>
            simp [run_bind, acquire, useRef, guarded, SocketApi.receivePacket_,
              SocketApi.receiveView, receive, checked, contents, enter_eq]

/-! ## The whole interface -/

theorem newObject_eq {α β : Type} (object : α) (read : α → β) :
    (inFrame do
      let ref ← acquire object
      let released ← SocketApi.release ref
      return read released : Jni β) = pure (read object) := by
  apply ext
  intro setting env
  simp [run_bind, acquire, useRef, inFrame, SocketApi.release]

def call : (operation : JavaOperation sizeType) → Jni (operation.Value × σ)
  | .receivePacket data offset length _ =>
      serve.receive socket data (NativeSctpSocket.receivePacket sizeType data offset length)
  | .handleTimeout timeoutId =>
      pure ((), NativeSctpSocket.handleTimeout serve.handle socket timeoutId)
  | .connect => pure (serve .connect socket)
  | .shutdown => pure (serve .shutdown socket)
  | .close => pure (serve .close socket)
  | .state =>
      let (status, socket) := serve .state socket
      pure (SocketStateMembers.map status, socket)
  | .options => pure (serve .options socket)
  | .setStreamPriority streamId streamPriority => do
      let after ← NativeSctpSocket.setStreamPriority serve.streams socket streamId streamPriority
      return ((), after)
  | .getStreamPriority streamId => do
      let priority ← NativeSctpSocket.getStreamPriority serve.streams socket streamId
      return (priority, (serve (.getStreamPriority (toStreamId streamId)) socket).2)
  | .send message options => NativeSctpSocket.send serve.sending socket message options
  | .sendMany messages options _ =>
      NativeSctpSocket.sendMany serve.sending socket messages options
  | .resetStreams outgoingStreams =>
      NativeSctpSocket.resetStreams serve.streams socket outgoingStreams
  | .bufferedAmount streamId => do
      let bytes ← NativeSctpSocket.bufferedAmount serve.streams socket streamId
      return (bytes, (serve (.bufferedAmount (toStreamId streamId)) socket).2)
  | .bufferedAmountLowThreshold streamId => do
      let bytes ← NativeSctpSocket.bufferedAmountLowThreshold serve.streams socket streamId
      return (bytes, (serve (.bufferedAmountLowThreshold (toStreamId streamId)) socket).2)
  | .setBufferedAmountLowThreshold streamId bytes => do
      let after ←
        NativeSctpSocket.setBufferedAmountLowThreshold serve.streams socket streamId bytes
      return ((), after)
  | .getMetrics => pure (serve .getMetrics socket)

theorem call_eq (operation : JavaOperation sizeType) :
    operation.call libraries serve.machine socket = serve.call socket operation := by
  cases operation with
  | receivePacket data offset length safe =>
      exact receivePacket_eq serve libraries socket sizeType data offset length
  | sendMany messages options safe => exact sendMany_eq serve libraries socket messages options
  | options =>
      exact newObject_eq (serve .options socket).1 fun options =>
        (options, (serve .options socket).2)
  | getMetrics =>
      change inFrame _ = pure (serve .getMetrics socket)
      rcases serve .getMetrics socket with ⟨_ | metrics, after⟩
      · rfl
      · exact newObject_eq metrics fun metrics => (some metrics, after)
  | _ => rfl

end Methods

end CallFree

end Dcsctp4j
