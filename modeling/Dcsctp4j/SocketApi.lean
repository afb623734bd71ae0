import Dcsctp4j.CallbackAnswers
import Dcsctp4j.Metrics
import Dcsctp4j.ReceivePacket
import Dcsctp4j.StreamIdentity

/-! # The whole interface of a socket

Every method of the Java class `NativeSctpSocket`, the native method behind it
and the operation of dcsctp behind that, and the `create` of the factory. dcsctp
may call its wrappers at any point of an operation.
-/

namespace Dcsctp4j

open NativeFrame NativeFrame.Program

variable {σ : Type}

namespace Native

inductive SocketState
  | kClosed
  | kConnecting
  | kConnected
  | kShuttingDown
deriving DecidableEq

end Native

namespace Java

inductive SocketState
  | kClosed
  | kConnecting
  | kConnected
  | kShuttingDown
deriving DecidableEq

end Java

def SocketStateMembers.map : Native.SocketState → Java.SocketState
  | .kClosed => .kClosed
  | .kConnecting => .kConnecting
  | .kConnected => .kConnected
  | .kShuttingDown => .kShuttingDown

/-! ## dcsctp -/

inductive NativeOperation
  | receivePacket (data : List UInt8)
  | handleTimeout (timeoutId : Native.TimeoutId)
  | connect
  | shutdown
  | close
  | state
  | options
  | setStreamPriority (streamId : Native.StreamId) (priority : Native.StreamPriority)
  | getStreamPriority (streamId : Native.StreamId)
  | send (message : Native.DcSctpMessage) (options : Native.SendOptions)
  | sendMany (messages : List Native.DcSctpMessage) (options : Native.SendOptions)
  | resetStreams (outgoingStreams : List Native.StreamId)
  | bufferedAmount (streamId : Native.StreamId)
  | bufferedAmountLowThreshold (streamId : Native.StreamId)
  | setBufferedAmountLowThreshold (streamId : Native.StreamId) (bytes : UInt64)
  | getMetrics
deriving DecidableEq

@[reducible] def NativeOperation.Result : NativeOperation → Type
  | .state => Native.SocketState
  | .options => Native.DcSctpOptions
  | .getStreamPriority _ => Native.StreamPriority
  | .send _ _ => Native.SendStatus
  | .sendMany _ _ => List Native.SendStatus
  | .resetStreams _ => Native.ResetStreamsStatus
  | .bufferedAmount _ | .bufferedAmountLowThreshold _ => UInt64
  | .getMetrics => Option Native.Metrics
  | _ => Unit

/-- dcsctp's sockets: how each operation proceeds, with all the calls it makes. -/
abbrev DcSctpMachine (σ : Type) : Type :=
  Machine σ NativeOperation NativeOperation.Result WrapperCall WrapperCall.Answer

/-- dcsctp's factory, whose sockets already make calls while they are created. -/
abbrev DcSctpFactory (σ : Type) : Type :=
  (logPrefix : NativeText) → (observed : Bool) → (options : Native.DcSctpOptions) →
    Dialogue WrapperCall WrapperCall.Answer σ

def DcSctpMachine.enter (dcsctp : DcSctpMachine σ) (libraries : Libraries)
    (operation : NativeOperation) (socket : σ) : Jni (operation.Result × σ) :=
  (dcsctp.serve get set (fun call => StateT.lift (call.perform libraries)) operation).run socket

namespace SocketApi

variable (libraries : Libraries) (dcsctp : DcSctpMachine σ) (socket : σ)

/-! ## `native_sctp_socket.cpp` -/

section Native

def readOutside {α : Type} : Jni α where
  run _ env := (.error .vmAborted, env)

/-- `release()`: the JVM takes the object over as the native method returns it. -/
def release {α : Type} (ref : LocalRef α) : Jni α := useRef ref

/-- What `receivePacket_` does with the elements of its array at hand. -/
def receiveView (sizeType : SizeType) (aData : JavaByteArray) (offset length : Int32) :
    Jni (Unit × σ) :=
  match NativeSctpSocket.receivePacket_ sizeType aData offset length with
  | .error throwable => throwNew throwable.message
  | .ok dataView =>
      match dataView.contents aData with
      | none => readOutside
      | some packet => dcsctp.enter libraries (.receivePacket packet) socket

def receivePacket_ (sizeType : SizeType) (data : LocalRef JavaByteArray)
    (offset length : Int32) : Jni (Unit × σ) := do
  let aData ← useRef data
  guarded (receiveView libraries dcsctp socket sizeType aData offset length) do
    let _ ← useRef data
    return ()

def handleTimeout_ (timeoutId : Int64) : Jni (Unit × σ) :=
  dcsctp.enter libraries (.handleTimeout ⟨timeoutId.toUInt64⟩) socket

def connect_ : Jni (Unit × σ) := dcsctp.enter libraries .connect socket

def shutdown_ : Jni (Unit × σ) := dcsctp.enter libraries .shutdown socket

def close_ : Jni (Unit × σ) := dcsctp.enter libraries .close socket

def state_ : Jni (Java.SocketState × σ) := do
  let (status, socket) ← dcsctp.enter libraries .state socket
  return (SocketStateMembers.map status, socket)

/-- The new Java object holds a copy of its own. -/
def options_ : Jni (Native.DcSctpOptions × σ) := do
  let (options, socket) ← dcsctp.enter libraries .options socket
  let jOptions ← acquire options
  let released ← release jOptions
  return (released, socket)

def setStreamPriority_ (streamId streamPriority : Int16) : Jni (Unit × σ) :=
  dcsctp.enter libraries
    (.setStreamPriority ⟨streamId.toUInt16⟩ ⟨streamPriority.toUInt16⟩) socket

def getStreamPriority_ (streamId : Int16) : Jni (Int16 × σ) := do
  let (priority, socket) ←
    dcsctp.enter libraries (.getStreamPriority ⟨streamId.toUInt16⟩) socket
  return (priority.value.toInt16, socket)

def send_ (payload : LocalRef (List Int8)) (ppid : Int32) (streamId : Int16)
    (isUnordered : Bool) (lifetime maxRetransmissions : Option (LocalRef Int64))
    (lifecycleId : Int64) : Jni (Int32 × σ) :=
  withArrayAccess payload fun vPayload => do
    let message : Native.DcSctpMessage :=
      { streamId := ⟨streamId.toUInt16⟩
        ppid := ⟨ppid.toUInt32⟩
        payload := fromByteArray vPayload }
    let lifetime ← convertOptional (fun value => Native.DurationMs.mk value.toInt32) lifetime
    let maxRetransmissions ← convertOptional Int64.toUInt64 maxRetransmissions
    let options : Native.SendOptions :=
      { unordered := isUnordered
        lifetime := lifetime
        maxRetransmissions := maxRetransmissions
        lifecycleId := ⟨lifecycleId.toUInt64⟩ }
    let (status, socket) ← dcsctp.enter libraries (.send message options) socket
    return (status.toInt32, socket)

def sendMany_ (messages : LocalRef (List Java.DcSctpMessage))
    (joptions : LocalRef Java.SendOptions) : Jni (List Int32 × σ) :=
  withArrayAccess messages fun jmessages => do
    let vmessages ← NativeSctpSocket.convertAll messages jmessages
    let options ← convertSendOptions joptions
    let (statuses, socket) ← dcsctp.enter libraries (.sendMany vmessages options) socket
    let statusArray ← acquire (statuses.map Native.SendStatus.toInt32)
    let _ ← useRef statusArray
    let _ ← useRef statusArray
    let released ← release statusArray
    return (released, socket)

def resetStreams_ (outgoingStreams : LocalRef (List Int16)) :
    Jni (Java.ResetStreamsStatus × σ) :=
  withArrayAccess outgoingStreams fun jstreams => do
    let vstreams := jstreams.map fun stream => Native.StreamId.mk stream.toUInt16
    let (status, socket) ← dcsctp.enter libraries (.resetStreams vstreams) socket
    return (ResetStreamsStatusMembers.map status, socket)

def bufferedAmount_ (streamId : Int16) : Jni (Int64 × σ) := do
  let (bytes, socket) ← dcsctp.enter libraries (.bufferedAmount ⟨streamId.toUInt16⟩) socket
  return (bytes.toInt64, socket)

def bufferedAmountLowThreshold_ (streamId : Int16) : Jni (Int64 × σ) := do
  let (bytes, socket) ←
    dcsctp.enter libraries (.bufferedAmountLowThreshold ⟨streamId.toUInt16⟩) socket
  return (bytes.toInt64, socket)

def setBufferedAmountLowThreshold_ (streamId : Int16) (bytes : Int64) : Jni (Unit × σ) :=
  dcsctp.enter libraries
    (.setBufferedAmountLowThreshold ⟨streamId.toUInt16⟩ bytes.toUInt64) socket

/-- Null when dcsctp has no metrics, else a new Java object with a copy. -/
def getMetrics_ : Jni (Option Native.Metrics × σ) := do
  let (metrics, socket) ← dcsctp.enter libraries .getMetrics socket
  match metrics with
  | none => return (none, socket)
  | some metrics =>
      let jMetrics ← acquire metrics
      let released ← release jMetrics
      return (some released, socket)

end Native

/-! ## `NativeSctpSocket` -/

section Java

def receivePacket (sizeType : SizeType) (data : JavaByteArray) (offset length : Int32) :
    Jni (Unit × σ) :=
  if data.length < offset + length then
    throwException ⟨"java.lang.IllegalArgumentException",
      s!"Array length {data.length} too short for offset {offset} length {length}"⟩
  else
    inFrame do
      let data ← acquire data
      receivePacket_ libraries dcsctp socket sizeType data offset length

def handleTimeout (timeoutId : Int64) : Jni (Unit × σ) :=
  inFrame (handleTimeout_ libraries dcsctp socket timeoutId)

def connect : Jni (Unit × σ) := inFrame (connect_ libraries dcsctp socket)

def shutdown : Jni (Unit × σ) := inFrame (shutdown_ libraries dcsctp socket)

def close : Jni (Unit × σ) := inFrame (close_ libraries dcsctp socket)

def state : Jni (Java.SocketState × σ) := inFrame (state_ libraries dcsctp socket)

def options : Jni (Native.DcSctpOptions × σ) := inFrame (options_ libraries dcsctp socket)

def setStreamPriority (streamId streamPriority : Int16) : Jni (Unit × σ) :=
  inFrame (setStreamPriority_ libraries dcsctp socket streamId streamPriority)

def getStreamPriority (streamId : Int16) : Jni (Int16 × σ) :=
  inFrame (getStreamPriority_ libraries dcsctp socket streamId)

def send (message : Java.DcSctpMessage) (options : Java.SendOptions) :
    Jni (Java.SendStatus × σ) := do
  let (nativeStatus, socket) ← inFrame do
    let payload ← acquire message.payload
    let lifetime ← acquireOptional options.lifetime
    let maxRetransmissions ← acquireOptional options.maxRetransmissions
    send_ libraries dcsctp socket payload message.ppid message.streamId options.isUnordered
      lifetime maxRetransmissions options.lifecycleId
  let status ← Java.SendStatus.fromNativeStatus nativeStatus
  return (status, socket)

def sendMany (messages : List Java.DcSctpMessage) (options : Java.SendOptions) :
    Jni (List Java.SendStatus × σ) := do
  let (nativeStatuses, socket) ← inFrame do
    let messages ← acquire messages
    let options ← acquire options
    sendMany_ libraries dcsctp socket messages options
  let statuses ← Java.SendStatus.fromNativeStatuses nativeStatuses
  return (statuses, socket)

def resetStreams (outgoingStreams : List (Option Int16)) :
    Jni (Java.ResetStreamsStatus × σ) := do
  let streams ← NativeSctpSocket.unboxList outgoingStreams
  inFrame do
    let outgoingStreams ← acquire streams
    resetStreams_ libraries dcsctp socket outgoingStreams

def bufferedAmount (streamId : Int16) : Jni (Int64 × σ) :=
  inFrame (bufferedAmount_ libraries dcsctp socket streamId)

def bufferedAmountLowThreshold (streamId : Int16) : Jni (Int64 × σ) :=
  inFrame (bufferedAmountLowThreshold_ libraries dcsctp socket streamId)

def setBufferedAmountLowThreshold (streamId : Int16) (bytes : Int64) : Jni (Unit × σ) :=
  inFrame (setBufferedAmountLowThreshold_ libraries dcsctp socket streamId bytes)

def getMetrics : Jni (Option Native.Metrics × σ) :=
  inFrame (getMetrics_ libraries dcsctp socket)

end Java

end SocketApi

/-! ## `dcsctp4j.cpp` -/

namespace DcSctpSocketFactory

variable (libraries : Libraries) (factory : DcSctpFactory σ)
  (javaStringToCpp : JString → NativeText)

/-- The weak references to the callbacks and to the observer are made before the
socket is. -/
def create_ (jLogPrefix : LocalRef JString) (jCallbacks : LocalRef JObject)
    (jPacketObserver : Option (LocalRef JObject)) (jOptions : LocalRef Native.DcSctpOptions) :
    Jni σ := do
  let logPrefix := javaStringToCpp (← useRef jLogPrefix)
  let _ ← useRef jCallbacks
  passAll jPacketObserver.toList
  let options ← useRef jOptions
  (factory logPrefix jPacketObserver.isSome options).run fun call => call.perform libraries

def create (logPrefix : JString) (observed : Bool) (options : Native.DcSctpOptions) : Jni σ :=
  inFrame do
    let logPrefix ← acquire logPrefix
    let callbacks ← acquire (JObject.weakTarget .socketCallbacks)
    let options ← acquire options
    if observed then
      let observer ← acquire (JObject.weakTarget .packetObserver)
      create_ libraries factory javaStringToCpp logPrefix callbacks (some observer) options
    else
      create_ libraries factory javaStringToCpp logPrefix callbacks none options

end DcSctpSocketFactory

end Dcsctp4j
