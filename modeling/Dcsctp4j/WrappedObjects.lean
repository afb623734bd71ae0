import Dcsctp4j.Types
import Dcsctp4j.Foundation.FrameContract

/-! # The wrappers that dcsctp calls

`wrapped_objects.cpp`: the native implementations of `DcSctpSocketCallbacks`,
`PacketObserver` and `Timeout`, each forwarding to a Java object, together with
the default methods of the Java interfaces they reach.
-/

namespace Dcsctp4j

open NativeFrame NativeFrame.Program

/-! ## The Java side -/

inductive WeakTarget
  | socketCallbacks
  | packetObserver
deriving DecidableEq

/-- Methods that the application implements, with the arguments it receives;
`log` is the delegate logger's. -/
inductive ApplicationCall
  | sendPacketWithStatus (data : List Int8)
  | createTimeout (precision : Java.DelayPrecision)
  | now
  | getRandomInt (low high : Int64)
  | onMessageReceived (message : Java.DcSctpMessage)
  | onError (error : Java.ErrorKind) (message : JString)
  | onAborted (error : Java.ErrorKind) (message : JString)
  | onConnected
  | onClosed
  | onConnectionRestarted
  | onStreamsResetFailed (outgoingStreams : List Int16) (reason : JString)
  | onStreamsResetPerformed (outgoingStreams : List Int16)
  | onIncomingStreamsReset (incomingStreams : List Int16)
  | onBufferedAmountLow (streamId : Int16)
  | onTotalBufferedAmountLow
  | onSentPacket (now : Int64) (payload : List Int8)
  | onReceivedPacket (now : Int64) (payload : List Int8)
  | timeoutStart (timeout : Java.Timeout) (duration timeoutId : Int64)
  | timeoutStop (timeout : Java.Timeout)
  | log (record : Java.LogRecord)
deriving DecidableEq

namespace ApplicationCall

@[reducible] def Reply : ApplicationCall → Type
  | .sendPacketWithStatus _ => Java.SendPacketStatus
  | .createTimeout _ => Java.Timeout
  | .now => Java.Instant
  | .getRandomInt _ _ => Int64
  | _ => Unit

end ApplicationCall

abbrev Jni := Program WeakTarget ApplicationCall Throwable ApplicationCall.Reply

abbrev JniSetting := Setting WeakTarget ApplicationCall Throwable ApplicationCall.Reply

abbrev JniEnv := Env ApplicationCall

def callJava (method : ApplicationCall) : Jni method.Reply := call method

inductive JObject
  | weakTarget (target : WeakTarget)
  | bytes (elements : List Int8)
  | shorts (elements : List Int16)
  | string (text : JString)
  | message (text : String)
  | throwable (throwable : Throwable)
  | timeout (timeout : Java.Timeout)
  | instant (instant : Java.Instant)
deriving DecidableEq

namespace Java

/-- Default method `DcSctpSocketCallbacks.sendPacketWithStatus_`. -/
def sendPacketWithStatus_ (data : List Int8) : Jni Int32 := do
  let status ← callJava (.sendPacketWithStatus data)
  return status.nativeStatus

/-- Default method `DcSctpSocketCallbacks.OnMessageReceived_`. -/
def onMessageReceived_ (payload : List Int8) (ppid : Int32) (streamId : Int16) :
    Jni Unit :=
  callJava (.onMessageReceived { streamId, ppid, payload })

namespace Timeout

def start (timeout : Timeout) (duration timeoutId : Int64) : Jni Unit :=
  callJava (.timeoutStart timeout duration timeoutId)

def stop (timeout : Timeout) : Jni Unit :=
  callJava (.timeoutStop timeout)

/-- Default method `Timeout.restart`. -/
def restart (timeout : Timeout) (durationMs timeoutId : Int64) : Jni Unit := do
  timeout.stop
  timeout.start durationMs timeoutId

end Timeout

end Java

/-! ## Reaching the Java object -/

/-- `throw java_exception(throwable().ctor(env, java_string_create(env, text)))`:
the string dies with the expression, the exception object with the scope. -/
def throwNew {α : Type} (text : String) : Jni α := do
  let exception ← withLocal (JObject.message text) fun message => do
    let _ ← useRef message
    acquire (JObject.throwable ⟨"java.lang.Throwable", text⟩)
  owning exception (throwException ⟨"java.lang.Throwable", text⟩)

namespace WeakTarget

def clearedText : WeakTarget → String
  | .socketCallbacks => "Weak DcSctpSocketCallbacks reference garbage collected"
  | .packetObserver => "Weak PacketObserver reference garbage collected"

/-- `getObj` of both wrappers, with the scope that owns the reference it
returns. -/
def withObj {α : Type} (target : WeakTarget) (body : LocalRef JObject → Jni α) :
    Jni α := do
  if ← resolves target then
    withLocal (JObject.weakTarget target) body
  else
    throwNew target.clearedText

end WeakTarget

/-- `java_array_access`, the copy into it and its `commit`; other objects are
created complete. -/
def fill (ref : LocalRef JObject) : Jni Unit :=
  match ref.object with
  | .bytes _ | .shorts _ => do
      let _ ← useRef ref
      let _ ← useRef ref
      return ()
  | _ => pure ()

def passAll : List (LocalRef JObject) → Jni Unit
  | [] => pure ()
  | ref :: rest => do
      let _ ← useRef ref
      passAll rest

/-- Create the arguments of a Java call one scope inside the other, then make
the call with them and with the references already at hand. -/
def withArguments {α : Type} (method : Jni α) :
    List JObject → List (LocalRef JObject) → Jni α
  | [], refs => do
      passAll refs
      method
  | argument :: rest, refs =>
      withLocal argument fun ref => do
        fill ref
        withArguments method rest (ref :: refs)

/-- The shape the wrappers share: fetch the Java object, create the arguments,
call the method, and drop every local reference on the way out. -/
def invoke {α : Type} (target : WeakTarget) (arguments : List JObject)
    (method : Jni α) : Jni α :=
  target.withObj fun object => withArguments method arguments [object]

/-! ## `WrappedSocketCallbacks` -/

namespace WrappedSocketCallbacks

def sendPacketWithStatus (data : List UInt8) : Jni Native.SendPacketStatus := do
  let jData := toByteArray data
  let status ← invoke .socketCallbacks [.bytes jData]
    (Java.sendPacketWithStatus_ jData)
  return ⟨status⟩

def sendPacket (data : List UInt8) : Jni Unit := do
  let _ ← sendPacketWithStatus data
  return ()

/-- The Java timeout that the returned `WrappedTimeout` holds globally. -/
def createTimeout (precision : Native.DelayPrecision) : Jni Java.Timeout :=
  invoke .socketCallbacks [] do
    let timeout ← callJava (.createTimeout (DelayPrecisionMembers.map precision))
    withLocal (JObject.timeout timeout) fun ref => do
      let _ ← useRef ref
      return timeout

/-- `Instant_class::toTimestamp`, in microseconds. -/
def toTimestamp (instant : Java.Instant) : Int64 :=
  instant.epochSecond * 1000000 + (instant.nano / 1000).toInt64

def now : Jni Int64 :=
  invoke .socketCallbacks [] do
    let instant ← callJava .now
    withLocal (JObject.instant instant) fun ref => do
      let _ ← useRef ref
      return toTimestamp instant

def timeMillis (libraries : Libraries) : Jni Native.TimeMs := do
  let timestamp ← now
  return ⟨libraries.timestampMs timestamp⟩

def getRandomInt (low high : UInt32) : Jni UInt32 := do
  let random ← invoke .socketCallbacks []
    (callJava (.getRandomInt low.toUInt64.toInt64 high.toUInt64.toInt64))
  return random.toUInt64.toUInt32

def onMessageReceived (message : Native.DcSctpMessage) : Jni Unit :=
  let jPayload := toByteArray message.payload
  invoke .socketCallbacks [.bytes jPayload]
    (Java.onMessageReceived_ jPayload message.ppid.value.toInt32
      message.streamId.value.toInt16)

def onError (libraries : Libraries) (error : Native.ErrorKind)
    (message : NativeText) : Jni Unit :=
  let jMessage := libraries.javaStringCreate message
  invoke .socketCallbacks [.string jMessage]
    (callJava (.onError (ErrorKindMembers.map error) jMessage))

def onAborted (libraries : Libraries) (error : Native.ErrorKind)
    (message : NativeText) : Jni Unit :=
  let jMessage := libraries.javaStringCreate message
  invoke .socketCallbacks [.string jMessage]
    (callJava (.onAborted (ErrorKindMembers.map error) jMessage))

def onConnected : Jni Unit :=
  invoke .socketCallbacks [] (callJava .onConnected)

def onClosed : Jni Unit :=
  invoke .socketCallbacks [] (callJava .onClosed)

def onConnectionRestarted : Jni Unit :=
  invoke .socketCallbacks [] (callJava .onConnectionRestarted)

def onStreamsResetFailed (libraries : Libraries)
    (outgoingStreams : List Native.StreamId) (reason : NativeText) : Jni Unit :=
  let jOutgoingStreams := toShortArray outgoingStreams
  let jReason := libraries.javaStringCreate reason
  invoke .socketCallbacks [.shorts jOutgoingStreams, .string jReason]
    (callJava (.onStreamsResetFailed jOutgoingStreams jReason))

def onStreamsResetPerformed (outgoingStreams : List Native.StreamId) : Jni Unit :=
  let jOutgoingStreams := toShortArray outgoingStreams
  invoke .socketCallbacks [.shorts jOutgoingStreams]
    (callJava (.onStreamsResetPerformed jOutgoingStreams))

/-- The source calls `OnStreamsResetPerformed` here too. -/
def onIncomingStreamsReset (incomingStreams : List Native.StreamId) : Jni Unit :=
  let jIncomingStreams := toShortArray incomingStreams
  invoke .socketCallbacks [.shorts jIncomingStreams]
    (callJava (.onStreamsResetPerformed jIncomingStreams))

def onBufferedAmountLow (streamId : Native.StreamId) : Jni Unit :=
  invoke .socketCallbacks [] (callJava (.onBufferedAmountLow streamId.value.toInt16))

def onTotalBufferedAmountLow : Jni Unit :=
  invoke .socketCallbacks [] (callJava .onTotalBufferedAmountLow)

end WrappedSocketCallbacks

/-! ## `WrappedPacketObserver` -/

namespace WrappedPacketObserver

def onSentPacket (now : Native.TimeMs) (payload : List UInt8) : Jni Unit :=
  let jPayload := toByteArray payload
  invoke .packetObserver [.bytes jPayload] (callJava (.onSentPacket now.value jPayload))

def onReceivedPacket (now : Native.TimeMs) (payload : List UInt8) : Jni Unit :=
  let jPayload := toByteArray payload
  invoke .packetObserver [.bytes jPayload]
    (callJava (.onReceivedPacket now.value jPayload))

end WrappedPacketObserver

/-! ## `WrappedTimeout` -/

/-- Holds its Java object through a global reference, so no weak reference is
dereferenced and no local one is created. -/
structure WrappedTimeout where
  timeout : Java.Timeout
deriving DecidableEq

namespace WrappedTimeout

def start (self : WrappedTimeout) (duration : Native.DurationMs)
    (timeoutId : Native.TimeoutId) : Jni Unit :=
  self.timeout.start duration.value.toInt64 timeoutId.value.toInt64

def stop (self : WrappedTimeout) : Jni Unit :=
  self.timeout.stop

def restart (self : WrappedTimeout) (duration : Native.DurationMs)
    (timeoutId : Native.TimeoutId) : Jni Unit :=
  self.timeout.restart duration.value.toInt64 timeoutId.value.toInt64

end WrappedTimeout

/-! ## A quiet application -/

def compliantReply : (call : ApplicationCall) → call.Reply
  | .sendPacketWithStatus _ => .kSuccess
  | .createTimeout _ => ⟨0⟩
  | .now => ⟨0, 0⟩
  | .getRandomInt low _ => low
  | .onMessageReceived _ | .onError _ _ | .onAborted _ _ | .onConnected | .onClosed
  | .onConnectionRestarted | .onStreamsResetFailed _ _ | .onStreamsResetPerformed _
  | .onIncomingStreamsReset _ | .onBufferedAmountLow _ | .onTotalBufferedAmountLow
  | .onSentPacket _ _ | .onReceivedPacket _ _ | .timeoutStart _ _ _ | .timeoutStop _
  | .log _ => ()

/-- Nothing is cleared, nothing throws, and a stale reference stops the JVM. -/
def compliantSetting : JniSetting where
  staleUse := .aborts
  resolves _ := true
  reply _ call := .ok (compliantReply call)

def emptyEnv : JniEnv where
  table := .empty
  staleUses := []
  received := []

/-- Libraries for ASCII texts and a clock that rounds down to milliseconds. -/
def asciiLibraries : Libraries where
  javaStringCreate text := text.map UInt8.toUInt16
  timestampMs micros := micros / 1000

end Dcsctp4j
