import Dcsctp4j.WrappedObjects

/-! # Sending through a native socket

`send` and `sendMany` of the Java class `NativeSctpSocket`, with the native
methods of `native_sctp_socket.cpp` behind them. The state `σ` of dcsctp's
socket is passed along.
-/

namespace Dcsctp4j

open NativeFrame NativeFrame.Program

variable {σ : Type}

structure DcSctpSocket (σ : Type) where
  send : σ → Native.DcSctpMessage → Native.SendOptions → Native.SendStatus × σ
  sendMany : σ → List Native.DcSctpMessage → Native.SendOptions →
    List Native.SendStatus × σ

namespace DcSctpSocket

def sendEach (send : σ → Native.DcSctpMessage → Native.SendOptions → Native.SendStatus × σ)
    (options : Native.SendOptions) :
    σ → List Native.DcSctpMessage → List Native.SendStatus × σ
  | socket, [] => ([], socket)
  | socket, message :: rest =>
      let (status, socket) := send socket message options
      let (statuses, socket) := sendEach send options socket rest
      (status :: statuses, socket)

/-- dcsctp's `SendMany` enqueues each message as `Send` would. -/
def Batches (dcsctp : DcSctpSocket σ) : Prop :=
  ∀ socket messages options,
    dcsctp.sendMany socket messages options = sendEach dcsctp.send options socket messages

end DcSctpSocket

/-- `(int)` of a status: the enumerators are numbered in order. -/
def Native.SendStatus.toInt32 : Native.SendStatus → Int32
  | .kSuccess => 0
  | .kErrorMessageEmpty => 1
  | .kErrorMessageTooLarge => 2
  | .kErrorResourceExhaustion => 3
  | .kErrorShuttingDown => 4

/-! ## `Long` and array references -/

def Long.longValue (ref : LocalRef Int64) : Jni Int64 := useRef ref

/-- `java_array_access`: gets the elements, and gives them back when its scope
ends. -/
def withArrayAccess {ε α : Type} (ref : LocalRef (List ε)) (body : List ε → Jni α) :
    Jni α := do
  let elements ← useRef ref
  guarded (body elements) do
    let _ ← useRef ref
    return ()

def convertOptional {ν : Type} (convert : Int64 → ν) :
    Option (LocalRef Int64) → Jni (Option ν)
  | none => pure none
  | some ref => do
      let value ← Long.longValue ref
      return some (convert value)

/-! ## `native_sctp_socket.cpp` -/

def convertDcSctpMessage (jmessage : LocalRef Java.DcSctpMessage) :
    Jni Native.DcSctpMessage := do
  let message ← useRef jmessage
  withLocal message.payload fun payload =>
    withArrayAccess payload fun vPayload => do
      let streamId := (← useRef jmessage).streamId
      let ppid := (← useRef jmessage).ppid
      let message : Native.DcSctpMessage :=
        { streamId := ⟨streamId.toUInt16⟩
          ppid := ⟨ppid.toUInt32⟩
          payload := fromByteArray vPayload }
      return message

/-- `.c_ptr()` of the reference that a getter returns: the reference itself dies
with the expression. -/
def borrowField : Option Int64 → Jni (Option (LocalRef Int64))
  | none => pure none
  | some value => do
      let ref ← borrowTemporary value
      return some ref

def convertSendOptions (jOptions : LocalRef Java.SendOptions) :
    Jni Native.SendOptions := do
  let isUnordered := (← useRef jOptions).isUnordered
  let lifetime ← borrowField (← useRef jOptions).lifetime
  let maxRetransmissions ← borrowField (← useRef jOptions).maxRetransmissions
  let lifecycleId := (← useRef jOptions).lifecycleId
  let lifetime ← convertOptional (fun value => Native.DurationMs.mk value.toInt32) lifetime
  let maxRetransmissions ← convertOptional Int64.toUInt64 maxRetransmissions
  let options : Native.SendOptions :=
    { unordered := isUnordered
      lifetime := lifetime
      maxRetransmissions := maxRetransmissions
      lifecycleId := ⟨lifecycleId.toUInt64⟩ }
  return options

namespace NativeSctpSocket

def send_ (dcsctp : DcSctpSocket σ) (socket : σ) (payload : LocalRef (List Int8))
    (ppid : Int32) (streamId : Int16) (isUnordered : Bool)
    (lifetime maxRetransmissions : Option (LocalRef Int64)) (lifecycleId : Int64) :
    Jni (Int32 × σ) :=
  withArrayAccess payload fun vPayload => do
    let message : Native.DcSctpMessage :=
      { streamId := ⟨streamId.toUInt16⟩
        ppid := ⟨ppid.toUInt32⟩
        payload := fromByteArray vPayload }
    let lifetime ← convertOptional (fun value => Native.DurationMs.mk value.toInt32) lifetime
    let maxRetransmissions ← convertOptional Int64.toUInt64 maxRetransmissions
    let options : Native.SendOptions :=
      { unordered := isUnordered
        lifetime := lifetime
        maxRetransmissions := maxRetransmissions
        lifecycleId := ⟨lifecycleId.toUInt64⟩ }
    let (status, socket) := dcsctp.send socket message options
    return (status.toInt32, socket)

/-- The `transform` over the Java array; each element is a local reference that
lives as long as the lambda's parameter. -/
def convertAll (messages : LocalRef (List Java.DcSctpMessage)) :
    List Java.DcSctpMessage → Jni (List Native.DcSctpMessage)
  | [] => pure []
  | message :: rest => do
      let _ ← useRef messages
      let converted ← withLocal message convertDcSctpMessage
      let vmessages ← convertAll messages rest
      return converted :: vmessages

def sendMany_ (dcsctp : DcSctpSocket σ) (socket : σ)
    (messages : LocalRef (List Java.DcSctpMessage)) (joptions : LocalRef Java.SendOptions) :
    Jni (LocalRef (List Int32) × σ) :=
  withArrayAccess messages fun jmessages => do
    let vmessages ← convertAll messages jmessages
    let options ← convertSendOptions joptions
    let (statuses, socket) := dcsctp.sendMany socket vmessages options
    let statusArray ← acquire (statuses.map Native.SendStatus.toInt32)
    let _ ← useRef statusArray
    let _ ← useRef statusArray
    return (statusArray, socket)

end NativeSctpSocket

/-! ## The Java side -/

def Java.SendStatus.fromNativeStatus (nativeStatus : Int32) : Jni Java.SendStatus := do
  let javaStatus ←
    if nativeStatus = 0 then pure Java.SendStatus.kSuccess
    else if nativeStatus = 1 then pure .kErrorMessageEmpty
    else if nativeStatus = 2 then pure .kErrorMessageTooLarge
    else if nativeStatus = 3 then pure .kErrorResourceExhaustion
    else if nativeStatus = 4 then pure .kErrorShuttingDown
    else
      throwException ⟨"java.lang.IllegalArgumentException",
        s!"Bad native status value {nativeStatus}"⟩
  if javaStatus.nativeStatus = nativeStatus then
    return javaStatus
  else
    throwException ⟨"java.lang.IllegalStateException",
      s!"native status {nativeStatus} was mapped to java status " ++
        s!"{javaStatus.name} == {javaStatus.nativeStatus}"⟩

/-- `Arrays.stream(nativeStatuses).mapToObj(SendStatus::fromNativeStatus)`. -/
def Java.SendStatus.fromNativeStatuses : List Int32 → Jni (List Java.SendStatus)
  | [] => pure []
  | nativeStatus :: rest => do
      let status ← fromNativeStatus nativeStatus
      let statuses ← fromNativeStatuses rest
      return status :: statuses

def acquireOptional : Option Int64 → Jni (Option (LocalRef Int64))
  | none => pure none
  | some value => do
      let ref ← acquire value
      return some ref

namespace NativeSctpSocket

def callSend_ (dcsctp : DcSctpSocket σ) (socket : σ) (payload : List Int8) (ppid : Int32)
    (streamId : Int16) (isUnordered : Bool) (lifetime maxRetransmissions : Option Int64)
    (lifecycleId : Int64) : Jni (Int32 × σ) :=
  inFrame do
    let payload ← acquire payload
    let lifetime ← acquireOptional lifetime
    let maxRetransmissions ← acquireOptional maxRetransmissions
    send_ dcsctp socket payload ppid streamId isUnordered lifetime maxRetransmissions
      lifecycleId

def callSendMany_ (dcsctp : DcSctpSocket σ) (socket : σ)
    (messages : List Java.DcSctpMessage) (options : Java.SendOptions) :
    Jni (List Int32 × σ) :=
  inFrame do
    let messages ← acquire messages
    let options ← acquire options
    let (statusArray, socket) ← sendMany_ dcsctp socket messages options
    let nativeStatuses ← useRef statusArray
    return (nativeStatuses, socket)

def send (dcsctp : DcSctpSocket σ) (socket : σ) (message : Java.DcSctpMessage)
    (options : Java.SendOptions) : Jni (Java.SendStatus × σ) := do
  let (nativeStatus, socket) ← callSend_ dcsctp socket
    message.payload message.ppid message.streamId
    options.isUnordered options.lifetime options.maxRetransmissions options.lifecycleId
  let status ← Java.SendStatus.fromNativeStatus nativeStatus
  return (status, socket)

def sendMany (dcsctp : DcSctpSocket σ) (socket : σ) (messages : List Java.DcSctpMessage)
    (options : Java.SendOptions) : Jni (List Java.SendStatus × σ) := do
  let (nativeStatuses, socket) ← callSendMany_ dcsctp socket messages options
  let statuses ← Java.SendStatus.fromNativeStatuses nativeStatuses
  return (statuses, socket)

end NativeSctpSocket

/-! ## What the conversions compute -/

def Java.DcSctpMessage.toNative (message : Java.DcSctpMessage) : Native.DcSctpMessage where
  streamId := ⟨message.streamId.toUInt16⟩
  ppid := ⟨message.ppid.toUInt32⟩
  payload := fromByteArray message.payload

def Java.SendOptions.toNative (options : Java.SendOptions) : Native.SendOptions where
  unordered := options.isUnordered
  lifetime := options.lifetime.map fun value => ⟨value.toInt32⟩
  maxRetransmissions := options.maxRetransmissions.map Int64.toUInt64
  lifecycleId := ⟨options.lifecycleId.toUInt64⟩

def Native.SendStatus.toJava : Native.SendStatus → Java.SendStatus
  | .kSuccess => .kSuccess
  | .kErrorMessageEmpty => .kErrorMessageEmpty
  | .kErrorMessageTooLarge => .kErrorMessageTooLarge
  | .kErrorResourceExhaustion => .kErrorResourceExhaustion
  | .kErrorShuttingDown => .kErrorShuttingDown

section Conversions

variable {held : List Nat} {α : Type}

theorem withArrayAccess_returns {ε : Type} {ref : LocalRef (List ε)}
    {body : List ε → Jni α} {value : α} (owned : ref.handle ∈ held)
    (inner : Returns held (body ref.object) value) :
    Returns held (withArrayAccess ref body) value :=
  Returns.bind (Returns.useRef owned) <|
    Returns.guarded inner (Returns.bind (Returns.useRef owned) (Returns.pure ()))

theorem convertOptional_returns {ν : Type} (convert : Int64 → ν)
    (ref : Option (LocalRef Int64)) (owned : ∀ some ∈ ref, some.handle ∈ held) :
    Returns held (convertOptional convert ref)
      (ref.map fun present => convert present.object) := by
  cases ref with
  | none => exact Returns.pure none
  | some present =>
      exact Returns.bind (Returns.useRef (owned present rfl)) (Returns.pure _)

theorem convertDcSctpMessage_returns {jmessage : LocalRef Java.DcSctpMessage}
    (owned : jmessage.handle ∈ held) :
    Returns held (convertDcSctpMessage jmessage) jmessage.object.toNative := by
  apply Returns.bind (Returns.useRef owned)
  apply Returns.withLocal
  intro handle
  have stillOwned : jmessage.handle ∈ handle :: held := List.mem_cons_of_mem _ owned
  let payload : LocalRef (List Int8) := ⟨handle, jmessage.object.payload⟩
  have payloadOwned : payload.handle ∈ handle :: held := List.mem_cons_self
  apply withArrayAccess_returns payloadOwned
  apply Returns.bind (Returns.useRef stillOwned)
  apply Returns.bind (Returns.useRef stillOwned)
  exact Returns.pure _

theorem convertAll_returns {messages : LocalRef (List Java.DcSctpMessage)}
    (owned : messages.handle ∈ held) (elements : List Java.DcSctpMessage) :
    Returns held (NativeSctpSocket.convertAll messages elements)
      (elements.map Java.DcSctpMessage.toNative) := by
  induction elements with
  | nil => exact Returns.pure []
  | cons message rest induction =>
      have converted : Returns held (withLocal message convertDcSctpMessage)
          message.toNative := by
        apply Returns.withLocal
        intro handle
        apply convertDcSctpMessage_returns
        exact List.mem_cons_self
      apply Returns.bind (Returns.useRef owned)
      apply Returns.bind converted
      apply Returns.bind induction
      exact Returns.pure _

/-- `send_` hands dcsctp the same native message and options, whatever the
optional fields hold. -/
theorem sendNative_returns (dcsctp : DcSctpSocket σ) (socket : σ)
    {payload : LocalRef (List Int8)} (ppid : Int32) (streamId : Int16)
    (isUnordered : Bool) {lifetime maxRetransmissions : Option (LocalRef Int64)}
    (lifecycleId : Int64) (payloadOwned : payload.handle ∈ held)
    (lifetimeOwned : ∀ ref ∈ lifetime, ref.handle ∈ held)
    (limitOwned : ∀ ref ∈ maxRetransmissions, ref.handle ∈ held) :
    let sent := dcsctp.send socket
      (Java.DcSctpMessage.toNative { streamId, ppid, payload := payload.object })
      (Java.SendOptions.toNative
        { isUnordered, lifecycleId, lifetime := lifetime.map (·.object),
          maxRetransmissions := maxRetransmissions.map (·.object) })
    Returns held (NativeSctpSocket.send_ dcsctp socket payload ppid streamId isUnordered
      lifetime maxRetransmissions lifecycleId) (sent.1.toInt32, sent.2) := by
  apply withArrayAccess_returns payloadOwned
  apply Returns.bind (convertOptional_returns _ lifetime lifetimeOwned)
  apply Returns.bind (convertOptional_returns _ maxRetransmissions limitOwned)
  simpa [Java.DcSctpMessage.toNative, Java.SendOptions.toNative, Function.comp_def] using
    Returns.pure _

end Conversions

/-- Neither exception of `fromNativeStatus` is possible for dcsctp's statuses. -/
theorem fromNativeStatus_run (status : Native.SendStatus) (setting : JniSetting)
    (env : JniEnv) :
    (Java.SendStatus.fromNativeStatus status.toInt32).run setting env =
      (.ok status.toJava, env) := by
  cases status <;> rfl

theorem fromNativeStatuses_run (setting : JniSetting) (env : JniEnv)
    (statuses : List Native.SendStatus) :
    (Java.SendStatus.fromNativeStatuses
      (statuses.map Native.SendStatus.toInt32)).run setting env =
        (.ok (statuses.map Native.SendStatus.toJava), env) := by
  induction statuses with
  | nil => rfl
  | cons status rest induction =>
      rw [List.map_cons, Java.SendStatus.fromNativeStatuses,
        run_bind_ok (fromNativeStatus_run status setting env), run_bind_ok induction]
      rfl

end Dcsctp4j
