import Dcsctp4j.BridgeRefinement
import Dcsctp4j.MessageRoundTrip

/-! # Applications over the bridge

An application creates a socket and works with it through any number of calls,
each chosen by what the calls before it returned. Over the bridge it runs as the
same application of dcsctp itself does, with no wrapper between dcsctp and its
callbacks.
-/

namespace Dcsctp4j

open NativeFrame NativeFrame.Program

variable {σ α : Type} {sizeType : SizeType}

/-! ## A client of the Java interface -/

@[reducible] def JavaOperation.Outcome (operation : JavaOperation sizeType) : Type :=
  Except Throwable operation.Value

abbrev JavaClient (sizeType : SizeType) (α : Type) : Type :=
  Dialogue (JavaOperation sizeType) JavaOperation.Outcome α

def callOverJni (libraries : Libraries) (dcsctp : DcSctpMachine σ)
    (operation : JavaOperation sizeType) : StateT σ Jni operation.Outcome :=
  fun socket => catching socket (operation.call libraries dcsctp socket)

def JavaClient.run (client : JavaClient sizeType α) (libraries : Libraries)
    (javaStringToCpp : JString → NativeText) (factory : DcSctpFactory σ)
    (dcsctp : DcSctpMachine σ) (logPrefix : JString) (observed : Bool)
    (options : Native.DcSctpOptions) : Jni (α × σ) := do
  let socket ← DcSctpSocketFactory.create libraries factory javaStringToCpp logPrefix observed
    options
  (Dialogue.run (callOverJni libraries dcsctp) client).run socket

/-! ## The same client of dcsctp -/

def stateDenotes : Java.SocketState → Native.SocketState → Prop
  | .kClosed, .kClosed
  | .kConnecting, .kConnecting
  | .kConnected, .kConnected
  | .kShuttingDown, .kShuttingDown => True
  | _, _ => False

def sendStatusDenotes : Java.SendStatus → Native.SendStatus → Prop
  | .kSuccess, .kSuccess
  | .kErrorMessageEmpty, .kErrorMessageEmpty
  | .kErrorMessageTooLarge, .kErrorMessageTooLarge
  | .kErrorResourceExhaustion, .kErrorResourceExhaustion
  | .kErrorShuttingDown, .kErrorShuttingDown => True
  | _, _ => False

def resetStatusDenotes : Java.ResetStreamsStatus → Native.ResetStreamsStatus → Prop
  | .kNotConnected, .kNotConnected
  | .kPerformed, .kPerformed
  | .kNotSupported, .kNotSupported => True
  | _, _ => False

/-- A lifetime is read with the 32 bits that dcsctp has for it. -/
def sendOptionsDenote (java : Java.SendOptions) (native : Native.SendOptions) : Prop :=
  native.unordered = java.isUnordered ∧
    native.lifetime.map (fun lifetime => lifetime.value.toInt) =
      java.lifetime.map (fun lifetime => lifetime.toInt.bmod (2 ^ 32)) ∧
    native.maxRetransmissions.map UInt64.toNat =
      java.maxRetransmissions.map (fun limit => unsignedReading 64 limit.toInt) ∧
    native.lifecycleId.value.toNat = unsignedReading 64 java.lifecycleId.toInt

namespace JavaOperation

/-- The operation of the same meaning with arguments of the same meaning. -/
def Denotes : JavaOperation sizeType → NativeOperation → Prop
  | .receivePacket data offset length _, .receivePacket packet =>
      InRange data offset length ∧
        bytesDenote ((data.elements.drop offset.toInt.toNat).take length.toInt.toNat) packet
  | .handleTimeout timeoutId, .handleTimeout id =>
      unsignedReading 64 timeoutId.toInt = id.value.toNat
  | .connect, .connect
  | .shutdown, .shutdown
  | .close, .close
  | .state, .state
  | .options, .options
  | .getMetrics, .getMetrics => True
  | .setStreamPriority streamId streamPriority, .setStreamPriority id priority =>
      unsignedReading 16 streamId.toInt = id.value.toNat ∧
        unsignedReading 16 streamPriority.toInt = priority.value.toNat
  | .getStreamPriority streamId, .getStreamPriority id
  | .bufferedAmount streamId, .bufferedAmount id
  | .bufferedAmountLowThreshold streamId, .bufferedAmountLowThreshold id =>
      unsignedReading 16 streamId.toInt = id.value.toNat
  | .setBufferedAmountLowThreshold streamId bytes, .setBufferedAmountLowThreshold id amount =>
      unsignedReading 16 streamId.toInt = id.value.toNat ∧
        unsignedReading 64 bytes.toInt = amount.toNat
  | .send jMessage jOptions, .send message sendOptions =>
      messageDenotes jMessage message ∧ sendOptionsDenote jOptions sendOptions
  | .sendMany jMessages jOptions _, .sendMany messages sendOptions =>
      List.Forall₂ messageDenotes jMessages messages ∧ sendOptionsDenote jOptions sendOptions
  | .resetStreams outgoingStreams, .resetStreams ids =>
      ∃ streams, outgoingStreams = streams.map some ∧ streamsDenote streams ids
  | _, _ => False

/-- The caller gets dcsctp's result, or the value of the same meaning. -/
def Returns : (operation : JavaOperation sizeType) → (native : NativeOperation) →
    operation.Value → native.Result → Prop
  | .state, .state, value, result => stateDenotes value result
  | .getStreamPriority _, .getStreamPriority _, value, result =>
      unsignedReading 16 value.toInt = result.value.toNat
  | .send _ _, .send _ _, value, result => sendStatusDenotes value result
  | .sendMany _ _ _, .sendMany _ _, value, result => List.Forall₂ sendStatusDenotes value result
  | .resetStreams _, .resetStreams _, value, result => resetStatusDenotes value result
  | .bufferedAmount _, .bufferedAmount _, value, result
  | .bufferedAmountLowThreshold _, .bufferedAmountLowThreshold _, value, result =>
      unsignedReading 64 value.toInt = result.toNat
  | .options, .options, value, result => value = result
  | .getMetrics, .getMetrics, value, result => value = result
  | _, _, _, _ => True

/-- A range outside its array, or a stream that is null. -/
def Refusable : JavaOperation sizeType → Prop
  | .receivePacket data offset length _ => ¬InRange data offset length
  | .resetStreams outgoingStreams => none ∈ outgoingStreams
  | _ => False

end JavaOperation

namespace JavaClient

/-- The client of dcsctp makes the calls that the Java client means, and goes on as
the Java client does with the values that its results mean. Calls that can be
refused it does not make. -/
inductive Translates : JavaClient sizeType α → NativeDialogue α → Prop
  | reply (value : α) : Translates (.reply value) (.reply value)
  | refused {operation : JavaOperation sizeType}
      {next : operation.Outcome → JavaClient sizeType α} {native : NativeDialogue α}
      {throwable : Throwable} (refusable : operation.Refusable)
      (rest : Translates (next (.error throwable)) native) :
      Translates (.ask operation next) native
  | asked {operation : JavaOperation sizeType} {entered : NativeOperation}
      {next : operation.Outcome → JavaClient sizeType α}
      {nextNative : entered.Result → NativeDialogue α} (read : entered.Result → operation.Value)
      (denotes : operation.Denotes entered)
      (returns : ∀ result, operation.Returns entered (read result) result)
      (rest : ∀ result, Translates (next (.ok (read result))) (nextNative result)) :
      Translates (.ask operation next) (.ask entered nextNative)

def native (client : JavaClient sizeType α) : NativeDialogue α :=
  Dialogue.run JavaOperation.meaning client

end JavaClient

/-! ## Its run, without the bridge -/

abbrev WrapperDialogue := Dialogue WrapperCall WrapperCall.Answer

def enterDirectly (dcsctp : DcSctpMachine σ) (operation : NativeOperation) :
    StateT σ WrapperDialogue operation.Result :=
  dcsctp.serve get set (fun call => StateT.lift (.question call)) operation

def runNative (client : NativeDialogue α) (factory : DcSctpFactory σ)
    (dcsctp : DcSctpMachine σ) (logPrefix : NativeText) (observed : Bool)
    (options : Native.DcSctpOptions) : WrapperDialogue (α × σ) := do
  let socket ← factory logPrefix observed options
  (client.run (enterDirectly dcsctp)).run socket

namespace WrapperCall

def isIncomingStreamsReset : WrapperCall → Bool
  | .callback event => event.isIncomingStreamsReset
  | _ => false

/-- The calls of the application of the same meaning. A timeout is restarted as the
default method does it. -/
def Denotes (reads : JString → NativeText → Prop) : WrapperCall → List ApplicationCall → Prop
  | .callback event, calls => ∃ call, calls = [call] ∧ Dcsctp4j.Denotes reads event call
  | .createTimeout precision, calls =>
      ∃ jPrecision, calls = [.createTimeout jPrecision] ∧ precisionDenotes jPrecision precision
  | .timeMillis, calls | .now, calls => calls = [.now]
  | .getRandomInt low high, calls =>
      ∃ jLow jHigh : Int64, calls = [.getRandomInt jLow jHigh] ∧
        jLow.toInt = low.toNat ∧ jHigh.toInt = high.toNat
  | .timeoutStart timeout duration timeoutId, calls =>
      ∃ jDuration jTimeoutId, calls = [.timeoutStart timeout.timeout jDuration jTimeoutId] ∧
        jDuration.toInt = duration.value.toInt ∧
        unsignedReading 64 jTimeoutId.toInt = timeoutId.value.toNat
  | .timeoutStop timeout, calls => calls = [.timeoutStop timeout.timeout]
  | .timeoutRestart timeout duration timeoutId, calls =>
      ∃ jDuration jTimeoutId, calls = [.timeoutStop timeout.timeout,
          .timeoutStart timeout.timeout jDuration jTimeoutId] ∧
        jDuration.toInt = duration.value.toInt ∧
        unsignedReading 64 jTimeoutId.toInt = timeoutId.value.toNat

end WrapperCall

/-- Calls of an application that answers by what it was called before, for the
exchanges of dcsctp with its callbacks. -/
inductive Corresponds (libraries : Libraries) (reads : JString → NativeText → Prop)
    (answer : List ApplicationCall → (call : ApplicationCall) → call.Reply) :
    List ApplicationCall → List (Σ wrapper : WrapperCall, wrapper.Answer) →
      List ApplicationCall → Prop
  | nil (history : List ApplicationCall) : Corresponds libraries reads answer history [] []
  | cons {history calls later : List ApplicationCall} {wrapper : WrapperCall}
      {value : wrapper.Answer} {exchanges : List (Σ wrapper : WrapperCall, wrapper.Answer)}
      (denotes : wrapper.isIncomingStreamsReset = false → wrapper.Denotes reads calls)
      (told : AnswerDenotes libraries (answer history) wrapper value)
      (rest : Corresponds libraries reads answer (history ++ calls) exchanges later) :
      Corresponds libraries reads answer history (⟨wrapper, value⟩ :: exchanges)
        (calls ++ later)

/-! ## The meaning of a call -/

section Meaning

theorem stateDenotes_map (state : Native.SocketState) :
    stateDenotes (SocketStateMembers.map state) state := by
  cases state <;> trivial

theorem sendStatusDenotes_toJava (status : Native.SendStatus) :
    sendStatusDenotes status.toJava status := by
  cases status <;> trivial

theorem resetStatusDenotes_map (status : Native.ResetStreamsStatus) :
    resetStatusDenotes (ResetStreamsStatusMembers.map status) status := by
  cases status <;> trivial

theorem sendOptionsDenote_toNative (options : Java.SendOptions) :
    sendOptionsDenote options options.toNative := by
  refine ⟨rfl, ?_, ?_, toNat_toUInt64 _⟩
  · simp [Java.SendOptions.toNative, Function.comp_def]
  · simp [Java.SendOptions.toNative, Function.comp_def, toNat_toUInt64]

theorem unsignedReading_toInt64 (value : UInt64) :
    unsignedReading 64 value.toInt64.toInt = value.toNat := by
  rw [← toNat_toUInt64, UInt64.toUInt64_toInt64]

namespace JavaClient

variable {operation : JavaOperation sizeType}
  {next : operation.Outcome → JavaClient sizeType α}

theorem Translates.meaning
    (rest : ∀ outcome, Translates (next outcome) (JavaClient.native (next outcome))) :
    Translates (.ask operation next) (JavaClient.native (.ask operation next)) := by
  have split : JavaClient.native (.ask operation next) =
      operation.meaning >>= fun outcome => JavaClient.native (next outcome) := rfl
  rw [split]
  cases operation with
  | receivePacket data offset length safe =>
      rcases safe with inRange | refused
      · rw [JavaOperation.meaning, receivePacket_accepted (inRange.not_refused sizeType)]
        refine .asked id ⟨inRange, ?_⟩ (fun _ => trivial) fun _ => rest _
        rw [fromByteArray, ← List.map_drop, ← List.map_take]
        exact bytesDenote_fromByteArray _
      · rcases receivePacket_refused refused with ⟨throwable, raised⟩
        rw [JavaOperation.meaning, raised]
        exact .refused (fun inRange => inRange.not_refused sizeType refused) (rest _)
  | handleTimeout timeoutId =>
      exact .asked id (toNat_toUInt64 _).symm (fun _ => trivial) fun _ => rest _
  | connect => exact .asked id trivial (fun _ => trivial) fun _ => rest _
  | shutdown => exact .asked id trivial (fun _ => trivial) fun _ => rest _
  | close => exact .asked id trivial (fun _ => trivial) fun _ => rest _
  | state => exact .asked SocketStateMembers.map trivial stateDenotes_map fun _ => rest _
  | options => exact .asked id trivial (fun _ => rfl) fun _ => rest _
  | setStreamPriority streamId streamPriority =>
      exact .asked id ⟨(toNat_toUInt16 _).symm, (toNat_toUInt16 _).symm⟩ (fun _ => trivial)
        fun _ => rest _
  | getStreamPriority streamId =>
      exact .asked Native.StreamPriority.toShort (toNat_toUInt16 _).symm
        (fun priority => unsignedReading_toInt16 priority.value) fun _ => rest _
  | send message sendOptions =>
      exact .asked Native.SendStatus.toJava
        ⟨messageDenotes_toNative message, sendOptionsDenote_toNative sendOptions⟩
        sendStatusDenotes_toJava fun _ => rest _
  | sendMany messages sendOptions safe =>
      refine .asked (List.map Native.SendStatus.toJava)
        ⟨?_, sendOptionsDenote_toNative sendOptions⟩ ?_ fun _ => rest _
      · rw [List.forall₂_map_right_iff, List.forall₂_same]
        exact fun message _ => messageDenotes_toNative message
      · intro statuses
        change List.Forall₂ sendStatusDenotes (statuses.map Native.SendStatus.toJava) statuses
        rw [List.forall₂_map_left_iff, List.forall₂_same]
        exact fun status _ => sendStatusDenotes_toJava status
  | resetStreams outgoingStreams =>
      rw [JavaOperation.meaning]
      split
      · rename_i null
        exact .refused null (rest _)
      · rename_i noNull
        refine .asked ResetStreamsStatusMembers.map
          ⟨outgoingStreams.reduceOption, (map_some_reduceOption noNull).symm, ?_⟩
          resetStatusDenotes_map fun _ => rest _
        exact streamsDenote_toStreamIds _
  | bufferedAmount streamId =>
      exact .asked UInt64.toInt64 (toNat_toUInt16 _).symm unsignedReading_toInt64 fun _ => rest _
  | bufferedAmountLowThreshold streamId =>
      exact .asked UInt64.toInt64 (toNat_toUInt16 _).symm unsignedReading_toInt64 fun _ => rest _
  | setBufferedAmountLowThreshold streamId bytes =>
      exact .asked id ⟨(toNat_toUInt16 _).symm, (toNat_toUInt64 _).symm⟩ (fun _ => trivial)
        fun _ => rest _
  | getMetrics => exact .asked id trivial (fun _ => rfl) fun _ => rest _

theorem translates_native (client : JavaClient sizeType α) : client.Translates client.native := by
  induction client with
  | reply value => exact .reply value
  | ask operation next induction => exact .meaning induction

end JavaClient

end Meaning

/-! ## The same run -/

section Wrappers

theorem WrapperCall.applicationCalls_denote (libraries : Libraries)
    {reads : JString → NativeText → Prop}
    (textsRead : ∀ text, reads (libraries.javaStringCreate text) text) (wrapper : WrapperCall)
    (other : wrapper.isIncomingStreamsReset = false) :
    wrapper.Denotes reads (wrapper.applicationCalls libraries) := by
  cases wrapper with
  | callback event =>
      exact ⟨_, rfl, (event.denotes_applicationCall_iff libraries textsRead).mpr other⟩
  | createTimeout precision =>
      refine ⟨_, rfl, ?_⟩
      cases precision <;> trivial
  | timeMillis => rfl
  | now => rfl
  | getRandomInt low high => exact ⟨_, _, rfl, toInt_unsigned low, toInt_unsigned high⟩
  | timeoutStart timeout duration timeoutId =>
      exact ⟨_, _, rfl, Int32.toInt_toInt64 _, unsignedReading_toInt64 _⟩
  | timeoutStop timeout => rfl
  | timeoutRestart timeout duration timeoutId =>
      exact ⟨_, _, rfl, Int32.toInt_toInt64 _, unsignedReading_toInt64 _⟩

/-- The step is one question of dcsctp. -/
theorem corresponds_converse (libraries : Libraries) {reads : JString → NativeText → Prop}
    (textsRead : ∀ text, reads (libraries.javaStringCreate text) text)
    (answer : List ApplicationCall → (call : ApplicationCall) → call.Reply)
    (dialogue : WrapperDialogue α) (history : List ApplicationCall) :
    ∃ value exchanges calls,
      (dialogue.run (WrapperCall.dialogue libraries)).converse answer history =
        (value, history ++ calls) ∧
      dialogue.Follows exchanges value ∧
      Corresponds libraries reads answer history exchanges calls := by
  induction dialogue generalizing history with
  | reply value =>
      exact ⟨value, [], [], congrArg (Prod.mk value) (List.append_nil history).symm,
        .reply value, .nil history⟩
  | ask wrapper next induction =>
      have called := wrapper.converse_dialogue libraries answer history
      have told := wrapper.answer_denotes libraries answer history
      rcases conversed : (wrapper.dialogue libraries).converse answer history with
        ⟨answered, asked⟩
      rw [conversed] at called told
      subst called
      rcases induction answered (history ++ wrapper.applicationCalls libraries) with
        ⟨value, exchanges, calls, ran, follows, corresponds⟩
      refine ⟨value, ⟨wrapper, answered⟩ :: exchanges, wrapper.applicationCalls libraries ++ calls,
        ?_, .ask follows,
        .cons (wrapper.applicationCalls_denote libraries textsRead) told corresponds⟩
      change (wrapper.dialogue libraries >>= fun answered =>
        (next answered).run (WrapperCall.dialogue libraries)).converse answer history = _
      rw [Dialogue.converse_bind, conversed, ran, List.append_assoc]

end Wrappers

section Clients

variable (libraries : Libraries) (factory : DcSctpFactory σ) (dcsctp : DcSctpMachine σ)
  (javaStringToCpp : JString → NativeText)

theorem createEntered_plays {held : List Nat} {jLogPrefix : LocalRef JString}
    {jCallbacks : LocalRef JObject} {jPacketObserver : Option (LocalRef JObject)}
    {jOptions : LocalRef Native.DcSctpOptions} (prefixOwned : jLogPrefix.handle ∈ held)
    (callbacksOwned : jCallbacks.handle ∈ held)
    (observerOwned : ∀ ref ∈ jPacketObserver.toList, ref.handle ∈ held)
    (optionsOwned : jOptions.handle ∈ held) :
    Plays held
      (DcSctpSocketFactory.create_ libraries factory javaStringToCpp jLogPrefix jCallbacks
        jPacketObserver jOptions)
      ((factory (javaStringToCpp jLogPrefix.object) jPacketObserver.isSome
        jOptions.object).run (WrapperCall.dialogue libraries)) := by
  apply Plays.afterSilent (Returns.useRef prefixOwned)
  apply Plays.afterSilent (Returns.useRef callbacksOwned)
  apply Plays.afterSilent (passAll_returns _ observerOwned)
  apply Plays.afterSilent (Returns.useRef optionsOwned)
  exact Plays.run (fun call held => call.perform_plays libraries held) _

theorem create_plays (logPrefix : JString) (observed : Bool)
    (options : Native.DcSctpOptions) :
    PlaysExactly
      (DcSctpSocketFactory.create libraries factory javaStringToCpp logPrefix observed options)
      ((factory (javaStringToCpp logPrefix) observed options).run
        (WrapperCall.dialogue libraries)) := by
  apply PlaysExactly.inFrame
  apply Plays.acquire
  intro first
  apply Plays.acquire
  intro second
  apply Plays.acquire
  intro third
  cases observed with
  | true =>
      apply Plays.acquire
      intro fourth
      apply createEntered_plays
      all_goals simp
  | false =>
      apply createEntered_plays
      all_goals simp

/-- The step is one call, and the run lets the later calls depend on it. -/
theorem calls_bridged (client : JavaClient sizeType α) (socket : σ) :
    PlaysExactly ((Dialogue.run (callOverJni libraries dcsctp) client).run socket)
      ((client.native.run (dcsctp.serve get set fun call =>
        StateT.lift (call.dialogue libraries))).run socket) := by
  induction client generalizing socket with
  | reply value => exact PlaysExactly.silent fun _ _ => rfl
  | ask operation next induction =>
      have split : JavaClient.native (.ask operation next) =
          operation.meaning >>= fun outcome => JavaClient.native (next outcome) := rfl
      rw [split, Dialogue.run_bind]
      apply PlaysExactly.bind (method_bridged libraries dcsctp socket operation)
      intro served
      exact induction served.1 served.2

theorem enterDirectly_run (operation : NativeOperation) (socket : σ) :
    ((enterDirectly dcsctp operation).run socket).run (WrapperCall.dialogue libraries) =
      (dcsctp.serve get set (fun call => StateT.lift (call.dialogue libraries))
        operation).run socket := by
  apply Dialogue.run_through
  intro request state
  cases request with
  | load => rfl
  | store after => rfl
  | ask call => rfl

theorem client_plays (client : JavaClient sizeType α) (logPrefix : JString) (observed : Bool)
    (options : Native.DcSctpOptions) :
    PlaysExactly
      (client.run libraries javaStringToCpp factory dcsctp logPrefix observed options)
      ((runNative client.native factory dcsctp (javaStringToCpp logPrefix) observed
        options).run (WrapperCall.dialogue libraries)) := by
  rw [runNative, Dialogue.run_bind]
  apply PlaysExactly.bind (create_plays libraries factory javaStringToCpp logPrefix observed
    options)
  intro socket
  rw [Dialogue.run_through (enterDirectly_run libraries dcsctp)]
  exact calls_bridged libraries dcsctp client socket

/-- For every factory and socket of dcsctp and every client: over JNI the client runs
as the same client of dcsctp runs without it. The application receives the calls of
the same meaning in the same order, with `OnIncomingStreamsReset` left open, the
client gets the same results, and the frame is left as it was. -/
theorem client_bridged (reads : JString → NativeText → Prop)
    (textsRead : ∀ text, reads (libraries.javaStringCreate text) text) {setting : JniSetting}
    {answer : List ApplicationCall → (call : ApplicationCall) → call.Reply}
    (serves : setting.Serves answer) (client : JavaClient sizeType α) (logPrefix : JString)
    (observed : Bool) (options : Native.DcSctpOptions) (env : JniEnv) :
    client.Translates client.native ∧
      ∃ value exchanges calls,
        (client.run libraries javaStringToCpp factory dcsctp logPrefix observed options).run
            setting env = (.ok value, { env with received := env.received ++ calls }) ∧
          (runNative client.native factory dcsctp (javaStringToCpp logPrefix) observed
            options).Follows exchanges value ∧
          Corresponds libraries reads answer env.received exchanges calls := by
  refine ⟨client.translates_native, ?_⟩
  have plays := client_plays libraries factory dcsctp javaStringToCpp client logPrefix observed
    options setting answer env serves
  rcases corresponds_converse libraries textsRead answer (runNative client.native factory dcsctp
    (javaStringToCpp logPrefix) observed options) env.received with
      ⟨value, exchanges, calls, conversed, follows, corresponds⟩
  rw [conversed] at plays
  exact ⟨value, exchanges, calls, plays, follows, corresponds⟩

end Clients

/-! ## A socket that sends back what it receives -/

def echoingFactory : DcSctpFactory Nat :=
  fun _ _ _ => .ask (.createTimeout .kLow) fun _ => .reply 0

/-- Counts the packets it has sent back; a full queue refuses every message. -/
def echoingSocket : DcSctpMachine Nat
  | .receivePacket data =>
      .ask .load fun count =>
        .ask (.ask (.callback (.sendPacketWithStatus data))) fun _ =>
          .ask (.store (count + 1)) fun _ => .reply ()
  | .handleTimeout _ | .connect | .shutdown | .close | .setStreamPriority _ _
  | .setBufferedAmountLowThreshold _ _ => .reply ()
  | .state => .ask .load fun count => .reply (if count = 0 then .kClosed else .kConnected)
  | .options => .reply sampleOptions
  | .getStreamPriority _ => .reply ⟨256⟩
  | .send _ _ => .reply .kErrorResourceExhaustion
  | .sendMany messages _ => .reply (messages.map fun _ => .kErrorResourceExhaustion)
  | .resetStreams _ => .reply .kNotSupported
  | .bufferedAmount _ | .bufferedAmountLowThreshold _ => .reply 0
  | .getMetrics => .reply none

theorem eightBytes_inRange : InRange eightBytes 2 3 := by
  refine ⟨?_, ?_, ?_⟩ <;> decide

/-- Three bytes of a packet go out and back, and the state tells. -/
def echoClient : JavaClient .jsize (Except Throwable Java.SocketState) :=
  .ask (.receivePacket eightBytes 2 3 (.inl eightBytes_inRange)) fun _ =>
    .ask .state .reply

theorem echoClient_run :
    (echoClient.run asciiLibraries (fun _ => []) echoingFactory echoingSocket [] false
      sampleOptions).run compliantSetting emptyEnv =
        (.ok (.ok .kConnected, 1),
          { emptyEnv with received := [.createTimeout .kLow, .sendPacketWithStatus [3, 4, 5]] }) :=
  client_plays asciiLibraries echoingFactory echoingSocket (fun _ => []) echoClient [] false
    sampleOptions compliantSetting (fun _ => compliantReply) emptyEnv compliantSetting_serves

theorem echoClient_bridged :
    echoClient.Translates echoClient.native ∧
      ∃ exchanges, (runNative echoClient.native echoingFactory echoingSocket [] false
          sampleOptions).Follows exchanges (.ok .kConnected, 1) ∧
        Corresponds asciiLibraries (fun text bytes => text = bytes.map UInt8.toUInt16)
          (fun _ => compliantReply) [] exchanges
          [.createTimeout .kLow, .sendPacketWithStatus [3, 4, 5]] := by
  rcases client_bridged asciiLibraries echoingFactory echoingSocket (fun _ => [])
    (fun text bytes => text = bytes.map UInt8.toUInt16) (fun _ => rfl) compliantSetting_serves
    echoClient [] false sampleOptions emptyEnv with
      ⟨translates, value, exchanges, calls, ran, follows, corresponds⟩
  rw [echoClient_run, Prod.mk.injEq, Except.ok.injEq, Env.mk.injEq] at ran
  rcases ran with ⟨rfl, -, -, received⟩
  change _ = calls at received
  subst received
  exact ⟨translates, exchanges, follows, corresponds⟩

end Dcsctp4j
