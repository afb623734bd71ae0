import Dcsctp4j.SocketApi
import Mathlib.Data.List.ReduceOption

/-! # The bridge as a dialogue

What a method of the Java socket amounts to once the references are left out: an
operation of dcsctp on the values that the arguments stand for, with the
application answering dcsctp's calls.
-/

namespace Dcsctp4j

open NativeFrame NativeFrame.Program

variable {σ : Type}

abbrev NativeDialogue := Dialogue NativeOperation NativeOperation.Result

def Native.StreamPriority.toShort (priority : Native.StreamPriority) : Int16 :=
  priority.value.toInt16

/-! ## Calls of the Java interface -/

/-- A call of a method of `DcSctpSocketInterface`. The two methods that are not
safe for all their arguments carry the condition under which they are. -/
inductive JavaOperation (sizeType : SizeType)
  | receivePacket (data : JavaByteArray) (offset length : Int32)
      (safe : InRange data offset length ∨ Refused sizeType data offset length)
  | handleTimeout (timeoutId : Int64)
  | connect
  | shutdown
  | close
  | state
  | options
  | setStreamPriority (streamId streamPriority : Int16)
  | getStreamPriority (streamId : Int16)
  | send (message : Java.DcSctpMessage) (options : Java.SendOptions)
  | sendMany (messages : List Java.DcSctpMessage) (options : Java.SendOptions)
      (safe : ¬options.Borrows)
  | resetStreams (outgoingStreams : List (Option Int16))
  | bufferedAmount (streamId : Int16)
  | bufferedAmountLowThreshold (streamId : Int16)
  | setBufferedAmountLowThreshold (streamId : Int16) (bytes : Int64)
  | getMetrics

namespace JavaOperation

variable {sizeType : SizeType}

@[reducible] def Value : JavaOperation sizeType → Type
  | .state => Java.SocketState
  | .options => Native.DcSctpOptions
  | .getStreamPriority _ => Int16
  | .send _ _ => Java.SendStatus
  | .sendMany _ _ _ => List Java.SendStatus
  | .resetStreams _ => Java.ResetStreamsStatus
  | .bufferedAmount _ | .bufferedAmountLowThreshold _ => Int64
  | .getMetrics => Option Native.Metrics
  | _ => Unit

def call (libraries : Libraries) (dcsctp : DcSctpMachine σ) (socket : σ) :
    (operation : JavaOperation sizeType) → Jni (operation.Value × σ)
  | .receivePacket data offset length _ =>
      SocketApi.receivePacket libraries dcsctp socket sizeType data offset length
  | .handleTimeout timeoutId => SocketApi.handleTimeout libraries dcsctp socket timeoutId
  | .connect => SocketApi.connect libraries dcsctp socket
  | .shutdown => SocketApi.shutdown libraries dcsctp socket
  | .close => SocketApi.close libraries dcsctp socket
  | .state => SocketApi.state libraries dcsctp socket
  | .options => SocketApi.options libraries dcsctp socket
  | .setStreamPriority streamId streamPriority =>
      SocketApi.setStreamPriority libraries dcsctp socket streamId streamPriority
  | .getStreamPriority streamId => SocketApi.getStreamPriority libraries dcsctp socket streamId
  | .send message sendOptions => SocketApi.send libraries dcsctp socket message sendOptions
  | .sendMany messages sendOptions _ =>
      SocketApi.sendMany libraries dcsctp socket messages sendOptions
  | .resetStreams outgoingStreams =>
      SocketApi.resetStreams libraries dcsctp socket outgoingStreams
  | .bufferedAmount streamId => SocketApi.bufferedAmount libraries dcsctp socket streamId
  | .bufferedAmountLowThreshold streamId =>
      SocketApi.bufferedAmountLowThreshold libraries dcsctp socket streamId
  | .setBufferedAmountLowThreshold streamId bytes =>
      SocketApi.setBufferedAmountLowThreshold libraries dcsctp socket streamId bytes
  | .getMetrics => SocketApi.getMetrics libraries dcsctp socket

/-! ## What they mean natively -/

def enters {α : Type} (operation : NativeOperation) (read : operation.Result → α) :
    NativeDialogue (Except Throwable α) :=
  .ask operation fun result => .reply (.ok (read result))

def refuses {α : Type} (throwable : Throwable) : NativeDialogue (Except Throwable α) :=
  .reply (.error throwable)

/-- What dcsctp is asked, in the numbers it works with, and what the caller gets. -/
def meaning : (operation : JavaOperation sizeType) →
    NativeDialogue (Except Throwable operation.Value)
  | .receivePacket data offset length _ =>
      match NativeSctpSocket.receivePacket sizeType data offset length with
      | .error throwable => refuses throwable
      | .ok _ =>
          enters (.receivePacket (((fromByteArray data.elements).drop
            offset.toInt.toNat).take length.toInt.toNat)) id
  | .handleTimeout timeoutId => enters (.handleTimeout ⟨timeoutId.toUInt64⟩) id
  | .connect => enters .connect id
  | .shutdown => enters .shutdown id
  | .close => enters .close id
  | .state => enters .state SocketStateMembers.map
  | .options => enters .options id
  | .setStreamPriority streamId streamPriority =>
      enters (.setStreamPriority (toStreamId streamId) ⟨streamPriority.toUInt16⟩) id
  | .getStreamPriority streamId =>
      enters (.getStreamPriority (toStreamId streamId)) Native.StreamPriority.toShort
  | .send message sendOptions =>
      enters (.send message.toNative sendOptions.toNative) Native.SendStatus.toJava
  | .sendMany messages sendOptions _ =>
      enters (.sendMany (messages.map Java.DcSctpMessage.toNative) sendOptions.toNative)
        (List.map Native.SendStatus.toJava)
  | .resetStreams outgoingStreams =>
      if none ∈ outgoingStreams then refuses ⟨"java.lang.NullPointerException", ""⟩
      else
        enters (.resetStreams (toStreamIds outgoingStreams.reduceOption))
          ResetStreamsStatusMembers.map
  | .bufferedAmount streamId =>
      enters (.bufferedAmount (toStreamId streamId)) UInt64.toInt64
  | .bufferedAmountLowThreshold streamId =>
      enters (.bufferedAmountLowThreshold (toStreamId streamId)) UInt64.toInt64
  | .setBufferedAmountLowThreshold streamId bytes =>
      enters (.setBufferedAmountLowThreshold (toStreamId streamId) bytes.toUInt64) id
  | .getMetrics => enters .getMetrics id

end JavaOperation

def DcSctpMachine.conduct (dcsctp : DcSctpMachine σ) (libraries : Libraries)
    (operation : NativeOperation) (socket : σ) : AppDialogue (operation.Result × σ) :=
  (dcsctp.serve get set (fun call => StateT.lift (call.dialogue libraries)) operation).run socket

/-- A caller that catches what a method throws: the socket is as it was. -/
def catching {α : Type} (socket : σ) (method : Jni (α × σ)) :
    Jni (Except Throwable α × σ) where
  run setting env :=
    match method.run setting env with
    | (.ok (value, after), env) => (.ok (.ok value, after), env)
    | (.error (.managedException throwable), env) => (.ok (.error throwable, socket), env)
    | (.error .vmAborted, env) => (.error .vmAborted, env)

def JavaOperation.bridged {sizeType : SizeType} (operation : JavaOperation sizeType)
    (libraries : Libraries) (dcsctp : DcSctpMachine σ) (socket : σ) :
    AppDialogue (Except Throwable operation.Value × σ) :=
  (operation.meaning.run
    (dcsctp.serve get set fun call => StateT.lift (call.dialogue libraries))).run socket

/-! ## Rules -/

section Rules

variable {libraries : Libraries} {dcsctp : DcSctpMachine σ} {socket : σ} {α β : Type}
  {held : List Nat}

theorem enter_plays (operation : NativeOperation) :
    Plays held (dcsctp.enter libraries operation socket)
      (dcsctp.conduct libraries operation socket) :=
  Plays.serve (fun call held => call.perform_plays libraries held) (dcsctp operation) socket

theorem onlyEntered_plays (operation : NativeOperation) :
    Plays held (dcsctp.enter libraries operation socket)
      (dcsctp.conduct libraries operation socket >>= fun served =>
        .reply (id served.1, served.2)) := by
  change Plays held _ ((dcsctp.conduct libraries operation socket).bind .reply)
  rw [Dialogue.bind_reply]
  exact enter_plays operation

theorem entered_plays (operation : NativeOperation) (read : operation.Result → α) :
    Plays held (dcsctp.enter libraries operation socket >>= fun served =>
        pure (read served.1, served.2))
      (dcsctp.conduct libraries operation socket >>= fun served =>
        .reply (read served.1, served.2)) :=
  Plays.bind (enter_plays operation) fun served => Plays.pure (read served.1, served.2)

theorem enters_run (operation : NativeOperation) (read : operation.Result → α) :
    ((JavaOperation.enters operation read).run
      (dcsctp.serve get set fun call => StateT.lift (call.dialogue libraries))).run socket =
        dcsctp.conduct libraries operation socket >>= fun served =>
          .reply (.ok (read served.1), served.2) := rfl

theorem catching_plays {method : Jni (α × σ)} {operation : NativeOperation}
    {read : operation.Result → α}
    (plays : PlaysExactly method (dcsctp.conduct libraries operation socket >>= fun served =>
      .reply (read served.1, served.2))) :
    PlaysExactly (catching socket method)
      (((JavaOperation.enters operation read).run
        (dcsctp.serve get set fun call => StateT.lift (call.dialogue libraries))).run socket) := by
  intro setting answer env serves
  have ran := plays setting answer env serves
  rw [Dialogue.converse_bind] at ran
  rw [enters_run, Dialogue.converse_bind]
  change (match method.run setting env with
    | (.ok (value, after), env) => _
    | (.error (.managedException throwable), env) => _
    | (.error .vmAborted, env) => _) = _
  rw [ran]
  rfl

theorem catching_throws {method : Jni (α × σ)} {throwable : Throwable}
    (throws : ∀ setting env,
      method.run setting env = (.error (.managedException throwable), env)) :
    PlaysExactly (catching socket method) (.reply (.error throwable, socket)) := by
  intro setting answer env serves
  change (match method.run setting env with
    | (.ok (value, after), env) => _
    | (.error (.managedException throwable), env) => _
    | (.error .vmAborted, env) => _) = _
  rw [throws]
  rfl

theorem nativeMethod_plays {body : Jni (α × σ)} {operation : NativeOperation}
    {read : operation.Result → α}
    (plays : Plays [] body (dcsctp.conduct libraries operation socket >>= fun served =>
      .reply (read served.1, served.2))) :
    PlaysExactly (catching socket (inFrame body))
      (((JavaOperation.enters operation read).run
        (dcsctp.serve get set fun call => StateT.lift (call.dialogue libraries))).run socket) :=
  catching_plays (PlaysExactly.inFrame plays)

end Rules

/-! ## `receivePacket` -/

section Methods

variable (libraries : Libraries) (dcsctp : DcSctpMachine σ) (socket : σ)

/-- Both checks throw before dcsctp is entered, and the frame of the second is gone. -/
theorem receivePacket_throws {sizeType : SizeType} {data : JavaByteArray}
    {offset length : Int32} {throwable : Throwable}
    (refused : NativeSctpSocket.receivePacket sizeType data offset length = .error throwable)
    (setting : JniSetting) (env : JniEnv) :
    (SocketApi.receivePacket libraries dcsctp socket sizeType data offset length).run
      setting env = (.error (.managedException throwable), env) := by
  rw [NativeSctpSocket.receivePacket] at refused
  rw [SocketApi.receivePacket]
  split at refused
  · rename_i above
    cases refused
    rw [if_pos above]
    rfl
  · rename_i within
    rw [if_neg within, inFrame_run]
    have text : throwable = ⟨"java.lang.Throwable", throwable.message⟩ := by
      rw [NativeSctpSocket.receivePacket_] at refused
      split at refused <;> cases refused
      rfl
    simp [run_bind, acquire, useRef, SocketApi.receivePacket_, SocketApi.receiveView, refused,
      guarded, throwNew, withLocal, owning, throwException, ← text]

theorem receivePacket_plays {sizeType : SizeType} {data : JavaByteArray}
    {offset length : Int32} (inRange : InRange data offset length) :
    PlaysExactly
      (catching socket
        (SocketApi.receivePacket libraries dcsctp socket sizeType data offset length))
      (((JavaOperation.enters (.receivePacket (((fromByteArray data.elements).drop
        offset.toInt.toNat).take length.toInt.toNat)) id).run
          (dcsctp.serve get set fun call => StateT.lift (call.dialogue libraries))).run
            socket) := by
  have accepted := receivePacket_accepted (inRange.not_refused sizeType)
  have within : ¬data.length < offset + length := fun above =>
    inRange.not_refused sizeType (.inl above)
  rw [NativeSctpSocket.receivePacket, if_neg within] at accepted
  rw [SocketApi.receivePacket, if_neg within]
  apply nativeMethod_plays
  apply Plays.acquire
  intro handle
  have owned : handle ∈ [handle] := List.mem_cons_self
  apply Plays.afterSilent (Returns.useRef owned)
  apply Plays.guarded
  · rw [SocketApi.receiveView]
    simp only [accepted, PacketView.contents_of_inRange inRange]
    exact onlyEntered_plays _
  · exact Returns.bind (Returns.useRef owned) (Returns.pure ())

/-! ## Sending -/

variable {held : List Nat}

theorem acquireOptional_plays {α : Type} {dialogue : AppDialogue α} (value : Option Int64)
    {next : Option (LocalRef Int64) → Jni α}
    (rest : ∀ ref owned, (∀ handle ∈ held, handle ∈ owned) →
      (∀ present ∈ ref, present.handle ∈ owned) → ref.map LocalRef.object = value →
        Plays owned (next ref) dialogue) :
    Plays held (acquireOptional value >>= next) dialogue := by
  cases value with
  | none => exact rest none held (fun _ member => member) (by simp) rfl
  | some value =>
      change Plays held (acquire value >>= fun ref => next (some ref)) dialogue
      apply Plays.acquire
      intro handle
      exact rest (some ⟨handle, value⟩) (handle :: held)
        (fun _ member => List.mem_cons_of_mem _ member) (by simp) rfl

theorem sendEntered_plays {payload : LocalRef (List Int8)} (ppid : Int32) (streamId : Int16)
    (isUnordered : Bool) {lifetime maxRetransmissions : Option (LocalRef Int64)}
    (lifecycleId : Int64) (payloadOwned : payload.handle ∈ held)
    (lifetimeOwned : ∀ ref ∈ lifetime, ref.handle ∈ held)
    (limitOwned : ∀ ref ∈ maxRetransmissions, ref.handle ∈ held) :
    let message : Java.DcSctpMessage := { streamId, ppid, payload := payload.object }
    let options : Java.SendOptions :=
      { isUnordered, lifecycleId, lifetime := lifetime.map (·.object),
        maxRetransmissions := maxRetransmissions.map (·.object) }
    Plays held (SocketApi.send_ libraries dcsctp socket payload ppid streamId isUnordered
      lifetime maxRetransmissions lifecycleId)
        (dcsctp.conduct libraries (.send message.toNative options.toNative) socket >>=
          fun served => .reply (served.1.toInt32, served.2)) := by
  intro message options
  apply Plays.afterSilent (Returns.useRef payloadOwned)
  apply Plays.guarded
  · apply Plays.afterSilent (convertOptional_returns _ lifetime lifetimeOwned)
    apply Plays.afterSilent (convertOptional_returns _ maxRetransmissions limitOwned)
    have same : options.toNative =
        ⟨isUnordered, lifetime.map fun ref => ⟨ref.object.toInt32⟩,
          maxRetransmissions.map fun ref => ref.object.toUInt64, ⟨lifecycleId.toUInt64⟩⟩ := by
      simp [options, Java.SendOptions.toNative, Function.comp_def]
    rw [same]
    apply Plays.bind (enter_plays _)
    intro served
    exact Plays.pure _
  · exact Returns.bind (Returns.useRef payloadOwned) (Returns.pure ())

theorem send_plays (message : Java.DcSctpMessage) (options : Java.SendOptions) :
    PlaysExactly (SocketApi.send libraries dcsctp socket message options)
      (dcsctp.conduct libraries (.send message.toNative options.toNative) socket >>=
        fun served => .reply (served.1.toJava, served.2)) := by
  have native : Plays [] (do
      let payload ← acquire message.payload
      let lifetime ← acquireOptional options.lifetime
      let maxRetransmissions ← acquireOptional options.maxRetransmissions
      SocketApi.send_ libraries dcsctp socket payload message.ppid message.streamId
        options.isUnordered lifetime maxRetransmissions options.lifecycleId)
      (dcsctp.conduct libraries (.send message.toNative options.toNative) socket >>=
        fun served => .reply (served.1.toInt32, served.2)) := by
    apply Plays.acquire
    intro payload
    apply acquireOptional_plays
    intro lifetime withLifetime kept lifetimeOwned lifetimeObject
    apply acquireOptional_plays
    intro limit withLimit keeps limitOwned limitObject
    let payloadRef : LocalRef (List Int8) := ⟨payload, message.payload⟩
    have payloadOwned : payloadRef.handle ∈ withLimit := keeps _ (kept _ List.mem_cons_self)
    have entered := sendEntered_plays libraries dcsctp socket message.ppid message.streamId
      options.isUnordered options.lifecycleId payloadOwned
      (fun ref present => keeps _ (lifetimeOwned ref present)) limitOwned
    rw [lifetimeObject, limitObject] at entered
    exact entered
  apply PlaysExactly.bindRead (PlaysExactly.inFrame native)
  intro served
  apply PlaysExactly.silent
  intro setting env
  rw [run_bind_ok (fromNativeStatus_run served.1 setting env)]
  rfl

/-- Without the optional fields nothing is borrowed from a dead reference. -/
theorem convertSendOptions_returns {jOptions : LocalRef Java.SendOptions}
    (safe : ¬jOptions.object.Borrows) (owned : jOptions.handle ∈ held) :
    Returns held (convertSendOptions jOptions) jOptions.object.toNative := by
  rcases not_not.mp safe with ⟨noLifetime, noLimit⟩
  have fields : jOptions.object.toNative =
      ⟨jOptions.object.isUnordered, none, none, ⟨jOptions.object.lifecycleId.toUInt64⟩⟩ := by
    simp [Java.SendOptions.toNative, noLifetime, noLimit]
  have borrowed : Returns held (borrowField none) none := Returns.pure none
  rw [fields, convertSendOptions]
  apply Returns.bind (Returns.useRef owned)
  apply Returns.bind (Returns.useRef owned)
  rw [noLifetime]
  apply Returns.bind borrowed
  apply Returns.bind (Returns.useRef owned)
  rw [noLimit]
  apply Returns.bind borrowed
  apply Returns.bind (Returns.useRef owned)
  exact Returns.bind (Returns.pure none) (Returns.bind (Returns.pure none) (Returns.pure _))

theorem released_plays {β : Type} (object : β) (after : σ) :
    Plays held (do
      let ref ← acquire object
      let released ← SocketApi.release ref
      return (released, after) : Jni (β × σ)) (.reply (object, after)) := by
  apply Plays.acquire
  intro handle
  exact Plays.afterSilent (Returns.useRef List.mem_cons_self) (Plays.pure _)

theorem sendMany_plays (messages : List Java.DcSctpMessage) (options : Java.SendOptions)
    (safe : ¬options.Borrows) :
    PlaysExactly (SocketApi.sendMany libraries dcsctp socket messages options)
      (dcsctp.conduct libraries
        (.sendMany (messages.map Java.DcSctpMessage.toNative) options.toNative) socket >>=
          fun served => .reply (served.1.map Native.SendStatus.toJava, served.2)) := by
  have native : Plays [] (do
      let messages ← acquire messages
      let options ← acquire options
      SocketApi.sendMany_ libraries dcsctp socket messages options)
      (dcsctp.conduct libraries
        (.sendMany (messages.map Java.DcSctpMessage.toNative) options.toNative) socket >>=
          fun served => .reply (served.1.map Native.SendStatus.toInt32, served.2)) := by
    apply Plays.acquire
    intro first
    apply Plays.acquire
    intro second
    let messagesRef : LocalRef (List Java.DcSctpMessage) := ⟨first, messages⟩
    let optionsRef : LocalRef Java.SendOptions := ⟨second, options⟩
    have messagesOwned : messagesRef.handle ∈ [second, first] := by simp [messagesRef]
    have optionsOwned : optionsRef.handle ∈ [second, first] := List.mem_cons_self
    have converted : Returns [second, first] (convertSendOptions optionsRef) options.toNative :=
      convertSendOptions_returns safe optionsOwned
    apply Plays.afterSilent (Returns.useRef messagesOwned)
    apply Plays.guarded
    · apply Plays.afterSilent (convertAll_returns messagesOwned messages)
      apply Plays.afterSilent converted
      apply Plays.bind (enter_plays _)
      intro served
      apply Plays.acquire
      intro statuses
      have statusesOwned : statuses ∈ [statuses, second, first] := List.mem_cons_self
      apply Plays.afterSilent (Returns.useRef statusesOwned)
      apply Plays.afterSilent (Returns.useRef statusesOwned)
      exact Plays.afterSilent (Returns.useRef statusesOwned) (Plays.pure _)
    · exact Returns.bind (Returns.useRef messagesOwned) (Returns.pure ())
  apply PlaysExactly.bindRead (PlaysExactly.inFrame native)
  intro served
  apply PlaysExactly.silent
  intro setting env
  rw [run_bind_ok (fromNativeStatuses_run setting env served.1)]
  rfl

/-! ## Resetting streams -/

theorem resetStreams_throws {outgoingStreams : List (Option Int16)}
    (member : none ∈ outgoingStreams) (setting : JniSetting) (env : JniEnv) :
    (SocketApi.resetStreams libraries dcsctp socket outgoingStreams).run setting env =
      (.error (.managedException ⟨"java.lang.NullPointerException", ""⟩), env) := by
  have refused : (NativeSctpSocket.unboxList outgoingStreams).run setting env = _ :=
    unboxFrom_null member _ 0 (by simp) setting env
  rw [SocketApi.resetStreams, run_bind_error refused]

theorem map_some_reduceOption {streams : List (Option Int16)} (noNull : none ∉ streams) :
    streams.reduceOption.map some = streams := by
  induction streams with
  | nil => rfl
  | cons stream rest induction =>
      rcases List.mem_cons.not.mp noNull with outside
      push Not at outside
      cases stream with
      | none => exact absurd rfl outside.1
      | some stream => rw [List.reduceOption_cons_of_some, List.map_cons, induction outside.2]

theorem resetStreams_plays {outgoingStreams : List (Option Int16)}
    (noNull : none ∉ outgoingStreams) :
    PlaysExactly (SocketApi.resetStreams libraries dcsctp socket outgoingStreams)
      (dcsctp.conduct libraries (.resetStreams (toStreamIds outgoingStreams.reduceOption))
        socket >>= fun served =>
          .reply (ResetStreamsStatusMembers.map served.1, served.2)) := by
  have unboxed : ∀ setting env, (NativeSctpSocket.unboxList outgoingStreams).run setting env =
      (.ok outgoingStreams.reduceOption, env) := by
    intro setting env
    have ran := unboxList_run outgoingStreams.reduceOption setting env
    rwa [map_some_reduceOption noNull] at ran
  apply PlaysExactly.afterSilent unboxed
  apply PlaysExactly.inFrame
  apply Plays.acquire
  intro handle
  have owned : handle ∈ [handle] := List.mem_cons_self
  apply Plays.afterSilent (Returns.useRef owned)
  apply Plays.guarded
  · exact entered_plays _ _
  · exact Returns.bind (Returns.useRef owned) (Returns.pure ())

/-! ## New Java objects -/

theorem options_plays :
    PlaysExactly (SocketApi.options libraries dcsctp socket)
      (dcsctp.conduct libraries .options socket >>= fun served =>
        .reply (id served.1, served.2)) := by
  apply PlaysExactly.inFrame
  apply Plays.bind (enter_plays _)
  intro served
  exact released_plays served.1 served.2

theorem getMetrics_plays :
    PlaysExactly (SocketApi.getMetrics libraries dcsctp socket)
      (dcsctp.conduct libraries .getMetrics socket >>= fun served =>
        .reply (id served.1, served.2)) := by
  apply PlaysExactly.inFrame
  apply Plays.bind (enter_plays _)
  intro served
  rcases served with ⟨metrics, after⟩
  cases metrics with
  | none => exact Plays.pure _
  | some metrics =>
      apply Plays.acquire
      intro handle
      exact Plays.afterSilent (Returns.useRef List.mem_cons_self) (Plays.pure _)

end Methods

/-! ## Every method -/

/-- Whatever dcsctp does and the application answers, a call of the Java socket is
the operation that it means, and nothing of its passage is left in the frame. -/
theorem method_bridged {sizeType : SizeType} (libraries : Libraries)
    (dcsctp : DcSctpMachine σ) (socket : σ) (operation : JavaOperation sizeType) :
    PlaysExactly (catching socket (operation.call libraries dcsctp socket))
      (operation.bridged libraries dcsctp socket) := by
  cases operation with
  | receivePacket data offset length safe =>
      rcases safe with inRange | refused
      · have accepted := receivePacket_accepted (inRange.not_refused sizeType)
        rw [JavaOperation.bridged, JavaOperation.meaning, accepted]
        exact receivePacket_plays libraries dcsctp socket inRange
      · rcases receivePacket_refused refused with ⟨throwable, raised⟩
        rw [JavaOperation.bridged, JavaOperation.meaning, raised]
        exact catching_throws (receivePacket_throws libraries dcsctp socket raised)
  | handleTimeout timeoutId => exact nativeMethod_plays (onlyEntered_plays _)
  | connect => exact nativeMethod_plays (onlyEntered_plays _)
  | shutdown => exact nativeMethod_plays (onlyEntered_plays _)
  | close => exact nativeMethod_plays (onlyEntered_plays _)
  | state => exact nativeMethod_plays (entered_plays .state _)
  | options => exact catching_plays (options_plays libraries dcsctp socket)
  | setStreamPriority streamId streamPriority =>
      exact nativeMethod_plays (onlyEntered_plays _)
  | getStreamPriority streamId =>
      exact nativeMethod_plays
        (entered_plays (.getStreamPriority (toStreamId streamId)) Native.StreamPriority.toShort)
  | send message sendOptions =>
      exact catching_plays (send_plays libraries dcsctp socket message sendOptions)
  | sendMany messages sendOptions safe =>
      exact catching_plays (sendMany_plays libraries dcsctp socket messages sendOptions safe)
  | resetStreams outgoingStreams =>
      by_cases null : none ∈ outgoingStreams
      · rw [JavaOperation.bridged, JavaOperation.meaning, if_pos null]
        exact catching_throws (resetStreams_throws libraries dcsctp socket null)
      · rw [JavaOperation.bridged, JavaOperation.meaning, if_neg null]
        exact catching_plays (resetStreams_plays libraries dcsctp socket null)
  | bufferedAmount streamId => exact nativeMethod_plays (entered_plays _ _)
  | bufferedAmountLowThreshold streamId => exact nativeMethod_plays (entered_plays _ _)
  | setBufferedAmountLowThreshold streamId bytes =>
      exact nativeMethod_plays (onlyEntered_plays _)
  | getMetrics => exact catching_plays (getMetrics_plays libraries dcsctp socket)

end Dcsctp4j
