import Dcsctp4j.BatchSend
import Dcsctp4j.CallbackDispatch

/-! # Messages between two endpoints

Messages pass two encoders on the sending side and one decoder on the receiving
side. In between they are native messages in dcsctp's hands.
-/

namespace Dcsctp4j

open NativeFrame NativeFrame.Program

variable {σ : Type}

/-! ## Sending -/

inductive SendOperation
  | send (message : Java.DcSctpMessage) (options : Java.SendOptions)
  | sendMany (messages : List Java.DcSctpMessage) (options : Java.SendOptions)
deriving DecidableEq

namespace SendOperation

def messages : SendOperation → List Java.DcSctpMessage
  | send message _ => [message]
  | sendMany messages _ => messages

def run (dcsctp : DcSctpSocket σ) (socket : σ) :
    SendOperation → Jni (List Java.SendStatus × σ)
  | send message options => do
      let (status, socket) ← NativeSctpSocket.send dcsctp socket message options
      return ([status], socket)
  | sendMany messages options => NativeSctpSocket.sendMany dcsctp socket messages options

end SendOperation

def runSends (dcsctp : DcSctpSocket σ) :
    σ → List SendOperation → Jni (List Java.SendStatus × σ)
  | socket, [] => pure ([], socket)
  | socket, operation :: rest => do
      let (statuses, socket) ← operation.run dcsctp socket
      let (others, socket) ← runSends dcsctp socket rest
      return (statuses ++ others, socket)

/-! ## What dcsctp answers -/

def SendOperation.enter (dcsctp : DcSctpSocket σ) (socket : σ) :
    SendOperation → List Native.SendStatus × σ
  | send message options =>
      let (status, socket) := dcsctp.send socket message.toNative options.toNative
      ([status], socket)
  | sendMany messages options =>
      dcsctp.sendMany socket (messages.map Java.DcSctpMessage.toNative) options.toNative

def enterSends (dcsctp : DcSctpSocket σ) : σ → List SendOperation → List Native.SendStatus × σ
  | socket, [] => ([], socket)
  | socket, operation :: rest =>
      let (statuses, socket) := operation.enter dcsctp socket
      let (others, socket) := enterSends dcsctp socket rest
      (statuses ++ others, socket)

/-- `accepted` lists the messages dcsctp has taken over; a send that succeeds
adds its message. -/
structure Accepts (dcsctp : DcSctpSocket σ) (accepted : σ → List Native.DcSctpMessage) :
    Prop where
  batches : dcsctp.Batches
  send : ∀ socket message options,
    (dcsctp.send socket message options).1 = .kSuccess →
      accepted (dcsctp.send socket message options).2 = accepted socket ++ [message]

section Sending

variable {dcsctp : DcSctpSocket σ} {accepted : σ → List Native.DcSctpMessage}

theorem Accepts.sendEach (accepts : Accepts dcsctp accepted) (options : Native.SendOptions)
    (messages : List Native.DcSctpMessage) (socket : σ)
    (success : ∀ status ∈ (DcSctpSocket.sendEach dcsctp.send options socket messages).1,
      status = .kSuccess) :
    accepted (DcSctpSocket.sendEach dcsctp.send options socket messages).2 =
      accepted socket ++ messages := by
  induction messages generalizing socket with
  | nil => exact (List.append_nil _).symm
  | cons message rest induction =>
      have first := accepts.send socket message options (success _ List.mem_cons_self)
      have others := induction (dcsctp.send socket message options).2 fun status member =>
        success status (List.mem_cons_of_mem _ member)
      rw [first] at others
      simpa [DcSctpSocket.sendEach] using others

theorem SendOperation.enter_accepted (accepts : Accepts dcsctp accepted)
    (operation : SendOperation) {socket : σ}
    (success : ∀ status ∈ (operation.enter dcsctp socket).1, status = .kSuccess) :
    accepted (operation.enter dcsctp socket).2 =
      accepted socket ++ operation.messages.map Java.DcSctpMessage.toNative := by
  cases operation with
  | send message options => exact accepts.send _ _ _ (success _ List.mem_cons_self)
  | sendMany messages options =>
      rw [enter, accepts.batches] at success ⊢
      exact accepts.sendEach _ _ _ success

theorem enterSends_accepted (accepts : Accepts dcsctp accepted)
    (operations : List SendOperation) {socket : σ}
    (success : ∀ status ∈ (enterSends dcsctp socket operations).1, status = .kSuccess) :
    accepted (enterSends dcsctp socket operations).2 = accepted socket ++
      (operations.flatMap SendOperation.messages).map Java.DcSctpMessage.toNative := by
  induction operations generalizing socket with
  | nil => exact (List.append_nil _).symm
  | cons operation rest induction =>
      have head := operation.enter_accepted accepts fun status member =>
        success status (List.mem_append_left _ member)
      have tail := @induction (operation.enter dcsctp socket).2 fun status member =>
        success status (List.mem_append_right _ member)
      rw [head] at tail
      simpa [enterSends] using tail

theorem SendOperation.run_ok (operation : SendOperation) {socket socket' : σ}
    {statuses : List Java.SendStatus} {setting : JniSetting} {env after : JniEnv}
    (ran : (operation.run dcsctp socket).run setting env = (.ok (statuses, socket'), after)) :
    statuses = (operation.enter dcsctp socket).1.map Native.SendStatus.toJava ∧
      socket' = (operation.enter dcsctp socket).2 := by
  cases operation with
  | send message options =>
      rw [SendOperation.run, run_bind_ok (send_run dcsctp socket message options setting env)]
        at ran
      cases ran
      exact ⟨rfl, rfl⟩
  | sendMany messages options =>
      rcases sendMany_run dcsctp socket messages options setting env with ⟨stale, -, sentRan⟩
      rw [SendOperation.run, sentRan] at ran
      split at ran
      · cases ran
      · cases ran
        exact ⟨rfl, rfl⟩

theorem runSends_ok (operations : List SendOperation) {socket socket' : σ}
    {statuses : List Java.SendStatus} {setting : JniSetting} {env after : JniEnv}
    (ran : (runSends dcsctp socket operations).run setting env =
      (.ok (statuses, socket'), after)) :
    statuses = (enterSends dcsctp socket operations).1.map Native.SendStatus.toJava ∧
      socket' = (enterSends dcsctp socket operations).2 := by
  induction operations generalizing socket statuses env after with
  | nil =>
      cases ran
      exact ⟨rfl, rfl⟩
  | cons operation rest induction =>
      rcases run_bind_inv ran with ⟨⟨headStatuses, middleSocket⟩, middle, first, restRan⟩
      rcases run_bind_inv restRan with ⟨⟨others, lastSocket⟩, last, second, ended⟩
      cases ended
      rcases operation.run_ok first with ⟨rfl, rfl⟩
      rcases induction second with ⟨rfl, rfl⟩
      exact ⟨List.map_append.symm, rfl⟩

end Sending

/-! ## Receiving -/

/-- dcsctp hands each message to the wrapper, whatever the application's method
did with the one before. -/
def deliver (setting : JniSetting) : List Native.DcSctpMessage → JniEnv → JniEnv
  | [], env => env
  | message :: rest, env =>
      deliver setting rest
        ((WrappedSocketCallbacks.onMessageReceived message).run setting env).2

def Native.DcSctpMessage.toJava (message : Native.DcSctpMessage) : Java.DcSctpMessage where
  streamId := message.streamId.value.toInt16
  ppid := message.ppid.value.toInt32
  payload := toByteArray message.payload

theorem onMessageReceived_received (message : Native.DcSctpMessage) {setting : JniSetting}
    (resolves : setting.resolves .socketCallbacks = true) (env : JniEnv) :
    ((WrappedSocketCallbacks.onMessageReceived message).run setting env).2.received =
      env.received ++ [.onMessageReceived message.toJava] :=
  invoke_received resolves _ (.onMessageReceived message.toJava) env

theorem deliver_received {setting : JniSetting}
    (resolves : setting.resolves .socketCallbacks = true)
    (messages : List Native.DcSctpMessage) (env : JniEnv) :
    (deliver setting messages env).received = env.received ++
      messages.map fun message => .onMessageReceived message.toJava := by
  induction messages generalizing env with
  | nil => exact (List.append_nil _).symm
  | cons message rest induction =>
      rw [deliver, induction, onMessageReceived_received message resolves]
      simp

theorem Java.DcSctpMessage.toJava_toNative (message : Java.DcSctpMessage) :
    message.toNative.toJava = message := by
  simp [Java.DcSctpMessage.toNative, Native.DcSctpMessage.toJava]

theorem bytesDenote_fromByteArray (bytes : List Int8) :
    bytesDenote bytes (fromByteArray bytes) := by
  simp [bytesDenote, fromByteArray, toNat_toUInt8]

theorem messageDenotes_toNative (message : Java.DcSctpMessage) :
    messageDenotes message message.toNative :=
  ⟨(toNat_toUInt16 _).symm, (toNat_toUInt32 _).symm, bytesDenote_fromByteArray _⟩

/-- Sends that dcsctp accepts succeed. What they hand over are the unsigned readings
of the messages; delivered to a peer, they arrive as the messages sent. -/
theorem messages_roundTrip {dcsctp : DcSctpSocket σ}
    {accepted : σ → List Native.DcSctpMessage} (accepts : Accepts dcsctp accepted)
    (operations : List SendOperation) {socket socket' : σ}
    {statuses : List Java.SendStatus} {setting : JniSetting} {env after : JniEnv}
    (ran : (runSends dcsctp socket operations).run setting env =
      (.ok (statuses, socket'), after))
    (success : ∀ status ∈ (enterSends dcsctp socket operations).1, status = .kSuccess) :
    (∀ status ∈ statuses, status = .kSuccess) ∧
      ∃ handed, accepted socket' = accepted socket ++ handed ∧
        List.Forall₂ messageDenotes (operations.flatMap SendOperation.messages) handed ∧
        ∀ (peer : JniSetting) (peerEnv : JniEnv), peer.resolves .socketCallbacks = true →
          (deliver peer handed peerEnv).received = peerEnv.received ++
            (operations.flatMap SendOperation.messages).map .onMessageReceived := by
  rcases runSends_ok operations ran with ⟨rfl, rfl⟩
  refine ⟨?_, _, enterSends_accepted accepts operations success, ?_, ?_⟩
  · intro status member
    rcases List.mem_map.mp member with ⟨answered, answeredMember, rfl⟩
    rw [success answered answeredMember]
    rfl
  · rw [List.forall₂_map_right_iff, List.forall₂_same]
    exact fun message _ => messageDenotes_toNative message
  · intro peer peerEnv resolves
    rw [deliver_received resolves, List.map_map]
    congr 1
    apply List.map_congr_left
    intro message _
    simp [Java.DcSctpMessage.toJava_toNative]

theorem queueingSocket_accepts : Accepts queueingSocket fun queue => queue where
  batches _ _ _ := rfl
  send queue message options success := by
    simp only [queueingSocket, queueingSocket.queueingSend] at success ⊢
    split at success
    · cases success
    · rename_i nonempty
      rw [if_neg nonempty]

theorem messages_roundTrip_negative :
    (∀ status ∈ ([.kSuccess, .kSuccess] : List Java.SendStatus), status = .kSuccess) ∧
    ∃ handed, ([⟨⟨65535⟩, ⟨4294967295⟩, [128]⟩, ⟨⟨7⟩, ⟨51⟩, [0, 255]⟩] :
        List Native.DcSctpMessage) = [] ++ handed ∧
      List.Forall₂ messageDenotes [⟨-1, -1, [-128]⟩, ⟨7, 51, [0, -1]⟩] handed ∧
      ∀ (peer : JniSetting) (peerEnv : JniEnv), peer.resolves .socketCallbacks = true →
        (deliver peer handed peerEnv).received = peerEnv.received ++
          ([⟨-1, -1, [-128]⟩, ⟨7, 51, [0, -1]⟩] : List Java.DcSctpMessage).map
            .onMessageReceived :=
  have ran : (runSends queueingSocket []
      [.send ⟨-1, -1, [-128]⟩ { lifetime := some 5 }, .sendMany [⟨7, 51, [0, -1]⟩] {}]).run
        compliantSetting emptyEnv =
      (.ok ([.kSuccess, .kSuccess], [⟨⟨65535⟩, ⟨4294967295⟩, [128]⟩,
        ⟨⟨7⟩, ⟨51⟩, [0, 255]⟩]), emptyEnv) := rfl
  messages_roundTrip queueingSocket_accepts _ ran (by decide)

end Dcsctp4j
