import Dcsctp4j.BridgedApplications
import Dcsctp4j.Foundation.Transition

/-! # Two endpoints that exchange packets

The sockets, callbacks, timeouts and the executor of `DcSctp4jTest`: a main
thread calls two sockets, one executor thread carries the packets from one to
the other and lets timeouts expire, and the two threads interleave at every call
that dcsctp makes.
-/

namespace Dcsctp4j

open NativeFrame Transition

variable {σ : Type} {sizeType : SizeType}

inductive Endpoint
  | client
  | server
deriving DecidableEq

/-- The fields of the `TestCallbacks` of each endpoint: the wrapper of the socket
that packets go to, or null, and the wrapper of the socket that timeouts go to. -/
structure Wiring where
  dest : Endpoint → Option Endpoint
  wrapper : Endpoint → Endpoint

/-- `testSimpleConnection` makes both `TestCallbacks` with the client's wrapper. -/
def testSimpleConnection : Wiring where
  dest
    | .client => some .server
    | .server => some .client
  wrapper _ := .client

/-! ## `TestTimeout` -/

/-- `pending` holds the futures that have neither run nor been cancelled. -/
structure TestTimeout where
  wrapper : Endpoint
  timeoutId : Int64
  future : Option Nat
  starts : Nat
  pending : List Nat
deriving DecidableEq

namespace TestTimeout

def new (wrapper : Endpoint) : TestTimeout where
  wrapper := wrapper
  timeoutId := 0
  future := none
  starts := 0
  pending := []

def start (timeout : TestTimeout) (timeoutId : Int64) : TestTimeout :=
  { timeout with
    timeoutId := timeoutId
    future := some timeout.starts
    starts := timeout.starts + 1
    pending := timeout.starts :: timeout.pending }

/-- `future.cancel(false)`. -/
def stop (timeout : TestTimeout) (future : Nat) : TestTimeout :=
  { timeout with pending := timeout.pending.erase future }

def expire (timeout : TestTimeout) (future : Nat) : TestTimeout :=
  { timeout with pending := timeout.pending.erase future }

end TestTimeout

/-! ## The state -/

structure PacketTask where
  dest : Endpoint
  data : JavaByteArray
deriving DecidableEq

/-- The executor's thread: idle, about to call a method, which may have to wait for
the socket's monitor, or in the method. -/
inductive Executor (sizeType : SizeType)
  | idle
  | calling (endpoint : Endpoint) (operation : JavaOperation sizeType)
  | running (endpoint : Endpoint)

/-- A method of a socket that a thread is in: what dcsctp still has to do. -/
abbrev Activity (σ : Type) : Type :=
  Dialogue (Request σ WrapperCall) (Request.Reply WrapperCall.Answer) Unit

def DcSctpFactory.activity (factory : DcSctpFactory σ) (logPrefix : NativeText)
    (observed : Bool) (options : Native.DcSctpOptions) : Activity σ :=
  ((factory logPrefix observed options).run fun call =>
    Dialogue.ask (Request.ask call) .reply).bind fun socket => .ask (.store socket) .reply

structure Harness (σ : Type) (sizeType : SizeType) where
  sockets : Endpoint → Option σ
  active : Endpoint → Option (Activity σ)
  tasks : List PacketTask
  executor : Executor sizeType
  timeouts : List TestTimeout

namespace Harness

def setSocket (harness : Harness σ sizeType) (endpoint : Endpoint) (socket : σ) :
    Harness σ sizeType :=
  { harness with sockets := Function.update harness.sockets endpoint (some socket) }

def setActive (harness : Harness σ sizeType) (endpoint : Endpoint)
    (activity : Option (Activity σ)) : Harness σ sizeType :=
  { harness with active := Function.update harness.active endpoint activity }

def release (harness : Harness σ sizeType) (endpoint : Endpoint) : Harness σ sizeType :=
  match harness.executor with
  | .running runs => if runs = endpoint then { harness with executor := .idle } else harness
  | _ => harness

section Updates

variable {harness : Harness σ sizeType} {endpoint other : Endpoint}

@[simp] theorem setActive_self (activity : Option (Activity σ)) :
    (harness.setActive endpoint activity).active endpoint = activity :=
  Function.update_self _ _ _

theorem setActive_of_ne (distinct : other ≠ endpoint) (activity : Option (Activity σ)) :
    (harness.setActive endpoint activity).active other = harness.active other :=
  Function.update_of_ne distinct _ _

theorem release_self (runs : harness.executor = .running endpoint) :
    harness.release endpoint = { harness with executor := .idle } := by
  rw [release, runs]
  exact if_pos rfl

theorem release_of_ne (elsewhere : harness.executor ≠ .running endpoint) :
    harness.release endpoint = harness := by
  unfold release
  split
  · rename_i runs executor
    apply if_neg
    intro same
    rw [same] at executor
    exact elsewhere executor
  · rfl

theorem release_eq (harness : Harness σ sizeType) (endpoint : Endpoint) :
    ∃ executor, harness.release endpoint = { harness with executor } := by
  by_cases runs : harness.executor = .running endpoint
  · exact ⟨_, release_self runs⟩
  · exact ⟨_, release_of_ne runs⟩

@[simp] theorem release_sockets : (harness.release endpoint).sockets = harness.sockets := by
  rcases harness.release_eq endpoint with ⟨executor, same⟩
  rw [same]

@[simp] theorem release_active : (harness.release endpoint).active = harness.active := by
  rcases harness.release_eq endpoint with ⟨executor, same⟩
  rw [same]

@[simp] theorem release_tasks : (harness.release endpoint).tasks = harness.tasks := by
  rcases harness.release_eq endpoint with ⟨executor, same⟩
  rw [same]

@[simp] theorem release_timeouts : (harness.release endpoint).timeouts = harness.timeouts := by
  rcases harness.release_eq endpoint with ⟨executor, same⟩
  rw [same]

theorem release_calling {operation : JavaOperation sizeType}
    (calls : (harness.release endpoint).executor = .calling other operation) :
    harness.executor = .calling other operation := by
  by_cases runs : harness.executor = .running endpoint
  · rw [release_self runs] at calls
    cases calls
  · rwa [release_of_ne runs] at calls

theorem release_running (runs : (harness.release endpoint).executor = .running other) :
    harness.executor = .running other ∧ other ≠ endpoint := by
  by_cases own : harness.executor = .running endpoint
  · rw [release_self own] at runs
    cases runs
  · rw [release_of_ne own] at runs
    refine ⟨runs, fun same => ?_⟩
    rw [same] at runs
    exact own runs

end Updates

end Harness

/-! ## Entering a socket -/

def NativeOperation.packet : NativeOperation → Option (List UInt8)
  | .receivePacket data => some data
  | _ => none

namespace JavaOperation

def entry (operation : JavaOperation sizeType) : Option NativeOperation :=
  match operation.meaning with
  | .reply _ => none
  | .ask entered _ => some entered

def packet (operation : JavaOperation sizeType) : Option (List UInt8) :=
  operation.entry.bind NativeOperation.packet

def activity (operation : JavaOperation sizeType) (dcsctp : DcSctpMachine σ) : Activity σ :=
  (Dialogue.run dcsctp operation.meaning).bind fun _ => .reply ()

/-- The main thread leaves packets and timeouts to the executor. -/
def FromMain : JavaOperation sizeType → Prop
  | .receivePacket _ _ _ _ | .handleTimeout _ => False
  | _ => True

end JavaOperation

theorem wholeArray_inRange (data : JavaByteArray) : InRange data 0 data.length := by
  have length := data.toInt_length
  refine ⟨by decide, by omega, ?_⟩
  rw [length]
  exact (Int.zero_add _).le

def PacketTask.operation (task : PacketTask) : JavaOperation sizeType :=
  .receivePacket task.data 0 task.data.length (.inl (wholeArray_inRange task.data))

/-! ## `TestCallbacks` -/

/-- The callbacks that `TestCallbacks` only logs, or does not override. -/
def ApplicationCall.isReport : ApplicationCall → Bool
  | .sendPacketWithStatus _ | .createTimeout _ | .now | .getRandomInt _ _
  | .timeoutStart _ _ _ | .timeoutStop _ | .log _ => false
  | _ => true

inductive Answers (wiring : Wiring) (endpoint : Endpoint) (harness : Harness σ sizeType) :
    (call : ApplicationCall) → call.Reply → Harness σ sizeType → Prop
  | noDestination {data : List Int8} (nowhere : wiring.dest endpoint = none) :
      Answers wiring endpoint harness (.sendPacketWithStatus data) .kError harness
  | notCreated {data : List Int8} {dest : Endpoint} (towards : wiring.dest endpoint = some dest)
      (null : harness.sockets dest = none) :
      Answers wiring endpoint harness (.sendPacketWithStatus data) .kTemporaryFailure harness
  | submit {dest : Endpoint} {data : JavaByteArray}
      (towards : wiring.dest endpoint = some dest) (created : harness.sockets dest ≠ none) :
      Answers wiring endpoint harness (.sendPacketWithStatus data.elements) .kSuccess
        { harness with tasks := harness.tasks ++ [{ dest, data }] }
  | createTimeout {precision : Java.DelayPrecision} :
      Answers wiring endpoint harness (.createTimeout precision) ⟨harness.timeouts.length⟩
        { harness with timeouts := harness.timeouts ++ [.new (wiring.wrapper endpoint)] }
  | now {instant : Java.Instant} : Answers wiring endpoint harness .now instant harness
  | getRandomInt {low high random : Int64} (above : low ≤ random) (below : random < high) :
      Answers wiring endpoint harness (.getRandomInt low high) random harness
  | start {timeout : Java.Timeout} {duration timeoutId : Int64} {object : TestTimeout}
      (bound : harness.timeouts[timeout.object]? = some object) :
      Answers wiring endpoint harness (.timeoutStart timeout duration timeoutId) ()
        { harness with timeouts := harness.timeouts.set timeout.object (object.start timeoutId) }
  | stop {timeout : Java.Timeout} {object : TestTimeout} {future : Nat}
      (bound : harness.timeouts[timeout.object]? = some object)
      (started : object.future = some future) :
      Answers wiring endpoint harness (.timeoutStop timeout) ()
        { harness with timeouts := harness.timeouts.set timeout.object (object.stop future) }
  | report {call : ApplicationCall} {reply : call.Reply} (report : call.isReport = true) :
      Answers wiring endpoint harness call reply harness

inductive Converses {α : Type} (wiring : Wiring) (endpoint : Endpoint) :
    AppDialogue α → Harness σ sizeType → α → Harness σ sizeType → Prop
  | reply {value : α} {harness : Harness σ sizeType} :
      Converses wiring endpoint (.reply value) harness value harness
  | ask {call : ApplicationCall} {next : call.Reply → AppDialogue α} {reply : call.Reply}
      {value : α} {before middle after : Harness σ sizeType}
      (answers : Answers wiring endpoint before call reply middle)
      (rest : Converses wiring endpoint (next reply) middle value after) :
      Converses wiring endpoint (.ask call next) before value after

section Converses

variable {wiring : Wiring} {endpoint : Endpoint} {before after : Harness σ sizeType}

theorem Converses.follows {α : Type} {dialogue : AppDialogue α} {value : α}
    (converses : Converses wiring endpoint dialogue before value after) :
    ∃ exchanges, dialogue.Follows exchanges value := by
  induction converses with
  | reply => exact ⟨[], .reply _⟩
  | ask answers rest induction =>
      rcases induction with ⟨exchanges, follows⟩
      exact ⟨_, .ask follows⟩

/-- What a wrapper tells dcsctp here, its native code tells over JNI when the
application gives these answers. -/
theorem Converses.performed {libraries : Libraries} {wrapper : WrapperCall}
    {answer : wrapper.Answer}
    (converses : Converses wiring endpoint (wrapper.dialogue libraries) before answer after)
    (env : JniEnv) :
    ∃ setting final, (wrapper.perform libraries).run setting env = (.ok answer, final) ∧
      final.received = env.received ++ wrapper.applicationCalls libraries := by
  rcases converses.follows with ⟨exchanges, follows⟩
  rcases follows.converse compliantReply env.received with ⟨party, conversed⟩
  let setting : JniSetting :=
    { staleUse := .aborts, resolves := fun _ => true, reply := fun history call =>
        .ok (party history call) }
  have serves : setting.Serves party := ⟨fun _ => rfl, fun _ _ => rfl⟩
  rcases wrapper.perform_plays libraries [] setting party env serves (by simp) with
    ⟨table, -, ran⟩
  have asked := wrapper.converse_dialogue libraries party env.received
  rw [conversed] at ran asked
  exact ⟨setting, _, ran, asked⟩

end Converses

/-! ## Steps -/

/-- What can be seen of a step: dcsctp is entered, it sends a packet, which the
executor has accepted or not, or it makes or starts a timeout. -/
inductive NetworkEvent
  | entered (endpoint : Endpoint) (operation : Option NativeOperation)
  | sent (endpoint : Endpoint) (data : List UInt8) (accepted : Bool)
  | created (endpoint : Endpoint) (timeout : Java.Timeout)
  | started (endpoint : Endpoint) (timeout : Java.Timeout) (timeoutId : Native.TimeoutId)
  | other
deriving DecidableEq

def Harness.accepts (harness : Harness σ sizeType) (wiring : Wiring) (endpoint : Endpoint) :
    Bool :=
  match wiring.dest endpoint with
  | none => false
  | some dest => (harness.sockets dest).isSome

/-- A packet counts as accepted when dcsctp is told so, if it is told. -/
def WrapperCall.event (endpoint : Endpoint) (accepted : Bool) :
    (wrapper : WrapperCall) → wrapper.Answer → NetworkEvent
  | .callback (.sendPacketWithStatus data), (status : Native.SendPacketStatus) =>
      .sent endpoint data (status = ⟨Java.SendPacketStatus.kSuccess.nativeStatus⟩)
  | .callback (.sendPacket data), _ => .sent endpoint data accepted
  | .createTimeout _, timeout => .created endpoint timeout.timeout
  | .timeoutStart timeout _ timeoutId, _ | .timeoutRestart timeout _ timeoutId, _ =>
      .started endpoint timeout.timeout timeoutId
  | _, _ => .other

/-- A thread enters a method only when no other is in one of the same socket. -/
inductive NetworkStep (libraries : Libraries) (factory : DcSctpFactory σ)
    (dcsctp : DcSctpMachine σ) (wiring : Wiring) :
    Harness σ sizeType → NetworkEvent → Harness σ sizeType → Prop
  | create {harness : Harness σ sizeType} {endpoint : Endpoint} {logPrefix : NativeText}
      {observed : Bool} {options : Native.DcSctpOptions}
      (null : harness.sockets endpoint = none) (free : harness.active endpoint = none) :
      NetworkStep libraries factory dcsctp wiring harness .other
        (harness.setActive endpoint (some (factory.activity logPrefix observed options)))
  | call {harness : Harness σ sizeType} {endpoint : Endpoint}
      {operation : JavaOperation sizeType} (fromMain : operation.FromMain)
      (created : harness.sockets endpoint ≠ none) (free : harness.active endpoint = none) :
      NetworkStep libraries factory dcsctp wiring harness (.entered endpoint operation.entry)
        (harness.setActive endpoint (some (operation.activity dcsctp)))
  /-- The queue keeps the order of what one thread submits, and the packets for a socket
  come from the thread that is in the other one. -/
  | takePacket {harness : Harness σ sizeType} {task : PacketTask}
      {earlier later : List PacketTask} (idle : harness.executor = .idle)
      (queue : harness.tasks = earlier ++ task :: later)
      (first : ∀ other ∈ earlier, other.dest ≠ task.dest) :
      NetworkStep libraries factory dcsctp wiring harness .other
        { harness with
          tasks := earlier ++ later
          executor := .calling task.dest task.operation }
  /-- The timeout's `run` reads the id before it waits for the monitor. -/
  | takeTimeout {harness : Harness σ sizeType} {index future : Nat} {object : TestTimeout}
      (idle : harness.executor = .idle) (bound : harness.timeouts[index]? = some object)
      (pending : future ∈ object.pending) :
      NetworkStep libraries factory dcsctp wiring harness .other
        { harness with
          timeouts := harness.timeouts.set index (object.expire future)
          executor := .calling object.wrapper (.handleTimeout object.timeoutId) }
  /-- A null socket ends the task with an exception. -/
  | fail {harness : Harness σ sizeType} {endpoint : Endpoint}
      {operation : JavaOperation sizeType}
      (calling : harness.executor = .calling endpoint operation)
      (null : harness.sockets endpoint = none) :
      NetworkStep libraries factory dcsctp wiring harness .other { harness with executor := .idle }
  | execute {harness : Harness σ sizeType} {endpoint : Endpoint}
      {operation : JavaOperation sizeType}
      (calling : harness.executor = .calling endpoint operation)
      (created : harness.sockets endpoint ≠ none) (free : harness.active endpoint = none) :
      NetworkStep libraries factory dcsctp wiring harness (.entered endpoint operation.entry)
        { harness.setActive endpoint (some (operation.activity dcsctp)) with
          executor := .running endpoint }
  | load {harness : Harness σ sizeType} {endpoint : Endpoint} {socket : σ}
      {next : σ → Activity σ} (top : harness.active endpoint = some (.ask .load next))
      (created : harness.sockets endpoint = some socket) :
      NetworkStep libraries factory dcsctp wiring harness .other
        (harness.setActive endpoint (some (next socket)))
  | store {harness : Harness σ sizeType} {endpoint : Endpoint} {socket : σ}
      {next : Unit → Activity σ}
      (top : harness.active endpoint = some (.ask (.store socket) next)) :
      NetworkStep libraries factory dcsctp wiring harness .other
        ((harness.setSocket endpoint socket).setActive endpoint (some (next ())))
  | ask {harness after : Harness σ sizeType} {endpoint : Endpoint} {wrapper : WrapperCall}
      {next : wrapper.Answer → Activity σ} {answer : wrapper.Answer}
      (top : harness.active endpoint = some (.ask (.ask wrapper) next))
      (converses : Converses wiring endpoint (wrapper.dialogue libraries) harness answer after) :
      NetworkStep libraries factory dcsctp wiring harness
        (wrapper.event endpoint (harness.accepts wiring endpoint) answer)
        (after.setActive endpoint (some (next answer)))
  | finish {harness : Harness σ sizeType} {endpoint : Endpoint}
      (top : harness.active endpoint = some (.reply ())) :
      NetworkStep libraries factory dcsctp wiring harness .other
        ((harness.setActive endpoint none).release endpoint)

structure Harness.Initial (harness : Harness σ sizeType) : Prop where
  sockets : ∀ endpoint, harness.sockets endpoint = none
  active : ∀ endpoint, harness.active endpoint = none
  tasks : harness.tasks = []
  executor : harness.executor = .idle
  timeouts : harness.timeouts = []

def beforeTest : Harness σ sizeType where
  sockets _ := none
  active _ := none
  tasks := []
  executor := .idle
  timeouts := []

theorem beforeTest_initial : (beforeTest : Harness σ sizeType).Initial := by
  constructor <;> intros <;> rfl

def network (libraries : Libraries) (factory : DcSctpFactory σ) (dcsctp : DcSctpMachine σ)
    (wiring : Wiring) (sizeType : SizeType) : System (Harness σ sizeType) NetworkEvent where
  initial := Harness.Initial
  step := NetworkStep libraries factory dcsctp wiring

def quietFactory : DcSctpFactory Nat := fun _ _ _ => .reply 0

def bothCreated : Harness Nat sizeType where
  sockets _ := some 0
  active _ := none
  tasks := []
  executor := .idle
  timeouts := []

theorem both_created (libraries : Libraries) (dcsctp : DcSctpMachine Nat) (wiring : Wiring) :
    (network libraries quietFactory dcsctp wiring sizeType).Run beforeTest
      [.other, .other, .other, .other, .other, .other] bothCreated := by
  have run : ∃ last, (network libraries quietFactory dcsctp wiring sizeType).Run beforeTest
      [.other, .other, .other, .other, .other, .other] last ∧ last = bothCreated := by
    refine ⟨_,
      .cons (@NetworkStep.create _ _ _ _ _ _ _ .server [] false sampleOptions rfl rfl)
      (.cons (@NetworkStep.store _ _ _ _ _ _ _ .server _ _ rfl)
      (.cons (@NetworkStep.finish _ _ _ _ _ _ _ .server rfl)
      (.cons (@NetworkStep.create _ _ _ _ _ _ _ .client [] false sampleOptions rfl rfl)
      (.cons (@NetworkStep.store _ _ _ _ _ _ _ .client _ _ rfl)
      (.cons (@NetworkStep.finish _ _ _ _ _ _ _ .client rfl)
      (.nil _)))))), ?_⟩
    rw [bothCreated, Harness.mk.injEq]
    refine ⟨funext fun endpoint => ?_, funext fun endpoint => ?_, rfl, rfl, rfl⟩ <;>
      cases endpoint <;> rfl
  rcases run with ⟨last, run, same⟩
  rwa [same] at run

end Dcsctp4j
