import Dcsctp4j.Foundation.LockOrder
import Dcsctp4j.LifetimeSafety

/-! # Waiting for sockets

The methods of a `NativeSctpSocket` are `synchronized`, and its monitor stays taken
while dcsctp calls back into application code, which may call the methods of other
sockets and wait for theirs.
-/

namespace Dcsctp4j

open LockOrder Relation Transition

/-! ## Calls that wait -/

/-- The process, and the socket whose method each thread has called and waits to enter. -/
structure Locking where
  world : World
  wants : Thread → Option Object

inductive LockEvent
  | request (thread : Thread) (socket : Object)
  | enter (thread : Thread) (socket : Object)
  | run (event : Event)

/-- Which sockets application code calls, and from where. -/
abbrev Calls : Type := World → Thread → Object → Prop

inductive LockStep (calls : Calls) : Locking → LockEvent → Locking → Prop
  | request {state : Locking} {thread : Thread} {purpose : Purpose} {held : List Object}
      {rest : List Frame} {socket callbacks : Object} {packetObserver : Option Object}
      {ptr : Pointer} (awake : state.wants thread = none)
      (top : state.world.stack thread = .application purpose held :: rest)
      (given : socket ∈ held)
      (object : state.world.heap[socket]? =
        some (.nativeSctpSocket callbacks packetObserver ptr))
      (called : calls state.world thread socket) :
      LockStep calls state (.request thread socket)
        { state with wants := Function.update state.wants thread (some socket) }
  | enter {state : Locking} {thread : Thread} {purpose : Purpose}
      {held arguments : List Object} {rest : List Frame} {socket callbacks : Object}
      {packetObserver : Option Object} {ptr : Pointer}
      (wanted : state.wants thread = some socket)
      (top : state.world.stack thread = .application purpose held :: rest)
      (given : socket ∈ held) (argumentsGiven : ∀ argument ∈ arguments, argument ∈ held)
      (object : state.world.heap[socket]? =
        some (.nativeSctpSocket callbacks packetObserver ptr))
      (free : ∀ other, other ≠ thread → ¬state.world.HoldsMonitor other socket) :
      LockStep calls state (.enter thread socket)
        { world := state.world.setStack thread
            (.method socket arguments false :: .application purpose held :: rest)
          wants := Function.update state.wants thread none }
  /-- Any other step takes no monitor, and a thread that waits takes no step. -/
  | run {state : Locking} {event : Event} {next : World} (step : Step state.world event next)
      (actor : ∀ thread, event = .thread thread → state.wants thread = none)
      (asleep : ∀ thread, state.wants thread ≠ none →
        next.stack thread = state.world.stack thread)
      (taken : ∀ thread socket, next.HoldsMonitor thread socket →
        state.world.HoldsMonitor thread socket) :
      LockStep calls state (.run event) { state with world := next }

def locking (calls : Calls) : System Locking LockEvent where
  initial state := state.world.Initial ∧ ∀ thread, state.wants thread = none
  step := LockStep calls

/-! ## The process is the one without waiting -/

def LockEvent.events : LockEvent → List Event
  | .request _ _ => []
  | .enter thread _ => [.thread thread]
  | .run event => [event]

section Steps

variable {calls : Calls} {first last : Locking} {event : LockEvent}

theorem LockStep.process (step : LockStep calls first event last) :
    process.Run first.world event.events last.world := by
  cases step with
  | request awake top given object called => exact .nil _
  | enter wanted top given argumentsGiven object free =>
      exact .cons (.move top (.callMethod given argumentsGiven object free)) (.nil _)
  | run step actor asleep taken => exact .cons step (.nil _)

/-- A run with waiting threads is a run of the process. -/
theorem locking_run {events : List LockEvent} (run : (locking calls).Run first events last) :
    process.Run first.world (events.flatMap LockEvent.events) last.world := by
  induction run with
  | nil => exact .nil _
  | cons step _ induction => exact (LockStep.process step).append induction

theorem LockStep.sound (step : LockStep calls first event last) (sound : first.world.Sound) :
    last.world.Sound :=
  process_sound.run step.process sound

theorem World.step_socket {world next : World} {event : Event} (step : Step world event next)
    {socket callbacks : Object} {packetObserver : Option Object} {ptr : Pointer}
    (object : world.heap[socket]? = some (.nativeSctpSocket callbacks packetObserver ptr)) :
    next.heap[socket]? = some (.nativeSctpSocket callbacks packetObserver ptr) := by
  cases step with
  | store top given shape stored => exact (World.store_socket shape _ _ _ _).mpr object
  | allocate top given => exact (World.addObject_keeps _).sockets _ _ _ _ object
  | construct top => exact (World.addObject_keeps _).sockets _ _ _ _ object
  | _ => exact object

theorem update_wants {wants : Thread → Option Object} {thread other : Thread}
    {value : Option Object} {socket : Object}
    (wanted : Function.update wants thread value other = some socket) :
    other = thread ∧ value = some socket ∨ other ≠ thread ∧ wants other = some socket := by
  by_cases same : other = thread
  · subst same
    rw [Function.update_self] at wanted
    exact .inl ⟨rfl, wanted⟩
  · rw [Function.update_of_ne same] at wanted
    exact .inr ⟨same, wanted⟩

/-- A thread that waits stands at the call of a method. -/
def AtCall (world : World) (thread : Thread) (socket : Object) : Prop :=
  ∃ purpose held rest callbacks packetObserver ptr,
    world.stack thread = .application purpose held :: rest ∧ socket ∈ held ∧
      world.heap[socket]? = some (.nativeSctpSocket callbacks packetObserver ptr)

end Steps

/-! ## Callers that keep to an order -/

/-- Application code calls a socket only where the sockets it is in rank below it,
or from this socket's own callbacks. -/
def Calls.Keep {Rank : Type} [LT Rank] (calls : Calls) (rank : Object → Rank) : Prop :=
  ∀ world thread socket, calls world thread socket →
    ∀ held, world.HoldsMonitor thread held → held = socket ∨ rank held < rank socket

section Order

variable {Rank : Type} [LinearOrder Rank] {rank : Object → Rank} {calls : Calls}

structure Waiting (rank : Object → Rank) (state : Locking) : Prop where
  sound : state.world.Sound
  called : ∀ thread socket, state.wants thread = some socket →
    AtCall state.world thread socket
  ordered : Ordered state.world.HoldsMonitor state.wants rank

theorem LockStep.waiting {first last : Locking} {event : LockEvent} (keep : calls.Keep rank)
    (step : LockStep calls first event last) (waiting : Waiting rank first) :
    Waiting rank last := by
  have sound := step.sound waiting.sound
  cases step with
  | @request thread purpose held rest socket callbacks packetObserver ptr awake top given object
      called =>
      refine ⟨sound, fun other wanted wants => ?_, fun other wanted resource wants holds => ?_⟩
      · rcases update_wants wants with ⟨same, wanted⟩ | ⟨-, before⟩
        · cases same
          cases wanted
          exact ⟨_, _, _, _, _, _, top, given, object⟩
        · exact waiting.called other wanted before
      · rcases update_wants wants with ⟨same, wanted⟩ | ⟨-, before⟩
        · cases same
          cases wanted
          exact keep _ _ _ called resource holds
        · exact waiting.ordered other wanted resource before holds
  | @enter thread purpose held arguments rest socket callbacks packetObserver ptr wanted top given
      argumentsGiven object free =>
      refine ⟨sound, fun other wanted wants => ?_, fun other wanted resource wants holds => ?_⟩
      · rcases update_wants wants with ⟨-, nothing⟩ | ⟨distinct, before⟩
        · cases nothing
        · rcases waiting.called other wanted before with
            ⟨purpose, held, rest, callbacks, packetObserver, ptr, top, given, object⟩
          exact ⟨purpose, held, rest, callbacks, packetObserver, ptr,
            (Function.update_of_ne distinct _ _).trans top, given, object⟩
      · rcases update_wants wants with ⟨-, nothing⟩ | ⟨distinct, before⟩
        · cases nothing
        · rcases holds with ⟨frame, running, monitor⟩
          rcases World.mem_setStack running with ⟨same, -⟩ | ⟨-, old⟩
          · exact absurd same distinct
          · exact waiting.ordered other wanted resource before ⟨frame, old, monitor⟩
  | run step actor asleep taken =>
      refine ⟨sound, fun thread socket wants => ?_, fun thread socket resource wants holds => ?_⟩
      · rcases waiting.called thread socket wants with
          ⟨purpose, held, rest, callbacks, packetObserver, ptr, top, given, object⟩
        have same := asleep thread (by rw [wants]; exact Option.some_ne_none socket)
        exact ⟨purpose, held, rest, callbacks, packetObserver, ptr, same.trans top, given,
          World.step_socket step object⟩
      · exact waiting.ordered thread socket resource wants (taken thread resource holds)

theorem locking_waiting (keep : calls.Keep rank) :
    (locking calls).Invariant (Waiting rank) where
  initially state initial := by
    rcases initial with ⟨initial, awake⟩
    refine ⟨initial.sound, fun thread socket wants => ?_, fun thread wanted held wants _ => ?_⟩
    · exact absurd (wants.symm.trans (awake thread)) (Option.some_ne_none socket)
    · exact absurd (wants.symm.trans (awake thread)) (Option.some_ne_none wanted)
  preserved _ _ _ waiting step := LockStep.waiting keep step waiting

theorem Waiting.finite {state : Locking} (waiting : Waiting rank state) :
    Set.Finite { socket | ∃ thread, state.world.HoldsMonitor thread socket } := by
  apply (Set.finite_lt_nat state.world.heap.length).subset
  intro socket taken
  rcases taken with ⟨thread, frame, running, monitor⟩
  have frameSound := waiting.sound.scheduled.frames thread frame running
  cases frame with
  | method receiver arguments inNative =>
      cases monitor
      rcases frameSound with ⟨_, _, _, object⟩
      exact (List.getElem?_eq_some_iff.mp object).1
  | _ => cases monitor

theorem Waiting.enters {state : Locking} (waiting : Waiting rank state) {thread : Thread}
    {socket : Object} (wants : state.wants thread = some socket)
    (free : ∀ other, ¬WaitsFor state.world.HoldsMonitor state.wants thread other) :
    ∃ next, LockStep calls state (.enter thread socket) next := by
  rcases waiting.called thread socket wants with
    ⟨purpose, held, rest, callbacks, packetObserver, ptr, top, given, object⟩
  refine ⟨_, @LockStep.enter calls state thread purpose held [] rest socket callbacks
    packetObserver ptr wants top given nofun object ?_⟩
  intro other distinct holds
  exact free other ⟨distinct.symm, socket, wants, holds⟩

/-- Where application code keeps to an order of the sockets, or calls only the socket
that has called it, no threads wait for each other in a circle: each waits, in the
end, for one that does not wait or can enter the method it has called. -/
theorem monitors_deadlock_free (keep : calls.Keep rank) {state : Locking}
    (reachable : (locking calls).Reachable state) (thread : Thread) :
    ∃ last, ReflTransGen (WaitsFor state.world.HoldsMonitor state.wants) thread last ∧
      (state.wants last = none ∨
        ∃ socket next, (locking calls).step state (.enter last socket) next) := by
  have waiting := (locking_waiting keep).reachable reachable
  rcases waiting.ordered.chain_ends waiting.sound.scheduled.monitors waiting.finite thread with
    ⟨last, chain, free⟩
  refine ⟨last, chain, ?_⟩
  cases wants : state.wants last with
  | none => exact .inl rfl
  | some socket =>
      rcases waiting.enters wants free with ⟨next, step⟩
      exact .inr ⟨socket, next, step⟩

/-- Two callbacks that call each other's sockets wait for each other for ever. -/
theorem crossing_deadlocks {state : Locking} (reachable : (locking calls).Reachable state)
    {first second : Thread} {firstSocket secondSocket : Object} (distinct : first ≠ second)
    (firstAwake : state.wants first = none) (secondAwake : state.wants second = none)
    (firstHolds : state.world.HoldsMonitor first firstSocket)
    (secondHolds : state.world.HoldsMonitor second secondSocket)
    (firstAt : AtCall state.world first secondSocket)
    (secondAt : AtCall state.world second firstSocket)
    (firstCalls : calls state.world first secondSocket)
    (secondCalls : calls state.world second firstSocket) :
    ∃ last, (locking calls).Reachable last ∧
      Deadlock last.world.HoldsMonitor last.wants {first, second} := by
  rcases reachable with ⟨start, events, initial, run⟩
  rcases firstAt with ⟨_, _, _, _, _, _, firstTop, firstGiven, firstObject⟩
  rcases secondAt with ⟨_, _, _, _, _, _, secondTop, secondGiven, secondObject⟩
  have firstRequested := run.snoc
    (.request firstAwake firstTop firstGiven firstObject firstCalls)
  have secondRequested := firstRequested.snoc
    (.request ((Function.update_of_ne distinct.symm _ _).trans secondAwake) secondTop secondGiven
      secondObject secondCalls)
  refine ⟨_, ⟨start, _, initial, secondRequested⟩, ⟨first, .inl rfl⟩, ?_⟩
  intro thread member
  rcases member with same | same
  · subst same
    refine ⟨second, .inr rfl, distinct, secondSocket, ?_, secondHolds⟩
    exact (Function.update_of_ne distinct _ _).trans (Function.update_self _ _ _)
  · cases same
    exact ⟨first, .inl rfl, distinct.symm, firstSocket, Function.update_self _ _ _, firstHolds⟩

end Order

/-! ## A thread that waits and one that runs -/

structure Quiet (state : Locking) : Prop where
  awake : ∀ thread, state.wants thread = none
  free : ∀ thread socket, ¬state.world.HoldsMonitor thread socket

theorem Quiet.step {state : Locking} {base : World} {thread : Thread}
    {stack : List Frame} {event : Event} (quiet : Quiet state)
    (step : Step state.world event (base.setStack thread stack))
    (sameStacks : base.stack = state.world.stack)
    (taken : stack.filterMap Frame.monitor = []) :
    (∀ calls, LockStep calls state (.run event)
      { state with world := base.setStack thread stack }) ∧
      Quiet { state with world := base.setStack thread stack } := by
  have free : ∀ other socket, ¬(base.setStack thread stack).HoldsMonitor other socket := by
    intro other socket holds
    rcases holds with ⟨frame, running, monitor⟩
    rcases World.mem_setStack running with ⟨-, inStack⟩ | ⟨-, old⟩
    · have none := List.filterMap_eq_nil_iff.mp taken frame inStack
      exact absurd (monitor.symm.trans none) (Option.some_ne_none socket)
    · rw [sameStacks] at old
      exact quiet.free other socket ⟨frame, old, monitor⟩
  refine ⟨fun calls => ?_, quiet.awake, free⟩
  refine .run step (fun other _ => quiet.awake other) (fun other waits => ?_)
    fun other socket holds => absurd holds (free other socket)
  exact absurd (quiet.awake other) waits

theorem mainThread_quiet : Quiet ⟨mainThread, fun _ => none⟩ where
  awake _ := rfl
  free thread socket holds := by
    rcases holds with ⟨frame, running, monitor⟩
    rcases mainThread_initial.stack thread with empty | program
    · rw [empty] at running
      cases running
    · rw [program] at running
      cases List.mem_singleton.mp running
      cases monitor

def ownCalls : Calls :=
  fun world thread socket => ∀ held, world.HoldsMonitor thread held → held = socket

theorem ownCalls_keep : ownCalls.Keep fun _ => (0 : Nat) := by
  intro world thread socket called held holds
  exact .inl (called held holds)

theorem waiting_run : ∃ state, (locking ownCalls).Reachable state ∧ state.wants 1 = some 1 := by
  have start : (locking ownCalls).Run ⟨mainThread, fun _ => none⟩ [] ⟨mainThread, fun _ => none⟩ :=
    .nil _
  have made := mainThread_quiet.step
    (@Step.allocate mainThread 0 .program [] [] [] rfl (by simp)) rfl rfl
  have called := made.2.step
    (.move rfl (@Move.callCreate _ 0 .program [0] [] 0 none (by simp) (by simp))) rfl rfl
  have native := called.2.step (@Step.create_ _ 0 _ _ _ rfl) rfl rfl
  have returned := native.2.step (@Step.move _ 0 _ _ rfl .createReturns) rfl rfl
  have constructed := returned.2.step (@Step.construct _ 0 _ _ _ _ _ _ rfl) rfl rfl
  have spawned := constructed.2.step
    (@Step.spawn _ 0 1 .program [1, 0] [1] [] rfl rfl (by simp)) rfl rfl
  have created := (((((start.snoc (made.1 _)).snoc (called.1 _)).snoc (native.1 _)).snoc
    (returned.1 _)).snoc (constructed.1 _)).snoc (spawned.1 _)
  have requested := created.snoc
    (@LockStep.request _ _ 0 .program [1, 0] [] 1 0 none 0 rfl rfl (by simp) rfl
      fun held holds => absurd holds (spawned.2.free 0 held))
  have entered := requested.snoc
    (@LockStep.enter _ _ 0 .program [1, 0] [] [] 1 0 none 0 rfl rfl (by simp) (by simp) rfl
      fun other _ holds => spawned.2.free other 1 holds)
  have waits := entered.snoc
    (@LockStep.request _ _ 1 .program [1] [] 1 0 none 0 rfl rfl (by simp) rfl
      fun held holds => by
        rcases holds with ⟨frame, running, monitor⟩
        rcases World.mem_setStack running with ⟨other, -⟩ | ⟨-, old⟩
        · cases other
        · exact absurd ⟨frame, old, monitor⟩ (spawned.2.free 1 held))
  exact ⟨_, ⟨⟨mainThread, fun _ => none⟩, _, ⟨mainThread_initial, fun _ => rfl⟩, waits⟩, rfl⟩

theorem monitors_deadlock_free_waiting : ∃ state, (locking ownCalls).Reachable state ∧
    state.wants 1 = some 1 ∧
      ∃ last, ReflTransGen (WaitsFor state.world.HoldsMonitor state.wants) 1 last ∧
        (state.wants last = none ∨
          ∃ socket next, (locking ownCalls).step state (.enter last socket) next) := by
  rcases waiting_run with ⟨state, reachable, waits⟩
  exact ⟨state, reachable, waits, monitors_deadlock_free ownCalls_keep reachable 1⟩

end Dcsctp4j
