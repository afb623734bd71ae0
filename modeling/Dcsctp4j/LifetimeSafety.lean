import Dcsctp4j.LifetimeObjects

/-! # Lifetime and exclusion of native sockets

Every step keeps the invariant; so no native code runs on a pointer whose
`destruct` has started, and what native code calls back is still there.
-/

namespace Dcsctp4j

open ObjectGraph Transition

namespace World

variable {world next : World} {thread : Thread}

/-! ## Every step -/

theorem NativeChange.release (ptr : Pointer) : world.NativeChange ptr .release where
  callbacks _ := rfl
  packetObserver _ := rfl
  weaks _ _ weak member := ⟨weak, member, rfl, .inl⟩
  timeouts _ _ _ member := by cases member

theorem NativeChange.addTimeout (ptr : Pointer) {timeout : Object}
    (reachable : world.Reachable timeout) :
    world.NativeChange ptr (.addTimeout timeout) where
  callbacks _ := rfl
  packetObserver _ := rfl
  weaks _ _ weak member := ⟨weak, member, rfl, .inl⟩
  timeouts _ bound := List.forall_mem_cons.mpr
    ⟨reachable, fun _ => reachable_global (List.mem_of_getElem? bound)⟩

theorem NativeChange.clearCallbacks {ptr : Pointer} {native : NativeSocket}
    (bound : world.natives[ptr]? = some native)
    (unreachable : ¬world.Reachable native.callbacks.target) :
    world.NativeChange ptr .clearCallbacks where
  callbacks _ := rfl
  packetObserver _ := rfl
  weaks other found weak member := by
    rw [bound] at found
    cases found
    rcases List.mem_cons.mp member with equal | member
    · subst equal
      exact ⟨_, List.mem_cons_self, rfl, fun _ => .inr unreachable⟩
    · exact ⟨weak, List.mem_cons_of_mem _ member, rfl, .inl⟩
  timeouts other found timeout (member : timeout ∈ other.timeouts) :=
    reachable_global (List.mem_of_getElem? found) member

theorem NativeChange.clearPacketObserver {ptr : Pointer} {native : NativeSocket}
    {observer : WeakRef} (bound : world.natives[ptr]? = some native)
    (present : native.packetObserver = some observer)
    (unreachable : ¬world.Reachable observer.target) :
    world.NativeChange ptr .clearPacketObserver where
  callbacks _ := rfl
  packetObserver other := by
    simp [NativeSocket.clearPacketObserver, Function.comp_def]
  weaks other found weak member := by
    rw [bound] at found
    cases found
    rcases List.mem_cons.mp member with equal | member
    · exact ⟨weak, equal ▸ List.mem_cons_self, rfl, .inl⟩
    · have cleared : weak = { observer with cleared := true } := by
        simpa [NativeSocket.clearPacketObserver, present, eq_comm] using member
      subst cleared
      exact ⟨observer, by simp [NativeSocket.weaks, present], rfl, fun _ => .inr unreachable⟩
  timeouts other found timeout (member : timeout ∈ other.timeouts) :=
    reachable_global (List.mem_of_getElem? found) member

theorem Sound.step (sound : world.Sound) {event : Event} (step : Step world event next) :
    next.Sound := by
  have heldReachable : ∀ {thread purpose held rest},
      world.stack thread = .application purpose held :: rest →
        ∀ object ∈ held, world.Reachable object :=
    fun top _ => reachable_frame (top ▸ List.mem_cons_self)
  cases step with
  | move top move => exact sound.setStack (sound.move top move)
  | store top given shape stored =>
      exact sound.store shape fun field member =>
        (stored field member).imp id (heldReachable top field)
  | storeStatic top stored =>
      exact sound.storeStatic fun object member =>
        (stored object member).elim reachable_static (heldReachable top object)
  | allocate top given => exact sound.allocate top given
  | @spawn _ other _ _ _ _ top idle passed =>
      have change := @StackChange.callback world other .program _ fun object member =>
        heldReachable top object (passed object member)
      rw [idle] at change
      exact sound.setStack change
  | create_ top => exact sound.create_ top
  | createFails top => exact sound.setStack (.pop top)
  | createUnwinds top => exact (sound.updateNative (.release _)).setStack (.pop top)
  | construct top => exact sound.construct top
  | createTimeout top runs returned =>
      exact (sound.updateNative (.addTimeout _ (heldReachable top _ returned))).setStack (.pop top)
  | clearCallbacks bound unreachable =>
      exact sound.updateNative (.clearCallbacks bound unreachable)
  | clearPacketObserver bound present unreachable =>
      exact sound.updateNative (.clearPacketObserver bound present unreachable)
  | enqueue member waiting unreachable =>
      exact sound.advance member (by simp [waiting]) unreachable
  | destruct member enqueued idle => exact sound.destruct member enqueued idle
  | destructReturns top => exact (sound.updateNative (.release _)).setStack (.pop top)

theorem not_reachable_of_idle (statics : world.statics = [])
    (frames : ∀ thread, ∀ frame ∈ world.stack thread, frame.objects = [])
    (natives : ∀ native ∈ world.natives, native.timeouts = []) (object : Object) :
    ¬world.Reachable object := by
  intro reachable
  have noRoots : world.applicationRoots ∪ world.globalRoots ⊆ ∅ := by
    intro root isRoot
    rcases isRoot with (member | ⟨thread, frame, running, member⟩) | ⟨native, bound, member⟩
    · simp [statics] at member
    · simp [frames thread frame running] at member
    · simp [natives native bound] at member
  exact Reaches.mem_of_closed noRoots (fun _ member => member.elim) reachable

theorem Initial.sound (initial : world.Initial) : world.Sound := by
  have frames : ∀ thread, ∀ frame ∈ world.stack thread, frame = .application .program [] := by
    intro thread frame running
    rcases initial.stack thread with idle | started
    · simp [idle] at running
    · simpa [started] using running
  have noClaims : ∀ thread, world.claims thread = [] := by
    intro thread
    apply List.filterMap_eq_nil_iff.mpr
    intro frame running
    rw [frames thread frame running]
    rfl
  have unreachable := not_reachable_of_idle initial.statics
    (fun thread frame running => by rw [frames thread frame running]; rfl)
    (by simp [initial.natives])
  refine { registered := ?_, collected := ?_, scheduled := ?_ }
  · exact
      { bound := by simp [initial.heap]
        entries := by simp [initial.cleaner]
        distinct := by simp [initial.cleaner]
        ran := by simp [initial.started]
        once := by simp [initial.started] }
  · exact
      { allocated := fun object reachable => absurd reachable (unreachable object)
        weaks := by simp [initial.natives]
        dead := by simp [initial.cleaner] }
  · exact
      { frames := fun thread frame running => by
          rw [frames thread frame running]
          trivial
        claimed := fun thread => by simp [noClaims]
        exclusive := fun first _ ptr claimed _ => by simp [noClaims] at claimed
        monitors := by
          intro first _ socket held _
          rcases held with ⟨frame, running, holds⟩
          rw [frames first frame running] at holds
          cases holds }

end World

theorem process_sound : process.Invariant World.Sound where
  initially _ initial := initial.sound
  preserved _ _ _ sound step := sound.step step

/-! ## Safety -/

namespace World

def Executes (world : World) (thread : Thread) (ptr : Pointer) : Prop :=
  ∃ frame ∈ world.stack thread, world.RunsNative frame ptr ∨ frame = .destruct ptr

variable {world next : World} {thread : Thread}

/-- While a method runs, the action of its socket waits. -/
theorem Sound.method_waiting (sound : world.Sound) {socket callbacks : Object}
    {arguments : List Object} {inNative : Bool} {packetObserver : Option Object} {ptr : Pointer}
    (running : .method socket arguments inNative ∈ world.stack thread)
    (object : world.heap[socket]? = some (.nativeSctpSocket callbacks packetObserver ptr)) :
    { object := socket, ptr, stage := .waiting } ∈ world.cleaner := by
  rcases (sound.registered.bound _ _ _ _ object).2 with ⟨entry, member, equal, samePtr⟩
  have waiting : entry.stage = .waiting := by
    by_contra notWaiting
    refine sound.collected.dead entry member notWaiting (equal ▸ ?_)
    exact reachable_frame running List.mem_cons_self
  rw [← equal, ← samePtr, ← waiting]
  exact member

/-- Under `create_` the pointer is claimed and has no action yet. -/
theorem Sound.not_started_of_runsNative (sound : world.Sound) {frame : Frame} {ptr : Pointer}
    (running : frame ∈ world.stack thread) (runs : world.RunsNative frame ptr) :
    ptr ∉ world.started := by
  have frameSound := sound.scheduled.frames thread frame running
  cases runs with
  | create =>
      intro started
      rcases sound.registered.ran ptr started with ⟨entry, member, equal, -⟩
      exact frameSound.2 (equal ▸ List.mem_map_of_mem member)
  | method object =>
      exact sound.not_started (sound.method_waiting running object) (by simp)

theorem Sound.resolves (sound : world.Sound) {frame : Frame} {ptr : Pointer}
    (running : frame ∈ world.stack thread) (runs : world.RunsNative frame ptr) :
    ∃ native, world.natives[ptr]? = some native ∧
      ∀ weak ∈ native.weaks, weak.cleared = false := by
  have frameSound := sound.scheduled.frames thread frame running
  have binds : ∃ callbacks packetObserver, world.Binds ptr callbacks packetObserver := by
    cases runs with
    | create => exact ⟨_, _, frameSound.1⟩
    | method object => exact ⟨_, _, (sound.registered.bound _ _ _ _ object).1⟩
  rcases binds with ⟨_, _, native, bound, -⟩
  refine ⟨native, bound, ?_⟩
  intro weak member
  have target := sound.target_reachable running runs bound member
  have uncleared := (sound.collected.weaks native (List.mem_of_getElem? bound) weak member).2
  by_contra cleared
  exact uncleared (Bool.eq_true_of_not_eq_false cleared) target

theorem Sound.executes_cases (sound : world.Sound) {ptr : Pointer}
    (executes : world.Executes thread ptr) :
    ptr ∈ world.claims thread ∨ ∃ socket, world.HoldsMonitor thread socket ∧
      { object := socket, ptr, stage := .waiting } ∈ world.cleaner := by
  rcases executes with ⟨frame, running, runs | destructs⟩
  · cases runs with
    | create => exact .inl (List.mem_filterMap.mpr ⟨_, running, rfl⟩)
    | @method socket _ _ _ _ object =>
        exact .inr ⟨socket, ⟨_, running, rfl⟩, sound.method_waiting running object⟩
  · subst destructs
    exact .inl (List.mem_filterMap.mpr ⟨_, running, rfl⟩)

/-- Two threads never execute native code of one socket: a claim or a monitor
is in the way. -/
theorem Sound.executes_exclusive (sound : world.Sound) : Exclusive world.Executes := by
  have unclaimed : ∀ {socket ptr}, { object := socket, ptr, stage := .waiting } ∈ world.cleaner →
      ∀ other, ptr ∉ world.claims other :=
    fun waiting other => sound.unclaimed waiting (sound.not_started waiting (by simp)) other
  intro first second ptr firstExecutes secondExecutes
  rcases sound.executes_cases firstExecutes with firstClaims | ⟨socket, firstHolds, waiting⟩
  · rcases sound.executes_cases secondExecutes with secondClaims | ⟨_, _, waiting⟩
    · exact sound.scheduled.exclusive _ _ _ firstClaims secondClaims
    · exact absurd firstClaims (unclaimed waiting first)
  · rcases sound.executes_cases secondExecutes with secondClaims | ⟨other, secondHolds, also⟩
    · exact absurd secondClaims (unclaimed waiting second)
    · have same : socket = other :=
        congrArg Cleanable.object (sound.entry_unique waiting also rfl)
      subst same
      exact sound.scheduled.monitors _ _ _ firstHolds secondHolds

/-! ## Starts of `destruct` -/

theorem count_started_step {event : Event} (step : Step world event next) (ptr : Pointer) :
    next.started.count ptr =
      world.started.count ptr + if event = .destruct ptr then 1 else 0 := by
  cases step with
  | @destruct _ entry _ _ _ =>
      simp [World.setStack, World.logStart, World.advance, List.count_cons]
  | _ =>
      rw [if_neg (by simp)]
      rfl

theorem count_started {events : List Event} (run : process.Run world events next)
    (ptr : Pointer) :
    next.started.count ptr = events.count (.destruct ptr) + world.started.count ptr := by
  induction run with
  | nil => simp
  | @cons first middle last event events step rest induction =>
      have started := count_started_step step ptr
      rw [induction, started, List.count_cons]
      simp only [beq_iff_eq]
      omega

end World

/-- In every run, native code never executes on a pointer whose `destruct` has
started, at whatever later time; `destruct` starts at most once for it; the weak
references of a socket under whose native code a thread runs still resolve; and
no two threads execute native code of one socket. -/
theorem nativeSockets_safe {start middle last : World} {before after : List Event}
    (initial : process.initial start) (first : process.Run start before middle)
    (rest : process.Run middle after last) :
    (∀ ptr, .destruct ptr ∈ before →
      ∀ thread, ∀ frame ∈ last.stack thread, ¬last.RunsNative frame ptr) ∧
      (∀ ptr, (before ++ after).count (.destruct ptr) ≤ 1) ∧
      (∀ thread, ∀ frame ∈ last.stack thread, ∀ ptr, last.RunsNative frame ptr →
        ∃ native, last.natives[ptr]? = some native ∧
          ∀ weak ∈ native.weaks, weak.cleared = false) ∧
      Exclusive last.Executes := by
  have run := first.append rest
  have sound := process_sound.run run (process_sound.initially start initial)
  have startedAll : ∀ ptr, last.started.count ptr = (before ++ after).count (.destruct ptr) := by
    intro ptr
    rw [World.count_started run, World.Initial.started initial]
    simp
  refine ⟨?_, ?_, ?_, sound.executes_exclusive⟩
  · intro ptr destructed thread frame running runs
    have once := List.count_pos_iff.mpr destructed
    have started : ptr ∈ last.started := by
      rw [← List.count_pos_iff, startedAll, List.count_append]
      omega
    exact sound.not_started_of_runsNative running runs started
  · intro ptr
    rw [← startedAll]
    exact List.nodup_iff_count_le_one.mp sound.registered.once ptr
  · intro thread frame running ptr runs
    exact sound.resolves running runs

def mainThread : World where
  heap := []
  natives := []
  statics := []
  stack thread := if thread = 0 then [.application .program []] else []
  cleaner := []
  started := []

theorem mainThread_initial : process.initial mainThread where
  heap := rfl
  natives := rfl
  statics := rfl
  stack thread := by
    by_cases main : thread = 0
    · exact .inr (by simp [mainThread, main])
    · exact .inl (by simp [mainThread, main])
  cleaner := rfl
  started := rfl

/-- A socket is created, dropped, found unreachable and deleted. -/
theorem nativeSockets_safe_destructed : ∃ start last events, process.initial start ∧
    process.Run start events last ∧ Event.destruct 0 ∈ events ∧
      ∀ thread, ∀ frame ∈ last.stack thread, ¬last.RunsNative frame 0 := by
  have start : process.Run mainThread [] mainThread := .nil _
  have made := start.snoc (@Step.allocate mainThread 0 .program [] [] [] rfl (by simp))
  have called := made.snoc
    (.move rfl (@Move.callCreate _ 0 .program [0] [] 0 none (by simp) (by simp)))
  have native := called.snoc (@Step.create_ _ 0 _ _ _ rfl)
  have returned := native.snoc (@Step.move _ 0 _ _ rfl .createReturns)
  have constructed := returned.snoc (@Step.construct _ 0 _ _ _ _ _ _ rfl)
  have dropped := constructed.snoc
    (.move rfl (@Move.compute _ 0 .program [1, 0] [] [] (by simp)))
  have enqueued := dropped.snoc
    (@Step.enqueue _ ⟨1, 0, .waiting⟩ List.mem_cons_self rfl (by
      refine World.not_reachable_of_idle rfl (fun thread frame running => ?_)
        (fun native bound => ?_) 1
      · rcases World.mem_setStack running with ⟨-, inStack⟩ | ⟨other, old⟩
        · rw [List.mem_singleton.mp inStack]
          rfl
        · simp [World.setStack, World.register, World.addObject, World.addNative, other,
            mainThread] at old
      · rw [List.mem_singleton.mp bound]
        rfl))
  have destructed := enqueued.snoc
    (@Step.destruct _ 1 ⟨1, 0, .enqueued⟩ List.mem_cons_self rfl rfl)
  exact ⟨_, _, _, mainThread_initial, destructed, by simp,
    (nativeSockets_safe mainThread_initial destructed (.nil _)).1 0 (by simp)⟩

end Dcsctp4j
