import Dcsctp4j.LifetimeSafety

/-! # Abandoned sockets

A `NativeSctpSocket` that the application has dropped is deleted only once
nothing reaches it, the global references of its own native socket included.
Those are to its timeouts, so what they are worth depends on what the timeouts
refer to.
-/

namespace Dcsctp4j

open ObjectGraph Transition

namespace World

variable {world next last : World} {thread : Thread} {ptr : Pointer}

/-- The JNI global references of one native socket. The weak ones to callbacks
and observer keep nothing alive. -/
def globalsOf (world : World) (ptr : Pointer) : Set Object :=
  { object | ∃ native, world.natives[ptr]? = some native ∧ object ∈ native.timeouts }

theorem globalRoots_eq (world : World) : world.globalRoots = ⋃ ptr, world.globalsOf ptr := by
  ext object
  rw [Set.mem_iUnion]
  constructor
  · intro isRoot
    rcases isRoot with ⟨native, member, held⟩
    rcases List.mem_iff_getElem?.mp member with ⟨ptr, bound⟩
    exact ⟨ptr, native, bound, held⟩
  · intro isRoot
    rcases isRoot with ⟨ptr, native, bound, held⟩
    exact ⟨native, List.mem_of_getElem? bound, held⟩

/-! ## Where the references come from -/

theorem globalsOf_addNative {callbacks : Object} {packetObserver : Option Object} :
    (world.addNative (.new callbacks packetObserver)).globalsOf ptr = world.globalsOf ptr := by
  ext object
  constructor
  · intro isRoot
    rcases isRoot with ⟨native, bound, member⟩
    by_cases within : ptr < world.natives.length
    · refine ⟨native, ?_, member⟩
      rwa [World.addNative, List.getElem?_append_left within] at bound
    · rw [World.addNative, List.getElem?_append_right (Nat.le_of_not_lt within)] at bound
      rw [List.mem_singleton.mp (List.mem_of_getElem? bound)] at member
      cases member
  · intro isRoot
    rcases isRoot with ⟨native, bound, member⟩
    refine ⟨native, ?_, member⟩
    rw [World.addNative, List.getElem?_append_left (List.getElem?_eq_some_iff.mp bound).1]
    exact bound

theorem globalsOf_updateNative {other : Pointer} {change : NativeSocket → NativeSocket}
    {object : Object} :
    object ∈ (world.updateNative other change).globalsOf ptr ↔
      ∃ native, world.natives[ptr]? = some native ∧
        object ∈ (if other = ptr then change native else native).timeouts := by
  by_cases same : other = ptr
  · subst same
    simp [globalsOf, World.updateNative]
  · simp [globalsOf, World.updateNative, same]

theorem globalsOf_kept {other : Pointer} {change : NativeSocket → NativeSocket}
    (same : ∀ native, (change native).timeouts = native.timeouts) :
    (world.updateNative other change).globalsOf ptr = world.globalsOf ptr := by
  ext object
  rw [globalsOf_updateNative]
  simp only [apply_ite NativeSocket.timeouts, same, ite_self]
  rfl

theorem globalsOf_release {other : Pointer} {object : Object} :
    object ∈ (world.updateNative other .release).globalsOf ptr ↔
      other ≠ ptr ∧ object ∈ world.globalsOf ptr := by
  rw [globalsOf_updateNative]
  by_cases same : other = ptr
  · simp [same, NativeSocket.release]
  · simp [same, globalsOf]

theorem globalsOf_addTimeout {other : Pointer} {native : NativeSocket}
    (bound : world.natives[other]? = some native) {timeout object : Object} :
    object ∈ (world.updateNative other (.addTimeout timeout)).globalsOf ptr ↔
      (other = ptr ∧ timeout = object) ∨ object ∈ world.globalsOf ptr := by
  rw [globalsOf_updateNative]
  by_cases same : other = ptr
  · subst same
    simp [globalsOf, bound, NativeSocket.addTimeout, eq_comm]
  · simp [same, globalsOf]

theorem Sound.mem_globalsOf_step (sound : world.Sound) {event : Event}
    (step : Step world event next) {timeout : Object} :
    timeout ∈ next.globalsOf ptr ↔ event ≠ .deleted ptr ∧
      (event = .timeoutCreated ptr timeout ∨ timeout ∈ world.globalsOf ptr) := by
  have kept : ∀ {event : Event}, event ≠ .deleted ptr → event ≠ .timeoutCreated ptr timeout →
      (timeout ∈ world.globalsOf ptr ↔ event ≠ .deleted ptr ∧
        (event = .timeoutCreated ptr timeout ∨ timeout ∈ world.globalsOf ptr)) := by
    intro event notDeleted notCreated
    simp [notDeleted, notCreated]
  cases step with
  | create_ top =>
      change timeout ∈ (world.addNative _).globalsOf ptr ↔ _
      rw [globalsOf_addNative]
      exact kept (by simp) (by simp)
  | createUnwinds top | destructReturns top =>
      change timeout ∈ (world.updateNative _ .release).globalsOf ptr ↔ _
      rw [globalsOf_release]
      simp
  | createTimeout top runs returned =>
      rcases sound.resolves (top ▸ List.mem_cons_of_mem _ List.mem_cons_self) runs with
        ⟨native, bound, -⟩
      change timeout ∈ (world.updateNative _ (.addTimeout _)).globalsOf ptr ↔ _
      rw [globalsOf_addTimeout bound]
      simp
  | clearCallbacks bound unreachable =>
      change timeout ∈ (world.updateNative _ .clearCallbacks).globalsOf ptr ↔ _
      rw [@globalsOf_kept _ _ _ .clearCallbacks fun _ => rfl]
      exact kept (by simp) (by simp)
  | clearPacketObserver bound present unreachable =>
      change timeout ∈ (world.updateNative _ .clearPacketObserver).globalsOf ptr ↔ _
      rw [@globalsOf_kept _ _ _ .clearPacketObserver fun _ => rfl]
      exact kept (by simp) (by simp)
  | _ => exact kept (by simp) (by simp)

/-! ## How long they live -/

/-- Nothing runs on the pointer any more: its `destruct` has started, or `create_`
failed and nothing knows it. -/
def Released (world : World) (ptr : Pointer) : Prop :=
  ptr ∈ world.started ∨ ptr < world.natives.length ∧
    ptr ∉ world.cleaner.map Cleanable.ptr ∧ ∀ thread, ptr ∉ world.claims thread

theorem claims_move {before after : List Frame} (move : Move world thread before after) :
    (after.filterMap Frame.claim).Sublist (before.filterMap Frame.claim) := by
  cases move with
  | createRefused | methodReturns | finish => exact (List.sublist_cons_self _ _).filterMap _
  | _ => exact List.Sublist.refl _

theorem claims_setStack {base : World} {stack : List Frame} {other : Thread}
    (claimed : ptr ∈ (base.setStack thread stack).claims other) :
    ptr ∈ stack.filterMap Frame.claim ∨ ptr ∈ base.claims other := by
  rcases List.mem_filterMap.mp claimed with ⟨frame, running, claim⟩
  rcases mem_setStack running with ⟨-, inStack⟩ | ⟨-, old⟩
  · exact .inl (List.mem_filterMap.mpr ⟨frame, inStack, claim⟩)
  · exact .inr (List.mem_filterMap.mpr ⟨frame, old, claim⟩)

/-- Only `create_` and the `Cleaner` make claims: of a new pointer and of one
that has an action. -/
theorem claims_step {event : Event} (step : Step world event next) {other : Thread}
    (claimed : ptr ∈ next.claims other) :
    (∃ holder, ptr ∈ world.claims holder) ∨ ptr = world.natives.length ∨
      ptr ∈ world.cleaner.map Cleanable.ptr := by
  have kept : ∀ (base : World) {thread before stack}, base.claims = world.claims →
      world.stack thread = before →
        (stack.filterMap Frame.claim).Sublist (before.filterMap Frame.claim) →
          ptr ∈ (base.setStack thread stack).claims other →
            ∃ holder, ptr ∈ world.claims holder := by
    intro base thread before stack same top sublist claimed
    rcases claims_setStack claimed with inStack | old
    · refine ⟨thread, ?_⟩
      rw [World.claims, top]
      exact sublist.subset inStack
    · exact ⟨other, same ▸ old⟩
  have tail : ∀ {frame rest}, (List.filterMap Frame.claim rest).Sublist
      ((frame :: rest).filterMap Frame.claim) :=
    fun {frame rest} => (List.sublist_cons_self frame rest).filterMap _
  cases step with
  | move top move => exact .inl (kept world rfl top (claims_move move) claimed)
  | allocate top given =>
      exact .inl (kept (world.addObject _) rfl top (by exact List.Sublist.refl _) claimed)
  | spawn top idle passed =>
      exact .inl (kept world rfl idle (by exact List.Sublist.refl _) claimed)
  | create_ top =>
      rcases claims_setStack claimed with inStack | old
      · rcases List.mem_cons.mp inStack with new | inRest
        · exact .inr (.inl new)
        · exact .inl ⟨_, by rw [World.claims, top]; exact inRest⟩
      · exact .inl ⟨other, old⟩
  | createFails top => exact .inl (kept world rfl top tail claimed)
  | createUnwinds top => exact .inl (kept (world.updateNative _ .release) rfl top tail claimed)
  | @construct _ _ _ ptr _ _ rest top =>
      exact .inl (kept ((world.addObject _).register _ _) rfl top
        (by exact List.sublist_cons_self ptr (rest.filterMap Frame.claim)) claimed)
  | createTimeout top runs returned =>
      exact .inl (kept (world.updateNative _ (.addTimeout _)) rfl top tail claimed)
  | destruct member enqueued idle =>
      rcases claims_setStack claimed with inStack | old
      · right
        right
        rw [List.mem_singleton.mp inStack]
        exact List.mem_map_of_mem member
      · exact .inl ⟨other, old⟩
  | destructReturns top => exact .inl (kept (world.updateNative _ .release) rfl top tail claimed)
  | _ => exact .inl ⟨other, claimed⟩

/-- Only the constructor registers an action, for a pointer it claims. -/
theorem registered_step {event : Event} (step : Step world event next)
    (registered : ptr ∈ next.cleaner.map Cleanable.ptr) :
    ptr ∈ world.cleaner.map Cleanable.ptr ∨ ∃ thread, ptr ∈ world.claims thread := by
  cases step with
  | construct top =>
      rcases List.mem_cons.mp registered with new | old
      · exact .inr ⟨_, by rw [World.claims, top]; exact new ▸ List.mem_cons_self⟩
      · exact .inl old
  | enqueue => exact .inl (by rwa [advance_ptrs] at registered)
  | destruct =>
      have same := registered
      exact .inl (by simpa only [World.setStack, World.logStart, advance_ptrs] using same)
  | _ => exact .inl registered

theorem natives_length_step {event : Event} (step : Step world event next) :
    world.natives.length ≤ next.natives.length := by
  cases step <;> simp [World.setStack, World.addObject, World.addNative, World.updateNative,
    World.register, World.advance, World.logStart, World.store]

theorem started_step {event : Event} (step : Step world event next)
    (started : ptr ∈ world.started) : ptr ∈ next.started := by
  have before := List.count_pos_iff.mpr started
  have counted := count_started_step step ptr
  exact List.count_pos_iff.mp (by omega)

theorem Released.step {event : Event} (released : world.Released ptr)
    (step : Step world event next) : next.Released ptr := by
  rcases released with started | ⟨old, unregistered, unclaimed⟩
  · exact .inl (started_step step started)
  · right
    refine ⟨Nat.lt_of_lt_of_le old (natives_length_step step), ?_, ?_⟩
    · intro registered
      rcases registered_step step registered with before | ⟨thread, claimed⟩
      · exact unregistered before
      · exact unclaimed thread claimed
    · intro thread claimed
      rcases claims_step step claimed with ⟨holder, before⟩ | new | registered
      · exact unclaimed holder before
      · exact Nat.lt_irrefl _ (new ▸ old)
      · exact unregistered registered

theorem Sound.released_of_deleted (sound : world.Sound)
    (step : Step world (.deleted ptr) next) : next.Released ptr := by
  cases step with
  | @createUnwinds thread callbacks packetObserver _ rest top =>
      have creating : Frame.create callbacks packetObserver (.native ptr) ∈
          world.stack thread := top ▸ List.mem_cons_self
      have claimed : ptr ∈ world.claims thread :=
        List.mem_filterMap.mpr ⟨_, creating, rfl⟩
      have nodup := sound.scheduled.claimed thread
      rw [World.claims, top] at nodup
      right
      refine ⟨?_, (sound.scheduled.frames thread _ creating).2, ?_⟩
      · simpa [World.setStack, World.updateNative] using sound.claim_lt claimed
      · intro other member
        rcases List.mem_filterMap.mp member with ⟨frame, running, claim⟩
        rcases mem_setStack running with ⟨-, inRest⟩ | ⟨distinct, old⟩
        · exact (List.nodup_cons.mp nodup).1 (List.mem_filterMap.mpr ⟨frame, inRest, claim⟩)
        · exact distinct (sound.scheduled.exclusive _ _ _
            (List.mem_filterMap.mpr ⟨frame, old, claim⟩) claimed)
  | @destructReturns thread _ rest top =>
      left
      exact sound.scheduled.frames thread (.destruct ptr) (top ▸ List.mem_cons_self)

theorem Sound.not_runsNative_of_released (sound : world.Sound) (released : world.Released ptr)
    {frame : Frame} (running : frame ∈ world.stack thread) : ¬world.RunsNative frame ptr := by
  intro runs
  rcases released with started | ⟨-, unregistered, unclaimed⟩
  · exact sound.not_started_of_runsNative running runs started
  · rcases sound.executes_cases ⟨frame, running, .inl runs⟩ with claimed | ⟨_, -, waiting⟩
    · exact unclaimed thread claimed
    · exact unregistered (List.mem_map_of_mem waiting)

theorem Sound.not_timeoutCreated (sound : world.Sound) (released : world.Released ptr)
    {timeout : Object} : ¬Step world (.timeoutCreated ptr timeout) next := by
  intro step
  cases step with
  | createTimeout top runs returned =>
      exact sound.not_runsNative_of_released released
        (top ▸ List.mem_cons_of_mem _ List.mem_cons_self) runs

/-- The timeouts that `createTimeout` has returned to a native socket, as long as that
is not deleted. -/
def timeoutsGiven (events : List Event) (ptr : Pointer) : Set Object :=
  { timeout | .timeoutCreated ptr timeout ∈ events ∧ .deleted ptr ∉ events }

structure Recorded (world : World) (history : List Event) : Prop where
  sound : world.Sound
  deleted : ∀ ptr, .deleted ptr ∈ history → world.Released ptr
  globals : ∀ ptr, world.globalsOf ptr = timeoutsGiven history ptr

theorem Recorded.step {history : List Event} (recorded : world.Recorded history) {event : Event}
    (step : Step world event next) : next.Recorded (event :: history) where
  sound := recorded.sound.step step
  deleted ptr member := by
    rcases List.mem_cons.mp member with now | before
    · exact recorded.sound.released_of_deleted (now ▸ step)
    · exact (recorded.deleted ptr before).step step
  globals ptr := by
    ext timeout
    have unborn : event = .timeoutCreated ptr timeout → .deleted ptr ∉ history := by
      intro created deleted
      subst created
      exact recorded.sound.not_timeoutCreated (recorded.deleted ptr deleted) step
    rw [recorded.sound.mem_globalsOf_step step, recorded.globals]
    simp only [timeoutsGiven, Set.mem_ofPred_eq, List.mem_cons, not_or, ne_eq]
    constructor
    · intro given
      rcases given with ⟨kept, created | ⟨before, undeleted⟩⟩
      · exact ⟨.inl created.symm, fun deleted => kept deleted.symm, unborn created⟩
      · exact ⟨.inr before, fun deleted => kept deleted.symm, undeleted⟩
    · intro given
      rcases given with ⟨created | before, kept, undeleted⟩
      · exact ⟨fun deleted => kept deleted.symm, .inl created.symm⟩
      · exact ⟨fun deleted => kept deleted.symm, .inr ⟨before, undeleted⟩⟩

theorem globalsOf_run {start : World} {events : List Event} (initial : process.initial start)
    (run : process.Run start events world) (ptr : Pointer) :
    world.globalsOf ptr = timeoutsGiven events ptr := by
  have first : start.Recorded [] :=
    { sound := process_sound.initially start initial
      deleted := fun _ member => absurd member List.not_mem_nil
      globals := fun ptr => by
        ext timeout
        simp [globalsOf, timeoutsGiven, World.Initial.natives initial] }
  have recorded := run.recorded World.Recorded
    (fun _ _ _ _ step recorded => recorded.step step) first
  rw [recorded.globals ptr]
  simp [timeoutsGiven]

/-! ## What keeps an abandoned socket -/

def Eligible (world : World) (socket : Object) (ptr : Pointer) : Prop :=
  ∃ entry ∈ world.cleaner, entry.object = socket ∧ entry.ptr = ptr ∧ ¬world.Reachable socket

theorem reachable_iff (socket : Object) :
    world.Reachable socket ↔ Reaches world.Points world.applicationRoots socket ∨
      ∃ ptr, Reaches world.Points (world.globalsOf ptr) socket := by
  rw [Reachable, Reaches.union_iff, globalRoots_eq, Reaches.iUnion_iff]

theorem Sound.eligible_iff (sound : world.Sound) {socket callbacks : Object}
    {packetObserver : Option Object}
    (object : world.heap[socket]? = some (.nativeSctpSocket callbacks packetObserver ptr)) :
    world.Eligible socket ptr ↔ ¬world.Reachable socket := by
  constructor
  · intro eligible
    rcases eligible with ⟨entry, -, -, -, unreachable⟩
    exact unreachable
  · intro unreachable
    rcases (sound.registered.bound _ _ _ _ object).2 with ⟨entry, member, sameObject, samePtr⟩
    exact ⟨entry, member, sameObject, samePtr, unreachable⟩

/-- No timeout of a native socket that is not deleted leads to the Java socket. -/
def TimeoutsClear (world : World) (events : List Event) (socket : Object) : Prop :=
  ∀ ptr, ¬Reaches world.Points (timeoutsGiven events ptr) socket

end World

/-- An abandoned socket is not kept by its own native socket exactly when no timeout of
it leads back. It is eligible besides exactly when no timeout of any native socket does:
two abandoned sockets may keep each other, and a `create_` that failed may keep both. -/
theorem abandoned_socket_released_iff {start world : World} {events : List Event}
    (initial : process.initial start) (run : process.Run start events world)
    {socket callbacks : Object} {packetObserver : Option Object} {ptr : Pointer}
    (object : world.heap[socket]? = some (.nativeSctpSocket callbacks packetObserver ptr))
    (abandoned : ¬Reaches world.Points world.applicationRoots socket) :
    (¬Reaches world.Points (world.globalsOf ptr) socket ↔
        ¬Reaches world.Points (World.timeoutsGiven events ptr) socket) ∧
      (¬Reaches world.Points (world.globalsOf ptr) socket ∧ world.Eligible socket ptr ↔
        world.TimeoutsClear events socket) := by
  have sound := process_sound.run run (process_sound.initially start initial)
  have given := World.globalsOf_run initial run
  rw [given ptr]
  apply And.intro Iff.rfl
  rw [sound.eligible_iff object, World.reachable_iff]
  simp only [given]
  constructor
  · intro released other reaches
    exact released.2 (.inr ⟨other, reaches⟩)
  · intro clear
    refine ⟨clear ptr, ?_⟩
    intro reachable
    rcases reachable with application | ⟨other, reaches⟩
    · exact abandoned application
    · exact clear other reaches

/-! ## The timeouts of `TestTimeout` -/

/-- `createTimeout` makes an object that has the wrapper; the wrapper gets the
socket; the application drops all it has. -/
def testTimeoutEvents : List Event :=
  [.thread 0, .thread 0, .thread 0, .thread 0, .thread 0, .thread 0, .thread 0,
    .timeoutCreated 0 2, .thread 0, .thread 0, .thread 0, .thread 0]

def testTimeoutWorld : World where
  heap :=
    [.application [3], .application [0], .application [0], .nativeSctpSocket 1 none 0]
  natives := [{ callbacks := ⟨1, false⟩, packetObserver := none, timeouts := [2] }]
  statics := []
  stack := mainThread.stack
  cleaner := [{ object := 3, ptr := 0, stage := .waiting }]
  started := []

theorem testTimeout_run : process.Run mainThread testTimeoutEvents testTimeoutWorld := by
  have start : process.Run mainThread [] mainThread := .nil _
  have wrapper := start.snoc (@Step.allocate mainThread 0 .program [] [] [] rfl (by simp))
  have callbacks := wrapper.snoc (@Step.allocate _ 0 .program [0] [0] [] rfl (by simp))
  have called := callbacks.snoc
    (.move rfl (@Move.callCreate _ 0 .program [1, 0] [] 1 none (by simp) (by simp)))
  have native := called.snoc (@Step.create_ _ 0 _ _ _ rfl)
  have asked := native.snoc (@Step.move _ 0 _ _ rfl
    (@Move.callback _ 0 _ _ 0 (.new 1 none) .createTimeout .create rfl rfl (by simp)))
  have read := asked.snoc (@Step.move _ 0 _ _ rfl (@Move.compute _ 0 .createTimeout [1] [0] _
    (fun object member => .inr (.inr ⟨1, by simp, [0], rfl, member⟩))))
  have timeout := read.snoc (@Step.allocate _ 0 .createTimeout [0] [0] _ rfl (by simp))
  have given := timeout.snoc (@Step.createTimeout _ 0 [2, 0] _ _ 0 2 rfl .create (by simp))
  have returned := given.snoc (@Step.move _ 0 _ _ rfl .createReturns)
  have constructed := returned.snoc (@Step.construct _ 0 _ _ _ _ _ _ rfl)
  have stored := constructed.snoc
    (@Step.store _ 0 .program [3, 1, 0] [] [3] [] 0 rfl (by simp) rfl (by simp))
  have dropped := stored.snoc
    (.move rfl (@Move.compute _ 0 .program [3, 1, 0] [] [] (by simp)))
  convert dropped using 1
  · rfl
  · apply World.ext
    case stack =>
      funext thread
      by_cases main : thread = 0
      · subst main
        rfl
      · simp [testTimeoutWorld, World.setStack, World.store, World.register, World.addObject,
          World.updateNative, World.addNative, main]
    all_goals rfl

theorem testTimeoutWorld_abandoned :
    ¬Reaches testTimeoutWorld.Points testTimeoutWorld.applicationRoots 3 := by
  intro reaches
  rcases reaches with ⟨root, member | ⟨thread, frame, running, member⟩, -⟩
  · cases member
  · by_cases main : thread = 0
    · subst main
      rw [List.mem_singleton.mp running] at member
      cases member
    · simp [testTimeoutWorld, mainThread, main] at running

theorem testTimeoutWorld_keeps :
    Reaches testTimeoutWorld.Points (testTimeoutWorld.globalsOf 0) 3 := by
  refine ⟨2, ⟨_, rfl, List.mem_cons_self⟩, ?_⟩
  exact .tail (.tail .refl ⟨.application [0], rfl, List.mem_cons_self⟩)
    ⟨.application [3], rfl, List.mem_cons_self⟩

theorem testTimeoutWorld_not_clear : ¬testTimeoutWorld.TimeoutsClear testTimeoutEvents 3 := by
  intro clear
  rcases (abandoned_socket_released_iff mainThread_initial testTimeout_run rfl
    testTimeoutWorld_abandoned).2.mpr clear with ⟨unreached, -⟩
  exact unreached testTimeoutWorld_keeps

/-- So an abandoned socket can be kept by its own native socket for ever. -/
theorem abandoned_socket_kept : ¬∀ (start world : World) (events : List Event)
    (socket callbacks : Object) (packetObserver : Option Object) (ptr : Pointer),
    process.initial start → process.Run start events world →
      world.heap[socket]? = some (.nativeSctpSocket callbacks packetObserver ptr) →
        ¬Reaches world.Points world.applicationRoots socket →
          ¬Reaches world.Points (world.globalsOf ptr) socket := by
  intro claimed
  exact claimed mainThread testTimeoutWorld testTimeoutEvents 3 1 none 0 mainThread_initial
    testTimeout_run rfl testTimeoutWorld_abandoned testTimeoutWorld_keeps

end Dcsctp4j
