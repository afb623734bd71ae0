import Dcsctp4j.NativeLifetime

/-! # What every reachable world satisfies

Three groups of facts: the bookkeeping of sockets, native sockets and actions;
what the collector may have taken; and who runs on what.
-/

namespace Dcsctp4j

open ObjectGraph Transition

namespace World

/-! ## Reading an updated world -/

section Updates

variable {world : World} {thread other : Thread} {stack : List Frame} {ptr : Pointer}

theorem mem_setStack {frame : Frame}
    (member : frame ∈ (world.setStack thread stack).stack other) :
    other = thread ∧ frame ∈ stack ∨ other ≠ thread ∧ frame ∈ world.stack other := by
  by_cases same : other = thread
  · subst same
    simp only [setStack, Function.update_self] at member
    exact .inl ⟨rfl, member⟩
  · simp only [setStack, Function.update_of_ne same] at member
    exact .inr ⟨same, member⟩

theorem mem_updateNative {change : NativeSocket → NativeSocket} {native : NativeSocket}
    (member : native ∈ (world.updateNative ptr change).natives) :
    native ∈ world.natives ∨
      ∃ before, world.natives[ptr]? = some before ∧ native = change before := by
  rcases List.mem_iff_getElem?.mp member with ⟨index, found⟩
  rw [updateNative, List.getElem?_modify] at found
  by_cases same : ptr = index
  · subst same
    rcases Option.map_eq_some_iff.mp found with ⟨before, bound, equal⟩
    exact .inr ⟨before, bound, by simpa using equal.symm⟩
  · have unchanged : world.natives[index]? = some native := by simpa [same] using found
    exact .inl (List.mem_of_getElem? unchanged)

theorem advance_entry (stage : CleanStage) (entry : Cleanable) :
    (Cleanable.advance ptr stage entry).object = entry.object ∧
      (Cleanable.advance ptr stage entry).ptr = entry.ptr := by
  unfold Cleanable.advance
  split <;> exact ⟨rfl, rfl⟩

theorem mem_advance {stage : CleanStage} {entry : Cleanable}
    (member : entry ∈ (world.advance ptr stage).cleaner) :
    entry ∈ world.cleaner ∧ entry.ptr ≠ ptr ∨
      ∃ before ∈ world.cleaner, before.ptr = ptr ∧ entry = { before with stage } := by
  rcases List.mem_map.mp member with ⟨before, beforeMember, equal⟩
  subst equal
  by_cases same : before.ptr = ptr
  · exact .inr ⟨before, beforeMember, same, by simp [Cleanable.advance, same]⟩
  · exact .inl (by simpa [Cleanable.advance, same] using beforeMember)

@[simp] theorem advance_ptrs (stage : CleanStage) :
    (world.advance ptr stage).cleaner.map Cleanable.ptr = world.cleaner.map Cleanable.ptr := by
  rw [advance, List.map_map]
  apply List.map_congr_left
  exact fun entry _ => (advance_entry stage entry).2

end Updates

/-! ## Reachability -/

section Reachability

variable {world next : World}

theorem reachable_static {object : Object} (member : object ∈ world.statics) :
    world.Reachable object :=
  Reaches.root (.inl (.inl member))

theorem reachable_frame {thread : Thread} {frame : Frame} {object : Object}
    (running : frame ∈ world.stack thread) (member : object ∈ frame.objects) :
    world.Reachable object :=
  Reaches.root (.inl (.inr ⟨thread, frame, running, member⟩))

theorem reachable_global {native : NativeSocket} {object : Object}
    (bound : native ∈ world.natives) (member : object ∈ native.timeouts) :
    world.Reachable object :=
  Reaches.root (.inr ⟨native, bound, member⟩)

def Fresh (world next : World) : Set Object :=
  { object | world.heap.length ≤ object ∧ object < next.heap.length }

/-- Only objects that were reachable or have just been made are reachable after
a step that moves references among those. -/
theorem Reachable.of_mutation
    (statics : ∀ object ∈ next.statics, world.Reachable object ∨ object ∈ world.Fresh next)
    (frames : ∀ thread, ∀ frame ∈ next.stack thread, ∀ object ∈ frame.objects,
      world.Reachable object ∨ object ∈ world.Fresh next)
    (globals : ∀ native ∈ next.natives, ∀ object ∈ native.timeouts,
      world.Reachable object ∨ object ∈ world.Fresh next)
    (edges : ∀ holder object, next.Points holder object →
      world.Reachable holder ∨ holder ∈ world.Fresh next →
        world.Reachable object ∨ object ∈ world.Fresh next)
    {object : Object} (reachable : next.Reachable object) :
    world.Reachable object ∨ object ∈ world.Fresh next := by
  refine Reaches.of_mutation ?_ edges reachable
  intro root isRoot
  rcases isRoot with (member | ⟨thread, frame, running, member⟩) | ⟨native, bound, member⟩
  · exact statics root member
  · exact frames thread frame running root member
  · exact globals native bound root member

theorem not_mem_fresh (size : next.heap.length = world.heap.length) (object : Object) :
    object ∉ world.Fresh next := by
  intro bounds
  rcases bounds with ⟨lower, upper⟩
  rw [size] at upper
  exact Nat.not_lt_of_le lower upper

theorem Reachable.of_moved (heap : next.heap = world.heap)
    (statics : ∀ object ∈ next.statics, world.Reachable object)
    (frames : ∀ thread, ∀ frame ∈ next.stack thread, ∀ object ∈ frame.objects,
      world.Reachable object)
    (globals : ∀ native ∈ next.natives, ∀ object ∈ native.timeouts, world.Reachable object)
    {object : Object} (reachable : next.Reachable object) : world.Reachable object := by
  have nothingFresh := @not_mem_fresh world next (by rw [heap])
  have kept : world.Reachable object ∨ object ∈ world.Fresh next := by
    apply Reachable.of_mutation _ _ _ _ reachable
    · exact fun object member => .inl (statics object member)
    · exact fun thread frame running object member =>
        .inl (frames thread frame running object member)
    · exact fun native bound object member => .inl (globals native bound object member)
    · intro holder object stored kept
      rcases stored with ⟨fields, shape, member⟩
      rcases kept with held | fresh
      · exact .inl (held.step ⟨fields, heap ▸ shape, member⟩)
      · exact absurd fresh (nothingFresh holder)
  exact kept.resolve_right (nothingFresh object)

end Reachability

/-! ## The invariant -/

def Binds (world : World) (ptr : Pointer) (callbacks : Object)
    (packetObserver : Option Object) : Prop :=
  ∃ native, world.natives[ptr]? = some native ∧ native.callbacks.target = callbacks ∧
    native.packetObserver.map WeakRef.target = packetObserver

/-- Every `NativeSctpSocket` has one action, and an action runs once. -/
structure Registered (world : World) : Prop where
  bound : ∀ socket callbacks packetObserver ptr,
    world.heap[socket]? = some (.nativeSctpSocket callbacks packetObserver ptr) →
      world.Binds ptr callbacks packetObserver ∧
        ∃ entry ∈ world.cleaner, entry.object = socket ∧ entry.ptr = ptr
  entries : ∀ entry ∈ world.cleaner,
    entry.object < world.heap.length ∧ entry.ptr < world.natives.length
  distinct : (world.cleaner.map Cleanable.ptr).Nodup
  ran : ∀ ptr ∈ world.started, ∃ entry ∈ world.cleaner, entry.ptr = ptr ∧ entry.stage = .ran
  once : world.started.Nodup

/-- What has been cleared or enqueued is unreachable. -/
structure Collected (world : World) : Prop where
  allocated : ∀ object, world.Reachable object → object < world.heap.length
  weaks : ∀ native ∈ world.natives, ∀ weak ∈ native.weaks,
    weak.target < world.heap.length ∧ (weak.cleared = true → ¬world.Reachable weak.target)
  dead : ∀ entry ∈ world.cleaner, entry.stage ≠ .waiting → ¬world.Reachable entry.object

/-- A pointer is handed to the constructor only, and no action has it before. -/
def FrameSound (world : World) : Frame → Prop
  | .create callbacks packetObserver (.native ptr)
  | .create callbacks packetObserver (.returned ptr) =>
      world.Binds ptr callbacks packetObserver ∧ ptr ∉ world.cleaner.map Cleanable.ptr
  | .method socket _ _ => ∃ callbacks packetObserver ptr,
      world.heap[socket]? = some (.nativeSctpSocket callbacks packetObserver ptr)
  | .destruct ptr => ptr ∈ world.started
  | _ => True

def claims (world : World) (thread : Thread) : List Pointer :=
  (world.stack thread).filterMap Frame.claim

structure Scheduled (world : World) : Prop where
  frames : ∀ thread, ∀ frame ∈ world.stack thread, world.FrameSound frame
  claimed : ∀ thread, (world.claims thread).Nodup
  exclusive : Exclusive fun thread ptr => ptr ∈ world.claims thread
  monitors : Exclusive world.HoldsMonitor

structure Sound (world : World) : Prop where
  registered : world.Registered
  collected : world.Collected
  scheduled : world.Scheduled

/-! ## Weak references under native code -/

theorem Binds.lt {world : World} {ptr : Pointer} {callbacks : Object}
    {packetObserver : Option Object} (binds : world.Binds ptr callbacks packetObserver) :
    ptr < world.natives.length := by
  rcases binds with ⟨native, bound, -⟩
  exact (List.getElem?_eq_some_iff.mp bound).1

theorem Binds.target {world : World} {ptr : Pointer} {callbacks : Object}
    {packetObserver : Option Object} (binds : world.Binds ptr callbacks packetObserver)
    {native : NativeSocket} (bound : world.natives[ptr]? = some native) {weak : WeakRef}
    (member : weak ∈ native.weaks) :
    weak.target ∈ callbacks :: packetObserver.toList := by
  rcases binds with ⟨same, sameBound, callbacksTarget, observerTarget⟩
  rw [bound] at sameBound
  cases sameBound
  subst callbacksTarget observerTarget
  rcases List.mem_cons.mp member with equal | member
  · simp [equal]
  · rw [Option.mem_toList] at member
    simp [Option.mem_def.mp member]

/-- The frame of `create_` or of a method keeps the callbacks and the observer
of its native socket alive. -/
theorem Sound.target_reachable {world : World} (sound : world.Sound) {thread : Thread}
    {frame : Frame} (running : frame ∈ world.stack thread) {ptr : Pointer}
    (runs : world.RunsNative frame ptr) {native : NativeSocket}
    (bound : world.natives[ptr]? = some native) {weak : WeakRef}
    (member : weak ∈ native.weaks) : world.Reachable weak.target := by
  have frameSound := sound.scheduled.frames thread frame running
  cases runs with
  | create => exact reachable_frame running (frameSound.1.target bound member)
  | method object =>
      have binds := (sound.registered.bound _ _ _ _ object).1
      have socket := reachable_frame running List.mem_cons_self
      exact socket.step ⟨_, object, binds.target bound member⟩

theorem Sound.claim_cases {world : World} (sound : world.Sound) {thread : Thread}
    {ptr : Pointer} (claimed : ptr ∈ world.claims thread) :
    (∃ callbacks packetObserver, world.Binds ptr callbacks packetObserver) ∧
        ptr ∉ world.cleaner.map Cleanable.ptr ∨
      ptr ∈ world.started := by
  rcases List.mem_filterMap.mp claimed with ⟨frame, running, claim⟩
  have frameSound := sound.scheduled.frames thread frame running
  cases frame with
  | application purpose held => cases claim
  | method socket arguments inNative => cases claim
  | create callbacks packetObserver stage =>
      cases stage with
      | entered => cases claim
      | native | returned =>
          cases claim
          exact .inl ⟨⟨_, _, frameSound.1⟩, frameSound.2⟩
  | destruct =>
      cases claim
      exact .inr frameSound

theorem Sound.dead_entry {world : World} (sound : world.Sound) (entry : Cleanable)
    (member : entry ∈ world.cleaner) (stage : entry.stage ≠ .waiting) :
    entry.object < world.heap.length ∧ ¬world.Reachable entry.object :=
  ⟨(sound.registered.entries entry member).1, sound.collected.dead entry member stage⟩

/-! ## What steps keep -/

/-- Sockets, weak references and the log of `destruct` survive every step. -/
structure Keeps (world next : World) : Prop where
  sockets : ∀ (socket callbacks : Object) packetObserver ptr,
    world.heap[socket]? = some (.nativeSctpSocket callbacks packetObserver ptr) →
      next.heap[socket]? = some (.nativeSctpSocket callbacks packetObserver ptr)
  binds : ∀ ptr callbacks packetObserver, world.Binds ptr callbacks packetObserver →
    next.Binds ptr callbacks packetObserver
  started : ∀ ptr ∈ world.started, ptr ∈ next.started

theorem Keeps.frameSound {world next : World} (keeps : Keeps world next) {frame : Frame}
    (unregistered : ∀ ptr, frame.claim = some ptr →
      ptr ∈ next.cleaner.map Cleanable.ptr → ptr ∈ world.cleaner.map Cleanable.ptr)
    (sound : world.FrameSound frame) : next.FrameSound frame := by
  cases frame with
  | application purpose held => trivial
  | create callbacks packetObserver stage =>
      cases stage with
      | entered => trivial
      | native ptr =>
          exact ⟨keeps.binds _ _ _ sound.1, fun member => sound.2 (unregistered ptr rfl member)⟩
      | returned ptr =>
          exact ⟨keeps.binds _ _ _ sound.1, fun member => sound.2 (unregistered ptr rfl member)⟩
  | method socket arguments inNative =>
      rcases sound with ⟨callbacks, packetObserver, ptr, object⟩
      exact ⟨callbacks, packetObserver, ptr, keeps.sockets _ _ _ _ object⟩
  | destruct ptr => exact keeps.started ptr sound

section Preservation

variable {world next : World} {thread : Thread} {stack : List Frame}

theorem Scheduled.after (scheduled : world.Scheduled)
    (stackAfter : next.stack = Function.update world.stack thread stack)
    (others : ∀ other, other ≠ thread → ∀ frame ∈ world.stack other, next.FrameSound frame)
    (frames : ∀ frame ∈ stack, next.FrameSound frame)
    (monitors : ∀ frame ∈ stack, ∀ socket, Frame.monitor frame = some socket →
      world.HoldsMonitor thread socket ∨
        ∀ other, other ≠ thread → ¬world.HoldsMonitor other socket)
    (claimed : (stack.filterMap Frame.claim).Nodup)
    (claims : ∀ ptr ∈ stack.filterMap Frame.claim, ptr ∈ world.claims thread ∨
      ∀ other, ptr ∉ world.claims other) : next.Scheduled := by
  have same : next.stack thread = stack := by simp [stackAfter]
  have different : ∀ other, other ≠ thread → next.stack other = world.stack other :=
    fun other distinct => by simp [stackAfter, Function.update_of_ne distinct]
  refine { frames := ?_, claimed := ?_, exclusive := ?_, monitors := ?_ }
  · intro other frame running
    by_cases equal : other = thread
    · subst equal
      exact frames frame (same ▸ running)
    · exact others other equal frame (different other equal ▸ running)
  · intro other
    by_cases equal : other = thread
    · subst equal
      rwa [World.claims, same]
    · rw [World.claims, different other equal]
      exact scheduled.claimed other
  · apply scheduled.exclusive.transfer
    · intro other distinct ptr member
      rwa [World.claims, different other distinct] at member
    · intro ptr member
      rw [World.claims, same] at member
      exact (claims ptr member).imp id fun free other _ => free other
  · apply scheduled.monitors.transfer
    · intro other distinct socket held
      rcases held with ⟨frame, running, holds⟩
      exact ⟨frame, different other distinct ▸ running, holds⟩
    · intro socket held
      rcases held with ⟨frame, running, holds⟩
      exact monitors frame (same ▸ running) socket holds

theorem Scheduled.keep (scheduled : world.Scheduled) (stackAfter : next.stack = world.stack)
    (keeps : Keeps world next)
    (unregistered : ∀ ptr ∈ next.cleaner.map Cleanable.ptr,
      ptr ∈ world.cleaner.map Cleanable.ptr) : next.Scheduled where
  frames other frame running := keeps.frameSound (fun ptr _ => unregistered ptr)
    (scheduled.frames other frame (stackAfter ▸ running))
  claimed other := by
    rw [World.claims, stackAfter]
    exact scheduled.claimed other
  exclusive := by
    simpa only [World.claims, stackAfter] using scheduled.exclusive
  monitors := by
    simpa only [Exclusive, HoldsMonitor, stackAfter] using scheduled.monitors

theorem Collected.after (collected : world.Collected)
    (reachable : ∀ object, next.Reachable object →
      world.Reachable object ∨ object ∈ world.Fresh next)
    (grows : world.heap.length ≤ next.heap.length)
    (weaks : ∀ native ∈ next.natives, ∀ weak ∈ native.weaks,
      weak.target < world.heap.length ∧
        (weak.cleared = true → ¬world.Reachable weak.target))
    (dead : ∀ entry ∈ next.cleaner, entry.stage ≠ .waiting →
      entry.object < world.heap.length ∧ ¬world.Reachable entry.object) :
    next.Collected where
  allocated object reached := by
    rcases reachable object reached with before | fresh
    · exact Nat.lt_of_lt_of_le (collected.allocated object before) grows
    · exact fresh.2
  weaks native bound weak member := by
    rcases weaks native bound weak member with ⟨old, unreachable⟩
    refine ⟨Nat.lt_of_lt_of_le old grows, fun cleared reached => ?_⟩
    rcases reachable _ reached with before | fresh
    · exact unreachable cleared before
    · exact absurd fresh.1 (Nat.not_le_of_lt old)
  dead entry member stage reached := by
    rcases dead entry member stage with ⟨old, unreachable⟩
    rcases reachable _ reached with before | fresh
    · exact unreachable before
    · exact absurd fresh.1 (Nat.not_le_of_lt old)

end Preservation

end World

end Dcsctp4j
