import Mathlib.Data.List.Nodup
import Dcsctp4j.LifetimeInvariant

/-! # Moves and native sockets

Steps that change the stack of one thread or a native socket keep the invariant.
-/

namespace Dcsctp4j

open ObjectGraph Transition

namespace World

variable {world next : World} {thread : Thread}

/-! ## Changes of one stack -/

/-- The new frames are sound, hold reachable objects and take free monitors. The
stack claims what it claimed before and at most one pointer that nobody claims. -/
structure StackChange (world : World) (thread : Thread) (stack : List Frame) : Prop where
  frames : ∀ frame ∈ stack, frame ∈ world.stack thread ∨
    world.FrameSound frame ∧ (∀ object ∈ frame.objects, world.Reachable object) ∧
      ∀ socket, frame.monitor = some socket → world.HoldsMonitor thread socket ∨
        ∀ other, other ≠ thread → ¬world.HoldsMonitor other socket
  claims : ∃ added kept : List Pointer,
    stack.filterMap Frame.claim = added ++ kept ∧ kept.Sublist (world.claims thread) ∧
      (added = [] ∨ ∃ ptr, added = [ptr] ∧ ∀ other, ptr ∉ world.claims other)

theorem StackChange.claimed {stack : List Frame} (change : world.StackChange thread stack)
    (before : (world.claims thread).Nodup) :
    (stack.filterMap Frame.claim).Nodup ∧
      ∀ ptr ∈ stack.filterMap Frame.claim, ptr ∈ world.claims thread ∨
        ∀ other, ptr ∉ world.claims other := by
  rcases change.claims with ⟨added, kept, split, sublist, nothing | ⟨ptr, single, free⟩⟩
  · rw [split, nothing, List.nil_append]
    exact ⟨before.sublist sublist, fun ptr member => .inl (sublist.subset member)⟩
  · rw [split, single, List.singleton_append]
    refine ⟨List.nodup_cons.mpr ⟨fun member => free thread (sublist.subset member),
      before.sublist sublist⟩, fun other member => ?_⟩
    rcases List.mem_cons.mp member with equal | member
    · exact .inr (equal ▸ free)
    · exact .inl (sublist.subset member)

theorem Registered.setStack (registered : world.Registered) (stack : List Frame) :
    (world.setStack thread stack).Registered :=
  ⟨registered.bound, registered.entries, registered.distinct, registered.ran, registered.once⟩

theorem Sound.setStack (sound : world.Sound) {stack : List Frame}
    (change : world.StackChange thread stack) : (world.setStack thread stack).Sound where
  registered := sound.registered.setStack stack
  collected := by
    have kept : ∀ object, (world.setStack thread stack).Reachable object →
        world.Reachable object := by
      refine fun object => @Reachable.of_moved world (world.setStack thread stack) rfl
        (fun _ (member : _ ∈ world.statics) => reachable_static member)
        (fun other frame running => ?_)
        (fun _ (bound : _ ∈ world.natives) _ => reachable_global bound) object
      rcases mem_setStack running with ⟨-, new⟩ | ⟨-, old⟩
      · rcases change.frames frame new with old | new
        · exact fun _ => reachable_frame old
        · exact new.2.1
      · exact fun _ => reachable_frame old
    exact sound.collected.after (fun object reached => .inl (kept object reached))
      (Nat.le_refl _) sound.collected.weaks sound.dead_entry
  scheduled := by
    have keeps : Keeps world (world.setStack thread stack) :=
      ⟨fun _ _ _ _ => id, fun _ _ _ => id, fun _ => id⟩
    have kept : ∀ frame, world.FrameSound frame →
        (world.setStack thread stack).FrameSound frame :=
      fun frame => keeps.frameSound fun _ _ => id
    rcases change.claimed (sound.scheduled.claimed thread) with ⟨claimed, claims⟩
    refine sound.scheduled.after rfl (fun other _ frame running =>
      kept frame (sound.scheduled.frames other frame running)) ?_ ?_ claimed claims
    · intro frame member
      rcases change.frames frame member with old | new
      · exact kept frame (sound.scheduled.frames thread frame old)
      · exact kept frame new.1
    · intro frame member socket holds
      rcases change.frames frame member with old | new
      · exact .inl ⟨frame, old, holds⟩
      · exact new.2.2 socket holds

namespace StackChange

variable {old new : Frame} {rest : List Frame}

theorem replace (top : world.stack thread = old :: rest) (frameSound : world.FrameSound new)
    (objects : ∀ object ∈ new.objects, world.Reachable object)
    (monitor : new.monitor = old.monitor)
    (claim : new.claim = old.claim ∨
      ∃ ptr, new.claim = some ptr ∧ ∀ other, ptr ∉ world.claims other) :
    world.StackChange thread (new :: rest) where
  frames frame member := by
    rcases List.mem_cons.mp member with equal | member
    · subst equal
      refine .inr ⟨frameSound, objects, fun socket holds => .inl ⟨old, by simp [top], ?_⟩⟩
      rw [← monitor, holds]
    · exact .inl (by simp [top, member])
  claims := by
    have restClaims : (rest.filterMap Frame.claim).Sublist (world.claims thread) := by
      rw [World.claims, top]
      exact (List.sublist_cons_self old rest).filterMap _
    rcases claim with same | ⟨ptr, single, free⟩
    · exact ⟨[], _, rfl, by simp [World.claims, top, List.filterMap_cons, same], .inl rfl⟩
    · exact ⟨[ptr], _, by simp [single], restClaims, .inr ⟨ptr, rfl, free⟩⟩

theorem push (frameSound : world.FrameSound new)
    (objects : ∀ object ∈ new.objects, world.Reachable object)
    (monitor : ∀ socket, new.monitor = some socket →
      ∀ other, other ≠ thread → ¬world.HoldsMonitor other socket)
    (claim : new.claim = none ∨
      ∃ ptr, new.claim = some ptr ∧ ∀ other, ptr ∉ world.claims other) :
    world.StackChange thread (new :: world.stack thread) where
  frames frame member := by
    rcases List.mem_cons.mp member with equal | member
    · subst equal
      exact .inr ⟨frameSound, objects, fun socket holds => .inr (monitor socket holds)⟩
    · exact .inl member
  claims := by
    refine ⟨new.claim.toList, world.claims thread, ?_, List.Sublist.refl _, ?_⟩
    · rcases claim with nothing | ⟨ptr, single, -⟩
      · simp [World.claims, nothing]
      · simp [World.claims, single]
    · rcases claim with nothing | ⟨ptr, single, free⟩
      · exact .inl (by simp [nothing])
      · exact .inr ⟨ptr, by simp [single], free⟩

theorem pop (top : world.stack thread = old :: rest) : world.StackChange thread rest where
  frames frame member := .inl (by simp [top, member])
  claims := ⟨[], _, rfl, by
    rw [World.claims, top]
    exact (List.sublist_cons_self old rest).filterMap _, .inl rfl⟩

theorem callback {purpose : Purpose} {held : List Object}
    (objects : ∀ object ∈ held, world.Reachable object) :
    world.StackChange thread (.application purpose held :: world.stack thread) :=
  push trivial objects (fun _ holds => by cases holds) (.inl rfl)

end StackChange

/-! ## Moves -/

theorem readable_reachable {held : List Object}
    (heldReachable : ∀ object ∈ held, world.Reachable object) {object : Object}
    (readable : world.Readable held object) : world.Reachable object := by
  rcases readable with member | static | ⟨holder, member, fields, shape, field⟩
  · exact heldReachable object member
  · exact reachable_static static
  · exact (heldReachable holder member).step ⟨_, shape, field⟩

theorem Sound.move (sound : world.Sound) {frames stack : List Frame}
    (before : world.stack thread = frames) (move : Move world thread frames stack) :
    world.StackChange thread stack := by
  have objects : ∀ frame ∈ frames, ∀ object ∈ frame.objects, world.Reachable object :=
    fun frame member _ => reachable_frame (before ▸ member)
  have frameSound : ∀ frame ∈ frames, world.FrameSound frame :=
    fun frame member => sound.scheduled.frames thread frame (before ▸ member)
  have running : ∀ frame ∈ frames, frame ∈ world.stack thread := fun _ => before ▸ id
  cases move with
  | compute readable =>
      have held := objects _ List.mem_cons_self
      exact .replace before trivial
        (fun object member => readable_reachable held (readable object member)) rfl (.inl rfl)
  | callCreate given observerGiven =>
      have held := objects _ List.mem_cons_self
      rw [← before]
      refine .push trivial ?_ (fun _ holds => by cases holds) (.inl rfl)
      intro object member
      rcases List.mem_cons.mp member with equal | member
      · exact equal ▸ held _ given
      · exact held _ (observerGiven object (Option.mem_toList.mp member))
  | createRefused => exact .pop before
  | createReturns =>
      have top := objects _ List.mem_cons_self
      have topSound := frameSound _ List.mem_cons_self
      exact .replace before topSound top rfl (.inl rfl)
  | callMethod given argumentsGiven object free =>
      have held := objects _ List.mem_cons_self
      rw [← before]
      refine .push ⟨_, _, _, object⟩ ?_ (fun _ holds => by cases holds; exact free) (.inl rfl)
      intro object member
      rcases List.mem_cons.mp member with equal | member
      · exact equal ▸ held _ given
      · exact held _ (argumentsGiven object member)
  | useArguments given =>
      have held := objects _ List.mem_cons_self
      rw [← before]
      exact .callback fun object member =>
        held object (List.mem_cons_of_mem _ (given object member))
  | enterNative | leaveNative =>
      have top := objects _ List.mem_cons_self
      have topSound := frameSound _ List.mem_cons_self
      exact .replace before topSound top rfl (.inl rfl)
  | methodReturns => exact .pop before
  | callback runs bound resolves kind =>
      have target := sound.target_reachable (running _ List.mem_cons_self) runs bound
        List.mem_cons_self
      rw [← before]
      exact .callback (by simpa using target)
  | observe runs bound present resolves =>
      have target := sound.target_reachable (running _ List.mem_cons_self) runs bound
        (List.mem_cons_of_mem _ (Option.mem_toList.mpr present))
      rw [← before]
      exact .callback (by simpa using target)
  | timer runs bound member =>
      have timeout := reachable_global (List.mem_of_getElem? bound) member
      rw [← before]
      exact .callback (by simpa using timeout)
  | finish => exact .pop before

/-! ## Native sockets -/

/-- A step that changes one native socket keeps the invariant when the targets
stay, what it clears is unreachable and what it adds is reachable. -/
structure NativeChange (world : World) (ptr : Pointer)
    (change : NativeSocket → NativeSocket) : Prop where
  callbacks : ∀ native, (change native).callbacks.target = native.callbacks.target
  packetObserver : ∀ native, (change native).packetObserver.map WeakRef.target =
    native.packetObserver.map WeakRef.target
  weaks : ∀ native, world.natives[ptr]? = some native → ∀ weak ∈ (change native).weaks,
    ∃ before ∈ native.weaks, before.target = weak.target ∧
      (weak.cleared = true → before.cleared = true ∨ ¬world.Reachable weak.target)
  timeouts : ∀ native, world.natives[ptr]? = some native →
    ∀ timeout ∈ (change native).timeouts, world.Reachable timeout

theorem NativeChange.keeps {ptr : Pointer} {change : NativeSocket → NativeSocket}
    (sound : world.NativeChange ptr change) : Keeps world (world.updateNative ptr change) where
  sockets _ _ _ _ := id
  binds other callbacks packetObserver := by
    intro bound
    rcases bound with ⟨native, bound, callbacksTarget, observerTarget⟩
    by_cases same : ptr = other
    · refine ⟨change native, ?_, ?_, ?_⟩
      · simp [updateNative, same, bound]
      · rw [sound.callbacks, callbacksTarget]
      · rw [sound.packetObserver, observerTarget]
    · refine ⟨native, ?_, callbacksTarget, observerTarget⟩
      simp [updateNative, same, bound]
  started _ := id

theorem Sound.updateNative (sound : world.Sound) {ptr : Pointer}
    {change : NativeSocket → NativeSocket} (changes : world.NativeChange ptr change) :
    (world.updateNative ptr change).Sound where
  registered :=
    { bound := fun socket callbacks packetObserver other object => by
        rcases sound.registered.bound socket callbacks packetObserver other object with
          ⟨binds, registered⟩
        exact ⟨changes.keeps.binds _ _ _ binds, registered⟩
      entries := fun entry member => by
        simpa [World.updateNative] using sound.registered.entries entry member
      distinct := sound.registered.distinct
      ran := sound.registered.ran
      once := sound.registered.once }
  collected := by
    have kept : ∀ object, (world.updateNative ptr change).Reachable object →
        world.Reachable object := by
      refine fun object => @Reachable.of_moved world (world.updateNative ptr change) rfl
        (fun _ (member : _ ∈ world.statics) => reachable_static member)
        (fun _ _ (running : _ ∈ world.stack _) _ => reachable_frame running)
        (fun native bound => ?_) object
      rcases mem_updateNative bound with old | ⟨before, found, equal⟩
      · exact fun _ => reachable_global old
      · exact equal ▸ changes.timeouts before found
    refine sound.collected.after (fun object reached => .inl (kept object reached))
      (Nat.le_refl _) (fun native bound weak member => ?_) sound.dead_entry
    rcases mem_updateNative bound with old | ⟨before, found, equal⟩
    · exact sound.collected.weaks native old weak member
    · subst equal
      rcases changes.weaks before found weak member with ⟨weakBefore, weakMember, target, cleared⟩
      rcases sound.collected.weaks before (List.mem_of_getElem? found) weakBefore weakMember with
        ⟨allocated, unreachable⟩
      rw [target] at allocated unreachable
      exact ⟨allocated, fun isCleared => (cleared isCleared).elim unreachable id⟩
  scheduled := sound.scheduled.keep rfl changes.keeps fun _ => id

theorem Sound.addNative (sound : world.Sound) {callbacks : Object}
    {packetObserver : Option Object}
    (reachable : ∀ object ∈ callbacks :: packetObserver.toList, world.Reachable object) :
    (world.addNative (.new callbacks packetObserver)).Sound := by
  have keeps : Keeps world (world.addNative (.new callbacks packetObserver)) := by
    refine ⟨fun _ _ _ _ => id, ?_, fun _ => id⟩
    intro ptr _ _ bound
    rcases bound with ⟨native, bound, targets⟩
    refine ⟨native, ?_, targets⟩
    rw [World.addNative, List.getElem?_append_left (List.getElem?_eq_some_iff.mp bound).1]
    exact bound
  refine
    { registered := ?_
      collected := ?_
      scheduled := sound.scheduled.keep rfl keeps fun _ => id }
  · exact
      { bound := fun socket callbacks packetObserver ptr object =>
          (sound.registered.bound _ _ _ _ object).imp (keeps.binds _ _ _) id
        entries := fun entry member => by
          have bounds := sound.registered.entries entry member
          refine ⟨bounds.1, Nat.lt_of_lt_of_le bounds.2 ?_⟩
          simp [World.addNative]
        distinct := sound.registered.distinct
        ran := sound.registered.ran
        once := sound.registered.once }
  · have kept : ∀ object, (world.addNative (.new callbacks packetObserver)).Reachable object →
        world.Reachable object := by
      refine fun object => @Reachable.of_moved world
        (world.addNative (.new callbacks packetObserver)) rfl
        (fun _ (member : _ ∈ world.statics) => reachable_static member)
        (fun _ _ (running : _ ∈ world.stack _) _ => reachable_frame running)
        (fun native bound timeout member => ?_) object
      rcases List.mem_append.mp bound with old | new
      · exact reachable_global old member
      · rw [List.mem_singleton.mp new] at member
        cases member
    refine sound.collected.after (fun object reached => .inl (kept object reached))
      (Nat.le_refl _) (fun native bound weak member => ?_) sound.dead_entry
    rcases List.mem_append.mp bound with old | new
    · exact sound.collected.weaks native old weak member
    · rw [List.mem_singleton.mp new] at member
      have target : weak.target ∈ callbacks :: packetObserver.toList ∧ weak.cleared = false := by
        rcases List.mem_cons.mp member with equal | member
        · simp [equal, NativeSocket.new]
        · cases packetObserver with
          | none => cases member
          | some observer => simp_all [NativeSocket.new]
      exact ⟨sound.collected.allocated _ (reachable _ target.1), by simp [target.2]⟩

theorem Sound.claim_lt (sound : world.Sound) {ptr : Pointer} (member : ptr ∈ world.claims thread) :
    ptr < world.natives.length := by
  rcases sound.claim_cases member with ⟨⟨_, _, binds⟩, -⟩ | started
  · exact binds.lt
  · rcases sound.registered.ran ptr started with ⟨entry, entryMember, equal, -⟩
    exact equal ▸ (sound.registered.entries entry entryMember).2

/-- The new pointer is claimed by no other frame and no action has it. -/
theorem Sound.create_ (sound : world.Sound) {callbacks : Object} {packetObserver : Option Object}
    {rest : List Frame}
    (top : world.stack thread = .create callbacks packetObserver .entered :: rest) :
    ((world.addNative (.new callbacks packetObserver)).setStack thread
      (.create callbacks packetObserver (.native world.natives.length) :: rest)).Sound := by
  let added := world.addNative (.new callbacks packetObserver)
  have topAdded : added.stack thread = .create callbacks packetObserver .entered :: rest := top
  have entered : Frame.create callbacks packetObserver .entered ∈ world.stack thread :=
    top ▸ List.mem_cons_self
  have binds : added.Binds world.natives.length callbacks packetObserver := by
    refine ⟨.new callbacks packetObserver, by simp [added, World.addNative], rfl, ?_⟩
    simp [NativeSocket.new, Function.comp_def]
  have unregistered : world.natives.length ∉ added.cleaner.map Cleanable.ptr := by
    intro member
    rcases List.mem_map.mp member with ⟨entry, entryMember, equal⟩
    exact Nat.lt_irrefl _ (equal ▸ (sound.registered.entries entry entryMember).2)
  have unclaimed : ∀ other, world.natives.length ∉ world.claims other :=
    fun other claimed => Nat.lt_irrefl _ (sound.claim_lt claimed)
  have addedSound : added.Sound := sound.addNative fun object => reachable_frame entered
  have reachable : ∀ object ∈ callbacks :: packetObserver.toList, added.Reachable object :=
    fun object member => @reachable_frame added thread _ object entered member
  apply addedSound.setStack
  exact .replace topAdded ⟨binds, unregistered⟩ reachable rfl
    (.inr ⟨world.natives.length, rfl, unclaimed⟩)

end World

end Dcsctp4j
