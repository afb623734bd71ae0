import Dcsctp4j.LifetimeMoves

/-! # Objects and actions

Steps that store into objects, make new ones or run an action of the `Cleaner`
keep the invariant.
-/

namespace Dcsctp4j

open ObjectGraph Transition

namespace World

variable {world next : World} {thread : Thread}

/-! ## Stores -/

theorem Sound.storeStatic (sound : world.Sound) {after : List Object}
    (stored : ∀ object ∈ after, world.Reachable object) :
    World.Sound { world with statics := after } where
  registered := ⟨sound.registered.bound, sound.registered.entries, sound.registered.distinct,
    sound.registered.ran, sound.registered.once⟩
  collected := by
    have kept : ∀ object, World.Reachable { world with statics := after } object →
        world.Reachable object :=
      fun object => @Reachable.of_moved world { world with statics := after } rfl stored
        (fun _ _ (running : _ ∈ world.stack _) _ => reachable_frame running)
        (fun _ (bound : _ ∈ world.natives) _ => reachable_global bound) object
    exact sound.collected.after (fun object reached => .inl (kept object reached))
      (Nat.le_refl _) sound.collected.weaks sound.dead_entry
  scheduled := sound.scheduled.keep rfl
    ⟨fun _ _ _ _ => id, fun _ _ _ => id, fun _ => id⟩ fun _ => id

theorem store_heap {object : Object} {fields after : List Object}
    (shape : world.heap[object]? = some (.application fields)) (other : Object) :
    (world.store object after).heap[other]? =
      if other = object then some (.application after) else world.heap[other]? := by
  have within := (List.getElem?_eq_some_iff.mp shape).1
  by_cases same : other = object
  · simp [World.store, same, within]
  · simp [World.store, same, Ne.symm same]

theorem store_socket {object : Object} {fields after : List Object}
    (shape : world.heap[object]? = some (.application fields)) (socket callbacks : Object)
    (packetObserver : Option Object) (ptr : Pointer) :
    (world.store object after).heap[socket]? =
        some (.nativeSctpSocket callbacks packetObserver ptr) ↔
      world.heap[socket]? = some (.nativeSctpSocket callbacks packetObserver ptr) := by
  rw [store_heap shape]
  by_cases same : socket = object
  · simp [same, shape]
  · simp [same]

theorem Sound.store (sound : world.Sound) {object : Object} {fields after : List Object}
    (shape : world.heap[object]? = some (.application fields))
    (stored : ∀ field ∈ after, field ∈ fields ∨ world.Reachable field) :
    (world.store object after).Sound where
  registered :=
    { bound := fun socket _ _ _ found => sound.registered.bound _ _ _ _
        ((store_socket shape socket _ _ _).mp found)
      entries := fun entry member => by
        simpa [World.store] using sound.registered.entries entry member
      distinct := sound.registered.distinct
      ran := sound.registered.ran
      once := sound.registered.once }
  collected := by
    have size : (world.store object after).heap.length = world.heap.length := by
      simp [World.store]
    have kept : ∀ target, (world.store object after).Reachable target →
        world.Reachable target ∨ target ∈ world.Fresh (world.store object after) := by
      refine fun target => @Reachable.of_mutation world (world.store object after)
        (fun _ (member : _ ∈ world.statics) => .inl (reachable_static member))
        (fun _ _ (running : _ ∈ world.stack _) _ member => .inl (reachable_frame running member))
        (fun _ (bound : _ ∈ world.natives) _ member => .inl (reachable_global bound member))
        ?_ target
      intro holder field stored kept
      rcases stored with ⟨contents, found, member⟩
      rcases kept with held | fresh
      · rw [store_heap shape] at found
        by_cases same : holder = object
        · rw [if_pos same] at found
          cases found
          rcases stored field member with old | reachable
          · exact .inl (held.step ⟨.application fields, by rw [same]; exact shape, old⟩)
          · exact .inl reachable
        · rw [if_neg same] at found
          exact .inl (held.step ⟨_, found, member⟩)
      · exact absurd fresh (not_mem_fresh size holder)
    exact sound.collected.after kept (Nat.le_of_eq size.symm) sound.collected.weaks
      sound.dead_entry
  scheduled := sound.scheduled.keep rfl
    ⟨fun socket _ _ _ => (store_socket shape socket _ _ _).mpr, fun _ _ _ => id, fun _ => id⟩
    fun _ => id

/-! ## New objects -/

theorem addObject_heap {object : JavaObject} {position : Object} {found : JavaObject}
    (read : (world.addObject object).heap[position]? = some found) :
    world.heap[position]? = some found ∨ position = world.heap.length ∧ found = object := by
  by_cases within : position < world.heap.length
  · left
    rwa [World.addObject, List.getElem?_append_left within] at read
  · right
    rw [World.addObject, List.getElem?_append_right (Nat.le_of_not_lt within)] at read
    rcases List.getElem?_eq_some_iff.mp read with ⟨bound, equal⟩
    have last : position - world.heap.length = 0 := by simpa using bound
    refine ⟨Nat.le_antisymm (Nat.sub_eq_zero_iff_le.mp last) (Nat.le_of_not_lt within), ?_⟩
    simpa [last] using equal.symm

/-- A new object that refers to live ones, held by one thread, makes nothing
else reachable. -/
theorem addObject_reachable {object : JavaObject}
    (references : ∀ target ∈ object.references, world.Reachable target)
    (heap : next.heap = (world.addObject object).heap) (natives : next.natives = world.natives)
    (statics : next.statics = world.statics)
    (frames : ∀ thread, ∀ frame ∈ next.stack thread, ∀ target ∈ frame.objects,
      world.Reachable target ∨ target = world.heap.length)
    {target : Object} (reachable : next.Reachable target) :
    world.Reachable target ∨ target ∈ world.Fresh next := by
  have fresh : world.heap.length ∈ world.Fresh next := by
    refine ⟨Nat.le_refl _, ?_⟩
    simp [heap, World.addObject]
  apply Reachable.of_mutation _ _ _ _ reachable
  · exact fun target member => .inl (reachable_static (statics ▸ member))
  · intro thread frame running target member
    rcases frames thread frame running target member with old | new
    · exact .inl old
    · exact .inr (new ▸ fresh)
  · exact fun native bound target member => .inl (reachable_global (natives ▸ bound) member)
  · intro holder target stored held
    rcases stored with ⟨contents, found, member⟩
    rw [heap] at found
    rcases addObject_heap found with old | ⟨-, new⟩
    · rcases held with held | ⟨outside, -⟩
      · exact .inl (held.step ⟨contents, old, member⟩)
      · exact absurd (List.getElem?_eq_some_iff.mp old).1 (Nat.not_lt_of_le outside)
    · exact .inl (references target (new ▸ member))

theorem Scheduled.resume (scheduled : world.Scheduled) {purpose : Purpose}
    {held : List Object} {rest : List Frame} (suffix : rest <:+ world.stack thread)
    (stackAfter : next.stack =
      Function.update world.stack thread (.application purpose held :: rest))
    (others : ∀ other, other ≠ thread → ∀ frame ∈ world.stack other, next.FrameSound frame)
    (kept : ∀ frame ∈ rest, next.FrameSound frame) : next.Scheduled := by
  have claims : (rest.filterMap Frame.claim).Sublist (world.claims thread) :=
    suffix.sublist.filterMap _
  apply scheduled.after stackAfter others
  · exact List.forall_mem_cons.mpr ⟨trivial, kept⟩
  · intro frame member socket holds
    rcases List.mem_cons.mp member with equal | member
    · subst equal
      cases holds
    · exact .inl ⟨frame, suffix.subset member, holds⟩
  · exact (scheduled.claimed thread).sublist claims
  · exact fun ptr member => .inl (claims.subset member)

theorem addObject_keeps (object : JavaObject) : Keeps world (world.addObject object) where
  sockets _ _ _ _ found := by
    rw [World.addObject, List.getElem?_append_left (List.getElem?_eq_some_iff.mp found).1]
    exact found
  binds _ _ _ := id
  started _ := id

theorem resumed_objects {base : World} (sameStack : base.stack = world.stack)
    {purpose : Purpose} {held : List Object} {rest : List Frame}
    (heldReachable : ∀ object ∈ held, world.Reachable object)
    (suffix : rest <:+ world.stack thread) (other : Thread) (frame : Frame)
    (running : frame ∈ (base.setStack thread
      (.application purpose (world.heap.length :: held) :: rest)).stack other)
    (target : Object) (member : target ∈ frame.objects) :
    world.Reachable target ∨ target = world.heap.length := by
  rcases mem_setStack running with ⟨-, inStack⟩ | ⟨-, old⟩
  · rcases List.mem_cons.mp inStack with equal | inRest
    · subst equal
      rcases List.mem_cons.mp member with new | old
      · exact .inr new
      · exact .inl (heldReachable target old)
    · exact .inl (reachable_frame (suffix.subset inRest) member)
  · exact .inl (reachable_frame (sameStack ▸ old) member)

theorem Sound.allocate (sound : world.Sound) {purpose : Purpose} {held fields : List Object}
    {rest : List Frame} (top : world.stack thread = .application purpose held :: rest)
    (given : ∀ field ∈ fields, field ∈ held) :
    ((world.addObject (.application fields)).setStack thread
      (.application purpose (world.heap.length :: held) :: rest)).Sound := by
  have suffix : rest <:+ world.stack thread := top ▸ List.suffix_cons _ _
  have heldReachable : ∀ object ∈ held, world.Reachable object :=
    fun object => reachable_frame (top ▸ List.mem_cons_self)
  let base := world.addObject (.application fields)
  let next := base.setStack thread (.application purpose (world.heap.length :: held) :: rest)
  have grown : world.heap.length ≤ next.heap.length := by
    simp [next, base, World.setStack, World.addObject]
  have baseKeeps : Keeps world base := addObject_keeps _
  have keeps : Keeps world next := ⟨baseKeeps.sockets, baseKeeps.binds, baseKeeps.started⟩
  have kept : ∀ frame, world.FrameSound frame → next.FrameSound frame :=
    fun frame => keeps.frameSound fun _ _ => id
  have references : ∀ target ∈ (JavaObject.application fields).references,
      world.Reachable target := fun field member => heldReachable field (given field member)
  refine { registered := ?_, collected := ?_, scheduled := ?_ }
  · exact
      { bound := fun socket _ _ _ found => by
          rcases addObject_heap found with old | ⟨-, new⟩
          · exact sound.registered.bound _ _ _ _ old
          · cases new
        entries := fun entry member => by
          have bounds := sound.registered.entries entry member
          exact ⟨Nat.lt_of_lt_of_le bounds.1 grown, bounds.2⟩
        distinct := sound.registered.distinct
        ran := sound.registered.ran
        once := sound.registered.once }
  · refine sound.collected.after (fun object => ?_) grown sound.collected.weaks sound.dead_entry
    exact @addObject_reachable world next _ references rfl rfl rfl
      (resumed_objects rfl heldReachable suffix) object
  · exact sound.scheduled.resume suffix rfl
      (fun other _ frame running => kept frame (sound.scheduled.frames other frame running))
      fun frame member =>
        kept frame (sound.scheduled.frames thread frame (suffix.subset member))

/-! ## The constructor -/

section Constructor

variable {callbacks : Object} {packetObserver : Option Object} {ptr : Pointer}
  {purpose : Purpose} {held : List Object} {rest : List Frame}

def constructed (world : World) (callbacks : Object) (packetObserver : Option Object)
    (ptr : Pointer) : World :=
  (world.addObject (.nativeSctpSocket callbacks packetObserver ptr)).register world.heap.length ptr

theorem constructed_length :
    (world.constructed callbacks packetObserver ptr).heap.length = world.heap.length + 1 := by
  simp [constructed, World.register, World.addObject]

theorem Sound.constructed_registered (sound : world.Sound)
    (binds : world.Binds ptr callbacks packetObserver)
    (unregistered : ptr ∉ world.cleaner.map Cleanable.ptr) :
    (world.constructed callbacks packetObserver ptr).Registered where
  bound socket _ _ other found := by
    rcases addObject_heap found with old | ⟨equal, new⟩
    · rcases sound.registered.bound _ _ _ _ old with ⟨oldBinds, entry, member, same⟩
      exact ⟨oldBinds, entry, List.mem_cons_of_mem _ member, same⟩
    · cases new
      exact ⟨binds, _, List.mem_cons_self, equal.symm, rfl⟩
  entries entry member := by
    rw [constructed_length]
    rcases List.mem_cons.mp member with equal | old
    · subst equal
      exact ⟨Nat.lt_succ_self _, binds.lt⟩
    · have bounds := sound.registered.entries entry old
      exact ⟨Nat.lt_succ_of_lt bounds.1, bounds.2⟩
  distinct := List.nodup_cons.mpr ⟨unregistered, sound.registered.distinct⟩
  ran other member := by
    rcases sound.registered.ran other member with ⟨entry, old, same⟩
    exact ⟨entry, List.mem_cons_of_mem _ old, same⟩
  once := sound.registered.once

theorem Sound.constructed_collected (sound : world.Sound)
    (top : world.stack thread = .create callbacks packetObserver (.returned ptr) ::
      .application purpose held :: rest) :
    ((world.constructed callbacks packetObserver ptr).setStack thread
      (.application purpose (world.heap.length :: held) :: rest)).Collected := by
  have creating : Frame.create callbacks packetObserver (.returned ptr) ∈ world.stack thread :=
    top ▸ List.mem_cons_self
  have caller : Frame.application purpose held ∈ world.stack thread := by simp [top]
  have suffix : rest <:+ world.stack thread :=
    top ▸ (List.suffix_cons _ _).trans (List.suffix_cons _ _)
  let object := JavaObject.nativeSctpSocket callbacks packetObserver ptr
  let next := (world.constructed callbacks packetObserver ptr).setStack thread
    (.application purpose (world.heap.length :: held) :: rest)
  have grown : world.heap.length ≤ next.heap.length := by
    change world.heap.length ≤ (world.constructed callbacks packetObserver ptr).heap.length
    rw [constructed_length]
    exact Nat.le_succ _
  refine sound.collected.after (fun target => ?_) grown sound.collected.weaks
    fun entry member stage => ?_
  · exact @addObject_reachable world next object (fun _ => reachable_frame creating) rfl rfl rfl
      (resumed_objects rfl (fun _ => reachable_frame caller) suffix) target
  · rcases List.mem_cons.mp member with equal | old
    · exact absurd (equal ▸ rfl) stage
    · exact sound.dead_entry entry old stage

theorem FrameSound.constructed {frame : Frame} (frameSound : world.FrameSound frame)
    (unclaimed : frame.claim ≠ some ptr) (stack : List Frame) :
    ((world.constructed callbacks packetObserver ptr).setStack thread stack).FrameSound frame := by
  have added : Keeps world (world.addObject (.nativeSctpSocket callbacks packetObserver ptr)) :=
    addObject_keeps _
  have keeps : Keeps world ((world.constructed callbacks packetObserver ptr).setStack thread
    stack) := ⟨added.sockets, added.binds, added.started⟩
  refine keeps.frameSound (fun other claim member => ?_) frameSound
  rcases List.mem_cons.mp member with equal | old
  · have same : other = ptr := equal
    subst same
    exact absurd claim unclaimed
  · exact old

/-- The frame of `create` is the only one that claims the pointer. -/
theorem Sound.constructed_scheduled (sound : world.Sound)
    (top : world.stack thread = .create callbacks packetObserver (.returned ptr) ::
      .application purpose held :: rest) :
    ((world.constructed callbacks packetObserver ptr).setStack thread
      (.application purpose (world.heap.length :: held) :: rest)).Scheduled := by
  have creating : Frame.create callbacks packetObserver (.returned ptr) ∈ world.stack thread :=
    top ▸ List.mem_cons_self
  have suffix : rest <:+ world.stack thread :=
    top ▸ (List.suffix_cons _ _).trans (List.suffix_cons _ _)
  have claimed := sound.scheduled.claimed thread
  rw [World.claims, top] at claimed
  apply sound.scheduled.resume suffix rfl
  · intro other distinct frame running
    apply FrameSound.constructed (sound.scheduled.frames other frame running)
    intro claim
    apply distinct
    exact sound.scheduled.exclusive other thread ptr
      (List.mem_filterMap.mpr ⟨frame, running, claim⟩)
      (List.mem_filterMap.mpr ⟨_, creating, rfl⟩)
  · intro frame member
    apply FrameSound.constructed (sound.scheduled.frames thread frame (suffix.subset member))
    intro claim
    apply (List.nodup_cons.mp claimed).1
    exact List.mem_filterMap.mpr ⟨frame, by simp [member], claim⟩

/-- `create_` returned a pointer that no action has; the constructor registers
one for it. -/
theorem Sound.construct (sound : world.Sound)
    (top : world.stack thread = .create callbacks packetObserver (.returned ptr) ::
      .application purpose held :: rest) :
    ((world.constructed callbacks packetObserver ptr).setStack thread
      (.application purpose (world.heap.length :: held) :: rest)).Sound := by
  rcases sound.scheduled.frames thread _ (top ▸ List.mem_cons_self) with ⟨binds, unregistered⟩
  exact
    { registered := (sound.constructed_registered binds unregistered).setStack _
      collected := sound.constructed_collected top
      scheduled := sound.constructed_scheduled top }

end Constructor

/-! ## Actions -/

theorem Sound.entry_unique (sound : world.Sound) {first second : Cleanable}
    (firstMember : first ∈ world.cleaner) (secondMember : second ∈ world.cleaner)
    (same : first.ptr = second.ptr) : first = second :=
  List.inj_on_of_nodup_map sound.registered.distinct firstMember secondMember same

/-- The log has exactly the actions that ran. -/
theorem Sound.not_started (sound : world.Sound) {entry : Cleanable}
    (member : entry ∈ world.cleaner) (stage : entry.stage ≠ .ran) :
    entry.ptr ∉ world.started := by
  intro started
  rcases sound.registered.ran _ started with ⟨other, otherMember, same, ran⟩
  exact stage (sound.entry_unique member otherMember same.symm ▸ ran)

theorem Sound.advance (sound : world.Sound) {entry : Cleanable} (member : entry ∈ world.cleaner)
    {stage : CleanStage} (notRan : entry.stage ≠ .ran)
    (unreachable : ¬world.Reachable entry.object) : (world.advance entry.ptr stage).Sound where
  registered :=
    { bound := fun socket _ _ _ found => by
        rcases sound.registered.bound _ _ _ _ found with
          ⟨binds, other, otherMember, object, ptr⟩
        rcases @advance_entry entry.ptr stage other with ⟨sameObject, samePtr⟩
        exact ⟨binds, _, List.mem_map_of_mem otherMember, sameObject.trans object,
          samePtr.trans ptr⟩
      entries := fun other otherMember => by
        rcases mem_advance otherMember with ⟨old, -⟩ | ⟨before, old, -, equal⟩
        · exact sound.registered.entries other old
        · exact equal ▸ sound.registered.entries before old
      distinct := by
        rw [advance_ptrs]
        exact sound.registered.distinct
      ran := fun ptr started => by
        rcases sound.registered.ran ptr started with ⟨other, otherMember, same, ran⟩
        refine ⟨other, List.mem_map.mpr ⟨other, otherMember, if_neg fun equal => ?_⟩, same, ran⟩
        exact notRan (sound.entry_unique member otherMember equal.symm ▸ ran)
      once := sound.registered.once }
  collected := by
    refine sound.collected.after (fun _ => .inl) (Nat.le_refl _) sound.collected.weaks
      fun other otherMember otherStage => ?_
    rcases mem_advance otherMember with ⟨old, -⟩ | ⟨before, old, same, equal⟩
    · exact sound.dead_entry other old otherStage
    · have unique := sound.entry_unique old member same
      subst unique equal
      exact ⟨(sound.registered.entries before old).1, unreachable⟩
  scheduled := sound.scheduled.keep rfl ⟨fun _ _ _ _ => id, fun _ _ _ => id, fun _ => id⟩
    fun ptr registered => by rwa [advance_ptrs] at registered

theorem Sound.logStart (sound : world.Sound) {ptr : Pointer} (fresh : ptr ∉ world.started)
    (ran : ∃ entry ∈ world.cleaner, entry.ptr = ptr ∧ entry.stage = .ran) :
    (world.logStart ptr).Sound where
  registered :=
    { bound := sound.registered.bound
      entries := sound.registered.entries
      distinct := sound.registered.distinct
      ran := List.forall_mem_cons.mpr ⟨ran, sound.registered.ran⟩
      once := List.nodup_cons.mpr ⟨fresh, sound.registered.once⟩ }
  collected := sound.collected.after (fun _ => .inl) (Nat.le_refl _) sound.collected.weaks
    sound.dead_entry
  scheduled := sound.scheduled.keep rfl
    ⟨fun _ _ _ _ => id, fun _ _ _ => id, fun _ => List.mem_cons_of_mem _⟩ fun _ => id

theorem Sound.unclaimed (sound : world.Sound) {entry : Cleanable}
    (member : entry ∈ world.cleaner) (notStarted : entry.ptr ∉ world.started)
    (other : Thread) : entry.ptr ∉ world.claims other := by
  intro claimed
  rcases sound.claim_cases claimed with ⟨-, unregistered⟩ | started
  · exact unregistered (List.mem_map_of_mem member)
  · exact notStarted started

theorem Sound.destruct (sound : world.Sound) {entry : Cleanable} (member : entry ∈ world.cleaner)
    (enqueued : entry.stage = .enqueued) (idle : world.stack thread = []) :
    (((world.advance entry.ptr .ran).logStart entry.ptr).setStack thread
      [.destruct entry.ptr]).Sound := by
  have notRan : entry.stage ≠ .ran := by simp [enqueued]
  have notStarted := sound.not_started member notRan
  have unreachable : ¬world.Reachable entry.object :=
    sound.collected.dead entry member (by simp [enqueued])
  have advanced : (world.advance entry.ptr .ran).Sound := sound.advance member notRan unreachable
  have logged := advanced.logStart notStarted
    ⟨_, List.mem_map_of_mem member, by simp [Cleanable.advance]⟩
  have change := @StackChange.push ((world.advance entry.ptr .ran).logStart entry.ptr) thread
    (.destruct entry.ptr) List.mem_cons_self (fun _ held => by cases held)
    (fun _ holds => by cases holds)
    (.inr ⟨entry.ptr, rfl, fun other => sound.unclaimed member notStarted other⟩)
  have sameStack : ((world.advance entry.ptr .ran).logStart entry.ptr).stack thread = [] := idle
  rw [sameStack] at change
  exact logged.setStack change

end World

end Dcsctp4j
