import Dcsctp4j.LogProxySteps

/-! # What the log proxies keep

As long as registrations do not overlap, there is one sink at most and it holds the
Java object that the `Cleaner` watches.
-/

namespace Dcsctp4j

open Transition

namespace LogWorld

structure Serial (world : LogWorld) : Prop where
  once : ∀ thread, world.registrations thread ≤ 1
  exclusive : Exclusive fun thread (_ : Unit) => 0 < world.registrations thread

def Holds (world : LogWorld) (ptr : Pointer) (object : Object) : Prop :=
  ∃ native, world.natives[ptr]? = some native ∧ native.logProxy = object

/-- A registration knows how far it has come, and `OnLogMessage` runs on a sink that
WebRTC has. The `Cleaner` never gets to run its action. -/
def FrameSound (world : LogWorld) : ProxyFrame → Prop
  | .constructor object stage =>
      match stage with
      | .checked => world.nativeInstance = none
      | .assigned ptr => world.Holds ptr object ∧ world.streams = []
      | .native ptr => world.Holds ptr object
      | .entered | .constructed => True
  | .onLogMessage ptr _ => ptr ∈ world.streams
  | .destruct _ => False

def SinkSound (severity : Native.LoggingSeverity) (world : LogWorld) : Prop :=
  (world.natives = [] ∧ world.nativeInstance = none ∧ world.streams = []) ∨
    ∃ object,
      world.natives = [{ logProxy := object, minSeverity := severity, deleted := false }] ∧
        world.nativeInstance = some 0 ∧ (world.streams = [] ∨ world.streams = [0])

structure Sound (severity : Native.LoggingSeverity) (world : LogWorld) : Prop where
  serial : world.Serial
  sink : world.SinkSound severity
  entries : ∀ entry ∈ world.cleaner, entry.stage = .waiting ∧ world.Holds entry.ptr entry.object
  frames : ∀ thread, ∀ frame ∈ world.stack thread, world.FrameSound frame

section Registrations

variable {world next : LogWorld} {thread : Thread} {stack rest : List ProxyFrame}

theorem registrations_zero (none : world.registrations thread = 0) {frame : ProxyFrame}
    (running : frame ∈ world.stack thread) : frame.registers = false :=
  Bool.eq_false_of_not_eq_true (List.countP_eq_zero.mp none frame running)

theorem Serial.others (serial : world.Serial) {object : Object} {stage : ProxyStage}
    (top : world.stack thread = .constructor object stage :: rest) :
    (∀ frame ∈ rest, frame.registers = false) ∧
      ∀ other, other ≠ thread → ∀ frame ∈ world.stack other, frame.registers = false := by
  have counted : world.registrations thread = rest.countP ProxyFrame.registers + 1 := by
    rw [registrations, top]
    exact List.countP_cons_of_pos rfl
  have once := serial.once thread
  constructor
  · intro frame member
    exact Bool.eq_false_of_not_eq_true (List.countP_eq_zero.mp (by omega) frame member)
  · intro other distinct frame running
    apply registrations_zero _ running
    by_contra registering
    exact distinct (serial.exclusive other thread () (Nat.pos_of_ne_zero registering) (by omega))

theorem Serial.after (serial : world.Serial)
    (stackAfter : next.stack = Function.update world.stack thread stack)
    (count : stack.countP ProxyFrame.registers ≤ world.registrations thread ∨
      stack.countP ProxyFrame.registers ≤ 1 ∧ ∀ other, world.registrations other = 0) :
    next.Serial := by
  have same : next.registrations thread = stack.countP ProxyFrame.registers := by
    rw [registrations, stackAfter, Function.update_self]
  have different : ∀ other, other ≠ thread →
      next.registrations other = world.registrations other := by
    intro other distinct
    rw [registrations, stackAfter, Function.update_of_ne distinct]
    rfl
  have once := serial.once thread
  constructor
  · intro other
    by_cases equal : other = thread
    · rw [equal, same]
      omega
    · rw [different other equal]
      exact serial.once other
  · refine @Exclusive.transfer _ _ _ (fun thread (_ : Unit) => 0 < next.registrations thread)
      serial.exclusive thread ?_ ?_
    · intro other distinct _ registering
      exact different other distinct ▸ registering
    · intro _ registering
      rw [same] at registering
      rcases count with kept | ⟨-, free⟩
      · exact .inl (Nat.lt_of_lt_of_le registering kept)
      · exact .inr fun other _ => by simp [free other]

end Registrations

section Preservation

variable {severity : Native.LoggingSeverity} {world next : LogWorld} {thread : Thread}
  {stack rest : List ProxyFrame}

/-- What is said of a frame stays true while sinks are added; what is said of a
registration, while there is no other. -/
theorem FrameSound.mono {frame : ProxyFrame} (sound : world.FrameSound frame)
    (holds : ∀ ptr object, world.Holds ptr object → next.Holds ptr object)
    (streams : world.streams ⊆ next.streams)
    (registering : frame.registers = true →
      next.nativeInstance = world.nativeInstance ∧ next.streams = world.streams) :
    next.FrameSound frame := by
  cases frame with
  | constructor object stage =>
      rcases registering rfl with ⟨sameInstance, sameStreams⟩
      cases stage with
      | checked => exact sameInstance.trans sound
      | assigned ptr => exact ⟨holds ptr object sound.1, sameStreams.trans sound.2⟩
      | native ptr => exact holds ptr object sound
      | entered | constructed => trivial
  | onLogMessage ptr line => exact streams sound
  | destruct ptr => exact sound

theorem Sound.onStack (sound : world.Sound severity)
    (stackAfter : next.stack = Function.update world.stack thread stack)
    (natives : next.natives = world.natives)
    (sameInstance : next.nativeInstance = world.nativeInstance)
    (streams : next.streams = world.streams)
    (entries : ∀ entry ∈ next.cleaner, entry ∈ world.cleaner ∨
      entry.stage = .waiting ∧ world.Holds entry.ptr entry.object)
    (count : stack.countP ProxyFrame.registers ≤ world.registrations thread ∨
      stack.countP ProxyFrame.registers ≤ 1 ∧ ∀ other, world.registrations other = 0)
    (frames : ∀ frame ∈ stack, frame ∈ world.stack thread ∨ world.FrameSound frame) :
    next.Sound severity := by
  have holds : ∀ ptr object, world.Holds ptr object → next.Holds ptr object := by
    intro ptr object held
    rwa [Holds, natives]
  have kept : ∀ frame, world.FrameSound frame → next.FrameSound frame :=
    fun frame sound => sound.mono holds (streams ▸ List.Subset.refl _)
      fun _ => ⟨sameInstance, streams⟩
  refine
    { serial := sound.serial.after stackAfter count
      sink := ?_
      entries := ?_
      frames := ?_ }
  · rw [SinkSound, natives, sameInstance, streams]
    exact sound.sink
  · intro entry member
    rcases entries entry member with old | ⟨waiting, held⟩
    · exact (sound.entries entry old).imp id (holds _ _)
    · exact ⟨waiting, holds _ _ held⟩
  · intro other frame running
    rw [stackAfter] at running
    by_cases same : other = thread
    · subst same
      rw [Function.update_self] at running
      rcases frames frame running with old | new
      · exact kept frame (sound.frames other frame old)
      · exact kept frame new
    · rw [Function.update_of_ne same] at running
      exact kept frame (sound.frames other frame running)

theorem Sound.pop (sound : world.Sound severity) {frame : ProxyFrame}
    (top : world.stack thread = frame :: rest)
    (stackAfter : next.stack = Function.update world.stack thread rest)
    (natives : next.natives = world.natives)
    (sameInstance : next.nativeInstance = world.nativeInstance)
    (streams : next.streams = world.streams) (cleaner : next.cleaner = world.cleaner) :
    next.Sound severity := by
  refine sound.onStack stackAfter natives sameInstance streams
    (fun entry member => .inl (cleaner ▸ member)) (.inl ?_)
    fun frame member => .inl (top ▸ List.mem_cons_of_mem _ member)
  rw [registrations, top]
  exact (List.sublist_cons_self _ _).countP_le

theorem Sound.goOn (sound : world.Sound severity) {object : Object} {before after : ProxyStage}
    (top : world.stack thread = .constructor object before :: rest)
    (stackAfter : next.stack =
      Function.update world.stack thread (.constructor object after :: rest))
    (natives : next.natives = world.natives)
    (sameInstance : next.nativeInstance = world.nativeInstance)
    (streams : next.streams = world.streams)
    (entries : ∀ entry ∈ next.cleaner, entry ∈ world.cleaner ∨
      entry.stage = .waiting ∧ world.Holds entry.ptr entry.object)
    (frame : world.FrameSound (.constructor object after)) : next.Sound severity := by
  refine sound.onStack stackAfter natives sameInstance streams entries (.inl ?_)
    fun other member => ?_
  · rw [registrations, top]
    exact Nat.le_of_eq rfl
  · rcases List.mem_cons.mp member with new | old
    · exact .inr (new ▸ frame)
    · exact .inl (top ▸ List.mem_cons_of_mem _ old)

theorem Sound.register (sound : world.Sound severity)
    (free : ∀ other, world.registrations other = 0) :
    LogWorld.Sound severity ({ world with proxies := world.proxies + 1 }.setStack thread
      (.constructor world.proxies .entered :: world.stack thread)) := by
  refine sound.onStack rfl rfl rfl rfl (fun _ => .inl) (.inr ⟨?_, free⟩) fun frame member => ?_
  · rw [List.countP_cons_of_pos rfl]
    exact Nat.le_of_eq (congrArg (· + 1) (free thread))
  · rcases List.mem_cons.mp member with new | old
    · exact .inr (new ▸ trivial)
    · exact .inl old

theorem Sound.logLine (sound : world.Sound severity) (line : Native.LogLineRef) :
    (world.setStack thread ((world.receivers line).map (.onLogMessage · line) ++
      world.stack thread)).Sound severity := by
  refine sound.onStack rfl rfl rfl rfl (fun _ => .inl) (.inl ?_) fun frame member => ?_
  · simp [LogWorld.registrations, List.countP_append, List.countP_map, Function.comp_def,
      ProxyFrame.registers]
  · rcases List.mem_append.mp member with new | old
    · rcases List.mem_map.mp new with ⟨ptr, received, same⟩
      rw [← same]
      exact .inr (List.mem_filter.mp received).1
    · exact .inl old

theorem Sound.advance (sound : world.Sound severity) {object : Object}
    {before after : ProxyStage} (top : world.stack thread = .constructor object before :: rest)
    (sink : next.SinkSound severity)
    (stackAfter : next.stack =
      Function.update world.stack thread (.constructor object after :: rest))
    (cleaner : next.cleaner = world.cleaner)
    (holds : ∀ ptr object, world.Holds ptr object → next.Holds ptr object)
    (streams : world.streams ⊆ next.streams)
    (frame : next.FrameSound (.constructor object after)) : next.Sound severity := by
  rcases sound.serial.others top with ⟨restSilent, othersSilent⟩
  have kept : ∀ frame, frame.registers = false → world.FrameSound frame →
      next.FrameSound frame :=
    fun frame silent sound => sound.mono holds streams fun registers => by
      rw [silent] at registers
      cases registers
  refine
    { serial := sound.serial.after stackAfter (.inl ?_)
      sink := sink
      entries := ?_
      frames := ?_ }
  · rw [registrations, top]
    exact Nat.le_of_eq rfl
  · intro entry member
    rw [cleaner] at member
    exact (sound.entries entry member).imp id (holds _ _)
  · intro other running inStack
    rw [stackAfter] at inStack
    by_cases same : other = thread
    · subst same
      rw [Function.update_self] at inStack
      rcases List.mem_cons.mp inStack with new | old
      · exact new ▸ frame
      · exact kept running (restSilent running old)
          (sound.frames other running (top ▸ List.mem_cons_of_mem _ old))
    · rw [Function.update_of_ne same] at inStack
      exact kept running (othersSilent other same running inStack)
        (sound.frames other running inStack)

theorem Sound.assign (sound : world.Sound severity) {object : Object}
    (top : world.stack thread = .constructor object .checked :: rest) :
    ((world.assign object severity).setStack thread
      (.constructor object (.assigned world.natives.length) :: rest)).Sound severity := by
  have checked : world.FrameSound (.constructor object .checked) :=
    sound.frames thread _ (top ▸ List.mem_cons_self)
  rcases sound.sink with ⟨natives, -, streams⟩ | ⟨_, -, registered, -⟩
  · have sink : LogWorld.SinkSound severity ((world.assign object severity).setStack thread
        (.constructor object (.assigned world.natives.length) :: rest)) := by
      right
      refine ⟨object, ?_, ?_, .inl streams⟩
      · simp [LogWorld.setStack, LogWorld.assign, natives]
      · simp [LogWorld.setStack, LogWorld.assign, natives]
    refine sound.advance top sink rfl rfl ?_ (List.Subset.refl _) ?_
    · intro ptr held bound
      rcases bound with ⟨native, bound, -⟩
      rw [natives] at bound
      cases bound
    · exact ⟨⟨_, List.getElem?_concat_length, rfl⟩, streams⟩
  · rw [checked] at registered
    cases registered

theorem Sound.addLogToStream (sound : world.Sound severity) {object : Object} {ptr : Pointer}
    (top : world.stack thread = .constructor object (.assigned ptr) :: rest) :
    ((world.addLogToStream ptr).setStack thread
      (.constructor object (.native ptr) :: rest)).Sound severity := by
  have assigned : world.FrameSound (.constructor object (.assigned ptr)) :=
    sound.frames thread _ (top ▸ List.mem_cons_self)
  rcases assigned with ⟨⟨native, bound, same⟩, streams⟩
  rcases sound.sink with ⟨natives, -, -⟩ | ⟨owner, natives, registered, -⟩
  · rw [natives] at bound
    cases bound
  · have first : ptr = 0 := by
      have within := (List.getElem?_eq_some_iff.mp bound).1
      rw [natives] at within
      exact Nat.lt_one_iff.mp within
    have sink : LogWorld.SinkSound severity ((world.addLogToStream ptr).setStack thread
        (.constructor object (.native ptr) :: rest)) := by
      refine .inr ⟨owner, natives, registered, .inr ?_⟩
      change world.streams ++ [ptr] = [0]
      rw [streams, first]
      rfl
    exact sound.advance top sink rfl rfl (fun _ _ => id) (List.subset_append_left _ _)
      ⟨native, bound, same⟩

/-- The object of a registered action is kept by the native proxy. -/
theorem Sound.entry_reachable (sound : world.Sound severity) {entry : Cleanable}
    (member : entry ∈ world.cleaner) : world.Reachable entry.object := by
  rcases sound.entries entry member with ⟨-, native, bound, same⟩
  refine .inr (.inr ⟨native, List.mem_of_getElem? bound, ?_, same⟩)
  rcases sound.sink with ⟨natives, -, -⟩ | ⟨object, natives, -, -⟩
  · rw [natives] at bound
    cases bound
  · have member := List.mem_of_getElem? bound
    rw [natives, List.mem_singleton] at member
    rw [member]

end Preservation

end LogWorld

section Steps

variable {minSeverity : Java.LoggingSeverity} {first last : LogWorld} {event : LogProxyEvent}

theorem LogProxyStep.sound (step : (logProxies minSeverity).step first event last)
    (sound : first.Sound (LoggingSeverityMembers.mapToNative minSeverity)) :
    last.Sound (LoggingSeverityMembers.mapToNative minSeverity) := by
  rcases step with ⟨step, locked⟩
  cases step with
  | new null => exact sound.register (locked rfl)
  | check top null => exact sound.goOn top rfl rfl rfl rfl (fun _ => .inl) null
  | refuse top | logReturns top | store top => exact sound.pop top rfl rfl rfl rfl rfl
  | assign top => exact sound.assign top
  | addLogToStream top => exact sound.addLogToStream top
  | @registerCleaner thread object ptr rest top =>
      have native : first.FrameSound (.constructor object (.native ptr)) :=
        sound.frames thread _ (top ▸ List.mem_cons_self)
      refine sound.goOn top rfl rfl rfl rfl (fun entry member => ?_) trivial
      rcases List.mem_cons.mp member with new | old
      · exact .inr (new ▸ ⟨rfl, native⟩)
      · exact .inl old
  | logLine => exact sound.logLine _
  | enqueue member waiting unreachable =>
      exact absurd (sound.entry_reachable member) unreachable
  | destruct member enqueued idle =>
      have waiting := (sound.entries _ member).1
      rw [waiting] at enqueued
      cases enqueued
  | destructReturns top =>
      have frame := sound.frames _ _ (top ▸ List.mem_cons_self)
      exact frame.elim

theorem LogWorld.Initial.sound {world : LogWorld} (initial : world.Initial)
    (severity : Native.LoggingSeverity) : world.Sound severity where
  serial :=
    { once := by simp [LogWorld.registrations, initial.stack]
      exclusive := by
        intro _ _ _ registering
        simp [LogWorld.registrations, initial.stack] at registering }
  sink := .inl ⟨initial.natives, initial.nativeInstance, initial.streams⟩
  entries := by simp [initial.cleaner]
  frames := by simp [initial.stack]

theorem LogProxyStep.not_destruct (step : LogProxyStep minSeverity first event last)
    (sound : first.Sound (LoggingSeverityMembers.mapToNative minSeverity)) (ptr : Pointer) :
    event ≠ .destruct ptr := by
  cases step with
  | destruct member enqueued idle =>
      rw [(sound.entries _ member).1] at enqueued
      cases enqueued
  | _ => exact nofun

end Steps

end Dcsctp4j
