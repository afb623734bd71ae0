import Dcsctp4j.OptionNumbers
import Dcsctp4j.MessageRoundTrip

/-! # Configured numbers

Which numbers reach dcsctp as they were passed, through one setter, through a run on
the options bridge and through a send.
-/

namespace Dcsctp4j

open MachineNumbers NativeFrame NativeFrame.Program Transition

/-! ## One call of a setter -/

/-- On an object, a number that does not fit is refused and changes nothing, and
after an accepted call the object holds the number passed. -/
structure Setter.NumberKept (setter : Setter) (value : setter.name.Value)
    (defaults : Native.DcSctpOptions) (heap : OptionsHeap) (object : Nat) : Prop where
  refused : ¬setter.name.Fits value → ∀ (answer : Answer) (after : OptionsHeap),
    OptionsStep defaults heap (.set object setter value) answer after →
      ∃ throwable, answer = .refused throwable ∧ after = heap
  held : ∀ after : OptionsHeap, OptionsStep defaults heap (.set object setter value) .done after →
    (after.read (.object object)).map setter.name.nativeNumber =
      some (setter.name.javaNumber value)

def Setter.Safe (setter : Setter) (value : setter.name.Value) : Prop :=
  setter.name.checksRange = true ∨ setter.name.Fits value

section OneCall

variable {setter : Setter} {value : setter.name.Value} {defaults : Native.DcSctpOptions}
  {heap : OptionsHeap} {object : Nat}

theorem Setter.run_number_of_safe {options changed : Native.DcSctpOptions}
    (safe : setter.Safe value) (accepted : setter.run value options = .ok changed) :
    setter.name.nativeNumber changed = setter.name.javaNumber value := by
  apply (Setter.run_number_iff accepted).mpr
  rcases safe with checks | fits
  · exact Setter.fits_of_accepted checks accepted
  · exact fits

theorem Setter.numberKept_of_safe (safe : setter.Safe value) :
    setter.NumberKept value defaults heap object where
  refused := by
    intro outside answer after step
    cases step with
    | set held stored accepted =>
        rcases safe with checks | fits
        · exact absurd (Setter.fits_of_accepted checks accepted) outside
        · exact absurd fits outside
    | refuse held stored refused => exact ⟨_, rfl, rfl⟩
  held := by
    intro after step
    cases step with
    | set held stored accepted =>
        rw [OwnedCells.read_write_same held, Option.map_some,
          Setter.run_number_of_safe safe accepted]

/-- A setter that does not check accepts a number that its field cannot hold. -/
theorem Setter.safe_of_numberKept {options : Native.DcSctpOptions}
    (present : heap.read (.object object) = some options)
    (kept : setter.NumberKept value defaults heap object) : setter.Safe value := by
  by_contra notSafe
  rw [Setter.Safe, not_or, Bool.not_eq_true] at notSafe
  rcases notSafe with ⟨unchecked, outside⟩
  rcases Option.bind_eq_some_iff.mp present with ⟨address, held, stored⟩
  rcases Setter.run_unchecked unchecked value options with ⟨changed, accepted⟩
  rcases kept.refused outside _ _ (.set held stored accepted) with ⟨throwable, contradictory, -⟩
  cases contradictory

theorem Setter.numberKept_iff {options : Native.DcSctpOptions}
    (present : heap.read (.object object) = some options) :
    setter.NumberKept value defaults heap object ↔ setter.Safe value :=
  ⟨Setter.safe_of_numberKept present, Setter.numberKept_of_safe⟩

end OneCall

/-! ## Runs on the options bridge -/

/-- The number passed last since the holder came to be, or the one it came to
be with. -/
def passedNumber (defaults : Native.DcSctpOptions) (name : OptionName) :
    History → Holder → Option (Option Int)
  | [], _ => none
  | (.construct object _, .done) :: before, holder =>
      if holder = .object object then some (name.nativeNumber defaults)
      else passedNumber defaults name before holder
  | (.set object setter value, .done) :: before, holder =>
      if holder = .object object ∧ setter.name = name then some (setter.name.javaNumber value)
      else passedNumber defaults name before holder
  | (.create object socket _, .done) :: before, holder =>
      if holder = .socket socket then passedNumber defaults name before (.object object)
      else passedNumber defaults name before holder
  | (.options socket object _, .done) :: before, holder =>
      if holder = .object object then passedNumber defaults name before (.socket socket)
      else passedNumber defaults name before holder
  | (.destructObject object, .done) :: before, holder =>
      if holder = .object object then none else passedNumber defaults name before holder
  | (.destructSocket socket, .done) :: before, holder =>
      if holder = .socket socket then none else passedNumber defaults name before holder
  | _ :: before, holder => passedNumber defaults name before holder

def configuration (defaults : Native.DcSctpOptions) : System Session (Operation × Answer) where
  initial session := session.heap = .empty ∧ session.history = []
  step first event last := OptionsStep defaults first.heap event.1 event.2 last.heap ∧
    last.history = event :: first.history

def Operation.Safe : Operation → Prop
  | .set _ setter value => setter.Safe value
  | _ => True

def HoldsPassed (defaults : Native.DcSctpOptions) (session : Session) : Prop :=
  ∀ (holder : Holder) (name : OptionName),
    (session.heap.read holder).map name.nativeNumber =
      passedNumber defaults name session.history holder

section Configuration

variable {defaults : Native.DcSctpOptions} {heap after : OptionsHeap} {history : History}

theorem number_set {object address : Nat} {setter : Setter} {value : setter.name.Value}
    {options changed : Native.DcSctpOptions}
    (held : heap.address (.object object) = some address)
    (stored : heap.memory address = some options)
    (accepted : setter.run value options = .ok changed) (safe : setter.Safe value)
    (holder : Holder) (name : OptionName) :
    ((heap.write address changed).read holder).map name.nativeNumber =
      if holder = .object object ∧ setter.name = name then some (setter.name.javaNumber value)
      else (heap.read holder).map name.nativeNumber := by
  rw [OwnedCells.map_read_write _ _ held]
  by_cases sameHolder : holder = .object object
  · rw [if_pos sameHolder, sameHolder, OwnedCells.read_eq_some held stored, Option.map_some]
    by_cases sameName : setter.name = name
    · rw [if_pos ⟨rfl, sameName⟩, ← sameName, Setter.run_number_of_safe safe accepted]
    · have other := (Setter.run_changes accepted).other name fun equal => sameName equal.symm
      rw [if_neg fun both => sameName both.2, OptionName.nativeNumber_congr other]
  · rw [if_neg sameHolder, if_neg fun both => sameHolder both.1]

theorem OptionsStep.holdsPassed {operation : Operation} {answer : Answer}
    (step : OptionsStep defaults heap operation answer after) (safe : operation.Safe)
    (holds : HoldsPassed defaults ⟨heap, history⟩) :
    HoldsPassed defaults ⟨after, (operation, answer) :: history⟩ := by
  intro holder name
  change _ = passedNumber defaults name ((operation, answer) :: history) holder
  have before : ∀ other, (heap.read other).map name.nativeNumber =
      passedNumber defaults name history other := fun other => holds other name
  cases step with
  | construct unused fresh => rw [OwnedCells.map_read_allocate, before, passedNumber]
  | set held stored accepted =>
      rw [number_set held stored accepted safe, before, passedNumber]
  | refuse held stored refused => exact before holder
  | get held stored => exact before holder
  | create held stored unused fresh =>
      rw [OwnedCells.map_read_allocate, before, passedNumber, ← before (.object _),
        OwnedCells.read_eq_some held stored, Option.map_some]
  | options held stored unused fresh =>
      rw [OwnedCells.map_read_allocate, before, passedNumber, ← before (.socket _),
        OwnedCells.read_eq_some held stored, Option.map_some]
  | destructObject held => rw [OwnedCells.map_read_free, before, passedNumber]
  | destructSocket held => rw [OwnedCells.map_read_free, before, passedNumber]

theorem run_holdsPassed {first last : Session} {events : List (Operation × Answer)}
    (run : (configuration defaults).Run first events last)
    (safe : ∀ event ∈ events, event.1.Safe) (holds : HoldsPassed defaults first) :
    HoldsPassed defaults last := by
  apply run.preserves _ safe holds
  intro before event after safeEvent holdsBefore step
  rcases after with ⟨heap, history⟩
  rcases step with ⟨step, rfl⟩
  exact step.holdsPassed safeEvent holdsBefore

theorem initial_holdsPassed {first : Session} (initial : (configuration defaults).initial first) :
    HoldsPassed defaults first := by
  intro holder name
  rw [initial.1, initial.2]
  rfl

end Configuration

/-! ## Numbers of a send -/

variable {σ : Type}

/-- `DurationMs` holds the lifetime and `size_t` the limit, where they are given. -/
def Java.SendOptions.Fits (options : Java.SendOptions) : Prop :=
  (∀ lifetime ∈ options.lifetime.map Int64.toInt, lifetime ∈ signedRange 32) ∧
    ∀ limit ∈ options.maxRetransmissions.map Int64.toInt, limit ∈ unsignedRange 64

def Java.SendOptions.SameNumbers (options : Java.SendOptions) (native : Native.SendOptions) :
    Prop :=
  (native.lifetime.map fun lifetime => lifetime.value.toInt) =
      options.lifetime.map Int64.toInt ∧
    (native.maxRetransmissions.map fun limit => (limit.toNat : Int)) =
      options.maxRetransmissions.map Int64.toInt

theorem Java.SendOptions.sameNumbers_toNative_iff (options : Java.SendOptions) :
    options.SameNumbers options.toNative ↔ options.Fits :=
  and_congr (optional_kept_iff options.lifetime duration_kept_iff)
    (optional_kept_iff options.maxRetransmissions size_kept_iff)

/-- The same socket with the options it has received, latest first. -/
def DcSctpSocket.recording (dcsctp : DcSctpSocket σ) :
    DcSctpSocket (σ × List Native.SendOptions) where
  send state message options :=
    let (status, socket) := dcsctp.send state.1 message options
    (status, socket, options :: state.2)
  sendMany state messages options :=
    let (statuses, socket) := dcsctp.sendMany state.1 messages options
    (statuses, socket, options :: state.2)

def SendOperation.options : SendOperation → Java.SendOptions
  | send _ options => options
  | sendMany _ options => options

/-- Numbers that do not fit are refused before any socket is entered, and what a
socket receives are the numbers passed. -/
structure SendOperation.NumbersKept (operation : SendOperation) (setting : JniSetting)
    (env : JniEnv) : Prop where
  refused : ¬operation.options.Fits → ∃ throwable, ∀ (σ : Type) (dcsctp : DcSctpSocket σ)
    (socket : σ), ((operation.run dcsctp socket).run setting env).1 =
      .error (.managedException throwable)
  received : ∀ (σ : Type) (dcsctp : DcSctpSocket σ) (socket socket' : σ)
    (statuses : List Java.SendStatus) (received : List Native.SendOptions),
    ((operation.run dcsctp.recording (socket, [])).run setting env).1 =
        .ok (statuses, socket', received) →
      ∀ native ∈ received, operation.options.SameNumbers native

/-- A send ends in one of two ways, and neither is a refusal. -/
theorem SendOperation.run_outcome (operation : SendOperation) (dcsctp : DcSctpSocket σ)
    (socket : σ) (setting : JniSetting) (env : JniEnv) :
    ((operation.run dcsctp socket).run setting env).1 = .error .vmAborted ∨
      ∃ sent, ((operation.run dcsctp socket).run setting env).1 = .ok sent := by
  cases operation with
  | send message options =>
      right
      rw [SendOperation.run, run_bind_ok (send_run dcsctp socket message options setting env)]
      exact ⟨_, rfl⟩
  | sendMany messages options =>
      rcases sendMany_run dcsctp socket messages options setting env with ⟨stale, -, ran⟩
      rw [SendOperation.run, ran]
      split
      · exact .inl rfl
      · exact .inr ⟨_, rfl⟩

theorem SendOperation.run_received (operation : SendOperation) (dcsctp : DcSctpSocket σ)
    {socket socket' : σ} {setting : JniSetting} {env : JniEnv}
    {statuses : List Java.SendStatus} {received : List Native.SendOptions}
    (ran : ((operation.run dcsctp.recording (socket, [])).run setting env).1 =
      .ok (statuses, socket', received)) :
    received = [operation.options.toNative] := by
  cases operation with
  | send message options =>
      rw [SendOperation.run, run_bind_ok
        (send_run dcsctp.recording (socket, []) message options setting env)] at ran
      cases ran
      rfl
  | sendMany messages options =>
      rcases sendMany_run dcsctp.recording (socket, []) messages options setting env with
        ⟨stale, -, sentRan⟩
      rw [SendOperation.run, sentRan] at ran
      split at ran
      · cases ran
      · cases ran
        rfl

theorem SendOperation.numbersKept_iff (operation : SendOperation) (setting : JniSetting)
    (env : JniEnv) : operation.NumbersKept setting env ↔ operation.options.Fits := by
  constructor
  · intro kept
    by_contra outside
    rcases kept.refused outside with ⟨throwable, refused⟩
    have outcome := operation.run_outcome queueingSocket [] setting env
    rw [refused] at outcome
    rcases outcome with aborted | sent
    · cases aborted
    · rcases sent with ⟨_, sent⟩
      cases sent
  · intro fits
    refine ⟨fun outside => absurd fits outside, ?_⟩
    intro σ dcsctp socket socket' statuses received ran native member
    rw [operation.run_received dcsctp ran, List.mem_singleton] at member
    rw [member]
    exact (Java.SendOptions.sameNumbers_toNative_iff _).mpr fits

/-! ## All numbers -/

/-- What each way of passing a number keeps: a setter what it checks or its
field holds, a run of such calls the fields of every object and socket, and a
send what dcsctp's types hold, whatever a stale reference leads to. -/
theorem configuration_numbers_kept_iff (defaults : Native.DcSctpOptions) :
    (∀ (setter : Setter) (value : setter.name.Value) (options : Native.DcSctpOptions)
      (heap : OptionsHeap) (object : Nat), heap.read (.object object) = some options →
      (setter.NumberKept value defaults heap object ↔
        setter.name.checksRange = true ∨ setter.name.Fits value)) ∧
    (∀ (first last : Session) (events : List (Operation × Answer)),
      (configuration defaults).initial first → (configuration defaults).Run first events last →
      (∀ event ∈ events, event.1.Safe) → HoldsPassed defaults last) ∧
    (∀ (message : Java.DcSctpMessage) (options : Java.SendOptions) (setting : JniSetting)
      (env : JniEnv), (SendOperation.send message options).NumbersKept setting env ↔
        options.Fits) ∧
    ∀ operation : SendOperation,
      (∀ setting env, operation.NumbersKept setting env) ↔ operation.options.Fits :=
  ⟨fun _ _ _ _ _ present => Setter.numberKept_iff present,
    fun _ _ _ initial run safe => run_holdsPassed run safe (initial_holdsPassed initial),
    fun message options => (SendOperation.send message options).numbersKept_iff,
    fun operation =>
      ⟨fun kept => (operation.numbersKept_iff compliantSetting emptyEnv).mp (kept _ _),
        fun fits setting env => (operation.numbersKept_iff setting env).mpr fits⟩⟩

theorem configuration_numbers_kept_iff_changed :
    ((Setter.checked .rttMax).NumberKept (-5) sampleOptions constructedSession.heap 0 ↔
      OptionName.rttMax.checksRange = true ∨ OptionName.rttMax.Fits (-5)) ∧
    HoldsPassed sampleOptions changedSession ∧
    ((SendOperation.send ⟨1, 51, [65]⟩ { lifetime := some 1000 }).NumbersKept
      compliantSetting emptyEnv ↔ Java.SendOptions.Fits { lifetime := some 1000 }) ∧
    ((∀ setting env, (SendOperation.sendMany [⟨1, 51, [65]⟩] { maxRetransmissions := some 3 }
        ).NumbersKept setting env) ↔ Java.SendOptions.Fits { maxRetransmissions := some 3 }) := by
  have fits : OptionName.rttMax.Fits (-5) := by
    intro number passed
    cases passed
    exact ⟨by decide, by decide⟩
  have constructs : (configuration sampleOptions).step ⟨.empty, []⟩
      (.construct 0 16, .done) constructedSession := ⟨.construct rfl rfl, rfl⟩
  have changes : (configuration sampleOptions).step constructedSession
      (.set 0 (.checked .rttMax) (-5), .done) changedSession := ⟨.set rfl rfl rfl, rfl⟩
  rcases configuration_numbers_kept_iff sampleOptions with ⟨setters, runs, single, sends⟩
  refine ⟨setters (.checked .rttMax) (-5) sampleOptions _ 0 rfl,
    runs _ _ _ ⟨rfl, rfl⟩ (.cons constructs (.cons changes (.nil _))) ?_, single _ _ _ _,
    sends _⟩
  intro event member
  rcases List.mem_cons.mp member with rfl | member
  · trivial
  · rw [List.mem_singleton.mp member]
    exact .inr fits

/-- The failing inputs: a round trip time and a lifetime of 2^32 ms, which become
0, and a negative size, which becomes huge. -/
theorem configuration_numbers_change :
    (∀ heap after : OptionsHeap,
      OptionsStep sampleOptions heap (.set 0 (.checked .rttMax) 4294967296) .done after →
        (after.read (.object 0)).map OptionName.rttMax.nativeNumber = some (some 0)) ∧
    ¬(Setter.checked .rttMax).NumberKept 4294967296 sampleOptions constructedSession.heap 0 ∧
    OptionName.mtu.nativeNumber (DcSctpOptions.setMtu (-1) sampleOptions) =
      some 18446744073709551615 ∧
    ¬(Setter.checked .mtu).NumberKept (-1) sampleOptions constructedSession.heap 0 ∧
    ((SendOperation.send ⟨1, 51, [65]⟩ { lifetime := some 4294967296 }).run
      queueingSocket.recording ([], [])).run compliantSetting emptyEnv =
        (.ok ([.kSuccess], [⟨⟨1⟩, ⟨51⟩, [65]⟩], [⟨false, some ⟨0⟩, none, ⟨0⟩⟩]), emptyEnv) ∧
    ¬(SendOperation.send ⟨1, 51, [65]⟩ { lifetime := some 4294967296 }).NumbersKept
      compliantSetting emptyEnv ∧
    ¬(SendOperation.send ⟨1, 51, [65]⟩ { maxRetransmissions := some (-1) }).NumbersKept
      compliantSetting emptyEnv := by
  have outside : ∀ {number : Int} {range : Set Int}, number ∉ range →
      ¬∀ passed ∈ some number, passed ∈ range := by
    intro number range notMember fits
    exact notMember (fits number rfl)
  have tooLong : (4294967296 : Int) ∉ signedRange 32 := fun inside =>
    absurd inside.2 (by decide)
  have negative : (-1 : Int) ∉ unsignedRange 64 := fun inside => absurd inside.1 (by decide)
  refine ⟨?_, ?_, rfl, ?_, rfl, ?_, ?_⟩
  · intro heap after step
    cases step with
    | set held stored accepted =>
        cases accepted
        rw [OwnedCells.read_write_same held]
        rfl
  · intro kept
    rcases Setter.safe_of_numberKept rfl kept with checks | fits
    · cases checks
    · exact outside tooLong fits
  · intro kept
    rcases Setter.safe_of_numberKept rfl kept with checks | fits
    · cases checks
    · exact outside negative fits
  · intro kept
    exact outside tooLong ((SendOperation.numbersKept_iff _ _ _).mp kept).1
  · intro kept
    exact outside negative ((SendOperation.numbersKept_iff _ _ _).mp kept).2

end Dcsctp4j
