import Dcsctp4j.MappedOptions
import Dcsctp4j.Foundation.OwnedCells
import Dcsctp4j.Foundation.Transition

/-! # The options bridge as a store

Java options objects and sockets reach native options through pointers. Whatever
is done to them, each behaves as if it held its own values.
-/

namespace Dcsctp4j

open Transition

/-! ## Operations on the native heap -/

/-- What holds a pointer to native options: a Java object, or dcsctp's socket,
which copies the options it is created with. -/
inductive Holder
  | object (identity : Nat)
  | socket (identity : Nat)
deriving DecidableEq

abbrev OptionsHeap := OwnedCells Holder Native.DcSctpOptions

/-- The operations with the identities and the address they create;
`destructObject` and `destructSocket` are the `destruct` of a cleaner. -/
inductive Operation
  | construct (object address : Nat)
  | set (object : Nat) (setter : Setter) (value : setter.name.Value)
  | get (object : Nat) (name : OptionName)
  | create (object socket address : Nat)
  | options (socket object address : Nat)
  | destructObject (object : Nat)
  | destructSocket (socket : Nat)

inductive Answer
  | done
  | value (name : OptionName) (value : name.Value)
  | refused (throwable : Throwable)

def Operation.Keeps : Operation → Prop
  | .set _ setter value => setter.name.Keeps value
  | _ => True

inductive OptionsStep (defaults : Native.DcSctpOptions) :
    OptionsHeap → Operation → Answer → OptionsHeap → Prop
  | construct {heap : OptionsHeap} {object address : Nat}
      (unused : heap.address (.object object) = none)
      (fresh : heap.memory address = none) :
      OptionsStep defaults heap (.construct object address) .done
        (heap.allocate (.object object) address defaults fresh)
  | set {heap : OptionsHeap} {object address : Nat} {setter : Setter}
      {value : setter.name.Value} {options changed : Native.DcSctpOptions}
      (held : heap.address (.object object) = some address)
      (stored : heap.memory address = some options)
      (accepted : setter.run value options = .ok changed) :
      OptionsStep defaults heap (.set object setter value) .done (heap.write address changed)
  | refuse {heap : OptionsHeap} {object address : Nat} {setter : Setter}
      {value : setter.name.Value} {options : Native.DcSctpOptions} {throwable : Throwable}
      (held : heap.address (.object object) = some address)
      (stored : heap.memory address = some options)
      (refused : setter.run value options = .error throwable) :
      OptionsStep defaults heap (.set object setter value) (.refused throwable) heap
  | get {heap : OptionsHeap} {object address : Nat} {name : OptionName}
      {options : Native.DcSctpOptions}
      (held : heap.address (.object object) = some address)
      (stored : heap.memory address = some options) :
      OptionsStep defaults heap (.get object name) (.value name (name.get options)) heap
  | create {heap : OptionsHeap} {object socket source address : Nat}
      {options : Native.DcSctpOptions}
      (held : heap.address (.object object) = some source)
      (stored : heap.memory source = some options)
      (unused : heap.address (.socket socket) = none)
      (fresh : heap.memory address = none) :
      OptionsStep defaults heap (.create object socket address) .done
        (heap.allocate (.socket socket) address options fresh)
  | options {heap : OptionsHeap} {object socket source address : Nat}
      {options : Native.DcSctpOptions}
      (held : heap.address (.socket socket) = some source)
      (stored : heap.memory source = some options)
      (unused : heap.address (.object object) = none)
      (fresh : heap.memory address = none) :
      OptionsStep defaults heap (.options socket object address) .done
        (heap.allocate (.object object) address options fresh)
  | destructObject {heap : OptionsHeap} {object address : Nat}
      (held : heap.address (.object object) = some address) :
      OptionsStep defaults heap (.destructObject object) .done
        (heap.free (.object object) address held)
  | destructSocket {heap : OptionsHeap} {socket address : Nat}
      (held : heap.address (.socket socket) = some address) :
      OptionsStep defaults heap (.destructSocket socket) .done
        (heap.free (.socket socket) address held)

/-! ## What the history says -/

abbrev History := List (Operation × Answer)

/-- The value accepted last since the holder came to be, or the one it came to
be with. -/
def valueOf (defaults : Native.DcSctpOptions) (name : OptionName) :
    History → Holder → Option name.Value
  | [], _ => none
  | (.construct object _, .done) :: before, holder =>
      if holder = .object object then some (name.get defaults)
      else valueOf defaults name before holder
  | (.set object setter value, .done) :: before, holder =>
      if same : holder = .object object ∧ setter.name = name then some (same.2 ▸ value)
      else valueOf defaults name before holder
  | (.create object socket _, .done) :: before, holder =>
      if holder = .socket socket then valueOf defaults name before (.object object)
      else valueOf defaults name before holder
  | (.options socket object _, .done) :: before, holder =>
      if holder = .object object then valueOf defaults name before (.socket socket)
      else valueOf defaults name before holder
  | (.destructObject object, .done) :: before, holder =>
      if holder = .object object then none else valueOf defaults name before holder
  | (.destructSocket socket, .done) :: before, holder =>
      if holder = .socket socket then none else valueOf defaults name before holder
  | _ :: before, holder => valueOf defaults name before holder

structure Session where
  heap : OptionsHeap
  history : History

def optionsBridge (defaults : Native.DcSctpOptions) : System Session (Operation × Answer) where
  initial session := session.heap = .empty ∧ session.history = []
  step first event last := event.1.Keeps ∧
    OptionsStep defaults first.heap event.1 event.2 last.heap ∧
      last.history = event :: first.history

def Accounted (defaults : Native.DcSctpOptions) (session : Session) : Prop :=
  ∀ (holder : Holder) (name : OptionName),
    (session.heap.read holder).map name.get = valueOf defaults name session.history holder

/-! ## Every step keeps the account -/

section Account

variable {defaults : Native.DcSctpOptions} {heap after : OptionsHeap} {history : History}

theorem account_set {object address : Nat} {setter : Setter} {value : setter.name.Value}
    {options changed : Native.DcSctpOptions}
    (held : heap.address (.object object) = some address)
    (stored : heap.memory address = some options)
    (accepted : setter.run value options = .ok changed) (keeps : setter.name.Keeps value)
    (holder : Holder) (name : OptionName) :
    ((heap.write address changed).read holder).map name.get =
      if same : holder = .object object ∧ setter.name = name then some (same.2 ▸ value)
      else (heap.read holder).map name.get := by
  have changes := Setter.run_changes accepted
  rw [OwnedCells.map_read_write _ _ held]
  by_cases sameHolder : holder = .object object
  · rw [if_pos sameHolder, sameHolder, OwnedCells.read_eq_some held stored, Option.map_some]
    by_cases sameName : setter.name = name
    · subst sameName
      rw [dif_pos ⟨rfl, rfl⟩, changes.same keeps]
    · rw [dif_neg fun both => sameName both.2, changes.other name fun equal =>
        sameName equal.symm]
  · rw [if_neg sameHolder, dif_neg fun both => sameHolder both.1]

theorem OptionsStep.accounted {operation : Operation} {answer : Answer}
    (step : OptionsStep defaults heap operation answer after) (keeps : operation.Keeps)
    (accounted : Accounted defaults ⟨heap, history⟩) :
    Accounted defaults ⟨after, (operation, answer) :: history⟩ := by
  intro holder name
  change _ = valueOf defaults name ((operation, answer) :: history) holder
  have before : ∀ other, (heap.read other).map name.get =
      valueOf defaults name history other := fun other => accounted other name
  cases step with
  | construct unused fresh => rw [OwnedCells.map_read_allocate, before, valueOf]
  | set held stored accepted =>
      rw [account_set held stored accepted keeps, valueOf]
      simp only [before]
  | refuse held stored refused => exact before holder
  | get held stored => exact before holder
  | create held stored unused fresh =>
      rw [OwnedCells.map_read_allocate, before, valueOf, ← before (.object _),
        OwnedCells.read_eq_some held stored, Option.map_some]
  | options held stored unused fresh =>
      rw [OwnedCells.map_read_allocate, before, valueOf, ← before (.socket _),
        OwnedCells.read_eq_some held stored, Option.map_some]
  | destructObject held => rw [OwnedCells.map_read_free, before, valueOf]
  | destructSocket held => rw [OwnedCells.map_read_free, before, valueOf]

theorem accounted_invariant (defaults : Native.DcSctpOptions) :
    (optionsBridge defaults).Invariant (Accounted defaults) where
  initially := by
    intro session state holder name
    rcases state with ⟨heap, history⟩
    rw [heap, history]
    rfl
  preserved := by
    intro state event final accounted step
    rcases state with ⟨heap, history⟩
    rcases event with ⟨operation, answer⟩
    rcases final with ⟨after, _⟩
    rcases step with ⟨keeps, step, rfl⟩
    exact step.accounted keeps accounted

end Account

/-! ## The bridge is a store -/

theorem optionsBridge_history {defaults : Native.DcSctpOptions} {first last : Session}
    {events : List (Operation × Answer)}
    (run : (optionsBridge defaults).Run first events last) :
    last.history = events.reverse ++ first.history := by
  refine run.recorded (fun session history => session.history = history) ?_ rfl
  intro before event after history step same
  rw [step.2.2, same]

structure BehavesAsStore (defaults : Native.DcSctpOptions) (heap : OptionsHeap)
    (history : History) : Prop where
  /-- A getter returns the value accepted last on its object, or the one at creation. -/
  get : ∀ (object : Nat) (name : OptionName) (answer : Answer) (after : OptionsHeap),
    OptionsStep defaults heap (.get object name) answer after →
      ∃ value, answer = .value name value ∧ after = heap ∧
        valueOf defaults name history (.object object) = some value
  gets : ∀ (object : Nat) (name : OptionName) (value : name.Value),
    valueOf defaults name history (.object object) = some value →
      OptionsStep defaults heap (.get object name) (.value name value) heap
  /-- A socket keeps the values its options object had when it was created. -/
  configuration : ∀ (socket : Nat) (name : OptionName),
    (heap.read (.socket socket)).map name.get =
      valueOf defaults name history (.socket socket)
  refused : ∀ (operation : Operation) (throwable : Throwable) (after : OptionsHeap),
    OptionsStep defaults heap operation (.refused throwable) after → after = heap

theorem Accounted.behavesAsStore {defaults : Native.DcSctpOptions} {session : Session}
    (accounted : Accounted defaults session) :
    BehavesAsStore defaults session.heap session.history where
  get := by
    intro object name answer after step
    cases step with
    | get held stored =>
        refine ⟨_, rfl, rfl, ?_⟩
        rw [← accounted, OwnedCells.read_eq_some held stored, Option.map_some]
  gets := by
    intro object name value recorded
    rw [← accounted, OwnedCells.read] at recorded
    cases held : session.heap.address (.object object) with
    | none =>
        rw [held] at recorded
        cases recorded
    | some address =>
        rw [held, Option.bind_some] at recorded
        cases stored : session.heap.memory address with
        | none =>
            rw [stored] at recorded
            cases recorded
        | some options =>
            rw [stored] at recorded
            cases recorded
            exact .get held stored
  configuration := fun socket name => accounted (.socket socket) name
  refused := by
    intro operation throwable after step
    cases step
    rfl

/-- After any sequence of operations the bridge is a store of its history. -/
theorem options_bridge_is_store (defaults : Native.DcSctpOptions) {first last : Session}
    {events : List (Operation × Answer)} (initial : (optionsBridge defaults).initial first)
    (run : (optionsBridge defaults).Run first events last) :
    BehavesAsStore defaults last.heap events.reverse := by
  have accounted := (accounted_invariant defaults).run run
    ((accounted_invariant defaults).initially first initial)
  have history := optionsBridge_history run
  rw [initial.2, List.append_nil] at history
  rw [← history]
  exact accounted.behavesAsStore

def sampleOptions : Native.DcSctpOptions :=
  ⟨5000, 5000, 65535, 65535, 1191, 262144, ⟨256⟩, 5242880, 2000000, 1000000, 1800000,
    ⟨60000⟩, ⟨500⟩, ⟨60000⟩, ⟨400⟩, ⟨1000⟩, ⟨1000⟩, ⟨1000⟩, none, ⟨30000⟩, ⟨200⟩, ⟨220⟩,
    10, 4, 6, 4, some 10, some 8, true, false, true, false, ⟨0⟩⟩

def constructedSession : Session where
  heap := OwnedCells.empty.allocate (.object 0) 16 sampleOptions rfl
  history := [(.construct 0 16, .done)]

def changedSession : Session where
  heap := constructedSession.heap.write 16 (DcSctpOptions.setRttMax (-5) sampleOptions)
  history := [(.set 0 (.checked .rttMax) (-5), .done), (.construct 0 16, .done)]

/-- A socket is created with the object, which changes once more; what the socket
says it was created with is copied to a new object. -/
def createdSession : Session where
  heap := changedSession.heap.allocate (.socket 1) 32
    (DcSctpOptions.setRttMax (-5) sampleOptions) rfl
  history := (.create 0 1 32, .done) :: changedSession.history

def changedAgainSession : Session where
  heap := createdSession.heap.write 16 (DcSctpOptions.setRttMax 700 sampleOptions)
  history := (.set 0 (.checked .rttMax) 700, .done) :: createdSession.history

def copiedSession : Session where
  heap := changedAgainSession.heap.allocate (.object 2) 48
    (DcSctpOptions.setRttMax (-5) sampleOptions) rfl
  history := (.options 1 2 48, .done) :: changedAgainSession.history

theorem options_bridge_is_store_changed :
    BehavesAsStore sampleOptions copiedSession.heap copiedSession.history ∧
      OptionsStep sampleOptions copiedSession.heap (.get 2 .rttMax) (.value .rttMax (-5))
        copiedSession.heap ∧
      OptionsStep sampleOptions copiedSession.heap (.get 0 .rttMax) (.value .rttMax 700)
        copiedSession.heap := by
  have constructs : (optionsBridge sampleOptions).step ⟨.empty, []⟩
      (.construct 0 16, .done) constructedSession := ⟨trivial, .construct rfl rfl, rfl⟩
  have changes : (optionsBridge sampleOptions).step constructedSession
      (.set 0 (.checked .rttMax) (-5), .done) changedSession :=
    ⟨⟨by decide, by decide⟩, .set rfl rfl rfl, rfl⟩
  have creates : (optionsBridge sampleOptions).step changedSession
      (.create 0 1 32, .done) createdSession := ⟨trivial, .create rfl rfl rfl rfl, rfl⟩
  have changesAgain : (optionsBridge sampleOptions).step createdSession
      (.set 0 (.checked .rttMax) 700, .done) changedAgainSession :=
    ⟨⟨by decide, by decide⟩, .set rfl rfl rfl, rfl⟩
  have copies : (optionsBridge sampleOptions).step changedAgainSession
      (.options 1 2 48, .done) copiedSession := ⟨trivial, .options rfl rfl rfl rfl, rfl⟩
  have behaves : BehavesAsStore sampleOptions copiedSession.heap copiedSession.history :=
    options_bridge_is_store sampleOptions ⟨rfl, rfl⟩
      (.cons constructs <| .cons changes <| .cons creates <| .cons changesAgain <|
        .cons copies (.nil _))
  exact ⟨behaves, behaves.gets 2 .rttMax (-5) rfl, behaves.gets 0 .rttMax 700 rfl⟩

end Dcsctp4j
