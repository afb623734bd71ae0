import Mathlib.Data.List.Basic

/-! # Labelled transition systems

Runs, reachable states and the induction over them that every invariant of a
system uses, and resources that at most one party holds.
-/

namespace Dcsctp4j.Transition

structure System (State Event : Type) where
  initial : State → Prop
  step : State → Event → State → Prop

namespace System

variable {State Event : Type} {system : System State Event}

inductive Run (system : System State Event) : State → List Event → State → Prop
  | nil (state : State) : Run system state [] state
  | cons {first middle last : State} {event : Event} {events : List Event}
      (step : system.step first event middle) (rest : Run system middle events last) :
      Run system first (event :: events) last

theorem Run.append {first middle last : State} {before after : List Event}
    (left : system.Run first before middle) (right : system.Run middle after last) :
    system.Run first (before ++ after) last := by
  induction left with
  | nil => exact right
  | cons step _ induction => exact .cons step (induction right)

theorem Run.snoc {first middle last : State} {events : List Event} {event : Event}
    (run : system.Run first events middle) (step : system.step middle event last) :
    system.Run first (events ++ [event]) last :=
  run.append (.cons step (.nil last))

def Reachable (system : System State Event) (state : State) : Prop :=
  ∃ start events, system.initial start ∧ system.Run start events state

structure Invariant (system : System State Event) (holds : State → Prop) : Prop where
  initially : ∀ state, system.initial state → holds state
  preserved : ∀ first event last, holds first → system.step first event last → holds last

theorem Invariant.run {holds : State → Prop} (invariant : system.Invariant holds)
    {first last : State} {events : List Event} (run : system.Run first events last)
    (start : holds first) : holds last := by
  induction run with
  | nil => exact start
  | cons step _ induction => exact induction (invariant.preserved _ _ _ start step)

theorem Run.preserves {holds : State → Prop} {allowed : Event → Prop}
    (preserved : ∀ first event last, allowed event → holds first →
      system.step first event last → holds last)
    {first last : State} {events : List Event} (run : system.Run first events last)
    (allAllowed : ∀ event ∈ events, allowed event) (start : holds first) : holds last := by
  induction run with
  | nil => exact start
  | cons step _ induction =>
      apply induction
      · intro event member
        exact allAllowed event (List.mem_cons_of_mem _ member)
      · exact preserved _ _ _ (allAllowed _ List.mem_cons_self) start step

/-- What every step carries over to the history with its event holds of a run's
whole history, latest event first. -/
theorem Run.recorded (holds : State → List Event → Prop)
    (preserved : ∀ first event last history, system.step first event last →
      holds first history → holds last (event :: history))
    {first last : State} {events history : List Event} (run : system.Run first events last)
    (start : holds first history) : holds last (events.reverse ++ history) := by
  induction run generalizing history with
  | nil => exact start
  | cons step _ induction =>
      rw [List.reverse_cons, List.append_assoc]
      exact induction (preserved _ _ _ _ step start)

/-- What every step passes on in order, a run passes on in order: all that went in
is what came out, followed by what is still held. -/
theorem Run.conserves {Item : Type} {holds : State → Prop} (contents : State → List Item)
    (inputs outputs : Event → List Item)
    (preserved : ∀ first event last, holds first → system.step first event last → holds last)
    (passes : ∀ first event last, holds first → system.step first event last →
      contents first ++ inputs event = outputs event ++ contents last)
    {first last : State} {events : List Event} (run : system.Run first events last)
    (start : holds first) :
    contents first ++ events.flatMap inputs = events.flatMap outputs ++ contents last := by
  induction run with
  | nil => simp
  | cons step _ induction =>
      rw [List.flatMap_cons, List.flatMap_cons, ← List.append_assoc,
        passes _ _ _ start step, List.append_assoc,
        induction (preserved _ _ _ start step), List.append_assoc]

/-- What every step adds to a record, a run adds to it in order. -/
theorem Run.collects {Item : Type} (record : State → List Item) (outputs : Event → Option Item)
    (adds : ∀ first event last, system.step first event last →
      record last = record first ++ (outputs event).toList)
    {first last : State} {events : List Event} (run : system.Run first events last) :
    record last = record first ++ events.filterMap outputs := by
  have conserved := @Run.conserves _ _ system _ (fun _ => True) record
    (fun event => (outputs event).toList) (fun _ => []) (fun _ _ _ _ _ => trivial)
    (fun first event last _ step => (adds first event last step).symm) first last events run
    trivial
  rw [List.flatMap_eq_nil_iff.mpr fun _ _ => rfl, List.nil_append] at conserved
  rw [List.filterMap_eq_flatMap_toList, conserved]

theorem Reachable.run {first last : State} {events : List Event}
    (reachable : system.Reachable first) (run : system.Run first events last) :
    system.Reachable last := by
  rcases reachable with ⟨start, before, initial, ran⟩
  exact ⟨start, before ++ events, initial, ran.append run⟩

/-- Where every state that holds something can run on until the first of it comes out,
every state can run on until all that it holds has come out. -/
theorem Reachable.drains {Item : Type} (contents : State → List Item)
    (inputs outputs : Event → List Item)
    (passes : ∀ first event last, system.Reachable first → system.step first event last →
      contents first ++ inputs event = outputs event ++ contents last)
    (progress : ∀ state item rest, system.Reachable state → contents state = item :: rest →
      ∃ events next, system.Run state events next ∧ events.flatMap outputs = [item])
    {state : State} (reachable : system.Reachable state) (items later : List Item)
    (held : contents state = items ++ later) :
    ∃ events last, system.Run state events last ∧ events.flatMap outputs = items := by
  induction items generalizing state later with
  | nil => exact ⟨[], state, .nil state, rfl⟩
  | cons item rest induction =>
      rcases progress state item (rest ++ later) reachable held with ⟨events, next, run, out⟩
      have conserved := run.conserves contents inputs outputs
        (fun _ _ _ reachable step => reachable.run (.cons step (.nil _))) passes reachable
      have left : contents next = rest ++ (later ++ events.flatMap inputs) := by
        rw [held, out, List.append_assoc] at conserved
        simpa using conserved.symm
      rcases induction (reachable.run run) _ left with ⟨more, last, ran, outRest⟩
      refine ⟨events ++ more, last, run.append ran, ?_⟩
      rw [List.flatMap_append, out, outRest]
      rfl

theorem Invariant.reachable {holds : State → Prop} (invariant : system.Invariant holds)
    {state : State} (reachable : system.Reachable state) : holds state := by
  rcases reachable with ⟨start, events, initial, run⟩
  exact invariant.run run (invariant.initially start initial)

end System

/-! ## Exclusive holding -/

section Exclusion

variable {Party Resource : Type}

def Exclusive (holds : Party → Resource → Prop) : Prop :=
  ∀ first second resource, holds first resource → holds second resource → first = second

/-- One party gains only what nobody else holds. -/
theorem Exclusive.transfer {holds later : Party → Resource → Prop}
    (exclusive : Exclusive holds) {party : Party}
    (others : ∀ other, other ≠ party → ∀ resource, later other resource → holds other resource)
    (gains : ∀ resource, later party resource →
      holds party resource ∨ ∀ other, other ≠ party → ¬holds other resource) :
    Exclusive later := by
  have apart : ∀ other, other ≠ party → ∀ resource, later party resource →
      ¬later other resource := by
    intro other distinct resource mine theirs
    have before := others other distinct resource theirs
    rcases gains resource mine with held | free
    · exact distinct (exclusive _ _ _ before held)
    · exact free other distinct before
  intro first second resource firstHolds secondHolds
  by_cases firstEqual : first = party
  · by_contra distinct
    subst firstEqual
    exact apart second (Ne.symm distinct) resource firstHolds secondHolds
  · by_cases secondEqual : second = party
    · subst secondEqual
      exact absurd firstHolds (apart first firstEqual resource secondHolds)
    · exact exclusive _ _ _ (others first firstEqual resource firstHolds)
        (others second secondEqual resource secondHolds)

end Exclusion

end Dcsctp4j.Transition
