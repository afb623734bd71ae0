import Dcsctp4j.Foundation.Transition
import Mathlib.Logic.Function.Basic

/-! # Stores with one value for each key

A store somewhere inside a state, known by reading and writing it. Seen through
other keys and values it is still a store when no two keys become one and no
value is lost. After a run each key holds what was written to it last.
-/

namespace Dcsctp4j

structure KeyedStore (State Key Value : Type) where
  read : State → Key → Value
  write : State → Key → Value → State

namespace KeyedStore

variable {State Key Value : Type} [DecidableEq Key]

/-- Writing changes what is read under one key, and to the value written. -/
def Lawful (store : KeyedStore State Key Value) : Prop :=
  ∀ state key value,
    store.read (store.write state key value) = Function.update (store.read state) key value

/-! ## Other keys and values -/

section Through

variable {OuterKey OuterValue : Type} [DecidableEq OuterKey]

def through (store : KeyedStore State Key Value) (key : OuterKey → Key)
    (encode : OuterValue → Value) (decode : Value → OuterValue) :
    KeyedStore State OuterKey OuterValue where
  read state outer := decode (store.read state (key outer))
  write state outer value := store.write state (key outer) (encode value)

theorem Lawful.through {store : KeyedStore State Key Value} (lawful : store.Lawful)
    {key : OuterKey → Key} (injective : Function.Injective key)
    {encode : OuterValue → Value} {decode : Value → OuterValue}
    (decodes : Function.LeftInverse decode encode) :
    (store.through key encode decode).Lawful := by
  intro state outer value
  funext other
  change decode (store.read (store.write state (key outer) (encode value)) (key other)) = _
  rw [lawful]
  by_cases same : other = outer
  · rw [same, Function.update_self, Function.update_self, decodes]
  · rw [Function.update_of_ne same, Function.update_of_ne fun equal => same (injective equal)]
    rfl

end Through

/-! ## Runs -/

def applyWrite : Option (Key × Value) → (Key → Value) → Key → Value
  | none, contents => contents
  | some (key, value), contents => Function.update contents key value

theorem applyWrite_of_ne {write : Option (Key × Value)} {key : Key}
    (different : ∀ value, write ≠ some (key, value)) (contents : Key → Value) :
    applyWrite write contents key = contents key := by
  cases write with
  | none => rfl
  | some entry =>
      have apart : key ≠ entry.1 := fun equal => different entry.2 (by rw [equal])
      exact Function.update_of_ne apart entry.2 contents

/-- What the events, latest first, wrote last under each key. -/
def lastWritten {Event : Type} (writes : Event → Option (Key × Value))
    (initially : Key → Value) : List Event → Key → Value
  | [] => initially
  | event :: before => applyWrite (writes event) (lastWritten writes initially before)

/-- When each step applies its write, a run leaves what was written last. -/
theorem read_run {Event : Type} {system : Transition.System State Event}
    (read : State → Key → Value) {writes : Event → Option (Key × Value)}
    (step : ∀ first event last, system.step first event last →
      read last = applyWrite (writes event) (read first))
    {first last : State} {events : List Event} (run : system.Run first events last) :
    read last = lastWritten writes (read first) events.reverse := by
  have start : read first = lastWritten writes (read first) [] := rfl
  have recorded := run.recorded
    (fun state history => read state = lastWritten writes (read first) history)
    (fun before event after history taken written => by
      rw [step before event after taken, written, lastWritten]) start
  rwa [List.append_nil] at recorded

end KeyedStore

end Dcsctp4j
