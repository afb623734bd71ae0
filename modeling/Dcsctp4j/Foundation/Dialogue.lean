import Mathlib.Data.List.Basic

/-! # Dialogues

What a computation asks of another party and how it goes on with the answers, as
a tree.
-/

namespace Dcsctp4j

inductive Dialogue (Query : Type) (Answer : Query → Type) (α : Type)
  | reply (value : α)
  | ask (query : Query) (next : Answer query → Dialogue Query Answer α)

namespace Dialogue

variable {Query : Type} {Answer : Query → Type} {α β : Type}

def bind (first : Dialogue Query Answer α) (rest : α → Dialogue Query Answer β) :
    Dialogue Query Answer β :=
  match first with
  | .reply value => rest value
  | .ask query next => .ask query fun answer => (next answer).bind rest

instance : Monad (Dialogue Query Answer) where
  pure := reply
  bind := bind

def question (query : Query) : Dialogue Query Answer (Answer query) := .ask query .reply

@[simp] theorem pure_eq (value : α) :
    (pure value : Dialogue Query Answer α) = .reply value := rfl

@[simp] theorem reply_bind (value : α) (rest : α → Dialogue Query Answer β) :
    (Dialogue.reply value >>= rest) = rest value := rfl

@[simp] theorem ask_bind (query : Query) (next : Answer query → Dialogue Query Answer α)
    (rest : α → Dialogue Query Answer β) :
    (Dialogue.ask query next >>= rest) = .ask query fun answer => next answer >>= rest := rfl

theorem bind_reply (dialogue : Dialogue Query Answer α) : dialogue.bind .reply = dialogue := by
  induction dialogue with
  | reply value => rfl
  | ask query next induction => exact congrArg (ask query) (funext induction)

theorem bind_assoc {γ : Type} (first : Dialogue Query Answer α)
    (second : α → Dialogue Query Answer β) (third : β → Dialogue Query Answer γ) :
    (first.bind second).bind third = first.bind fun value => (second value).bind third := by
  induction first with
  | reply value => rfl
  | ask query next induction => exact congrArg (ask query) (funext induction)

instance : LawfulMonad (Dialogue Query Answer) :=
  LawfulMonad.mk' _ bind_reply (fun _ _ => rfl) bind_assoc

/-! ## Holding a dialogue -/

section Run

variable {m : Type → Type} [Monad m]

/-- Hold the dialogue with a party whose answers are computations of `m`. -/
def run (serve : (query : Query) → m (Answer query)) : Dialogue Query Answer α → m α
  | .reply value => pure value
  | .ask query next => do
      let answer ← serve query
      (next answer).run serve

variable [LawfulMonad m]

theorem run_bind (serve : (query : Query) → m (Answer query))
    (first : Dialogue Query Answer α) (rest : α → Dialogue Query Answer β) :
    (first >>= rest).run serve = first.run serve >>= fun value => (rest value).run serve := by
  induction first with
  | reply value => simp [run]
  | ask query next induction => simp [run, induction]

/-- A party that asks on, with a state at hand, can be skipped. -/
theorem run_through {State Query' : Type} {Answer' : Query' → Type}
    {serve : (query : Query) → StateT State (Dialogue Query' Answer') (Answer query)}
    {relay : (query : Query') → m (Answer' query)}
    {through : (query : Query) → StateT State m (Answer query)}
    (same : ∀ query state, ((serve query).run state).run relay = (through query).run state)
    (dialogue : Dialogue Query Answer α) (state : State) :
    ((dialogue.run serve).run state).run relay = (dialogue.run through).run state := by
  induction dialogue generalizing state with
  | reply value => rfl
  | ask query next induction =>
      rw [run, run, StateT.run_bind, StateT.run_bind, run_bind, same]
      exact congrArg _ (funext fun served => induction served.1 served.2)

end Run

def Asks (only : Query → Prop) : Dialogue Query Answer α → Prop
  | .reply _ => True
  | .ask query next => only query ∧ ∀ answer, (next answer).Asks only

theorem asks_any (dialogue : Dialogue Query Answer α) : dialogue.Asks fun _ => True := by
  induction dialogue with
  | reply value => trivial
  | ask query next induction => exact ⟨trivial, induction⟩

theorem Asks.bind {only : Query → Prop} {first : Dialogue Query Answer α}
    {rest : α → Dialogue Query Answer β} (asks : first.Asks only)
    (restAsks : ∀ value, (rest value).Asks only) : (first >>= rest).Asks only := by
  induction first with
  | reply value => exact restAsks value
  | ask query next induction =>
      exact ⟨asks.1, fun answer => induction answer (asks.2 answer)⟩

theorem Asks.run {Query' : Type} {Answer' : Query' → Type} {only : Query → Prop}
    {only' : Query' → Prop} {relay : (query : Query) → Dialogue Query' Answer' (Answer query)}
    {dialogue : Dialogue Query Answer α} (asks : dialogue.Asks only)
    (relayed : ∀ query, only query → (relay query).Asks only') :
    (dialogue.run relay).Asks only' := by
  induction dialogue with
  | reply value => trivial
  | ask query next induction =>
      exact (relayed query asks.1).bind fun answer => induction answer (asks.2 answer)

/-- Hold the dialogue with a party that answers by what it was asked before. -/
def converse (answer : List Query → (query : Query) → Answer query) :
    Dialogue Query Answer α → List Query → α × List Query
  | .reply value, asked => (value, asked)
  | .ask query next, asked =>
      (next (answer asked query)).converse answer (asked ++ [query])

theorem converse_bind (answer : List Query → (query : Query) → Answer query)
    (first : Dialogue Query Answer α) (rest : α → Dialogue Query Answer β)
    (asked : List Query) :
    (first >>= rest).converse answer asked =
      (rest (first.converse answer asked).1).converse answer
        (first.converse answer asked).2 := by
  induction first generalizing asked with
  | reply value => rfl
  | ask query next induction =>
      rw [ask_bind, converse, induction]
      rfl

theorem converse_congr {first second : List Query → (query : Query) → Answer query}
    (dialogue : Dialogue Query Answer α) {asked : List Query}
    (same : ∀ later, asked.length ≤ later.length → first later = second later) :
    dialogue.converse first asked = dialogue.converse second asked := by
  induction dialogue generalizing asked with
  | reply value => rfl
  | ask query next induction =>
      rw [converse, converse, same asked (Nat.le_refl _)]
      apply induction
      intro later longer
      apply same
      rw [List.length_append] at longer
      exact Nat.le_of_add_right_le longer

/-- The questions are put, get these answers and lead to the value. -/
inductive Follows : Dialogue Query Answer α → List (Σ query, Answer query) → α → Prop
  | reply (value : α) : Follows (.reply value) [] value
  | ask {query : Query} {next : Answer query → Dialogue Query Answer α} {answer : Answer query}
      {exchanges : List (Σ query, Answer query)} {value : α}
      (rest : Follows (next answer) exchanges value) :
      Follows (.ask query next) (⟨query, answer⟩ :: exchanges) value

theorem Follows.converse (other : (query : Query) → Answer query)
    {dialogue : Dialogue Query Answer α} {exchanges : List (Σ query, Answer query)} {value : α}
    (follows : dialogue.Follows exchanges value) (asked : List Query) :
    ∃ answer, dialogue.converse answer asked = (value, asked ++ exchanges.map Sigma.fst) := by
  classical
  induction follows generalizing asked with
  | reply value => exact ⟨fun _ => other, by rw [Dialogue.converse, List.map_nil, List.append_nil]⟩
  | @ask query next answer exchanges value rest induction =>
      rcases induction (asked ++ [query]) with ⟨later, conversed⟩
      let now : (query : Query) → Answer query := Function.update other query answer
      refine ⟨fun history => if history.length ≤ asked.length then now else later history, ?_⟩
      rw [Dialogue.converse, if_pos (Nat.le_refl _)]
      have given : now query = answer := Function.update_self _ _ _
      rw [given, converse_congr, conversed, List.append_assoc]
      · rfl
      · intro history longer
        rw [List.length_append, List.length_singleton] at longer
        exact if_neg (Nat.not_le_of_lt longer)

end Dialogue

/-! ## Machines -/

/-- What a machine can do while it serves an operation. Its state is in the open
whenever it asks, so that it may find it changed afterwards. -/
inductive Request (State Query : Type)
  | load
  | store (state : State)
  | ask (query : Query)

namespace Request

variable {State Query : Type} {Answer : Query → Type} {m : Type → Type}

@[reducible] def Reply (Answer : Query → Type) : Request State Query → Type
  | .load => State
  | .store _ => Unit
  | .ask query => Answer query

def serve (load : m State) (store : State → m Unit) (ask : (query : Query) → m (Answer query)) :
    (request : Request State Query) → m (request.Reply Answer)
  | .load => load
  | .store state => store state
  | .ask query => ask query

end Request

abbrev Machine (State Operation : Type) (Result : Operation → Type) (Query : Type)
    (Answer : Query → Type) : Type :=
  (operation : Operation) →
    Dialogue (Request State Query) (Request.Reply Answer) (Result operation)

def Machine.serve {State Operation Query : Type} {Result : Operation → Type}
    {Answer : Query → Type} {m : Type → Type} [Monad m] (load : m State)
    (store : State → m Unit) (machine : Machine State Operation Result Query Answer)
    (ask : (query : Query) → m (Answer query)) (operation : Operation) :
    m (Result operation) :=
  (machine operation).run (Request.serve load store ask)

end Dcsctp4j
