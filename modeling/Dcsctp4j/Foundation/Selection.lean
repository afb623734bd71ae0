import Mathlib.Data.List.Basic

/-! # Choosing the widest filter

A loop that looks for the accepted value with the least key, and two filters in
a row: one by the key it found, and one that accepts or not. The first drops
nothing that the second accepts.
-/

namespace Dcsctp4j.Selection

variable {α β κ : Type} [LT κ] [DecidableLT κ]

/-- The loop that takes every accepted value with a key below its choice so far. -/
def chooseLeast (accepts : α → Bool) (key : α → κ) : α → List α → α
  | choice, [] => choice
  | choice, value :: rest =>
      chooseLeast accepts key (if accepts value && key value < key choice then value else choice)
        rest

variable {accepts : α → Bool} {key : α → κ} {start : α} {values : List α}

theorem chooseLeast_accepted (accepts : α → Bool) (key : α → κ) (start : α)
    (values : List α) :
    chooseLeast accepts key start values = start ∨
      accepts (chooseLeast accepts key start values) = true := by
  induction values generalizing start with
  | nil => exact .inl rfl
  | cons value rest induction =>
      rw [chooseLeast]
      by_cases taken : (accepts value && key value < key start) = true
      · rw [if_pos taken]
        rw [Bool.and_eq_true] at taken
        rcases induction value with unchanged | accepted
        · rw [unchanged]
          exact .inr taken.1
        · exact .inr accepted
      · rw [if_neg taken]
        exact induction start

theorem accepts_of_choice_le [LE κ] {value : α}
    (upward : ∀ first second, key first ≤ key second → accepts first = true →
      accepts second = true)
    (passes : key (chooseLeast accepts key start values) ≤ key value) :
    chooseLeast accepts key start values = start ∨ accepts value = true := by
  rcases chooseLeast_accepted accepts key start values with unchanged | accepted
  · exact .inl unchanged
  · exact .inr (upward _ _ passes accepted)

section Least

variable [LE κ] [Std.IsLinearOrder κ] [Std.LawfulOrderLT κ]

theorem chooseLeast_le_start : key (chooseLeast accepts key start values) ≤ key start := by
  induction values generalizing start with
  | nil => exact Std.le_refl _
  | cons value rest induction =>
      rw [chooseLeast]
      by_cases taken : (accepts value && key value < key start) = true
      · rw [if_pos taken]
        rw [Bool.and_eq_true, decide_eq_true_eq] at taken
        exact Std.le_trans induction (Std.le_of_lt taken.2)
      · rw [if_neg taken]
        exact induction

theorem chooseLeast_le {value : α} (member : value ∈ values) (accepted : accepts value = true) :
    key (chooseLeast accepts key start values) ≤ key value := by
  induction values generalizing start with
  | nil => cases member
  | cons head rest induction =>
      rw [chooseLeast]
      rcases List.mem_cons.mp member with rfl | later
      · by_cases below : key value < key start
        · rw [if_pos (by rw [accepted, decide_eq_true below]; rfl)]
          exact chooseLeast_le_start
        · rw [if_neg (by simp [below])]
          exact Std.le_trans chooseLeast_le_start (Std.not_lt.mp below)
      · exact induction later

/-- A filter that lets through what is not below the choice hides nothing from a
filter by acceptance. -/
theorem filter_choice (accepts : α → Bool) (key : α → κ) (start : α) (severity : β → α)
    {passes : β → Bool} {lines : List β}
    (known : ∀ line ∈ lines, severity line ∈ values)
    (wide : ∀ line, key (chooseLeast accepts key start values) ≤ key (severity line) →
      passes line = true) :
    (lines.filter passes).filter (fun line => accepts (severity line)) =
      lines.filter fun line => accepts (severity line) := by
  rw [List.filter_filter]
  apply List.filter_congr
  intro line member
  cases accepted : accepts (severity line) with
  | false => rfl
  | true => rw [wide line (chooseLeast_le (known line member) accepted), Bool.and_self]

theorem chooseLeast_congr {other : α → Bool}
    (same : ∀ value, key value < key start → other value = accepts value) :
    chooseLeast other key start values = chooseLeast accepts key start values := by
  induction values generalizing start with
  | nil => rfl
  | cons value rest induction =>
      rw [chooseLeast, chooseLeast]
      by_cases below : key value < key start
      · rw [same value below]
        apply induction
        intro later laterBelow
        split_ifs at laterBelow with taken
        · exact same later (Std.lt_trans laterBelow below)
        · exact same later laterBelow
      · rw [decide_eq_false below, Bool.and_false, Bool.and_false]
        exact induction same

theorem chooseLeast_le_iff {value : α}
    (upward : ∀ first second, key first ≤ key second → accepts first = true →
      accepts second = true)
    (startAccepted : accepts start = true) (member : value ∈ values) :
    key (chooseLeast accepts key start values) ≤ key value ↔ accepts value = true := by
  constructor
  · intro below
    rcases accepts_of_choice_le upward below with unchanged | accepted
    · rw [unchanged] at below
      exact upward start value below startAccepted
    · exact accepted
  · exact chooseLeast_le member

end Least

end Dcsctp4j.Selection
