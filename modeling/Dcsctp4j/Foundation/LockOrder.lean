import Mathlib.Data.Set.Finite.Lemmas
import Mathlib.Logic.Relation
import Dcsctp4j.Foundation.Transition

/-! # Waiting in order

Parties that hold resources and wait for those of others. If each waits only for
what ranks above all that it holds, no parties wait for each other in a circle.
-/

namespace Dcsctp4j.LockOrder

open Relation Transition

variable {Party Resource Rank : Type} {holds : Party → Resource → Prop}
  {wants : Party → Option Resource}

def WaitsFor (holds : Party → Resource → Prop) (wants : Party → Option Resource)
    (first second : Party) : Prop :=
  first ≠ second ∧ ∃ resource, wants first = some resource ∧ holds second resource

/-- A party wants what ranks above all that it holds, or what it holds already. -/
def Ordered [LT Rank] (holds : Party → Resource → Prop) (wants : Party → Option Resource)
    (rank : Resource → Rank) : Prop :=
  ∀ party wanted held, wants party = some wanted → holds party held →
    held = wanted ∨ rank held < rank wanted

structure Deadlock (holds : Party → Resource → Prop) (wants : Party → Option Resource)
    (parties : Set Party) : Prop where
  nonempty : parties.Nonempty
  waiting : ∀ party ∈ parties, ∃ other ∈ parties, WaitsFor holds wants party other

theorem WaitsFor.rises [LT Rank] {rank : Resource → Rank} (ordered : Ordered holds wants rank)
    (exclusive : Exclusive holds) {first second third : Party} {lower upper : Resource}
    (waits : WaitsFor holds wants first second) (further : WaitsFor holds wants second third)
    (lowerWanted : wants first = some lower) (upperWanted : wants second = some upper) :
    rank lower < rank upper := by
  rcases waits with ⟨-, resource, wanted, held⟩
  cases lowerWanted.symm.trans wanted
  rcases ordered second upper lower upperWanted held with same | below
  · rcases further with ⟨distinct, resource, wanted, heldByThird⟩
    cases upperWanted.symm.trans wanted
    subst same
    exact absurd (exclusive _ _ _ held heldByThird) distinct
  · exact below

section Finite

variable [LinearOrder Rank] {rank : Resource → Rank}

theorem Ordered.no_deadlock (ordered : Ordered holds wants rank) (exclusive : Exclusive holds)
    (finite : Set.Finite { resource | ∃ party, holds party resource }) (parties : Set Party) :
    ¬Deadlock holds wants parties := by
  intro deadlock
  let wanted : Set Resource := { resource | ∃ party ∈ parties, wants party = some resource }
  have wantedFinite : wanted.Finite := by
    apply finite.subset
    intro resource member
    rcases member with ⟨party, inside, wants⟩
    rcases deadlock.waiting party inside with ⟨other, -, -, held, wantsHeld, holds⟩
    cases wants.symm.trans wantsHeld
    exact ⟨other, holds⟩
  have wantedNonempty : wanted.Nonempty := by
    rcases deadlock.nonempty with ⟨party, inside⟩
    rcases deadlock.waiting party inside with ⟨other, -, -, resource, wants, -⟩
    exact ⟨resource, party, inside, wants⟩
  -- The holder of the highest resource that is waited for wants a higher one.
  rcases Set.exists_max_image wanted rank wantedFinite wantedNonempty with
    ⟨highest, ⟨party, inside, wantsHighest⟩, maximal⟩
  rcases deadlock.waiting party inside with ⟨holder, holderInside, waits⟩
  rcases deadlock.waiting holder holderInside with ⟨next, -, further⟩
  have furtherWaits := further
  rcases further with ⟨-, upper, wantsUpper, -⟩
  have rises := waits.rises ordered exclusive furtherWaits wantsHighest wantsUpper
  exact absurd (maximal upper ⟨holder, holderInside, wantsUpper⟩) (not_le_of_gt rises)

/-- Every party waits, in the end, for one that waits for nobody. -/
theorem Ordered.chain_ends (ordered : Ordered holds wants rank) (exclusive : Exclusive holds)
    (finite : Set.Finite { resource | ∃ party, holds party resource }) (party : Party) :
    ∃ last, ReflTransGen (WaitsFor holds wants) party last ∧
      ∀ next, ¬WaitsFor holds wants last next := by
  by_contra endless
  push Not at endless
  refine ordered.no_deadlock exclusive finite
    { other | ReflTransGen (WaitsFor holds wants) party other } ⟨⟨party, .refl⟩, ?_⟩
  intro other chain
  rcases endless other chain with ⟨next, waits⟩
  exact ⟨next, chain.tail waits, waits⟩

end Finite

end Dcsctp4j.LockOrder
