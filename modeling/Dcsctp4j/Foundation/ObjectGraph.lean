import Mathlib.Logic.Relation
import Mathlib.Data.Set.Lattice

/-! # Object graphs and their mutators

What a set of roots keeps alive, and why a mutator that works only with what it
can reach never brings back what it cannot.
-/

namespace Dcsctp4j.ObjectGraph

open Relation

variable {Object : Type} {points after : Object → Object → Prop}
  {roots more later : Set Object}

def Reaches (points : Object → Object → Prop) (roots : Set Object) (object : Object) : Prop :=
  ∃ root ∈ roots, ReflTransGen points root object

namespace Reaches

theorem root {object : Object} (member : object ∈ roots) : Reaches points roots object :=
  ⟨object, member, .refl⟩

theorem step {first second : Object} (reaches : Reaches points roots first)
    (edge : points first second) : Reaches points roots second := by
  rcases reaches with ⟨root, member, path⟩
  exact ⟨root, member, path.tail edge⟩

/-- A region that holds the roots and is closed under the edges holds all that
is reachable. -/
theorem mem_of_closed {region : Set Object} (holdsRoots : roots ⊆ region)
    (closed : ∀ first ∈ region, ∀ second, points first second → second ∈ region)
    {object : Object} (reaches : Reaches points roots object) : object ∈ region := by
  rcases reaches with ⟨root, member, path⟩
  induction path with
  | refl => exact holdsRoots member
  | tail _ edge induction => exact closed _ induction _ edge

theorem mono (subset : roots ⊆ more) {object : Object}
    (reaches : Reaches points roots object) : Reaches points more object := by
  rcases reaches with ⟨root, member, path⟩
  exact ⟨root, subset member, path⟩

theorem union_iff {object : Object} :
    Reaches points (roots ∪ more) object ↔
      Reaches points roots object ∨ Reaches points more object := by
  constructor
  · intro reaches
    rcases reaches with ⟨root, member | member, path⟩
    · exact .inl ⟨root, member, path⟩
    · exact .inr ⟨root, member, path⟩
  · intro reaches
    rcases reaches with reaches | reaches
    · exact reaches.mono Set.subset_union_left
    · exact reaches.mono Set.subset_union_right

theorem iUnion_iff {Index : Type} {family : Index → Set Object} {object : Object} :
    Reaches points (⋃ index, family index) object ↔
      ∃ index, Reaches points (family index) object := by
  constructor
  · intro reaches
    rcases reaches with ⟨root, member, path⟩
    rcases Set.mem_iUnion.mp member with ⟨index, held⟩
    exact ⟨index, root, held, path⟩
  · intro reaches
    rcases reaches with ⟨index, reaches⟩
    exact reaches.mono (Set.subset_iUnion family index)

/-- A mutator may move roots and edges among what was reachable and what is
fresh. Nothing else becomes reachable. -/
theorem of_mutation {fresh : Set Object}
    (rootsKept : ∀ object ∈ later, Reaches points roots object ∨ object ∈ fresh)
    (edgesKept : ∀ first second, after first second →
      Reaches points roots first ∨ first ∈ fresh →
        Reaches points roots second ∨ second ∈ fresh)
    {object : Object} (reaches : Reaches after later object) :
    Reaches points roots object ∨ object ∈ fresh := by
  have kept : object ∈ { object | Reaches points roots object ∨ object ∈ fresh } :=
    mem_of_closed rootsKept (fun first kept second edge => edgesKept first second edge kept)
      reaches
  exact kept

end Reaches

end Dcsctp4j.ObjectGraph
