import Mathlib.Logic.Function.Basic

/-! # Memory cells with one owner each

Owners reach their values through the address of a cell, the way managed objects
hold a native pointer. Allocation may pick any free address, also one that was
freed before. That no two owners share a cell is part of the structure, so every
owner can be read as if it held its value itself.
-/

namespace Dcsctp4j

structure OwnedCells (Owner Value : Type) where
  address : Owner → Option Nat
  memory : Nat → Option Value
  allocated : ∀ owner place, address owner = some place → memory place ≠ none
  exclusive : ∀ first second place, address first = some place →
    address second = some place → first = second

namespace OwnedCells

variable {Owner Value : Type}

def empty : OwnedCells Owner Value where
  address _ := none
  memory _ := none
  allocated := by simp
  exclusive := by simp

def read (cells : OwnedCells Owner Value) (owner : Owner) : Option Value :=
  (cells.address owner).bind cells.memory

theorem read_eq_some {cells : OwnedCells Owner Value} {owner : Owner} {place : Nat}
    {value : Value} (held : cells.address owner = some place)
    (stored : cells.memory place = some value) : cells.read owner = some value := by
  rw [read, held, Option.bind_some, stored]

theorem address_ne {cells : OwnedCells Owner Value} {owner other : Owner} {place : Nat}
    (held : cells.address owner = some place) (different : other ≠ owner) :
    cells.address other ≠ some place :=
  fun shared => different (cells.exclusive other owner place shared held)

/-- Changing the memory outside the cell of `owner` does not change what it reads. -/
theorem bind_update_of_ne (cells : OwnedCells Owner Value) {owner : Owner} {place : Nat}
    (apart : cells.address owner ≠ some place) (value : Option Value) :
    (cells.address owner).bind (Function.update cells.memory place value) =
      cells.read owner := by
  rw [read]
  cases held : cells.address owner with
  | none => rfl
  | some own =>
      have different : own ≠ place := fun equal => apart (by rw [held, equal])
      rw [Option.bind_some, Option.bind_some, Function.update_of_ne different]

/-! ## Allocating -/

section Allocate

variable [DecidableEq Owner]

def allocate (cells : OwnedCells Owner Value) (owner : Owner) (place : Nat) (value : Value)
    (fresh : cells.memory place = none) : OwnedCells Owner Value where
  address := Function.update cells.address owner (some place)
  memory := Function.update cells.memory place (some value)
  allocated := by
    intro other otherPlace held
    by_cases same : otherPlace = place
    · rw [same, Function.update_self]
      exact Option.some_ne_none value
    · rw [Function.update_of_ne same]
      by_cases isOwner : other = owner
      · rw [isOwner, Function.update_self] at held
        exact absurd (Option.some.inj held).symm same
      · rw [Function.update_of_ne isOwner] at held
        exact cells.allocated other otherPlace held
  exclusive := by
    have notFresh : ∀ other, cells.address other ≠ some place :=
      fun other held => cells.allocated other place held fresh
    intro first second shared firstHeld secondHeld
    by_cases firstOwner : first = owner <;> by_cases secondOwner : second = owner
    · rw [firstOwner, secondOwner]
    · rw [firstOwner, Function.update_self] at firstHeld
      rw [Function.update_of_ne secondOwner, ← firstHeld] at secondHeld
      exact absurd secondHeld (notFresh second)
    · rw [secondOwner, Function.update_self] at secondHeld
      rw [Function.update_of_ne firstOwner, ← secondHeld] at firstHeld
      exact absurd firstHeld (notFresh first)
    · rw [Function.update_of_ne firstOwner] at firstHeld
      rw [Function.update_of_ne secondOwner] at secondHeld
      exact cells.exclusive first second shared firstHeld secondHeld

variable {cells : OwnedCells Owner Value} {owner other : Owner} {place : Nat} {value : Value}

theorem read_allocate_same (fresh : cells.memory place = none) :
    (cells.allocate owner place value fresh).read owner = some value :=
  read_eq_some (Function.update_self ..) (Function.update_self ..)

theorem read_allocate_other (fresh : cells.memory place = none) (different : other ≠ owner) :
    (cells.allocate owner place value fresh).read other = cells.read other := by
  have apart : cells.address other ≠ some place :=
    fun held => cells.allocated other place held fresh
  have same : (cells.allocate owner place value fresh).address other = cells.address other :=
    Function.update_of_ne different ..
  rw [← cells.bind_update_of_ne apart (some value), read, same]
  rfl

end Allocate

/-! ## Writing -/

def write (cells : OwnedCells Owner Value) (place : Nat) (value : Value) :
    OwnedCells Owner Value where
  address := cells.address
  memory := Function.update cells.memory place (some value)
  allocated := by
    intro owner other held
    by_cases same : other = place
    · rw [same, Function.update_self]
      exact Option.some_ne_none value
    · rw [Function.update_of_ne same]
      exact cells.allocated owner other held
  exclusive := cells.exclusive

section Write

variable {cells : OwnedCells Owner Value} {owner other : Owner} {place : Nat} {value : Value}

theorem read_write_same (held : cells.address owner = some place) :
    (cells.write place value).read owner = some value :=
  read_eq_some held (Function.update_self ..)

theorem read_write_other (held : cells.address owner = some place) (different : other ≠ owner) :
    (cells.write place value).read other = cells.read other :=
  cells.bind_update_of_ne (address_ne held different) (some value)

end Write

/-! ## Freeing -/

section Free

variable [DecidableEq Owner] {cells : OwnedCells Owner Value} {owner other : Owner}
  {place : Nat}

def free (cells : OwnedCells Owner Value) (owner : Owner) (place : Nat)
    (held : cells.address owner = some place) : OwnedCells Owner Value where
  address := Function.update cells.address owner none
  memory := Function.update cells.memory place none
  allocated := by
    intro other otherPlace otherHeld
    by_cases isOwner : other = owner
    · rw [isOwner, Function.update_self] at otherHeld
      cases otherHeld
    · rw [Function.update_of_ne isOwner] at otherHeld
      have different : otherPlace ≠ place := fun equal =>
        address_ne held isOwner (by rw [otherHeld, equal])
      rw [Function.update_of_ne different]
      exact cells.allocated other otherPlace otherHeld
  exclusive := by
    intro first second shared firstHeld secondHeld
    by_cases firstOwner : first = owner
    · rw [firstOwner, Function.update_self] at firstHeld
      cases firstHeld
    · by_cases secondOwner : second = owner
      · rw [secondOwner, Function.update_self] at secondHeld
        cases secondHeld
      · rw [Function.update_of_ne firstOwner] at firstHeld
        rw [Function.update_of_ne secondOwner] at secondHeld
        exact cells.exclusive first second shared firstHeld secondHeld

theorem read_free_same (held : cells.address owner = some place) :
    (cells.free owner place held).read owner = none := by
  have gone : (cells.free owner place held).address owner = none := Function.update_self ..
  rw [read, gone, Option.bind_none]

theorem read_free_other (held : cells.address owner = some place) (different : other ≠ owner) :
    (cells.free owner place held).read other = cells.read other := by
  have same : (cells.free owner place held).address other = cells.address other :=
    Function.update_of_ne different ..
  rw [← cells.bind_update_of_ne (address_ne held different) none, read, same]
  rfl

end Free

/-! ## What all owners read afterwards -/

section Reading

variable [DecidableEq Owner] {cells : OwnedCells Owner Value} {owner : Owner} {place : Nat}
  {value : Value} (other : Owner)

theorem read_allocate (fresh : cells.memory place = none) :
    (cells.allocate owner place value fresh).read other =
      if other = owner then some value else cells.read other := by
  by_cases same : other = owner
  · rw [if_pos same, same, read_allocate_same]
  · rw [if_neg same, read_allocate_other fresh same]

theorem read_write (held : cells.address owner = some place) :
    (cells.write place value).read other =
      if other = owner then some value else cells.read other := by
  by_cases same : other = owner
  · rw [if_pos same, same, read_write_same held]
  · rw [if_neg same, read_write_other held same]

theorem read_free (held : cells.address owner = some place) :
    (cells.free owner place held).read other =
      if other = owner then none else cells.read other := by
  by_cases same : other = owner
  · rw [if_pos same, same, read_free_same]
  · rw [if_neg same, read_free_other held same]

variable {β : Type} (reading : Value → β)

theorem map_read_allocate (fresh : cells.memory place = none) :
    ((cells.allocate owner place value fresh).read other).map reading =
      if other = owner then some (reading value) else (cells.read other).map reading := by
  rw [read_allocate, apply_ite (Option.map reading), Option.map_some]

theorem map_read_write (held : cells.address owner = some place) :
    ((cells.write place value).read other).map reading =
      if other = owner then some (reading value) else (cells.read other).map reading := by
  rw [read_write other held, apply_ite (Option.map reading), Option.map_some]

theorem map_read_free (held : cells.address owner = some place) :
    ((cells.free owner place held).read other).map reading =
      if other = owner then none else (cells.read other).map reading := by
  rw [read_free, apply_ite (Option.map reading), Option.map_none]

end Reading

end OwnedCells

end Dcsctp4j
