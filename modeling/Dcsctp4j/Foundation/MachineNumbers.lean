import Mathlib.Data.Set.Defs
import Mathlib.Algebra.Order.Ring.Int

/-! # Numbers in machine fields

Which integers a field of some width holds, and when bits that are read with a
sign on one side and without on the other stand for the same integer.
-/

namespace Dcsctp4j.MachineNumbers

def unsignedRange (width : Nat) : Set Int := {number | 0 ≤ number ∧ number < 2 ^ width}

def signedRange (width : Nat) : Set Int :=
  {number | -2 ^ (width - 1) ≤ number ∧ number < 2 ^ (width - 1)}

variable {width : Nat}

theorem two_mul_two_pow (positive : 0 < width) :
    (2 : Int) * 2 ^ (width - 1) = 2 ^ width := by
  cases width with
  | zero => cases positive
  | succ width => rw [Int.pow_succ, Int.mul_comm, Nat.add_sub_cancel]

theorem two_pow_positive (width : Nat) : (0 : Int) < 2 ^ width := by
  exact_mod_cast Nat.two_pow_pos width

/-- Bits written as a signed number are read back without a sign. -/
theorem toNat_eq_toInt_iff (bits : BitVec width) :
    (bits.toNat : Int) = bits.toInt ↔ bits.toInt ∈ unsignedRange width := by
  have bound : (bits.toNat : Int) < 2 ^ width := by exact_mod_cast bits.isLt
  rw [unsignedRange, Set.mem_ofPred_eq, BitVec.toInt_eq_toNat_cond]
  push_cast
  split
  · exact iff_of_true rfl ⟨by omega, bound⟩
  · exact iff_of_false (by omega) fun inside => by omega

/-- Bits written as an unsigned number are read back with a sign. -/
theorem toInt_eq_toNat_iff (positive : 0 < width) (bits : BitVec width) :
    bits.toInt = bits.toNat ↔ (bits.toNat : Int) ∈ signedRange width := by
  have half := two_mul_two_pow positive
  have power := two_pow_positive width
  rw [signedRange, Set.mem_ofPred_eq, BitVec.toInt_eq_toNat_cond]
  split
  · rename_i small
    have small : (2 * bits.toNat : Int) < 2 ^ width := by exact_mod_cast small
    exact iff_of_true rfl ⟨by omega, by omega⟩
  · rename_i large
    have large : ¬(2 * bits.toNat : Int) < 2 ^ width := by exact_mod_cast large
    push_cast
    exact iff_of_false (by omega) fun inside => by omega

theorem bmod_eq_self_iff (positive : 0 < width) (value : Int) :
    value.bmod (2 ^ width) = value ↔ value ∈ signedRange width := by
  have half := two_mul_two_pow positive
  have power := Nat.two_pow_pos width
  rw [signedRange, Set.mem_ofPred_eq]
  constructor
  · intro same
    have lower := @Int.le_bmod value (2 ^ width) power
    have upper := @Int.bmod_lt value (2 ^ width) power
    rw [same] at lower upper
    push_cast at lower upper
    omega
  · intro inside
    apply Int.bmod_eq_of_le_mul_two
    · push_cast
      omega
    · push_cast
      omega

end Dcsctp4j.MachineNumbers
