import Dcsctp4j.Types

/-! # The range of a received packet

`NativeSctpSocket.receivePacket` checks the range in Java and `receivePacket_`
checks it again, both with sums of 32 bits. What comes out is the view with
which dcsctp's `ReceivePacket` is entered.
-/

namespace Dcsctp4j

/-- A Java array holds fewer than `2 ^ 31` elements. -/
structure JavaByteArray where
  elements : List Int8
  bounded : elements.length < 2 ^ 31
deriving DecidableEq

def JavaByteArray.length (data : JavaByteArray) : Int32 := Int32.ofNat data.elements.length

/-- The type of `java_array_access::size()`, which SimpleJNI chooses. -/
inductive SizeType
  | jsize
  | size_t
deriving DecidableEq

/-- `sum > size` under C++'s usual conversions of an `int` and the size. -/
def SizeType.exceeds : SizeType → Int32 → Int32 → Bool
  | .jsize, sum, size => size < sum
  | .size_t, sum, size => size.toInt64.toUInt64 < sum.toInt64.toUInt64

/-- An `rtc::ArrayView` into the elements of an array, by its offset from their
first byte and its size. -/
structure PacketView where
  start : Int
  size : UInt64
deriving DecidableEq

/-- The bytes a view denotes, when they all belong to the array. -/
def PacketView.contents (view : PacketView) (data : JavaByteArray) : Option (List UInt8) :=
  if 0 ≤ view.start ∧ view.start + view.size.toNat ≤ data.elements.length then
    some (((fromByteArray data.elements).drop view.start.toNat).take view.size.toNat)
  else
    none

namespace NativeSctpSocket

def receivePacket_ (sizeType : SizeType) (data : JavaByteArray) (offset length : Int32) :
    Except Throwable PacketView :=
  if sizeType.exceeds (offset + length) data.length then
    .error ⟨"java.lang.Throwable", "Invalid values for array length"⟩
  else
    .ok { start := offset.toInt, size := length.toInt64.toUInt64 }

def receivePacket (sizeType : SizeType) (data : JavaByteArray) (offset length : Int32) :
    Except Throwable PacketView :=
  if data.length < offset + length then
    .error ⟨"java.lang.IllegalArgumentException",
      s!"Array length {data.length} too short for offset {offset} length {length}"⟩
  else
    receivePacket_ sizeType data offset length

end NativeSctpSocket

/-! ## Safety -/

def InRange (data : JavaByteArray) (offset length : Int32) : Prop :=
  0 ≤ offset.toInt ∧ 0 ≤ length.toInt ∧
    offset.toInt + length.toInt ≤ data.elements.length

/-- A view is handed over exactly for a valid range, and is then the bytes of
that range. -/
def RangeSafe (sizeType : SizeType) (data : JavaByteArray) (offset length : Int32) : Prop :=
  match NativeSctpSocket.receivePacket sizeType data offset length with
  | .ok view =>
      InRange data offset length ∧
        view.contents data = some (((fromByteArray data.elements).drop
          offset.toInt.toNat).take length.toInt.toNat)
  | .error _ => ¬InRange data offset length

theorem JavaByteArray.toInt_length (data : JavaByteArray) :
    data.length.toInt = data.elements.length := by
  have bounded := data.bounded
  exact Int32.toInt_ofNat_of_lt bounded

theorem toNat_extended (value : Int32) :
    (value.toInt64.toUInt64.toNat : Int) =
      if 0 ≤ value.toInt then value.toInt else value.toInt + 2 ^ 64 := by
  have lower := value.le_toInt
  have upper := value.toInt_lt
  rw [toNat_toUInt64, Int32.toInt_toInt64, unsignedReading]
  split <;> omega

theorem SizeType.exceeds_iff (sizeType : SizeType) (sum size : Int32)
    (nonnegative : 0 ≤ size.toInt) :
    sizeType.exceeds sum size = true ↔
      size.toInt < sum.toInt ∨ sizeType = .size_t ∧ sum.toInt < 0 := by
  cases sizeType with
  | jsize => simp [exceeds, Int32.lt_iff_toInt_lt]
  | size_t =>
      have sumValue := toNat_extended sum
      have sizeValue := toNat_extended size
      have sizeUpper := size.toInt_lt
      have sumLower := sum.le_toInt
      simp only [exceeds, decide_eq_true_eq, UInt64.lt_iff_toNat_lt, true_and]
      rw [if_pos nonnegative] at sizeValue
      split at sumValue <;> omega

theorem InRange.toInt_sum {data : JavaByteArray} {offset length : Int32}
    (inRange : InRange data offset length) :
    (offset + length).toInt = offset.toInt + length.toInt := by
  rcases inRange with ⟨offsetValid, lengthValid, fits⟩
  have bounded := data.bounded
  rw [Int32.toInt_add]
  exact Int.bmod_eq_of_le (by omega) (by omega)

theorem PacketView.contents_of_inRange {data : JavaByteArray} {offset length : Int32}
    (inRange : InRange data offset length) :
    ({ start := offset.toInt, size := length.toInt64.toUInt64 } : PacketView).contents data =
      some (((fromByteArray data.elements).drop offset.toInt.toNat).take
        length.toInt.toNat) := by
  rcases inRange with ⟨offsetValid, lengthValid, fits⟩
  have size := toNat_extended length
  rw [if_pos lengthValid] at size
  have sizeNat : length.toInt64.toUInt64.toNat = length.toInt.toNat := by omega
  rw [PacketView.contents, if_pos ⟨offsetValid, by rw [size]; exact fits⟩, sizeNat]

def Refused (sizeType : SizeType) (data : JavaByteArray) (offset length : Int32) : Prop :=
  data.length < offset + length ∨ sizeType = .size_t ∧ offset + length < 0

theorem receivePacket_refused {sizeType : SizeType} {data : JavaByteArray}
    {offset length : Int32} (refused : Refused sizeType data offset length) :
    ∃ throwable,
      NativeSctpSocket.receivePacket sizeType data offset length = .error throwable := by
  rw [NativeSctpSocket.receivePacket]
  split
  · exact ⟨_, rfl⟩
  · rename_i passed
    rcases refused with above | ⟨unsigned, negative⟩
    · contradiction
    · have nonnegative := data.toInt_length
      have exceeds : sizeType.exceeds (offset + length) data.length = true :=
        (sizeType.exceeds_iff _ _ (by omega)).mpr
          (.inr ⟨unsigned, Int32.lt_iff_toInt_lt.mp negative⟩)
      rw [NativeSctpSocket.receivePacket_, if_pos exceeds]
      exact ⟨_, rfl⟩

theorem receivePacket_accepted {sizeType : SizeType} {data : JavaByteArray}
    {offset length : Int32} (accepted : ¬Refused sizeType data offset length) :
    NativeSctpSocket.receivePacket sizeType data offset length =
      .ok { start := offset.toInt, size := length.toInt64.toUInt64 } := by
  have nonnegative := data.toInt_length
  have within : ¬data.length < offset + length := fun above => accepted (.inl above)
  have passes : ¬sizeType.exceeds (offset + length) data.length = true := by
    rw [sizeType.exceeds_iff _ _ (by omega)]
    intro outside
    rcases outside with above | ⟨unsigned, negative⟩
    · exact within (Int32.lt_iff_toInt_lt.mpr above)
    · exact accepted (.inr ⟨unsigned, Int32.lt_iff_toInt_lt.mpr negative⟩)
  rw [NativeSctpSocket.receivePacket, if_neg within, NativeSctpSocket.receivePacket_,
    if_neg passes]

theorem InRange.not_refused {data : JavaByteArray} {offset length : Int32}
    (inRange : InRange data offset length) (sizeType : SizeType) :
    ¬Refused sizeType data offset length := by
  have sum := inRange.toInt_sum
  have lengthValue := data.toInt_length
  rcases inRange with ⟨offsetValid, lengthValid, fits⟩
  intro outside
  rcases outside with above | ⟨-, negative⟩
  · have above := Int32.lt_iff_toInt_lt.mp above
    omega
  · have negative : (offset + length).toInt < 0 := Int32.lt_iff_toInt_lt.mp negative
    omega

/-- A view handed over for an invalid range reaches outside the array. -/
theorem receivePacket_outside {sizeType : SizeType} {data : JavaByteArray}
    {offset length : Int32} {view : PacketView}
    (handed : NativeSctpSocket.receivePacket sizeType data offset length = .ok view)
    (invalid : ¬InRange data offset length) : view.contents data = none := by
  have accepted : ¬Refused sizeType data offset length := by
    intro refused
    rcases receivePacket_refused refused with ⟨throwable, raised⟩
    rw [raised] at handed
    cases handed
  rw [receivePacket_accepted accepted] at handed
  cases handed
  have size := toNat_extended length
  have bounded := data.bounded
  have lengthLower := length.le_toInt
  apply if_neg
  intro inRange
  rcases inRange with ⟨offsetValid, fits⟩
  apply invalid
  simp only at offsetValid fits
  split at size
  · exact ⟨offsetValid, by assumption, by omega⟩
  · omega

theorem rangeSafe_of_refused {sizeType : SizeType} {data : JavaByteArray}
    {offset length : Int32} (refused : Refused sizeType data offset length) :
    RangeSafe sizeType data offset length := by
  rcases receivePacket_refused refused with ⟨throwable, raised⟩
  rw [RangeSafe, raised]
  exact fun inRange => inRange.not_refused sizeType refused

theorem rangeSafe_of_accepted {sizeType : SizeType} {data : JavaByteArray}
    {offset length : Int32} (accepted : ¬Refused sizeType data offset length) :
    RangeSafe sizeType data offset length ↔ InRange data offset length := by
  rw [RangeSafe, receivePacket_accepted accepted]
  constructor
  · intro safe
    exact safe.1
  · intro inRange
    exact ⟨inRange, PacketView.contents_of_inRange inRange⟩

/-- Both checks compare only the sum, so a range is handled safely when it is
valid or when its wrapped sum happens to be refused. -/
theorem rangeSafe_iff (sizeType : SizeType) (data : JavaByteArray) (offset length : Int32) :
    RangeSafe sizeType data offset length ↔
      InRange data offset length ∨ data.length < offset + length ∨
        sizeType = .size_t ∧ offset + length < 0 := by
  by_cases refused : Refused sizeType data offset length
  · exact iff_of_true (rangeSafe_of_refused refused) (.inr refused)
  · rw [rangeSafe_of_accepted refused]
    constructor
    · exact .inl
    · intro safe
      rcases safe with inRange | contradictory
      · exact inRange
      · exact absurd contradictory refused

def eightBytes : JavaByteArray where
  elements := [1, 2, 3, 4, 5, 6, 7, 8]
  bounded := by decide

theorem not_rangeSafe_of_negative (sizeType : SizeType) :
    ¬RangeSafe sizeType eightBytes (-1) 1 := by
  have accepted : ¬Refused sizeType eightBytes (-1) 1 := by
    intro refused
    rcases refused with above | ⟨-, negative⟩
    · revert above
      decide
    · revert negative
      decide
  rw [rangeSafe_of_accepted accepted]
  intro inRange
  have offsetValid := inRange.1
  revert offsetValid
  decide

/-- The failing input: the byte before the array. -/
theorem negativeOffset_handed_over :
    NativeSctpSocket.receivePacket .jsize eightBytes (-1) 1 = .ok ⟨-1, 1⟩ ∧
      NativeSctpSocket.receivePacket .size_t eightBytes (-1) 1 = .ok ⟨-1, 1⟩ ∧
      ¬RangeSafe .jsize eightBytes (-1) 1 ∧ ¬RangeSafe .size_t eightBytes (-1) 1 :=
  ⟨by decide, by decide, not_rangeSafe_of_negative _, not_rangeSafe_of_negative _⟩

end Dcsctp4j
