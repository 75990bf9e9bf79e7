import Mathlib.Data.Nat.Digits.Lemmas

/-!
# Fields of a byte format

Fixed-width little-endian numbers and constant tags, written one after another
and read back from the front of what is left. Reading a field undoes writing
it, and what a read accepts was written so.
-/

namespace Fields

/-- The number the bytes spell, least significant first. -/
def value (bytes : List UInt8) : Nat := Nat.ofDigits 256 (bytes.map UInt8.toNat)

/-- The lowest `width` bytes of `n`. -/
def encode : Nat → Nat → List UInt8
  | 0, _ => []
  | width + 1, n => UInt8.ofNat n :: encode width (n / 256)

@[simp] theorem length_encode (width n : Nat) : (encode width n).length = width := by
  induction width generalizing n with
  | zero => rfl
  | succ width ih => rw [encode, List.length_cons, ih]

theorem value_cons (b : UInt8) (bytes : List UInt8) :
    value (b :: bytes) = b.toNat + 256 * value bytes := rfl

theorem value_encode (width n : Nat) : value (encode width n) = n % 256 ^ width := by
  induction width generalizing n with
  | zero => rw [Nat.pow_zero, Nat.mod_one]; rfl
  | succ width ih =>
    have first : (UInt8.ofNat n).toNat = n % 256 := UInt8.toNat_ofNat'
    rw [encode, value_cons, ih, first, Nat.pow_succ', Nat.mod_mul]

theorem value_lt (bytes : List UInt8) : value bytes < 256 ^ bytes.length := by
  induction bytes with
  | nil => exact Nat.one_pos
  | cons b bytes ih =>
    have digit := b.toNat_lt
    rw [value_cons, List.length_cons, Nat.pow_succ']
    omega

theorem encode_value (bytes : List UInt8) : encode bytes.length (value bytes) = bytes := by
  induction bytes with
  | nil => rfl
  | cons b bytes ih =>
    have digit := b.toNat_lt
    have first : UInt8.ofNat (b.toNat + 256 * value bytes) = b := by
      apply UInt8.toNat_inj.mp
      rw [UInt8.toNat_ofNat']
      omega
    have others : (b.toNat + 256 * value bytes) / 256 = value bytes := by omega
    rw [value_cons, List.length_cons, encode, first, others, ih]

/-- Read a number of `width` bytes. -/
def take (width : Nat) (bytes : List UInt8) : Option (Nat × List UInt8) :=
  if width ≤ bytes.length then some (value (bytes.take width), bytes.drop width) else none

@[simp] theorem take_encode (width n : Nat) (rest : List UInt8) :
    take width (encode width n ++ rest) = some (n % 256 ^ width, rest) := by
  have room : width ≤ (encode width n ++ rest).length := by
    rw [List.length_append, length_encode]
    exact Nat.le_add_right _ _
  rw [take, if_pos room, List.take_left' (length_encode width n),
    List.drop_left' (length_encode width n), value_encode]

@[simp] theorem isPrefixOf?_append (tag rest : List UInt8) :
    tag.isPrefixOf? (tag ++ rest) = some rest :=
  List.isPrefixOf?_eq_some_iff_append_eq.mpr rfl

/-- What is read as a number was written as one. -/
theorem take_inv {width n : Nat} {bytes rest : List UInt8} (h : take width bytes = some (n, rest)) :
    bytes = encode width n ++ rest ∧ n < 256 ^ width := by
  unfold take at h
  split at h
  · rename_i room
    cases h
    have length : (bytes.take width).length = width := List.length_take_of_le room
    have same := encode_value (bytes.take width)
    have small := value_lt (bytes.take width)
    rw [length] at same small
    rw [same, List.take_append_drop]
    exact ⟨rfl, small⟩
  · cases h

end Fields
