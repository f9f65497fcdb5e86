import LocalCloud.Bytes
import Mathlib.Algebra.Group.Nat.Defs

/-!
# Numbers in bytes

The digits of a number in base 256 are read back as the number when there are enough of
them, and a number other than zero determines how many are enough.
-/

namespace LocalCloud.Bytes

variable {width value : Nat} {bytes : Bytes}

theorem toNat_ofNat (h : value < 256 ^ width) : toNat (ofNat width value) = value := by
  induction width generalizing value with
  | zero =>
      rw [Nat.pow_zero, Nat.lt_one_iff] at h
      rw [h]
      rfl
  | succ width ih =>
      have hhigh : value / 256 < 256 ^ width := by
        rw [Nat.div_lt_iff_lt_mul (by decide), ← Nat.pow_succ]
        exact h
      have hlow : (UInt8.ofNat (value % 256)).toNat = value % 256 := by simp
      rw [ofNat_succ, toNat_append_singleton, ih hhigh, hlow]
      omega

theorem toNat_lt (h : bytes.length = width) : toNat bytes < 256 ^ width := by
  induction width generalizing bytes with
  | zero =>
      rw [List.length_eq_zero_iff.1 h]
      decide
  | succ width ih =>
      obtain ⟨front, last, rfl, hfront⟩ := exists_eq_append_singleton h
      have hlast := last.toNat_lt
      have hrest := ih hfront
      rw [toNat_append_singleton, Nat.pow_succ]
      omega

/-- How many bytes a number takes. -/
def widthOf (number : Nat) : Nat :=
  Nat.log2 number / 8 + 1

theorem lt_pow_widthOf (number : Nat) : number < 256 ^ widthOf number := by
  have hlog : number < 2 ^ (Nat.log2 number + 1) := Nat.lt_log2_self
  have hwidth : Nat.log2 number + 1 ≤ 8 * widthOf number := by
    rw [widthOf]
    omega
  calc
    number < 2 ^ (Nat.log2 number + 1) := hlog
    _ ≤ 2 ^ (8 * widthOf number) := Nat.pow_le_pow_right (by decide) hwidth
    _ = 256 ^ widthOf number := Nat.pow_mul 2 8 _

theorem pow_widthOf_le (h : value ≠ 0) : 256 ^ (widthOf value - 1) ≤ value := by
  have hwidth : 8 * (widthOf value - 1) ≤ Nat.log2 value := by
    rw [widthOf]
    omega
  calc
    256 ^ (widthOf value - 1) = 2 ^ (8 * (widthOf value - 1)) := (Nat.pow_mul 2 8 _).symm
    _ ≤ 2 ^ Nat.log2 value := Nat.pow_le_pow_right (by decide) hwidth
    _ ≤ value := Nat.log2_self_le h

theorem widthOf_pos (number : Nat) : 0 < widthOf number :=
  Nat.succ_pos _

theorem widthOf_le (h : value ≠ 0) (hvalue : value < 256 ^ width) : widthOf value ≤ width := by
  have hpow : 256 ^ (widthOf value - 1) < 256 ^ width :=
    Nat.lt_of_le_of_lt (pow_widthOf_le h) hvalue
  have hwidth := (Nat.pow_lt_pow_iff_right (by decide)).1 hpow
  omega

/-- Between two powers of 256 all numbers have the same width. -/
theorem widthOf_eq (hwidth : 0 < width) (hlow : 256 ^ (width - 1) ≤ value)
    (hhigh : value < 256 ^ width) : widthOf value = width := by
  have hpositive : 0 < 256 ^ (width - 1) := Nat.pow_pos (by decide)
  have hle : widthOf value ≤ width := widthOf_le (by omega) hhigh
  have hpow : 256 ^ (width - 1) < 256 ^ widthOf value :=
    Nat.lt_of_le_of_lt hlow (lt_pow_widthOf value)
  have hge := (Nat.pow_lt_pow_iff_right (by decide)).1 hpow
  omega

end LocalCloud.Bytes
