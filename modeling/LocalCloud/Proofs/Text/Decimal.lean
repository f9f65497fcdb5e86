import LocalCloud.Text.Ascii

/-!
# Decimal digits are read back

The digits that are written for a number are the number again, one after the
other.
-/

namespace LocalCloud.Text

variable {digits : List Char}

theorem digit?_of_isDigit {c : Char} (h : c.isDigit = true) : digit? c = some (c.toNat - 48) := by
  have hdigit : isAsciiDigit c = true := by
    rw [Char.isDigit_iff_toNat] at h
    rw [isAsciiDigit, Bool.and_eq_true, decide_eq_true_iff, decide_eq_true_iff]
    exact h
  rw [digit?, if_pos hdigit]

theorem isDigit_decimalChars (value : Nat) : ∀ c ∈ decimalChars value, c.isDigit = true := by
  intro c hc
  exact Nat.isDigit_of_mem_toDigits (by decide) (by decide) hc

theorem foldl_decimalChars (value : Nat) :
    (decimalChars value).foldl (fun sum c => sum * 10 + (c.toNat - 48)) 0 = value := by
  have hvalue : Nat.ofDigitChars 10 (decimalChars value) 0 = value :=
    Nat.ofDigitChars_ten_toDigits
  rw [Nat.ofDigitChars] at hvalue
  simp only [Nat.mul_comm 10] at hvalue
  exact hvalue

theorem foldlM_digits (hdigits : ∀ c ∈ digits, c.isDigit = true) (start : Nat) :
    digits.foldlM (fun sum c => (digit? c).map (sum * 10 + ·)) start =
      some (digits.foldl (fun sum c => sum * 10 + (c.toNat - 48)) start) := by
  induction digits generalizing start with
  | nil => rfl
  | cons c digits ih =>
      obtain ⟨hc, hrest⟩ := List.forall_mem_cons.1 hdigits
      rw [List.foldlM_cons, digit?_of_isDigit hc, List.foldl_cons]
      exact ih hrest _

theorem decimal?_decimalChars (value : Nat) : decimal? (decimalChars value) = some value := by
  have hne : decimalChars value ≠ [] := Nat.toDigits_ne_nil
  have hfold := foldlM_digits (isDigit_decimalChars value) 0
  rw [foldl_decimalChars] at hfold
  rw [decimal?]
  · exact hfold
  · exact hne

/-- A number has nothing but digits. -/
theorem decimal?_of_not_isAsciiDigit {c : Char} (hc : c ∈ digits)
    (hdigit : isAsciiDigit c = false) : decimal? digits = none := by
  have hfold : ∀ start : Nat,
      digits.foldlM (fun sum c => (digit? c).map (sum * 10 + ·)) start = none := by
    induction digits with
    | nil => cases hc
    | cons first digits ih =>
        intro start
        rw [List.foldlM_cons]
        rcases List.mem_cons.1 hc with rfl | hrest
        · rw [digit?, if_neg (by simp [hdigit])]
          rfl
        · cases digit? first with
          | none => rfl
          | some value => exact ih hrest _
  cases digits with
  | nil => cases hc
  | cons first digits => exact hfold 0

end LocalCloud.Text
