import LocalCloud.Proofs.Text.Case
import LocalCloud.Text.Ascii

/-!
# ASCII letters and full case mappings

Texts that differ in the case of ASCII letters only have one upper case.  A text differs
from its own upper case in nothing else exactly when each of its other characters is in
upper case already.  So a comparison that folds ASCII letters recognises a name that is
kept in upper case in some of its spellings only, but in all that are in upper case.
-/

namespace LocalCloud.Text

/-- Only ASCII letters of the text are not in upper case. -/
def CasedInAscii (text : String) : Prop :=
  ∀ c ∈ text.toList, 128 ≤ c.toNat → upperChar c = [c]

instance : DecidablePred CasedInAscii := fun text => List.decidableBAll _ text.toList

variable {c d : Char} {text other : String}

theorem asciiLowerChar_of_ascii : ∀ c : Char, c.toNat < 128 →
    (asciiLowerChar c).toUpper = c.toUpper ∧
      asciiLowerChar c.toUpper = asciiLowerChar c ∧ (asciiLowerChar c).toNat < 128 := by
  apply forall_ascii
  decide

theorem asciiLowerChar_of_not_ascii (hc : 128 ≤ c.toNat) : asciiLowerChar c = c := by
  have hcapital : ¬ ('A' ≤ c ∧ c ≤ 'Z') := by
    rintro ⟨-, hlast⟩
    have hcode : c.toNat ≤ 'Z'.toNat := hlast
    exact absurd (hc.trans hcode) (by decide)
  exact if_neg hcapital

/-- The upper case of a character does not depend on the case of ASCII letters. -/
theorem upperChar_asciiLowerChar (c : Char) : upperChar (asciiLowerChar c) = upperChar c := by
  by_cases hc : c.toNat < 128
  · obtain ⟨hupper, -, hascii⟩ := asciiLowerChar_of_ascii c hc
    rw [upperChar_of_ascii _ hascii, upperChar_of_ascii c hc, hupper]
  · rw [asciiLowerChar_of_not_ascii (Nat.le_of_not_lt hc)]

/-- Beyond ASCII nothing else has the same ASCII case. -/
theorem eq_of_asciiLowerChar_eq (hc : 128 ≤ c.toNat) (h : asciiLowerChar d = asciiLowerChar c) :
    d = c := by
  rw [asciiLowerChar_of_not_ascii hc] at h
  by_cases hd : d.toNat < 128
  · have hlower := (asciiLowerChar_of_ascii d hd).2.2
    rw [h] at hlower
    exact absurd hc (Nat.not_le_of_lt hlower)
  · rw [asciiLowerChar_of_not_ascii (Nat.le_of_not_lt hd)] at h
    exact h

theorem upper_eq_of_eqIgnoringAsciiCase (h : eqIgnoringAsciiCase text other = true) :
    upper text = upper other := by
  have hlower (s : String) : upper s = String.ofList ((s.toList.map asciiLowerChar).flatMap
      upperChar) := by
    rw [List.flatMap_map, upper]
    congr 1
    apply List.flatMap_congr
    intro c _
    exact (upperChar_asciiLowerChar c).symm
  rw [hlower text, hlower other, beq_iff_eq.1 h]

theorem map_asciiLowerChar_upperChar (h : 128 ≤ c.toNat → upperChar c = [c]) :
    (upperChar c).map asciiLowerChar = [asciiLowerChar c] := by
  by_cases hc : c.toNat < 128
  · rw [upperChar_of_ascii c hc, List.map_singleton, (asciiLowerChar_of_ascii c hc).2.1]
  · rw [h (Nat.le_of_not_lt hc), List.map_singleton]

/-- An upper case that begins with the character itself is that character. -/
theorem upperChar_eq_of_head? (hc : 128 ≤ c.toNat)
    (h : ((upperChar c).map asciiLowerChar).head? = some (asciiLowerChar c)) :
    upperChar c = [c] := by
  obtain ⟨d, rest, hupper⟩ := List.exists_cons_of_ne_nil (upperChar_ne_nil c)
  rw [hupper, List.map_cons, List.head?_cons, Option.some_inj] at h
  have hmem : c ∈ upperChar c := by
    rw [hupper, eq_of_asciiLowerChar_eq hc h]
    exact List.mem_cons_self
  exact upperChar_of_mem_upperChar hmem

theorem map_asciiLowerChar_upper_iff (chars : List Char) :
    (chars.flatMap upperChar).map asciiLowerChar = chars.map asciiLowerChar ↔
      ∀ c ∈ chars, 128 ≤ c.toNat → upperChar c = [c] := by
  induction chars with
  | nil => simp
  | cons c chars ih =>
      rw [List.flatMap_cons, List.map_append, List.map_cons, List.forall_mem_cons, ← ih]
      constructor
      · intro hsame
        have hself : 128 ≤ c.toNat → upperChar c = [c] := by
          intro hc
          apply upperChar_eq_of_head? hc
          have hhead := congrArg List.head? hsame
          rwa [List.head?_append_of_ne_nil _ (mt List.map_eq_nil_iff.1 (upperChar_ne_nil c)),
            List.head?_cons] at hhead
        rw [map_asciiLowerChar_upperChar hself] at hsame
        exact ⟨hself, (List.cons.inj hsame).2⟩
      · rintro ⟨hself, hrest⟩
        rw [map_asciiLowerChar_upperChar hself, hrest, List.singleton_append]

/-- A text is its upper case, up to the case of ASCII letters, when no other character has
another upper case. -/
theorem eqIgnoringAsciiCase_upper_iff :
    eqIgnoringAsciiCase (upper text) text = true ↔ CasedInAscii text := by
  rw [eqIgnoringAsciiCase, beq_iff_eq, upper, String.toList_ofList]
  exact map_asciiLowerChar_upper_iff text.toList

theorem eqIgnoringAsciiCase_comm (text other : String) :
    eqIgnoringAsciiCase text other = eqIgnoringAsciiCase other text :=
  BEq.comm

/-- A text stands for a name that is kept in upper case: it has the upper case of the name,
and needs no other letters than those of ASCII to be put in upper case. -/
def StandsFor (text name : String) : Prop :=
  upper text = upper name ∧ CasedInAscii text

instance : DecidableRel StandsFor := fun _ _ => inferInstanceAs (Decidable (_ ∧ _))

theorem eqIgnoringAsciiCase_upper_left_iff :
    eqIgnoringAsciiCase (upper other) text = true ↔ StandsFor text other := by
  constructor
  · intro h
    have hupper : upper text = upper other := by
      rw [← upper_eq_of_eqIgnoringAsciiCase h, upper_upper]
    refine ⟨hupper, eqIgnoringAsciiCase_upper_iff.1 ?_⟩
    rw [hupper]
    exact h
  · rintro ⟨hupper, hcased⟩
    rw [← hupper]
    exact eqIgnoringAsciiCase_upper_iff.2 hcased

/-- Texts in upper case have no ASCII letters in lower case, so nothing is left to fold. -/
theorem standsFor_upper_iff : StandsFor (upper text) other ↔ upper text = upper other := by
  have hcased : CasedInAscii (upper text) := by
    apply eqIgnoringAsciiCase_upper_iff.1
    rw [upper_upper]
    exact eqIgnoringAsciiCase_refl (upper text)
  rw [StandsFor, upper_upper]
  exact and_iff_left hcased

/-- Texts that stand for one name are told apart by no comparison that folds ASCII case. -/
theorem eqIgnoringAsciiCase_congr (hupper : upper text = upper other)
    (htext : CasedInAscii text) (hother : CasedInAscii other) (name : String) :
    eqIgnoringAsciiCase name text = eqIgnoringAsciiCase name other := by
  rw [← eqIgnoringAsciiCase_upper_iff, eqIgnoringAsciiCase, beq_iff_eq] at htext hother
  rw [eqIgnoringAsciiCase, eqIgnoringAsciiCase, ← htext, ← hother, hupper]

end LocalCloud.Text
