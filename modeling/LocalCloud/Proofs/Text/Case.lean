import LocalCloud.Text.Case
import Mathlib.Data.List.Basic
import Mathlib.Data.Nat.Bitwise

/-!
# Upper case is final

No character that an upper-case mapping yields is mapped any further, so a text in
upper case stays as it is.  The code points that are mapped and those that are
yielded are collected from the tables, and compared all at once as sets of bits.
-/

namespace LocalCloud.Text

section Bits

/-- The number with the given bits set. -/
def bitsOf (codes : List Nat) : Nat :=
  codes.foldr (fun code bits => 1 <<< code ||| bits) 0

theorem testBit_bitsOf {codes : List Nat} {code : Nat} (h : code ∈ codes) :
    (bitsOf codes).testBit code = true := by
  induction codes with
  | nil => cases h
  | cons first codes ih =>
      have hbits : bitsOf (first :: codes) = 1 <<< first ||| bitsOf codes := rfl
      rw [hbits, Nat.testBit_or]
      rcases List.mem_cons.1 h with rfl | h
      · simp
      · rw [ih h, Bool.or_true]

theorem not_mem_of_land_bitsOf {left right : List Nat} (h : bitsOf left &&& bitsOf right = 0)
    {code : Nat} (hleft : code ∈ left) : code ∉ right := by
  intro hright
  have hboth : (bitsOf left &&& bitsOf right).testBit code = true := by
    rw [Nat.testBit_and, testBit_bitsOf hleft, testBit_bitsOf hright, Bool.and_true]
  rw [h, Nat.zero_testBit] at hboth
  cases hboth

end Bits

namespace CaseRun

variable {run : CaseRun} {code image : Nat}

/-- The length of a run. -/
def count (run : CaseRun) : Nat := (run.last - run.first) / run.step + 1

/-- The code points on a run. -/
def arguments (run : CaseRun) : List Nat := List.range' run.first run.count run.step

/-- The images of the code points on a run. -/
def images (run : CaseRun) : List Nat := List.range' run.image run.count run.step

theorem mem_of_image (h : run.apply? code = some image) :
    code ∈ run.arguments ∧ image ∈ run.images := by
  unfold CaseRun.apply? at h
  split at h
  next hrun =>
    obtain ⟨hfirst, hlast, hstep⟩ := hrun
    obtain rfl := Option.some.inj h
    have hsteps : run.step * ((code - run.first) / run.step) = code - run.first :=
      Nat.mul_div_cancel' (Nat.dvd_of_mod_eq_zero hstep)
    have hinside : (code - run.first) / run.step < run.count :=
      Nat.lt_succ_of_le (Nat.div_le_div_right (Nat.sub_le_sub_right hlast run.first))
    constructor
    · apply List.mem_range'.2
      exact ⟨_, hinside, by rw [hsteps, Nat.add_sub_cancel' hfirst]⟩
    · apply List.mem_range'.2
      exact ⟨_, hinside, by rw [hsteps]⟩
  next => cases h

end CaseRun

theorem mem_of_lookupRun {runs : List CaseRun} {code image : Nat}
    (h : lookupRun runs code = some image) :
    code ∈ runs.flatMap CaseRun.arguments ∧ image ∈ runs.flatMap CaseRun.images := by
  induction runs with
  | nil => cases h
  | cons run runs ih =>
      rw [lookupRun] at h
      split at h
      · cases h
      · rw [List.flatMap_cons, List.flatMap_cons]
        split at h
        next found hfound =>
          obtain rfl := Option.some.inj h
          obtain ⟨hcode, himage⟩ := CaseRun.mem_of_image hfound
          exact ⟨List.mem_append_left _ hcode, List.mem_append_left _ himage⟩
        next =>
          obtain ⟨hcode, himage⟩ := ih h
          exact ⟨List.mem_append_right _ hcode, List.mem_append_right _ himage⟩

section Mapping

variable {runs : List CaseRun} {expansions : List (Nat × List Nat)} {c d : Char}

/-- What two tables make of a character. -/
def mapChar (runs : List CaseRun) (expansions : List (Nat × List Nat)) (c : Char) : List Char :=
  match lookupRun runs c.toNat with
  | some code => [Char.ofNat code]
  | none =>
    if c.toNat < 0x80 then [c]
    else match expansions.lookup c.toNat with
      | some codes => ofCodePoints codes
      | none => [c]

theorem toNat_ofNat_of_isValidChar {code : Nat} (h : code.isValidChar) :
    (Char.ofNat code).toNat = code := by
  rw [Char.ofNat, dif_pos h]
  rfl

theorem upperChar_eq (c : Char) : upperChar c = mapChar upperRuns upperExpansions c := rfl

/-- The code points that two tables map. -/
def mappedCodes (runs : List CaseRun) (expansions : List (Nat × List Nat)) : List Nat :=
  runs.flatMap CaseRun.arguments ++ expansions.map (·.1)

/-- The code points that two tables yield. -/
def imageCodes (runs : List CaseRun) (expansions : List (Nat × List Nat)) : List Nat :=
  runs.flatMap CaseRun.images ++ expansions.flatMap (·.2)

theorem mapChar_of_not_mem (h : c.toNat ∉ mappedCodes runs expansions) :
    mapChar runs expansions c = [c] := by
  rw [mappedCodes, List.mem_append, not_or] at h
  obtain ⟨hruns, hexpansions⟩ := h
  have hrun : lookupRun runs c.toNat = none := by
    by_contra hsome
    obtain ⟨code, hcode⟩ := Option.ne_none_iff_exists'.1 hsome
    exact hruns (mem_of_lookupRun hcode).1
  have hexpansion : expansions.lookup c.toNat = none := by
    by_contra hsome
    obtain ⟨codes, hcodes⟩ := Option.ne_none_iff_exists'.1 hsome
    obtain ⟨before, after, hsplit, -⟩ := List.lookup_eq_some_iff.1 hcodes
    apply hexpansions
    rw [hsplit, List.map_append, List.map_cons]
    exact List.mem_append_right _ List.mem_cons_self
  rw [mapChar, hrun, hexpansion]
  dsimp only
  split <;> rfl

/-- A character is kept, or its image is read off the tables. -/
theorem mapChar_cases (runs : List CaseRun) (expansions : List (Nat × List Nat)) (c : Char) :
    mapChar runs expansions c = [c] ∨
      ∃ codes, mapChar runs expansions c = ofCodePoints codes ∧
        ∀ code ∈ codes, code ∈ imageCodes runs expansions := by
  unfold mapChar
  split
  next code hcode =>
    right
    refine ⟨[code], rfl, ?_⟩
    rw [List.forall_mem_singleton]
    exact List.mem_append_left _ (mem_of_lookupRun hcode).2
  next =>
    split
    · exact .inl rfl
    · split
      next codes hcodes =>
        right
        obtain ⟨before, after, hsplit, -⟩ := List.lookup_eq_some_iff.1 hcodes
        refine ⟨codes, rfl, ?_⟩
        intro code hcode
        rw [imageCodes, hsplit, List.flatMap_append, List.flatMap_cons]
        exact List.mem_append_right _ (List.mem_append_right _ (List.mem_append_left _ hcode))
      next => exact .inl rfl

/-- What is in ASCII but no letter is the image of itself only. -/
theorem eq_of_mem_mapChar
    (hchecked : ∀ code ∈ imageCodes runs expansions, code.isValidChar ∧
      (code < 128 → (Char.ofNat code).isAlpha = true))
    (hascii : d.toNat < 128) (hletter : d.isAlpha = false) (h : d ∈ mapChar runs expansions c) :
    c = d := by
  rcases mapChar_cases runs expansions c with hself | ⟨codes, hcodes, himages⟩
  · rw [hself, List.mem_singleton] at h
    exact h.symm
  · rw [hcodes, ofCodePoints] at h
    obtain ⟨code, hmem, rfl⟩ := List.mem_map.1 h
    obtain ⟨hvalid, halpha⟩ := hchecked code (himages code hmem)
    rw [toNat_ofNat_of_isValidChar hvalid] at hascii
    exact absurd (halpha hascii) (Bool.eq_false_iff.1 hletter)

theorem mapChar_ne_nil (hfilled : ∀ entry ∈ expansions, entry.2 ≠ []) (c : Char) :
    mapChar runs expansions c ≠ [] := by
  unfold mapChar
  split
  next => exact List.cons_ne_nil _ _
  next =>
    split
    · exact List.cons_ne_nil _ _
    · split
      next codes hcodes =>
        obtain ⟨before, after, hsplit, -⟩ := List.lookup_eq_some_iff.1 hcodes
        have hentry : (c.toNat, codes) ∈ expansions := by simp [hsplit]
        exact mt List.map_eq_nil_iff.1 (hfilled _ hentry)
      next => exact List.cons_ne_nil _ _

end Mapping

section Characters

variable {c d : Char}

theorem land_bitsOf_imageCodes :
    bitsOf (imageCodes upperRuns upperExpansions) &&&
      bitsOf (mappedCodes upperRuns upperExpansions) = 0 := by
  decide +kernel

/-- The tables yield characters, and in ASCII only letters. -/
theorem checked_imageCodes :
    ∀ code ∈ imageCodes upperRuns upperExpansions ++ imageCodes lowerRuns lowerExpansions,
      code.isValidChar ∧ (code < 128 → (Char.ofNat code).isAlpha = true) := by
  decide +kernel

theorem toNat_ofNat_of_mem_imageCodes (code : Nat)
    (h : code ∈ imageCodes upperRuns upperExpansions) : (Char.ofNat code).toNat = code :=
  toNat_ofNat_of_isValidChar (checked_imageCodes code (List.mem_append_left _ h)).1

theorem upperChar_of_mem_upperChar (h : d ∈ upperChar c) : upperChar d = [d] := by
  rw [upperChar_eq] at h ⊢
  rcases mapChar_cases upperRuns upperExpansions c with hself | ⟨codes, hcodes, himages⟩
  · rw [hself, List.mem_singleton] at h
    rw [h, hself]
  · rw [hcodes, ofCodePoints] at h
    obtain ⟨code, hcode, rfl⟩ := List.mem_map.1 h
    apply mapChar_of_not_mem
    rw [toNat_ofNat_of_mem_imageCodes code (himages code hcode)]
    exact not_mem_of_land_bitsOf land_bitsOf_imageCodes (himages code hcode)

/-- What is in ASCII but no letter is the upper case of nothing else. -/
theorem eq_of_mem_upperChar (hascii : d.toNat < 128) (hletter : d.isAlpha = false)
    (h : d ∈ upperChar c) : c = d :=
  eq_of_mem_mapChar (fun code hcode => checked_imageCodes code (List.mem_append_left _ hcode))
    hascii hletter h

/-- Nor is it the lower case of anything else. -/
theorem eq_of_mem_lowerChar (hascii : d.toNat < 128) (hletter : d.isAlpha = false)
    (h : d ∈ lowerChar c) : c = d :=
  eq_of_mem_mapChar (fun code hcode => checked_imageCodes code (List.mem_append_right _ hcode))
    hascii hletter h

theorem upperChar_ne_nil (c : Char) : upperChar c ≠ [] := by
  have hfilled : ∀ entry ∈ upperExpansions, entry.2 ≠ [] := by decide
  exact mapChar_ne_nil hfilled c

theorem lowerChar_ne_nil (c : Char) : lowerChar c ≠ [] := by
  have hfilled : ∀ entry ∈ lowerExpansions, entry.2 ≠ [] := by decide
  exact mapChar_ne_nil hfilled c

end Characters

section Ascii

theorem forall_ascii {motive : Char → Prop} (h : ∀ n : Fin 128, motive (Char.ofNat n)) :
    ∀ c : Char, c.toNat < 128 → motive c := by
  intro c hc
  have hcode := h ⟨c.toNat, hc⟩
  rw [Char.ofNat_toNat] at hcode
  exact hcode

/-- In ASCII the mappings are those of the twenty-six letters. -/
theorem mappings_of_ascii : ∀ c : Char, c.toNat < 128 →
    upperChar c = [c.toUpper] ∧ lowerChar c = [c.toLower] ∧ isUppercase c = c.isUpper := by
  apply forall_ascii
  decide +kernel

theorem upperChar_of_ascii (c : Char) (h : c.toNat < 128) : upperChar c = [c.toUpper] :=
  (mappings_of_ascii c h).1

theorem lowerChar_of_ascii (c : Char) (h : c.toNat < 128) : lowerChar c = [c.toLower] :=
  (mappings_of_ascii c h).2.1

theorem isUppercase_of_ascii (c : Char) (h : c.toNat < 128) : isUppercase c = c.isUpper :=
  (mappings_of_ascii c h).2.2

end Ascii

section Texts

/-- A text in upper case is its own upper case. -/
theorem upper_upper (text : String) : upper (upper text) = upper text := by
  have hfixed : ∀ chars : List Char, (∀ c ∈ chars, upperChar c = [c]) →
      chars.flatMap upperChar = chars := by
    intro chars hchars
    rw [List.flatMap_congr hchars, List.flatMap_singleton']
  have hupper : (upper text).toList.flatMap upperChar = (upper text).toList := by
    apply hfixed
    intro d hd
    rw [upper, String.toList_ofList, List.mem_flatMap] at hd
    obtain ⟨c, -, hd⟩ := hd
    exact upperChar_of_mem_upperChar hd
  rw [upper, hupper, String.ofList_toList]

theorem upper_append (text other : String) : upper (text ++ other) = upper text ++ upper other := by
  rw [upper, String.toList_append, List.flatMap_append, String.ofList_append]
  rfl

theorem dash_mem_of_mem_upper {text : String} (h : '-' ∈ (upper text).toList) :
    '-' ∈ text.toList := by
  rw [upper, String.toList_ofList, List.mem_flatMap] at h
  obtain ⟨c, hc, hdash⟩ := h
  rwa [← eq_of_mem_upperChar (by decide) (by decide) hdash]

theorem toList_upper_ne_nil {text : String} (h : text.toList ≠ []) : (upper text).toList ≠ [] := by
  obtain ⟨c, chars, hchars⟩ := List.exists_cons_of_ne_nil h
  rw [upper, String.toList_ofList, hchars, List.flatMap_cons]
  exact List.append_ne_nil_of_left_ne_nil (upperChar_ne_nil c) _

/-- A text begins with a slash in upper case if it does so as it stands. -/
theorem head?_upper_eq_slash_iff {text : String} :
    (upper text).toList.head? = some '/' ↔ text.toList.head? = some '/' := by
  have hslash : upperChar '/' = ['/'] := upperChar_of_ascii '/' (by decide)
  rw [upper, String.toList_ofList]
  cases text.toList with
  | nil => exact Iff.rfl
  | cons c rest =>
      rw [List.flatMap_cons, List.head?_append_of_ne_nil _ (upperChar_ne_nil c), List.head?_cons,
        Option.some_inj]
      constructor
      · intro h
        exact eq_of_mem_upperChar (by decide) (by decide) (List.mem_of_mem_head? h)
      · rintro rfl
        rw [hslash]
        rfl

theorem head?_lower_eq_slash_iff {text : String} :
    (lower text).toList.head? = some '/' ↔ text.toList.head? = some '/' := by
  have hslash : lowerChar '/' = ['/'] := lowerChar_of_ascii '/' (by decide)
  rw [lower, String.toList_ofList]
  cases text.toList with
  | nil => exact Iff.rfl
  | cons c rest =>
      rw [lowerFrom, List.head?_cons, Option.some_inj]
      split
      next hsigma =>
        -- The sigma at the end of a word is as little a slash as any other one.
        obtain rfl := beq_iff_eq.1 hsigma
        split <;> simp
      next =>
        rw [List.head?_append_of_ne_nil _ (lowerChar_ne_nil c)]
        constructor
        · intro h
          exact eq_of_mem_lowerChar (by decide) (by decide) (List.mem_of_mem_head? h)
        · rintro rfl
          rw [hslash]
          rfl

end Texts

end LocalCloud.Text
