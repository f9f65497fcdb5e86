import LocalCloud.Dict
import LocalCloud.Proofs.Text.Case
import LocalCloud.Proofs.Text.Frame

/-!
# Which spellings are converted back

Either conversion works on the core of a name.  In ASCII the core that `camelCase`
leaves has no underscores, and that of `snake_case` no capitals and a small letter
behind every underscore; these are exactly the cores that come back from the other
spelling.
-/

namespace LocalCloud.Text

/-- Every character of the name is an ASCII one. -/
def IsAscii (name : String) : Prop := ∀ c ∈ name.toList, c.toNat < 128

/-- Without capitals, and inside with a small letter behind every underscore. -/
structure IsSnakeCase (name : String) : Prop where
  capital : ∀ c ∈ name.toList, c.isUpper = false
  word : ∀ before after, LiesBetween name before after → after.head?.any Char.isLower = true

/-- Without underscores inside, and with no capital at the beginning. -/
structure IsCamelCase (name : String) : Prop where
  underscore : ∀ before after, ¬ LiesBetween name before after
  first : ∀ c, name.toList.find? (· != '_') = some c → c.isUpper = false

section Cores

variable {c : Char} {chars core rest : List Char}

theorem camelCore_cons (hc : c ≠ '_') : camelCore (c :: rest) = c :: camelCore rest := by
  rw [camelCore]
  exact hc

theorem camelWord_cons (hc : c ≠ '_') :
    camelCore.camelWord (c :: rest) = upperChar c ++ camelCore rest := by
  rw [camelCore.camelWord]
  exact hc

/-- No underscore of the core is left. -/
theorem underscore_not_mem_camel (chars : List Char) :
    '_' ∉ camelCore chars ∧ '_' ∉ camelCore.camelWord chars := by
  induction chars with
  | nil => exact ⟨List.not_mem_nil, List.not_mem_nil⟩
  | cons c rest ih =>
      obtain ⟨hcore, hword⟩ := ih
      by_cases hc : c = '_'
      · subst hc
        exact ⟨hword, hword⟩
      · rw [camelCore_cons hc, camelWord_cons hc, List.mem_cons, List.mem_append, not_or, not_or]
        exact ⟨⟨Ne.symm hc, hcore⟩, mt (eq_of_mem_upperChar (by decide) (by decide)) hc, hcore⟩

theorem underscore_not_mem_camelCore (core : List Char) : '_' ∉ camelCore core :=
  (underscore_not_mem_camel core).1

theorem camelCore_of_not_mem (h : '_' ∉ core) : camelCore core = core := by
  induction core with
  | nil => rfl
  | cons c rest ih =>
      have hc : c ≠ '_' := Ne.symm (List.ne_of_not_mem_cons h)
      rw [camelCore_cons hc, ih (List.not_mem_of_not_mem_cons h)]

theorem camelCore_eq_nil_iff (h : IsCore core) : camelCore core = [] ↔ core = [] := by
  cases core with
  | nil => exact iff_of_true rfl rfl
  | cons c rest =>
      rw [camelCore_cons h.ne_of_cons]
      exact iff_of_false (List.cons_ne_nil _ _) (List.cons_ne_nil _ _)

/-- The form of a character in `snake_case`, without the underscore that may go before. -/
def snakeForm (c : Char) : List Char := if isUppercase c then lowerChar c else [c]

theorem snakeCore_cons :
    snakeCore (c :: rest) = snakeForm c ++ rest.flatMap snakeCore.snakeChar := rfl

theorem snakeForm_ne_nil (c : Char) : snakeForm c ≠ [] := by
  unfold snakeForm
  split
  · exact lowerChar_ne_nil c
  · exact List.cons_ne_nil _ _

theorem underscore_not_mem_snakeForm (hc : c ≠ '_') : '_' ∉ snakeForm c := by
  unfold snakeForm
  split
  · exact mt (eq_of_mem_lowerChar (by decide) (by decide)) hc
  · rw [List.mem_singleton]
    exact Ne.symm hc

theorem exists_snakeChar_eq (c : Char) :
    ∃ start, snakeCore.snakeChar c = start ++ snakeForm c := by
  unfold snakeCore.snakeChar snakeForm
  split
  · exact ⟨['_'], rfl⟩
  · exact ⟨[], rfl⟩

theorem exists_snakeCore_concat (rest : List Char) (c : Char) :
    ∃ start, snakeCore (rest ++ [c]) = start ++ snakeForm c := by
  cases rest with
  | nil => exact ⟨[], by simp [snakeCore_cons]⟩
  | cons d rest =>
      obtain ⟨start, hstart⟩ := exists_snakeChar_eq c
      refine ⟨snakeForm d ++ rest.flatMap snakeCore.snakeChar ++ start, ?_⟩
      rw [List.cons_append, snakeCore_cons, List.flatMap_append, List.flatMap_singleton, hstart]
      simp only [List.append_assoc]

theorem isCore_snakeCore (h : IsCore core) : IsCore (snakeCore core) := by
  constructor
  case head =>
    cases core with
    | nil => exact nofun
    | cons c rest =>
        rw [snakeCore_cons, List.head?_append_of_ne_nil _ (snakeForm_ne_nil c)]
        exact (IsCore.of_not_mem (underscore_not_mem_snakeForm h.ne_of_cons)).head
  case last =>
    rcases List.eq_nil_or_concat core with rfl | ⟨rest, c, rfl⟩
    · exact nofun
    · rw [List.concat_eq_append] at h ⊢
      obtain ⟨start, hstart⟩ := exists_snakeCore_concat rest c
      have hc : c ≠ '_' := by
        rintro rfl
        exact h.last List.getLast?_concat
      rw [hstart, List.getLast?_append_of_ne_nil _ (snakeForm_ne_nil c)]
      exact (IsCore.of_not_mem (underscore_not_mem_snakeForm hc)).last

theorem snakeCore_eq_nil_iff (core : List Char) : snakeCore core = [] ↔ core = [] := by
  cases core with
  | nil => exact iff_of_true rfl rfl
  | cons c rest =>
      rw [snakeCore_cons, List.append_eq_nil_iff]
      exact iff_of_false (fun h => snakeForm_ne_nil c h.1) (List.cons_ne_nil _ _)

end Cores

namespace Frames

variable {name : String} {front back : Nat} {core : List Char} (h : Frames name front core back)
include h

theorem toCamelCase : Frames (toCamelCase name) front (camelCore core) back :=
  h.convertCore (.of_not_mem (underscore_not_mem_camelCore core)) (camelCore_eq_nil_iff h.toIsCore)

theorem toSnakeCase : Frames (toSnakeCase name) front (snakeCore core) back :=
  h.convertCore (isCore_snakeCore h.toIsCore) (snakeCore_eq_nil_iff core)

end Frames

/-- A small letter stands behind every underscore. -/
def SmallFollows (chars : List Char) : Prop :=
  ∀ before after, chars = before ++ '_' :: after → after.head?.any Char.isLower = true

section Spellings

variable {c : Char} {core rest : List Char}

theorem smallFollows_nil : SmallFollows [] := by
  intro before after hsplit
  cases before <;> cases hsplit

theorem smallFollows_cons :
    SmallFollows (c :: rest) ↔
      (c = '_' → rest.head?.any Char.isLower = true) ∧ SmallFollows rest := by
  constructor
  · intro h
    constructor
    · rintro rfl
      exact h [] rest rfl
    · intro before after hsplit
      exact h (c :: before) after (congrArg (c :: ·) hsplit)
  · rintro ⟨hfirst, hrest⟩ before after hsplit
    cases before with
    | nil =>
        obtain ⟨hc, rfl⟩ := List.cons.inj hsplit
        exact hfirst hc
    | cons d before => exact hrest before after (List.cons.inj hsplit).2

theorem smallFollows_cons_of_ne (hc : c ≠ '_') :
    SmallFollows (c :: rest) ↔ SmallFollows rest := by
  rw [smallFollows_cons]
  exact and_iff_right fun h => absurd h hc

namespace Frames

variable {name : String} {front back : Nat} (h : Frames name front core back)
include h

theorem isSnakeCase_iff :
    IsSnakeCase name ↔ (∀ c ∈ core, c.isUpper = false) ∧ SmallFollows core := by
  have hhead (tail : List Char) :
      (tail ++ List.replicate back '_').head?.any Char.isLower = tail.head?.any Char.isLower := by
    cases tail with
    | nil => cases back <;> rfl
    | cons c tail => rfl
  constructor
  · rintro ⟨hcapital, hword⟩
    constructor
    · intro c hc
      exact hcapital c (h.mem_toList_iff.2 (.inr (.inl hc)))
    · intro before after hsplit
      rw [← hhead]
      exact hword _ _ (h.liesBetween_iff.2 ⟨before, after, hsplit, rfl, rfl⟩)
  · rintro ⟨hcapital, hsmall⟩
    constructor
    · intro c hc
      rcases h.mem_toList_iff.1 hc with hfront | hcore | hback
      · rw [List.eq_of_mem_replicate hfront]
        rfl
      · exact hcapital c hcore
      · rw [List.eq_of_mem_replicate hback]
        rfl
    · intro before after hbetween
      obtain ⟨head, tail, hsplit, -, rfl⟩ := h.liesBetween_iff.1 hbetween
      rw [hhead]
      exact hsmall head tail hsplit

theorem isCamelCase_iff :
    IsCamelCase name ↔ '_' ∉ core ∧ ∀ c, core.head? = some c → c.isUpper = false := by
  constructor
  · rintro ⟨hunderscore, hfirst⟩
    rw [h.find?_eq] at hfirst
    refine ⟨?_, hfirst⟩
    intro hmem
    obtain ⟨before, after, hsplit⟩ := List.append_of_mem hmem
    exact hunderscore _ _ (h.liesBetween_iff.2 ⟨before, after, hsplit, rfl, rfl⟩)
  · rintro ⟨hunderscore, hfirst⟩
    constructor
    · intro before after hbetween
      obtain ⟨head, tail, rfl, -, -⟩ := h.liesBetween_iff.1 hbetween
      exact hunderscore (List.mem_append_right _ List.mem_cons_self)
    · rw [h.find?_eq]
      exact hfirst

end Frames

end Spellings

section Ascii

variable {c d : Char} {core rest : List Char}

/-- The two cases of an ASCII letter. -/
theorem letter_of_ascii : ∀ c : Char, c.toNat < 128 →
    (c.toLower.toNat < 128 ∧ c.toLower.isUpper = false) ∧ c.toUpper.toNat < 128 ∧
      (c.isUpper = false → c.toLower = c) ∧
      (c.isUpper = true → c.toLower.isLower = true ∧ c.toLower.toUpper = c) ∧
      (c.isLower = true → c.toUpper.isUpper = true ∧ c.toUpper.toLower = c) := by
  apply forall_ascii
  decide

theorem isUpper_toLower (c : Char) (hc : c.toNat < 128) :
    c.toLower.toNat < 128 ∧ c.toLower.isUpper = false :=
  (letter_of_ascii c hc).1

theorem toNat_toUpper_lt (c : Char) (hc : c.toNat < 128) : c.toUpper.toNat < 128 :=
  (letter_of_ascii c hc).2.1

theorem toLower_of_not_isUpper (c : Char) (hc : c.toNat < 128) (h : c.isUpper = false) :
    c.toLower = c := by
  obtain ⟨-, -, hkept, -⟩ := letter_of_ascii c hc
  exact hkept h

theorem toLower_of_isUpper (c : Char) (hc : c.toNat < 128) (h : c.isUpper = true) :
    c.toLower.isLower = true ∧ upperChar c.toLower = [c] := by
  obtain ⟨-, -, -, hcapital, -⟩ := letter_of_ascii c hc
  obtain ⟨hlower, hback⟩ := hcapital h
  apply And.intro hlower
  rw [upperChar_of_ascii _ (isUpper_toLower c hc).1, hback]

theorem snakeChar_of_isUpper (hc : c.toNat < 128) (h : c.isUpper = true) :
    snakeCore.snakeChar c = ['_', c.toLower] := by
  have hupper : isUppercase c = true := by rw [isUppercase_of_ascii c hc, h]
  rw [snakeCore.snakeChar, if_pos hupper, lowerChar_of_ascii c hc]

theorem toUpper_of_isLower (c : Char) (hc : c.toNat < 128) (h : c.isLower = true) :
    upperChar c = [c.toUpper] ∧ snakeCore.snakeChar c.toUpper = ['_', c] := by
  obtain ⟨-, -, -, -, hsmall⟩ := letter_of_ascii c hc
  obtain ⟨hupper, hback⟩ := hsmall h
  apply And.intro (upperChar_of_ascii c hc)
  rw [snakeChar_of_isUpper (toNat_toUpper_lt c hc) hupper, hback]

theorem ne_underscore_of_isLower (h : c.isLower = true) : c ≠ '_' := by
  rintro rfl
  cases h

theorem snakeChar_of_not_isUpper (hc : c.toNat < 128) (h : c.isUpper = false) :
    snakeCore.snakeChar c = [c] := by
  have hupper : isUppercase c = false := by rw [isUppercase_of_ascii c hc, h]
  rw [snakeCore.snakeChar, hupper]
  rfl

theorem snakeForm_of_ascii (hc : c.toNat < 128) : snakeForm c = [c.toLower] := by
  unfold snakeForm
  rw [isUppercase_of_ascii c hc, lowerChar_of_ascii c hc]
  split
  next => rfl
  next h => rw [toLower_of_not_isUpper c hc (Bool.eq_false_of_not_eq_true h)]

theorem isUpper_of_mem_snakeChar (hc : c.toNat < 128) (h : d ∈ snakeCore.snakeChar c) :
    d.toNat < 128 ∧ d.isUpper = false := by
  cases hupper : c.isUpper with
  | true =>
      rw [snakeChar_of_isUpper hc hupper, List.mem_pair] at h
      rcases h with rfl | rfl
      · decide
      · exact isUpper_toLower c hc
  | false =>
      rw [snakeChar_of_not_isUpper hc hupper, List.mem_singleton] at h
      rw [h]
      exact ⟨hc, hupper⟩

/-- The `snake_case` form of a core stays in ASCII and has no capitals. -/
theorem isUpper_of_mem_snakeCore (hascii : ∀ c ∈ core, c.toNat < 128) :
    ∀ d ∈ snakeCore core, d.toNat < 128 ∧ d.isUpper = false := by
  intro d hd
  cases core with
  | nil => cases hd
  | cons c rest =>
      obtain ⟨hc, hrest⟩ := List.forall_mem_cons.1 hascii
      rcases List.mem_append.1 hd with hd | hd
      · obtain ⟨start, hstart⟩ := exists_snakeChar_eq c
        exact isUpper_of_mem_snakeChar hc (hstart ▸ List.mem_append_right start hd)
      · obtain ⟨e, he, hd⟩ := List.mem_flatMap.1 hd
        exact isUpper_of_mem_snakeChar (hrest e he) hd

theorem snakeCore_of_forall (hascii : ∀ c ∈ core, c.toNat < 128)
    (hcapital : ∀ c ∈ core, c.isUpper = false) : snakeCore core = core := by
  cases core with
  | nil => rfl
  | cons c rest =>
      obtain ⟨hc, hrest⟩ := List.forall_mem_cons.1 hascii
      obtain ⟨hfirst, hothers⟩ := List.forall_mem_cons.1 hcapital
      have hkept : rest.flatMap snakeCore.snakeChar = rest.flatMap fun d => [d] := by
        apply List.flatMap_congr
        intro d hd
        exact snakeChar_of_not_isUpper (hrest d hd) (hothers d hd)
      rw [snakeCore_cons, snakeForm_of_ascii hc, toLower_of_not_isUpper c hc hfirst, hkept,
        List.flatMap_singleton', List.singleton_append]

/-- The `snake_case` form of a core without underscores has small letters behind those that
are put in. -/
theorem smallFollows_flatMap_snakeChar (hascii : ∀ c ∈ rest, c.toNat < 128) (h : '_' ∉ rest) :
    SmallFollows (rest.flatMap snakeCore.snakeChar) := by
  induction rest with
  | nil => exact smallFollows_nil
  | cons c rest ih =>
      obtain ⟨hc, hrest⟩ := List.forall_mem_cons.1 hascii
      have hothers := ih hrest (List.not_mem_of_not_mem_cons h)
      rw [List.flatMap_cons]
      cases hupper : c.isUpper with
      | true =>
          obtain ⟨hlower, -⟩ := toLower_of_isUpper c hc hupper
          rw [snakeChar_of_isUpper hc hupper]
          apply smallFollows_cons.2
          constructor
          · intro _
            exact hlower
          · exact (smallFollows_cons_of_ne (ne_underscore_of_isLower hlower)).2 hothers
      | false =>
          rw [snakeChar_of_not_isUpper hc hupper]
          exact (smallFollows_cons_of_ne (Ne.symm (List.ne_of_not_mem_cons h))).2 hothers

theorem smallFollows_snakeCore (hascii : ∀ c ∈ core, c.toNat < 128) (h : '_' ∉ core) :
    SmallFollows (snakeCore core) := by
  cases core with
  | nil => exact smallFollows_nil
  | cons c rest =>
      obtain ⟨hc, hrest⟩ := List.forall_mem_cons.1 hascii
      have hform := underscore_not_mem_snakeForm (Ne.symm (List.ne_of_not_mem_cons h))
      rw [snakeForm_of_ascii hc, List.mem_singleton] at hform
      rw [snakeCore_cons, snakeForm_of_ascii hc]
      apply (smallFollows_cons_of_ne (Ne.symm hform)).2
      exact smallFollows_flatMap_snakeChar hrest (List.not_mem_of_not_mem_cons h)

theorem toNat_camel_lt (hascii : ∀ c ∈ core, c.toNat < 128) :
    (∀ c ∈ camelCore core, c.toNat < 128) ∧ ∀ c ∈ camelCore.camelWord core, c.toNat < 128 := by
  induction core with
  | nil => exact ⟨nofun, nofun⟩
  | cons c rest ih =>
      obtain ⟨hc, hrest⟩ := List.forall_mem_cons.1 hascii
      obtain ⟨hcore, hword⟩ := ih hrest
      by_cases hunderscore : c = '_'
      · subst hunderscore
        exact ⟨hword, hword⟩
      · rw [camelCore_cons hunderscore, camelWord_cons hunderscore, upperChar_of_ascii c hc]
        exact ⟨List.forall_mem_cons.2 ⟨hc, hcore⟩,
          List.forall_mem_cons.2 ⟨toNat_toUpper_lt c hc, hcore⟩⟩

/-- What `camelCase` takes from a core that has small letters behind its underscores is put
in again. -/
theorem flatMap_snakeChar_camel (hascii : ∀ c ∈ rest, c.toNat < 128)
    (hcapital : ∀ c ∈ rest, c.isUpper = false) (hsmall : SmallFollows rest) :
    (camelCore rest).flatMap snakeCore.snakeChar = rest ∧
      (rest.head?.any Char.isLower = true →
        (camelCore.camelWord rest).flatMap snakeCore.snakeChar = '_' :: rest) := by
  induction rest with
  | nil => exact ⟨rfl, nofun⟩
  | cons c rest ih =>
      obtain ⟨hc, hrest⟩ := List.forall_mem_cons.1 hascii
      obtain ⟨hfirst, hothers⟩ := List.forall_mem_cons.1 hcapital
      obtain ⟨hnext, hsmall⟩ := smallFollows_cons.1 hsmall
      obtain ⟨hcore, hword⟩ := ih hrest hothers hsmall
      constructor
      · by_cases hunderscore : c = '_'
        · rw [hunderscore, camelCore]
          exact hword (hnext hunderscore)
        · rw [camelCore_cons hunderscore, List.flatMap_cons, snakeChar_of_not_isUpper hc hfirst,
            hcore, List.singleton_append]
      · intro hlower
        obtain ⟨hupper, hback⟩ := toUpper_of_isLower c hc hlower
        rw [camelWord_cons (ne_underscore_of_isLower hlower), hupper, List.singleton_append,
          List.flatMap_cons, hback, hcore, List.cons_append, List.singleton_append]

theorem camelCore_flatMap_snakeChar (hascii : ∀ c ∈ rest, c.toNat < 128) (h : '_' ∉ rest) :
    camelCore (rest.flatMap snakeCore.snakeChar) = rest := by
  induction rest with
  | nil => rfl
  | cons c rest ih =>
      obtain ⟨hc, hrest⟩ := List.forall_mem_cons.1 hascii
      have hothers := ih hrest (List.not_mem_of_not_mem_cons h)
      rw [List.flatMap_cons]
      cases hupper : c.isUpper with
      | true =>
          obtain ⟨hlower, hback⟩ := toLower_of_isUpper c hc hupper
          rw [snakeChar_of_isUpper hc hupper, List.cons_append, List.singleton_append, camelCore,
            camelWord_cons (ne_underscore_of_isLower hlower), hback, hothers,
            List.singleton_append]
      | false =>
          rw [snakeChar_of_not_isUpper hc hupper, List.singleton_append,
            camelCore_cons (Ne.symm (List.ne_of_not_mem_cons h)), hothers]

theorem snakeCore_camelCore_iff (hcore : IsCore core) (hascii : ∀ c ∈ core, c.toNat < 128) :
    snakeCore (camelCore core) = core ↔
      (∀ c ∈ core, c.isUpper = false) ∧ SmallFollows core := by
  constructor
  · intro hback
    have hcamel := (toNat_camel_lt hascii).1
    rw [← hback]
    exact ⟨fun d hd => (isUpper_of_mem_snakeCore hcamel d hd).2,
      smallFollows_snakeCore hcamel (underscore_not_mem_camelCore core)⟩
  · rintro ⟨hcapital, hsmall⟩
    cases core with
    | nil => rfl
    | cons c rest =>
        obtain ⟨hc, hrest⟩ := List.forall_mem_cons.1 hascii
        obtain ⟨hfirst, hothers⟩ := List.forall_mem_cons.1 hcapital
        obtain ⟨hback, -⟩ := flatMap_snakeChar_camel hrest hothers (smallFollows_cons.1 hsmall).2
        rw [camelCore_cons hcore.ne_of_cons, snakeCore_cons, snakeForm_of_ascii hc,
          toLower_of_not_isUpper c hc hfirst, hback, List.singleton_append]

theorem camelCore_snakeCore_iff (hcore : IsCore core) (hascii : ∀ c ∈ core, c.toNat < 128) :
    camelCore (snakeCore core) = core ↔
      '_' ∉ core ∧ ∀ c, core.head? = some c → c.isUpper = false := by
  cases core with
  | nil => exact iff_of_true rfl ⟨List.not_mem_nil, nofun⟩
  | cons c rest =>
      obtain ⟨hc, hrest⟩ := List.forall_mem_cons.1 hascii
      have hsnake : snakeCore (c :: rest) = c.toLower :: rest.flatMap snakeCore.snakeChar := by
        rw [snakeCore_cons, snakeForm_of_ascii hc, List.singleton_append]
      have hlower : c.toLower ≠ '_' := (hsnake ▸ isCore_snakeCore hcore).ne_of_cons
      have hcamel : camelCore (snakeCore (c :: rest)) =
          c.toLower :: camelCore (rest.flatMap snakeCore.snakeChar) := by
        rw [hsnake, camelCore_cons hlower]
      constructor
      · intro hback
        constructor
        · rw [← hback]
          exact underscore_not_mem_camelCore _
        · rintro d ⟨⟩
          rw [hcamel] at hback
          rw [← (List.cons.inj hback).1]
          exact (isUpper_toLower c hc).2
      · rintro ⟨hunderscore, hfirst⟩
        rw [hcamel, toLower_of_not_isUpper c hc (hfirst c rfl),
          camelCore_flatMap_snakeChar hrest (List.not_mem_of_not_mem_cons hunderscore)]

end Ascii

/-- What the two conversions do to a name and to each other. -/
structure ConvertsBack : Prop where
  snake : ∀ name, IsAscii name → (toSnakeCase (toCamelCase name) = name ↔ IsSnakeCase name)
  camel : ∀ name, IsAscii name → (toCamelCase (toSnakeCase name) = name ↔ IsCamelCase name)
  /-- Whatever the characters of the core are. -/
  edges : ∀ name, ∀ convert ∈ [toCamelCase, toSnakeCase],
    leadingUnderscores (convert name) = leadingUnderscores name ∧
      trailingUnderscores (convert name) = trailingUnderscores name
  idempotent : ∀ name, IsAscii name →
    toCamelCase (toCamelCase name) = toCamelCase name ∧
      toSnakeCase (toSnakeCase name) = toSnakeCase name
  /-- Renaming the keys of an object loses no entry, and renaming them back restores it. -/
  keys : ∀ {α : Type} (object : Dict α), (∀ key ∈ object.keys, IsAscii key ∧ IsSnakeCase key) →
    (object.mapKeys toCamelCase).mapKeys toSnakeCase = object ∧
      (object.mapKeys toCamelCase).entries.Perm
        (object.entries.map fun entry => (toCamelCase entry.1, entry.2))

namespace Frames

variable {name : String} {front back : Nat} {core : List Char}
  (h : Frames name front core back)
include h

theorem isAscii_core (hascii : IsAscii name) : ∀ c ∈ core, c.toNat < 128 :=
  fun c hc => hascii c (h.mem_toList_iff.2 (.inr (.inl hc)))

theorem toSnakeCase_toCamelCase_iff (hascii : IsAscii name) :
    Text.toSnakeCase (Text.toCamelCase name) = name ↔ IsSnakeCase name := by
  rw [h.eq_iff h.toCamelCase.toSnakeCase, h.isSnakeCase_iff]
  exact snakeCore_camelCore_iff h.toIsCore (h.isAscii_core hascii)

theorem toCamelCase_toSnakeCase_iff (hascii : IsAscii name) :
    Text.toCamelCase (Text.toSnakeCase name) = name ↔ IsCamelCase name := by
  rw [h.eq_iff h.toSnakeCase.toCamelCase, h.isCamelCase_iff]
  exact camelCore_snakeCore_iff h.toIsCore (h.isAscii_core hascii)

theorem toCamelCase_toCamelCase :
    Text.toCamelCase (Text.toCamelCase name) = Text.toCamelCase name := by
  apply (h.toCamelCase.eq_iff h.toCamelCase.toCamelCase).2
  exact camelCore_of_not_mem (underscore_not_mem_camelCore core)

theorem toSnakeCase_toSnakeCase (hascii : IsAscii name) :
    Text.toSnakeCase (Text.toSnakeCase name) = Text.toSnakeCase name := by
  have hmem := isUpper_of_mem_snakeCore (h.isAscii_core hascii)
  apply (h.toSnakeCase.eq_iff h.toSnakeCase.toSnakeCase).2
  exact snakeCore_of_forall (fun d hd => (hmem d hd).1) fun d hd => (hmem d hd).2

end Frames

theorem convertsBack : ConvertsBack where
  snake := by
    intro name hascii
    obtain ⟨front, core, back, h⟩ := exists_frames name
    exact h.toSnakeCase_toCamelCase_iff hascii
  camel := by
    intro name hascii
    obtain ⟨front, core, back, h⟩ := exists_frames name
    exact h.toCamelCase_toSnakeCase_iff hascii
  edges := by
    intro name
    obtain ⟨front, core, back, h⟩ := exists_frames name
    rw [List.forall_mem_cons, List.forall_mem_singleton]
    constructor
    · exact h.underscores_eq h.toCamelCase (camelCore_eq_nil_iff h.toIsCore)
    · exact h.underscores_eq h.toSnakeCase (snakeCore_eq_nil_iff core)
  idempotent := by
    intro name hascii
    obtain ⟨front, core, back, h⟩ := exists_frames name
    exact ⟨h.toCamelCase_toCamelCase, h.toSnakeCase_toSnakeCase hascii⟩
  keys := by
    intro α object hkeys
    have hback : ∀ key ∈ object.keys, toSnakeCase (toCamelCase key) = key := by
      intro key hkey
      obtain ⟨hascii, hsnake⟩ := hkeys key hkey
      obtain ⟨front, core, back, h⟩ := exists_frames key
      exact (h.toSnakeCase_toCamelCase_iff hascii).2 hsnake
    refine ⟨Dict.mapKeys_mapKeys hback, Dict.perm_mapKeys ?_⟩
    intro key hkey other hother hsame
    rw [← hback key hkey, hsame, hback other hother]

/-- A word that begins with a digit, an underscore too many, and an inner capital. -/
example : toSnakeCase (toCamelCase "_sha_256__") = "_sha256__" ∧
    toSnakeCase (toCamelCase "meta__data") = "meta_data" ∧
    toSnakeCase (toCamelCase "metaData") = "meta_data" := by
  decide +kernel

end LocalCloud.Text
