import LocalCloud.Text.Whitespace
import Mathlib.Data.List.TakeWhile
import Mathlib.Tactic.Common

/-!
# What trimming leaves

Removing a class of characters at both ends takes away nothing else and leaves a text
that neither begins nor ends with such a character.  These two properties determine
what is left.  Removing one character at the front leaves the rest of the text as it is.
-/

namespace LocalCloud.Text

variable {p : Char → Bool} {chars middle before after : List Char}

/-- Neither the first nor the last character is of a class. -/
structure IsBare (p : Char → Bool) (chars : List Char) : Prop where
  head : ∀ c ∈ chars.head?, p c = false
  last : ∀ c ∈ chars.getLast?, p c = false

theorem IsBare.of_forall (h : ∀ c ∈ chars, p c = false) : IsBare p chars :=
  ⟨fun c hc => h c (List.mem_of_mem_head? hc), fun c hc => h c (List.mem_of_mem_getLast? hc)⟩

/-- The ends of two parts that are not empty are the ends of the whole. -/
theorem IsBare.of_append {first last : List Char} (hfirst : first ≠ []) (hlast : last ≠ [])
    (hhead : ∀ c ∈ first.head?, p c = false) (hend : ∀ c ∈ last.getLast?, p c = false) :
    IsBare p (first ++ last) where
  head := by
    obtain ⟨c, rest, rfl⟩ := List.exists_cons_of_ne_nil hfirst
    exact hhead
  last := by
    rw [List.getLast?_append, List.getLast?_eq_some_getLast hlast]
    rw [List.getLast?_eq_some_getLast hlast] at hend
    exact hend

theorem dropWhile_of_head (h : ∀ c ∈ chars.head?, p c = false) : chars.dropWhile p = chars := by
  cases chars with
  | nil => rfl
  | cons c chars => exact List.dropWhile_cons_of_neg (by simp [h c rfl])

theorem dropWhile_of_last (h : ∀ c ∈ chars.getLast?, p c = false) :
    chars.reverse.dropWhile p = chars.reverse := by
  apply dropWhile_of_head
  rw [List.head?_reverse]
  exact h

theorem dropTrailing_of_last (h : ∀ c ∈ chars.getLast?, p c = false) :
    dropTrailing p chars = chars := by
  rw [dropTrailing, dropWhile_of_last h, List.reverse_reverse]

/-- Between characters of a class, a text that is bare of them is what is left. -/
theorem stripChars_of_isBare (hbefore : ∀ c ∈ before, p c = true) (hmiddle : IsBare p middle)
    (hafter : ∀ c ∈ after, p c = true) : stripChars p (before ++ (middle ++ after)) = middle := by
  have hend : ∀ c ∈ after.reverse, p c = true := fun c hc => hafter c (List.mem_reverse.1 hc)
  rw [stripChars, List.dropWhile_append_of_pos hbefore]
  cases middle with
  | nil =>
      rw [List.nil_append, List.dropWhile_eq_nil_iff.2 hafter]
      rfl
  | cons c middle =>
      have hc : ¬ p c = true := by simp [hmiddle.head c rfl]
      rw [List.cons_append, List.dropWhile_cons_of_neg hc, ← List.cons_append, dropTrailing,
        List.reverse_append, List.dropWhile_append_of_pos hend, dropWhile_of_last hmiddle.last,
        List.reverse_reverse]

theorem dropTrailing_append_takeWhile (p : Char → Bool) (chars : List Char) :
    dropTrailing p chars ++ (chars.reverse.takeWhile p).reverse = chars := by
  calc
    dropTrailing p chars ++ (chars.reverse.takeWhile p).reverse =
        (chars.reverse.takeWhile p ++ chars.reverse.dropWhile p).reverse := by
      rw [List.reverse_append, dropTrailing]
    _ = chars := by rw [List.takeWhile_append_dropWhile, List.reverse_reverse]

theorem head_dropWhile (p : Char → Bool) (chars : List Char) :
    ∀ c ∈ (chars.dropWhile p).head?, p c = false := by
  intro c hc
  have hnot := List.head?_dropWhile_not p chars
  rw [Option.mem_def.1 hc] at hnot
  exact hnot

/-- Only characters of the class are taken away, and all of them at the ends. -/
theorem exists_eq_append_stripChars (p : Char → Bool) (chars : List Char) :
    ∃ before after, (∀ c ∈ before, p c = true) ∧ (∀ c ∈ after, p c = true) ∧
      IsBare p (stripChars p chars) ∧ chars = before ++ (stripChars p chars ++ after) := by
  refine ⟨chars.takeWhile p, ((chars.dropWhile p).reverse.takeWhile p).reverse, ?before, ?after,
    ⟨?head, ?last⟩, ?whole⟩
  case before => exact fun c hc => List.mem_takeWhile_imp hc
  case after => exact fun c hc => List.mem_takeWhile_imp (List.mem_reverse.1 hc)
  case head =>
    intro c hc
    have hfirst : (dropTrailing p (chars.dropWhile p)).head? = some c := hc
    apply head_dropWhile p chars
    rw [← dropTrailing_append_takeWhile p (chars.dropWhile p), List.head?_append, hfirst]
    rfl
  case last =>
    intro c hc
    rw [stripChars, dropTrailing, List.getLast?_reverse] at hc
    exact head_dropWhile p _ c hc
  case whole =>
    calc
      chars = chars.takeWhile p ++ chars.dropWhile p := List.takeWhile_append_dropWhile.symm
      _ = _ := by rw [stripChars, dropTrailing_append_takeWhile]

theorem stripChars_eq_nil_iff : stripChars p chars = [] ↔ ∀ c ∈ chars, p c = true := by
  constructor
  · intro hnil
    obtain ⟨before, after, hbefore, hafter, -, hchars⟩ := exists_eq_append_stripChars p chars
    rw [hnil, List.nil_append] at hchars
    rw [hchars]
    exact List.forall_mem_append.2 ⟨hbefore, hafter⟩
  · intro hall
    rw [stripChars, List.dropWhile_eq_nil_iff.2 hall]
    rfl

section Trim

variable {text : String}

theorem toList_trim (text : String) : (trim text).toList = stripChars isBlank text.toList :=
  String.toList_ofList

/-- Nothing is left exactly of texts that are all white space. -/
theorem trim_eq_empty_iff : trim text = "" ↔ ¬ HasContent text := by
  rw [← isAllBlank_eq_false_iff, Bool.not_eq_false, isAllBlank, List.all_eq_true,
    ← stripChars_eq_nil_iff, ← toList_trim, String.toList_eq_nil_iff]

/-- Trimming removes white space that was put around a text without any. -/
theorem trim_append {before after : String} (hbefore : isAllBlank before = true)
    (htext : ∀ c ∈ text.toList, isBlank c = false) (hafter : isAllBlank after = true) :
    trim (before ++ text ++ after) = text := by
  rw [isAllBlank, List.all_eq_true] at hbefore hafter
  rw [trim, String.toList_append, String.toList_append, List.append_assoc,
    stripChars_of_isBare hbefore (.of_forall htext) hafter, String.ofList_toList]

theorem trim_of_forall_not_isBlank (h : ∀ c ∈ text.toList, isBlank c = false) :
    trim text = text := by
  have hblank : isAllBlank "" = true := rfl
  have htrim := trim_append hblank h hblank
  rw [String.empty_append, String.append_empty] at htrim
  exact htrim

end Trim

section DropLeading

variable {c : Char} {text tail : String}

theorem toList_dropLeading (c : Char) (text : String) :
    (dropLeading c text).toList = text.toList.dropWhile (· == c) :=
  String.toList_ofList

theorem dropLeading_eq_self_iff : dropLeading c text = text ↔ text.toList.head? ≠ some c := by
  rw [← String.toList_inj, toList_dropLeading]
  constructor
  · intro hsame hhead
    have hbare := head_dropWhile (· == c) text.toList c (hsame.symm ▸ hhead)
    simp at hbare
  · intro hhead
    apply dropWhile_of_head
    rintro other hother
    rw [beq_eq_false_iff_ne]
    rintro rfl
    exact hhead hother

theorem dropLeading_slash_append (text : String) :
    dropLeading '/' ("/" ++ text) = dropLeading '/' text := by
  rw [← String.toList_inj, toList_dropLeading, toList_dropLeading, String.toList_append]
  exact List.dropWhile_cons_of_pos (beq_self_eq_true '/')

/-- What follows another character is not reached. -/
theorem dropLeading_append (h : ∀ other ∈ tail.toList.head?, other ≠ c) :
    dropLeading c (text ++ tail) = dropLeading c text ++ tail := by
  have htail : tail.toList.dropWhile (· == c) = tail.toList :=
    dropWhile_of_head fun other hother => beq_eq_false_iff_ne.2 (h other hother)
  rw [← String.toList_inj, String.toList_append, toList_dropLeading, toList_dropLeading,
    String.toList_append, List.dropWhile_append, htail]
  split
  next hempty => rw [List.isEmpty_iff.1 hempty, List.nil_append]
  next => rfl

end DropLeading

end LocalCloud.Text
