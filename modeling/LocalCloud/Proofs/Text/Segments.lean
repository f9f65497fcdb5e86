import LocalCloud.Text.Split
import LocalCloud.Text.Whitespace
import Mathlib.Data.List.TakeWhile

/-!
# Joined texts are taken apart again

Parts that do not hold the separator are the parts between the separators of their
join, and a word is found behind a part that does not hold its first character.
-/

namespace LocalCloud.Text

/-- A sequence without a separator is passed over by looking for that separator. -/
theorem bne_of_not_mem {α : Type} [BEq α] [LawfulBEq α] {separator : α} {items : List α}
    (h : separator ∉ items) : ∀ item ∈ items, (item != separator) = true := by
  intro item hitem
  rw [bne_iff_ne]
  rintro rfl
  exact h hitem

section Boundary

variable {α : Type} [BEq α] [LawfulBEq α] {separator : α} {first rest : List α}

/-- What stands in front of the first separator, where there is one. -/
theorem takeWhile_bne_append (hfirst : separator ∉ first)
    (hrest : rest.head?.all (· == separator) = true) :
    (first ++ rest).takeWhile (· != separator) = first := by
  rw [List.takeWhile_append_of_pos (bne_of_not_mem hfirst)]
  cases rest with
  | nil => rw [List.takeWhile_nil, List.append_nil]
  | cons item rest =>
      obtain rfl : item = separator := beq_iff_eq.1 hrest
      rw [List.takeWhile_cons_of_neg (by simp), List.append_nil]

theorem dropWhile_bne_append (hfirst : separator ∉ first)
    (hrest : rest.head?.all (· == separator) = true) :
    (first ++ rest).dropWhile (· != separator) = rest := by
  rw [List.dropWhile_append_of_pos (bne_of_not_mem hfirst)]
  cases rest with
  | nil => rfl
  | cons item rest =>
      obtain rfl : item = separator := beq_iff_eq.1 hrest
      rw [List.dropWhile_cons_of_neg (by simp)]

end Boundary

section Split

variable {separator : Char} {first chars rest : List Char}

theorem splitOn_of_not_mem (h : separator ∉ chars) : splitOn separator chars = [chars] := by
  induction chars with
  | nil => rfl
  | cons c chars ih =>
      have hc : separator ≠ c := List.ne_of_not_mem_cons h
      have hchars : separator ∉ chars := List.not_mem_of_not_mem_cons h
      rw [splitOn, if_neg (Ne.symm hc), ih hchars]

theorem splitOn_append_cons (h : separator ∉ first) (rest : List Char) :
    splitOn separator (first ++ separator :: rest) = first :: splitOn separator rest := by
  induction first with
  | nil => rw [List.nil_append, splitOn, if_pos rfl]
  | cons c first ih =>
      have hc : separator ≠ c := List.ne_of_not_mem_cons h
      have hfirst : separator ∉ first := List.not_mem_of_not_mem_cons h
      rw [List.cons_append, splitOn, if_neg (Ne.symm hc), ih hfirst]

/-- A text is cut at the first separator. -/
theorem splitOnce?_append_cons (h : separator ∉ first) (rest : List Char) :
    splitOnce? separator (first ++ separator :: rest) = some (first, rest) := by
  induction first with
  | nil => rw [List.nil_append, splitOnce?, if_pos rfl]
  | cons c first ih =>
      have hc : separator ≠ c := List.ne_of_not_mem_cons h
      have hfirst : separator ∉ first := List.not_mem_of_not_mem_cons h
      rw [List.cons_append, splitOnce?, if_neg (Ne.symm hc), ih hfirst, Option.map_some]

theorem splitOnce?_of_not_mem (h : separator ∉ chars) : splitOnce? separator chars = none := by
  induction chars with
  | nil => rfl
  | cons c chars ih =>
      have hc : separator ≠ c := List.ne_of_not_mem_cons h
      have hchars : separator ∉ chars := List.not_mem_of_not_mem_cons h
      rw [splitOnce?, if_neg (Ne.symm hc), ih hchars, Option.map_none]

theorem splitOnce?_eq_some_iff :
    splitOnce? separator chars = some (first, rest) ↔
      chars = first ++ separator :: rest ∧ separator ∉ first := by
  constructor
  · intro h
    induction chars generalizing first with
    | nil => cases h
    | cons c chars ih =>
        rw [splitOnce?] at h
        split at h
        next hc =>
          cases h
          exact ⟨by rw [hc, List.nil_append], List.not_mem_nil⟩
        next hc =>
          obtain ⟨⟨before, after⟩, hfound, hparts⟩ := Option.map_eq_some_iff.1 h
          cases hparts
          obtain ⟨rfl, hbefore⟩ := ih hfound
          exact ⟨rfl, List.not_mem_cons_of_ne_of_not_mem (Ne.symm hc) hbefore⟩
  · rintro ⟨rfl, hfirst⟩
    exact splitOnce?_append_cons hfirst rest

theorem splitOn_intercalate {parts : List (List Char)} (hne : parts ≠ [])
    (hparts : ∀ part ∈ parts, separator ∉ part) :
    splitOn separator ([separator].intercalate parts) = parts := by
  induction parts with
  | nil => exact absurd rfl hne
  | cons part parts ih =>
      obtain ⟨hpart, hrest⟩ := List.forall_mem_cons.1 hparts
      cases parts with
      | nil => rw [List.intercalate_singleton, splitOn_of_not_mem hpart]
      | cons next parts =>
          rw [List.intercalate_cons_cons, List.append_assoc, List.singleton_append,
            splitOn_append_cons hpart, ih (List.cons_ne_nil _ _) hrest]

theorem exists_splitOn_eq_cons (separator : Char) (chars : List Char) :
    ∃ part parts, splitOn separator chars = part :: parts := by
  induction chars with
  | nil => exact ⟨[], [], rfl⟩
  | cons c chars ih =>
      obtain ⟨part, parts, hparts⟩ := ih
      rw [splitOn, hparts]
      split
      · exact ⟨_, _, rfl⟩
      · exact ⟨_, _, rfl⟩

/-- Splitting loses nothing. -/
theorem intercalate_splitOn (separator : Char) (chars : List Char) :
    [separator].intercalate (splitOn separator chars) = chars := by
  induction chars with
  | nil => rfl
  | cons c chars ih =>
      obtain ⟨part, parts, hparts⟩ := exists_splitOn_eq_cons separator chars
      rw [hparts] at ih
      rw [splitOn, hparts]
      split
      next hc => rw [List.intercalate_cons_cons, ih, hc, List.nil_append, List.singleton_append]
      next hc =>
        cases parts with
        | nil => rw [List.intercalate_singleton] at ih ⊢; rw [ih]
        | cons next parts =>
            rw [List.intercalate_cons_cons] at ih ⊢
            rw [List.cons_append, List.cons_append, ih]

theorem splitOn_injective (separator : Char) : Function.Injective (splitOn separator) := by
  intro left right h
  rw [← intercalate_splitOn separator left, h, intercalate_splitOn]

theorem mem_of_mem_splitOn {c : Char} {part : List Char}
    (hpart : part ∈ splitOn separator chars) (hc : c ∈ part) : c ∈ chars := by
  induction chars generalizing part with
  | nil =>
      obtain rfl := List.mem_singleton.1 hpart
      exact hc
  | cons first chars ih =>
      obtain ⟨head, parts, hparts⟩ := exists_splitOn_eq_cons separator chars
      rw [splitOn, hparts] at hpart
      split at hpart
      · rcases List.mem_cons.1 hpart with rfl | hpart
        · exact nomatch hc
        · exact List.mem_cons_of_mem _ (ih (hparts ▸ hpart) hc)
      · rcases List.mem_cons.1 hpart with rfl | hpart
        · rcases List.mem_cons.1 hc with rfl | hc
          · exact List.mem_cons_self
          · exact List.mem_cons_of_mem _ (ih (hparts ▸ List.mem_cons_self) hc)
        · exact List.mem_cons_of_mem _ (ih (hparts ▸ List.mem_cons_of_mem _ hpart) hc)

/-- The parts between separators hold none. -/
theorem separator_not_mem_of_mem_splitOn {part : List Char}
    (h : part ∈ splitOn separator chars) : separator ∉ part := by
  induction chars generalizing part with
  | nil =>
      obtain rfl := List.mem_singleton.1 h
      exact List.not_mem_nil
  | cons c chars ih =>
      obtain ⟨head, parts, hparts⟩ := exists_splitOn_eq_cons separator chars
      rw [hparts] at ih
      rw [splitOn, hparts] at h
      split at h
      next =>
        rcases List.mem_cons.1 h with rfl | h
        · exact List.not_mem_nil
        · exact ih h
      next hne =>
        rcases List.mem_cons.1 h with rfl | h
        · rw [List.mem_cons, not_or]
          exact ⟨Ne.symm hne, ih List.mem_cons_self⟩
        · exact ih (List.mem_cons_of_mem _ h)

theorem mem_of_mem_intercalate {c : Char} {parts : List (List Char)}
    (h : c ∈ [separator].intercalate parts) : c = separator ∨ ∃ part ∈ parts, c ∈ part := by
  induction parts with
  | nil => simp at h
  | cons part parts ih =>
      cases parts with
      | nil =>
          rw [List.intercalate_singleton] at h
          exact .inr ⟨part, List.mem_cons_self, h⟩
      | cons next parts =>
          rw [List.intercalate_cons_cons, List.append_assoc, List.mem_append, List.mem_append,
            List.mem_singleton] at h
          rcases h with h | h | h
          · exact .inr ⟨part, List.mem_cons_self, h⟩
          · exact .inl h
          · rcases ih h with h | ⟨other, hother, hc⟩
            · exact .inl h
            · exact .inr ⟨other, List.mem_cons_of_mem _ hother, hc⟩

theorem mem_parts_of_mem {c : Char} (h : c ∈ chars) (separator : Char) :
    c = separator ∨ ∃ part ∈ splitOn separator chars, c ∈ part := by
  rw [← intercalate_splitOn separator chars] at h
  exact mem_of_mem_intercalate h

theorem length_splitOn (separator : Char) (chars : List Char) :
    (splitOn separator chars).length = chars.count separator + 1 := by
  induction chars with
  | nil => rfl
  | cons c chars ih =>
      obtain ⟨part, parts, hparts⟩ := exists_splitOn_eq_cons separator chars
      rw [splitOn, hparts]
      rw [hparts] at ih
      split
      next hc => rw [List.length_cons, ih, hc, List.count_cons_self]
      next hc =>
        rw [List.count_cons_of_ne hc, ← ih]
        rfl

theorem flatMap_intercalate {f : Char → List Char} (hself : f separator = [separator])
    (parts : List (List Char)) : ([separator].intercalate parts).flatMap f =
      [separator].intercalate (parts.map (·.flatMap f)) := by
  induction parts with
  | nil => rfl
  | cons part parts ih =>
      cases parts with
      | nil => simp
      | cons next parts =>
          rw [List.map_cons] at ih ⊢
          rw [List.map_cons, List.intercalate_cons_cons, List.intercalate_cons_cons,
            List.flatMap_append, List.flatMap_append, ih, List.flatMap_singleton, hself]

/-- Replacing characters part by part, when that neither adds nor takes separators. -/
theorem splitOn_flatMap {f : Char → List Char} (hself : f separator = [separator])
    (hother : ∀ c, separator ∈ f c → c = separator) (chars : List Char) :
    splitOn separator (chars.flatMap f) = (splitOn separator chars).map (·.flatMap f) := by
  have hparts : ∀ part ∈ (splitOn separator chars).map (·.flatMap f), separator ∉ part := by
    intro part hpart hmem
    obtain ⟨original, horiginal, rfl⟩ := List.mem_map.1 hpart
    obtain ⟨c, hc, hmem⟩ := List.mem_flatMap.1 hmem
    exact separator_not_mem_of_mem_splitOn horiginal (hother c hmem ▸ hc)
  have hfilled : (splitOn separator chars).map (·.flatMap f) ≠ [] := by
    obtain ⟨part, parts, hsplit⟩ := exists_splitOn_eq_cons separator chars
    rw [hsplit]
    exact List.cons_ne_nil _ _
  calc splitOn separator (chars.flatMap f)
      = splitOn separator (([separator].intercalate (splitOn separator chars)).flatMap f) := by
        rw [intercalate_splitOn]
    _ = splitOn separator ([separator].intercalate ((splitOn separator chars).map
          (·.flatMap f))) := by rw [flatMap_intercalate hself]
    _ = (splitOn separator chars).map (·.flatMap f) := splitOn_intercalate hfilled hparts

theorem toList_eq_of_splitString {text : String} {parts : List String}
    (h : splitString separator text = parts) :
    text.toList = [separator].intercalate (parts.map String.toList) := by
  have hparts : parts.map String.toList = splitOn separator text.toList := by
    rw [← h, splitString, List.map_map]
    simp [Function.comp_def]
  rw [hparts, intercalate_splitOn]

theorem splitString_intercalate {parts : List String} (hne : parts ≠ [])
    (hparts : ∀ part ∈ parts, separator ∉ part.toList) :
    splitString separator (String.intercalate (String.singleton separator) parts) = parts := by
  have hchars : ∀ part ∈ parts.map String.toList, separator ∉ part := by
    intro part hpart
    obtain ⟨text, htext, rfl⟩ := List.mem_map.1 hpart
    exact hparts text htext
  have hmap : parts.map String.toList ≠ [] := by simpa using hne
  rw [splitString, String.toList_intercalate, String.toList_singleton,
    splitOn_intercalate hmap hchars, List.map_map]
  simp [Function.comp_def]

end Split

section SplitWord

variable {start : Char} {first chars : List Char}

/-- A word does not start among characters that are not its first one. -/
theorem splitWord?_append (h : start ∉ first) (word rest : List Char) :
    splitWord? (start :: word) (first ++ rest) =
      (splitWord? (start :: word) rest).map fun parts => (first ++ parts.1, parts.2) := by
  induction first with
  | nil => simp
  | cons c first ih =>
      have hc : start ≠ c := List.ne_of_not_mem_cons h
      have hfirst : start ∉ first := List.not_mem_of_not_mem_cons h
      rw [List.cons_append, splitWord?, afterStart?, if_neg (by simp [hc]), ih hfirst,
        Option.map_map]
      rfl

theorem splitWord?_of_not_mem (h : start ∉ chars) (word : List Char) :
    splitWord? (start :: word) chars = none := by
  rw [← List.append_nil chars, splitWord?_append h]
  rfl

/-- The parts around a word that does not start before. -/
theorem splitWord?_append_word (h : start ∉ first) (word rest : List Char) :
    splitWord? (start :: word) (first ++ (start :: word ++ rest)) = some (first, rest) := by
  have hstart : (start :: word).isPrefixOf (start :: (word ++ rest)) = true := by simp
  rw [splitWord?_append h, List.cons_append, splitWord?, afterStart?, if_pos hstart]
  simp

/-- A text is the word that was found in it between what stands around the word. -/
theorem eq_of_splitWord? {word before after : List Char}
    (h : splitWord? word chars = some (before, after)) : chars = before ++ (word ++ after) := by
  induction chars generalizing before with
  | nil =>
      rw [splitWord?] at h
      split at h
      next hword =>
        cases h
        rw [List.isEmpty_iff.1 hword]
        rfl
      next => cases h
  | cons c chars ih =>
      rw [splitWord?, afterStart?] at h
      by_cases hstart : word.isPrefixOf (c :: chars) = true
      · obtain ⟨rest, hrest⟩ := List.isPrefixOf_iff_prefix.1 hstart
        rw [if_pos hstart, ← hrest, List.drop_left] at h
        cases h
        exact hrest.symm
      · rw [if_neg hstart] at h
        obtain ⟨⟨first, last⟩, hfound, hparts⟩ := Option.map_eq_some_iff.1 h
        cases hparts
        rw [ih hfound]
        rfl

end SplitWord

end LocalCloud.Text
