import LocalCloud.Text.Identifier
import Mathlib.Data.List.Basic
import Mathlib.Data.List.TakeWhile
import Mathlib.Tactic.Common

/-!
# Names between underscores

A name is a core between underscores.  A conversion of its core keeps those underscores,
and an underscore that lies between other characters is one in the core.
-/

namespace LocalCloud.Text

/-- The texts around an underscore that lies between characters that are none. -/
structure LiesBetween (name : String) (before after : List Char) : Prop where
  split : name.toList = before ++ '_' :: after
  before : ∃ c ∈ before, c ≠ '_'
  after : ∃ c ∈ after, c ≠ '_'

/-- The number of underscores in front of a name. -/
def leadingUnderscores (name : String) : Nat :=
  (name.toList.takeWhile (· == '_')).length

/-- The number of underscores behind a name. -/
def trailingUnderscores (name : String) : Nat :=
  (name.toList.reverse.takeWhile (· == '_')).length

section Framing

variable {name other : String} {front back : Nat} {core before after rest : List Char}
  {c : Char}

/-- What an underscore neither begins nor ends. -/
structure IsCore (core : List Char) : Prop where
  head : core.head? ≠ some '_'
  last : core.getLast? ≠ some '_'

/-- A name taken apart into its core and the underscores around it; a name without a core
has all its underscores in front. -/
structure Frames (name : String) (front : Nat) (core : List Char) (back : Nat) : Prop
    extends IsCore core where
  toList_eq : name.toList = List.replicate front '_' ++ (core ++ List.replicate back '_')
  back_eq : core = [] → back = 0

theorem IsCore.of_not_mem (h : '_' ∉ core) : IsCore core where
  head := fun hhead => h (List.mem_of_mem_head? hhead)
  last := fun hlast => h (List.mem_of_getLast? hlast)

theorem IsCore.ne_of_cons (h : IsCore (c :: rest)) : c ≠ '_' := fun hc => h.head (congrArg some hc)

theorem exists_replicate_append (chars : List Char) :
    ∃ count rest, chars = List.replicate count '_' ++ rest ∧ rest.head? ≠ some '_' := by
  induction chars with
  | nil => exact ⟨0, [], rfl, nofun⟩
  | cons c chars ih =>
      by_cases hc : c = '_'
      · obtain ⟨count, rest, rfl, hrest⟩ := ih
        subst hc
        exact ⟨count + 1, rest, rfl, hrest⟩
      · exact ⟨0, c :: chars, rfl, fun h => hc (Option.some.inj h)⟩

theorem exists_frames (name : String) : ∃ front core back, Frames name front core back := by
  obtain ⟨front, rest, hname, hhead⟩ := exists_replicate_append name.toList
  obtain ⟨back, reversed, hrest, hlast⟩ := exists_replicate_append rest.reverse
  have hcore : rest = reversed.reverse ++ List.replicate back '_' := by
    rw [← List.reverse_reverse rest, hrest, List.reverse_append, List.reverse_replicate]
  refine ⟨front, reversed.reverse, back, ⟨?head, ?last⟩, ?toList_eq, ?back_eq⟩
  case head =>
    intro h
    apply hhead
    rw [hcore, List.head?_append, h, Option.some_or]
  case last => rwa [List.getLast?_reverse]
  case toList_eq => rw [hname, hcore]
  case back_eq =>
    intro hnil
    rw [hcore, hnil, List.nil_append] at hhead
    cases back with
    | zero => rfl
    | succ back => exact absurd rfl hhead

theorem takeWhile_replicate_append (count : Nat) (h : rest.head? ≠ some '_') :
    (List.replicate count '_' ++ rest).takeWhile (· == '_') = List.replicate count '_' := by
  have hcount : ∀ c ∈ List.replicate count '_', (c == '_') = true := by simp
  rw [List.takeWhile_append_of_pos hcount]
  cases rest with
  | nil => simp
  | cons c rest =>
      have hc : c ≠ '_' := fun heq => h (congrArg some heq)
      rw [List.takeWhile_cons_of_neg (by simpa using hc), List.append_nil]

theorem dropWhile_replicate_append (count : Nat) (h : rest.head? ≠ some '_') :
    (List.replicate count '_' ++ rest).dropWhile (· == '_') = rest := by
  have hcount : ∀ c ∈ List.replicate count '_', (c == '_') = true := by simp
  rw [List.dropWhile_append_of_pos hcount]
  cases rest with
  | nil => rfl
  | cons c rest =>
      have hc : c ≠ '_' := fun heq => h (congrArg some heq)
      rw [List.dropWhile_cons_of_neg (by simpa using hc)]

/-- What holds something else reaches beyond underscores in front. -/
theorem exists_eq_replicate_append {count : Nat}
    (hsplit : List.replicate count '_' ++ rest = before ++ after)
    (hother : ∃ c ∈ before, c ≠ '_') :
    ∃ head, before = List.replicate count '_' ++ head ∧ rest = head ++ after := by
  rcases List.append_eq_append_iff.1 hsplit with ⟨head, hbefore, hrest⟩ | ⟨middle, hcount, -⟩
  · exact ⟨head, hbefore, hrest⟩
  · obtain ⟨c, hc, hne⟩ := hother
    have hmem : c ∈ List.replicate count '_' := hcount ▸ List.mem_append_left middle hc
    exact absurd (List.eq_of_mem_replicate hmem) hne

theorem exists_eq_append_replicate {count : Nat}
    (hsplit : rest ++ List.replicate count '_' = before ++ after)
    (hother : ∃ c ∈ after, c ≠ '_') :
    ∃ tail, after = tail ++ List.replicate count '_' ∧ rest = before ++ tail := by
  rcases List.append_eq_append_iff.1 hsplit with ⟨middle, -, hcount⟩ | ⟨tail, hrest, hafter⟩
  · obtain ⟨c, hc, hne⟩ := hother
    have hmem : c ∈ List.replicate count '_' := hcount ▸ List.mem_append_right middle hc
    exact absurd (List.eq_of_mem_replicate hmem) hne
  · exact ⟨tail, hafter, hrest⟩

namespace Frames

variable (h : Frames name front core back)
include h

/-- Behind the underscores in front no further one follows. -/
theorem head?_ne : (core ++ List.replicate back '_').head? ≠ some '_' := by
  cases hcore : core with
  | nil =>
      rw [h.back_eq hcore]
      exact nofun
  | cons c rest =>
      have hhead := h.head
      rwa [hcore] at hhead

theorem splitUnderscores_eq : splitUnderscores name.toList =
    (List.replicate front '_', core, List.replicate back '_') := by
  have hlast : core.reverse.head? ≠ some '_' := by
    rw [List.head?_reverse]
    exact h.last
  have htrailing : dropTrailing (· == '_') (core ++ List.replicate back '_') = core := by
    rw [dropTrailing, List.reverse_append, List.reverse_replicate,
      dropWhile_replicate_append back hlast, List.reverse_reverse]
  rw [splitUnderscores, h.toList_eq, takeWhile_replicate_append front h.head?_ne,
    dropWhile_replicate_append front h.head?_ne]
  simp only [htrailing, List.drop_left]

theorem convertCore {convert : List Char → List Char} (hcore : IsCore (convert core))
    (hnil : convert core = [] ↔ core = []) :
    Frames (convertCore convert name) front (convert core) back where
  head := hcore.head
  last := hcore.last
  toList_eq := by
    rw [Text.convertCore, h.splitUnderscores_eq, String.toList_ofList, List.append_assoc]
  back_eq := fun hempty => h.back_eq (hnil.1 hempty)

theorem leadingUnderscores_eq : leadingUnderscores name = front := by
  rw [leadingUnderscores, h.toList_eq, takeWhile_replicate_append front h.head?_ne,
    List.length_replicate]

theorem trailingUnderscores_eq : trailingUnderscores name = if core = [] then front else back := by
  rw [trailingUnderscores, h.toList_eq]
  split
  next hnil =>
    rw [h.back_eq hnil, hnil]
    simp
  next hne =>
    have hlast : (core.reverse ++ List.replicate front '_').head? ≠ some '_' := by
      rw [List.head?_append_of_ne_nil _ (mt List.reverse_eq_nil_iff.1 hne), List.head?_reverse]
      exact h.last
    rw [List.reverse_append, List.reverse_append, List.reverse_replicate, List.reverse_replicate,
      List.append_assoc, takeWhile_replicate_append back hlast, List.length_replicate]

/-- A name is settled by its core. -/
theorem eq_iff {others : List Char} (hother : Frames other front others back) :
    other = name ↔ others = core := by
  rw [← String.toList_inj, h.toList_eq, hother.toList_eq, List.append_cancel_left_eq,
    List.append_cancel_right_eq]

/-- An underscore between other characters is one in the core. -/
theorem liesBetween_iff : LiesBetween name before after ↔ ∃ head tail, core = head ++ '_' :: tail ∧
    before = List.replicate front '_' ++ head ∧ after = tail ++ List.replicate back '_' := by
  constructor
  · rintro ⟨hsplit, hbefore, hafter⟩
    rw [h.toList_eq] at hsplit
    obtain ⟨head, hhead, hrest⟩ := exists_eq_replicate_append hsplit hbefore
    rw [List.append_cons] at hrest
    obtain ⟨tail, htail, hcore⟩ := exists_eq_append_replicate hrest hafter
    rw [← List.append_cons] at hcore
    exact ⟨head, tail, hcore, hhead, htail⟩
  · rintro ⟨head, tail, hcore, rfl, rfl⟩
    refine ⟨?split, ?before, ?after⟩
    case split => rw [h.toList_eq, hcore]; simp
    case before =>
      cases head with
      | nil => exact absurd (congrArg List.head? hcore) h.head
      | cons c head =>
          have hc : c ≠ '_' := by simpa [hcore] using h.head
          exact ⟨c, by simp, hc⟩
    case after =>
      rcases List.eq_nil_or_concat tail with rfl | ⟨tail, c, rfl⟩
      · exact absurd (hcore ▸ List.getLast?_concat) h.last
      · have hlast : core.getLast? = some c := by
          rw [hcore, List.concat_eq_append, ← List.cons_append, ← List.append_assoc,
            List.getLast?_concat]
        refine ⟨c, by simp, ?_⟩
        rintro rfl
        exact h.last hlast

theorem mem_toList_iff : c ∈ name.toList ↔
    c ∈ List.replicate front '_' ∨ c ∈ core ∨ c ∈ List.replicate back '_' := by
  rw [h.toList_eq, List.mem_append, List.mem_append]

theorem find?_eq : name.toList.find? (· != '_') = core.head? := by
  have hnone (count : Nat) : (List.replicate count '_').find? (· != '_') = none := by
    simp
  rw [h.toList_eq, List.find?_append, List.find?_append, hnone, hnone, Option.none_or,
    Option.or_none]
  cases hcore : core with
  | nil => rfl
  | cons c rest =>
      have hc : c ≠ '_' := (hcore ▸ h.toIsCore).ne_of_cons
      exact List.find?_cons_of_pos (bne_iff_ne.2 hc)

theorem underscores_eq (hother : Frames other front others back)
    (hnil : others = [] ↔ core = []) :
    leadingUnderscores other = leadingUnderscores name ∧
      trailingUnderscores other = trailingUnderscores name := by
  rw [h.leadingUnderscores_eq, hother.leadingUnderscores_eq, h.trailingUnderscores_eq,
    hother.trailingUnderscores_eq]
  simp only [hnil, and_self]

end Frames

end Framing

end LocalCloud.Text
