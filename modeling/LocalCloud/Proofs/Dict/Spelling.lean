import LocalCloud.Dict
import Mathlib.Data.List.Sort

/-!
# Spellings of a name

The keys of a dictionary may be read as spellings of names.  Renaming the keys meets
the entries in key order, and each one overwrites what its name held before.  So of
several spellings of a name the greatest key is the one that counts.

A dictionary is determined by its lookups, since its entries are in key order.
-/

namespace LocalCloud

universe u v

variable {α : Type u} {β : Type v}

namespace Entries

variable {entries : List (String × α)}

/-- A key is found with the value it stands with, for no other entry has this key. -/
theorem get?_eq_some_iff (h : Ascending entries) {key : String} {value : α} :
    get? key entries = some value ↔ (key, value) ∈ entries := by
  induction entries with
  | nil => exact iff_of_false nofun List.not_mem_nil
  | cons first rest ih =>
    obtain ⟨hfirst, hrest⟩ := List.pairwise_cons.1 h
    rw [get?, List.mem_cons]
    by_cases hkey : key = first.1
    · subst hkey
      have habsent : (first.1, value) ∉ rest :=
        fun hmem => String.lt_irrefl _ (hfirst (first.1, value) hmem)
      rw [if_pos rfl, or_iff_left habsent, Option.some.injEq, Prod.ext_iff]
      exact ⟨fun heq => ⟨rfl, heq.symm⟩, fun heq => heq.2.symm⟩
    · have hne : (key, value) ≠ first := fun heq => hkey (congrArg Prod.fst heq)
      rw [if_neg hkey, ih hrest, or_iff_right hne]

/-- Of the entries with some property, the last one has the greatest key. -/
theorem le_of_getLast?_filter (h : Ascending entries) {p : String × α → Bool}
    {last other : String × α} (hlast : (entries.filter p).getLast? = some last)
    (hother : other ∈ entries) (hp : p other = true) : other.1 ≤ last.1 := by
  have hfilter : Ascending (entries.filter p) := h.filter p
  have hmem : other ∈ entries.filter p := List.mem_filter.2 ⟨hother, hp⟩
  obtain ⟨front, hsplit⟩ := List.getLast?_eq_some_iff.1 hlast
  rw [hsplit] at hfilter hmem
  rcases List.mem_append.1 hmem with hfront | hend
  · exact Std.le_of_lt ((List.pairwise_append.1 hfilter).2.2 other hfront last List.mem_cons_self)
  · obtain rfl := List.mem_singleton.1 hend
    exact String.le_refl other.1

theorem getLast?_filter_eq_some_iff (h : Ascending entries) {p : String × α → Bool}
    {entry : String × α} :
    (entries.filter p).getLast? = some entry ↔
      entry ∈ entries ∧ p entry = true ∧ ∀ other ∈ entries, p other = true → other.1 ≤ entry.1 := by
  constructor
  · intro hlast
    obtain ⟨hentry, hp⟩ := List.mem_filter.1 (List.mem_of_getLast? hlast)
    exact ⟨hentry, hp, fun other hother => le_of_getLast?_filter h hlast hother⟩
  · rintro ⟨hentry, hp, hgreatest⟩
    cases hlast : (entries.filter p).getLast? with
    | none =>
      rw [List.getLast?_eq_none_iff, List.filter_eq_nil_iff] at hlast
      exact absurd hp (hlast entry hentry)
    | some last =>
      obtain ⟨hmem, hplast⟩ := List.mem_filter.1 (List.mem_of_getLast? hlast)
      have hkey : last.1 = entry.1 :=
        String.le_antisymm (hgreatest last hmem hplast) (le_of_getLast?_filter h hlast hentry hp)
      have hvalue : some last.2 = some entry.2 := by
        rw [← (get?_eq_some_iff h).2 hmem, hkey, (get?_eq_some_iff h).2 hentry]
      exact congrArg some (Prod.ext hkey (Option.some.inj hvalue))

end Entries

namespace Dict

variable {dict newer left right : Dict α} {rename : String → String} {name key : String} {value : α}

theorem get?_eq_some_iff : dict.get? key = some value ↔ (key, value) ∈ dict.entries :=
  Entries.get?_eq_some_iff dict.ascending

theorem mem_keys_of_get? (h : dict.get? key = some value) : key ∈ dict.keys :=
  List.mem_map_of_mem (get?_eq_some_iff.1 h)

/-- Dictionaries are told apart by what is found in them. -/
theorem ext_get? (h : ∀ key, left.get? key = right.get? key) : left = right := by
  have hnodup (dict : Dict α) : dict.entries.Nodup := .of_map _ dict.nodup_keys
  apply eq_of_perm
  apply (List.perm_ext_iff_of_nodup (hnodup left) (hnodup right)).2
  rintro ⟨key, value⟩
  rw [← get?_eq_some_iff, ← get?_eq_some_iff, h]

theorem mem_keys_ofList {entries : List (String × α)} :
    key ∈ (ofList entries).keys ↔ key ∈ entries.map (·.1) := by
  rw [mem_keys_iff, Option.isSome_iff_ne_none, ne_eq, get?_ofList, List.getLast?_eq_none_iff,
    List.map_eq_nil_iff, List.filter_eq_nil_iff, List.mem_map]
  simp only [beq_iff_eq, not_forall, not_not, exists_prop]

theorem entries_foldl_insert (added : List (String × α)) (dict : Dict α) :
    (added.foldl (fun dict entry => dict.insert entry.1 entry.2) dict).entries =
      added.foldl (fun sorted entry => Entries.insert entry.1 entry.2 sorted) dict.entries := by
  induction added generalizing dict with
  | nil => rfl
  | cons entry added ih => exact ih (dict.insert entry.1 entry.2)

theorem foldl_insert_empty (added : List (String × α)) :
    added.foldl (fun dict entry => dict.insert entry.1 entry.2) ∅ = ofList added :=
  eq_of_perm (List.Perm.of_eq (entries_foldl_insert added ∅))

/-- Newer entries go before. -/
theorem get?_merge (dict newer : Dict α) (key : String) :
    (dict.merge newer).get? key = (newer.get? key).or (dict.get? key) := by
  have hnewer := get?_ofList newer.entries key
  rw [ofList_entries] at hnewer
  rw [merge, get?, entries_foldl_insert, Entries.get?_foldl_insert, ← hnewer]
  rfl

theorem mem_keys_insert : name ∈ (dict.insert key value).keys ↔ name = key ∨ name ∈ dict.keys := by
  rw [mem_keys_iff, mem_keys_iff, get?_insert]
  split
  next h => exact iff_of_true rfl (.inl h)
  next h => exact (or_iff_right h).symm

theorem mem_keys_merge : name ∈ (dict.merge newer).keys ↔ name ∈ dict.keys ∨ name ∈ newer.keys := by
  rw [mem_keys_iff, mem_keys_iff, mem_keys_iff, get?_merge, Option.isSome_or, Bool.or_eq_true,
    or_comm]

theorem keys_mapValues (f : α → β) (dict : Dict α) : (dict.mapValues f).keys = dict.keys :=
  List.map_map

/-- A key that spells the name, and that no other spelling of the name exceeds. -/
structure IsLastSpelling (rename : String → String) (dict : Dict α) (name key : String) : Prop where
  mem : key ∈ dict.keys
  spells : rename key = name
  last : ∀ other ∈ dict.keys, rename other = name → other ≤ key

theorem get?_mapKeys (rename : String → String) (dict : Dict α) (name : String) :
    (dict.mapKeys rename).get? name =
      (dict.entries.filter fun entry => rename entry.1 == name).getLast?.map (·.2) := by
  rw [mapKeys, get?_ofList, List.filter_map, List.map_map, List.getLast?_map]
  rfl

/-- A renamed dictionary holds under a name what its last spelling holds. -/
theorem get?_mapKeys_eq_some_iff :
    (dict.mapKeys rename).get? name = some value ↔
      ∃ key, dict.IsLastSpelling rename name key ∧ dict.get? key = some value := by
  rw [get?_mapKeys, Option.map_eq_some_iff]
  constructor
  · rintro ⟨⟨key, value⟩, hlast, rfl⟩
    obtain ⟨hentry, hspells, hgreatest⟩ :=
      (Entries.getLast?_filter_eq_some_iff dict.ascending).1 hlast
    refine ⟨key, ⟨List.mem_map_of_mem hentry, beq_iff_eq.1 hspells, ?_⟩,
      get?_eq_some_iff.2 hentry⟩
    intro other hother hsame
    obtain ⟨entry, hmem, rfl⟩ := List.mem_map.1 hother
    exact hgreatest entry hmem (beq_iff_eq.2 hsame)
  · rintro ⟨key, ⟨-, hspells, hgreatest⟩, hget⟩
    refine ⟨(key, value), ?_, rfl⟩
    apply (Entries.getLast?_filter_eq_some_iff dict.ascending).2
    refine ⟨get?_eq_some_iff.1 hget, beq_iff_eq.2 hspells, ?_⟩
    intro other hother hsame
    exact hgreatest other.1 (List.mem_map_of_mem hother) (beq_iff_eq.1 hsame)

theorem mem_keys_mapKeys_iff :
    name ∈ (dict.mapKeys rename).keys ↔ ∃ key ∈ dict.keys, rename key = name := by
  rw [mapKeys, mem_keys_ofList, ← List.mem_map, keys, List.map_map, List.map_map]
  rfl

theorem get?_mapKeys_eq_none_iff :
    (dict.mapKeys rename).get? name = none ↔ ∀ key ∈ dict.keys, rename key ≠ name := by
  rw [← Option.not_isSome_iff_eq_none, ← mem_keys_iff, mem_keys_mapKeys_iff]
  push Not
  rfl

/-- Values do not matter to names. -/
theorem mapKeys_mapValues (f : α → β) (dict : Dict α) (rename : String → String) :
    (dict.mapValues f).mapKeys rename = (dict.mapKeys rename).mapValues f := by
  apply ext_get?
  intro name
  rw [get?_mapValues, get?_mapKeys, get?_mapKeys, mapValues, List.filter_map, List.getLast?_map,
    Option.map_map, Option.map_map]
  rfl

/-- A name with one spelling holds what that spelling holds. -/
theorem get?_mapKeys_apply (h : ∀ other ∈ dict.keys, rename other = rename key → other = key) :
    (dict.mapKeys rename).get? (rename key) = dict.get? key := by
  apply Option.ext
  intro value
  rw [get?_mapKeys_eq_some_iff]
  constructor
  · rintro ⟨other, hlast, hget⟩
    rwa [← h other hlast.mem hlast.spells]
  · intro hget
    refine ⟨key, ⟨mem_keys_of_get? hget, rfl, ?_⟩, hget⟩
    intro other hother hsame
    obtain rfl := h other hother hsame
    exact String.le_refl other

theorem mapKeys_of_forall (h : ∀ key ∈ dict.keys, rename key = key) :
    dict.mapKeys rename = dict := by
  have hentries : dict.entries.map (fun entry => (rename entry.1, entry.2)) =
      dict.entries.map id := by
    apply List.map_congr_left
    intro entry hentry
    exact Prod.ext (h entry.1 (List.mem_map_of_mem hentry)) rfl
  rw [mapKeys, hentries, List.map_id, ofList_entries]

end Dict

end LocalCloud
