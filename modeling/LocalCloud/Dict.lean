/-!
# Dictionaries in key order

Finite maps from text to values, kept as the list of their entries in strictly
ascending code point order of the keys.  Two dictionaries with the same entries
are therefore equal, and every traversal meets the keys in that order.
-/

namespace LocalCloud

universe u v

namespace Entries

variable {α : Type u} {β : Type v}

/-- Puts an entry at its place, replacing an entry of the same key. -/
def insert (key : String) (value : α) : List (String × α) → List (String × α)
  | [] => [(key, value)]
  | entry :: rest =>
    if key < entry.1 then (key, value) :: entry :: rest
    else if key = entry.1 then (key, value) :: rest
    else entry :: insert key value rest

def get? (key : String) : List (String × α) → Option α
  | [] => none
  | entry :: rest => if key = entry.1 then some entry.2 else get? key rest

/-- The entries without those of one key. -/
def erase (key : String) (entries : List (String × α)) : List (String × α) :=
  entries.filter (fun entry => entry.1 ≠ key)

/-- Inserts the entries of a list one after the other; the last entry of a key
wins. -/
def ofList (entries : List (String × α)) : List (String × α) :=
  entries.foldl (fun sorted entry => insert entry.1 entry.2 sorted) []

/-- Strictly ascending keys. -/
def Ascending (entries : List (String × α)) : Prop :=
  entries.Pairwise (fun left right => left.1 < right.1)

theorem mem_insert {key : String} {value : α} {entries : List (String × α)}
    {entry : String × α} (h : entry ∈ insert key value entries) :
    entry = (key, value) ∨ entry ∈ entries := by
  induction entries with
  | nil => simpa [insert] using h
  | cons first rest ih =>
    simp only [insert] at h
    split at h
    · simpa using h
    · split at h
      · rcases List.mem_cons.1 h with rfl | h
        · exact .inl rfl
        · exact .inr (List.mem_cons_of_mem _ h)
      · rcases List.mem_cons.1 h with rfl | h
        · exact .inr List.mem_cons_self
        · exact (ih h).imp id (List.mem_cons_of_mem _)

theorem ascending_insert {key : String} {value : α} {entries : List (String × α)}
    (h : Ascending entries) : Ascending (insert key value entries) := by
  induction entries with
  | nil => exact List.pairwise_singleton _ _
  | cons first rest ih =>
    have hrest : Ascending rest := (List.pairwise_cons.1 h).2
    have hfirst := (List.pairwise_cons.1 h).1
    simp only [insert]
    split
    · rename_i hlt
      refine List.pairwise_cons.2 ⟨fun entry hentry => ?_, h⟩
      rcases List.mem_cons.1 hentry with rfl | hentry
      · exact hlt
      · exact String.lt_trans hlt (hfirst entry hentry)
    · rename_i hge
      split
      · rename_i heq
        subst heq
        exact List.pairwise_cons.2 ⟨hfirst, hrest⟩
      · rename_i hne
        refine List.pairwise_cons.2 ⟨fun entry hentry => ?_, ih hrest⟩
        rcases mem_insert hentry with rfl | hentry
        · rcases Std.lt_trichotomy first.1 key with hlt | heq | hgt
          · exact hlt
          · exact absurd heq.symm hne
          · exact absurd hgt hge
        · exact hfirst entry hentry

theorem ascending_foldl_insert (added : List (String × α)) {entries : List (String × α)}
    (h : Ascending entries) :
    Ascending (added.foldl (fun sorted entry => insert entry.1 entry.2 sorted) entries) := by
  induction added generalizing entries with
  | nil => exact h
  | cons entry rest ih => exact ih (ascending_insert h)

theorem ascending_ofList (entries : List (String × α)) : Ascending (ofList entries) :=
  ascending_foldl_insert entries List.Pairwise.nil

theorem mem_of_mem_foldl_insert {added entries : List (String × α)} {entry : String × α}
    (h : entry ∈ added.foldl (fun sorted entry => insert entry.1 entry.2 sorted) entries) :
    entry ∈ added ∨ entry ∈ entries := by
  induction added generalizing entries with
  | nil => exact .inr h
  | cons first added ih =>
    rcases ih h with hadded | hinserted
    · exact .inl (List.mem_cons_of_mem _ hadded)
    · rcases mem_insert hinserted with rfl | hold
      · exact .inl List.mem_cons_self
      · exact .inr hold

theorem mem_of_mem_ofList {entries : List (String × α)} {entry : String × α}
    (h : entry ∈ ofList entries) : entry ∈ entries :=
  (mem_of_mem_foldl_insert h).resolve_right List.not_mem_nil

/-- A key behind all others is put at the end. -/
theorem insert_of_forall_lt {key : String} {entries : List (String × α)}
    (h : ∀ entry ∈ entries, entry.1 < key) (value : α) :
    insert key value entries = entries ++ [(key, value)] := by
  induction entries with
  | nil => rfl
  | cons first rest ih =>
    obtain ⟨hfirst, hrest⟩ := List.forall_mem_cons.1 h
    have hne : key ≠ first.1 := by
      rintro rfl
      exact String.lt_irrefl _ hfirst
    rw [insert, if_neg (String.lt_asymm hfirst), if_neg hne, ih hrest, List.cons_append]

theorem foldl_insert_of_ascending {entries added : List (String × α)}
    (h : Ascending (entries ++ added)) :
    added.foldl (fun sorted entry => insert entry.1 entry.2 sorted) entries = entries ++ added := by
  induction added generalizing entries with
  | nil => rw [List.foldl_nil, List.append_nil]
  | cons entry added ih =>
    have hlt : ∀ other ∈ entries, other.1 < entry.1 := fun other hother =>
      (List.pairwise_append.1 h).2.2 other hother entry List.mem_cons_self
    rw [List.append_cons] at h
    rw [List.foldl_cons, insert_of_forall_lt hlt, ih h, List.append_assoc, List.singleton_append]

/-- Entries in order stay as they are. -/
theorem ofList_of_ascending {entries : List (String × α)} (h : Ascending entries) :
    ofList entries = entries :=
  foldl_insert_of_ascending h

theorem perm_insert {key : String} {entries : List (String × α)}
    (h : ∀ entry ∈ entries, key ≠ entry.1) (value : α) :
    (insert key value entries).Perm ((key, value) :: entries) := by
  induction entries with
  | nil => exact List.Perm.refl _
  | cons first rest ih =>
    obtain ⟨hfirst, hrest⟩ := List.forall_mem_cons.1 h
    rw [insert, if_neg hfirst]
    split
    · exact List.Perm.refl _
    · exact ((ih hrest).cons first).trans (List.Perm.swap _ _ _)

theorem perm_foldl_insert {entries added : List (String × α)}
    (h : ((entries ++ added).map (·.1)).Nodup) :
    (added.foldl (fun sorted entry => insert entry.1 entry.2 sorted) entries).Perm
      (entries ++ added) := by
  induction added generalizing entries with
  | nil => rw [List.foldl_nil, List.append_nil]
  | cons entry added ih =>
    have hmiddle : (entries ++ entry :: added).Perm (entry :: entries ++ added) :=
      List.perm_middle
    have hnodup : ((entry :: entries ++ added).map (·.1)).Nodup := (hmiddle.map _).nodup_iff.1 h
    have hfresh : ∀ other ∈ entries, entry.1 ≠ other.1 := by
      intro other hother heq
      rw [List.cons_append, List.map_cons, List.nodup_cons] at hnodup
      apply hnodup.1
      rw [heq]
      exact List.mem_map_of_mem (List.mem_append_left _ hother)
    have hinsert := perm_insert hfresh entry.2
    rw [List.foldl_cons]
    exact (ih (((hinsert.append_right added).map _).nodup_iff.2 hnodup)).trans
      ((hinsert.append_right added).trans hmiddle.symm)

/-- Entries of different keys are only put in order. -/
theorem perm_ofList {entries : List (String × α)} (h : (entries.map (·.1)).Nodup) :
    (ofList entries).Perm entries :=
  perm_foldl_insert h

/-- An insertion is seen under its own key only. -/
theorem get?_insert (key other : String) (value : α) (entries : List (String × α)) :
    get? other (insert key value entries) =
      if other = key then some value else get? other entries := by
  induction entries with
  | nil => rfl
  | cons first rest ih =>
    by_cases hkey : other = key
    · subst hkey
      simp only [insert]
      split
      · simp [get?]
      · split
        · simp [get?]
        · rename_i hne
          simp only [get?, if_neg hne, ih]
    · simp only [insert]
      split
      · simp [get?, hkey]
      · split
        · rename_i heq
          simp [get?, hkey, ← heq]
        · simp only [get?, ih, if_neg hkey]

/-- Entries of other keys do not hide what was inserted before. -/
theorem get?_ofList_append {key : String} {later : List (String × α)}
    (h : ∀ entry ∈ later, key ≠ entry.1) (entries : List (String × α)) :
    get? key (ofList (entries ++ later)) = get? key (ofList entries) := by
  rw [ofList, List.foldl_append, ← ofList]
  generalize ofList entries = sorted
  induction later generalizing sorted with
  | nil => rfl
  | cons entry later ih =>
    obtain ⟨hentry, hlater⟩ := List.forall_mem_cons.1 h
    rw [List.foldl_cons, ih hlater, get?_insert, if_neg hentry]

theorem get?_foldl_insert (key : String) (added entries : List (String × α)) :
    get? key (added.foldl (fun sorted entry => insert entry.1 entry.2 sorted) entries) =
      ((added.filter fun entry => entry.1 == key).map (·.2)).getLast?.or (get? key entries) := by
  induction added generalizing entries with
  | nil => rfl
  | cons entry added ih =>
    rw [List.foldl_cons, ih, get?_insert]
    by_cases hkey : key = entry.1
    · subst hkey
      rw [List.filter_cons_of_pos (by simp), List.map_cons, List.getLast?_cons, if_pos rfl]
      cases ((added.filter fun other => other.1 == entry.1).map (·.2)).getLast? with
      | none => rfl
      | some last => rfl
    · rw [List.filter_cons_of_neg (by simpa using Ne.symm hkey), if_neg hkey]

/-- Of the values that a list gives a key, the last one counts. -/
theorem get?_ofList (key : String) (entries : List (String × α)) :
    get? key (ofList entries) =
      ((entries.filter fun entry => entry.1 == key).map (·.2)).getLast? := by
  rw [ofList, get?_foldl_insert, get?, Option.or_none]

theorem isSome_get?_iff {key : String} {entries : List (String × α)} :
    (get? key entries).isSome = true ↔ key ∈ entries.map (·.1) := by
  induction entries with
  | nil => simp [get?]
  | cons entry entries ih =>
    rw [get?, List.map_cons, List.mem_cons]
    split
    next h => simp [h]
    next h => simp [h, ih]

theorem get?_map (f : α → β) (key : String) (entries : List (String × α)) :
    get? key (entries.map fun entry => (entry.1, f entry.2)) = (get? key entries).map f := by
  induction entries with
  | nil => rfl
  | cons first rest ih =>
    rw [List.map_cons, get?, get?, ih]
    split
    · rfl
    · rfl

/-- What is dropped is no longer found, and everything else still is. -/
theorem get?_erase (key other : String) (entries : List (String × α)) :
    get? other (erase key entries) = if other = key then none else get? other entries := by
  induction entries with
  | nil => simp [erase, get?]
  | cons first rest ih =>
    simp only [erase, List.filter_cons] at ih ⊢
    by_cases hfirst : first.1 = key
    · simp only [hfirst, ne_eq, not_true, decide_false, Bool.false_eq_true, if_false, ih, get?]
      split
      · rfl
      · rfl
    · simp only [ne_eq, hfirst, not_false_eq_true, decide_true, if_true, get?, ih]
      split
      · rename_i hother
        simp [hother, hfirst]
      · rfl

end Entries

/-- A finite map from text to `α`. -/
structure Dict (α : Type u) where
  entries : List (String × α)
  ascending : Entries.Ascending entries
deriving DecidableEq

namespace Dict

variable {α : Type u} {β : Type v}

/-- The dictionary without entries. -/
def empty : Dict α := ⟨[], List.Pairwise.nil⟩

instance : EmptyCollection (Dict α) := ⟨empty⟩

instance : Inhabited (Dict α) := ⟨empty⟩

/-- Stores a value under a key, replacing what the key held. -/
def insert (dict : Dict α) (key : String) (value : α) : Dict α :=
  ⟨Entries.insert key value dict.entries, Entries.ascending_insert dict.ascending⟩

def get? (dict : Dict α) (key : String) : Option α :=
  Entries.get? key dict.entries

/-- Whether the key holds a value. -/
def contains (dict : Dict α) (key : String) : Bool :=
  (dict.get? key).isSome

/-- Drops what the key holds. -/
def erase (dict : Dict α) (key : String) : Dict α :=
  ⟨Entries.erase key dict.entries, dict.ascending.filter _⟩

/-- The dictionary of a list of entries; the last entry of a key wins. -/
def ofList (entries : List (String × α)) : Dict α :=
  ⟨Entries.ofList entries, Entries.ascending_ofList entries⟩

/-- The entries in key order. -/
def toList (dict : Dict α) : List (String × α) := dict.entries

/-- The keys in order. -/
def keys (dict : Dict α) : List String := dict.entries.map (·.1)

/-- Whether there are no entries. -/
def isEmpty (dict : Dict α) : Bool := dict.entries.isEmpty

/-- Overwrites the entries of `dict` by those of `newer`. -/
def merge (dict newer : Dict α) : Dict α :=
  newer.entries.foldl (fun merged entry => merged.insert entry.1 entry.2) dict

/-- Applies a function to every value. -/
def mapValues (f : α → β) (dict : Dict α) : Dict β :=
  ⟨dict.entries.map (fun entry => (entry.1, f entry.2)), by
    refine List.pairwise_map.2 ?_
    exact dict.ascending⟩

/-- Renames every key; of several entries that receive one name, the one whose
old key was last wins. -/
def mapKeys (f : String → String) (dict : Dict α) : Dict α :=
  ofList (dict.entries.map (fun entry => (f entry.1, entry.2)))

@[simp]
theorem get?_empty (key : String) : (∅ : Dict α).get? key = none := rfl

@[simp]
theorem get?_insert (dict : Dict α) (key other : String) (value : α) :
    (dict.insert key value).get? other = if other = key then some value else dict.get? other :=
  Entries.get?_insert key other value dict.entries

@[simp]
theorem get?_erase (dict : Dict α) (key other : String) :
    (dict.erase key).get? other = if other = key then none else dict.get? other :=
  Entries.get?_erase key other dict.entries

/-- Of the values that a list gives a key, the last one counts. -/
theorem get?_ofList (entries : List (String × α)) (key : String) :
    (ofList entries).get? key =
      ((entries.filter fun entry => entry.1 == key).map (·.2)).getLast? :=
  Entries.get?_ofList key entries

/-- A dictionary is made of its entries. -/
theorem ofList_entries (dict : Dict α) : ofList dict.entries = dict := by
  have hentries : Entries.ofList dict.entries = dict.entries :=
    Entries.ofList_of_ascending dict.ascending
  simp only [ofList, hentries]

theorem mem_keys_iff {dict : Dict α} {key : String} :
    key ∈ dict.keys ↔ (dict.get? key).isSome = true :=
  Entries.isSome_get?_iff.symm

theorem nodup_keys (dict : Dict α) : dict.keys.Nodup := by
  apply List.pairwise_map.2
  apply dict.ascending.imp
  intro entry other hlt hsame
  exact String.lt_irrefl _ (hsame ▸ hlt)

/-- Two dictionaries with the same entries are equal. -/
theorem eq_of_perm {left right : Dict α} (h : left.entries.Perm right.entries) : left = right := by
  obtain ⟨entries, hleft⟩ := left
  obtain ⟨others, hright⟩ := right
  obtain rfl : entries = others := by
    apply h.eq_of_pairwise _ hleft hright
    intro entry other _ _ hlt hgt
    exact absurd hgt (String.lt_asymm hlt)
  rfl

/-- No entry is lost when different keys receive different names. -/
theorem perm_mapKeys {f : String → String} {dict : Dict α}
    (h : ∀ key ∈ dict.keys, ∀ other ∈ dict.keys, f key = f other → key = other) :
    (dict.mapKeys f).entries.Perm (dict.entries.map fun entry => (f entry.1, entry.2)) := by
  apply Entries.perm_ofList
  rw [List.map_map]
  apply List.pairwise_map.2
  apply dict.ascending.imp_of_mem
  intro entry other hentry hother hlt hsame
  have heq := h _ (List.mem_map_of_mem hentry) _ (List.mem_map_of_mem hother) hsame
  rw [heq] at hlt
  exact String.lt_irrefl _ hlt

/-- Names that can be turned back make the old dictionary again. -/
theorem mapKeys_mapKeys {f g : String → String} {dict : Dict α}
    (h : ∀ key ∈ dict.keys, g (f key) = key) : (dict.mapKeys f).mapKeys g = dict := by
  have hrenamed : (dict.mapKeys f).entries.Perm
      (dict.entries.map fun entry => (f entry.1, entry.2)) := by
    apply perm_mapKeys
    intro key hkey other hother hsame
    rw [← h key hkey, hsame, h other hother]
  have hback : ∀ key ∈ (dict.mapKeys f).keys, f (g key) = key := by
    intro key hkey
    have hmem := (hrenamed.map (·.1)).mem_iff.1 hkey
    rw [List.map_map] at hmem
    obtain ⟨entry, hentry, rfl⟩ := List.mem_map.1 hmem
    exact congrArg f (h _ (List.mem_map_of_mem hentry))
  have hreturned : ((dict.mapKeys f).mapKeys g).entries.Perm
      ((dict.mapKeys f).entries.map fun entry => (g entry.1, entry.2)) := by
    apply perm_mapKeys
    intro key hkey other hother hsame
    rw [← hback key hkey, hsame, hback other hother]
  apply eq_of_perm
  apply (hreturned.trans (hrenamed.map _)).trans
  rw [List.map_map]
  apply List.Perm.of_eq
  calc dict.entries.map ((fun entry => (g entry.1, entry.2)) ∘ fun entry => (f entry.1, entry.2))
      = dict.entries.map id := by
        apply List.map_congr_left
        intro entry hentry
        exact Prod.ext (h _ (List.mem_map_of_mem hentry)) rfl
    _ = dict.entries := List.map_id _

theorem get?_mapValues (f : α → β) (dict : Dict α) (key : String) :
    (dict.mapValues f).get? key = (dict.get? key).map f :=
  Entries.get?_map f key dict.entries

end Dict

end LocalCloud
