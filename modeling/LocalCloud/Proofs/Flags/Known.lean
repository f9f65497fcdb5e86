import LocalCloud.Flags
import LocalCloud.Json.Printer
import LocalCloud.Proofs.Dict.Spelling
import LocalCloud.Proofs.Text.Identifier
import Mathlib.Data.Set.Insert

/-!
# Names of flags

Setting a flag and reading one from the wire look its name up among the flags that the
orchestrator understands, and merging brings no new names.  Reading flags from a JSON
document looks no name up.  So the flags that any number of operations make have known
names exactly as far as the documents among them name known flags only.
-/

namespace LocalCloud

/-- What holds of every failure of a step holds of every failure of a sequence of them. -/
theorem Error.of_foldlM_eq_error {α β : Type} {step : α → β → Except Error α} {P : Error → Prop}
    (hstep : ∀ state item failure, step state item = .error failure → P failure)
    {items : List β} {start : α} {failure : Error}
    (h : items.foldlM step start = .error failure) : P failure := by
  induction items generalizing start with
  | nil => cases h
  | cons item items ih =>
    rw [List.foldlM_cons] at h
    cases hitem : step start item with
    | error found =>
      rw [hitem] at h
      obtain rfl := Except.error.inj h
      exact hstep start item found hitem
    | ok next =>
      rw [hitem] at h
      exact ih h

namespace Flags

open Text (toCamelCase toSnakeCase)

/-- Only flags that the orchestrator understands are set. -/
def AllKnown (flags : Flags) : Prop := ∀ name ∈ flags.settings.keys, name ∈ known

section Operations

variable {flags newer after : Flags} {name : String} {value : Bool} {failure : Error}
variable {settings : List (String × Bool)} {wire : Dict Json.Value} {named : Dict Bool}

theorem set_eq_ok_iff :
    flags.set name value = .ok after ↔
      toSnakeCase name ∈ known ∧ after = ⟨flags.settings.insert (toSnakeCase name) value⟩ := by
  rw [set]
  split
  next hknown => rw [Except.ok.injEq, eq_comm, and_iff_right hknown]
  next hunknown => exact iff_of_false nofun fun h => hunknown h.1

theorem exists_validation_of_set (h : flags.set name value = .error failure) :
    ∃ detail, failure = .validation detail := by
  rw [set] at h
  split at h
  next => cases h
  next => exact ⟨_, (Except.error.inj h).symm⟩

theorem setAll_nil (flags : Flags) : flags.setAll [] = .ok flags := rfl

theorem setAll_cons (flags : Flags) (setting : String × Bool) (settings : List (String × Bool)) :
    flags.setAll (setting :: settings) =
      flags.set setting.1 setting.2 >>= fun flags => flags.setAll settings :=
  List.foldlM_cons

/-- The settings of a list are inserted one after the other under their snake_case names. -/
theorem setAll_eq_ok_iff :
    flags.setAll settings = .ok after ↔
      (∀ setting ∈ settings, toSnakeCase setting.1 ∈ known) ∧
        after = ⟨(settings.map fun setting => (toSnakeCase setting.1, setting.2)).foldl
          (fun dict setting => dict.insert setting.1 setting.2) flags.settings⟩ := by
  induction settings generalizing flags with
  | nil =>
    rw [setAll_nil, Except.ok.injEq, and_iff_right (List.forall_mem_nil _)]
    exact eq_comm
  | cons setting settings ih =>
    rw [setAll_cons, Error.bind_eq_ok_iff, List.forall_mem_cons, List.map_cons, List.foldl_cons,
      and_assoc]
    constructor
    · rintro ⟨middle, hset, hrest⟩
      obtain ⟨hname, rfl⟩ := set_eq_ok_iff.1 hset
      exact ⟨hname, ih.1 hrest⟩
    · rintro ⟨hname, hrest⟩
      exact ⟨_, set_eq_ok_iff.2 ⟨hname, rfl⟩, ih.2 hrest⟩

/-- Flags that are set by the entries of a dictionary hold them under the names that its
keys spell. -/
theorem setAll_entries_eq_ok_iff :
    empty.setAll named.entries = .ok after ↔
      (∀ name ∈ named.keys, toSnakeCase name ∈ known) ∧ after = ⟨named.mapKeys toSnakeCase⟩ := by
  rw [setAll_eq_ok_iff, Dict.mapKeys, ← Dict.foldl_insert_empty, Dict.keys, List.forall_mem_map]
  rfl

/-- Settings from the wire are set when all of them are Booleans. -/
theorem foldlM_setWire_eq_ok_iff {settings : List (String × Json.Value)} :
    settings.foldlM setWire flags = .ok after ↔
      ∃ values : List (String × Bool),
        settings = values.map (fun setting => (setting.1, .bool setting.2)) ∧
          flags.setAll values = .ok after := by
  induction settings generalizing flags with
  | nil =>
    constructor
    · intro h
      exact ⟨[], rfl, h⟩
    · rintro ⟨values, hvalues, h⟩
      obtain rfl := List.map_eq_nil_iff.1 hvalues.symm
      exact h
  | cons setting settings ih =>
    rw [List.foldlM_cons, Error.bind_eq_ok_iff]
    constructor
    · rintro ⟨middle, hset, hrest⟩
      obtain ⟨values, rfl, hvalues⟩ := ih.1 hrest
      obtain ⟨name, value⟩ := setting
      cases value with
      | bool value =>
        refine ⟨(name, value) :: values, rfl, ?_⟩
        rw [setAll_cons, Error.bind_eq_ok_iff]
        exact ⟨middle, hset, hvalues⟩
      | null | number _ | string _ | array _ | object _ => cases hset
    · rintro ⟨values, hvalues, h⟩
      obtain ⟨⟨name, value⟩, values, rfl, rfl, rfl⟩ := List.map_eq_cons_iff.1 hvalues.symm
      rw [setAll_cons, Error.bind_eq_ok_iff] at h
      obtain ⟨middle, hset, hrest⟩ := h
      exact ⟨middle, hset, ih.2 ⟨values, rfl, hrest⟩⟩

theorem ofWire_eq_ok_iff :
    ofWire wire = .ok after ↔
      ∃ named : Dict Bool, wire.mapKeys toSnakeCase = named.mapValues .bool ∧
        (∀ name ∈ named.keys, toSnakeCase name ∈ known) ∧ after = ⟨named.mapKeys toSnakeCase⟩ := by
  rw [ofWire, foldlM_setWire_eq_ok_iff]
  constructor
  · rintro ⟨values, hentries, hset⟩
    have hwire : List.Pairwise (fun left right => left.1 < right.1)
        (values.map fun setting => (setting.1, Json.Value.bool setting.2)) :=
      hentries ▸ (wire.mapKeys toSnakeCase).ascending
    have hascending := List.pairwise_map.1 hwire
    let named : Dict Bool := ⟨values, hascending⟩
    have hnamed : wire.mapKeys toSnakeCase = named.mapValues .bool :=
      Dict.eq_of_perm (List.Perm.of_eq hentries)
    exact ⟨named, hnamed, setAll_entries_eq_ok_iff.1 hset⟩
  · rintro ⟨named, hnamed, hset⟩
    exact ⟨named.entries, congrArg Dict.entries hnamed, setAll_entries_eq_ok_iff.2 hset⟩

theorem exists_validation_of_ofWire (h : ofWire wire = .error failure) :
    ∃ detail, failure = .validation detail := by
  refine Error.of_foldlM_eq_error (P := fun failure => ∃ detail, failure = .validation detail) ?_ h
  intro flags setting failure hset
  obtain ⟨name, value⟩ := setting
  cases value with
  | bool value => exact exists_validation_of_set hset
  | null | number _ | string _ | array _ | object _ => exact ⟨_, (Except.error.inj hset).symm⟩

end Operations

section Documents

variable {flags : Flags} {node : Json.Node} {name : String}

/-- The names of the members of an object. -/
def namesIn : Json.Node → List String
  | .object fields => fields.filterMap (·.1)
  | _ => []

/-- A list is read from what its items are read from. -/
theorem mapM_eq_some_iff_of_item {α β : Type} {read : α → Option β} {print : β → α}
    (h : ∀ item result, read item = some result ↔ item = print result) {items : List α}
    {results : List β} : items.mapM read = some results ↔ items = results.map print := by
  induction items generalizing results with
  | nil =>
    rw [List.mapM_nil, eq_comm (a := []), List.map_eq_nil_iff, Option.pure_def, Option.some.injEq]
    exact eq_comm
  | cons item items ih =>
    simp only [List.mapM_cons, Option.bind_eq_bind, Option.bind_eq_some_iff, Option.pure_def,
      Option.some.injEq]
    constructor
    · rintro ⟨first, hfirst, others, hothers, rfl⟩
      rw [List.map_cons, ← (h item first).1 hfirst, ← ih.1 hothers]
    · intro hresults
      obtain ⟨first, others, rfl, hfirst, hothers⟩ := List.map_eq_cons_iff.1 hresults.symm
      exact ⟨first, (h item first).2 hfirst.symm, others, ih.2 hothers.symm, rfl⟩

theorem decodeBool_eq_some_iff {value : Bool} :
    Json.Decode.bool node = some value ↔ node = .bool value := by
  cases node with
  | bool found => rw [Json.Decode.bool, Option.some.injEq, Json.Node.bool.injEq]
  | null | number _ | string _ | array _ | object _ => exact iff_of_false nofun nofun

/-- Flags are read from an object of Booleans, whatever its names are. -/
theorem decode_eq_some_iff :
    decode node = some flags ↔
      ∃ settings : List (String × Bool),
        node = .object (settings.map fun setting => (some setting.1, .bool setting.2)) ∧
          flags = ⟨Dict.ofList settings⟩ := by
  have hfield (field : Option String × Json.Node) (setting : String × Bool) :
      (do
        let key ← field.1
        let value ← Json.Decode.bool field.2
        some (key, value)) = some setting ↔ field = (some setting.1, .bool setting.2) := by
    obtain ⟨key, value⟩ := field
    obtain ⟨name, setting⟩ := setting
    simp [Option.bind_eq_some_iff, decodeBool_eq_some_iff]
  cases node with
  | object fields =>
    simp only [decode, Json.Decode.dict, Option.bind_eq_bind, Option.bind_eq_some_iff,
      Option.map_eq_some_iff, Option.some.injEq, Json.Node.object.injEq]
    constructor
    · rintro ⟨dict, ⟨settings, hfields, rfl⟩, rfl⟩
      exact ⟨settings, (mapM_eq_some_iff_of_item hfield).1 hfields, rfl⟩
    · rintro ⟨settings, hfields, rfl⟩
      exact ⟨_, ⟨settings, (mapM_eq_some_iff_of_item hfield).2 hfields, rfl⟩, rfl⟩
  | null | bool _ | number _ | string _ | array _ =>
    constructor
    · exact nofun
    · rintro ⟨settings, hnode, -⟩
      cases hnode

theorem mem_keys_of_decode (h : decode node = some flags) :
    name ∈ flags.settings.keys ↔ name ∈ namesIn node := by
  obtain ⟨settings, rfl, rfl⟩ := decode_eq_some_iff.1 h
  have hnames : (settings.map fun setting =>
      (some setting.1, Json.Node.bool setting.2)).filterMap (·.1) = settings.map (·.1) := by
    rw [List.filterMap_map, ← List.filterMap_eq_map]
    rfl
  rw [Dict.mem_keys_ofList, namesIn, hnames]

end Documents

/-- The flags that operations make of each other and of what the documents hold. -/
inductive Made (documents : Set Json.Node) : Flags → Prop where
  | empty : Made documents empty
  | set {flags after : Flags} {name : String} {value : Bool} (hflags : Made documents flags)
    (hset : flags.set name value = .ok after) : Made documents after
  | merge {flags newer : Flags} (hflags : Made documents flags) (hnewer : Made documents newer) :
    Made documents (flags.merge newer)
  | ofWire {wire : Dict Json.Value} {flags : Flags} (hwire : ofWire wire = .ok flags) :
    Made documents flags
  | decode {document : Json.Node} {flags : Flags} (hmem : document ∈ documents)
    (hdecode : decode document = some flags) : Made documents flags

/-- Some document that flags are read from has a member of this name. -/
def IsNamedBy (documents : Set Json.Node) (name : String) : Prop :=
  ∃ document ∈ documents, (decode document).isSome = true ∧ name ∈ namesIn document

section Names

variable {documents : Set Json.Node} {flags : Flags} {name key : String} {value : Bool}

/-- The flags that are understood have their snake_case names, and their camelCase names
lead back to these. -/
theorem known_spelled :
    ∀ name ∈ known, toSnakeCase name = name ∧ toSnakeCase (toCamelCase name) = name := by
  decide +kernel

theorem allKnown_of_ofWire {wire : Dict Json.Value} (h : ofWire wire = .ok flags) :
    flags.AllKnown := by
  obtain ⟨named, -, hnames, rfl⟩ := ofWire_eq_ok_iff.1 h
  intro name hname
  obtain ⟨key, hkey, rfl⟩ := Dict.mem_keys_mapKeys_iff.1 hname
  exact hnames key hkey

/-- Every operation but the reading of documents keeps to known names. -/
theorem Made.known_or_isNamedBy (h : Made documents flags) (hname : name ∈ flags.settings.keys) :
    name ∈ known ∨ IsNamedBy documents name := by
  induction h generalizing name with
  | empty => cases hname
  | set _ hset ih =>
    obtain ⟨hknown, rfl⟩ := set_eq_ok_iff.1 hset
    rcases Dict.mem_keys_insert.1 hname with rfl | hname
    · exact .inl hknown
    · exact ih hname
  | merge _ _ ih ihnewer =>
    rcases Dict.mem_keys_merge.1 hname with hname | hname
    · exact ih hname
    · exact ihnewer hname
  | ofWire hwire => exact .inl (allKnown_of_ofWire hwire name hname)
  | decode hmem hdecode =>
    right
    exact ⟨_, hmem, Option.isSome_of_eq_some hdecode, (mem_keys_of_decode hdecode).1 hname⟩

theorem Made.allKnown (h : Made ∅ flags) : flags.AllKnown := by
  intro name hname
  rcases h.known_or_isNamedBy hname with hknown | ⟨document, hmem, -⟩
  · exact hknown
  · exact absurd hmem (Set.notMem_empty document)

theorem exists_made_of_known (documents : Set Json.Node) (h : name ∈ known) :
    ∃ flags, Made documents flags ∧ name ∈ flags.settings.keys := by
  obtain ⟨hspelled, -⟩ := known_spelled name h
  have hset : empty.set name true = .ok ⟨empty.settings.insert name true⟩ := by
    rw [set_eq_ok_iff, hspelled]
    exact ⟨h, rfl⟩
  exact ⟨_, Made.empty.set hset, Dict.mem_keys_insert.2 (.inl rfl)⟩

theorem exists_made_of_isNamedBy (h : IsNamedBy documents name) :
    ∃ flags, Made documents flags ∧ name ∈ flags.settings.keys := by
  obtain ⟨document, hmem, hread, hname⟩ := h
  obtain ⟨flags, hdecode⟩ := Option.isSome_iff_exists.1 hread
  exact ⟨flags, .decode hmem hdecode, (mem_keys_of_decode hdecode).2 hname⟩

theorem mem_keys_toWire_iff :
    key ∈ flags.toWire.keys ↔ ∃ name ∈ flags.settings.keys, toCamelCase name = key := by
  rw [toWire, Dict.keys_mapValues, wireSettings, Dict.mem_keys_mapKeys_iff]

theorem get_of_known (h : name ∈ known) (hget : flags.settings.get? name = some value) :
    flags.get name = value ∧ flags.get (toCamelCase name) = value := by
  obtain ⟨hsnake, hcamel⟩ := known_spelled name h
  rw [get, get, hsnake, hcamel, hget]
  exact ⟨rfl, rfl⟩

end Names

/-- Which names the flags have that are made with some documents, and what becomes of
them. -/
structure NamesAsRead (documents : Set Json.Node) : Prop where
  /-- Besides the known names it is those in the documents that are held, unchecked. -/
  held : ∀ name, (∃ flags, Made documents flags ∧ name ∈ flags.settings.keys) ↔
    name ∈ known ∨ IsNamedBy documents name
  /-- Flags keep to known names exactly when the documents do. -/
  allKnown : (∀ flags, Made documents flags → flags.AllKnown) ↔
    ∀ name, IsNamedBy documents name → name ∈ known
  found : ∀ (flags : Flags) (name : String) (value : Bool), name ∈ known →
    flags.settings.get? name = some value →
      flags.get name = value ∧ flags.get (toCamelCase name) = value
  /-- Every name is sent, known or not. -/
  sent : ∀ (flags : Flags) (key : String),
    key ∈ flags.toWire.keys ↔ ∃ name ∈ flags.settings.keys, toCamelCase name = key

theorem namesAsRead (documents : Set Json.Node) : NamesAsRead documents where
  held := by
    intro name
    constructor
    · rintro ⟨flags, hmade, hname⟩
      exact hmade.known_or_isNamedBy hname
    · rintro (hknown | hnamed)
      · exact exists_made_of_known documents hknown
      · exact exists_made_of_isNamedBy hnamed
  allKnown := by
    constructor
    · intro hall name hnamed
      obtain ⟨flags, hmade, hname⟩ := exists_made_of_isNamedBy hnamed
      exact hall flags hmade name hname
    · intro hdocuments flags hmade name hname
      rcases hmade.known_or_isNamedBy hname with hknown | hnamed
      · exact hknown
      · exact hdocuments name hnamed
  found := by
    intro flags name value hknown hget
    exact get_of_known hknown hget
  sent := by
    intro flags key
    exact mem_keys_toWire_iff

/-- A document with a flag in its camelCase spelling and one that does not exist: both are
held and sent, and neither spelling of the first finds it. -/
theorem exists_made_not_allKnown :
    let body : Json.Value := .object [("overrideStore", .bool true), ("teleport", .bool true)]
    ∃ document flags,
      Json.Node.ofString? body.text = some document ∧
        Made {document} flags ∧ ¬ flags.AllKnown ∧
        flags.settings.get? "overrideStore" = some true ∧ flags.get "overrideStore" = false ∧
        flags.get "override_store" = false ∧
        "teleport" ∈ flags.toWire.keys ∧ "teleport" ∉ known.map toCamelCase := by
  intro body
  let flags : Flags := ⟨Dict.ofList [("overrideStore", true), ("teleport", true)]⟩
  have hread : Json.decodeString? decode body.text = some flags := by
    decide +kernel
  obtain ⟨document, hdocument, hdecode⟩ := Option.bind_eq_some_iff.1 hread
  have hunknown : ¬ flags.AllKnown := by
    intro hall
    have hknown : "teleport" ∈ known := hall "teleport" (by decide +kernel)
    revert hknown
    decide
  exact ⟨document, flags, hdocument, .decode rfl hdecode, hunknown, by decide +kernel⟩

end Flags

end LocalCloud
