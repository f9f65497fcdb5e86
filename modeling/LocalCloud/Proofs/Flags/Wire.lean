import LocalCloud.Proofs.Flags.Known

/-!
# Flags on the wire

The names on the wire are converted once as a whole object and once more one by one.  An
ASCII name in snake_case is its own snake_case, so the second conversion changes nothing,
and what is read is the object with its keys renamed.  The known names can be told apart in
camelCase too, so nothing is lost on the way out.
-/

namespace LocalCloud.Flags

open Text (IsAscii IsCamelCase toCamelCase toSnakeCase)

/-- What the last spelling of a name holds in an object from the wire. -/
def HoldsOnWire (wire : Dict Json.Value) (name : String) (value : Json.Value) : Prop :=
  ∃ key, wire.IsLastSpelling toSnakeCase name key ∧ wire.get? key = some value

section Reading

variable {wire : Dict Json.Value} {named : Dict Bool} {flags : Flags} {name : String}

theorem get?_mapKeys_eq_some_iff_holdsOnWire {value : Json.Value} :
    (wire.mapKeys toSnakeCase).get? name = some value ↔ HoldsOnWire wire name value :=
  Dict.get?_mapKeys_eq_some_iff

/-- Values are all Booleans when they can be made of Booleans. -/
theorem exists_mapValues_bool_iff {dict : Dict Json.Value} :
    (∃ named : Dict Bool, dict = named.mapValues .bool) ↔
      ∀ name value, dict.get? name = some value → ∃ setting, value = .bool setting := by
  constructor
  · rintro ⟨named, rfl⟩ name value hvalue
    rw [Dict.get?_mapValues, Option.map_eq_some_iff] at hvalue
    obtain ⟨setting, -, rfl⟩ := hvalue
    exact ⟨setting, rfl⟩
  · intro hbool
    refine ⟨dict.mapValues fun value => value.asBool?.getD false, ?_⟩
    apply Dict.ext_get?
    intro name
    rw [Dict.get?_mapValues, Dict.get?_mapValues]
    cases hget : dict.get? name with
    | none => rfl
    | some value =>
      obtain ⟨setting, rfl⟩ := hbool name value hget
      rfl

variable (hascii : ∀ key ∈ wire.keys, IsAscii key)
  (hnamed : wire.mapKeys toSnakeCase = named.mapValues .bool)
include hascii

section Named

include hnamed

theorem toSnakeCase_of_mem_keys (h : name ∈ named.keys) : toSnakeCase name = name := by
  have hname : name ∈ (wire.mapKeys toSnakeCase).keys := by
    rwa [hnamed, Dict.keys_mapValues]
  obtain ⟨key, hkey, rfl⟩ := Dict.mem_keys_mapKeys_iff.1 hname
  obtain ⟨front, core, back, hframes⟩ := Text.exists_frames key
  exact hframes.toSnakeCase_toSnakeCase (hascii key hkey)

theorem forall_mem_known_iff :
    (∀ name ∈ named.keys, toSnakeCase name ∈ known) ↔
      ∀ key ∈ wire.keys, toSnakeCase key ∈ known := by
  have hkeys : named.keys = (wire.mapKeys toSnakeCase).keys := by
    rw [hnamed, Dict.keys_mapValues]
  constructor
  · intro hknown key hkey
    have hname : toSnakeCase key ∈ named.keys := by
      rw [hkeys]
      exact Dict.mem_keys_mapKeys_iff.2 ⟨key, hkey, rfl⟩
    rw [← toSnakeCase_of_mem_keys hascii hnamed hname]
    exact hknown _ hname
  · intro hknown name hname
    rw [toSnakeCase_of_mem_keys hascii hnamed hname]
    rw [hkeys] at hname
    obtain ⟨key, hkey, rfl⟩ := Dict.mem_keys_mapKeys_iff.1 hname
    exact hknown key hkey

end Named

/-- What is read is the object with its keys renamed. -/
theorem ofWire_eq_ok_iff_of_ascii :
    ofWire wire = .ok flags ↔
      (∀ key ∈ wire.keys, toSnakeCase key ∈ known) ∧
        wire.mapKeys toSnakeCase = flags.settings.mapValues .bool := by
  rw [ofWire_eq_ok_iff]
  constructor
  · rintro ⟨named, hnamed, hknown, rfl⟩
    rw [Dict.mapKeys_of_forall fun name => toSnakeCase_of_mem_keys hascii hnamed]
    exact ⟨(forall_mem_known_iff hascii hnamed).1 hknown, hnamed⟩
  · rintro ⟨hknown, hnamed⟩
    refine ⟨flags.settings, hnamed, (forall_mem_known_iff hascii hnamed).2 hknown, ?_⟩
    rw [Dict.mapKeys_of_forall fun name => toSnakeCase_of_mem_keys hascii hnamed]

theorem exists_ofWire_iff :
    (∃ flags, ofWire wire = .ok flags) ↔
      (∀ key ∈ wire.keys, toSnakeCase key ∈ known) ∧
        ∀ name value, HoldsOnWire wire name value → ∃ setting, value = .bool setting := by
  simp only [ofWire_eq_ok_iff_of_ascii hascii, ← get?_mapKeys_eq_some_iff_holdsOnWire,
    ← exists_mapValues_bool_iff]
  constructor
  · rintro ⟨flags, hknown, hnamed⟩
    exact ⟨hknown, flags.settings, hnamed⟩
  · rintro ⟨hknown, named, hnamed⟩
    exact ⟨⟨named⟩, hknown, hnamed⟩

theorem get?_eq_some_iff_of_ofWire (h : ofWire wire = .ok flags) {setting : Bool} :
    flags.settings.get? name = some setting ↔ HoldsOnWire wire name (.bool setting) := by
  obtain ⟨-, hnamed⟩ := (ofWire_eq_ok_iff_of_ascii hascii).1 h
  rw [← get?_mapKeys_eq_some_iff_holdsOnWire, hnamed, Dict.get?_mapValues, Option.map_eq_some_iff]
  constructor
  · intro hget
    exact ⟨setting, hget, rfl⟩
  · rintro ⟨found, hget, hsame⟩
    rwa [Json.Value.bool.inj hsame] at hget

end Reading

section Writing

variable {flags newer : Flags} {name key : String} {value : Json.Value}

theorem isAscii_toCamelCase_of_known (h : name ∈ known) : IsAscii (toCamelCase name) := by
  have hall : ∀ name ∈ known, (toCamelCase name).toList.all (fun c => c.toNat < 128) = true := by
    decide +kernel
  intro c hc
  exact of_decide_eq_true (List.all_eq_true.1 (hall name h) c hc)

theorem isCamelCase_of_known (h : name ∈ known) : IsCamelCase (toCamelCase name) := by
  obtain ⟨front, core, back, hframes⟩ := Text.exists_frames (toCamelCase name)
  rw [← hframes.toCamelCase_toSnakeCase_iff (isAscii_toCamelCase_of_known h),
    (known_spelled name h).2]

/-- Known names that differ still differ in camelCase. -/
theorem eq_of_toCamelCase_eq {other : String} (h : name ∈ known) (hother : other ∈ known)
    (hsame : toCamelCase name = toCamelCase other) : name = other := by
  rw [← (known_spelled name h).2, hsame, (known_spelled other hother).2]

theorem get?_toWire_of_known (h : flags.AllKnown) (hname : name ∈ known) :
    flags.toWire.get? (toCamelCase name) = (flags.settings.get? name).map .bool := by
  rw [toWire, Dict.get?_mapValues, wireSettings, Dict.get?_mapKeys_apply]
  intro other hother hsame
  exact eq_of_toCamelCase_eq (h other hother) hname hsame

theorem get?_toWire_eq_none (h : flags.AllKnown) (hkey : ∀ name ∈ known, toCamelCase name ≠ key) :
    flags.toWire.get? key = none := by
  rw [← Option.not_isSome_iff_eq_none, ← Dict.mem_keys_iff, mem_keys_toWire_iff]
  rintro ⟨name, hname, hspells⟩
  exact hkey name (h name hname) hspells

theorem get?_toWire_eq_some_iff (h : flags.AllKnown) :
    flags.toWire.get? key = some value ↔
      ∃ name setting, key = toCamelCase name ∧ value = .bool setting ∧
        flags.settings.get? name = some setting := by
  constructor
  · intro hget
    obtain ⟨name, hname, rfl⟩ := mem_keys_toWire_iff.1 (Dict.mem_keys_of_get? hget)
    rw [get?_toWire_of_known h (h name hname), Option.map_eq_some_iff] at hget
    obtain ⟨setting, hsetting, rfl⟩ := hget
    exact ⟨name, setting, rfl, rfl, hsetting⟩
  · rintro ⟨name, setting, rfl, rfl, hsetting⟩
    rw [get?_toWire_of_known h (h name (Dict.mem_keys_of_get? hsetting)), hsetting, Option.map_some]

theorem perm_toWire (h : flags.AllKnown) :
    flags.toWire.entries.Perm
      (flags.settings.entries.map fun setting => (toCamelCase setting.1, .bool setting.2)) := by
  have hkeys := Dict.perm_mapKeys (f := toCamelCase) fun name hname other hother =>
    eq_of_toCamelCase_eq (h name hname) (h other hother)
  have hentries := hkeys.map fun setting => (setting.1, Json.Value.bool setting.2)
  rw [List.map_map] at hentries
  exact hentries

theorem AllKnown.merge (h : flags.AllKnown) (hnewer : newer.AllKnown) :
    (flags.merge newer).AllKnown := by
  intro name hname
  rcases Dict.mem_keys_merge.1 hname with hname | hname
  · exact h name hname
  · exact hnewer name hname

theorem toWire_merge (h : flags.AllKnown) (hnewer : newer.AllKnown) :
    (flags.merge newer).toWire = flags.toWire.merge newer.toWire := by
  apply Dict.ext_get?
  intro key
  rw [Dict.get?_merge]
  by_cases hkey : ∃ name ∈ known, toCamelCase name = key
  · obtain ⟨name, hname, rfl⟩ := hkey
    rw [get?_toWire_of_known (h.merge hnewer) hname, get?_toWire_of_known h hname,
      get?_toWire_of_known hnewer hname, merge, Dict.get?_merge, Option.map_or]
  · have hother : ∀ name ∈ known, toCamelCase name ≠ key := by
      intro name hname hspells
      exact hkey ⟨name, hname, hspells⟩
    rw [get?_toWire_eq_none (h.merge hnewer) hother, get?_toWire_eq_none h hother,
      get?_toWire_eq_none hnewer hother, Option.none_or]

/-- What is sent is read back. -/
theorem ofWire_toWire (h : flags.AllKnown) : ofWire flags.toWire = .ok flags := by
  have hsnake : ∀ name ∈ flags.settings.keys, toSnakeCase name = name := fun name hname =>
    (known_spelled name (h name hname)).1
  have hcamel : ∀ name ∈ flags.settings.keys, toSnakeCase (toCamelCase name) = name :=
    fun name hname => (known_spelled name (h name hname)).2
  apply ofWire_eq_ok_iff.2
  refine ⟨flags.settings, ?wire, ?known, ?settings⟩
  case wire => rw [toWire, wireSettings, Dict.mapKeys_mapValues, Dict.mapKeys_mapKeys hcamel]
  case known =>
    intro name hname
    rw [hsnake name hname]
    exact h name hname
  case settings => rw [Dict.mapKeys_of_forall hsnake]

end Writing

/-- How flags are read from the wire and written to it. -/
structure TravelsOnWire : Prop where
  succeeds : ∀ wire : Dict Json.Value, (∀ key ∈ wire.keys, IsAscii key) →
    ((∃ flags, ofWire wire = .ok flags) ↔ (∀ key ∈ wire.keys, toSnakeCase key ∈ known) ∧
      ∀ name value, HoldsOnWire wire name value → ∃ setting, value = .bool setting)
  holds : ∀ (wire : Dict Json.Value) (flags : Flags), (∀ key ∈ wire.keys, IsAscii key) →
    ofWire wire = .ok flags → ∀ name setting,
      flags.settings.get? name = some setting ↔ HoldsOnWire wire name (.bool setting)
  fails : ∀ wire failure, ofWire wire = .error failure → ∃ detail, failure = .validation detail
  back : ∀ flags, Made ∅ flags → ofWire flags.toWire = .ok flags
  /-- Every flag is sent under a key of its own. -/
  keys : ∀ flags, Made ∅ flags →
    flags.toWire.entries.Perm
        (flags.settings.entries.map fun setting => (toCamelCase setting.1, .bool setting.2)) ∧
      ∀ key ∈ flags.toWire.keys, IsCamelCase key
  merge : ∀ flags newer, Made ∅ flags → Made ∅ newer →
    (flags.merge newer).toWire = flags.toWire.merge newer.toWire

theorem travelsOnWire : TravelsOnWire where
  succeeds := by
    intro wire hascii
    exact exists_ofWire_iff hascii
  holds := by
    intro wire flags hascii hread name setting
    exact get?_eq_some_iff_of_ofWire hascii hread
  fails := by
    intro wire failure hread
    exact exists_validation_of_ofWire hread
  back := by
    intro flags hmade
    exact ofWire_toWire hmade.allKnown
  keys := by
    intro flags hmade
    apply And.intro (perm_toWire hmade.allKnown)
    intro key hkey
    obtain ⟨name, hname, rfl⟩ := mem_keys_toWire_iff.1 hkey
    exact isCamelCase_of_known (hmade.allKnown name hname)
  merge := by
    intro flags newer hflags hnewer
    exact toWire_merge hflags.allKnown hnewer.allKnown

/-- An underscore comes after the capitals, so here the snake_case spelling is the last. -/
example :
    ofWire (Dict.ofList [("overrideStore", .string "no"), ("override_store", .bool true)]) =
      .ok ⟨Dict.ofList [("override_store", true)]⟩ := by
  decide +kernel

end LocalCloud.Flags
