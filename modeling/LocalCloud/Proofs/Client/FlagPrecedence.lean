import LocalCloud.Proofs.Client.CoreIsolation
import LocalCloud.Proofs.Flags.Wire

/-!
# Where the flags of an orchestration come from

Three layers are merged: the defaults, the configuration file and the request.  All of
them have their flags under known snake_case names by then, so the layers meet on equal
names and the names do not collide when they are written in camelCase.  The environment
is not asked for flags.
-/

namespace LocalCloud

open Text (toCamelCase toSnakeCase)

/-- The setting of a flag in an orchestration: that of the request, else that of the last
spelling in the file, else the default. -/
inductive Decides (requested : Flags) (overlay : Overlay) (name : String) : Bool → Prop where
  | request {setting : Bool} (h : requested.settings.get? name = some setting) :
    Decides requested overlay name setting
  | file {key : String} {setting : Bool} (hrequest : requested.settings.get? name = none)
    (hlast : overlay.flags.IsLastSpelling toSnakeCase name key)
    (h : overlay.flags.get? key = some setting) : Decides requested overlay name setting
  | default {setting : Bool} (hrequest : requested.settings.get? name = none)
    (hfile : ∀ key ∈ overlay.flags.keys, toSnakeCase key ≠ name)
    (h : ({} : Config).flags.settings.get? name = some setting) :
    Decides requested overlay name setting

/-- The flags of a file, under the names that its keys spell. -/
def Overlay.namedFlags (overlay : Overlay) : Flags := ⟨overlay.flags.mapKeys toSnakeCase⟩

/-- The three layers, merged. -/
def Overlay.mergedFlags (overlay : Overlay) (requested : Flags) : Flags :=
  (({} : Config).flags.merge overlay.namedFlags).merge requested

section Layers

variable {overlay : Overlay} {requested : Flags} {name : String} {setting : Bool}

theorem get?_mergedFlags_eq_some_iff :
    (overlay.mergedFlags requested).settings.get? name = some setting ↔
      Decides requested overlay name setting := by
  rw [Overlay.mergedFlags, Flags.merge, Flags.merge, Dict.get?_merge, Dict.get?_merge,
    Option.or_eq_some_iff, Option.or_eq_some_iff, Overlay.namedFlags,
    Dict.get?_mapKeys_eq_some_iff, Dict.get?_mapKeys_eq_none_iff]
  constructor
  · rintro (hrequest | ⟨hrequest, ⟨key, hlast, hkey⟩ | ⟨hfile, hdefault⟩⟩)
    · exact .request hrequest
    · exact .file hrequest hlast hkey
    · exact .default hrequest hfile hdefault
  · intro hdecides
    cases hdecides with
    | request hrequest => exact .inl hrequest
    | file hrequest hlast hkey => exact .inr ⟨hrequest, .inl ⟨_, hlast, hkey⟩⟩
    | default hrequest hfile hdefault => exact .inr ⟨hrequest, .inr ⟨hfile, hdefault⟩⟩

theorem allKnown_default : ({} : Config).flags.AllKnown := by
  intro name hname
  rw [List.mem_singleton.1 hname]
  decide

variable (hknown : ∀ key ∈ overlay.flags.keys, toSnakeCase key ∈ Flags.known)
include hknown

theorem allKnown_namedFlags : overlay.namedFlags.AllKnown := by
  intro name hname
  obtain ⟨key, hkey, rfl⟩ := Dict.mem_keys_mapKeys_iff.1 hname
  exact hknown key hkey

theorem allKnown_mergedFlags (hrequested : requested.AllKnown) :
    (overlay.mergedFlags requested).AllKnown :=
  (allKnown_default.merge (allKnown_namedFlags hknown)).merge hrequested

end Layers

namespace Config

section Sources

variable {overlay : Overlay}

theorem ofSources_of_known (h : ∀ key ∈ overlay.flags.keys, toSnakeCase key ∈ Flags.known)
    (env : String → Option String) :
    ∃ config, ofSources overlay env = .ok config ∧
      config.flags = ({} : Config).flags.merge overlay.namedFlags := by
  have hset : Flags.empty.setAll overlay.flags.entries = .ok overlay.namedFlags :=
    Flags.setAll_entries_eq_ok_iff.2 ⟨h, rfl⟩
  rw [ofSources, fileFlags, hset]
  exact ⟨_, rfl, rfl⟩

theorem exists_ofSources_eq_error (h : ∃ key ∈ overlay.flags.keys, toSnakeCase key ∉ Flags.known) :
    ∃ detail, ∀ env, ofSources overlay env = .error (.config detail) := by
  obtain ⟨key, hkey, hunknown⟩ := h
  cases hset : Flags.empty.setAll overlay.flags.entries with
  | ok flags => exact absurd ((Flags.setAll_entries_eq_ok_iff.1 hset).1 key hkey) hunknown
  | error failure =>
    refine ⟨failure.message, ?_⟩
    intro env
    rw [ofSources, fileFlags, hset]
    rfl

end Sources

/-- Whatever a client of this configuration is asked to orchestrate with the request, it
makes one call of the orchestrator, with these flags. -/
def SendsFlags (config : Config) (request : OrchestrationRequest) (wire : Dict Json.Value) : Prop :=
  ∀ {C H E σ : Type} (client : Client C H E), client.Reachable → client.config = config →
    ∀ (network : Network (StateM σ) C) (definition method : String) (world : σ),
      ∃ consumer body answer,
        client.callsOf network (.core (.orchestrate definition method request)) world =
          [⟨consumer, CoreService.orchestration.rule config, .ofJson body, answer⟩] ∧
        body.field? "orchestrationFlags" = some (.object wire.entries)

end Config

section Body

/-- The object of flags is in order before it is put in order. -/
theorem Flags.canonical_toWire (flags : Flags) :
    (Json.Value.object flags.toWire.entries).canonical = .object flags.toWire.entries := by
  apply Json.Value.canonical_object_of_ascending flags.toWire.ascending
  rw [toWire, Dict.mapValues, List.forall_mem_map]
  intro flag hflag
  rfl

theorem OrchestrationForm.field?_flags {form : OrchestrationForm} {flags : Flags}
    (h : form.flags = flags.toWire) :
    form.toJson.canonical.field? "orchestrationFlags" = some (.object flags.toWire.entries) := by
  have hpreferred : ∀ field ∈ Json.Value.listField "preferredProviders"
      (form.preferred.map fun system => .object [("providerSystem", system.toJson)]),
        "orchestrationFlags" ≠ field.1 := by
    intro field hmem
    rw [Json.Value.mem_listField_fst hmem]
    decide
  have hcommands : ∀ field ∈ Json.Value.textsField "commands" form.commands,
      "orchestrationFlags" ≠ field.1 := by
    intro field hmem
    rw [Json.Value.mem_textsField_fst hmem]
    decide
  rw [toJson, Json.Value.field?_canonical_append hcommands,
    Json.Value.field?_canonical_append hpreferred, Json.Value.canonical,
    Json.Value.canonicalFields_eq_map, Json.Value.field?, Entries.get?_ofList, h]
  simp [Flags.canonical_toWire]

end Body

theorem Client.sendsFlags_of_reachable {config : Config} {request : OrchestrationRequest}
    {wire : Dict Json.Value} (h : (config.flags.merge request.flags).toWire = wire) :
    config.SendsFlags request wire := by
  intro C H E σ client hreachable hconfig network definition method world
  subst hconfig h
  obtain ⟨consumer, hhttp⟩ := hreachable.wellFormed.consumers.exists_http
  obtain ⟨answer, hcalls⟩ := exists_callsOf_core hhttp network
    (.orchestrate definition method request) world
  have hflags : (request.form client.system client.config.flags definition).flags =
      (client.config.flags.merge request.flags).toWire := rfl
  exact ⟨consumer, _, answer, hcalls, OrchestrationForm.field?_flags hflags⟩

/-- The flags that are sent with a request under a configuration file. -/
structure Config.PrefersFlags (overlay : Overlay) (request : OrchestrationRequest) : Prop where
  refused : (∃ key ∈ overlay.flags.keys, toSnakeCase key ∉ Flags.known) →
    ∃ detail, ∀ env, ofSources overlay env = .error (.config detail)
  /-- One object is sent in every environment. -/
  sent : (∀ key ∈ overlay.flags.keys, toSnakeCase key ∈ Flags.known) →
    ∃ wire : Dict Json.Value,
      (∀ key value, wire.get? key = some value ↔
        ∃ name setting, key = toCamelCase name ∧ value = .bool setting ∧
          Decides request.flags overlay name setting) ∧
      ∀ env, ∃ config, ofSources overlay env = .ok config ∧ config.SendsFlags request wire

theorem Config.prefersFlags_of_made (overlay : Overlay) (request : OrchestrationRequest)
    (hrequest : Flags.Made ∅ request.flags) : PrefersFlags overlay request where
  refused := exists_ofSources_eq_error
  sent := by
    intro hknown
    have hmerged := allKnown_mergedFlags hknown hrequest.allKnown
    refine ⟨(overlay.mergedFlags request.flags).toWire, ?wire, ?env⟩
    case wire =>
      intro key value
      rw [Flags.get?_toWire_eq_some_iff hmerged]
      simp only [get?_mergedFlags_eq_some_iff]
    case env =>
      intro env
      obtain ⟨config, hconfig, hflags⟩ := ofSources_of_known hknown env
      refine ⟨config, hconfig, Client.sendsFlags_of_reachable ?_⟩
      rw [hflags, Overlay.mergedFlags]

section Example

/-- Two spellings of one flag, and one that the request sets too. -/
def spelledTwice : Overlay where
  flags := Dict.ofList
    [("overrideStore", true), ("override_store", false), ("metadataSearch", true)]

/-- A flag that the file sets otherwise. -/
def withoutSearch : OrchestrationRequest where
  flags := ⟨Dict.ofList [("metadata_search", false)]⟩

/-- The spelling with the underscore is the last one, and the request goes before the
file. -/
theorem Config.prefersFlags_of_made_spelledTwice :
    let config : Config := {
      flags := ⟨Dict.ofList [("override_store", false), ("metadata_search", true)]⟩ }
    let client : Client Unit Unit Unit := {
      config := config
      system := ⟨"arrowhead_client", "127.0.0.1", 7000, none⟩
      consumers := .builtIn }
    Flags.Made ∅ withoutSearch.flags ∧ ofSources spelledTwice (fun _ => none) = .ok config ∧
      client.Reachable ∧ ∃ wire : Dict Json.Value, config.SendsFlags withoutSearch wire ∧
        wire.get? "overrideStore" = some (.bool false) ∧
        wire.get? "metadataSearch" = some (.bool false) := by
  intro config client
  have hset : Flags.empty.set "metadata_search" false = .ok withoutSearch.flags := by
    decide +kernel
  have hmade : Flags.Made ∅ withoutSearch.flags := Flags.Made.empty.set hset
  have hconfig : ofSources spelledTwice (fun _ => none) = .ok config := by
    decide +kernel
  have hbuild : Client.build config ∅ .builtIn ([] : List (ServiceDeclaration Unit))
      ([] : List (EventDeclaration Unit)) = .ok client := by
    simp [Client.build, Config.system, ClientIdentity.checkAll, Config.identityFiles?,
      Client.readProviderKey, Client.readAuthorizationKey, pure, Except.pure, bind, Except.bind,
      config, client]
  refine ⟨hmade, hconfig, .built .standard hbuild, ?_⟩
  obtain ⟨wire, hwire, hsent⟩ :=
    (Config.prefersFlags_of_made spelledTwice withoutSearch hmade).sent (by decide +kernel)
  obtain ⟨found, hfound, hsends⟩ := hsent fun _ => none
  obtain rfl := Except.ok.inj (hconfig.symm.trans hfound)
  have hlast : spelledTwice.flags.IsLastSpelling toSnakeCase "override_store" "override_store" :=
    ⟨by decide +kernel, by decide +kernel, by decide +kernel⟩
  have hstore : Decides withoutSearch.flags spelledTwice "override_store" false :=
    .file (by decide +kernel) hlast (by decide +kernel)
  have hsearch : Decides withoutSearch.flags spelledTwice "metadata_search" false :=
    .request (by decide +kernel)
  refine ⟨wire, hsends, ?store, ?search⟩
  case store => exact (hwire _ _).2 ⟨_, _, by decide +kernel, rfl, hstore⟩
  case search => exact (hwire _ _).2 ⟨_, _, by decide +kernel, rfl, hsearch⟩

end Example

end LocalCloud
