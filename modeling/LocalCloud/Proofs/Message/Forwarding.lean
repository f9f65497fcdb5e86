import LocalCloud.Proofs.Json.Canonical
import LocalCloud.Proofs.Message.RoundTrip
import LocalCloud.Proofs.Provider.Delivery

/-!
# Events on their way through the event handler

The event handler is given an object and delivers another one, in a text of its own.  Where
it keeps the event type, the metadata and the payload, the subscriber reads the event that
was published, in whatever order the fields come, with whatever else is between them.
-/

namespace LocalCloud

namespace Json

open Decode (dict string uniqueField)

variable {fields : List (Option String × Node)} {node other : Node}

/-- Two documents are the same but for the order of an object's fields. -/
inductive Node.SameUpToOrder : Node → Node → Prop where
  | refl (node : Node) : SameUpToOrder node node
  | object {fields others : List (Option String × Node)} (h : fields.Perm others) :
    SameUpToOrder (.object fields) (.object others)

theorem Node.SameUpToOrder.eq_string {text : Option String}
    (h : SameUpToOrder (.string text) node) : node = .string text := by
  cases h
  rfl

/-- A dictionary of texts is made again of its fields in any order. -/
theorem Node.SameUpToOrder.dict_eq {texts : Dict String}
    (h : SameUpToOrder (Value.ofTexts texts).toNode node) :
    dict Decode.string node = some texts := by
  generalize hgiven : (Value.ofTexts texts).toNode = given at h
  cases h with
  | refl => rw [← hgiven, Decode.dict_toNode]
  | @object fields others hperm =>
    rw [Value.ofTexts, Value.toNode, Value.toFields_texts, Node.object.injEq] at hgiven
    -- the entries of the dictionary in the order in which the fields come
    obtain ⟨entries, rfl, hentries⟩ : ∃ entries : List (String × String),
        others = entries.map (fun entry => (some entry.1, Node.string (some entry.2))) ∧
          entries.Perm texts.entries := by
      rw [← hgiven] at hperm
      exact (congrFun₂ (List.eq_map_comp_perm _) others texts.entries).mpr hperm.symm
    have hnodup : (entries.map (·.1)).Nodup := (hentries.map _).nodup_iff.2 texts.nodup_keys
    have hsame : Dict.ofList entries = texts :=
      Dict.eq_of_perm ((Entries.perm_ofList hnodup).trans hentries)
    rw [Decode.dict_texts, hsame]

theorem Decode.nullDefault_some {α : Type} {fallback value : α} {decode : Decoder α}
    (hnull : decode .null = none) (h : decode node = some value) :
    nullDefault fallback decode (some node) = some value := by
  cases node with
  | null => exact nomatch hnull.symm.trans h
  | _ => exact h

end Json

open Json (Node Value)
open Json.Decode

/-- The fields of an object are passed on in those of another one: the event type, the
metadata and the payload as they are.  A time stamp is a text, if there is one, and whatever
else is there has a name. -/
structure ForwardsFields (given fields : List (Option String × Node)) : Prop where
  kept : ∀ name ∈ ["eventType", "metaData", "payload"], ∃ node other,
    uniqueField given name = some (some node) ∧ uniqueField fields name = some (some other) ∧
      node.SameUpToOrder other
  timeStamp : ∃ stamp, uniqueField fields "timeStamp" = some stamp ∧
    ∀ node ∈ stamp, node = .null ∨ ∃ text, node = .string (some text)
  named : ∀ field ∈ fields, field.1.isSome = true

theorem ForwardsFields.exists_kept {given fields : List (Option String × Node)}
    (h : ForwardsFields given fields) {name : String} {node : Node}
    (hname : name ∈ ["eventType", "metaData", "payload"])
    (hgiven : uniqueField given name = some (some node)) :
    ∃ other, uniqueField fields name = some (some other) ∧ node.SameUpToOrder other := by
  obtain ⟨found, other, hfound, hother, hsame⟩ := h.kept name hname
  obtain rfl : found = node := by simpa [hgiven] using hfound.symm
  exact ⟨other, hother, hsame⟩

theorem ForwardsFields.exists_timeStamp {given fields : List (Option String × Node)}
    (h : ForwardsFields given fields) :
    ∃ stamp text, uniqueField fields "timeStamp" = some stamp ∧
      nullDefault "" string stamp = some text := by
  obtain ⟨stamp, hstamp, htext⟩ := h.timeStamp
  cases stamp with
  | none => exact ⟨none, "", hstamp, rfl⟩
  | some node =>
    rcases htext node rfl with rfl | ⟨text, rfl⟩
    · exact ⟨some .null, "", hstamp, rfl⟩
    · exact ⟨some (.string (some text)), text, hstamp, rfl⟩

/-- A body is delivered for the one that an event handler was given. -/
def Forwards (given delivered : Bytes) : Prop :=
  delivered.length ≤ bodyLimit ∧ ∃ sent fields,
    Node.ofBytes? given = some (.object sent) ∧ Node.ofBytes? delivered = some (.object fields) ∧
      ForwardsFields sent fields

namespace PublishForm

/-- The fields of a published event, in the order of their names. -/
theorem canonical_toJson (form : PublishForm) :
    form.toJson.canonical = .object
      [("eventType", .string form.eventType),
        ("metaData", .ofTexts form.metadata),
        ("payload", .string form.payload),
        ("source", form.source.toJson.canonical),
        ("timeStamp", .string form.timeStamp)] := by
  have hnames : ["eventType", "metaData", "payload", "source", "timeStamp"].Pairwise (· < ·) := by
    decide
  rw [toJson, Value.canonical, Value.canonicalFields_eq_map]
  simp only [List.map_cons, List.map_nil, Value.canonical_ofTexts, Value.canonical]
  exact congrArg Value.object (Entries.ofList_of_ascending (List.pairwise_map.1 hnames))

theorem isIntegral_toJson (form : PublishForm) : form.toJson.IsIntegral :=
  ⟨trivial, Value.isIntegral_ofTexts form.metadata, trivial, form.source.isIntegral_toJson,
    trivial, trivial⟩

/-- What an event handler is given, field by field. -/
theorem exists_ofBytes?_toJson (form : PublishForm) :
    ∃ sent, Node.ofBytes? form.toJson.canonical.bytes = some (.object sent) ∧
      uniqueField sent "eventType" = some (some (.string (some form.eventType))) ∧
      uniqueField sent "metaData" = some (some (Value.ofTexts form.metadata).toNode) ∧
      uniqueField sent "payload" = some (some (.string (some form.payload))) := by
  have hread := Node.ofBytes?_bytes _ (Value.isIntegral_canonical _ form.isIntegral_toJson)
  have hnode := congrArg Value.toNode form.canonical_toJson
  rw [Value.toNode] at hnode
  rw [hnode] at hread
  exact ⟨_, hread, rfl, rfl, rfl⟩

end PublishForm

/-- A subscriber reads what was published, whatever else the event handler did. -/
theorem Forwards.exists_isHeld {form : PublishForm} {delivered : Bytes}
    (h : Forwards form.toJson.canonical.bytes delivered) :
    ∃ stamp, Event.IsHeld
      { eventType := form.eventType
        metadata := form.metadata
        payload := form.payload
        timeStamp := stamp } delivered := by
  obtain ⟨hsize, sent, fields, hsent, hdelivered, hforwards⟩ := h
  obtain ⟨given, hgiven, htype, hmetadata, hpayload⟩ := form.exists_ofBytes?_toJson
  obtain rfl : given = sent := Node.object.inj (Option.some.inj (hgiven.symm.trans hsent))
  obtain ⟨_, htype, hsame⟩ := hforwards.exists_kept (by decide) htype
  obtain rfl := hsame.eq_string
  obtain ⟨metadata, hmetadata, htexts⟩ := hforwards.exists_kept (by decide) hmetadata
  obtain ⟨_, hpayload, hsame⟩ := hforwards.exists_kept (by decide) hpayload
  obtain rfl := hsame.eq_string
  obtain ⟨stamp, text, hstamp, htext⟩ := hforwards.exists_timeStamp
  have hrecord : record ["eventType", "metaData", "payload", "timeStamp"] (.object fields) =
      some [some (.string (some form.eventType)), some metadata,
        some (.string (some form.payload)), stamp] := by
    rw [record, if_pos (List.all_eq_true.2 hforwards.named)]
    simp only [List.mapM_cons, List.mapM_nil, htype, hmetadata, hpayload, hstamp]
    rfl
  have hreadMetadata : nullDefault ∅ (dict string) (some metadata) = some form.metadata :=
    nullDefault_some rfl htexts.dict_eq
  have hreadPayload : nullDefault "" string (some (.string (some form.payload))) =
      some form.payload := rfl
  refine ⟨text, hsize, ?_⟩
  rw [Json.decodeBytes?, hdelivered, Option.bind_some, Event.decode, hrecord]
  simp [required, string, hreadMetadata, hreadPayload, htext]

/-- An event handler that writes the event as it was published, with a time stamp of its own,
passes it on. -/
theorem PublishForm.forwards_event {form : PublishForm} {event : Event}
    (htype : event.eventType = form.eventType) (hmetadata : event.metadata = form.metadata)
    (hpayload : event.payload = form.payload) (hsize : event.toJson.bytes.length ≤ bodyLimit) :
    Forwards form.toJson.canonical.bytes event.toJson.bytes := by
  obtain ⟨sent, hsent, hgivenType, hgivenMetadata, hgivenPayload⟩ := form.exists_ofBytes?_toJson
  rw [← htype] at hgivenType
  rw [← hmetadata] at hgivenMetadata
  rw [← hpayload] at hgivenPayload
  refine ⟨hsize, sent, _, hsent, Node.ofBytes?_bytes _ event.isIntegral_toJson,
    ?kept, ?timeStamp, ?named⟩
  case kept =>
    simp only [List.forall_mem_cons]
    exact ⟨⟨_, _, hgivenType, rfl, .refl _⟩, ⟨_, _, hgivenMetadata, rfl, .refl _⟩,
      ⟨_, _, hgivenPayload, rfl, .refl _⟩, nofun⟩
  case timeStamp =>
    refine ⟨some (.string (some event.timeStamp)), rfl, ?_⟩
    rintro _ ⟨⟩
    exact .inr ⟨event.timeStamp, rfl⟩
  case named => simp [Value.toFields]

end LocalCloud
