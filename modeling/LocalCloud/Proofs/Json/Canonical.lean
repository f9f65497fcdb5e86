import LocalCloud.Proofs.Json.Reading
import Mathlib.Tactic.Common

/-!
# Values with their fields in order

The fields of an object are put in the order of their keys, inside and outside.  What is in
that order stays as it is, a field can still be found, and no number changes, so what could
be read back before can be read back then.
-/

namespace LocalCloud

namespace Json.Value

variable {key : String} {fields front tail : List (String × Value)}

theorem canonicalFields_eq_map (fields : List (String × Value)) :
    canonicalFields fields = fields.map fun field => (field.1, field.2.canonical) := by
  induction fields with
  | nil => rfl
  | cons field fields ih => rw [List.map_cons, ← ih, canonicalFields]

/-- Sorting an object does not hide a field behind fields of other keys. -/
theorem field?_canonical_append (h : ∀ field ∈ tail, key ≠ field.1) :
    (object (front ++ tail)).canonical.field? key = (object front).canonical.field? key := by
  have htail : ∀ field ∈ canonicalFields tail, key ≠ field.1 := by
    rw [canonicalFields_eq_map, List.forall_mem_map]
    exact h
  have happend :
      canonicalFields (front ++ tail) = canonicalFields front ++ canonicalFields tail := by
    rw [canonicalFields_eq_map, canonicalFields_eq_map, canonicalFields_eq_map, List.map_append]
  rw [canonical, canonical, field?, field?, happend, Entries.get?_ofList_append htail]

/-- An object that is in order outside and inside stays as it is. -/
theorem canonical_object_of_ascending (h : Entries.Ascending fields)
    (hvalues : ∀ field ∈ fields, field.2.canonical = field.2) :
    (object fields).canonical = object fields := by
  have hfields : canonicalFields fields = fields := by
    rw [canonicalFields_eq_map]
    calc
      fields.map (fun field => (field.1, field.2.canonical)) = fields.map id := by
        apply List.map_congr_left
        intro field hfield
        rw [hvalues field hfield]
        rfl
      _ = fields := List.map_id fields
  rw [canonical, hfields, Entries.ofList_of_ascending h]

theorem canonical_ofTexts (dict : Dict String) : (ofTexts dict).canonical = ofTexts dict := by
  apply canonical_object_of_ascending
  · exact List.pairwise_map.2 dict.ascending
  · rw [List.forall_mem_map]
    intro entry hentry
    rfl

section Integral

theorem fieldsAreIntegral_ofList (h : FieldsAreIntegral fields) :
    FieldsAreIntegral (Entries.ofList fields) := by
  rw [fieldsAreIntegral_iff] at h ⊢
  intro field hfield
  exact h field (Entries.mem_of_mem_ofList hfield)

mutual

theorem isIntegral_canonical (value : Value) (h : value.IsIntegral) :
    value.canonical.IsIntegral := by
  match value with
  | .null | .bool _ | .string _ => trivial
  | .number _ => exact h
  | .array items => exact areIntegral_canonicalItems items h
  | .object fields => exact fieldsAreIntegral_ofList (fieldsAreIntegral_canonicalFields fields h)

theorem areIntegral_canonicalItems (items : List Value) (h : AreIntegral items) :
    AreIntegral (canonicalItems items) := by
  match items with
  | [] => trivial
  | item :: items =>
      exact ⟨isIntegral_canonical item h.1, areIntegral_canonicalItems items h.2⟩

theorem fieldsAreIntegral_canonicalFields (fields : List (String × Value))
    (h : FieldsAreIntegral fields) : FieldsAreIntegral (canonicalFields fields) := by
  match fields with
  | [] => trivial
  | (_, value) :: fields =>
      exact ⟨isIntegral_canonical value h.1, fieldsAreIntegral_canonicalFields fields h.2⟩

end

end Integral

end Json.Value

end LocalCloud
