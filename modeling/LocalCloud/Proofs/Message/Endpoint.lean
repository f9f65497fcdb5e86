import LocalCloud.Message.Event
import LocalCloud.Proofs.Json.Canonical
import LocalCloud.Proofs.Text.Decimal
import Mathlib.Tactic.Common

/-!
# Systems as core systems see them

A form names a system as a JSON object, a query by three parameters.  Both state
the same endpoint, which is what a core system can go by.
-/

namespace LocalCloud

namespace Json.Value

theorem mem_field_fst {name : String} {value : Option Value} {entry : String × Value}
    (h : entry ∈ field name value) : entry.1 = name := by
  cases value with
  | none => cases h
  | some value =>
      rw [field, List.mem_singleton] at h
      rw [h]

theorem mem_listField_fst {name : String} {items : List Value} {entry : String × Value}
    (h : entry ∈ listField name items) : entry.1 = name := by
  rw [listField] at h
  split at h
  · cases h
  · rw [List.mem_singleton] at h
    rw [h]

theorem mem_textsField_fst {name : String} {dict : Dict String} {entry : String × Value}
    (h : entry ∈ textsField name dict) : entry.1 = name := by
  rw [textsField] at h
  split at h
  · cases h
  · rw [List.mem_singleton] at h
    rw [h]

end Json.Value

/-- What identifies a system to a core system. -/
structure Endpoint where
  name : String
  address : String
  port : Nat
deriving DecidableEq

theorem System.toList_portText (system : System) :
    system.portText.toList = Text.decimalChars system.port.toNat := String.toList_ofList

def System.endpoint (system : System) : Endpoint :=
  ⟨system.name, system.address, system.port.toNat⟩

namespace Endpoint

/-- The endpoint that a JSON object states. -/
def ofJson? (value : Json.Value) : Option Endpoint := do
  let name ← (value.field? "systemName").bind Json.Value.asString?
  let address ← (value.field? "address").bind Json.Value.asString?
  let port ← (value.field? "port").bind Json.Value.asInt?
  some ⟨name, address, port.toNat⟩

/-- The endpoint that parameters state. -/
def ofParams? (params : Params) : Option Endpoint := do
  let name ← params.lookup "system_name"
  let address ← params.lookup "address"
  let port ← (params.lookup "port").bind fun text => Text.decimal? text.toList
  some ⟨name, address, port⟩

theorem ofJson?_toJson (system : System) :
    ofJson? system.toJson.canonical = some system.endpoint := by
  have hfield {key : String} (hkey : key ≠ "authenticationInfo") :
      system.toJson.canonical.field? key =
        (Json.Value.object [("systemName", .string system.name),
          ("address", .string system.address),
          ("port", .ofNat system.port.toNat)]).canonical.field? key := by
    apply Json.Value.field?_canonical_append
    intro field hmem
    rw [Json.Value.mem_field_fst hmem]
    exact hkey
  rw [ofJson?, hfield (by decide), hfield (by decide), hfield (by decide)]
  simp [Json.Value.canonical, Json.Value.canonicalFields, Json.Value.field?, Entries.ofList,
    Entries.get?_insert, Json.Value.asString?, Json.Value.asInt?, Json.Value.ofNat,
    System.endpoint]

theorem ofParams?_params (system : System) :
    ofParams? system.params = some system.endpoint := by
  have hport : Text.decimal? system.portText.toList = some system.port.toNat := by
    rw [system.toList_portText, Text.decimal?_decimalChars]
  have hname : system.params.lookup "system_name" = some system.name := rfl
  have haddress : system.params.lookup "address" = some system.address := rfl
  have hportText : system.params.lookup "port" = some system.portText := rfl
  simp [ofParams?, hname, haddress, hportText, hport, System.endpoint]

/-- A parameter of another name in front does not matter. -/
theorem ofParams?_cons {name : String} (hname : "system_name" ≠ name) (haddress : "address" ≠ name)
    (hport : "port" ≠ name) (value : String) (params : Params) :
    ofParams? ((name, value) :: params) = ofParams? params := by
  have hskip {key : String} (hkey : key ≠ name) :
      List.lookup key ((name, value) :: params) = params.lookup key := by
    rw [List.lookup_cons, beq_eq_false_iff_ne.2 hkey]
  rw [ofParams?, ofParams?, hskip hname, hskip haddress, hskip hport]

end Endpoint

end LocalCloud
