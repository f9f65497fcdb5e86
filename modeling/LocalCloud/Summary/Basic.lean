import LocalCloud.Codec.Base64
import LocalCloud.Json.Basic
import LocalCloud.Text.Utf8

/-!
# Summaries

The JSON by which values are shown to whoever operates a system.  A summary is
for reading: unlike a message it spells out what follows from the fields of a
value, and a missing value is always shown as null.
-/

namespace LocalCloud

open Json (Value)

/-- Types whose values can be shown as JSON. -/
class Summary (α : Type) where
  /-- The JSON shown for a value. -/
  summary : α → Value

export Summary (summary)

instance : Summary Value := ⟨id⟩

instance : Summary String := ⟨.string⟩

instance : Summary Bool := ⟨.bool⟩

instance : Summary Nat := ⟨.ofNat⟩

instance : Summary UInt16 := ⟨fun n => .ofNat n.toNat⟩

instance : Summary Int64 := ⟨fun n => .ofInt n.toInt⟩

/-- A missing value is null. -/
def Summary.ofOption {α : Type} [Summary α] : Option α → Value
  | none => .null
  | some value => summary value

section Containers

variable {α β : Type} [Summary α] [Summary β]

instance : Summary (Option α) := ⟨Summary.ofOption⟩

instance : Summary (List α) := ⟨fun items => .array (items.map summary)⟩

instance : Summary (α × β) := ⟨fun pair => .array [summary pair.1, summary pair.2]⟩

instance : Summary (Dict α) := ⟨fun dict => .object (dict.mapValues summary).entries⟩

end Containers

namespace Summary

/-- In a module that opens this namespace, a value may stand where its summary is
wanted. -/
scoped instance {α : Type} [Summary α] : CoeOut α Value := ⟨summary⟩

/-- Bytes are shown as text if they are one, and otherwise in Base64. -/
def ofBytes (bytes : Bytes) : Value :=
  match Utf8.decode? bytes with
  | some text => .object [("text", .string text)]
  | none => .object [("b64", .string (Base64.encode bytes))]

end Summary

end LocalCloud
