import LocalCloud.Json.Document

/-!
# Reading records from JSON

How a typed value is read from a document.  A record may be an object, whose
unknown fields are skipped and whose known fields must not repeat, or an array
of its fields in declaration order, of which the last ones may be missing.
-/

namespace LocalCloud.Json

abbrev Decoder (α : Type) := Node → Option α

namespace Decode

def string : Decoder String
  | .string value => value
  | _ => none

/-- A Boolean. -/
def bool : Decoder Bool
  | .bool value => some value
  | _ => none

/-- An integer between two bounds; a double is none, whatever its value. -/
def int (low high : Int) : Decoder Int
  | .number (some (.integer value)) => if low ≤ value ∧ value ≤ high then some value else none
  | _ => none

/-- A signed 64-bit integer. -/
def int64 : Decoder Int :=
  int (-9223372036854775808) 9223372036854775807

/-- An unsigned 16-bit integer. -/
def nat16 (node : Node) : Option Nat :=
  (int 0 65535 node).map Int.toNat

/-- Null, or a value. -/
def nullable {α : Type} (decode : Decoder α) : Decoder (Option α)
  | .null => some none
  | node => (decode node).map some

/-- A value, for which null stands for a default. -/
def nullAs {α : Type} (fallback : α) (decode : Decoder α) : Decoder α
  | .null => some fallback
  | node => decode node

/-- An array of values. -/
def list {α : Type} (decode : Decoder α) : Decoder (List α)
  | .array items => items.mapM decode
  | _ => none

/-- An object of values with arbitrary keys; the last one of a key wins. -/
def dict {α : Type} (decode : Decoder α) : Decoder (Dict α)
  | .object fields =>
    (fields.mapM fun (field : Option String × Node) => do
      let key ← field.1
      let value ← decode field.2
      some (key, value)).map Dict.ofList
  | _ => none

/-- A choice among names: the text of a name, or an object with the name as the key of
its only field, which is null. -/
def choice {α : Type} (ofName? : String → Option α) : Decoder α
  | .string name => name.bind ofName?
  | .object [(name, .null)] => name.bind ofName?
  | _ => none

/-- The one field of a name, if there is any; nothing if there are several. -/
def uniqueField (fields : List (Option String × Node)) (name : String) : Option (Option Node) :=
  match fields.filter (fun field => field.1 == some name) with
  | [] => some none
  | [field] => some (some field.2)
  | _ => none

/-- The fields of a record by name, in declaration order, as far as they are
present. -/
def record (names : List String) : Decoder (List (Option Node))
  | .object fields =>
    if fields.all (fun field => field.1.isSome) then names.mapM (uniqueField fields) else none
  | .array items =>
    if items.length ≤ names.length then
      some (items.map some ++ List.replicate (names.length - items.length) none)
    else none
  | _ => none

/-- The fields of a record that leaves none out when it is an array. -/
def fullRecord (names : List String) : Decoder (List (Option Node))
  | .array items => if items.length = names.length then some (items.map some) else none
  | node => record names node

/-- A field that must be present. -/
def required {α : Type} (decode : Decoder α) (field : Option Node) : Option α :=
  field.bind decode

def defaulted {α : Type} (fallback : α) (decode : Decoder α) (field : Option Node) : Option α :=
  match field with
  | none => some fallback
  | some node => decode node

/-- A field that may be absent or null. -/
def optional {α : Type} (decode : Decoder α) (field : Option Node) : Option (Option α) :=
  defaulted none (nullable decode) field

def nullDefault {α : Type} (fallback : α) (decode : Decoder α) (field : Option Node) : Option α :=
  defaulted fallback (nullAs fallback decode) field

end Decode

def decodeString? {α : Type} (decode : Decoder α) (text : String) : Option α :=
  (Node.ofString? text).bind decode

/-- Decodes the document in a byte string. -/
def decodeBytes? {α : Type} (decode : Decoder α) (bytes : Bytes) : Option α :=
  (Node.ofBytes? bytes).bind decode

end LocalCloud.Json
