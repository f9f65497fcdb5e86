import LocalCloud.Dict
import LocalCloud.Json.Number

/-!
# JSON values

The values that bodies and metadata carry.  `Value.canonical` sorts the fields
of every object by key, which is the form a value has after it has been read.
-/

namespace LocalCloud.Json

/-- A JSON value; the fields of an object are in the order they are written. -/
inductive Value where
  | null
  | bool (value : Bool)
  | number (value : Number)
  | string (value : String)
  | array (items : List Value)
  | object (fields : List (String × Value))
deriving Repr, Inhabited

namespace Value

def ofInt (n : Int) : Value := .number (.integer n)

def ofNat (n : Nat) : Value := .number (.integer n)

def ofStrings (items : List String) : Value := .array (items.map .string)

/-- A dictionary of texts as an object. -/
def ofTexts (dict : Dict String) : Value :=
  .object (dict.entries.map fun entry => (entry.1, .string entry.2))

/-- The text that is present, or null. -/
def ofOption (text : Option String) : Value :=
  match text with
  | none => .null
  | some text => .string text

/-- The field of a record, left out when its value is absent. -/
def field (key : String) (value : Option Value) : List (String × Value) :=
  match value with
  | none => []
  | some value => [(key, value)]

/-- A field that is left out when the list is empty. -/
def listField (key : String) (items : List Value) : List (String × Value) :=
  if items.isEmpty then [] else [(key, .array items)]

/-- A field that is left out when the dictionary is empty. -/
def textsField (key : String) (dict : Dict String) : List (String × Value) :=
  if dict.isEmpty then [] else [(key, ofTexts dict)]

mutual

/-- The value with the fields of every object in key order, the last one of a
key kept. -/
def canonical : Value → Value
  | .array items => .array (canonicalItems items)
  | .object fields => .object (Entries.ofList (canonicalFields fields))
  | value => value

/-- Sorts inside every item. -/
def canonicalItems : List Value → List Value
  | [] => []
  | item :: rest => item.canonical :: canonicalItems rest

/-- Sorts inside every field. -/
def canonicalFields : List (String × Value) → List (String × Value)
  | [] => []
  | (key, value) :: rest => (key, value.canonical) :: canonicalFields rest

end

mutual

/-- The value with a function applied to each of its texts, keys excepted. -/
def mapTexts (f : String → String) : Value → Value
  | .string text => .string (f text)
  | .array items => .array (mapItemTexts f items)
  | .object fields => .object (mapFieldTexts f fields)
  | value => value

/-- Applies the function inside every item. -/
def mapItemTexts (f : String → String) : List Value → List Value
  | [] => []
  | item :: rest => item.mapTexts f :: mapItemTexts f rest

/-- Applies the function inside every field. -/
def mapFieldTexts (f : String → String) : List (String × Value) → List (String × Value)
  | [] => []
  | (key, value) :: rest => (key, value.mapTexts f) :: mapFieldTexts f rest

end

def field? (value : Value) (key : String) : Option Value :=
  match value with
  | .object fields => Entries.get? key fields
  | _ => none

def asString? : Value → Option String
  | .string text => some text
  | _ => none

/-- The truth value of a Boolean. -/
def asBool? : Value → Option Bool
  | .bool value => some value
  | _ => none

/-- The integer of an integral number. -/
def asInt? : Value → Option Int
  | .number (.integer value) => some value
  | _ => none

def asArray? : Value → Option (List Value)
  | .array items => some items
  | _ => none

def asObject? : Value → Option (List (String × Value))
  | .object fields => some fields
  | _ => none

end Value

end LocalCloud.Json
