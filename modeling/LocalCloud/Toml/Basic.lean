import LocalCloud.Dict

/-!
# TOML tables

The values of TOML and the rules by which a document builds its tables.  A table
may be opened by one header only, and a dotted key adds to no table but those
that dotted keys have made; so each table remembers how it came to be.
-/

namespace LocalCloud.Toml

/-- How a table came to be, which decides what may still be added to it. -/
inductive Origin where
  /-- A header opened it; so it is with the whole document. -/
  | header
  /-- It lies on the path of a header. -/
  | path
  /-- It lies on the path of a dotted key. -/
  | dotted
  | braces
deriving DecidableEq, Repr

/-- A value; of floats only their being floats matters. -/
inductive Value where
  | string (text : String)
  | integer (value : Int)
  | float
  | bool (value : Bool)
  | dateTime (text : String)
  | array (items : List Value)
  | table (origin : Origin) (fields : List (String × Value))
  /-- An array whose tables were opened by headers. -/
  | tables (elements : List (List (String × Value)))
deriving Repr, Inhabited

/-- The fields of a table in the order they were written. -/
abbrev Fields := List (String × Value)

namespace Fields

/-- Puts a value in the place of the one under a key. -/
def replace (key : String) (value : Value) (fields : Fields) : Fields :=
  fields.map fun field => if field.1 = key then (key, value) else field

/-- Changes the table at the end of a path and makes the tables on the way that
are missing.  A path ends at the last element of an array of tables; it does not
lead into a table between braces, and a dotted one not into a table with a
header. -/
def changeAt (isDotted : Bool) (change : Origin → Fields → Option Fields) :
    List String → Origin → Fields → Option Fields
  | [], origin, fields => change origin fields
  | key :: rest, _, fields =>
    match Entries.get? key fields with
    | none => do
      let origin : Origin := if isDotted then .dotted else .path
      let inner ← changeAt isDotted change rest origin []
      some (fields ++ [(key, .table origin inner)])
    | some (.table origin inner) =>
      if origin = .braces ∨ (isDotted ∧ origin = .header) then none
      else do
        let inner ← changeAt isDotted change rest origin inner
        some (replace key (.table origin inner) fields)
    | some (.tables elements) => do
      let inner ← changeAt isDotted change rest .header (elements.getLastD [])
      some (replace key (.tables (elements.dropLast ++ [inner])) fields)
    | some _ => none

/-- Adds a value under a new dotted key.  The last table on a dotted path is one
that dotted keys have made. -/
def add (path : List String) (key : String) (value : Value) (origin : Origin) (fields : Fields) :
    Option Fields :=
  let place (origin : Origin) (fields : Fields) : Option Fields :=
    if (origin = .dotted ↔ path = []) ∨ (Entries.get? key fields).isSome then none
    else some (fields ++ [(key, value)])
  changeAt true place path origin fields

def openTable (key : String) (fields : Fields) : Option Fields :=
  match Entries.get? key fields with
  | none => some (fields ++ [(key, .table .header [])])
  | some (.table .path inner) => some (replace key (.table .header inner) fields)
  | some _ => none

/-- Appends an element to an array of tables. -/
def openElement (key : String) (fields : Fields) : Option Fields :=
  match Entries.get? key fields with
  | none => some (fields ++ [(key, .tables [[]])])
  | some (.tables elements) => some (replace key (.tables (elements ++ [[]])) fields)
  | some _ => none

end Fields

end LocalCloud.Toml
