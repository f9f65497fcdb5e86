import LocalCloud.Dict

/-!
# Settings

What a configuration file holds, whatever the format it is written in: tables,
lists and scalars.  A scalar is known by what it can be read as, which each
format decides for itself.
-/

namespace LocalCloud

/-- What a scalar can be read as. -/
structure Scalar where
  text : Option String := none
  integer : Option Int := none
  bool : Option Bool := none
  /-- Whether it stands for the absence of an optional value. -/
  isNull : Bool := false
  /-- Whether it stands for a table without fields. -/
  isBlank : Bool := false
deriving DecidableEq, Repr

/-- A setting.  The key of a field is absent when it is not a text. -/
inductive Setting where
  | scalar (readings : Scalar)
  | list (items : List Setting)
  | table (fields : List (Option String × Setting))
deriving Repr, Inhabited

namespace Setting

/-- A field of a record: filled, left out of a table, or beyond the end of a
list that stands for the record. -/
inductive Slot where
  | filled (setting : Setting)
  | absent
  | beyond
deriving Repr

/-- The field of a name in a table; nothing if there are several. -/
def slot? (fields : List (Option String × Setting)) (name : String) : Option Slot :=
  match fields.filter (fun field => field.1 == some name) with
  | [] => some .absent
  | [field] => some (.filled field.2)
  | _ => none

/-- The fields of a record by name.  A list stands for a record by the order of
its fields; whether it may be longer than the record depends on the format. -/
def record (mayOverrun : Bool) (names : List String) : Setting → Option (List Slot)
  | table fields =>
    if fields.all (fun field => field.1.isSome) then names.mapM (slot? fields) else none
  | list items =>
    if items.length ≤ names.length ∨ mayOverrun then
      some ((items.take names.length).map .filled
        ++ List.replicate (names.length - items.length) .beyond)
    else none
  | scalar readings => if readings.isBlank then some (names.map fun _ => .absent) else none

def text : Setting → Option String
  | scalar readings => readings.text
  | _ => none

def bool : Setting → Option Bool
  | scalar readings => readings.bool
  | _ => none

/-- A setting read as a natural number up to a bound. -/
def nat (high : Nat) : Setting → Option Nat
  | scalar readings =>
    readings.integer.bind fun n => if 0 ≤ n ∧ n ≤ high then some n.toNat else none
  | _ => none

/-- A setting read as a dictionary; the last field of a key wins. -/
def dict {α : Type} (read : Setting → Option α) : Setting → Option (Dict α)
  | table fields =>
    (fields.mapM fun (field : Option String × Setting) => do
      let key ← field.1
      let value ← read field.2
      some (key, value)).map Dict.ofList
  | scalar readings => if readings.isBlank then some ∅ else none
  | list _ => none

/-- An optional value; it may be left out of a table but not of a list. -/
def optional {α : Type} (read : Setting → Option α) : Slot → Option (Option α)
  | .absent => some none
  | .beyond => none
  | .filled (.scalar readings) =>
    if readings.isNull then some none else (read (.scalar readings)).map some
  | .filled setting => (read setting).map some

/-- A value for whose absence a default stands. -/
def defaulted {α : Type} (fallback : α) (read : Setting → Option α) : Slot → Option α
  | .filled setting => read setting
  | _ => some fallback

end Setting

end LocalCloud
