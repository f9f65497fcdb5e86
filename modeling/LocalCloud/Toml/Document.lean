import LocalCloud.Toml.Scalar

/-!
# TOML documents

Arrays, tables between braces, and the lines of a document, which are read one
after the other into the table they belong to.
-/

namespace LocalCloud.Toml

/-- The rest of an array behind its bracket or a comma. -/
def items? (item : Reader Value) (fuel : Nat) (input : List Char) :
    Option (List Value × List Char) :=
  match fuel, skipGap false input with
  | 0, _ => none
  | _, ']' :: rest => some ([], rest)
  | fuel + 1, input => do
    let (value, rest) ← item input
    match skipGap false rest with
    | ',' :: rest => do
      let (values, rest) ← items? item fuel rest
      some (value :: values, rest)
    | ']' :: rest => some ([value], rest)
    | _ => none

/-- A key, an equals sign and a value. -/
def pair? (item : Reader Value) (input : List Char) :
    Option (((List String × String) × Value) × List Char) := do
  let (key, rest) ← key? input
  let (value, rest) ← item (skipSpaces (← past? '=' rest))
  some ((key, value), rest)

/-- The rest of a table between braces, added to the fields in front.  It lies on
one line, and no comma precedes its end. -/
def braced? (item : Reader Value) (fuel : Nat) (fields : Fields) (input : List Char) :
    Option (Fields × List Char) :=
  match fuel with
  | 0 => none
  | fuel + 1 => do
    let (((path, key), value), rest) ← pair? item input
    let fields ← fields.add path key value .braces
    match skipSpaces rest with
    | ',' :: rest => braced? item fuel fields rest
    | '}' :: rest => some (fields, rest)
    | _ => none

/-- A value in which arrays and tables are nested at most so deep. -/
def valueWithin? : Nat → Reader Value
  | 0, input => scalar? input
  | depth + 1, input =>
    match input with
    | '[' :: rest =>
      (items? (valueWithin? depth) (rest.length + 1) rest).map fun read => (.array read.1, read.2)
    | '{' :: rest =>
      match skipSpaces rest with
      | '}' :: rest => some (.table .braces [], rest)
      | _ =>
        (braced? (valueWithin? depth) (rest.length + 1) [] rest).map fun read =>
          (.table .braces read.1, read.2)
    | _ => scalar? input

/-- A value.  Arrays and tables are nested less than eighty deep. -/
def value? : Reader Value := valueWithin? 79

/-- A document as far as it has been read: its fields and the path of the table
that is being filled. -/
structure Document where
  fields : Fields := []
  path : List String := []
deriving Repr

namespace Document

/-- Adds a value to the current table. -/
def add (document : Document) (key : List String × String) (value : Value) : Option Document := do
  let place (origin : Origin) (fields : Fields) : Option Fields :=
    fields.add key.1 key.2 value origin
  let fields ← document.fields.changeAt false place document.path .header
  some { document with fields := fields }

/-- Opens a table and makes it the current one. -/
def openAt (document : Document) (change : String → Fields → Option Fields)
    (key : List String × String) : Option Document := do
  let fields ← document.fields.changeAt false (fun _ => change key.2) key.1 .header
  some { fields := fields, path := key.1 ++ [key.2] }

/-- Reads a line that is no comment and not blank. -/
def readLine? (document : Document) (input : List Char) : Option (Document × List Char) :=
  match input with
  | '[' :: '[' :: rest => do
    let (key, rest) ← key? rest
    let rest ← past? ']' (← past? ']' rest)
    some (← document.openAt Fields.openElement key, ← lineEnd? rest)
  | '[' :: rest => do
    let (key, rest) ← key? rest
    let rest ← past? ']' rest
    some (← document.openAt Fields.openTable key, ← lineEnd? rest)
  | _ => do
    let ((key, value), rest) ← pair? value? input
    some (← document.add key value, ← lineEnd? rest)

/-- Reads the remaining lines; every line takes at least one character. -/
def readLines? (fuel : Nat) (document : Document) (input : List Char) : Option Document :=
  match fuel, skipSpaces input with
  | _, [] => some document
  | 0, _ => none
  | fuel + 1, input =>
    match lineEnd? input with
    | some rest => readLines? fuel document rest
    | none => do
      let (document, rest) ← document.readLine? input
      readLines? fuel document rest

/-- Reads a whole document, which may begin with a byte order mark. -/
def ofString? (text : String) : Option Document :=
  let chars := match text.toList with
    | '\uFEFF' :: rest => rest
    | chars => chars
  readLines? (chars.length + 1) {} chars

end Document

end LocalCloud.Toml
