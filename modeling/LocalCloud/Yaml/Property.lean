import LocalCloud.Text.Utf8
import LocalCloud.Yaml.Scalar

/-!
# Anchors, tags and directives of YAML

What stands in front of a node or a document and says more about it.
-/

namespace LocalCloud.Yaml

/-- A tag as written: a handle that stands for the beginning of the tag, and the
rest. -/
structure TagName where
  handle : String
  suffix : String
deriving DecidableEq, Repr

/-- A directive. -/
inductive Directive where
  | version (major minor : Nat)
  | tag (handle value : String)
deriving DecidableEq, Repr

/-- Takes the name of an anchor or alias behind its mark. -/
def name? (cursor : Cursor) : Option (String × Cursor) :=
  let (name, cursor) := cursor.takeWhile isNameChar
  let ends (c : Char) : Bool :=
    c ∈ ['?', ':', ',', ']', '}', '%', '@', Char.ofNat 0x60]
  if name.isEmpty || !(cursor.isGapAt 0 || cursor.sees 0 ends) then none
  else some (String.ofList name, cursor)

/-- Whether the character may stand in a tag. -/
def isTagChar (isVerbatim : Bool) (c : Char) : Bool :=
  isNameChar c
    || c ∈ [';', '/', '?', ':', '@', '&', '=', '+', '$', '.', '!', '~', '*', '\'', '(', ')']
    || (isVerbatim && c ∈ [',', '[', ']'])

/-- The octets that the tag in front spells, some of them in hexadecimal digits
behind a percent sign, and the length of the spelling. -/
def tagBytes? (isVerbatim : Bool) : List Char → Option (Bytes × Nat)
  | '%' :: high :: low :: rest => do
    let high ← Text.hexDigit? high
    let low ← Text.hexDigit? low
    let (bytes, length) ← tagBytes? isVerbatim rest
    some (UInt8.ofNat (high * 16 + low) :: bytes, length + 3)
  | c :: rest =>
    if c = '%' then none
    else if isTagChar isVerbatim c then
      (tagBytes? isVerbatim rest).map fun read => (UInt8.ofNat c.toNat :: read.1, read.2 + 1)
    else some ([], 0)
  | [] => some ([], 0)

def tagText? (isVerbatim : Bool) (cursor : Cursor) : Option (String × Cursor) := do
  let (bytes, length) ← tagBytes? isVerbatim cursor.rest
  some (← Utf8.decode? bytes, cursor.advance length)

/-- Takes a tag handle: one mark, or a name between two. -/
def tagHandle (cursor : Cursor) : List Char × Cursor :=
  let (name, cursor) := cursor.advance.takeWhile isNameChar
  if cursor.isAt '!' then ('!' :: name ++ ['!'], cursor.advance) else ('!' :: name, cursor)

/-- Takes a tag that is written out between angle brackets. -/
def verbatimTag? (cursor : Cursor) : Option (TagName × Cursor) := do
  let (suffix, cursor) ← tagText? true (cursor.advance 2)
  if suffix.isEmpty || !cursor.isAt '>' then none else some (⟨"", suffix⟩, cursor.advance)

/-- Takes a tag with a handle.  A name behind a single mark belongs to the suffix,
and a mark alone is a tag of its own. -/
def shorthandTag? (cursor : Cursor) : Option (TagName × Cursor) := do
  let (handle, cursor) := tagHandle cursor
  let (suffix, cursor) ← tagText? false cursor
  if 2 ≤ handle.length ∧ handle.getLast? = some '!' then
    if suffix.isEmpty then none else some (⟨String.ofList handle, suffix⟩, cursor)
  else
    let suffix := String.ofList handle.tail ++ suffix
    some (if suffix.isEmpty then ⟨"", "!"⟩ else ⟨"!", suffix⟩, cursor)

def tag? (inFlow : Bool) (cursor : Cursor) : Option (TagName × Cursor) := do
  let (name, cursor) ←
    if cursor.sees 1 (· == '<') then verbatimTag? cursor else shorthandTag? cursor
  if cursor.isGapAt 0 || (inFlow && cursor.isAt ',') then some (name, cursor) else none

/-- Takes a part of a version: at most nine digits. -/
def versionPart? (cursor : Cursor) : Option (Nat × Cursor) := do
  let (digits, cursor) := cursor.takeWhile Text.isAsciiDigit
  if 9 < digits.length then none else some (← Text.decimal? digits, cursor)

def version? (cursor : Cursor) : Option (Directive × Cursor) := do
  let (major, cursor) ← versionPart? (cursor.skipWhile isSpace)
  if !cursor.isAt '.' then none
  else
    let (minor, cursor) ← versionPart? cursor.advance
    some (.version major minor, cursor)

/-- Takes a handle and what it stands for. -/
def tagDirective? (cursor : Cursor) : Option (Directive × Cursor) := do
  let cursor := cursor.skipWhile isSpace
  let (handle, after) := tagHandle cursor
  if !cursor.isAt '!' || (handle ≠ ['!'] && handle.getLast? ≠ some '!')
      || !after.sees 0 isSpace then
    none
  else
    let (value, cursor) ← tagText? true (after.skipWhile isSpace)
    if value.isEmpty || !cursor.isGapAt 0 then none
    else some (.tag (String.ofList handle) value, cursor)

/-- Takes a directive and the rest of its line, behind the percent sign. -/
def directive? (cursor : Cursor) : Option (Directive × Cursor) := do
  let (name, cursor) := cursor.takeWhile isNameChar
  let (directive, cursor) ← match String.ofList name with
    | "YAML" => version? cursor
    | "TAG" => tagDirective? cursor
    | _ => none
  some (directive, ← cursor.endLine?)

end LocalCloud.Yaml
