/-!
# Positions in a YAML text

What is left of a text, with the line and column that indentation is measured by
and the index that limits the length of keys.
-/

namespace LocalCloud.Yaml

/-- Whether the character ends a line. -/
def isBreak (c : Char) : Bool :=
  c == '\n' || c == '\r' || c == '\u0085' || c == '\u2028' || c == '\u2029'

/-- Whether the character is a space or a tab. -/
def isSpace (c : Char) : Bool :=
  c == ' ' || c == '\t'

/-- Whether the character parts words. -/
def isGap (c : Char) : Bool :=
  isSpace c || isBreak c

/-- Whether the character may stand in a name. -/
def isNameChar (c : Char) : Bool :=
  c.isAlphanum || c == '_' || c == '-'

/-- Whether a text may hold the character at all. -/
def isPrintable (c : Char) : Bool :=
  let n := c.toNat
  c == '\t' || c == '\n' || c == '\r' || (0x20 ≤ n && n ≤ 0x7E) || n == 0x85
    || (0xA0 ≤ n && n ≤ 0xD7FF) || (0xE000 ≤ n && n ≤ 0xFFFD && n != 0xFEFF) || 0x10000 ≤ n

/-- A position in a text. -/
structure Cursor where
  rest : List Char
  index : Nat := 0
  line : Nat := 0
  column : Nat := 0
deriving Repr

namespace Cursor

/-- Whether there is a character of a class at a distance. -/
def sees (cursor : Cursor) (distance : Nat) (p : Char → Bool) : Bool :=
  cursor.rest[distance]?.any p

/-- Whether a given character comes next. -/
def isAt (cursor : Cursor) (c : Char) : Bool :=
  cursor.sees 0 (· == c)

/-- Whether a word ends at a distance. -/
def isGapAt (cursor : Cursor) (distance : Nat) : Bool :=
  cursor.rest[distance]?.all isGap

/-- The position some characters further on the same line. -/
def advance (cursor : Cursor) (count : Nat := 1) : Cursor where
  rest := cursor.rest.drop count
  index := cursor.index + count
  line := cursor.line
  column := cursor.column + count

/-- The line break in front as it counts in a text: most breaks become a line
feed. -/
def lineBreak (cursor : Cursor) : List Char :=
  match cursor.rest with
  | [] => []
  | c :: _ =>
    if c == '\u2028' || c == '\u2029' then [c] else if isBreak c then ['\n'] else []

/-- The position behind the line break in front, if there is one. -/
def advanceLine (cursor : Cursor) : Cursor :=
  let width := match cursor.rest with
    | '\r' :: '\n' :: _ => 2
    | c :: _ => if isBreak c then 1 else 0
    | [] => 0
  if width = 0 then cursor
  else ⟨cursor.rest.drop width, cursor.index + width, cursor.line + 1, 0⟩

/-- The characters of a class in front and the position behind them. -/
def takeWhile (cursor : Cursor) (p : Char → Bool) : List Char × Cursor :=
  let chars := cursor.rest.takeWhile p
  (chars, cursor.advance chars.length)

/-- The position behind the characters of a class in front. -/
def skipWhile (cursor : Cursor) (p : Char → Bool) : Cursor :=
  (cursor.takeWhile p).2

/-- Whether a line begins with the mark that starts or ends a document. -/
def isAtMark (cursor : Cursor) (mark : Char) : Bool :=
  cursor.column == 0 && cursor.rest.take 3 == [mark, mark, mark] && cursor.isGapAt 3

/-- Whether a document starts or ends here. -/
def isAtBoundary (cursor : Cursor) : Bool :=
  cursor.isAtMark '-' || cursor.isAtMark '.'

/-- The start of the next line, if nothing but spaces and a comment are left on
this one. -/
def endLine? (cursor : Cursor) : Option Cursor :=
  let cursor := cursor.skipWhile isSpace
  let cursor := if cursor.isAt '#' then cursor.skipWhile (fun c => !isBreak c) else cursor
  if cursor.rest.isEmpty || cursor.sees 0 isBreak then some cursor.advanceLine else none

end Cursor

end LocalCloud.Yaml
