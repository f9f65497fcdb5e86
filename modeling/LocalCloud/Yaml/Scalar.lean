import LocalCloud.Text.Ascii
import LocalCloud.Yaml.Cursor

/-!
# Scalars of YAML

The five ways to write a scalar.  On a line of its own text and white space stand
as they are; across lines they are folded: one line break becomes a space, and of
several the first is dropped.
-/

namespace LocalCloud.Yaml

/-- How a scalar is written. -/
inductive Style where
  | plain
  | quoted
  | literal
  | folded
deriving DecidableEq, Repr

/-- The text of a scalar, and the white space behind it that counts only if more
text follows.  All characters are in reverse. -/
structure Folding where
  text : List Char := []
  spaces : List Char := []
  firstBreak : List Char := []
  moreBreaks : List Char := []
  /-- Whether a line has ended. -/
  isBroken : Bool := false
deriving Repr

namespace Folding

/-- Appends a character. -/
def push (folding : Folding) (c : Char) : Folding :=
  { folding with text := c :: folding.text }

/-- The white space as it counts in front of more text. -/
def gap (folding : Folding) : List Char :=
  if !folding.isBroken then folding.spaces
  else if folding.firstBreak ≠ ['\n'] then folding.moreBreaks ++ folding.firstBreak
  else if folding.moreBreaks.isEmpty then [' ']
  else folding.moreBreaks

/-- Makes the white space part of the text. -/
def join (folding : Folding) : Folding where
  text := folding.gap ++ folding.text

/-- Takes the white space in front.  A tab may not stand in for the indentation of
a plain scalar. -/
def takeGap? (indent : Nat) (fuel : Nat) (folding : Folding) (cursor : Cursor) :
    Option (Folding × Cursor) :=
  match fuel, cursor.rest with
  | 0, _ => some (folding, cursor)
  | _, [] => some (folding, cursor)
  | fuel + 1, c :: _ =>
    if isBreak c then
      let lineBreak := cursor.lineBreak
      let folding :=
        if folding.isBroken then { folding with moreBreaks := lineBreak ++ folding.moreBreaks }
        else { folding with spaces := [], firstBreak := lineBreak, isBroken := true }
      takeGap? indent fuel folding cursor.advanceLine
    else if !isSpace c then some (folding, cursor)
    else if folding.isBroken then
      if c = '\t' ∧ cursor.column < indent then none
      else takeGap? indent fuel folding cursor.advance
    else takeGap? indent fuel { folding with spaces := c :: folding.spaces } cursor.advance

end Folding

/-- Whether the character delimits collections between brackets. -/
def isFlowMark (c : Char) : Bool :=
  c ∈ [',', '[', ']', '{', '}']

/-- The part of a plain scalar up to the next white space or to a colon that ends
it; nothing when a colon stands before a mark that it may not precede. -/
def plainWord? (inFlow : Bool) : List Char → Option (List Char)
  | [] => some []
  | c :: rest =>
    if isGap c then some []
    else if inFlow ∧ c = ':' ∧ rest.head?.any (fun next => isFlowMark next || next == '?') then none
    else if (c = ':' ∧ rest.head?.all isGap) ∨ (inFlow ∧ isFlowMark c) then some []
    else (plainWord? inFlow rest).map (c :: ·)

/-- Takes a plain scalar whose later lines are indented by at least `indent`. -/
def plain? (inFlow : Bool) (indent fuel : Nat) (folding : Folding) (cursor : Cursor) :
    Option (Folding × Cursor) :=
  match fuel with
  | 0 => none
  | fuel + 1 =>
    if cursor.isAtBoundary || cursor.isAt '#' then some (folding, cursor)
    else do
      let word ← plainWord? inFlow cursor.rest
      let folding := if word.isEmpty then folding else word.foldl .push folding.join
      let cursor := cursor.advance word.length
      if !cursor.sees 0 isGap then some (folding, cursor)
      else
        let (folding, cursor) ← folding.takeGap? indent (cursor.rest.length + 1) cursor
        if !inFlow && cursor.column < indent then some (folding, cursor)
        else plain? inFlow indent fuel folding cursor

/-- The character with a code of so many hexadecimal digits. -/
def charOfHex? (count : Nat) (input : List Char) : Option Char := do
  let digits := input.take count
  let code ← digits.foldlM (fun code digit => (Text.hexDigit? digit).map (code * 16 + ·)) 0
  if digits.length = count ∧ code.isValidChar then some (Char.ofNat code) else none

/-- The character an escape denotes, behind the backslash, and the length of the
escape. -/
def escape? : List Char → Option (Char × Nat)
  | [] => none
  | c :: rest =>
    match c with
    | '0' => some (Char.ofNat 0, 1)
    | 'a' => some (Char.ofNat 7, 1)
    | 'b' => some (Char.ofNat 8, 1)
    | 't' => some ('\t', 1)
    | '\t' => some ('\t', 1)
    | 'n' => some ('\n', 1)
    | 'v' => some (Char.ofNat 0x0B, 1)
    | 'f' => some (Char.ofNat 0x0C, 1)
    | 'r' => some ('\r', 1)
    | 'e' => some (Char.ofNat 0x1B, 1)
    | ' ' => some (' ', 1)
    | '"' => some ('"', 1)
    | '/' => some ('/', 1)
    | '\\' => some ('\\', 1)
    | 'N' => some (Char.ofNat 0x85, 1)
    | '_' => some (Char.ofNat 0xA0, 1)
    | 'L' => some (Char.ofNat 0x2028, 1)
    | 'P' => some (Char.ofNat 0x2029, 1)
    | 'x' => (charOfHex? 2 rest).map fun c => (c, 3)
    | 'u' => (charOfHex? 4 rest).map fun c => (c, 5)
    | 'U' => (charOfHex? 8 rest).map fun c => (c, 9)
    | _ => none

/-- Takes the part of a quoted scalar up to the next white space, up to the
closing quote, or over an escaped line break. -/
def quotedWord? (quote : Char) (fuel : Nat) (folding : Folding) (cursor : Cursor) :
    Option (Folding × Cursor) :=
  match fuel, cursor.rest with
  | 0, _ => none
  | _, [] => some (folding, cursor)
  | fuel + 1, c :: rest =>
    if isGap c then some (folding, cursor)
    else if c = '\'' ∧ quote = '\'' ∧ rest.head? = some '\'' then
      quotedWord? quote fuel (folding.push '\'') (cursor.advance 2)
    else if c = quote then some (folding, cursor)
    else if c = '\\' ∧ quote = '"' then
      if rest.head?.any isBreak then
        some ({ folding with isBroken := true }, cursor.advance.advanceLine)
      else do
        let (c, length) ← escape? rest
        quotedWord? quote fuel (folding.push c) (cursor.advance (length + 1))
    else quotedWord? quote fuel (folding.push c) cursor.advance

def quoted? (quote : Char) (fuel : Nat) (folding : Folding) (cursor : Cursor) :
    Option (Folding × Cursor) :=
  match fuel with
  | 0 => none
  | fuel + 1 =>
    if cursor.isAtBoundary || cursor.rest.isEmpty then none
    else do
      let length := cursor.rest.length + 1
      let (folding, cursor) ← quotedWord? quote length folding cursor
      if cursor.isAt quote then some (folding, cursor.advance)
      else
        let (folding, cursor) ← folding.takeGap? 0 length cursor
        quoted? quote fuel folding.join cursor

/-- What becomes of the line breaks at the end of a block scalar. -/
inductive Chomping where
  | strip
  | clip
  | keep
deriving DecidableEq, Repr

/-- The head of a block scalar: its chomping and its indentation, if given. -/
structure BlockHead where
  chomping : Chomping := .clip
  increment : Option Nat := none
deriving Repr

/-- Takes the marks of a block head, at most one of each kind. -/
def blockHead? (fuel : Nat) (head : BlockHead) (cursor : Cursor) : Option (BlockHead × Cursor) :=
  match fuel, cursor.rest with
  | fuel + 1, c :: _ =>
    if (c = '+' ∨ c = '-') ∧ head.chomping = .clip then
      let chomping := if c = '+' then .keep else .strip
      blockHead? fuel { head with chomping := chomping } cursor.advance
    else if head.increment.isNone then
      match Text.digit? c with
      | none => some (head, cursor)
      | some 0 => none
      | some n => blockHead? fuel { head with increment := some n } cursor.advance
    else some (head, cursor)
  | _, _ => some (head, cursor)

/-- Takes the indentation of a line in a block scalar and the empty lines before
it.  While the indentation of the scalar is not known, it is zero and any number
of spaces is taken; the greatest number is given. -/
def blockBreaks? (indent fuel greatest : Nat) (breaks : List Char) (cursor : Cursor) :
    Option (Nat × List Char × Cursor) :=
  match fuel with
  | 0 => none
  | fuel + 1 =>
    let spaces := (cursor.rest.takeWhile (· == ' ')).length
    let cursor := cursor.advance <|
      if indent = 0 then spaces else min spaces (indent - cursor.column)
    let greatest := max greatest cursor.column
    if (indent = 0 ∨ cursor.column < indent) ∧ cursor.isAt '\t' then none
    else if !cursor.sees 0 isBreak then some (greatest, breaks, cursor)
    else blockBreaks? indent fuel greatest (cursor.lineBreak ++ breaks) cursor.advanceLine

/-- A block scalar as far as it has been taken.  All characters are in reverse. -/
structure Block where
  text : List Char := []
  lineBreak : List Char := []
  breaks : List Char
  /-- Whether the last line begins with white space. -/
  isSpaced : Bool := false
deriving Repr

/-- The text of the block with the line breaks in front of another line.  A folded
block keeps a line break beside a line that begins with white space. -/
def Block.join (isLiteral isSpaced : Bool) (block : Block) : List Char :=
  if !isLiteral && block.lineBreak == ['\n'] && !block.isSpaced && !isSpaced then
    if block.breaks.isEmpty then ' ' :: block.text else block.breaks ++ block.text
  else block.breaks ++ block.lineBreak ++ block.text

def blockLines? (isLiteral : Bool) (indent fuel : Nat) (block : Block) (cursor : Cursor) :
    Option (Block × Cursor) :=
  match fuel with
  | 0 => none
  | fuel + 1 =>
    if cursor.column ≠ indent ∨ cursor.rest.isEmpty then some (block, cursor)
    else do
      let isSpaced := cursor.sees 0 isSpace
      let (line, cursor) := cursor.takeWhile fun c => !isBreak c
      let lineBreak := cursor.lineBreak
      let text := line.reverse ++ block.join isLiteral isSpaced
      let cursor := cursor.advanceLine
      let (_, breaks, cursor) ← blockBreaks? indent (cursor.rest.length + 1) 0 [] cursor
      blockLines? isLiteral indent fuel ⟨text, lineBreak, breaks, isSpaced⟩ cursor

/-- Takes a block scalar behind its mark, inside a collection that is indented by
`parent`. -/
def block? (isLiteral : Bool) (parent : Int) (cursor : Cursor) : Option (String × Cursor) := do
  let (head, cursor) ← blockHead? 2 {} cursor
  let cursor ← cursor.endLine?
  let given := match head.increment with
    | none => 0
    | some increment => parent.toNat + increment
  let fuel := cursor.rest.length + 1
  let (greatest, breaks, cursor) ← blockBreaks? given fuel 0 [] cursor
  let indent := if given = 0 then max greatest (max (parent + 1).toNat 1) else given
  let (block, cursor) ← blockLines? isLiteral indent fuel { breaks := breaks } cursor
  let tail := match head.chomping with
    | .strip => []
    | .clip => block.lineBreak
    | .keep => block.breaks ++ block.lineBreak
  some (String.ofList (tail ++ block.text).reverse, cursor)

end LocalCloud.Yaml
