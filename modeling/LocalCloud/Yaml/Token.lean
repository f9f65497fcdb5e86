import LocalCloud.Yaml.Property

/-!
# The tokens of a YAML text

Indentation becomes tokens of its own, and so does the fact that a node is the
key of a mapping.  The latter shows only at the colon behind the node.  Until then
a slot holds the place in front of the node, which stays empty if no colon
follows.
-/

namespace LocalCloud.Yaml

/-- A token. -/
inductive Token where
  | directive (directive : Directive)
  | documentStart
  | documentEnd
  | sequenceStart
  | mappingStart
  | blockEnd
  | bracketOpen
  | bracketClose
  | braceOpen
  | braceClose
  | dash
  | comma
  | key
  | value
  | alias (name : String)
  | anchor (name : String)
  | tag (name : TagName)
  | scalar (text : String) (style : Style)
deriving DecidableEq, Repr

/-- A token, or the place where the tokens of a key may have to go. -/
inductive Entry where
  | token (token : Token)
  | slot (number : Nat)
deriving Repr

/-- What became of a slot. -/
inductive Fill where
  /-- No key begins here. -/
  | nothing
  /-- A key begins here. -/
  | key
  /-- A mapping begins here with its first key. -/
  | mapping
deriving DecidableEq, Repr

/-- A node that may turn out to be a key. -/
structure Candidate where
  slot : Nat
  /-- Whether nothing but a key may stand at this column. -/
  isRequired : Bool
  place : Cursor
deriving Repr

/-- A text whose front has been turned into tokens. -/
structure Layout where
  cursor : Cursor
  /-- What has been found, last first. -/
  entries : List Entry := []
  slots : Array Fill := #[]
  /-- The candidates of the current collection between brackets and of those
  around it, and at the end the one of the block. -/
  candidates : List (Option Candidate) := [none]
  /-- The column of the current block collection. -/
  indent : Int := -1
  /-- The columns of the block collections around it. -/
  outer : List Int := []
  /-- Whether a key may begin here. -/
  allowsKey : Bool := true
deriving Repr

namespace Layout

/-- Whether the position is between brackets. -/
def inFlow (layout : Layout) : Bool :=
  1 < layout.candidates.length

def emit (layout : Layout) (token : Token) : Layout :=
  { layout with entries := .token token :: layout.entries }

/-- Appends the token of some characters. -/
def emitMark (layout : Layout) (token : Token) (width : Nat := 1) : Layout :=
  { layout.emit token with cursor := layout.cursor.advance width }

/-- Says whether a key may begin next. -/
def allowing (layout : Layout) (allowsKey : Bool) : Layout :=
  { layout with allowsKey := allowsKey }

/-- The position of the next token.  A line break lets a key begin outside of
brackets; tabs count as white space where no key may begin. -/
def skipGap (fuel : Nat) (layout : Layout) : Layout :=
  match fuel, layout.cursor.rest with
  | 0, _ => layout
  | _, [] => layout
  | fuel + 1, c :: _ =>
    if c = ' ' ∨ (c = '\t' ∧ (layout.inFlow ∨ !layout.allowsKey)) then
      skipGap fuel { layout with cursor := layout.cursor.advance }
    else if c = '#' then
      skipGap fuel { layout with cursor := layout.cursor.skipWhile fun c => !isBreak c }
    else if isBreak c then
      skipGap fuel
        { layout with
          cursor := layout.cursor.advanceLine
          allowsKey := layout.allowsKey || !layout.inFlow }
    else layout

/-- A candidate that is still one here: a key lies on one line and is not too
long.  A required one must not be lost. -/
def refresh? (cursor : Cursor) : Option Candidate → Option (Option Candidate)
  | none => some none
  | some candidate =>
    if candidate.place.line < cursor.line ∨ candidate.place.index + 1024 < cursor.index then
      if candidate.isRequired then none else some none
    else some (some candidate)

/-- Drops the candidates that are none any more. -/
def dropStale? (layout : Layout) : Option Layout := do
  some { layout with candidates := ← layout.candidates.mapM (refresh? layout.cursor) }

/-- Ends the block collections that are indented more than a column. -/
def unindent (column : Int) (layout : Layout) : Layout :=
  if layout.inFlow then layout else loop layout.outer layout
where
  /-- Ends one collection after the other. -/
  loop : List Int → Layout → Layout
    | [], layout => layout
    | indent :: outer, layout =>
      if column < layout.indent then
        loop outer { layout.emit .blockEnd with indent := indent, outer := outer }
      else layout

/-- Whether a collection at a column is indented more than the current one. -/
def isDeeper (layout : Layout) (column : Nat) : Bool :=
  !layout.inFlow && layout.indent < column

/-- Makes a column that of the current block collection. -/
def indentTo (layout : Layout) (column : Nat) : Layout :=
  { layout with indent := column, outer := layout.indent :: layout.outer }

/-- Begins a block collection here if it is indented more than the current
one. -/
def beginHere (layout : Layout) (token : Token) : Layout :=
  let column := layout.cursor.column
  if layout.isDeeper column then (layout.emit token).indentTo column else layout

/-- Gives up the current candidate, unless it is required. -/
def dropCandidate? (layout : Layout) : Option Layout :=
  match layout.candidates with
  | some candidate :: outer =>
    if candidate.isRequired then none else some { layout with candidates := none :: outer }
  | _ => some layout

/-- Makes the node that begins here a candidate, if a key may begin here. -/
def addCandidate? (layout : Layout) : Option Layout :=
  if !layout.allowsKey then some layout
  else do
    let layout ← layout.dropCandidate?
    let slot := layout.slots.size
    let isRequired := !layout.inFlow && layout.indent == layout.cursor.column
    some
      { layout with
        entries := .slot slot :: layout.entries
        slots := layout.slots.push .nothing
        candidates := some ⟨slot, isRequired, layout.cursor⟩ :: layout.candidates.tail }

/-- Takes the mark that starts or ends a document. -/
def boundary? (token : Token) (layout : Layout) : Option Layout := do
  let layout ← (layout.unindent (-1)).dropCandidate?
  some ((layout.emitMark token 3).allowing false)

def takeDirective? (layout : Layout) : Option Layout := do
  let layout ← (layout.unindent (-1)).dropCandidate?
  let (directive, cursor) ← directive? layout.cursor.advance
  some { (layout.emit (.directive directive)).allowing false with cursor := cursor }

def open? (token : Token) (layout : Layout) : Option Layout := do
  let layout ← layout.addCandidate?
  some
    { (layout.emitMark token).allowing true with candidates := none :: layout.candidates }

/-- Takes a closing bracket. -/
def close? (token : Token) (layout : Layout) : Option Layout := do
  let layout ← layout.dropCandidate?
  let candidates := if layout.inFlow then layout.candidates.tail else layout.candidates
  some { (layout.emitMark token).allowing false with candidates := candidates }

def comma? (layout : Layout) : Option Layout := do
  some (((← layout.dropCandidate?).emitMark .comma).allowing true)

/-- Takes the mark of a sequence entry. -/
def dash? (layout : Layout) : Option Layout := do
  if !layout.inFlow && !layout.allowsKey then none
  else
    let layout ← (layout.beginHere .sequenceStart).dropCandidate?
    some ((layout.emitMark .dash).allowing true)

/-- Takes the mark of a key. -/
def question? (layout : Layout) : Option Layout := do
  if !layout.inFlow && !layout.allowsKey then none
  else
    let layout ← (layout.beginHere .mappingStart).dropCandidate?
    some ((layout.emitMark .key).allowing !layout.inFlow)

/-- Takes the colon in front of a value.  It turns the candidate into a key. -/
def colon? (layout : Layout) : Option Layout :=
  match layout.candidates with
  | some candidate :: outer =>
    let column := candidate.place.column
    let isFirst := layout.isDeeper column
    let filled :=
      { layout with
        candidates := none :: outer
        slots := layout.slots.setIfInBounds candidate.slot (if isFirst then .mapping else .key) }
    let filled := if isFirst then filled.indentTo column else filled
    some ((filled.emitMark .value).allowing false)
  | _ =>
    if layout.inFlow then some ((layout.emitMark .value).allowing false)
    else if !layout.allowsKey then none
    else some (((layout.beginHere .mappingStart).emitMark .value).allowing true)

/-- Takes an alias or an anchor. -/
def takeName? (token : String → Token) (layout : Layout) : Option Layout := do
  let layout ← layout.addCandidate?
  let (name, cursor) ← name? layout.cursor.advance
  some { (layout.emit (token name)).allowing false with cursor := cursor }

def takeTag? (layout : Layout) : Option Layout := do
  let layout ← layout.addCandidate?
  let (name, cursor) ← tag? layout.inFlow layout.cursor
  some { (layout.emit (.tag name)).allowing false with cursor := cursor }

def takeBlock? (style : Style) (layout : Layout) : Option Layout := do
  let layout ← layout.dropCandidate?
  let (text, cursor) ← block? (style = .literal) layout.indent layout.cursor.advance
  some { (layout.emit (.scalar text style)).allowing true with cursor := cursor }

def takeQuoted? (quote : Char) (layout : Layout) : Option Layout := do
  let layout ← layout.addCandidate?
  let start := layout.cursor.advance
  let (folding, cursor) ← quoted? quote (start.rest.length + 1) {} start
  let text := String.ofList folding.text.reverse
  some { (layout.emit (.scalar text .quoted)).allowing false with cursor := cursor }

/-- Takes a plain scalar.  After one that ends with its line a key may begin. -/
def takePlain? (layout : Layout) : Option Layout := do
  let layout ← layout.addCandidate?
  let start := layout.cursor
  let indent := (layout.indent + 1).toNat
  let (folding, cursor) ← plain? layout.inFlow indent (start.rest.length + 1) {} start
  let text := String.ofList folding.text.reverse
  some { (layout.emit (.scalar text .plain)).allowing folding.isBroken with cursor := cursor }

/-- Whether a plain scalar begins with a character that is no gap. -/
def beginsPlain (layout : Layout) (c : Char) : Bool :=
  let cursor := layout.cursor
  let indicators := ['-', '?', ':', ',', '[', ']', '{', '}', '#', '&', '*', '!', '|', '>', '\'',
    '"', '%', '@', Char.ofNat 0x60]
  c ∉ indicators || (c == '-' && !cursor.sees 1 isSpace)
    || (!layout.inFlow && (c == '?' || c == ':') && !cursor.isGapAt 1)

/-- Takes the token that begins with a character. -/
def takeToken? (layout : Layout) (c : Char) : Option Layout :=
  let cursor := layout.cursor
  let inFlow := layout.inFlow
  if c = '%' ∧ cursor.column = 0 then layout.takeDirective?
  else if cursor.isAtMark '-' then layout.boundary? .documentStart
  else if cursor.isAtMark '.' then layout.boundary? .documentEnd
  else if c = '[' then layout.open? .bracketOpen
  else if c = '{' then layout.open? .braceOpen
  else if c = ']' then layout.close? .bracketClose
  else if c = '}' then layout.close? .braceClose
  else if c = ',' then layout.comma?
  else if c = '-' ∧ cursor.isGapAt 1 then layout.dash?
  else if c = '?' ∧ (inFlow ∨ cursor.isGapAt 1) then layout.question?
  else if c = ':' ∧ (inFlow ∨ cursor.isGapAt 1) then layout.colon?
  else if c = '*' then layout.takeName? .alias
  else if c = '&' then layout.takeName? .anchor
  else if c = '!' then layout.takeTag?
  else if c = '|' ∧ !inFlow then layout.takeBlock? .literal
  else if c = '>' ∧ !inFlow then layout.takeBlock? .folded
  else if c = '\'' ∨ c = '"' then layout.takeQuoted? c
  else if !isGap c && layout.beginsPlain c then layout.takePlain?
  else none

/-- Takes all tokens; every one takes at least one character. -/
def run? (fuel : Nat) (layout : Layout) : Option Layout :=
  match fuel with
  | 0 => none
  | fuel + 1 => do
    let layout ← (skipGap (fuel + 1) layout).dropStale?
    let layout := layout.unindent layout.cursor.column
    match layout.cursor.rest with
    | [] => (layout.unindent (-1)).dropCandidate?
    | c :: _ => run? fuel (← layout.takeToken? c)

def tokensOf (layout : Layout) : Entry → List Token
  | .token token => [token]
  | .slot number =>
    match layout.slots.getD number .nothing with
    | .nothing => []
    | .key => [.key]
    | .mapping => [.mappingStart, .key]

end Layout

/-- The tokens of a text, if all of its characters are printable.  The text may
begin with a byte order mark. -/
def Token.ofString? (text : String) : Option (List Token) := do
  let chars := match text.toList with
    | '\uFEFF' :: rest => rest
    | chars => chars
  if !chars.all isPrintable then none
  else
    let layout ← Layout.run? (chars.length + 1) { cursor := { rest := chars } }
    some (layout.entries.reverse.flatMap layout.tokensOf)

end LocalCloud.Yaml
