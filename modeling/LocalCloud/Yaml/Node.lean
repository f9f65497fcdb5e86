import LocalCloud.Yaml.Token

/-!
# YAML documents

The nodes of a document and the grammar by which tokens form them.  Every rule
takes the tokens of a node and passes on what has been learnt about anchors.  A
node that is left out is an empty plain scalar.
-/

namespace LocalCloud.Yaml

/-- A node. -/
inductive Node where
  | scalar (text : String) (style : Style) (tag : Option String)
  | sequence (items : List Node)
  | mapping (pairs : List (Node × Node))
  /-- A node that aliases may refer to by a number. -/
  | anchored (number : Nat) (node : Node)
  /-- The node anchored last under a number. -/
  | alias (number : Nat)
deriving Repr, Inhabited

/-- An empty plain scalar. -/
def Node.empty (tag : Option String := none) : Node :=
  .scalar "" .plain tag

/-- The tokens that are left, and what is known from those before. -/
structure Feed where
  tokens : List Token
  /-- What tag handles stand for. -/
  handles : List (String × String) := []
  /-- The numbers of the anchors by name. -/
  anchors : List (String × Nat) := []
deriving Repr

namespace Feed

def peek? (feed : Feed) : Option Token :=
  feed.tokens.head?

/-- What is left behind the next token. -/
def skip (feed : Feed) : Feed :=
  { feed with tokens := feed.tokens.tail }

/-- Whether one of some tokens comes next; the end of the text counts as one. -/
def isBefore (feed : Feed) (tokens : List Token) : Bool :=
  match feed.peek? with
  | none => true
  | some token => token ∈ tokens

/-- Whether a given token comes next. -/
def isAt (feed : Feed) (token : Token) : Bool :=
  feed.peek? == some token

def resolve? (feed : Feed) (name : TagName) : Option String :=
  if name.handle.isEmpty then some name.suffix
  else
    (feed.handles.find? fun handle => handle.1 == name.handle).map fun handle =>
      handle.2 ++ name.suffix

/-- Gives a number to an anchor.  The number is that of the anchors known so far,
even if the name was known before. -/
def anchor (feed : Feed) (name : String) : Nat × Feed :=
  let number := feed.anchors.length
  let others := feed.anchors.filter fun anchor => anchor.1 != name
  (number, { feed with anchors := (name, number) :: others })

/-- What stands in front of a node. -/
structure Properties where
  anchor : Option String := none
  tag : Option TagName := none
deriving Repr

/-- Takes an anchor and a tag in either order. -/
def properties (feed : Feed) : Properties × Feed :=
  match feed.tokens with
  | .anchor anchor :: .tag tag :: rest => (⟨some anchor, some tag⟩, { feed with tokens := rest })
  | .tag tag :: .anchor anchor :: rest => (⟨some anchor, some tag⟩, { feed with tokens := rest })
  | .anchor anchor :: rest => (⟨some anchor, none⟩, { feed with tokens := rest })
  | .tag tag :: rest => (⟨none, some tag⟩, { feed with tokens := rest })
  | _ => ({}, feed)

/-- Where a node stands, which decides how it may be written. -/
inductive Place where
  | inFlow
  | inBlock
  /-- The key or value of a block mapping, which may be a sequence at the same
  indentation. -/
  | inMapping
deriving DecidableEq, Repr

mutual

def node? (fuel : Nat) (place : Place) (feed : Feed) : Option (Node × Feed) :=
  match fuel with
  | 0 => none
  | fuel + 1 =>
    match feed.peek? with
    | some (.alias name) => do
      let (_, number) ← feed.anchors.find? fun anchor => anchor.1 == name
      some (.alias number, feed.skip)
    | _ => do
      let (properties, feed) := feed.properties
      let tag ← properties.tag.mapM feed.resolve?
      match properties.anchor with
      | none => content? fuel place properties tag feed
      | some name =>
        let (number, feed) := feed.anchor name
        let (node, feed) ← content? fuel place properties tag feed
        some (.anchored number node, feed)

def content? (fuel : Nat) (place : Place) (properties : Properties) (tag : Option String)
    (feed : Feed) : Option (Node × Feed) :=
  match fuel with
  | 0 => none
  | fuel + 1 =>
    match feed.peek? with
    | some (.scalar text style) => some (.scalar text style (tag.filter (· != "!")), feed.skip)
    | some .bracketOpen => flowItems? fuel true [] feed.skip
    | some .braceOpen => flowPairs? fuel true [] feed.skip
    | some .sequenceStart => if place = .inFlow then none else blockItems? fuel [] feed.skip
    | some .mappingStart => if place = .inFlow then none else blockPairs? fuel [] feed.skip
    | token =>
      if token = some .dash ∧ place = .inMapping then plainItems? fuel [] feed
      else if properties.anchor.isSome ∨ properties.tag.isSome then some (.empty tag, feed)
      else none

/-- Takes a node unless one of some tokens comes next. -/
def nodeBefore? (fuel : Nat) (place : Place) (tokens : List Token) (feed : Feed) :
    Option (Node × Feed) :=
  match fuel with
  | 0 => none
  | fuel + 1 =>
    if feed.isBefore tokens then some (.empty, feed) else node? fuel place feed

/-- Takes the remaining entries of a block sequence; the earlier ones are in
reverse. -/
def blockItems? (fuel : Nat) (items : List Node) (feed : Feed) : Option (Node × Feed) :=
  match fuel with
  | 0 => none
  | fuel + 1 =>
    match feed.peek? with
    | some .dash => do
      let (item, feed) ← nodeBefore? fuel .inBlock [.dash, .blockEnd] feed.skip
      blockItems? fuel (item :: items) feed
    | some .blockEnd => some (.sequence items.reverse, feed.skip)
    | _ => none

/-- Takes the remaining entries of a sequence that is indented no more than the
mapping around it. -/
def plainItems? (fuel : Nat) (items : List Node) (feed : Feed) : Option (Node × Feed) :=
  match fuel with
  | 0 => none
  | fuel + 1 =>
    if feed.isAt .dash then do
      let (item, feed) ← nodeBefore? fuel .inBlock [.dash, .key, .value, .blockEnd] feed.skip
      plainItems? fuel (item :: items) feed
    else some (.sequence items.reverse, feed)

def blockPairs? (fuel : Nat) (pairs : List (Node × Node)) (feed : Feed) :
    Option (Node × Feed) :=
  match fuel with
  | 0 => none
  | fuel + 1 =>
    match feed.peek? with
    | some .blockEnd => some (.mapping pairs.reverse, feed.skip)
    | some .key => do
      let ends : List Token := [.key, .value, .blockEnd]
      let (key, feed) ← nodeBefore? fuel .inMapping ends feed.skip
      let (value, feed) ←
        if feed.isAt .value then nodeBefore? fuel .inMapping ends feed.skip
        else some (.empty, feed)
      blockPairs? fuel ((key, value) :: pairs) feed
    | _ => none

/-- Takes a value between brackets if there is one. -/
def flowValue? (fuel : Nat) (close : Token) (feed : Feed) : Option (Node × Feed) :=
  match fuel with
  | 0 => none
  | fuel + 1 =>
    if feed.isAt .value then nodeBefore? fuel .inFlow [.comma, close] feed.skip
    else some (.empty, feed)

/-- Takes the remaining items of a sequence between brackets.  An item may be a
single pair. -/
def flowItems? (fuel : Nat) (isFirst : Bool) (items : List Node) (feed : Feed) :
    Option (Node × Feed) :=
  match fuel with
  | 0 => none
  | fuel + 1 =>
    if feed.isAt .bracketClose then some (.sequence items.reverse, feed.skip)
    else if !isFirst && !feed.isAt .comma then none
    else
      let feed := if isFirst then feed else feed.skip
      if feed.isAt .bracketClose then some (.sequence items.reverse, feed.skip)
      else if feed.isAt .key then do
        let feed := feed.skip
        let (key, feed) ←
          if feed.isBefore [.value, .comma, .bracketClose] then some (Node.empty, feed.skip)
          else node? fuel .inFlow feed
        let (value, feed) ← flowValue? fuel .bracketClose feed
        flowItems? fuel false (.mapping [(key, value)] :: items) feed
      else do
        let (item, feed) ← node? fuel .inFlow feed
        flowItems? fuel false (item :: items) feed

/-- Takes the remaining pairs of a mapping between braces.  A node without a mark
in front is a key without a value. -/
def flowPairs? (fuel : Nat) (isFirst : Bool) (pairs : List (Node × Node)) (feed : Feed) :
    Option (Node × Feed) :=
  match fuel with
  | 0 => none
  | fuel + 1 =>
    if feed.isAt .braceClose then some (.mapping pairs.reverse, feed.skip)
    else if !isFirst && !feed.isAt .comma then none
    else
      let feed := if isFirst then feed else feed.skip
      if feed.isAt .braceClose then some (.mapping pairs.reverse, feed.skip)
      else if feed.isAt .key then do
        let (key, feed) ← nodeBefore? fuel .inFlow [.value, .comma, .braceClose] feed.skip
        let (value, feed) ← flowValue? fuel .braceClose feed
        flowPairs? fuel false ((key, value) :: pairs) feed
      else do
        let (key, feed) ← node? fuel .inFlow feed
        flowPairs? fuel false ((key, .empty) :: pairs) feed

end

/-- The tag handles that are always known. -/
def standardHandles : List (String × String) :=
  [("!", "!"), ("!!", "tag:yaml.org,2002:")]

/-- Takes the directives of a document: at most one version, which is 1.1 or 1.2,
and no tag handle twice. -/
def directives? (hasVersion : Bool) (feed : Feed) : List Token → Option Feed
  | .directive (.version major minor) :: rest =>
    if hasVersion ∨ major ≠ 1 ∨ (minor ≠ 1 ∧ minor ≠ 2) then none
    else directives? true feed rest
  | .directive (.tag handle value) :: rest =>
    if feed.handles.any fun known => known.1 == handle then none
    else directives? hasVersion { feed with handles := (handle, value) :: feed.handles } rest
  | rest => some { feed with tokens := rest, handles := feed.handles ++ standardHandles }

/-- What follows the content of a document: nothing but the marks that end it. -/
def isFinished : List Token → Bool
  | [] => true
  | .documentEnd :: rest => isFinished rest
  | _ => false

/-- Takes the only document of a text; there need not be any. -/
def document? (tokens : List Token) : Option (Option Node) := do
  let feed ← directives? false { tokens := tokens } tokens
  let hasDirectives := feed.tokens.length < tokens.length
  let fuel := 4 * tokens.length + 4
  let (node, feed) ←
    match feed.tokens with
    | .documentStart :: rest =>
      if isFinished rest || rest.head? == some .documentStart
          || rest.head? == some .documentEnd then
        some (some .empty, { feed with tokens := rest })
      else (node? fuel .inBlock { feed with tokens := rest }).map fun read => (some read.1, read.2)
    | [] => if hasDirectives then none else some (none, feed)
    | _ =>
      if hasDirectives then none
      else (node? fuel .inBlock feed).map fun read => (some read.1, read.2)
  if isFinished feed.tokens then some node else none

end Feed

namespace Node

mutual

/-- The anchored nodes by number, in the order of the text. -/
def anchors : Node → List (Nat × Node)
  | .anchored number node => (number, node) :: node.anchors
  | .sequence items => itemAnchors items
  | .mapping pairs => pairAnchors pairs
  | _ => []

def itemAnchors : List Node → List (Nat × Node)
  | [] => []
  | item :: rest => item.anchors ++ itemAnchors rest

def pairAnchors : List (Node × Node) → List (Nat × Node)
  | [] => []
  | (key, value) :: rest => key.anchors ++ value.anchors ++ pairAnchors rest

end

end Node

/-- A document: its node, unless it has none, and the nodes that aliases refer to
by number, the last of several first. -/
structure Document where
  root : Option Node
  targets : List (Nat × Node)
deriving Repr

namespace Document

/-- Reads the only document of a text. -/
def ofString? (text : String) : Option Document := do
  let root ← Feed.document? (← Token.ofString? text)
  some { root := root, targets := (root.map Node.anchors).getD [] |>.reverse }

/-- The node that an alias refers to. -/
def target? (document : Document) (number : Nat) : Option Node :=
  (document.targets.find? fun target => target.1 == number).map (·.2)

end Document

end LocalCloud.Yaml
