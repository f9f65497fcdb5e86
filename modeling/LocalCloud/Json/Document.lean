import LocalCloud.Json.Basic
import LocalCloud.Json.Token

/-!
# JSON documents

The structure of a JSON text before anybody has asked for its contents: repeated
keys are kept, and a string or number that denotes nothing is an error only for
a reader that uses it.  `Node.toValue?` reads all of a document.
-/

namespace LocalCloud.Json

/-- A parsed JSON text. -/
inductive Node where
  | null
  | bool (value : Bool)
  | number (value : Option Number)
  | string (value : Option String)
  | array (items : List Node)
  | object (fields : List (Option String × Node))
deriving Repr, Inhabited

namespace Node

/-- A container that is being read; its finished parts are in reverse. -/
inductive Frame where
  | items (before : List Node)
  | fields (before : List (Option String × Node)) (key : Option String)

/-- What the reader waits for, with the open containers from the inside out. -/
inductive State where
  | value (stack : List Frame)
  | firstItem (stack : List Frame)
  | firstKey (stack : List Frame)
  | nextKey (before : List (Option String × Node)) (stack : List Frame)
  | colon (before : List (Option String × Node)) (key : Option String) (stack : List Frame)
  | afterItem (before : List Node) (stack : List Frame)
  | afterField (before : List (Option String × Node)) (stack : List Frame)
  | finished (node : Node)

/-- Hands a finished node to the innermost open container. -/
def place (node : Node) : List Frame → State
  | [] => .finished node
  | .items before :: stack => .afterItem (node :: before) stack
  | .fields before key :: stack => .afterField ((key, node) :: before) stack

/-- Begins a value with its first token. -/
def begin? (token : Token) (stack : List Frame) : Option State :=
  match token with
  | .null => some (place .null stack)
  | .bool value => some (place (.bool value) stack)
  | .number value => some (place (.number value) stack)
  | .string value => some (place (.string value) stack)
  | .leftBracket => some (.firstItem stack)
  | .leftBrace => some (.firstKey stack)
  | _ => none

def step? (state : State) (token : Token) : Option State :=
  match state, token with
  | .value stack, token => begin? token stack
  | .firstItem stack, .rightBracket => some (place (.array []) stack)
  | .firstItem stack, token => begin? token (.items [] :: stack)
  | .firstKey stack, .rightBrace => some (place (.object []) stack)
  | .firstKey stack, .string key => some (.colon [] key stack)
  | .nextKey before stack, .string key => some (.colon before key stack)
  | .colon before key stack, .colon => some (.value (.fields before key :: stack))
  | .afterItem before stack, .comma => some (.value (.items before :: stack))
  | .afterItem before stack, .rightBracket => some (place (.array before.reverse) stack)
  | .afterField before stack, .comma => some (.nextKey before stack)
  | .afterField before stack, .rightBrace => some (place (.object before.reverse) stack)
  | _, _ => none

def ofTokens? (tokens : List Token) : Option Node :=
  match tokens.foldlM step? (.value []) with
  | some (.finished node) => some node
  | _ => none

def ofPieces? (pieces : List Utf8.Piece) : Option Node :=
  (Token.scan pieces).bind ofTokens?

def ofString? (text : String) : Option Node :=
  ofPieces? (text.toList.map some)

/-- Reads the document in a byte string. -/
def ofBytes? (bytes : Bytes) : Option Node :=
  ofPieces? (Utf8.units bytes)

/-- The deepest nesting of containers that is read in full. -/
def maxDepth : Nat := 127

/-- The value of a document whose containers are at most `depth` deep. -/
def toValueWithin? : Nat → Node → Option Value
  | _, .null => some .null
  | _, .bool value => some (.bool value)
  | _, .number value => value.map .number
  | _, .string value => value.map .string
  | 0, _ => none
  | depth + 1, .array items => (items.mapM (toValueWithin? depth)).map .array
  | depth + 1, .object fields =>
    (fields.mapM fun (field : Option String × Node) => do
      let key ← field.1
      let value ← toValueWithin? depth field.2
      some (key, value)).map fun fields => .object (Entries.ofList fields)

def toValue? (node : Node) : Option Value :=
  toValueWithin? maxDepth node

end Node

def Value.ofString? (text : String) : Option Value :=
  (Node.ofString? text).bind Node.toValue?

/-- Reads the value in a byte string. -/
def Value.ofBytes? (bytes : Bytes) : Option Value :=
  (Node.ofBytes? bytes).bind Node.toValue?

mutual

def Value.toNode : Value → Node
  | .null => .null
  | .bool value => .bool value
  | .number value => .number (some value)
  | .string value => .string (some value)
  | .array items => .array (Value.toNodes items)
  | .object fields => .object (Value.toFields fields)

def Value.toNodes : List Value → List Node
  | [] => []
  | item :: rest => item.toNode :: Value.toNodes rest

def Value.toFields : List (String × Value) → List (Option String × Node)
  | [] => []
  | (key, value) :: rest => (some key, value.toNode) :: Value.toFields rest

end

end LocalCloud.Json
