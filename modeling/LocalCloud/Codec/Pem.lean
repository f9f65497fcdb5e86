import LocalCloud.Codec.Base64
import LocalCloud.Text.Split
import LocalCloud.Text.Whitespace

/-!
# PEM blocks

Binary data as base64 lines between a `BEGIN` and an `END` line.  Blocks are
written with lines of 64 characters.  They are read in three ways, which differ
in how much they tolerate: keys in strict form, certificates line by line, and
the authorization key wherever the two boundaries are found.
-/

namespace LocalCloud.Pem

/-- The width of a base64 line. -/
def lineWidth : Nat := 64

/-- The characters in lines of at most `lineWidth`, each ended by a line feed. -/
def wrap (chars : List Char) : List Char :=
  loop chars.length chars
where
  /-- Writes at most `fuel` lines. -/
  loop : Nat → List Char → List Char
    | 0, _ => []
    | fuel + 1, chars =>
      if chars.isEmpty then []
      else chars.take lineWidth ++ '\n' :: loop fuel (chars.drop lineWidth)

/-- The block with a label and a base64 text. -/
def render (label base64 : String) : String :=
  "-----BEGIN " ++ label ++ "-----\n" ++ String.ofList (wrap base64.toList)
    ++ "-----END " ++ label ++ "-----\n"

/-- The words that open and close a boundary. -/
def beginWord : List Char := "-----BEGIN ".toList

/-- The word that opens the last boundary. -/
def endWord : List Char := "-----END ".toList

/-- The dashes that close a boundary. -/
def dashes : List Char := "-----".toList

def dropLineEnd? : List Char → Option (List Char)
  | '\r' :: '\n' :: rest => some rest
  | '\r' :: rest => some rest
  | '\n' :: rest => some rest
  | _ => none

def dropFinalLineEnd? (chars : List Char) : Option (List Char) :=
  match chars.reverse with
  | '\n' :: '\r' :: rest => some rest.reverse
  | '\n' :: rest => some rest.reverse
  | '\r' :: rest => some rest.reverse
  | _ => none

/-- Drops what precedes the first boundary, which starts a line; a zero character
must not occur there. -/
def dropPreamble? (chars : List Char) : Option (List Char) :=
  if beginWord.isPrefixOf chars then some chars else search chars
where
  /-- Looks for a line that is a boundary. -/
  search : List Char → Option (List Char)
    | [] => none
    | c :: rest =>
      if c.toNat = 0 then none
      else if c = '\n' ∧ beginWord.isPrefixOf rest then some rest
      else search rest

def beforeEnd? (ending chars : List Char) : Option (List Char) :=
  (Text.afterStart? ending.reverse chars.reverse).map List.reverse

/-- Joins lines of exactly `lineWidth` characters, the last one possibly
shorter. -/
def unwrap? (chars : List Char) : Option (List Char) :=
  loop chars.length chars
where
  /-- Joins at most `fuel` lines. -/
  loop : Nat → List Char → Option (List Char)
    | 0, chars => some chars
    | fuel + 1, chars =>
      if chars.length ≤ lineWidth then some chars
      else do
        let rest ← dropLineEnd? (chars.drop lineWidth)
        some (chars.take lineWidth ++ (← loop fuel rest))

/-- Reads a block with a given label in strict form: nothing but a line ending
behind it, and lines of full width. -/
def readStrict? (label text : String) : Option Bytes := do
  let chars ← dropPreamble? text.toList
  let body ← dropLineEnd? (← Text.afterStart? (beginWord ++ label.toList ++ dashes) chars)
  let body := (dropFinalLineEnd? body).getD body
  let body ← dropFinalLineEnd? (← beforeEnd? (endWord ++ label.toList ++ dashes) body)
  Base64.decode? (String.ofList (← unwrap? body))

/-- Whether a line opens a block: a boundary with dashes behind its label. -/
def opensBlock (line : List Char) : Bool :=
  beginWord.isPrefixOf line && (Text.splitWord? dashes (line.drop dashes.length)).isSome

/-- Collects base64 lines up to the line that closes the block. -/
def collectLines? : List (List Char) → Option (List Char)
  | [] => none
  | line :: rest =>
    if endWord.isPrefixOf line then some []
    else (collectLines? rest).map fun tail => Text.dropTrailing Text.isBlank line ++ tail

/-- Reads the first block line by line.  Its labels do not matter, and lines
before it are skipped. -/
def readLines? (text : String) : Option Bytes :=
  match (Text.splitOn '\n' text.toList).dropWhile (fun line => !beginWord.isPrefixOf line) with
  | [] => none
  | line :: rest =>
    if opensBlock line then
      (collectLines? rest).bind fun chars => Base64.decode? (String.ofList chars)
    else none

/-- The blanks skipped behind a boundary. -/
def isGap (c : Char) : Bool :=
  c == ' ' || c == '\t' || c == '\n' || c == '\r'

/-- Splits header lines, which end at an empty line, from a body; every header
line has a colon. -/
def dropHeaders? (body : List Char) : Option (List Char) :=
  match (Text.splitWord? ['\n', '\n'] body).or (Text.splitWord? ['\r', '\n', '\r', '\n'] body) with
  | none => some body
  | some (headers, data) =>
    if (Text.splitOn '\n' headers).all (fun line => line.contains ':') then some data else none

/-- Reads the first block found anywhere, with its label.  The labels of the two
boundaries agree. -/
def readAnywhere? (text : String) : Option (String × Bytes) := do
  let (_, rest) ← Text.splitWord? beginWord text.toList
  let (label, rest) ← Text.splitWord? dashes rest
  let (body, rest) ← Text.splitWord? endWord (rest.dropWhile isGap)
  let (closing, _) ← Text.splitWord? dashes rest
  if label.isEmpty ∨ label ≠ closing then none
  else
    let data ← dropHeaders? body
    let lines := (Text.splitOn '\n' data).map (Text.dropTrailing Text.isBlank)
    some (String.ofList label, ← Base64.decode? (String.ofList lines.flatten))

end LocalCloud.Pem
