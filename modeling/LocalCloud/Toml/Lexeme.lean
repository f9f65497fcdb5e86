import LocalCloud.Text.Ascii

/-!
# Lexemes of TOML

Blanks, comments, strings and keys.  Each reader takes a lexeme off the front of
the input and gives what follows it, or nothing when there is no such lexeme.
-/

namespace LocalCloud.Toml

/-- Takes a value off the front of an input. -/
abbrev Reader (α : Type) := List Char → Option (α × List Char)

/-- Whether a character may stand in a comment or string on one line. -/
def isPlain (c : Char) : Bool :=
  c == '\t' || (0x20 ≤ c.toNat && c.toNat != 0x7F)

/-- Whether the character is a space or a tab. -/
def isSpace (c : Char) : Bool :=
  c == ' ' || c == '\t'

/-- What follows the spaces in front. -/
def skipSpaces (input : List Char) : List Char :=
  input.dropWhile isSpace

/-- What follows a line break. -/
def newline? : List Char → Option (List Char)
  | '\n' :: rest => some rest
  | '\r' :: '\n' :: rest => some rest
  | _ => none

/-- What follows the end of a line: spaces, perhaps a comment, and a line break
or the end of the input. -/
def lineEnd? (input : List Char) : Option (List Char) :=
  let rest := match skipSpaces input with
    | '#' :: rest => rest.dropWhile isPlain
    | rest => rest
  if rest.isEmpty then some [] else newline? rest

/-- What follows the spaces, line breaks and comments in front. -/
def skipGap (inComment : Bool) : List Char → List Char
  | [] => []
  | '\n' :: rest => skipGap false rest
  | '\r' :: '\n' :: rest => skipGap false rest
  | c :: rest =>
    if inComment then if isPlain c then skipGap true rest else c :: rest
    else if isSpace c then skipGap false rest
    else if c = '#' then skipGap true rest
    else c :: rest

/-- The character with a code in hexadecimal digits, if there is one. -/
def charOfHex? (digits : List Char) : Option Char := do
  let code ← digits.foldlM (fun code digit => (Text.hexDigit? digit).map (code * 16 + ·)) 0
  if code.isValidChar then some (Char.ofNat code) else none

/-- The character that an escape denotes, behind the backslash. -/
def escape? : Reader Char
  | 'b' :: rest => some (Char.ofNat 8, rest)
  | 't' :: rest => some ('\t', rest)
  | 'n' :: rest => some ('\n', rest)
  | 'f' :: rest => some (Char.ofNat 12, rest)
  | 'r' :: rest => some ('\r', rest)
  | '"' :: rest => some ('"', rest)
  | '\\' :: rest => some ('\\', rest)
  | 'u' :: rest => do some (← charOfHex? (← exactly? 4 rest), rest.drop 4)
  | 'U' :: rest => do some (← charOfHex? (← exactly? 8 rest), rest.drop 8)
  | _ => none
where
  /-- That many characters, if there are as many. -/
  exactly? (count : Nat) (input : List Char) : Option (List Char) :=
    if input.length < count then none else some (input.take count)

/-- Puts a character in front of a text that was read. -/
def prepend (c : Char) (read : List Char × List Char) : List Char × List Char :=
  (c :: read.1, read.2)

/-- The rest of a string with escapes behind its quotation mark. -/
def basic? (fuel : Nat) (input : List Char) : Option (List Char × List Char) :=
  match fuel, input with
  | 0, _ => none
  | _, [] => none
  | _, '"' :: rest => some ([], rest)
  | fuel + 1, '\\' :: rest => do
    let (c, rest) ← escape? rest
    (basic? fuel rest).map (prepend c)
  | fuel + 1, c :: rest => if isPlain c then (basic? fuel rest).map (prepend c) else none

/-- The rest of a string without escapes behind its apostrophe. -/
def literal? : Reader (List Char)
  | [] => none
  | c :: rest =>
    if c = '\'' then some ([], rest)
    else if isPlain c then (literal? rest).map (prepend c)
    else none

/-- The end of a string over several lines: three quotes, in front of which one
or two more belong to the string. -/
def closing? (quote : Char) (input : List Char) : Option (List Char × List Char) :=
  let run := (input.takeWhile (· == quote)).length
  if run < 3 then none
  else some (List.replicate (min (run - 3) 2) quote, input.drop (min run 5))

/-- What follows the spaces and line breaks in front. -/
def skipWhite : List Char → List Char
  | [] => []
  | '\r' :: '\n' :: rest => skipWhite rest
  | c :: rest => if isSpace c || c == '\n' then skipWhite rest else c :: rest

/-- What follows a backslash at the end of a line and the white space behind
it. -/
def continued? (input : List Char) : Option (List Char) :=
  (newline? (skipSpaces input)).map skipWhite

/-- The rest of a string over several lines. -/
def lines? (quote : Char) (hasEscapes : Bool) (fuel : Nat) (input : List Char) :
    Option (List Char × List Char) :=
  match fuel with
  | 0 => none
  | fuel + 1 =>
    match closing? quote input with
    | some read => some read
    | none =>
      match newline? input with
      | some rest => (lines? quote hasEscapes fuel rest).map (prepend '\n')
      | none =>
        match input with
        | [] => none
        | c :: rest =>
          if c = '\\' ∧ hasEscapes then
            match continued? rest with
            | some rest => lines? quote hasEscapes fuel rest
            | none => do
              let (c, rest) ← escape? rest
              (lines? quote hasEscapes fuel rest).map (prepend c)
          else if isPlain c then (lines? quote hasEscapes fuel rest).map (prepend c)
          else none

/-- A string over several lines behind its three quotes; a line break right
behind them does not count. -/
def block? (quote : Char) (hasEscapes : Bool) (input : List Char) :
    Option (List Char × List Char) :=
  lines? quote hasEscapes (input.length + 1) ((newline? input).getD input)

def lineString? : Reader (List Char)
  | '"' :: rest => basic? (rest.length + 1) rest
  | '\'' :: rest => literal? rest
  | _ => none

/-- A string of any kind. -/
def string? : Reader (List Char)
  | '"' :: '"' :: '"' :: rest => block? '"' true rest
  | '\'' :: '\'' :: '\'' :: rest => block? '\'' false rest
  | input => lineString? input

/-- Whether a character may stand in a key without quotes. -/
def isBare (c : Char) : Bool :=
  c.isAlphanum || c == '_' || c == '-'

def keyPart? (input : List Char) : Option (String × List Char) :=
  match lineString? input with
  | some (chars, rest) => some (String.ofList chars, rest)
  | none =>
    let bare := input.takeWhile isBare
    if bare.isEmpty then none else some (String.ofList bare, input.drop bare.length)

/-- The parts of a dotted key and the spaces around them. -/
def keyParts? (fuel : Nat) (input : List Char) : Option (List String × List Char) :=
  match fuel with
  | 0 => none
  | fuel + 1 => do
    let (part, rest) ← keyPart? (skipSpaces input)
    match skipSpaces rest with
    | '.' :: rest => do
      let (parts, rest) ← keyParts? fuel rest
      some (part :: parts, rest)
    | rest => some ([part], rest)

/-- A dotted key: the path and the last part.  It has less than eighty parts. -/
def key? (input : List Char) : Option ((List String × String) × List Char) := do
  let (parts, rest) ← keyParts? 79 input
  let last ← parts.getLast?
  some ((parts.dropLast, last), rest)

end LocalCloud.Toml
