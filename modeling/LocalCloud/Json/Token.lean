import LocalCloud.Json.Number
import LocalCloud.Text.Utf8

/-!
# JSON tokens

The lexical level of JSON.  A string token holds the text it denotes, if it
denotes one: an escaped lone surrogate or a byte that is not UTF-8 leaves the
token well-formed but without a text.  A number token likewise may be out of
range.
-/

namespace LocalCloud.Json

/-- A token. -/
inductive Token where
  | leftBrace
  | rightBrace
  | leftBracket
  | rightBracket
  | comma
  | colon
  | null
  | bool (value : Bool)
  | number (value : Option Number)
  | string (value : Option String)
deriving Repr

namespace Token

open Utf8 (Piece)

def isGap (piece : Piece) : Bool :=
  piece == some ' ' || piece == some '\n' || piece == some '\t' || piece == some '\r'

/-- The leading decimal digits and what follows them. -/
def takeDigits : List Piece → List Nat × List Piece
  | some c :: rest =>
    match Text.digit? c with
    | some digit =>
      let (digits, rest) := takeDigits rest
      (digit :: digits, rest)
    | none => ([], some c :: rest)
  | rest => ([], rest)

/-- The digits of a whole part: a zero stands alone. -/
def takeWhole (input : List Piece) : Option (List Nat × List Piece) :=
  match input with
  | some '0' :: rest => some ([0], rest)
  | _ =>
    match takeDigits input with
    | ([], _) => none
    | taken => some taken

/-- The digits behind a point, if there is a point. -/
def takeFraction (input : List Piece) : Option (Option (List Nat) × List Piece) :=
  match input with
  | some '.' :: rest =>
    match takeDigits rest with
    | ([], _) => none
    | (digits, rest) => some (some digits, rest)
  | _ => some (none, input)

def digitsValue (digits : List Nat) : Nat :=
  digits.foldl (fun value digit => value * 10 + digit) 0

/-- An unsigned exponent with the given sign. -/
def takeMagnitude (negative : Bool) (input : List Piece) : Option (Option Int × List Piece) :=
  match takeDigits input with
  | ([], _) => none
  | (digits, rest) =>
    let magnitude : Int := digitsValue digits
    some (some (if negative then -magnitude else magnitude), rest)

/-- The exponent, if there is one. -/
def takeExponent (input : List Piece) : Option (Option Int × List Piece) :=
  match input with
  | some c :: rest =>
    if c = 'e' ∨ c = 'E' then
      match rest with
      | some '+' :: rest => takeMagnitude false rest
      | some '-' :: rest => takeMagnitude true rest
      | _ => takeMagnitude false rest
    else some (none, input)
  | _ => some (none, input)

/-- A number behind its sign. -/
def takeNumber (negative : Bool) (input : List Piece) : Option (Token × List Piece) := do
  let (whole, input) ← takeWhole input
  let (fraction, input) ← takeFraction input
  let (exponent, input) ← takeExponent input
  some (.number (Number.ofParts negative whole fraction exponent), input)

/-- The value of four hexadecimal digits. -/
def hex4? (a b c d : Piece) : Option Nat := do
  let a ← Text.hexDigit? (← a)
  let b ← Text.hexDigit? (← b)
  let c ← Text.hexDigit? (← c)
  let d ← Text.hexDigit? (← d)
  some (((a * 16 + b) * 16 + c) * 16 + d)

/-- The character of a one-letter escape. -/
def simpleEscape? (c : Char) : Option Char :=
  match c with
  | '"' => some '"'
  | '\\' => some '\\'
  | '/' => some '/'
  | 'b' => some (Char.ofNat 8)
  | 'f' => some (Char.ofNat 12)
  | 'n' => some '\n'
  | 'r' => some '\r'
  | 't' => some '\t'
  | _ => none

/-- Puts a character on a text that is still valid. -/
def push (c : Char) (done : Option (List Char)) : Option (List Char) :=
  done.map (c :: ·)

/-- The rest of a string behind its opening quotation mark.  `done` holds the
characters in reverse, or nothing once the string has no text; `high` is a high
surrogate that waits for its partner. -/
def takeString (done : Option (List Char)) (high : Option Nat) :
    List Piece → Option (Token × List Piece)
  | [] => none
  | some '"' :: rest =>
    let done := if high.isSome then none else done
    some (.string (done.map fun chars => String.ofList chars.reverse), rest)
  | some '\\' :: some 'u' :: a :: b :: c :: d :: rest =>
    match hex4? a b c d with
    | none => none
    | some code =>
      match high with
      | some first =>
        if 0xDC00 ≤ code ∧ code ≤ 0xDFFF then
          let scalar := 0x10000 + (first - 0xD800) * 0x400 + (code - 0xDC00)
          takeString (push (Char.ofNat scalar) done) none rest
        else takeString none none rest
      | none =>
        if 0xD800 ≤ code ∧ code ≤ 0xDBFF then takeString done (some code) rest
        else if 0xDC00 ≤ code ∧ code ≤ 0xDFFF then takeString none none rest
        else takeString (push (Char.ofNat code) done) none rest
  | some '\\' :: some c :: rest =>
    match simpleEscape? c with
    | none => none
    | some c => takeString (if high.isSome then none else push c done) none rest
  | some c :: rest =>
    if c.toNat < 0x20 ∨ c = '\\' then none
    else takeString (if high.isSome then none else push c done) none rest
  | none :: rest => takeString none none rest

/-- The token at the front of an input without leading blanks. -/
def take? (input : List Piece) : Option (Token × List Piece) :=
  match input with
  | some '{' :: rest => some (.leftBrace, rest)
  | some '}' :: rest => some (.rightBrace, rest)
  | some '[' :: rest => some (.leftBracket, rest)
  | some ']' :: rest => some (.rightBracket, rest)
  | some ',' :: rest => some (.comma, rest)
  | some ':' :: rest => some (.colon, rest)
  | some '"' :: rest => takeString (some []) none rest
  | some '-' :: rest => takeNumber true rest
  | some 't' :: some 'r' :: some 'u' :: some 'e' :: rest => some (.bool true, rest)
  | some 'f' :: some 'a' :: some 'l' :: some 's' :: some 'e' :: rest => some (.bool false, rest)
  | some 'n' :: some 'u' :: some 'l' :: some 'l' :: rest => some (.null, rest)
  | _ => takeNumber false input

/-- The tokens of an input, or nothing if some part of it is none.  Every token
takes at least one character, so the input's length bounds the search. -/
def scan (input : List Piece) : Option (List Token) :=
  loop input.length input []
where
  /-- Takes at most `fuel` tokens and collects them in reverse. -/
  loop (fuel : Nat) (input : List Piece) (done : List Token) : Option (List Token) :=
    match fuel, input.dropWhile isGap with
    | _, [] => some done.reverse
    | 0, _ => none
    | fuel + 1, input =>
      match take? input with
      | none => none
      | some (token, rest) => loop fuel rest (token :: done)

end Token

end LocalCloud.Json
