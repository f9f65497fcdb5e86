import LocalCloud.TimeStamp
import LocalCloud.Toml.Basic
import LocalCloud.Toml.Lexeme

/-!
# Scalars of TOML

Integers of 64 bits in four bases, floats, dates and times, truth values and
strings.
-/

namespace LocalCloud.Toml

/-- Digits behind a first one, any two of which may be parted by an
underscore. -/
def moreDigits (isDigit : Char → Bool) : List Char → List Char × List Char
  | '_' :: c :: rest =>
    if isDigit c then
      let (digits, rest) := moreDigits isDigit rest
      (c :: digits, rest)
    else ([], '_' :: c :: rest)
  | c :: rest =>
    if isDigit c then
      let (digits, rest) := moreDigits isDigit rest
      (c :: digits, rest)
    else ([], c :: rest)
  | [] => ([], [])

def digits? (isDigit : Char → Bool) : Reader (List Char)
  | c :: rest =>
    if isDigit c then
      let (digits, rest) := moreDigits isDigit rest
      some (c :: digits, rest)
    else none
  | [] => none

/-- Decimal digits of which a leading zero stands alone. -/
def whole? : Reader (List Char)
  | '0' :: rest => some (['0'], rest)
  | input => digits? Text.isAsciiDigit input

/-- A sign: whether it is negative. -/
def sign : List Char → Bool × List Char
  | '-' :: rest => (true, rest)
  | '+' :: rest => (false, rest)
  | rest => (false, rest)

def valueOf (base : Nat) (digits : List Char) : Nat :=
  digits.foldl (fun value c => value * base + (Text.hexDigit? c).getD 0) 0

/-- An integer, if it fits a signed word of 64 bits. -/
def ofInt? (value : Int) : Option Value :=
  if -9223372036854775808 ≤ value ∧ value ≤ 9223372036854775807 then some (.integer value)
  else none

/-- An integer in a base other than ten, behind its mark. -/
def based? (base : Nat) (input : List Char) : Option (Value × List Char) := do
  let isDigit (c : Char) : Bool := (Text.hexDigit? c).any (· < base)
  let (digits, rest) ← digits? isDigit input
  some (← ofInt? (valueOf base digits), rest)

def integer? (input : List Char) : Option (Value × List Char) :=
  match input with
  | '0' :: 'x' :: rest => based? 16 rest
  | '0' :: 'o' :: rest => based? 8 rest
  | '0' :: 'b' :: rest => based? 2 rest
  | _ => do
    let (isNegative, rest) := sign input
    let (digits, rest) ← whole? rest
    let magnitude : Int := valueOf 10 digits
    some (← ofInt? (if isNegative then -magnitude else magnitude), rest)

/-- Whether `digits * 10 ^ exponent` is rounded to infinity: the least such number
lies half a unit above the greatest double. -/
def isInfinite (digits : Nat) (exponent : Int) : Bool :=
  let least := Nat.pow 2 1024 - Nat.pow 2 970
  let magnitude := ((Text.decimalChars digits).length : Int) + exponent
  if digits = 0 ∨ magnitude < 309 then false
  else if 309 < magnitude then true
  else least * Nat.pow 10 (-exponent).toNat ≤ digits * Nat.pow 10 exponent.toNat

/-- An exponent behind its mark. -/
def exponent? (input : List Char) : Option (Int × List Char) := do
  let (isNegative, rest) := sign input
  let (digits, rest) ← digits? Text.isAsciiDigit rest
  let magnitude : Int := valueOf 10 digits
  some (if isNegative then -magnitude else magnitude, rest)

/-- The exponent in front, or else zero. -/
def exponent : List Char → Option (Int × List Char)
  | 'e' :: rest => exponent? rest
  | 'E' :: rest => exponent? rest
  | rest => some (0, rest)

/-- A float: a point or an exponent tells it from an integer.  A positive one is
not so great that it is rounded to infinity. -/
def float? (input : List Char) : Option (Value × List Char) :=
  let (isNegative, rest) := sign input
  match rest with
  | 'i' :: 'n' :: 'f' :: rest => some (.float, rest)
  | 'n' :: 'a' :: 'n' :: rest => some (.float, rest)
  | _ => do
    let (whole, rest) ← whole? rest
    let (fraction, rest) ← match rest with
      | '.' :: rest => digits? Text.isAsciiDigit rest
      | 'e' :: _ => some ([], rest)
      | 'E' :: _ => some ([], rest)
      | _ => none
    let (exponent, rest) ← exponent rest
    let isTooGreat :=
      !isNegative && isInfinite (valueOf 10 (whole ++ fraction)) (exponent - fraction.length)
    if isTooGreat then none else some (.float, rest)

/-- A number of so many digits between two bounds. -/
def field? (count low high : Nat) (input : List Char) : Option (Nat × List Char) := do
  let digits := input.take count
  let value ← Text.decimal? digits
  if digits.length = count ∧ low ≤ value ∧ value ≤ high then some (value, input.drop count)
  else none

/-- What follows a given character. -/
def past? (c : Char) : List Char → Option (List Char)
  | first :: rest => if first = c then some rest else none
  | [] => none

def date? (input : List Char) : Option (List Char) := do
  let (year, rest) ← field? 4 0 9999 input
  let (month, rest) ← field? 2 1 12 (← past? '-' rest)
  let (_, rest) ← field? 2 1 (TimeStamp.daysOf year month) (← past? '-' rest)
  some rest

/-- What follows a time of day. -/
def time? (input : List Char) : Option (List Char) := do
  let (_, rest) ← field? 2 0 23 input
  let (_, rest) ← field? 2 0 59 (← past? ':' rest)
  let (_, rest) ← field? 2 0 60 (← past? ':' rest)
  match rest with
  | '.' :: fraction =>
    let digits := fraction.takeWhile Text.isAsciiDigit
    some (if digits.isEmpty then rest else fraction.drop digits.length)
  | _ => some rest

/-- What follows the distance to universal time in front, if there is one. -/
def skipOffset (input : List Char) : List Char :=
  match input with
  | 'Z' :: rest => rest
  | 'z' :: rest => rest
  | '+' :: rest => (offset? rest).getD input
  | '-' :: rest => (offset? rest).getD input
  | _ => input
where
  /-- What follows hours and minutes. -/
  offset? (input : List Char) : Option (List Char) := do
    let (_, rest) ← field? 2 0 23 input
    let (_, rest) ← field? 2 0 59 (← past? ':' rest)
    some rest

/-- What follows the time of day behind a date, if there is one. -/
def skipTime (input : List Char) : List Char :=
  match input with
  | [] => []
  | c :: rest =>
    if c = 'T' ∨ c = 't' ∨ c = ' ' then ((time? rest).map skipOffset).getD input else input

/-- A date, a time of day, or both. -/
def dateTime? (input : List Char) : Option (Value × List Char) := do
  let rest ← match date? input with
    | some rest => some (skipTime rest)
    | none => time? input
  some (.dateTime (String.ofList (input.take (input.length - rest.length))), rest)

/-- A scalar of any kind. -/
def scalar? (input : List Char) : Option (Value × List Char) :=
  match input with
  | 't' :: 'r' :: 'u' :: 'e' :: rest => some (.bool true, rest)
  | 'f' :: 'a' :: 'l' :: 's' :: 'e' :: rest => some (.bool false, rest)
  | _ =>
    match string? input with
    | some (chars, rest) => some (.string (String.ofList chars), rest)
    | none => dateTime? input <|> float? input <|> integer? input

end LocalCloud.Toml
