/-!
# ASCII letter case

Some comparisons of the protocol fold the twenty-six ASCII letters and nothing
else; they are kept apart from the full Unicode mappings.
-/

namespace LocalCloud.Text

/-- The lower-case form of an ASCII capital; any other character is kept. -/
def asciiLowerChar (c : Char) : Char :=
  if 'A' ≤ c ∧ c ≤ 'Z' then Char.ofNat (c.toNat + 32) else c

def asciiLower (s : String) : String :=
  String.ofList (s.toList.map asciiLowerChar)

/-- Equality up to the case of ASCII letters. -/
def eqIgnoringAsciiCase (s t : String) : Bool :=
  s.toList.map asciiLowerChar == t.toList.map asciiLowerChar

/-- Whether the character is an ASCII decimal digit. -/
def isAsciiDigit (c : Char) : Bool :=
  '0' ≤ c && c ≤ '9'

def digit? (c : Char) : Option Nat :=
  if isAsciiDigit c then some (c.toNat - 48) else none

/-- The value of a non-empty run of ASCII decimal digits. -/
def decimal? (digits : List Char) : Option Nat :=
  match digits with
  | [] => none
  | _ => digits.foldlM (fun value c => (digit? c).map (value * 10 + ·)) 0

/-- The decimal digits of a number. -/
def decimalChars (value : Nat) : List Char :=
  Nat.toDigits 10 value

/-- The value of one hexadecimal digit, of either case. -/
def hexDigit? (c : Char) : Option Nat :=
  let n := c.toNat
  if 48 ≤ n ∧ n ≤ 57 then some (n - 48)
  else if 97 ≤ n ∧ n ≤ 102 then some (n - 87)
  else if 65 ≤ n ∧ n ≤ 70 then some (n - 55)
  else none

/-- The lower-case hexadecimal digit of a value below sixteen. -/
def hexLower (value : Nat) : Char :=
  Char.ofNat (if value < 10 then 48 + value else 87 + value)

/-- The upper-case hexadecimal digit of a value below sixteen. -/
def hexUpper (value : Nat) : Char :=
  Char.ofNat (if value < 10 then 48 + value else 55 + value)

theorem eqIgnoringAsciiCase_refl (s : String) : eqIgnoringAsciiCase s s = true := by
  simp [eqIgnoringAsciiCase]

end LocalCloud.Text
