import LocalCloud.Text.Ascii

/-!
# The standard types of YAML

Which texts are integers, truth values or the absence of a value, and the tags
that say so.
-/

namespace LocalCloud.Yaml

def standardTag (name : String) : String :=
  "tag:yaml.org,2002:" ++ name

/-- The digits of an integer in a base, up to the greatest word of 64 bits. -/
def word? (base : Nat) (digits : List Char) : Option Int := do
  let step (value : Nat) (c : Char) : Option Nat := do
    let digit ← Text.hexDigit? c
    if digit < base then some (value * base + digit) else none
  let value ← digits.foldlM step 0
  if digits.isEmpty ∨ 18446744073709551615 < value then none else some value

/-- Decimal digits; a leading zero stands alone. -/
def decimal? (digits : List Char) : Option Int :=
  if digits.head? = some '0' ∧ 1 < digits.length then none else word? 10 digits

/-- Reads a natural number, which a plus sign may precede. -/
def natural? (text : String) : Option Int :=
  let digits := match text.toList with
    | '+' :: rest => rest
    | chars => chars
  match digits with
  | '0' :: 'x' :: rest => word? 16 rest
  | '0' :: 'o' :: rest => word? 8 rest
  | '0' :: 'b' :: rest => word? 2 rest
  | _ => decimal? digits

/-- Reads a truth value. -/
def bool? (text : String) : Option Bool :=
  if text ∈ ["true", "True", "TRUE"] then some true
  else if text ∈ ["false", "False", "FALSE"] then some false
  else none

/-- Whether the word stands for no value. -/
def isNullWord (text : String) : Bool :=
  text ∈ ["null", "Null", "NULL", "~"]

end LocalCloud.Yaml
