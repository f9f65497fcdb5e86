import LocalCloud.Json.Basic
import LocalCloud.Text.Utf8

/-!
# Printing JSON

The compact text of a value.  Quotation marks, backslashes and control
characters are escaped, every other character is written as it is.
-/

namespace LocalCloud.Json

/-- The form of a character inside a string. -/
def escapeChar (c : Char) : List Char :=
  if c = '"' then ['\\', '"']
  else if c = '\\' then ['\\', '\\']
  else if 0x20 ≤ c.toNat then [c]
  else match c.toNat with
    | 8 => ['\\', 'b']
    | 9 => ['\\', 't']
    | 10 => ['\\', 'n']
    | 12 => ['\\', 'f']
    | 13 => ['\\', 'r']
    | n => ['\\', 'u', '0', '0', Text.hexLower (n / 16), Text.hexLower (n % 16)]

def quoteChars (s : String) : List Char :=
  '"' :: (s.toList.flatMap escapeChar ++ ['"'])

namespace Value

mutual

/-- The characters of the compact text of a value. -/
def chars : Value → List Char
  | .null => ['n', 'u', 'l', 'l']
  | .bool true => ['t', 'r', 'u', 'e']
  | .bool false => ['f', 'a', 'l', 's', 'e']
  | .number n => n.chars
  | .string text => quoteChars text
  | .array [] => ['[', ']']
  | .array (item :: rest) => '[' :: (item.chars ++ itemChars rest)
  | .object [] => ['{', '}']
  | .object ((key, value) :: rest) =>
    '{' :: (quoteChars key ++ ':' :: (value.chars ++ fieldChars rest))

/-- The items behind the first one, each after a comma, and the closing bracket. -/
def itemChars : List Value → List Char
  | [] => [']']
  | item :: rest => ',' :: (item.chars ++ itemChars rest)

/-- The fields behind the first one, each after a comma, and the closing brace. -/
def fieldChars : List (String × Value) → List Char
  | [] => ['}']
  | (key, value) :: rest => ',' :: (quoteChars key ++ ':' :: (value.chars ++ fieldChars rest))

end

/-- The compact text of a value. -/
def text (value : Value) : String :=
  String.ofList value.chars

def bytes (value : Value) : Bytes :=
  Utf8.encodeChars value.chars

end Value

end LocalCloud.Json
