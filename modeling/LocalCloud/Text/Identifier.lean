import LocalCloud.Text.Case
import LocalCloud.Text.Whitespace

/-!
# Identifier spellings

Names are written `snake_case` inside a system and `camelCase` on the wire.
Underscores at the ends of a name belong to neither spelling and are kept; only
the core between them is converted.
-/

namespace LocalCloud.Text

/-- The underscores in front, the core and the underscores behind.  A name of
underscores alone is all front. -/
def splitUnderscores (chars : List Char) : List Char × List Char × List Char :=
  let front := chars.takeWhile (· == '_')
  let rest := chars.dropWhile (· == '_')
  let core := dropTrailing (· == '_') rest
  (front, core, rest.drop core.length)

def convertCore (convert : List Char → List Char) (name : String) : String :=
  let parts := splitUnderscores name.toList
  String.ofList (parts.1 ++ convert parts.2.1 ++ parts.2.2)

/-- Drops each underscore and upper-cases the character after it. -/
def camelCore : List Char → List Char
  | [] => []
  | '_' :: rest => camelWord rest
  | c :: rest => c :: camelCore rest
where
  /-- Continues behind an underscore, at the start of a word. -/
  camelWord : List Char → List Char
    | [] => []
    | '_' :: rest => camelWord rest
    | c :: rest => upperChar c ++ camelCore rest

/-- Lower-cases each capital and, behind the first character, puts an
underscore before it. -/
def snakeCore : List Char → List Char
  | [] => []
  | c :: rest =>
    (if isUppercase c then lowerChar c else [c]) ++ rest.flatMap snakeChar
where
  /-- The form of a character that is not the first of the core. -/
  snakeChar (c : Char) : List Char :=
    if isUppercase c then '_' :: lowerChar c else [c]

def toCamelCase (name : String) : String :=
  convertCore camelCore name

def toSnakeCase (name : String) : String :=
  convertCore snakeCore name

end LocalCloud.Text
