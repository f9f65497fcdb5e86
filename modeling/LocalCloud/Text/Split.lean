/-!
# Splitting texts

Cutting a character sequence at separators.
-/

namespace LocalCloud.Text

/-- The parts between the occurrences of a character; one more than there are
occurrences. -/
def splitOn (separator : Char) : List Char → List (List Char)
  | [] => [[]]
  | c :: rest =>
    if c = separator then [] :: splitOn separator rest
    else match splitOn separator rest with
      | [] => [[c]]
      | first :: others => (c :: first) :: others

/-- What stands before and after the first occurrence of a character. -/
def splitOnce? (separator : Char) : List Char → Option (List Char × List Char)
  | [] => none
  | c :: rest =>
    if c = separator then some ([], rest)
    else (splitOnce? separator rest).map fun parts => (c :: parts.1, parts.2)

/-- What follows a given beginning. -/
def afterStart? (start chars : List Char) : Option (List Char) :=
  if start.isPrefixOf chars then some (chars.drop start.length) else none

/-- What stands before and after the first occurrence of a word. -/
def splitWord? (word : List Char) : List Char → Option (List Char × List Char)
  | [] => if word.isEmpty then some ([], []) else none
  | c :: rest =>
    match afterStart? word (c :: rest) with
    | some tail => some ([], tail)
    | none => (splitWord? word rest).map fun parts => (c :: parts.1, parts.2)

/-- The parts between the occurrences of a character. -/
def splitString (separator : Char) (s : String) : List String :=
  (splitOn separator s.toList).map String.ofList

end LocalCloud.Text
