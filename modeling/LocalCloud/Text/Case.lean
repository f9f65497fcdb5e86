import LocalCloud.Text.CaseTable

/-!
# Full case mappings

Upper- and lower-casing of whole texts with the unconditional mappings of the
Unicode standard.  One character may become several (`ß` becomes `SS`), and a
capital sigma at the end of a word becomes `ς`.
-/

namespace LocalCloud.Text

def ofCodePoints (codes : List Nat) : List Char :=
  codes.map Char.ofNat

/-- The full upper-case mapping of one character. -/
def upperChar (c : Char) : List Char :=
  match lookupRun upperRuns c.toNat with
  | some code => [Char.ofNat code]
  | none =>
    if c.toNat < 0x80 then [c]
    else match upperExpansions.lookup c.toNat with
      | some codes => ofCodePoints codes
      | none => [c]

/-- The full lower-case mapping of one character, outside any context. -/
def lowerChar (c : Char) : List Char :=
  match lookupRun lowerRuns c.toNat with
  | some code => [Char.ofNat code]
  | none =>
    if c.toNat < 0x80 then [c]
    else match lowerExpansions.lookup c.toNat with
      | some codes => ofCodePoints codes
      | none => [c]

def isUppercase (c : Char) : Bool :=
  (lookupRun uppercaseRuns c.toNat).isSome

/-- Whether the first character that case ignores not is a cased one. -/
def startsCased (chars : List Char) : Bool :=
  match chars.dropWhile (fun c => inIntervals caseIgnorableIntervals c.toNat) with
  | [] => false
  | c :: _ => inIntervals casedIntervals c.toNat

def upper (s : String) : String :=
  String.ofList (s.toList.flatMap upperChar)

/-- Lower-cases `rest`, where `before` holds the preceding characters of the
text, nearest first. -/
def lowerFrom (before : List Char) : List Char → List Char
  | [] => []
  | c :: rest =>
    let image :=
      if c == 'Σ' then
        if startsCased before && !startsCased rest then ['ς'] else ['σ']
      else lowerChar c
    image ++ lowerFrom (c :: before) rest

def lower (s : String) : String :=
  String.ofList (lowerFrom [] s.toList)

end LocalCloud.Text
