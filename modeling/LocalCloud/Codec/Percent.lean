import LocalCloud.Text.Ascii
import LocalCloud.Text.Utf8

/-!
# Percent encoding and query strings

Two conventions write a parameter list into a URL: the form convention, where a
space is `+`, and plain percent encoding, where it is `%20`.  One reading
understands both.
-/

namespace LocalCloud.Percent

/-- A percent sign and the two upper-case hexadecimal digits of a byte. -/
def escape (b : UInt8) : List Char :=
  ['%', Text.hexUpper (b.toNat / 16), Text.hexUpper (b.toNat % 16)]

/-- Whether the byte is an ASCII letter or digit. -/
def isAlphanumeric (b : UInt8) : Bool :=
  let n := b.toNat
  (48 ≤ n && n ≤ 57) || (65 ≤ n && n ≤ 90) || (97 ≤ n && n ≤ 122)

/-- The bytes a URL may hold as they are: letters, digits and `-._~`. -/
def isUnreserved (b : UInt8) : Bool :=
  isAlphanumeric b || b == 0x2D || b == 0x2E || b == 0x5F || b == 0x7E

/-- The bytes the form convention keeps: letters, digits and `*-._`. -/
def isFormSafe (b : UInt8) : Bool :=
  isAlphanumeric b || b == 0x2A || b == 0x2D || b == 0x2E || b == 0x5F

def encode (text : String) : String :=
  String.ofList <| (Utf8.encode text).flatMap fun b =>
    if isUnreserved b then [Char.ofNat b.toNat] else escape b

def encodeForm (text : String) : String :=
  String.ofList <| (Utf8.encode text).flatMap fun b =>
    if isFormSafe b then [Char.ofNat b.toNat] else if b == 0x20 then ['+'] else escape b

/-- Replaces each `%` that two hexadecimal digits follow, and these, by the byte
they name.  Any other `%` stands for itself. -/
def decodeBytes : Bytes → Bytes
  | [] => []
  | b :: rest =>
    if b == 0x25 then
      match rest with
      | high :: low :: rest' =>
        match Text.hexDigit? (Char.ofNat high.toNat), Text.hexDigit? (Char.ofNat low.toNat) with
        | some h, some l => UInt8.ofNat (h * 16 + l) :: decodeBytes rest'
        | _, _ => b :: decodeBytes (high :: low :: rest')
      | rest => b :: decodeBytes rest
    else b :: decodeBytes rest
termination_by bytes => bytes.length

/-- The text that a percent encoded text stands for, if its bytes are UTF-8. -/
def decode? (text : String) : Option String :=
  Utf8.decode? (decodeBytes (Utf8.encode text))

end LocalCloud.Percent

namespace LocalCloud

/-- A parameter list, in order and with repetitions. -/
abbrev Params := List (String × String)

namespace Query

/-- Writes a parameter list with a given encoding of names and values. -/
def render (encode : String → String) (params : Params) : String :=
  String.intercalate "&" (params.map fun param => encode param.1 ++ "=" ++ encode param.2)

/-- The parameter list in the form convention. -/
def toForm (params : Params) : String :=
  render Percent.encodeForm params

/-- The parameter list with plain percent encoding. -/
def toPercent (params : Params) : String :=
  render Percent.encode params

/-- Splits at every occurrence of a byte. -/
def splitBytes (separator : UInt8) : Bytes → List Bytes
  | [] => [[]]
  | b :: rest =>
    if b == separator then [] :: splitBytes separator rest
    else match splitBytes separator rest with
      | [] => [[b]]
      | first :: others => (b :: first) :: others

/-- Reads one name or value: `+` is a space, then percent decoding. -/
def readComponent (bytes : Bytes) : String :=
  Utf8.decodeLossy (Percent.decodeBytes (bytes.map fun b => if b == 0x2B then 0x20 else b))

/-- Reads one parameter, cut at its first `=`. -/
def readParam (bytes : Bytes) : String × String :=
  (readComponent (bytes.takeWhile (· != 0x3D)),
    readComponent ((bytes.dropWhile (· != 0x3D)).drop 1))

/-- Reads a query: parameters separated by `&`, empty ones left out. -/
def parse (query : String) : Params :=
  ((splitBytes 0x26 (Utf8.encode query)).filter (fun part => !part.isEmpty)).map readParam

end Query

end LocalCloud
