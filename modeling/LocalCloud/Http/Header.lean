import LocalCloud.Text.Ascii
import LocalCloud.Text.Utf8

/-!
# Methods and header fields

Which texts may stand as a method, as the name and as the value of a header, and
how a header list is read.
-/

namespace LocalCloud.Http

/-- The characters of methods and header names. -/
def isTokenByte (b : UInt8) : Bool :=
  let n := b.toNat
  (48 ≤ n && n ≤ 57) || (65 ≤ n && n ≤ 90) || (94 ≤ n && n ≤ 122) || n == 33
    || (35 ≤ n && n ≤ 39) || n == 42 || n == 43 || n == 45 || n == 46 || n == 124 || n == 126

/-- Whether a text is a method. -/
def isMethod (text : String) : Bool :=
  let bytes := Utf8.encode text
  !bytes.isEmpty && bytes.all isTokenByte

/-- Whether a text is a header name. -/
def isHeaderName (text : String) : Bool :=
  let bytes := Utf8.encode text
  !bytes.isEmpty && bytes.length < 65536 && bytes.all isTokenByte

/-- Whether bytes may stand as the value of a header: no control character but
the tab. -/
def isHeaderValue (bytes : Bytes) : Bool :=
  bytes.all fun b => b == 9 || (32 ≤ b.toNat && b != 127)

/-- The text of a header value, if it is ASCII without control characters but
the tab. -/
def headerText? (bytes : Bytes) : Option String :=
  if bytes.all fun b => b == 9 || (32 ≤ b.toNat && b.toNat < 127) then
    some (String.ofList (bytes.map fun b => Char.ofNat b.toNat))
  else none

/-- A header list: names in lower case and values, in the order received. -/
abbrev Headers := List (String × Bytes)

namespace Headers

def first? (headers : Headers) (name : String) : Option Bytes :=
  (headers.find? fun header => header.1 == name).map (·.2)

def firstText? (headers : Headers) (name : String) : Option String :=
  (headers.first? name).bind headerText?

def texts (headers : Headers) : List (String × String) :=
  headers.filterMap fun header => (headerText? header.2).map fun text => (header.1, text)

end Headers

end LocalCloud.Http
