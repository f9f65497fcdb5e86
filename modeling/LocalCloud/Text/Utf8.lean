import LocalCloud.Bytes

/-!
# UTF-8

The encoding of characters as bytes and its inverse.  Decoding runs a small
automaton over the bytes whose output marks each maximal ill-formed subsequence;
strict decoding refuses a text with such a mark and lossy decoding replaces the
mark by U+FFFD.
-/

namespace LocalCloud.Utf8

/-- The one to four bytes of a character. -/
def encodeChar (c : Char) : Bytes :=
  let n := c.toNat
  if n < 0x80 then [UInt8.ofNat n]
  else if n < 0x800 then [UInt8.ofNat (0xC0 + n / 64), UInt8.ofNat (0x80 + n % 64)]
  else if n < 0x10000 then
    [UInt8.ofNat (0xE0 + n / 4096), UInt8.ofNat (0x80 + n / 64 % 64), UInt8.ofNat (0x80 + n % 64)]
  else
    [UInt8.ofNat (0xF0 + n / 262144), UInt8.ofNat (0x80 + n / 4096 % 64),
      UInt8.ofNat (0x80 + n / 64 % 64), UInt8.ofNat (0x80 + n % 64)]

/-- The bytes of a character sequence. -/
def encodeChars (chars : List Char) : Bytes :=
  chars.flatMap encodeChar

def encode (s : String) : Bytes :=
  encodeChars s.toList

/-- A decoding in progress: between characters, or inside one of which `more`
further bytes are expected, the next one between `low` and `high`. -/
inductive Pending where
  | between
  | inside (more low high value : Nat)
deriving DecidableEq, Repr

/-- How a byte begins a character: as the whole of it, as its first byte, or not
at all. -/
def start (b : Nat) : Option Char ⊕ Pending :=
  if b < 0x80 then .inl (some (Char.ofNat b))
  else if b < 0xC2 then .inl none
  else if b < 0xE0 then .inr (.inside 1 0x80 0xBF (b - 0xC0))
  else if b = 0xE0 then .inr (.inside 2 0xA0 0xBF 0)
  else if b = 0xED then .inr (.inside 2 0x80 0x9F 13)
  else if b < 0xF0 then .inr (.inside 2 0x80 0xBF (b - 0xE0))
  else if b = 0xF0 then .inr (.inside 3 0x90 0xBF 0)
  else if b < 0xF4 then .inr (.inside 3 0x80 0xBF (b - 0xF0))
  else if b = 0xF4 then .inr (.inside 3 0x80 0x8F 4)
  else .inl none

/-- One decoded piece: a character, or `none` for an ill-formed subsequence. -/
abbrev Piece := Option Char

/-- Reads a byte between characters, putting what it completes on `done`. -/
def feedStart (done : List Piece) (b : UInt8) : List Piece × Pending :=
  match start b.toNat with
  | .inl unit => (unit :: done, .between)
  | .inr pending => (done, pending)

/-- Reads one byte.  A byte that cannot continue a character ends it as
ill-formed and is read again as a first byte. -/
def feed (state : List Piece × Pending) (b : UInt8) : List Piece × Pending :=
  match state with
  | (done, .between) => feedStart done b
  | (done, .inside more low high value) =>
    if low ≤ b.toNat ∧ b.toNat ≤ high then
      let value := value * 64 + (b.toNat - 0x80)
      if more = 1 then (some (Char.ofNat value) :: done, .between)
      else (done, .inside (more - 1) 0x80 0xBF value)
    else feedStart (none :: done) b

/-- The units of a byte string in order. -/
def units (bytes : Bytes) : List Piece :=
  match bytes.foldl feed ([], .between) with
  | (done, .between) => done.reverse
  | (done, .inside ..) => (none :: done).reverse

/-- The characters of the units, unless one is ill-formed. -/
def allChars? (units : List Piece) : Option (List Char) :=
  (loop units []).map List.reverse
where
  /-- Collects characters in reverse. -/
  loop : List Piece → List Char → Option (List Char)
    | [], done => some done
    | none :: _, _ => none
    | some c :: rest, done => loop rest (c :: done)

/-- The text of well-formed bytes. -/
def decode? (bytes : Bytes) : Option String :=
  (allChars? (units bytes)).map String.ofList

/-- The text of any bytes, with U+FFFD for each ill-formed subsequence. -/
def decodeLossy (bytes : Bytes) : String :=
  String.ofList ((units bytes).map (·.getD (Char.ofNat 0xFFFD)))

end LocalCloud.Utf8
