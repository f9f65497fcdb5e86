import LocalCloud.Bytes

/-!
# Base64

The two alphabets in use: the standard one, always padded to a multiple of four
digits, and the one for URLs, never padded.  Decoding accepts canonical texts
only: no other padding, no characters outside the alphabet, and no bits left
over behind the last byte.
-/

namespace LocalCloud.Base64

/-- The sixty-four digits in use. -/
inductive Alphabet where
  | standard
  | urlSafe
deriving DecidableEq, Repr

/-- The digit of a value below sixty-four. -/
def Alphabet.digit (alphabet : Alphabet) (value : Nat) : Char :=
  if value < 26 then Char.ofNat (65 + value)
  else if value < 52 then Char.ofNat (71 + value)
  else if value < 62 then Char.ofNat (value - 4)
  else match alphabet with
    | .standard => if value = 62 then '+' else '/'
    | .urlSafe => if value = 62 then '-' else '_'

/-- The value of a digit. -/
def Alphabet.value? (alphabet : Alphabet) (c : Char) : Option Nat :=
  let n := c.toNat
  if 65 ≤ n ∧ n ≤ 90 then some (n - 65)
  else if 97 ≤ n ∧ n ≤ 122 then some (n - 71)
  else if 48 ≤ n ∧ n ≤ 57 then some (n + 4)
  else match alphabet with
    | .standard => if c = '+' then some 62 else if c = '/' then some 63 else none
    | .urlSafe => if c = '-' then some 62 else if c = '_' then some 63 else none

/-- The digits of a byte string, without padding. -/
def digits (alphabet : Alphabet) : Bytes → List Char
  | [] => []
  | [x] =>
    let n := x.toNat * 16
    [alphabet.digit (n / 64), alphabet.digit (n % 64)]
  | [x, y] =>
    let n := (x.toNat * 256 + y.toNat) * 4
    [alphabet.digit (n / 4096), alphabet.digit (n / 64 % 64), alphabet.digit (n % 64)]
  | x :: y :: z :: rest =>
    let n := (x.toNat * 256 + y.toNat) * 256 + z.toNat
    alphabet.digit (n / 262144) :: alphabet.digit (n / 4096 % 64)
      :: alphabet.digit (n / 64 % 64) :: alphabet.digit (n % 64) :: digits alphabet rest

/-- The bytes of a canonical digit sequence without padding. -/
def ofDigits? (alphabet : Alphabet) : List Char → Option Bytes
  | [] => some []
  | [_] => none
  | [p, q] => do
    let n := (← alphabet.value? p) * 64 + (← alphabet.value? q)
    if n % 16 = 0 then some [UInt8.ofNat (n / 16)] else none
  | [p, q, r] => do
    let n := ((← alphabet.value? p) * 64 + (← alphabet.value? q)) * 64 + (← alphabet.value? r)
    if n % 4 = 0 then some [UInt8.ofNat (n / 1024), UInt8.ofNat (n / 4 % 256)] else none
  | p :: q :: r :: s :: rest => do
    let n := (((← alphabet.value? p) * 64 + (← alphabet.value? q)) * 64
      + (← alphabet.value? r)) * 64 + (← alphabet.value? s)
    let tail ← ofDigits? alphabet rest
    some (UInt8.ofNat (n / 65536) :: UInt8.ofNat (n / 256 % 256) :: UInt8.ofNat (n % 256) :: tail)

/-- Removes at most `count` padding characters at the end. -/
def dropPadding (count : Nat) (chars : List Char) : List Char :=
  loop count chars.reverse
where
  /-- Works on the reversed text. -/
  loop : Nat → List Char → List Char
    | count + 1, '=' :: rest => loop count rest
    | _, chars => chars.reverse

/-- The padded text in the standard alphabet. -/
def encode (bytes : Bytes) : String :=
  let plain := digits .standard bytes
  String.ofList (plain ++ List.replicate ((4 - plain.length % 4) % 4) '=')

/-- The bytes of a canonical padded text in the standard alphabet. -/
def decode? (text : String) : Option Bytes :=
  let chars := text.toList
  if chars.length % 4 = 0 then ofDigits? .standard (dropPadding 2 chars) else none

/-- The unpadded text in the alphabet for URLs. -/
def encodeUrl (bytes : Bytes) : String :=
  String.ofList (digits .urlSafe bytes)

/-- The bytes of a canonical unpadded text in the alphabet for URLs. -/
def decodeUrl? (text : String) : Option Bytes :=
  ofDigits? .urlSafe text.toList

end LocalCloud.Base64
