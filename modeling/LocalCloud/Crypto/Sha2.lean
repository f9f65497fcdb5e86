import LocalCloud.Bytes

/-!
# SHA-2

The digests SHA-256, SHA-384 and SHA-512.  The three share one construction over
words of 32 or 64 bits: the padded message is cut into blocks of sixteen words,
each block is stretched to a schedule with one word per round, and the rounds
stir the schedule into eight registers.
-/

namespace LocalCloud.Crypto

/-- The eight chaining registers. -/
structure Registers (W : Type) where
  a : W
  b : W
  c : W
  d : W
  e : W
  f : W
  g : W
  h : W

/-- What distinguishes the digests over words of type `W`. -/
structure Sha2 (W : Type) where
  /-- Bytes of a word. -/
  width : Nat
  ofNat : Nat → W
  toNat : W → Nat
  /-- Rotation to the right by a number of bits. -/
  rotate : W → Nat → W
  /-- Shift to the right by a number of bits. -/
  shift : W → Nat → W
  /-- Rotations of the register sums and of the schedule, and the shifts of the
  latter. -/
  upper0 : Nat × Nat × Nat
  upper1 : Nat × Nat × Nat
  lower0 : Nat × Nat × Nat
  lower1 : Nat × Nat × Nat
  rounds : List Nat

namespace Sha2

variable {W : Type} [Add W] [XorOp W] [AndOp W] [Complement W]

/-- The exclusive or of three rotations of a word. -/
def upperSum (design : Sha2 W) (amounts : Nat × Nat × Nat) (x : W) : W :=
  design.rotate x amounts.1 ^^^ design.rotate x amounts.2.1 ^^^ design.rotate x amounts.2.2

/-- The exclusive or of two rotations and a shift of a word. -/
def lowerSum (design : Sha2 W) (amounts : Nat × Nat × Nat) (x : W) : W :=
  design.rotate x amounts.1 ^^^ design.rotate x amounts.2.1 ^^^ design.shift x amounts.2.2

/-- Appends words to a reversed schedule until `count` have been added. -/
def stretch (design : Sha2 W) : Nat → List W → List W
  | 0, words => words
  | count + 1, words =>
    let word (back : Nat) : W := words.getD (back - 1) (design.ofNat 0)
    let next := design.lowerSum design.lower1 (word 2) + word 7
      + design.lowerSum design.lower0 (word 15) + word 16
    stretch design count (next :: words)

def schedule (design : Sha2 W) (block : Bytes) : List W :=
  let words := (Bytes.blocks design.width block).map fun bytes => design.ofNat (Bytes.toNat bytes)
  (stretch design (design.rounds.length - 16) words.reverse).reverse

/-- One round with its schedule word and constant. -/
def round (design : Sha2 W) (r : Registers W) (input : W × Nat) : Registers W :=
  let choice := (r.e &&& r.f) ^^^ (~~~r.e &&& r.g)
  let majority := (r.a &&& r.b) ^^^ (r.a &&& r.c) ^^^ (r.b &&& r.c)
  let first := r.h + design.upperSum design.upper1 r.e + choice + design.ofNat input.2 + input.1
  let second := design.upperSum design.upper0 r.a + majority
  ⟨first + second, r.a, r.b, r.c, r.d + first, r.e, r.f, r.g⟩

def compress (design : Sha2 W) (r : Registers W) (block : Bytes) : Registers W :=
  let s := ((design.schedule block).zip design.rounds).foldl design.round r
  ⟨r.a + s.a, r.b + s.b, r.c + s.c, r.d + s.d, r.e + s.e, r.f + s.f, r.g + s.g, r.h + s.h⟩

/-- The message with a one bit, zeros and its length in bits, a whole number of
blocks. -/
def pad (design : Sha2 W) (message : Bytes) : Bytes :=
  let block := 16 * design.width
  let tail := 2 * design.width
  let zeros := (block - (message.length + 1 + tail) % block) % block
  message ++ 0x80 :: (List.replicate zeros 0 ++ Bytes.ofNat tail (8 * message.length))

def output (design : Sha2 W) (r : Registers W) : Bytes :=
  [r.a, r.b, r.c, r.d, r.e, r.f, r.g, r.h].flatMap fun word =>
    Bytes.ofNat design.width (design.toNat word)

def digest (design : Sha2 W) (start : Registers W) (message : Bytes) : Bytes :=
  design.output <|
    (Bytes.blocks (16 * design.width) (design.pad message)).foldl design.compress start

/-- The design over 32-bit words. -/
def words32 : Sha2 UInt32 where
  width := 4
  ofNat := UInt32.ofNat
  toNat := UInt32.toNat
  rotate x n := (x >>> UInt32.ofNat n) ||| (x <<< UInt32.ofNat (32 - n))
  shift x n := x >>> UInt32.ofNat n
  upper0 := (2, 13, 22)
  upper1 := (6, 11, 25)
  lower0 := (7, 18, 3)
  lower1 := (17, 19, 10)
  rounds :=
    [0x428A2F98, 0x71374491, 0xB5C0FBCF, 0xE9B5DBA5, 0x3956C25B, 0x59F111F1,
    0x923F82A4, 0xAB1C5ED5, 0xD807AA98, 0x12835B01, 0x243185BE, 0x550C7DC3,
    0x72BE5D74, 0x80DEB1FE, 0x9BDC06A7, 0xC19BF174, 0xE49B69C1, 0xEFBE4786,
    0x0FC19DC6, 0x240CA1CC, 0x2DE92C6F, 0x4A7484AA, 0x5CB0A9DC, 0x76F988DA,
    0x983E5152, 0xA831C66D, 0xB00327C8, 0xBF597FC7, 0xC6E00BF3, 0xD5A79147,
    0x06CA6351, 0x14292967, 0x27B70A85, 0x2E1B2138, 0x4D2C6DFC, 0x53380D13,
    0x650A7354, 0x766A0ABB, 0x81C2C92E, 0x92722C85, 0xA2BFE8A1, 0xA81A664B,
    0xC24B8B70, 0xC76C51A3, 0xD192E819, 0xD6990624, 0xF40E3585, 0x106AA070,
    0x19A4C116, 0x1E376C08, 0x2748774C, 0x34B0BCB5, 0x391C0CB3, 0x4ED8AA4A,
    0x5B9CCA4F, 0x682E6FF3, 0x748F82EE, 0x78A5636F, 0x84C87814, 0x8CC70208,
    0x90BEFFFA, 0xA4506CEB, 0xBEF9A3F7, 0xC67178F2]

/-- The design over 64-bit words. -/
def words64 : Sha2 UInt64 where
  width := 8
  ofNat := UInt64.ofNat
  toNat := UInt64.toNat
  rotate x n := (x >>> UInt64.ofNat n) ||| (x <<< UInt64.ofNat (64 - n))
  shift x n := x >>> UInt64.ofNat n
  upper0 := (28, 34, 39)
  upper1 := (14, 18, 41)
  lower0 := (1, 8, 7)
  lower1 := (19, 61, 6)
  rounds :=
    [0x428A2F98D728AE22, 0x7137449123EF65CD, 0xB5C0FBCFEC4D3B2F, 0xE9B5DBA58189DBBC,
    0x3956C25BF348B538, 0x59F111F1B605D019, 0x923F82A4AF194F9B, 0xAB1C5ED5DA6D8118,
    0xD807AA98A3030242, 0x12835B0145706FBE, 0x243185BE4EE4B28C, 0x550C7DC3D5FFB4E2,
    0x72BE5D74F27B896F, 0x80DEB1FE3B1696B1, 0x9BDC06A725C71235, 0xC19BF174CF692694,
    0xE49B69C19EF14AD2, 0xEFBE4786384F25E3, 0x0FC19DC68B8CD5B5, 0x240CA1CC77AC9C65,
    0x2DE92C6F592B0275, 0x4A7484AA6EA6E483, 0x5CB0A9DCBD41FBD4, 0x76F988DA831153B5,
    0x983E5152EE66DFAB, 0xA831C66D2DB43210, 0xB00327C898FB213F, 0xBF597FC7BEEF0EE4,
    0xC6E00BF33DA88FC2, 0xD5A79147930AA725, 0x06CA6351E003826F, 0x142929670A0E6E70,
    0x27B70A8546D22FFC, 0x2E1B21385C26C926, 0x4D2C6DFC5AC42AED, 0x53380D139D95B3DF,
    0x650A73548BAF63DE, 0x766A0ABB3C77B2A8, 0x81C2C92E47EDAEE6, 0x92722C851482353B,
    0xA2BFE8A14CF10364, 0xA81A664BBC423001, 0xC24B8B70D0F89791, 0xC76C51A30654BE30,
    0xD192E819D6EF5218, 0xD69906245565A910, 0xF40E35855771202A, 0x106AA07032BBD1B8,
    0x19A4C116B8D2D0C8, 0x1E376C085141AB53, 0x2748774CDF8EEB99, 0x34B0BCB5E19B48A8,
    0x391C0CB3C5C95A63, 0x4ED8AA4AE3418ACB, 0x5B9CCA4F7763E373, 0x682E6FF3D6B2B8A3,
    0x748F82EE5DEFB2FC, 0x78A5636F43172F60, 0x84C87814A1F0AB72, 0x8CC702081A6439EC,
    0x90BEFFFA23631E28, 0xA4506CEBDE82BDE9, 0xBEF9A3F7B2C67915, 0xC67178F2E372532B,
    0xCA273ECEEA26619C, 0xD186B8C721C0C207, 0xEADA7DD6CDE0EB1E, 0xF57D4F7FEE6ED178,
    0x06F067AA72176FBA, 0x0A637DC5A2C898A6, 0x113F9804BEF90DAE, 0x1B710B35131C471B,
    0x28DB77F523047D84, 0x32CAAB7B40C72493, 0x3C9EBE0A15C9BEBC, 0x431D67C49C100D4C,
    0x4CC5D4BECB3E42B6, 0x597F299CFC657E2A, 0x5FCB6FAB3AD6FAEC, 0x6C44198C4A475817]

end Sha2

/-- The SHA-256 digest. -/
def sha256 : Bytes → Bytes :=
  Sha2.words32.digest
    ⟨0x6A09E667, 0xBB67AE85, 0x3C6EF372, 0xA54FF53A,
      0x510E527F, 0x9B05688C, 0x1F83D9AB, 0x5BE0CD19⟩

/-- The SHA-512 digest. -/
def sha512 : Bytes → Bytes :=
  Sha2.words64.digest
    ⟨0x6A09E667F3BCC908, 0xBB67AE8584CAA73B, 0x3C6EF372FE94F82B,
      0xA54FF53A5F1D36F1, 0x510E527FADE682D1, 0x9B05688C2B3E6C1F,
      0x1F83D9ABFB41BD6B, 0x5BE0CD19137E2179⟩

/-- The SHA-384 digest: the first 48 bytes of a digest with registers of its
own. -/
def sha384 (message : Bytes) : Bytes :=
  (Sha2.words64.digest
    ⟨0xCBBB9D5DC1059ED8, 0x629A292A367CD507, 0x9159015A3070DD17,
      0x152FECD8F70E5939, 0x67332667FFC00B31, 0x8EB44A8768581511,
      0xDB0C2E0D64F98FA7, 0x47B5481DBEFA4FA4⟩ message).take 48

/-- A hash function with the sizes of its blocks and digests in bytes. -/
structure Hash where
  run : Bytes → Bytes
  blockSize : Nat
  digestSize : Nat

def Hash.sha256 : Hash := ⟨Crypto.sha256, 64, 32⟩

def Hash.sha384 : Hash := ⟨Crypto.sha384, 128, 48⟩

def Hash.sha512 : Hash := ⟨Crypto.sha512, 128, 64⟩

def hmac (hash : Hash) (key message : Bytes) : Bytes :=
  let key := if key.length > hash.blockSize then hash.run key else key
  let key := key ++ List.replicate (hash.blockSize - key.length) 0
  let keyed (mask : UInt8) : Bytes := key.map (· ^^^ mask)
  hash.run (keyed 0x5C ++ hash.run (keyed 0x36 ++ message))

end LocalCloud.Crypto
