import LocalCloud.Bytes

/-!
# Galois counter mode

Authenticated encryption with a block cipher: the text is mixed with encrypted
counters, and a tag over the associated data and the cipher text is computed by
multiplication in the field of 2^128 elements.
-/

namespace LocalCloud.Crypto.Gcm

def blockSize : Nat := 16

/-- The product of two field elements.  The bits of an element are the
coefficients of its polynomial, the constant one first. -/
def multiply (x y : Nat) : Nat :=
  loop 128 x y 0
where
  /-- Adds the multiples of `v` for the `count` low bits of `x`, from the highest
  of them on. -/
  loop : Nat → Nat → Nat → Nat → Nat
    | 0, _, _, sum => sum
    | count + 1, x, v, sum =>
      let sum := if x.testBit count then sum ^^^ v else sum
      let v := if v % 2 == 1 then v / 2 ^^^ (0xE1 <<< 120) else v / 2
      loop count x v sum

/-- A byte string filled up with zeros to whole blocks. -/
def fill (bytes : Bytes) : Bytes :=
  bytes ++ List.replicate ((blockSize - bytes.length % blockSize) % blockSize) 0

/-- The hash of whole blocks under a key. -/
def ghash (key : Nat) (bytes : Bytes) : Nat :=
  (Bytes.blocks blockSize bytes).foldl (fun sum block => multiply (sum ^^^ Bytes.toNat block) key) 0

def counterBlock (iv : Bytes) (number : Nat) : Bytes :=
  iv ++ Bytes.ofNat 4 number

/-- Mixes blocks with encrypted counters from a number on. -/
def mixCounters (cipher : Bytes → Bytes) (iv : Bytes) : Nat → List Bytes → List Bytes
  | _, [] => []
  | number, block :: rest =>
    Bytes.xor block (cipher (counterBlock iv number)) :: mixCounters cipher iv (number + 1) rest

/-- Encrypts or decrypts a text. -/
def mix (cipher : Bytes → Bytes) (iv text : Bytes) : Bytes :=
  (mixCounters cipher iv 2 (Bytes.blocks blockSize text)).flatten

def tag (cipher : Bytes → Bytes) (iv associated sealed : Bytes) : Bytes :=
  let key := Bytes.toNat (cipher (List.replicate blockSize 0))
  let lengths := Bytes.ofNat 8 (8 * associated.length) ++ Bytes.ofNat 8 (8 * sealed.length)
  let sum := ghash key (fill associated ++ fill sealed ++ lengths)
  Bytes.xor (Bytes.ofNat blockSize sum) (cipher (counterBlock iv 1))

/-- Encrypts a text and computes its tag. -/
def encrypt (cipher : Bytes → Bytes) (iv associated text : Bytes) : Bytes × Bytes :=
  let sealed := mix cipher iv text
  (sealed, tag cipher iv associated sealed)

/-- Decrypts a message that ends in its tag, if the tag is right. -/
def decrypt? (cipher : Bytes → Bytes) (iv associated message : Bytes) : Option Bytes :=
  if message.length < blockSize then none
  else
    let sealed := message.take (message.length - blockSize)
    if message.drop (message.length - blockSize) = tag cipher iv associated sealed then
      some (mix cipher iv sealed)
    else none

end LocalCloud.Crypto.Gcm
