import LocalCloud.Crypto.Sha2

/-!
# RSA

The RSA function on numbers, and the encodings around it: OAEP for the wrapping
of keys, and the two signature encodings PKCS #1 v1.5 and PSS.
-/

namespace LocalCloud.Crypto.Rsa

/-- The power `base ^ exponent` modulo `modulus`, by repeated squaring. -/
def powMod (base exponent modulus : Nat) : Nat :=
  loop (exponent.log2 + 1) (base % modulus) exponent (1 % modulus)
where
  /-- Multiplies `result` by the power of `base` that the `count` low bits of the
  exponent describe. -/
  loop : Nat → Nat → Nat → Nat → Nat
    | 0, _, _, result => result
    | count + 1, base, exponent, result =>
      let result := if exponent % 2 == 1 then result * base % modulus else result
      loop count (base * base % modulus) (exponent / 2) result

/-- The number of bits of a number. -/
def bitLength (n : Nat) : Nat :=
  if n = 0 then 0 else n.log2 + 1

/-- A public key. -/
structure PublicKey where
  modulus : Nat
  exponent : Nat
deriving DecidableEq, Repr

/-- The length of the modulus in bytes. -/
def PublicKey.size (key : PublicKey) : Nat :=
  (bitLength key.modulus + 7) / 8

/-- Whether the key is usable: an odd modulus of at most 4096 bits above an odd
exponent of at most 33 bits. -/
def PublicKey.isUsable (key : PublicKey) : Bool :=
  bitLength key.modulus ≤ 4096 && key.exponent < key.modulus && key.modulus % 2 == 1
    && key.exponent % 2 == 1 && 2 ≤ key.exponent && key.exponent < 0x200000000

/-- A private key with the two prime factors of its modulus. -/
structure PrivateKey where
  publicKey : PublicKey
  exponent : Nat
  prime1 : Nat
  prime2 : Nat
deriving DecidableEq, Repr

/-- Whether the parts of the key fit together: the primes multiply to the
modulus, and the exponents are inverse to each other modulo each prime less
one. -/
def PrivateKey.isUsable (key : PrivateKey) : Bool :=
  let product := key.publicKey.exponent * key.exponent
  key.publicKey.isUsable && 2 ≤ key.prime1 && 2 ≤ key.prime2
    && key.prime1 * key.prime2 == key.publicKey.modulus
    && product % (key.prime1 - 1) == 1 && product % (key.prime2 - 1) == 1

/-- The mask generation function: digests of the seed and a counter. -/
def mask (hash : Hash) (seed : Bytes) (length : Nat) : Bytes :=
  let count := (length + hash.digestSize - 1) / hash.digestSize
  ((List.range count).flatMap fun index => hash.run (seed ++ Bytes.ofNat 4 index)).take length

namespace Oaep

/-- Encodes a message for a modulus of `size` bytes; absent when it is too
long. -/
def encode? (hash : Hash) (size : Nat) (seed message : Bytes) : Option Bytes :=
  let width := hash.digestSize
  if size < message.length + 2 * width + 2 then none
  else
    let zeros := List.replicate (size - message.length - 2 * width - 2) 0
    let data := hash.run [] ++ zeros ++ 1 :: message
    let maskedData := Bytes.xor data (mask hash seed (size - width - 1))
    let maskedSeed := Bytes.xor seed (mask hash maskedData width)
    some (0 :: (maskedSeed ++ maskedData))

/-- Recovers a message from its encoding. -/
def decode? (hash : Hash) (encoded : Bytes) : Option Bytes :=
  let width := hash.digestSize
  match encoded with
  | [] => none
  | first :: rest =>
    if rest.length < 2 * width + 1 then none
    else
      let maskedSeed := rest.take width
      let maskedData := rest.drop width
      let seed := Bytes.xor maskedSeed (mask hash maskedData width)
      let data := Bytes.xor maskedData (mask hash seed maskedData.length)
      match (data.drop width).dropWhile (· == 0) with
      | 1 :: message => if first = 0 ∧ data.take width = hash.run [] then some message else none
      | _ => none

end Oaep

/-- Encrypts a message for the holder of the private key; absent when the
message is too long for the key. -/
def encrypt? (key : PublicKey) (seed message : Bytes) : Option Bytes :=
  (Oaep.encode? .sha256 key.size seed message).map fun encoded =>
    Bytes.ofNat key.size (powMod (Bytes.toNat encoded) key.exponent key.modulus)

/-- Decrypts a message.  The cipher text is exactly as long as the modulus. -/
def decrypt? (key : PrivateKey) (sealed : Bytes) : Option Bytes :=
  let modulus := key.publicKey.modulus
  let value := Bytes.toNat sealed
  if sealed.length = key.publicKey.size ∧ value < modulus then
    Oaep.decode? .sha256 (Bytes.ofNat key.publicKey.size (powMod value key.exponent modulus))
  else none

/-- The two ways to encode a digest for signing. -/
inductive SignatureEncoding where
  | pkcs1
  | pss
deriving DecidableEq, Repr

/-- The DER description of a digest that precedes it in a PKCS #1 encoding; the
last digit of the algorithm's identifier tells the hash. -/
def digestInfo (digestSize : Nat) : Bytes :=
  let algorithm : UInt8 := if digestSize = 32 then 1 else if digestSize = 48 then 2 else 3
  [0x30, UInt8.ofNat (17 + digestSize), 0x30, 0x0D, 0x06, 0x09, 0x60, 0x86, 0x48, 0x01, 0x65, 0x03,
    0x04, 0x02, algorithm, 0x05, 0x00, 0x04, UInt8.ofNat digestSize]

def encodePkcs1 (hash : Hash) (size : Nat) (message : Bytes) : Bytes :=
  let tail := digestInfo hash.digestSize ++ hash.run message
  0 :: 1 :: (List.replicate (size - tail.length - 3) 0xFF ++ 0 :: tail)

/-- Whether an encoding of `bits` bits is a PSS encoding of the message with a
salt as long as the digest. -/
def isPss (hash : Hash) (bits : Nat) (message encoded : Bytes) : Bool :=
  let width := hash.digestSize
  let size := encoded.length
  if size < 2 * width + 2 then false
  else
    let maskedData := encoded.take (size - width - 1)
    let digest := (encoded.drop (size - width - 1)).take width
    let unused := 8 * size - bits
    let top (bytes : Bytes) : Nat := (bytes.headD 0).toNat / Nat.pow 2 (8 - unused)
    let unmasked := Bytes.xor maskedData (mask hash digest maskedData.length)
    let data := UInt8.ofNat ((unmasked.headD 0).toNat % Nat.pow 2 (8 - unused)) :: unmasked.drop 1
    let salt := data.drop (data.length - width)
    encoded.getLast? == some 0xBC && top maskedData == 0
      && data.take (data.length - width) == List.replicate (data.length - width - 1) 0 ++ [1]
      && hash.run (List.replicate 8 0 ++ hash.run message ++ salt) == digest

/-- Whether a signature of a message holds under a key. -/
def verify (key : PublicKey) (encoding : SignatureEncoding) (hash : Hash)
    (message signature : Bytes) : Bool :=
  let size := key.size
  let value := Bytes.toNat signature
  if signature.length == size && value < key.modulus then
    let opened := powMod value key.exponent key.modulus
    match encoding with
    | .pkcs1 => Bytes.ofNat size opened == encodePkcs1 hash size message
    | .pss =>
      let bits := bitLength key.modulus - 1
      let width := (bits + 7) / 8
      opened < Nat.pow 2 (8 * width) && isPss hash bits message (Bytes.ofNat width opened)
  else false

end LocalCloud.Crypto.Rsa
