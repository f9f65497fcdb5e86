import LocalCloud.Bytes

/-!
# Cipher block chaining

Encryption of byte strings of any length with a block cipher: the text is padded
to whole blocks, and each block is mixed with the previous cipher block before
it is encrypted.  The padding consists of bytes that tell how many they are, and
there is always some.
-/

namespace LocalCloud.Crypto.Cbc

def blockSize : Nat := 16

/-- Pads a text to whole blocks. -/
def pad (text : Bytes) : Bytes :=
  let count := blockSize - text.length % blockSize
  text ++ List.replicate count (UInt8.ofNat count)

/-- Removes the padding of a text of whole blocks, if it is well-formed. -/
def unpad? (text : Bytes) : Option Bytes :=
  match text.getLast? with
  | none => none
  | some last =>
    let count := last.toNat
    let kept := text.length - count
    if 0 < count ∧ count ≤ blockSize ∧ count ≤ text.length
        ∧ (text.drop kept).all (· == last) then
      some (text.take kept)
    else none

/-- Encrypts blocks, each mixed with its predecessor. -/
def encryptBlocks (cipher : Bytes → Bytes) : Bytes → List Bytes → List Bytes
  | _, [] => []
  | previous, block :: rest =>
    let sealed := cipher (Bytes.xor block previous)
    sealed :: encryptBlocks cipher sealed rest

/-- Decrypts blocks, each mixed with its predecessor. -/
def decryptBlocks (decipher : Bytes → Bytes) : Bytes → List Bytes → List Bytes
  | _, [] => []
  | previous, block :: rest =>
    Bytes.xor (decipher block) previous :: decryptBlocks decipher block rest

def encrypt (cipher : Bytes → Bytes) (iv text : Bytes) : Bytes :=
  (encryptBlocks cipher iv (Bytes.blocks blockSize (pad text))).flatten

/-- Decrypts a text; absent when it is not made of whole blocks or the padding is
not well-formed. -/
def decrypt? (decipher : Bytes → Bytes) (iv text : Bytes) : Option Bytes :=
  if text.length % blockSize = 0 then
    unpad? (decryptBlocks decipher iv (Bytes.blocks blockSize text)).flatten
  else none

end LocalCloud.Crypto.Cbc
