import LocalCloud.Codec.Base64
import LocalCloud.Crypto.Aes
import LocalCloud.Crypto.Cbc
import LocalCloud.Crypto.Gcm
import LocalCloud.Crypto.Rsa
import LocalCloud.Error
import LocalCloud.Json.Decode
import LocalCloud.Json.Printer
import LocalCloud.Text.Split
import LocalCloud.Text.Whitespace

/-!
# Encrypted envelopes

Compact envelopes of five base64 segments: a header, the wrapped content key, an
initialisation vector, the cipher text and an authentication tag.  The content
key is wrapped with RSA-OAEP for the recipient; the contents are encrypted with
AES, either in CBC mode with an HMAC or in GCM.
-/

namespace LocalCloud

open Crypto.Rsa (PublicKey PrivateKey)

/-- How the contents of an envelope are encrypted. -/
inductive ContentEncryption where
  | a128CbcHs256
  | a256CbcHs512
  | a128Gcm
  | a256Gcm
deriving DecidableEq, Repr

namespace ContentEncryption

def all : List ContentEncryption := [a128CbcHs256, a256CbcHs512, a128Gcm, a256Gcm]

def name : ContentEncryption → String
  | a128CbcHs256 => "A128CBC-HS256"
  | a256CbcHs512 => "A256CBC-HS512"
  | a128Gcm => "A128GCM"
  | a256Gcm => "A256GCM"

def ofName? (name : String) : Option ContentEncryption :=
  all.find? fun encryption => encryption.name == name

def keyLength : ContentEncryption → Nat
  | a128CbcHs256 => 32
  | a256CbcHs512 => 64
  | a128Gcm => 16
  | a256Gcm => 32

/-- Bytes of the initialisation vector. -/
def ivLength : ContentEncryption → Nat
  | a128CbcHs256 => 16
  | a256CbcHs512 => 16
  | a128Gcm => 12
  | a256Gcm => 12

/-- Bytes of the authentication tag. -/
def tagLength : ContentEncryption → Nat
  | a128CbcHs256 => 16
  | a256CbcHs512 => 32
  | a128Gcm => 16
  | a256Gcm => 16

/-- The hash behind the HMAC of a CBC encryption; nothing for GCM. -/
def hash? : ContentEncryption → Option Crypto.Hash
  | a128CbcHs256 => some .sha256
  | a256CbcHs512 => some .sha512
  | a128Gcm => none
  | a256Gcm => none

end ContentEncryption

/-- The header of an envelope. -/
structure EnvelopeHeader where
  algorithm : String
  encryption : String
  contentType : Option String := none
deriving DecidableEq, Repr

namespace EnvelopeHeader

def toJson (header : EnvelopeHeader) : Json.Value :=
  .object <|
    [("alg", .string header.algorithm), ("enc", .string header.encryption)]
    ++ Json.Value.field "cty" (header.contentType.map .string)

open Json.Decode in
def decode : Json.Decoder EnvelopeHeader := fun node => do
  match ← record ["alg", "enc", "cty"] node with
  | [algorithm, encryption, contentType] =>
    some {
      algorithm := ← required string algorithm
      encryption := ← required string encryption
      contentType := ← optional string contentType }
  | _ => none

end EnvelopeHeader

namespace Envelope

/-- The only way in which content keys are wrapped. -/
def keyManagement : String := "RSA-OAEP-256"

/-- The tag of a CBC encryption: an HMAC over the header, the initialisation
vector, the cipher text and the bit length of the header, cut to the length of
its key. -/
def cbcTag (hash : Crypto.Hash) (macKey associated iv sealed : Bytes) : Bytes :=
  let message := associated ++ iv ++ sealed ++ Bytes.ofNat 8 (8 * associated.length)
  (Crypto.hmac hash macKey message).take macKey.length

/-- The failure for a tag that is not the computed one. -/
def tagMismatch : Error := .invalidToken "authentication tag mismatch"

/-- Decrypts contents in CBC mode.  The first half of the content key belongs to
the HMAC, the second half to the cipher. -/
def openCbc (hash : Crypto.Hash) (key associated iv sealed tag : Bytes) : Except Error Bytes :=
  let half := key.length / 2
  if cbcTag hash (key.take half) associated iv sealed = tag then
    Error.ofOption (.invalidToken "bad padding")
      (Crypto.Cbc.decrypt? (Crypto.Aes.decryptBlock (key.drop half)) iv sealed)
  else .error tagMismatch

/-- Decrypts contents in GCM.  Cipher text and tag are taken as one message,
whose last block is the tag. -/
def openGcm (key associated iv sealed tag : Bytes) : Except Error Bytes :=
  Error.ofOption tagMismatch
    (Crypto.Gcm.decrypt? (Crypto.Aes.encryptBlock key) iv associated (sealed ++ tag))

def openContents (encryption : ContentEncryption) (key associated iv sealed tag : Bytes) :
    Except Error Bytes :=
  match encryption.hash? with
  | some hash => openCbc hash key associated iv sealed tag
  | none => openGcm key associated iv sealed tag

/-- Encrypts contents; gives the cipher text and the tag. -/
def sealContents (encryption : ContentEncryption) (key associated iv text : Bytes) :
    Bytes × Bytes :=
  match encryption.hash? with
  | some hash =>
    let half := key.length / 2
    let sealed := Crypto.Cbc.encrypt (Crypto.Aes.encryptBlock (key.drop half)) iv text
    (sealed, cbcTag hash (key.take half) associated iv sealed)
  | none => Crypto.Gcm.encrypt (Crypto.Aes.encryptBlock key) iv associated text

def segment (what text : String) : Except Error Bytes :=
  Error.ofOption (.malformedToken (what ++ " is not base64url: the text is not canonical"))
    (Base64.decodeUrl? text)

def readHeader (text : String) : Except Error ContentEncryption := do
  let header ← Error.ofOption (.malformedToken "invalid JWE header: not the JSON of a header")
    (Json.decodeBytes? EnvelopeHeader.decode (← segment "header" text))
  if header.algorithm ≠ keyManagement then
    throw (.malformedToken ("unsupported key management '" ++ header.algorithm ++ "'"))
  Error.ofOption (.malformedToken ("unsupported content encryption '" ++ header.encryption ++ "'"))
    (ContentEncryption.ofName? header.encryption)

def unwrapKey (encryption : ContentEncryption) (key : PrivateKey) (wrapped : Bytes) :
    Except Error Bytes := do
  let contentKey ← Error.ofOption (.invalidToken "cannot unwrap content key: decryption failed")
    (Crypto.Rsa.decrypt? key wrapped)
  if contentKey.length ≠ encryption.keyLength then
    throw (.invalidToken ("content key is " ++ toString contentKey.length ++ " bytes, "
      ++ encryption.name ++ " requires " ++ toString encryption.keyLength))
  return contentKey

def openSegments (key : PrivateKey) (header wrapped iv sealed tag : String) :
    Except Error Bytes := do
  let encryption ← readHeader header
  let contentKey ← unwrapKey encryption key (← segment "encrypted key" wrapped)
  let iv ← segment "iv" iv
  if iv.length ≠ encryption.ivLength then
    throw (.malformedToken ("iv is " ++ toString iv.length ++ " bytes"))
  let sealed ← segment "ciphertext" sealed
  let tag ← segment "tag" tag
  openContents encryption contentKey (Utf8.encode header) iv sealed tag

def decrypt (token : String) (key : PrivateKey) : Except Error Bytes :=
  let parts := Text.splitString '.' (Text.trim token)
  match parts with
  | [header, wrapped, iv, sealed, tag] => openSegments key header wrapped iv sealed tag
  | _ =>
    .error (.malformedToken ("expected 5 JWE segments, found " ++ toString parts.length))

/-- The random choices behind one envelope. -/
structure Randomness where
  contentKey : Bytes
  iv : Bytes
  seed : Bytes

/-- Seals a text in an envelope for the holder of the private half of a key. -/
def encrypt (text : Bytes) (key : PublicKey) (encryption : ContentEncryption)
    (contentType : Option String) (random : Randomness) : Except Error String := do
  let header : EnvelopeHeader := ⟨keyManagement, encryption.name, contentType⟩
  let header := Base64.encodeUrl header.toJson.bytes
  let wrapped ← Error.ofOption (.crypto "cannot wrap content key: the key is too long")
    (Crypto.Rsa.encrypt? key random.seed random.contentKey)
  let (sealed, tag) :=
    sealContents encryption random.contentKey (Utf8.encode header) random.iv text
  return String.intercalate "."
    (header :: [wrapped, random.iv, sealed, tag].map Base64.encodeUrl)

end Envelope

end LocalCloud
