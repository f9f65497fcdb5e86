import LocalCloud.Codec.Asn1.Tree
import LocalCloud.Key.Rsa
import LocalCloud.Token.Claims
import LocalCloud.Token.WebKey

/-!
# Signed claims

Compact signatures of three base64 segments: a header that names the algorithm,
the claims, and the signature over both.  Only the six RSA algorithms are
accepted.
-/

namespace LocalCloud

/-- The algorithms a header may name. -/
inductive SignatureAlgorithm where
  | hs256 | hs384 | hs512
  | es256 | es384
  | rs256 | rs384 | rs512
  | ps256 | ps384 | ps512
  | edDsa
deriving DecidableEq, Repr

namespace SignatureAlgorithm

def all : List SignatureAlgorithm :=
  [hs256, hs384, hs512, es256, es384, rs256, rs384, rs512, ps256, ps384, ps512, edDsa]

def name : SignatureAlgorithm → String
  | hs256 => "HS256"
  | hs384 => "HS384"
  | hs512 => "HS512"
  | es256 => "ES256"
  | es384 => "ES384"
  | rs256 => "RS256"
  | rs384 => "RS384"
  | rs512 => "RS512"
  | ps256 => "PS256"
  | ps384 => "PS384"
  | ps512 => "PS512"
  | edDsa => "EdDSA"

def ofName? (name : String) : Option SignatureAlgorithm :=
  all.find? fun algorithm => algorithm.name == name

def rsa? : SignatureAlgorithm → Option (Crypto.Rsa.SignatureEncoding × Crypto.Hash)
  | rs256 => some (.pkcs1, .sha256)
  | rs384 => some (.pkcs1, .sha384)
  | rs512 => some (.pkcs1, .sha512)
  | ps256 => some (.pss, .sha256)
  | ps384 => some (.pss, .sha384)
  | ps512 => some (.pss, .sha512)
  | _ => none

open Json.Decode in
/-- Reads the algorithm from the JSON of a header.  The other registered fields
are texts, lists of texts or a key, where they are present. -/
def ofHeader : Json.Decoder SignatureAlgorithm := fun node => do
  match ← fullRecord
      ["typ", "alg", "cty", "jku", "jwk", "kid", "x5u", "x5c", "x5t", "x5t#S256"] node with
  | [type, algorithm, contentType, keyUrl, key, keyId, chainUrl, chain, digest, digest256] =>
    for field in [type, contentType, keyUrl, keyId, chainUrl, digest, digest256] do
      let _ ← optional string field
    let _ ← optional (list string) chain
    let key ← optional some key
    guard (key.all WebKey.isReadable)
    required (choice ofName?) algorithm
  | _ => none

end SignatureAlgorithm

namespace SignedClaims

open Crypto.Rsa (PublicKey)

/-- The three segments of a signed text, and the part that is signed. -/
structure Segments where
  header : String
  claims : String
  signature : String

/-- Cuts a text at its last two dots. -/
def segments? (text : String) : Option Segments :=
  match (Text.splitOn '.' text.toList).reverse with
  | signature :: claims :: first :: others =>
    some {
      header := String.ofList (List.intercalate ['.'] (first :: others).reverse)
      claims := String.ofList claims
      signature := String.ofList signature }
  | _ => none

def Segments.message (segments : Segments) : Bytes :=
  Utf8.encode (segments.header ++ "." ++ segments.claims)

/-- The algorithm that the header of a signed text names. -/
def algorithm? (text : String) : Option SignatureAlgorithm := do
  let segments ← segments? text
  Json.decodeBytes? SignatureAlgorithm.ofHeader (← Base64.decodeUrl? segments.header)

/-- A key for the verification of signatures, as found in its PEM block; whether
it is one shows when it is used. -/
abbrev VerificationKey := Bytes

/-- What the object identifier of an algorithm says about a key. -/
def isRsaIdentifier? (kind : UInt8) (contents : Bytes) : Option Bool :=
  if kind = Asn1.identifierTag then
    let parts := Asn1.identifierParts? contents
    if parts = Asn1.identifierParts? RsaKey.rsaIdentifier then some true
    else if parts = Asn1.identifierParts? [0x2A, 0x86, 0x48, 0xCE, 0x3D, 0x02, 0x01]
        ∨ parts = Asn1.identifierParts? [0x2B, 0x65, 0x70] then
      some false
    else none
  else none

def stringBytes? (kind : UInt8) (contents : Bytes) : Option Bytes :=
  if kind = Asn1.bitStringTag then some (contents.drop 1)
  else if kind = Asn1.octetStringTag then some contents
  else none

/-- Finds the key in the PEM block of an RSA key, of a key with its algorithm,
or of a certificate. -/
def verificationKey? (pem : String) : Option VerificationKey := do
  let (label, der) ← Pem.readAnywhere? pem
  let trees ← Asn1.trees? (der.length + 1) der
  if label = "RSA PRIVATE KEY" ∨ label = "RSA PUBLIC KEY" then some der
  else if label = "PRIVATE KEY" ∨ label = "PUBLIC KEY" ∨ label = "CERTIFICATE" then
    if ← Asn1.searchAll? isRsaIdentifier? trees then Asn1.searchAll? stringBytes? trees
    else none
  else none

/-- Whether a public key is strong enough for signatures: between 2048 and 8192
bits, with an odd exponent of at most 33 bits. -/
def isStrong (key : PublicKey) : Bool :=
  2048 ≤ 8 * key.size && Crypto.Rsa.bitLength key.modulus ≤ 8192 && key.modulus % 2 == 1
    && key.exponent % 2 == 1 && 3 ≤ key.exponent && key.exponent < 0x200000000

/-- Whether the signature of a text holds. -/
def holds (segments : Segments) (key : VerificationKey)
    (encoding : Crypto.Rsa.SignatureEncoding) (hash : Crypto.Hash) : Bool :=
  match Base64.decodeUrl? segments.signature, RsaKey.publicParts? key with
  | some signature, some key =>
    isStrong key && Crypto.Rsa.verify key encoding hash segments.message signature
  | _, _ => false

/-- Whether a subject can be read: it is a single value, whose text is one. -/
def isSubject : Json.Node → Bool
  | .string text => text.isSome
  | .array _ | .object _ => false
  | _ => true

/-- Whether an audience can be read: it is a number of whatever size, or all of its
value is readable. -/
def isAudience : Json.Node → Bool
  | .number _ => true
  | node => (node.toValueWithin? (Json.Node.maxDepth - 1)).isSome

open Json.Decode in
/-- Whether the registered claims are readable beside the others: neither
subject nor audience is given twice, and both can be read. -/
def registeredReadable (node : Json.Node) : Bool :=
  match node with
  | .object fields =>
    (uniqueField fields "aud").any (·.all isAudience)
      && (uniqueField fields "sub").any (·.all isSubject)
  | _ => false

/-- Reads the claims of a signed text once its signature holds. -/
def read? (text : String) (key : VerificationKey)
    (encoding : Crypto.Rsa.SignatureEncoding) (hash : Crypto.Hash) : Option Claims := do
  let segments ← segments? text
  if holds segments key encoding hash then
    let node ← Json.Node.ofBytes? (← Base64.decodeUrl? segments.claims)
    if registeredReadable node then Claims.decode node else none
  else none

end SignedClaims

end LocalCloud
