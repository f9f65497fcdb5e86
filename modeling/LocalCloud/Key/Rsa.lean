import LocalCloud.Codec.Asn1
import LocalCloud.Codec.Pem
import LocalCloud.Crypto.Rsa
import LocalCloud.Error

/-!
# RSA keys in PEM form

Private keys come as PKCS #8 or PKCS #1 blocks, public keys as subject public
key info or PKCS #1 blocks.
-/

namespace LocalCloud

open Crypto.Rsa (PublicKey PrivateKey)

namespace RsaKey

open Asn1 (Element single? sequenceTag identifierTag nullTag octetStringTag)

def rsaIdentifier : Bytes := [0x2A, 0x86, 0x48, 0x86, 0xF7, 0x0D, 0x01, 0x01, 0x01]

/-- Whether an algorithm is RSA encryption with null parameters. -/
def isRsaAlgorithm (algorithm : Element) : Bool :=
  match algorithm.inside? sequenceTag with
  | some [identifier, parameters] =>
    identifier.contents? identifierTag == some rsaIdentifier
      && parameters.contents? nullTag == some []
  | _ => false

/-- The modulus and exponent of a PKCS #1 public key. -/
def publicParts? (der : Bytes) : Option PublicKey := do
  match ← (← single? der).inside? sequenceTag with
  | [modulus, exponent] => some ⟨← modulus.natural?, ← exponent.natural?⟩
  | _ => none

def usablePublic? (key : PublicKey) : Option PublicKey :=
  if key.isUsable then some key else none

def publicOfPkcs1? (der : Bytes) : Option PublicKey :=
  (publicParts? der).bind usablePublic?

def publicOfInfo? (der : Bytes) : Option PublicKey := do
  match ← (← single? der).inside? sequenceTag with
  | [algorithm, key] =>
    if isRsaAlgorithm algorithm then publicOfPkcs1? (← key.bitString?) else none
  | _ => none

/-- Reads a PKCS #1 private key with two primes. -/
def privateOfPkcs1? (der : Bytes) : Option PrivateKey := do
  match ← (← single? der).inside? sequenceTag with
  | [version, modulus, publicExponent, exponent, prime1, prime2, remainder1, remainder2, inverse] =>
    let key : PrivateKey := {
      publicKey := ⟨← modulus.natural?, ← publicExponent.natural?⟩
      exponent := ← exponent.natural?
      prime1 := ← prime1.natural?
      prime2 := ← prime2.natural? }
    let _ ← remainder1.natural?
    let _ ← remainder2.natural?
    let _ ← inverse.natural?
    if (← version.natural?) = 0 ∧ key.isUsable then some key else none
  | _ => none

/-- Reads a PKCS #8 private key; attributes and a copy of the public key may
follow the key. -/
def privateOfPkcs8? (der : Bytes) : Option PrivateKey := do
  match ← (← single? der).inside? sequenceTag with
  | version :: algorithm :: key :: rest =>
    let version ← version.natural?
    if version ≤ 1 ∧ isRsaAlgorithm algorithm
        ∧ rest.all (fun element =>
          element.tag == 0xA0 || (version == 1 && element.tag == 0x81)) then
      privateOfPkcs1? (← key.contents? octetStringTag)
    else none
  | _ => none

def privateOfPem (pem : String) : Except Error PrivateKey :=
  let pkcs8 := (Pem.readStrict? "PRIVATE KEY" pem).bind privateOfPkcs8?
  let pkcs1 := (Pem.readStrict? "RSA PRIVATE KEY" pem).bind privateOfPkcs1?
  Error.ofOption (.crypto "invalid RSA private key: neither PKCS #8 nor PKCS #1") (pkcs8.or pkcs1)

def publicOfPem (pem : String) : Except Error PublicKey :=
  let info := (Pem.readStrict? "PUBLIC KEY" pem).bind publicOfInfo?
  let pkcs1 := (Pem.readStrict? "RSA PUBLIC KEY" pem).bind publicOfPkcs1?
  Error.ofOption (.crypto "invalid RSA public key: neither key info nor PKCS #1") (info.or pkcs1)

end RsaKey

end LocalCloud
