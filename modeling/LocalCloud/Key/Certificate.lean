import LocalCloud.Codec.Asn1.Time
import LocalCloud.Codec.Pem
import LocalCloud.Error
import LocalCloud.Text.Utf8

/-!
# Certificates

What the local cloud reads in X.509 certificates: the common names of the
subject, by which systems are recognised, and the public key, which systems
publish as their authentication info.
-/

namespace LocalCloud

/-- The parts of a certificate in use. -/
structure Certificate where
  /-- The values of the subject's common name attributes. -/
  commonNames : List Asn1.Element
  publicKeyInfo : Bytes

namespace Certificate

open Asn1 (Element Reader sequenceTag setTag booleanTag integerTag bitStringTag octetStringTag
  identifierTag)

def commonNameIdentifier : Bytes := [0x55, 0x04, 0x03]

section Reading

open Asn1.Reader

/-- An object identifier. -/
def identifier : Reader Bytes :=
  return (← tagged identifierTag).contents

def bits : Reader Unit := do
  guard (← tagged bitStringTag).isBits

/-- An algorithm; its parameters are any element. -/
def algorithm : Reader Unit :=
  inside sequenceTag do
    let _ ← identifier
    unless ← isAtEnd do
      let _ ← element

/-- An entry of a name: an identifier and a value, which is any element. -/
def entry : Reader (Bytes × Element) :=
  inside sequenceTag do
    return (← identifier, ← element)

/-- The values of the common names in a name.  A name is read up to the first part of it
that is no set of entries. -/
def nameValues : Reader (List Element) :=
  inside sequenceTag do
    let entries := (← many (inside setTag (many1 entry))).flatten
    return (entries.filter (·.1 = commonNameIdentifier)).map (·.2)

/-- The version of a certificate, if it is told. -/
def version : Reader Unit := do
  if ← isNext 0xA0 then
    inside 0xA0 do
      let number ← element
      guard (number.natural?.any (· < 0x100000000))

def time : Reader Unit := do
  guard (← element).isTime

/-- The period of validity. -/
def validity : Reader Unit :=
  inside sequenceTag do
    time
    time

/-- The bytes of a subject public key info, up to the end of the key. -/
def keyInfo : Reader Bytes := do
  let info ← tagged sequenceTag
  let ((), rest) ← (do algorithm; bits : Reader Unit).run info.contents
  return info.raw.take (info.raw.length - rest.length)

/-- An identifier of the issuer or of the subject, if it is told. -/
def uniqueIdentifier (tag : UInt8) : Reader Unit := do
  if ← isNext tag then
    guard (← element).isBits

/-- An extension: an identifier, perhaps whether it is critical, and a value that is not
read further. -/
def extension : Reader Unit :=
  inside sequenceTag do
    let _ ← identifier
    if ← isNext booleanTag then
      guard ((← element).contents.length == 1)
    let _ ← tagged octetStringTag

/-- The extensions, if there are bytes left for them.  Nothing follows them. -/
def extensions : Reader Unit := do
  unless ← isAtEnd do
    inside 0xA3 do
      inside sequenceTag do
        let _ ← many extension
        guard (← isAtEnd)
      guard (← isAtEnd)
    guard (← isAtEnd)

/-- The part of a certificate that is signed. -/
def signedPart : Reader Certificate :=
  inside sequenceTag do
    version
    let _ ← tagged integerTag
    algorithm
    let _ ← nameValues
    validity
    let commonNames ← nameValues
    let publicKeyInfo ← keyInfo
    uniqueIdentifier 0x81
    uniqueIdentifier 0x82
    extensions
    return { commonNames, publicKeyInfo }

/-- A certificate; its signature is not checked. -/
def certificate : Reader Certificate :=
  inside sequenceTag do
    let certificate ← signedPart
    algorithm
    bits
    return certificate

/-- Reads a certificate in DER; bytes behind it are ignored. -/
def ofDer? (der : Bytes) : Option Certificate :=
  certificate.run' der

end Reading

/-- Reads the first certificate in a PEM text. -/
def ofPem (pem : String) : Except Error Certificate := do
  let der ← Error.ofOption (.certificate "invalid PEM: no readable block") (Pem.readLines? pem)
  Error.ofOption (.certificate "invalid X.509 certificate: unexpected structure") (ofDer? der)

/-- The text of a common name, which is one of the string types whose characters
are a subset of UTF-8. -/
def nameText? (name : Element) : Option String :=
  if name.tag = 0x0C ∨ name.tag = 0x12 ∨ name.tag = 0x13 ∨ name.tag = 0x16 then
    Utf8.decode? name.contents
  else none

def commonName (certificate : Certificate) : Except Error String :=
  match certificate.commonNames with
  | [] => .error (.certificate "certificate has no common name")
  | [name] =>
    Error.ofOption (.certificate "unreadable common name: not a UTF-8 string type") (nameText? name)
  | names =>
    .error (.certificate ("certificate has " ++ toString names.length ++ " common names"))

def commonNameOfPem (pem : String) : Except Error String := do
  (← ofPem pem).commonName

def publicKeyOfPem (pem : String) : Except Error Bytes := do
  return (← ofPem pem).publicKeyInfo

def authenticationInfo (pem : String) : Except Error String := do
  return Base64.encode (← publicKeyOfPem pem)

/-- Cleans a base64 text: without white space and quotation marks around it, and
without white space inside. -/
def cleanBase64 (text : String) : String :=
  let chars := Text.stripChars (· == '"') (Text.stripChars Text.isBlank text.toList)
  String.ofList (chars.filter fun c => !Text.isBlank c)

/-- The PEM block of a public key given as base64 DER, in quotation marks or
not. -/
def publicKeyPem (base64 : String) : Except Error String :=
  let cleaned := cleanBase64 base64
  match Base64.decode? cleaned with
  | some _ => .ok (Pem.render "PUBLIC KEY" cleaned)
  | none => .error (.certificate "public key is not base64: the text is not canonical")

def pemOfDer (der : Bytes) : String :=
  Pem.render "CERTIFICATE" (Base64.encode der)

end Certificate

end LocalCloud
