import LocalCloud.Key.Certificate
import LocalCloud.Key.Rsa
import LocalCloud.Proofs.Codec.Asn1
import LocalCloud.Proofs.Codec.Pem
import LocalCloud.Proofs.Text.Utf8

/-!
# The name in a certificate

A certificate with little more in it than the common name of its subject is read back part
by part: every part is an element, so the reader of the next part starts where it ends.
-/

namespace LocalCloud.Certificate

open Asn1 (Element encode sequenceTag setTag integerTag bitStringTag identifierTag utcTimeTag)
open Asn1.Reader

section Parts

/-- A common name as a UTF-8 string. -/
def nameElement (commonName : String) : Element where
  tag := 0x0C
  contents := Utf8.encode commonName
  raw := encode 0x0C (Utf8.encode commonName)

def rsaAlgorithm : Bytes :=
  encode sequenceTag (encode identifierTag RsaKey.rsaIdentifier)

def noBits : Bytes :=
  encode bitStringTag [0]

/-- From the beginning of 1970 to the end of 2049. -/
def longValidity : Bytes :=
  encode sequenceTag (encode utcTimeTag (Utf8.encode "700101000000Z")
    ++ encode utcTimeTag (Utf8.encode "491231235959Z"))

def nameParts (commonName : String) : Bytes :=
  encode identifierTag commonNameIdentifier ++ (nameElement commonName).raw

def nameEntry (commonName : String) : Bytes :=
  encode sequenceTag (nameParts commonName)

/-- A name that is a common name and nothing else. -/
def subject (commonName : String) : Bytes :=
  encode sequenceTag (encode setTag (nameEntry commonName))

def emptyKeyInfo : Bytes :=
  encode sequenceTag (rsaAlgorithm ++ noBits)

def signedParts (commonName : String) : Bytes :=
  encode integerTag [1] ++ (rsaAlgorithm ++ (encode sequenceTag [] ++
    (longValidity ++ (subject commonName ++ emptyKeyInfo))))

/-- A certificate in DER with little more in it than the name of its subject. -/
def minimal (commonName : String) : Bytes :=
  encode sequenceTag (encode sequenceTag (signedParts commonName) ++ (rsaAlgorithm ++ noBits))

end Parts

section Fixed

theorem run_algorithm (rest : Bytes) : algorithm.run (rsaAlgorithm ++ rest) = some ((), rest) :=
  inside_encode (by decide) (by decide) (by decide +kernel) rest

theorem run_bits (rest : Bytes) : bits.run (noBits ++ rest) = some ((), rest) := by
  have hread := tagged_encode bitStringTag [0] rest (by decide) (by decide)
  rw [bits, StateT.run_bind, noBits, hread]
  rfl

theorem run_validity (rest : Bytes) : validity.run (longValidity ++ rest) = some ((), rest) :=
  inside_encode (by decide) (by decide) (by decide +kernel) rest

theorem run_keyInfo (rest : Bytes) :
    keyInfo.run (emptyKeyInfo ++ rest) = some (emptyKeyInfo, rest) := by
  have hread := tagged_encode sequenceTag (rsaAlgorithm ++ noBits) rest (by decide) (by decide)
  have hbits := run_of_forall_append run_bits
  simp [keyInfo, emptyKeyInfo, hread, run_algorithm, hbits]

end Fixed

section Named

variable {commonName : String} (h : (Utf8.encode commonName).length < 0x10000)

include h

theorem length_nameParts_le :
    (nameParts commonName).length ≤ (Utf8.encode commonName).length + 11 := by
  have hname : (nameElement commonName).raw.length ≤ (Utf8.encode commonName).length + 6 :=
    Asn1.length_encode_le 0x0C _ (by omega)
  have hidentifier : (encode identifierTag commonNameIdentifier).length = 5 := by decide
  rw [nameParts, List.length_append]
  omega

theorem length_nameEntry_le :
    (nameEntry commonName).length ≤ (Utf8.encode commonName).length + 17 := by
  have hparts := length_nameParts_le h
  have hentry := Asn1.length_encode_le sequenceTag (nameParts commonName) (by omega)
  rw [nameEntry]
  omega

theorem run_entry (rest : Bytes) :
    entry.run (nameEntry commonName ++ rest) =
      some ((commonNameIdentifier, nameElement commonName), rest) := by
  have hlength := length_nameParts_le h
  have hvalue : element.run (nameElement commonName).raw = some (nameElement commonName, []) := by
    apply run_of_forall_append
    intro rest
    exact Asn1.take?_encode 0x0C (Utf8.encode commonName) rest (by decide) (by omega)
  have hidentifier := tagged_encode identifierTag commonNameIdentifier
    (nameElement commonName).raw (by decide) (by decide)
  apply inside_encode (by decide) (by omega)
  simp [identifier, nameParts, hidentifier, hvalue]

theorem run_subject (rest : Bytes) :
    nameValues.run (subject commonName ++ rest) = some ([nameElement commonName], rest) := by
  have hlength := length_nameEntry_le h
  have hsetLength := Asn1.length_encode_le setTag (nameEntry commonName) (by omega)
  have hentry := run_of_forall_append (run_entry h)
  have hentries : (many1 entry).run' (nameEntry commonName) =
      some [(commonNameIdentifier, nameElement commonName)] := by
    have hend : (many entry).run [] = some ([], []) := rfl
    simp [many1, hentry, hend]
  have hset : (inside setTag (many1 entry)).run (encode setTag (nameEntry commonName)) =
      some ([(commonNameIdentifier, nameElement commonName)], []) := by
    apply run_of_forall_append
    exact inside_encode (by decide) (by omega) hentries
  have hmany := many_encode hset rfl
  apply inside_encode (by decide) (by omega)
  simp [hmany]

theorem length_signedParts_le :
    (signedParts commonName).length ≤ (Utf8.encode commonName).length + 97 := by
  have hentry := length_nameEntry_le h
  have hset := Asn1.length_encode_le setTag (nameEntry commonName) (by omega)
  have hsubject := Asn1.length_encode_le sequenceTag (encode setTag (nameEntry commonName))
    (by omega)
  have hothers : (encode integerTag [1]).length + rsaAlgorithm.length
      + (encode sequenceTag []).length + longValidity.length + emptyKeyInfo.length = 68 := by
    decide +kernel
  simp only [signedParts, subject, List.length_append]
  omega

theorem run_signedPart (rest : Bytes) :
    signedPart.run (encode sequenceTag (signedParts commonName) ++ rest) =
      some (⟨[nameElement commonName], emptyKeyInfo⟩, rest) := by
  have hlength := length_signedParts_le h
  -- the serial number stands where a version would stand
  have hversion (rest : Bytes) : version.run (encode integerTag [1] ++ rest) =
      some ((), encode integerTag [1] ++ rest) := rfl
  have hserial (rest : Bytes) := tagged_encode integerTag [1] rest (by decide) (by decide)
  have hissuer (rest : Bytes) : nameValues.run (encode sequenceTag [] ++ rest) = some ([], rest) :=
    inside_encode (by decide) (by decide) rfl rest
  have hkeyInfo := run_of_forall_append run_keyInfo
  have hidentifier (tag : UInt8) : (uniqueIdentifier tag).run [] = some ((), []) := rfl
  have hextensions : extensions.run [] = some ((), []) := rfl
  apply inside_encode (by decide) (by omega)
  simp [signedParts, hversion, hserial, run_algorithm, hissuer, run_validity, run_subject h,
    hkeyInfo, hidentifier, hextensions]

/-- The name and the key of a minimal certificate are read as they were written. -/
theorem ofDer?_minimal :
    ofDer? (minimal commonName) = some ⟨[nameElement commonName], emptyKeyInfo⟩ := by
  have hparts := length_signedParts_le h
  have hsigned := Asn1.length_encode_le sequenceTag (signedParts commonName) (by omega)
  have hlength : (encode sequenceTag (signedParts commonName) ++ (rsaAlgorithm ++ noBits)).length
      < 2 ^ 32 := by
    have hend : rsaAlgorithm.length + noBits.length = 16 := by decide
    simp only [List.length_append]
    omega
  have hbits := run_of_forall_append run_bits
  have hread : certificate.run (minimal commonName) =
      some (⟨[nameElement commonName], emptyKeyInfo⟩, []) := by
    apply run_of_forall_append
    apply inside_encode (by decide) hlength
    simp [run_signedPart h, run_algorithm, hbits]
  rw [ofDer?, StateT.run'_eq, hread]
  rfl

end Named

/-- Certificates are read from the PEM text that is written around them. -/
theorem ofPem_pemOfDer {der : Bytes} {certificate : Certificate}
    (h : ofDer? der = some certificate) : ofPem (pemOfDer der) = .ok certificate := by
  rw [ofPem, pemOfDer, Pem.readLines?_render (by decide) (by decide)]
  simp [Error.ofOption, h, bind, Except.bind]

theorem nameText?_nameElement (commonName : String) :
    nameText? (nameElement commonName) = some commonName :=
  Utf8.decode?_encode commonName

end LocalCloud.Certificate
