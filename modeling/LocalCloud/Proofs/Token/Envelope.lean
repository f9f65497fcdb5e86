import LocalCloud.Token.Envelope
import Mathlib.Tactic.Common

/-!
# What the segments of an envelope stand for

Opening an envelope first turns its five segments into keys and byte strings and
then decrypts.  `Reading` holds what the segments stand for, `ReadsAs` lists the
conditions under which a key reads them so, and an envelope is opened exactly
when it is read and its contents decrypt.
-/

namespace LocalCloud.Envelope

open Crypto.Rsa (PrivateKey)

/-- What the segments of an envelope stand for. -/
structure Reading where
  encryption : ContentEncryption
  contentKey : Bytes
  /-- The characters of the header segment, over which the tag extends. -/
  associated : Bytes
  iv : Bytes
  sealed : Bytes
  tag : Bytes

/-- The contents behind what was read. -/
def Reading.open (reading : Reading) : Except Error Bytes :=
  openContents reading.encryption reading.contentKey reading.associated reading.iv reading.sealed
    reading.tag

/-- A segment is the base64 of the header of an envelope for an encryption. -/
def NamesEncryption (segment : String) (encryption : ContentEncryption) : Prop :=
  ∃ bytes header, Base64.decodeUrl? segment = some bytes ∧
    Json.decodeBytes? EnvelopeHeader.decode bytes = some header ∧
    header.algorithm = keyManagement ∧ ContentEncryption.ofName? header.encryption = some encryption

/-- A private key unwraps the content key of an encryption from a segment. -/
def Unwraps (key : PrivateKey) (encryption : ContentEncryption) (segment : String)
    (contentKey : Bytes) : Prop :=
  ∃ wrapped, Base64.decodeUrl? segment = some wrapped ∧
    Crypto.Rsa.decrypt? key wrapped = some contentKey ∧
    contentKey.length = encryption.keyLength

/-- A private key reads a token. -/
inductive ReadsAs (key : PrivateKey) (token : String) (reading : Reading) : Prop where
  | intro {header wrapped iv sealed tag : String}
      (hparts : Text.splitString '.' (Text.trim token) = [header, wrapped, iv, sealed, tag])
      (hheader : NamesEncryption header reading.encryption)
      (hwrapped : Unwraps key reading.encryption wrapped reading.contentKey)
      (hassociated : reading.associated = Utf8.encode header)
      (hiv : Base64.decodeUrl? iv = some reading.iv)
      (hlength : reading.iv.length = reading.encryption.ivLength)
      (hsealed : Base64.decodeUrl? sealed = some reading.sealed)
      (htag : Base64.decodeUrl? tag = some reading.tag)

section Steps

variable {what text : String} {key : PrivateKey} {encryption : ContentEncryption}
  {bytes contentKey wrapped : Bytes}

theorem segment_eq_ok_iff : segment what text = .ok bytes ↔ Base64.decodeUrl? text = some bytes :=
  Error.ofOption_eq_ok_iff

theorem readHeader_eq_ok_iff :
    readHeader text = .ok encryption ↔ NamesEncryption text encryption := by
  simp only [readHeader, Error.bind_eq_ok_iff, Error.ofOption_eq_ok_iff, segment_eq_ok_iff,
    Error.ite_throw_eq_ok_iff, not_not]
  constructor
  · rintro ⟨bytes, hbytes, header, hheader, halgorithm, hname⟩
    exact ⟨bytes, header, hbytes, hheader, halgorithm, hname⟩
  · rintro ⟨bytes, header, hbytes, hheader, halgorithm, hname⟩
    exact ⟨bytes, hbytes, header, hheader, halgorithm, hname⟩

theorem unwrapKey_eq_ok_iff :
    unwrapKey encryption key wrapped = .ok contentKey ↔
      Crypto.Rsa.decrypt? key wrapped = some contentKey ∧
        contentKey.length = encryption.keyLength := by
  simp only [unwrapKey, Error.bind_eq_ok_iff, Error.ofOption_eq_ok_iff, Error.ite_throw_eq_ok_iff,
    not_not, pure, Except.pure, Except.ok.injEq]
  constructor
  · rintro ⟨found, hfound, hlength, rfl⟩
    exact ⟨hfound, hlength⟩
  · rintro ⟨hfound, hlength⟩
    exact ⟨contentKey, hfound, hlength, rfl⟩

theorem openSegments_eq_ok_iff {header wrapped iv sealed tag : String} {text : Bytes} :
    openSegments key header wrapped iv sealed tag = .ok text ↔
      ∃ encryption contentKey ivBytes sealedBytes tagBytes,
        NamesEncryption header encryption ∧ Unwraps key encryption wrapped contentKey ∧
        Base64.decodeUrl? iv = some ivBytes ∧ ivBytes.length = encryption.ivLength ∧
        Base64.decodeUrl? sealed = some sealedBytes ∧ Base64.decodeUrl? tag = some tagBytes ∧
        openContents encryption contentKey (Utf8.encode header) ivBytes sealedBytes tagBytes =
          .ok text := by
  simp only [openSegments, Error.bind_eq_ok_iff, segment_eq_ok_iff, readHeader_eq_ok_iff,
    unwrapKey_eq_ok_iff, Error.ite_throw_eq_ok_iff, not_not]
  constructor
  · rintro ⟨encryption, hheader, wrappedBytes, hbytes, contentKey, ⟨hkey, hkeyLength⟩, ivBytes, hiv,
      hlength, sealedBytes, hsealed, tagBytes, htag, htext⟩
    exact ⟨encryption, contentKey, ivBytes, sealedBytes, tagBytes, hheader,
      ⟨wrappedBytes, hbytes, hkey, hkeyLength⟩, hiv, hlength, hsealed, htag, htext⟩
  · rintro ⟨encryption, contentKey, ivBytes, sealedBytes, tagBytes, hheader,
      ⟨wrappedBytes, hbytes, hkey, hkeyLength⟩, hiv, hlength, hsealed, htag, htext⟩
    exact ⟨encryption, hheader, wrappedBytes, hbytes, contentKey, ⟨hkey, hkeyLength⟩, ivBytes, hiv,
      hlength, sealedBytes, hsealed, tagBytes, htag, htext⟩

end Steps

/-- A token is made of five segments. -/
inductive HasFiveParts (token : String) : Prop where
  | intro {header wrapped iv sealed tag : String}
      (hparts : Text.splitString '.' (Text.trim token) = [header, wrapped, iv, sealed, tag])

section Parts

variable {token header wrapped iv sealed tag : String}

theorem decrypt_of_parts
    (hparts : Text.splitString '.' (Text.trim token) = [header, wrapped, iv, sealed, tag])
    (key : PrivateKey) :
    decrypt token key = openSegments key header wrapped iv sealed tag := by
  rw [decrypt, hparts]

theorem decrypt_of_not_hasFiveParts (h : ¬ HasFiveParts token) (key : PrivateKey) :
    decrypt token key = .error (.malformedToken ("expected 5 JWE segments, found " ++
      toString (Text.splitString '.' (Text.trim token)).length)) := by
  unfold decrypt
  dsimp only
  split
  · rename_i hparts
    exact absurd ⟨hparts⟩ h
  · rfl

end Parts

section Opening

variable {token : String} {key : PrivateKey} {reading : Reading} {text : Bytes}

/-- What is read is opened. -/
theorem ReadsAs.decrypt_eq (h : ReadsAs key token reading) :
    decrypt token key = reading.open := by
  obtain ⟨hparts, hheader, ⟨wrapped, hbytes, hkey⟩, hassociated, hiv, hlength, hsealed, htag⟩ := h
  rw [decrypt_of_parts hparts, openSegments, readHeader_eq_ok_iff.2 hheader, Error.ok_bind,
    segment_eq_ok_iff.2 hbytes, Error.ok_bind, unwrapKey_eq_ok_iff.2 hkey, Error.ok_bind,
    segment_eq_ok_iff.2 hiv, Error.ok_bind, if_neg (not_not.2 hlength),
    segment_eq_ok_iff.2 hsealed, Error.ok_bind, segment_eq_ok_iff.2 htag, Error.ok_bind,
    Reading.open, hassociated]

/-- An envelope is opened exactly when it is read and its contents decrypt. -/
theorem decrypt_eq_ok_iff :
    decrypt token key = .ok text ↔
      ∃ reading, ReadsAs key token reading ∧ reading.open = .ok text := by
  constructor
  · intro hdecrypt
    by_cases hfive : HasFiveParts token
    · obtain ⟨hparts⟩ := hfive
      rw [decrypt_of_parts hparts] at hdecrypt
      obtain ⟨encryption, contentKey, iv, sealed, tag, hheader, hwrapped, hiv, hlength, hsealed,
        htag, htext⟩ := openSegments_eq_ok_iff.1 hdecrypt
      exact ⟨⟨encryption, contentKey, _, iv, sealed, tag⟩,
        ⟨hparts, hheader, hwrapped, rfl, hiv, hlength, hsealed, htag⟩, htext⟩
    · rw [decrypt_of_not_hasFiveParts hfive] at hdecrypt
      cases hdecrypt
  · rintro ⟨reading, hreads, hopen⟩
    rw [hreads.decrypt_eq, hopen]

end Opening

end LocalCloud.Envelope
