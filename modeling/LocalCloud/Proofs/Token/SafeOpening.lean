import LocalCloud.Proofs.Token.EnvelopeTag

/-!
# Opening is safe

Ciphers, hashes and slices make demands on the lengths they are given: some refuse what
does not fit, others panic.  `Guarded` opens envelopes with all these demands in place.
The length of the content key and that of the initialisation vector are checked before
anything is deciphered, and they meet the demands of every encryption, so the guarded
opening ends as the opening itself does.  That leaves two kinds of failure, and which of
them a token meets with is settled by the first segment that is at fault.
-/

namespace LocalCloud

open Crypto.Rsa (PrivateKey)

/-- How a computation ends that can fail and can panic. -/
inductive Outcome (α : Type) where
  | value (result : α)
  | failure (error : Error)
  | panic

namespace Outcome

variable {α β : Type}

instance : Monad Outcome where
  pure := .value
  bind
    | .value result, next => next result
    | .failure error, _ => .failure error
    | .panic, _ => .panic

/-- The outcome of what cannot panic. -/
def ofExcept : Except Error α → Outcome α
  | .ok result => .value result
  | .error error => .failure error

instance : MonadLift (Except Error) Outcome := ⟨ofExcept⟩

theorem value_bind (result : α) (next : α → Outcome β) :
    (Outcome.value result >>= next) = next result :=
  rfl

theorem ofExcept_ne_panic {result : Except Error α} : ofExcept result ≠ .panic := by
  cases result <;> exact nofun

theorem eq_error_of_ofExcept {result : Except Error α} {error : Error}
    (h : ofExcept result = .failure error) : result = .error error := by
  cases result with
  | ok value => cases h
  | error found =>
      cases h
      rfl

/-- A step that cannot panic is followed by what it leaves to be done. -/
theorem ofExcept_bind {step : Except Error α} {next : α → Outcome β} {rest : α → Except Error β}
    (h : ∀ result, step = .ok result → next result = ofExcept (rest result)) :
    (ofExcept step >>= next) = ofExcept (step >>= rest) := by
  cases step with
  | error error => rfl
  | ok result => exact h result rfl

end Outcome

namespace Envelope

namespace Guarded

variable {α : Type}

/-- The first bytes of a byte string, which has to be long enough. -/
def slice (bytes : Bytes) (count : Nat) : Outcome Bytes :=
  if count ≤ bytes.length then .value (bytes.take count) else .panic

/-- The parts of a byte string before and behind an index, which has to lie in it. -/
def splitAt (bytes : Bytes) (index : Nat) : Outcome (Bytes × Bytes) :=
  if index ≤ bytes.length then .value (bytes.take index, bytes.drop index) else .panic

/-- A byte string that has to be of one size. -/
def sized (bytes : Bytes) (size : Nat) : Outcome Bytes :=
  if bytes.length = size then .value bytes else .panic

/-- What is made of a key, and of nothing else than a key of an accepted length. -/
def keyed (accepts : Nat → Bool) (key : Bytes) (made : α) : Outcome α :=
  if accepts key.length then .value made else .failure (.crypto "Invalid Length")

/-- An HMAC takes keys of any length. -/
def hmac (hash : Crypto.Hash) (key : Bytes) : Outcome (Bytes → Bytes) :=
  keyed (fun _ => true) key (Crypto.hmac hash key)

/-- CBC with AES takes a key of one length and a whole block to start with. -/
def cbcDecryptor (keySize : Nat) (key iv : Bytes) : Outcome (Bytes → Option Bytes) :=
  if key.length = keySize ∧ iv.length = Crypto.Cbc.blockSize then
    .value (Crypto.Cbc.decrypt? (Crypto.Aes.decryptBlock key) iv)
  else .failure (.crypto "Invalid Length")

/-- The tag of a CBC encryption, which other encryptions do not have. -/
def cbcTag (encryption : ContentEncryption) (macKey associated iv sealed : Bytes) :
    Outcome Bytes :=
  match encryption.hash? with
  | none => .failure (.crypto (encryption.name ++ " is not a CBC-HMAC algorithm"))
  | some hash => do
    let mac ← hmac hash macKey
    slice (mac (associated ++ iv ++ sealed ++ Bytes.ofNat 8 (8 * associated.length)))
      macKey.length

/-- Bytes of the key of the cipher in a CBC encryption. -/
def cbcKeySize : ContentEncryption → Nat
  | .a128CbcHs256 => 16
  | _ => 32

def openCbc (encryption : ContentEncryption) (key associated iv sealed tag : Bytes) :
    Outcome Bytes := do
  let (macKey, cipherKey) ← splitAt key (key.length / 2)
  let expected ← cbcTag encryption macKey associated iv sealed
  if expected = tag then
    let decrypt? ← cbcDecryptor (cbcKeySize encryption) cipherKey iv
    Error.ofOption (.invalidToken "bad padding") (decrypt? sealed)
  else .failure tagMismatch

def openGcm (keySize : Nat) (key associated iv sealed tag : Bytes) : Outcome Bytes := do
  let cipher ← keyed (· == keySize) key (Crypto.Aes.encryptBlock key)
  let nonce ← sized iv 12
  Error.ofOption tagMismatch (Crypto.Gcm.decrypt? cipher nonce associated (sealed ++ tag))

def openContents (encryption : ContentEncryption) (key associated iv sealed tag : Bytes) :
    Outcome Bytes :=
  match encryption with
  | .a128CbcHs256 | .a256CbcHs512 => openCbc encryption key associated iv sealed tag
  | .a128Gcm => openGcm 16 key associated iv sealed tag
  | .a256Gcm => openGcm 32 key associated iv sealed tag

def openSegments (key : PrivateKey) (header wrapped iv sealed tag : String) : Outcome Bytes := do
  let encryption ← readHeader header
  let contentKey ← unwrapKey encryption key (← segment "encrypted key" wrapped)
  let iv ← segment "iv" iv
  if iv.length ≠ encryption.ivLength then
    .failure (.malformedToken ("iv is " ++ toString iv.length ++ " bytes"))
  else
    let sealed ← segment "ciphertext" sealed
    let tag ← segment "tag" tag
    openContents encryption contentKey (Utf8.encode header) iv sealed tag

/-- Opens an envelope with every demand of its ciphers, hashes and slices in place. -/
def decrypt (token : String) (key : PrivateKey) : Outcome Bytes :=
  let parts := Text.splitString '.' (Text.trim token)
  match parts with
  | [header, wrapped, iv, sealed, tag] => openSegments key header wrapped iv sealed tag
  | _ =>
    .failure (.malformedToken ("expected 5 JWE segments, found " ++ toString parts.length))

section Demands

variable {encryption : ContentEncryption} {hash : Crypto.Hash} {key iv : Bytes}

theorem splitAt_half (key : Bytes) :
    splitAt key (key.length / 2) =
      .value (key.take (key.length / 2), key.drop (key.length / 2)) :=
  if_pos (Nat.div_le_self _ _)

/-- A hash is at least as long as the key of its HMAC. -/
theorem cbcTag_eq (hhash : encryption.hash? = some hash) {macKey : Bytes}
    (hkey : macKey.length ≤ hash.digestSize) (associated iv sealed : Bytes) :
    cbcTag encryption macKey associated iv sealed =
      .value (Envelope.cbcTag hash macKey associated iv sealed) := by
  obtain ⟨hsized, -, -⟩ := hash?_eq_some hhash
  unfold cbcTag
  rw [hhash]
  apply if_pos
  rw [hsized.length_hmac]
  exact hkey

theorem openCbc_eq (hhash : encryption.hash? = some hash)
    (hkey : key.length = encryption.keyLength) (hiv : iv.length = encryption.ivLength)
    (associated sealed tag : Bytes) :
    openCbc encryption key associated iv sealed tag =
      .ofExcept (Envelope.openCbc hash key associated iv sealed tag) := by
  obtain ⟨-, hhalf, hdigest⟩ := hash?_eq_some hhash
  have hmac : (key.take (key.length / 2)).length ≤ hash.digestSize := by
    rw [List.length_take_of_le (Nat.div_le_self _ _), hkey, hhalf]
    exact hdigest
  have hcipher : (key.drop (key.length / 2)).length = cbcKeySize encryption ∧
      iv.length = Crypto.Cbc.blockSize := by
    rw [List.length_drop, hkey, hiv]
    cases encryption <;> cases hhash <;> exact ⟨rfl, rfl⟩
  rw [openCbc, splitAt_half, Outcome.value_bind]
  dsimp only
  rw [cbcTag_eq hhash hmac, Outcome.value_bind, Envelope.openCbc, cbcDecryptor, if_pos hcipher]
  split <;> rfl

theorem openGcm_eq {keySize : Nat} (hkey : key.length = keySize) (hiv : iv.length = 12)
    (associated sealed tag : Bytes) :
    openGcm keySize key associated iv sealed tag =
      .ofExcept (Envelope.openGcm key associated iv sealed tag) := by
  rw [openGcm, keyed, if_pos (beq_iff_eq.2 hkey), Outcome.value_bind, sized, if_pos hiv,
    Outcome.value_bind]
  rfl

/-- Whatever is opened with a key and an initialisation vector of the lengths of the
encryption, nothing is refused and nothing panics. -/
theorem openContents_eq (hkey : key.length = encryption.keyLength)
    (hiv : iv.length = encryption.ivLength) (associated sealed tag : Bytes) :
    openContents encryption key associated iv sealed tag =
      .ofExcept (Envelope.openContents encryption key associated iv sealed tag) := by
  cases encryption with
  | a128CbcHs256 => exact openCbc_eq rfl hkey hiv associated sealed tag
  | a256CbcHs512 => exact openCbc_eq rfl hkey hiv associated sealed tag
  | a128Gcm => exact openGcm_eq hkey hiv associated sealed tag
  | a256Gcm => exact openGcm_eq hkey hiv associated sealed tag

theorem openSegments_eq (key : PrivateKey) (header wrapped iv sealed tag : String) :
    openSegments key header wrapped iv sealed tag =
      .ofExcept (Envelope.openSegments key header wrapped iv sealed tag) := by
  apply Outcome.ofExcept_bind
  intro encryption _
  apply Outcome.ofExcept_bind
  intro wrappedKey _
  apply Outcome.ofExcept_bind
  intro contentKey hcontentKey
  apply Outcome.ofExcept_bind
  intro ivBytes _
  obtain ⟨-, hkey⟩ := unwrapKey_eq_ok_iff.1 hcontentKey
  split
  · rfl
  · rename_i hlength
    apply Outcome.ofExcept_bind
    intro sealedBytes _
    apply Outcome.ofExcept_bind
    intro tagBytes _
    exact openContents_eq hkey (not_not.1 hlength) _ _ _

/-- Opening with the demands in place ends as the opening itself does. -/
theorem decrypt_eq (token : String) (key : PrivateKey) :
    decrypt token key = .ofExcept (Envelope.decrypt token key) := by
  by_cases hfive : HasFiveParts token
  · obtain ⟨hparts⟩ := hfive
    rw [decrypt, decrypt_of_parts hparts, hparts]
    exact openSegments_eq key _ _ _ _ _
  · rw [decrypt_of_not_hasFiveParts hfive]
    unfold decrypt
    dsimp only
    split
    · rename_i hparts
      exact absurd ⟨hparts⟩ hfive
    · rfl

end Demands

end Guarded

/-- A token is not understood. -/
def IsMalformed (result : Except Error Bytes) : Prop :=
  ∃ detail, result = .error (.malformedToken detail)

/-- A token is understood and does not hold. -/
def IsInvalid (result : Except Error Bytes) : Prop :=
  ∃ detail, result = .error (.invalidToken detail)

/-- A segment from which no encryption can be learned. -/
inductive IsUnreadable (segment : String) : Prop where
  | text (h : ∀ bytes, segment ≠ Base64.encodeUrl bytes)
  | json {bytes : Bytes} (htext : segment = Base64.encodeUrl bytes)
      (h : Json.decodeBytes? EnvelopeHeader.decode bytes = none)
  | algorithm {bytes : Bytes} {header : EnvelopeHeader} (htext : segment = Base64.encodeUrl bytes)
      (hjson : Json.decodeBytes? EnvelopeHeader.decode bytes = some header)
      (h : header.algorithm ≠ "RSA-OAEP-256")
  | encryption {bytes : Bytes} {header : EnvelopeHeader}
      (htext : segment = Base64.encodeUrl bytes)
      (hjson : Json.decodeBytes? EnvelopeHeader.decode bytes = some header)
      (h : ∀ encryption : ContentEncryption, header.encryption ≠ encryption.name)

/-- A token is at fault in the number of its segments, in the first of them or in the
second, whatever the others hold. -/
inductive IsFaulty (token : String) : Prop where
  | count (h : (Text.splitString '.' (Text.trim token)).length ≠ 5)
  | header {header : String} {others : List String}
      (hparts : Text.splitString '.' (Text.trim token) = header :: others)
      (h : IsUnreadable header)
  | encryptedKey {header wrapped : String} {others : List String}
      (hparts : Text.splitString '.' (Text.trim token) = header :: wrapped :: others)
      (h : ∀ bytes, wrapped ≠ Base64.encodeUrl bytes)

/-- A private key does not unwrap the content key of a token, or one that is not of the
length of the encryption. -/
inductive FailsToUnwrap (key : PrivateKey) (token : String) : Prop where
  | intro {header wrapped iv sealed tag : String} {encryption : ContentEncryption} {bytes : Bytes}
      (hparts : Text.splitString '.' (Text.trim token) = [header, wrapped, iv, sealed, tag])
      (hheader : NamesEncryption header encryption) (hwrapped : wrapped = Base64.encodeUrl bytes)
      (h : ∀ contentKey, Crypto.Rsa.decrypt? key bytes = some contentKey →
        contentKey.length ≠ encryption.keyLength)

/-- The tag is not the one that belongs to what was read. -/
def Reading.FailsTag (reading : Reading) : Prop :=
  match reading.encryption.hash? with
  | some hash =>
    cbcTag hash (reading.contentKey.take (reading.contentKey.length / 2)) reading.associated
      reading.iv reading.sealed ≠ reading.tag
  | none => ∀ sealed,
    reading.sealed ++ reading.tag ≠ sealed ++
      Crypto.Gcm.tag (Crypto.Aes.encryptBlock reading.contentKey) reading.iv reading.associated
        sealed

section Failures

variable {what text : String} {key : PrivateKey} {encryption : ContentEncryption}
  {bytes contentKey : Bytes} {failure : Error}

theorem malformed_of_segment (h : segment what text = .error failure) :
    ∃ detail, failure = .malformedToken detail := by
  obtain ⟨-, rfl⟩ := Error.ofOption_eq_error_iff.1 h
  exact ⟨_, rfl⟩

theorem malformed_of_readHeader (h : readHeader text = .error failure) :
    ∃ detail, failure = .malformedToken detail := by
  simp only [readHeader, Error.bind_eq_error_iff, Error.ofOption_eq_error_iff,
    Error.ite_throw_eq_error_iff] at h
  rcases h with hsegment | ⟨_, -, ⟨-, rfl⟩ | ⟨_, -, ⟨-, rfl⟩ | ⟨-, -, rfl⟩⟩⟩
  · exact malformed_of_segment hsegment
  · exact ⟨_, rfl⟩
  · exact ⟨_, rfl⟩
  · exact ⟨_, rfl⟩

theorem invalid_of_unwrapKey (h : unwrapKey encryption key bytes = .error failure) :
    ∃ detail, failure = .invalidToken detail := by
  simp only [unwrapKey, Error.bind_eq_error_iff, Error.ofOption_eq_error_iff,
    Error.ite_throw_eq_error_iff] at h
  rcases h with ⟨-, rfl⟩ | ⟨_, -, ⟨-, rfl⟩ | ⟨-, hdone⟩⟩
  · exact ⟨_, rfl⟩
  · exact ⟨_, rfl⟩
  · cases hdone

theorem invalid_of_openContents {associated iv sealed tag : Bytes}
    (h : openContents encryption contentKey associated iv sealed tag = .error failure) :
    ∃ detail, failure = .invalidToken detail := by
  unfold openContents at h
  split at h
  · unfold openCbc at h
    dsimp only at h
    split at h
    · obtain ⟨-, rfl⟩ := Error.ofOption_eq_error_iff.1 h
      exact ⟨_, rfl⟩
    · cases h
      exact ⟨_, rfl⟩
  · obtain ⟨-, rfl⟩ := Error.ofOption_eq_error_iff.1 h
    exact ⟨_, rfl⟩

/-- Segments fail in order: the header and the wrapped key as malformed ones, the content
key as an invalid one, and so on. -/
theorem kind_of_openSegments {header wrapped iv sealed tag : String}
    (h : openSegments key header wrapped iv sealed tag = .error failure) :
    (∃ detail, failure = .malformedToken detail) ∨ ∃ detail, failure = .invalidToken detail := by
  simp only [openSegments, Error.bind_eq_error_iff, Error.ite_throw_eq_error_iff] at h
  rcases h with hheader | ⟨_, -, hwrapped | ⟨_, -, hkey | ⟨_, -, hiv | ⟨_, -, ⟨-, rfl⟩ |
    ⟨-, hsealed | ⟨_, -, htag | ⟨_, -, hopen⟩⟩⟩⟩⟩⟩⟩
  · exact .inl (malformed_of_readHeader hheader)
  · exact .inl (malformed_of_segment hwrapped)
  · exact .inr (invalid_of_unwrapKey hkey)
  · exact .inl (malformed_of_segment hiv)
  · exact .inl ⟨_, rfl⟩
  · exact .inl (malformed_of_segment hsealed)
  · exact .inl (malformed_of_segment htag)
  · exact .inr (invalid_of_openContents hopen)

end Failures

section Faults

variable {key : PrivateKey} {token header wrapped iv sealed tag : String}
  {encryption : ContentEncryption}

theorem decodeUrl?_eq_none (h : ∀ bytes, wrapped ≠ Base64.encodeUrl bytes) :
    Base64.decodeUrl? wrapped = none := by
  rw [Option.eq_none_iff_forall_ne_some]
  intro bytes hbytes
  exact h bytes (Base64.decodeUrl?_eq_some_iff.1 hbytes)

theorem IsUnreadable.not_namesEncryption (h : IsUnreadable header) :
    ¬ NamesEncryption header encryption := by
  rintro ⟨bytes, found, hbytes, hfound, halgorithm, hname⟩
  have hsame {others : Bytes} (htext : header = Base64.encodeUrl others) : others = bytes := by
    have hothers := Base64.decodeUrl?_eq_some_iff.2 htext
    exact Option.some.inj (hothers.symm.trans hbytes)
  cases h with
  | text htext => exact htext bytes (Base64.decodeUrl?_eq_some_iff.1 hbytes)
  | json htext hjson =>
      rw [hsame htext, hfound] at hjson
      cases hjson
  | algorithm htext hjson hother =>
      rw [hsame htext, hfound] at hjson
      cases hjson
      exact hother halgorithm
  | encryption htext hjson hother =>
      rw [hsame htext, hfound] at hjson
      cases hjson
      unfold ContentEncryption.ofName? at hname
      have hfound := List.find?_some hname
      exact hother encryption (beq_iff_eq.1 hfound).symm

/-- Nothing is read behind a header that names no encryption. -/
theorem isMalformed_of_header (h : ∀ encryption, ¬ NamesEncryption header encryption) :
    IsMalformed (openSegments key header wrapped iv sealed tag) := by
  cases hread : readHeader header with
  | ok encryption => exact absurd (readHeader_eq_ok_iff.1 hread) (h encryption)
  | error failure =>
      obtain ⟨detail, rfl⟩ := malformed_of_readHeader hread
      refine ⟨detail, ?_⟩
      rw [openSegments, hread]
      rfl

theorem isMalformed_of_encryptedKey (h : ∀ bytes, wrapped ≠ Base64.encodeUrl bytes) :
    IsMalformed (openSegments key header wrapped iv sealed tag) := by
  by_cases hnames : ∃ encryption, NamesEncryption header encryption
  · obtain ⟨encryption, hencryption⟩ := hnames
    rw [openSegments, readHeader_eq_ok_iff.2 hencryption, Error.ok_bind, segment,
      decodeUrl?_eq_none h]
    exact ⟨_, rfl⟩
  · exact isMalformed_of_header (not_exists.1 hnames)

theorem IsFaulty.isMalformed (h : IsFaulty token) (key : PrivateKey) :
    IsMalformed (decrypt token key) := by
  by_cases hfive : HasFiveParts token
  · obtain ⟨hfive⟩ := hfive
    rw [decrypt_of_parts hfive]
    cases h with
    | count hcount =>
        rw [hfive] at hcount
        exact absurd rfl hcount
    | header hparts hunreadable =>
        cases hfive.symm.trans hparts
        exact isMalformed_of_header fun _ => hunreadable.not_namesEncryption
    | encryptedKey hparts hwrapped =>
        cases hfive.symm.trans hparts
        exact isMalformed_of_encryptedKey hwrapped
  · exact ⟨_, decrypt_of_not_hasFiveParts hfive key⟩

theorem FailsToUnwrap.isInvalid (h : FailsToUnwrap key token) : IsInvalid (decrypt token key) := by
  obtain ⟨hparts, hheader, hwrapped, hfails⟩ := h
  rename_i encryption bytes
  cases hunwrap : unwrapKey encryption key bytes with
  | ok contentKey =>
      obtain ⟨hkey, hlength⟩ := unwrapKey_eq_ok_iff.1 hunwrap
      exact absurd hlength (hfails contentKey hkey)
  | error failure =>
      obtain ⟨detail, rfl⟩ := invalid_of_unwrapKey hunwrap
      refine ⟨detail, ?_⟩
      rw [decrypt_of_parts hparts, openSegments, readHeader_eq_ok_iff.2 hheader,
        Error.ok_bind, segment_eq_ok_iff.2 (Base64.decodeUrl?_eq_some_iff.2 hwrapped),
        Error.ok_bind, hunwrap]
      rfl

end Faults

section Tags

variable {reading : Reading}

theorem Reading.FailsTag.open_eq (h : reading.FailsTag) : reading.open = .error tagMismatch := by
  cases hhash : reading.encryption.hash? with
  | some hash =>
      rw [Reading.FailsTag, hhash] at h
      rw [Reading.open, openContents, hhash]
      exact if_neg h
  | none =>
      rw [Reading.FailsTag, hhash] at h
      have hnone : Crypto.Gcm.decrypt? (Crypto.Aes.encryptBlock reading.contentKey) reading.iv
          reading.associated (reading.sealed ++ reading.tag) = none := by
        unfold Crypto.Gcm.decrypt?
        dsimp only
        split
        · rfl
        · apply if_neg
          intro htag
          apply h
          rw [← htag, List.take_append_drop]
      rw [Reading.open_of_hash?_eq_none hhash, hnone]
      rfl

end Tags

/-- A token is opened, not understood or does not hold. -/
theorem decrypt_ends (token : String) (key : PrivateKey) :
    (∃ text, decrypt token key = .ok text) ∨ IsMalformed (decrypt token key) ∨
      IsInvalid (decrypt token key) := by
  by_cases hfive : HasFiveParts token
  · obtain ⟨hparts⟩ := hfive
    cases hopen : decrypt token key with
    | ok text => exact .inl ⟨text, rfl⟩
    | error failure =>
        rw [decrypt_of_parts hparts] at hopen
        rcases kind_of_openSegments hopen with ⟨detail, rfl⟩ | ⟨detail, rfl⟩
        · exact .inr (.inl ⟨detail, rfl⟩)
        · exact .inr (.inr ⟨detail, rfl⟩)
  · exact .inr (.inl ⟨_, decrypt_of_not_hasFiveParts hfive key⟩)

/-- How the opening of an envelope ends. -/
structure OpensSafely (key : PrivateKey) (token : String) : Prop where
  /-- With the demands of ciphers, hashes and slices in place nothing else happens. -/
  guarded : Guarded.decrypt token key = .ofExcept (decrypt token key)
  /-- No demand is left unmet. -/
  unreached : Guarded.decrypt token key ≠ .panic ∧
    ∀ detail, Guarded.decrypt token key ≠ .failure (.crypto detail)
  ends : (∃ text, decrypt token key = .ok text) ∨ IsMalformed (decrypt token key) ∨
    IsInvalid (decrypt token key)
  malformed : IsFaulty token → IsMalformed (decrypt token key)
  unwrap : FailsToUnwrap key token → IsInvalid (decrypt token key)
  tag : ∀ reading, ReadsAs key token reading → reading.FailsTag → IsInvalid (decrypt token key)

/-- Whatever a token and a key, the opening gives a text or fails as it is meant to. -/
theorem opensSafely (key : PrivateKey) (token : String) : OpensSafely key token where
  guarded := Guarded.decrypt_eq token key
  unreached := by
    rw [Guarded.decrypt_eq]
    refine ⟨Outcome.ofExcept_ne_panic, ?_⟩
    intro detail hcrypto
    have hfails := Outcome.eq_error_of_ofExcept hcrypto
    rcases decrypt_ends token key with ⟨_, hopen⟩ | ⟨_, hopen⟩ | ⟨_, hopen⟩
    all_goals cases hfails.symm.trans hopen
  ends := decrypt_ends token key
  malformed := fun h => h.isMalformed key
  unwrap := FailsToUnwrap.isInvalid
  tag := by
    intro reading hreads hfails
    rw [hreads.decrypt_eq, hfails.open_eq]
    exact ⟨_, rfl⟩

end Envelope

end LocalCloud
