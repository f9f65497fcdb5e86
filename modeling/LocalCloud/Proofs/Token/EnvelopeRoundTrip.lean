import LocalCloud.Proofs.Codec.Base64
import LocalCloud.Proofs.Crypto.Aes
import LocalCloud.Proofs.Crypto.Modes
import LocalCloud.Proofs.Crypto.Rsa
import LocalCloud.Proofs.Json.Reading
import LocalCloud.Proofs.Text.Segments
import LocalCloud.Proofs.Text.Trimming
import LocalCloud.Proofs.Token.Envelope

/-!
# Envelopes are opened by the key they were sealed for

Opening an envelope takes back what sealing it did in the same order: the token
is cut into its five segments, the header names the encryption again, the
content key is unwrapped, and the contents are decrypted under a tag that is
computed twice from the same bytes.
-/

namespace LocalCloud

theorem EnvelopeHeader.isIntegral_toJson (header : EnvelopeHeader) :
    header.toJson.IsIntegral := by
  obtain ⟨algorithm, encryption, contentType⟩ := header
  cases contentType <;> exact ⟨trivial, trivial, by trivial⟩

theorem EnvelopeHeader.decode_toNode (header : EnvelopeHeader) :
    EnvelopeHeader.decode header.toJson.toNode = some header := by
  obtain ⟨algorithm, encryption, contentType⟩ := header
  cases contentType <;> rfl

theorem EnvelopeHeader.decodeBytes?_bytes (header : EnvelopeHeader) :
    Json.decodeBytes? EnvelopeHeader.decode header.toJson.bytes = some header := by
  rw [Json.decodeBytes?, Json.Node.ofBytes?_bytes _ header.isIntegral_toJson]
  exact header.decode_toNode

theorem ContentEncryption.ofName?_name (encryption : ContentEncryption) :
    ofName? encryption.name = some encryption := by
  cases encryption <;> decide

namespace Envelope

open Crypto.Rsa (PrivateKey)

section Contents

variable {encryption : ContentEncryption} {hash : Crypto.Hash} {key iv : Bytes}

theorem openCbc_sealed (hne : key.drop (key.length / 2) ≠ [])
    (hwhole : (key.drop (key.length / 2)).length % 4 = 0) (hiv : iv.length = 16)
    (associated text : Bytes) :
    let sealed :=
      Crypto.Cbc.encrypt (Crypto.Aes.encryptBlock (key.drop (key.length / 2))) iv text
    openCbc hash key associated iv sealed
      (cbcTag hash (key.take (key.length / 2)) associated iv sealed) = .ok text := by
  intro sealed
  have hdecrypt : Crypto.Cbc.decrypt? (Crypto.Aes.decryptBlock (key.drop (key.length / 2))) iv
      sealed = some text := by
    apply Crypto.Cbc.decrypt?_encrypt
    · exact Crypto.Aes.length_encryptBlock hne hwhole
    · intro block hblock
      exact Crypto.Aes.decryptBlock_encryptBlock hne hwhole hblock
    · exact hiv
  rw [openCbc, if_pos rfl, hdecrypt]
  rfl

theorem openGcm_sealed (hne : key ≠ []) (hwhole : key.length % 4 = 0) (iv associated text : Bytes) :
    openGcm key associated iv
      (Crypto.Gcm.encrypt (Crypto.Aes.encryptBlock key) iv associated text).1
      (Crypto.Gcm.encrypt (Crypto.Aes.encryptBlock key) iv associated text).2 = .ok text := by
  have hlength := Crypto.Aes.length_encryptBlock hne hwhole
  rw [openGcm, Crypto.Gcm.decrypt?_encrypt hlength]
  rfl

/-- The contents come back from the cipher text and the tag, for a key and an
initialisation vector of the lengths that the encryption asks for. -/
theorem openContents_sealContents (hkey : key.length = encryption.keyLength)
    (hiv : iv.length = encryption.ivLength) (associated text : Bytes) :
    openContents encryption key associated iv
      (sealContents encryption key associated iv text).1
      (sealContents encryption key associated iv text).2 = .ok text := by
  have hne : key ≠ [] := by
    apply List.ne_nil_of_length_pos
    rw [hkey]
    cases encryption <;> decide
  have hcbc (h : key.length % 8 = 0) : key.drop (key.length / 2) ≠ [] ∧
      (key.drop (key.length / 2)).length % 4 = 0 := by
    have hpositive := List.length_pos_iff.2 hne
    refine ⟨List.ne_nil_of_length_pos ?_, ?_⟩ <;> rw [List.length_drop] <;> omega
  cases encryption with
  | a128CbcHs256 =>
      have hhalf := hcbc (by rw [hkey]; rfl)
      exact openCbc_sealed hhalf.1 hhalf.2 hiv associated text
  | a256CbcHs512 =>
      have hhalf := hcbc (by rw [hkey]; rfl)
      exact openCbc_sealed hhalf.1 hhalf.2 hiv associated text
  | a128Gcm => exact openGcm_sealed hne (by rw [hkey]; rfl) iv associated text
  | a256Gcm => exact openGcm_sealed hne (by rw [hkey]; rfl) iv associated text

end Contents

section Compact

/-- The text of an envelope of byte strings. -/
def compact (parts : List Bytes) : String :=
  String.intercalate "." (parts.map Base64.encodeUrl)

theorem splitString_compact {parts : List Bytes} (hne : parts ≠ []) :
    Text.splitString '.' (compact parts) = parts.map Base64.encodeUrl := by
  apply Text.splitString_intercalate
  · exact mt List.map_eq_nil_iff.1 hne
  · intro part hpart hdot
    obtain ⟨bytes, -, rfl⟩ := List.mem_map.1 hpart
    exact (Base64.isSegmentChar_of_mem_encodeUrl hdot).1 rfl

/-- What holds of dots and of digits holds of every character of an envelope. -/
theorem forall_mem_compact {p : Char → Prop} (hdot : p '.')
    (hdigit : ∀ value < 64, p (Base64.Alphabet.urlSafe.digit value)) (parts : List Bytes) :
    ∀ c ∈ (compact parts).toList, p c := by
  intro c hc
  rw [compact, String.toList_intercalate] at hc
  rcases Text.mem_of_mem_intercalate hc with rfl | ⟨part, hpart, hc⟩
  · exact hdot
  · simp only [List.mem_map] at hpart
    obtain ⟨_, ⟨bytes, -, rfl⟩, rfl⟩ := hpart
    rw [Base64.encodeUrl, String.toList_ofList] at hc
    obtain ⟨value, hvalue, rfl⟩ := Base64.mem_digits hc
    exact hdigit value hvalue

theorem isBlank_compact {parts : List Bytes} :
    ∀ c ∈ (compact parts).toList, Text.isBlank c = false := by
  apply forall_mem_compact
  · decide
  · intro value hvalue
    exact (Base64.isSegmentChar_digit hvalue).2

/-- White space around an envelope is not looked at. -/
theorem splitString_trim_compact {parts : List Bytes} (hne : parts ≠ []) {before after : String}
    (hbefore : Text.isAllBlank before = true) (hafter : Text.isAllBlank after = true) :
    Text.splitString '.' (Text.trim (before ++ compact parts ++ after)) =
      parts.map Base64.encodeUrl := by
  rw [Text.trim_append hbefore isBlank_compact hafter, splitString_compact hne]

end Compact

section Token

variable {reading : Reading} {key : PrivateKey} {header wrapped : Bytes}

/-- The token that is read as a reading, given the bytes of its first two
segments. -/
def Reading.token (reading : Reading) (header wrapped : Bytes) : String :=
  compact [header, wrapped, reading.iv, reading.sealed, reading.tag]

/-- All of a reading but cipher text and tag fits a header and a wrapped key. -/
structure Reading.Fits (reading : Reading) (key : PrivateKey) (header wrapped : Bytes) : Prop where
  encryption : NamesEncryption (Base64.encodeUrl header) reading.encryption
  contentKey : Crypto.Rsa.decrypt? key wrapped = some reading.contentKey
  length_contentKey : reading.contentKey.length = reading.encryption.keyLength
  associated : reading.associated = Utf8.encode (Base64.encodeUrl header)
  length_iv : reading.iv.length = reading.encryption.ivLength

/-- A token is read as what it was made from, also among white space. -/
theorem Reading.Fits.readsAs_among_blanks (h : reading.Fits key header wrapped)
    {before after : String}
    (hbefore : Text.isAllBlank before = true) (hafter : Text.isAllBlank after = true) :
    ReadsAs key (before ++ reading.token header wrapped ++ after) reading := by
  apply ReadsAs.intro
  · exact splitString_trim_compact (List.cons_ne_nil _ _) hbefore hafter
  · exact h.encryption
  · exact ⟨wrapped, Base64.decodeUrl?_encodeUrl wrapped, h.contentKey, h.length_contentKey⟩
  · exact h.associated
  · exact Base64.decodeUrl?_encodeUrl reading.iv
  · exact h.length_iv
  · exact Base64.decodeUrl?_encodeUrl reading.sealed
  · exact Base64.decodeUrl?_encodeUrl reading.tag

theorem Reading.Fits.readsAs_token (h : reading.Fits key header wrapped) :
    ReadsAs key (reading.token header wrapped) reading := by
  have hblank : Text.isAllBlank "" = true := rfl
  have hreads := h.readsAs_among_blanks hblank hblank
  rw [String.empty_append, String.append_empty] at hreads
  exact hreads

end Token

section RoundTrip

variable {encryption : ContentEncryption} {contentType : Option String} {key : PrivateKey}
  {wrapped text : Bytes} {random : Randomness} {token : String}

/-- The header bytes of an envelope. -/
def headerBytes (encryption : ContentEncryption) (contentType : Option String) : Bytes :=
  (EnvelopeHeader.toJson ⟨keyManagement, encryption.name, contentType⟩).bytes

theorem namesEncryption_headerBytes (encryption : ContentEncryption)
    (contentType : Option String) :
    NamesEncryption (Base64.encodeUrl (headerBytes encryption contentType)) encryption :=
  ⟨_, _, Base64.decodeUrl?_encodeUrl _, EnvelopeHeader.decodeBytes?_bytes _, rfl,
    encryption.ofName?_name⟩

/-- What the recipient of a sealed text reads. -/
def Reading.ofSealed (encryption : ContentEncryption) (header : Bytes) (random : Randomness)
    (text : Bytes) : Reading :=
  let associated := Utf8.encode (Base64.encodeUrl header)
  let contents := sealContents encryption random.contentKey associated random.iv text
  ⟨encryption, random.contentKey, associated, random.iv, contents.1, contents.2⟩

/-- Random bytes as many as an encryption and the wrapping of its key draw. -/
structure Randomness.Suits (random : Randomness) (encryption : ContentEncryption) : Prop where
  contentKey : random.contentKey.length = encryption.keyLength
  iv : random.iv.length = encryption.ivLength
  seed : random.seed.length = 32

theorem encrypt_eq_ok_iff :
    encrypt text key.publicKey encryption contentType random = .ok token ↔
      ∃ wrapped,
        Crypto.Rsa.encrypt? key.publicKey random.seed random.contentKey = some wrapped ∧
        token = (Reading.ofSealed encryption (headerBytes encryption contentType) random text).token
          (headerBytes encryption contentType) wrapped := by
  simp only [encrypt, Error.bind_eq_ok_iff, Error.ofOption_eq_ok_iff, pure, Except.pure,
    Except.ok.injEq]
  constructor
  · rintro ⟨wrapped, hwrapped, rfl⟩
    exact ⟨wrapped, hwrapped, rfl⟩
  · rintro ⟨wrapped, hwrapped, rfl⟩
    exact ⟨wrapped, hwrapped, rfl⟩

/-- Sealing succeeds under every key that is large enough for the content key. -/
theorem exists_encrypt_eq_ok (h : random.contentKey.length + 66 ≤ key.publicKey.size)
    (text : Bytes) (encryption : ContentEncryption) (contentType : Option String) :
    ∃ token, encrypt text key.publicKey encryption contentType random = .ok token := by
  obtain ⟨wrapped, hwrapped⟩ := Crypto.Rsa.exists_encrypt?_eq_some h random.seed
  exact ⟨_, encrypt_eq_ok_iff.2 ⟨wrapped, hwrapped, rfl⟩⟩

theorem Reading.open_ofSealed (hrandom : random.Suits encryption) (header text : Bytes) :
    (ofSealed encryption header random text).open = .ok text :=
  openContents_sealContents hrandom.contentKey hrandom.iv _ _

theorem Reading.fits_ofSealed {header : Bytes}
    (hheader : NamesEncryption (Base64.encodeUrl header) encryption) (hkey : key.IsPair)
    (hrandom : random.Suits encryption)
    (hwrapped : Crypto.Rsa.encrypt? key.publicKey random.seed random.contentKey = some wrapped)
    (text : Bytes) : (ofSealed encryption header random text).Fits key header wrapped where
  encryption := hheader
  contentKey := hkey.decrypt?_of_encrypt? hrandom.seed hwrapped
  length_contentKey := hrandom.contentKey
  associated := rfl
  length_iv := hrandom.iv

/-- A token carries a text to the holder of a private key. -/
structure Delivers (key : PrivateKey) (encryption : ContentEncryption)
    (contentType : Option String) (text : Bytes) (token : String) : Prop where
  /-- There are five segments, and the header states how the text was sealed. -/
  segments : ∃ bytes wrapped iv sealed tag,
    Text.splitString '.' token = [Base64.encodeUrl bytes, wrapped, iv, sealed, tag] ∧
      Json.decodeBytes? EnvelopeHeader.decode bytes =
        some ⟨keyManagement, encryption.name, contentType⟩
  opened : decrypt token key = .ok text
  /-- White space around the token makes no difference. -/
  openedAmongBlanks : ∀ before after,
    Text.isAllBlank before = true → Text.isAllBlank after = true →
      decrypt (before ++ token ++ after) key = .ok text

theorem exists_token_of_encrypt (hkey : key.IsPair) (hrandom : random.Suits encryption)
    (hencrypt : encrypt text key.publicKey encryption contentType random = .ok token) :
    ∃ (reading : Reading) (wrapped : Bytes), reading.encryption = encryption ∧
      token = reading.token (headerBytes encryption contentType) wrapped ∧
      reading.Fits key (headerBytes encryption contentType) wrapped ∧ reading.open = .ok text := by
  obtain ⟨wrapped, hwrapped, rfl⟩ := encrypt_eq_ok_iff.1 hencrypt
  have hheader := namesEncryption_headerBytes encryption contentType
  exact ⟨_, wrapped, rfl, rfl, Reading.fits_ofSealed hheader hkey hrandom hwrapped text,
    Reading.open_ofSealed hrandom _ text⟩

/-- Whatever is sealed for a key pair is delivered. -/
theorem delivers_of_encrypt (hkey : key.IsPair) (hrandom : random.Suits encryption)
    (hencrypt : encrypt text key.publicKey encryption contentType random = .ok token) :
    Delivers key encryption contentType text token := by
  obtain ⟨reading, wrapped, -, rfl, hfits, hopen⟩ := exists_token_of_encrypt hkey hrandom hencrypt
  constructor
  · exact ⟨_, _, _, _, _, splitString_compact (List.cons_ne_nil _ _),
      EnvelopeHeader.decodeBytes?_bytes _⟩
  · exact decrypt_eq_ok_iff.2 ⟨reading, hfits.readsAs_token, hopen⟩
  · intro before after hbefore hafter
    exact decrypt_eq_ok_iff.2 ⟨reading, hfits.readsAs_among_blanks hbefore hafter, hopen⟩

/-- Random bytes of the lengths that an encryption draws, all zero. -/
def Randomness.zeros (encryption : ContentEncryption) : Randomness where
  contentKey := List.replicate encryption.keyLength 0
  iv := List.replicate encryption.ivLength 0
  seed := List.replicate 32 0

theorem Randomness.suits_zeros (encryption : ContentEncryption) :
    (zeros encryption).Suits encryption where
  contentKey := List.length_replicate
  iv := List.length_replicate
  seed := List.length_replicate

theorem exists_encrypt_proth (text : Bytes) (encryption : ContentEncryption)
    (hlength : encryption.keyLength ≤ 32) (contentType : Option String) :
    ∃ token, encrypt text PrivateKey.proth.publicKey encryption contentType (.zeros encryption) =
      .ok token := by
  apply exists_encrypt_eq_ok
  have hsize : 32 + 66 ≤ PrivateKey.proth.publicKey.size := by decide +kernel
  rw [(Randomness.suits_zeros encryption).contentKey]
  omega

theorem delivers_of_encrypt_proth :
    ∃ token, encrypt [1, 2, 3] PrivateKey.proth.publicKey .a128CbcHs256 (some "JWT")
        (.zeros .a128CbcHs256) = .ok token ∧
      Delivers PrivateKey.proth .a128CbcHs256 (some "JWT") [1, 2, 3] token := by
  obtain ⟨token, htoken⟩ :=
    exists_encrypt_proth [1, 2, 3] .a128CbcHs256 (by decide) (some "JWT")
  exact ⟨token, htoken, delivers_of_encrypt PrivateKey.isPair_proth
    (Randomness.suits_zeros .a128CbcHs256) htoken⟩

end RoundTrip

end Envelope

end LocalCloud
