import LocalCloud.Proofs.Token.EnvelopeRoundTrip

/-!
# The boundary between cipher text and tag

The two families of encryptions compare the tag in different ways.  With an HMAC
the tag segment is compared as a whole, so its length is fixed and no byte can
move between it and the cipher text.  In GCM the two segments are joined before
the tag is cut off again, so only their concatenation counts, and an envelope is
opened wherever the boundary between them lies.
-/

namespace LocalCloud.Envelope

open Crypto.Rsa (PrivateKey)

section Unique

variable {key : PrivateKey} {segment token : String} {encryption other : ContentEncryption}
  {contentKey otherKey : Bytes} {reading second : Reading}

theorem NamesEncryption.unique (h : NamesEncryption segment encryption)
    (hother : NamesEncryption segment other) : encryption = other := by
  obtain ⟨bytes, header, hbytes, hheader, -, hname⟩ := h
  obtain ⟨bytes', header', hbytes', hheader', -, hname'⟩ := hother
  obtain rfl := Option.some.inj (hbytes.symm.trans hbytes')
  obtain rfl := Option.some.inj (hheader.symm.trans hheader')
  exact Option.some.inj (hname.symm.trans hname')

theorem Unwraps.unique (h : Unwraps key encryption segment contentKey)
    (hother : Unwraps key other segment otherKey) : contentKey = otherKey := by
  obtain ⟨wrapped, hwrapped, hkey, -⟩ := h
  obtain ⟨wrapped', hwrapped', hkey', -⟩ := hother
  obtain rfl := Option.some.inj (hwrapped.symm.trans hwrapped')
  exact Option.some.inj (hkey.symm.trans hkey')

/-- A token is read in one way. -/
theorem ReadsAs.unique (h : ReadsAs key token reading) (hsecond : ReadsAs key token second) :
    reading = second := by
  obtain ⟨hparts, hheader, hwrapped, hassociated, hiv, -, hsealed, htag⟩ := h
  obtain ⟨hparts', hheader', hwrapped', hassociated', hiv', -, hsealed', htag'⟩ := hsecond
  have hsame := hparts.symm.trans hparts'
  simp only [List.cons.injEq, and_true] at hsame
  obtain ⟨rfl, rfl, rfl, rfl, rfl⟩ := hsame
  have hencryption := hheader.unique hheader'
  have hcontentKey := hwrapped.unique hwrapped'
  have hassociates := hassociated.trans hassociated'.symm
  have hivs := Option.some.inj (hiv.symm.trans hiv')
  have hsealeds := Option.some.inj (hsealed.symm.trans hsealed')
  have htags := Option.some.inj (htag.symm.trans htag')
  cases reading
  cases second
  simp only [Reading.mk.injEq]
  exact ⟨hencryption, hcontentKey, hassociates, hivs, hsealeds, htags⟩

end Unique

/-- Another reading of the same envelope in which bytes have moved across the
boundary between cipher text and tag, or none. -/
structure SameButBoundary (reading other : Reading) : Prop where
  encryption : other.encryption = reading.encryption
  contentKey : other.contentKey = reading.contentKey
  associated : other.associated = reading.associated
  iv : other.iv = reading.iv
  message : other.sealed ++ other.tag = reading.sealed ++ reading.tag

/-- How far the tag of an opened envelope is bound to its place. -/
structure BoundTag (reading : Reading) (text : Bytes) : Prop where
  /-- An HMAC fixes the length of the tag, and with it the boundary. -/
  hmac : reading.encryption.hash?.isSome = true →
    reading.tag.length = reading.encryption.tagLength ∧
      ∀ other, SameButBoundary reading other → other.sealed ≠ reading.sealed →
        other.open = .error tagMismatch
  /-- In GCM there is room for a tag in the two segments together, and the
  boundary between them is not looked at. -/
  gcm : reading.encryption.hash? = none →
    reading.encryption.tagLength ≤ (reading.sealed ++ reading.tag).length ∧
      ∀ other, SameButBoundary reading other → other.open = .ok text

section Hmac

variable {hash : Crypto.Hash} {key associated iv sealed tag text : Bytes}

theorem length_cbcTag (hsized : hash.IsSized) {macKey : Bytes}
    (hkey : macKey.length ≤ hash.digestSize) (associated iv sealed : Bytes) :
    (cbcTag hash macKey associated iv sealed).length = macKey.length := by
  rw [cbcTag]
  apply List.length_take_of_le
  rw [hsized.length_hmac]
  exact hkey

/-- A tag of another length than the HMAC's is refused. -/
theorem openCbc_of_length_ne (hsized : hash.IsSized) (hkey : key.length / 2 ≤ hash.digestSize)
    (hlength : tag.length ≠ key.length / 2) :
    openCbc hash key associated iv sealed tag = .error tagMismatch := by
  have hhalf : (key.take (key.length / 2)).length = key.length / 2 :=
    List.length_take_of_le (Nat.div_le_self _ _)
  rw [openCbc, if_neg]
  intro htag
  apply hlength
  rw [← htag, length_cbcTag hsized (by rw [hhalf]; exact hkey), hhalf]

/-- The hash of an encryption gives tags of its length for half of its key. -/
theorem hash?_eq_some {encryption : ContentEncryption} (h : encryption.hash? = some hash) :
    hash.IsSized ∧ encryption.keyLength / 2 = encryption.tagLength ∧
      encryption.tagLength ≤ hash.digestSize := by
  cases encryption <;> cases h
  · exact ⟨Crypto.Hash.isSized_sha256, by decide, by decide⟩
  · exact ⟨Crypto.Hash.isSized_sha512, by decide, by decide⟩

theorem open_of_length_ne {reading : Reading} (hhash : reading.encryption.hash? = some hash)
    (hkey : reading.contentKey.length = reading.encryption.keyLength)
    (hlength : reading.tag.length ≠ reading.encryption.tagLength) :
    reading.open = .error tagMismatch := by
  obtain ⟨hsized, hhalf, hdigest⟩ := hash?_eq_some hhash
  rw [← hkey] at hhalf
  rw [Reading.open, openContents, hhash]
  apply openCbc_of_length_ne hsized
  · rw [hhalf]
    exact hdigest
  · rw [hhalf]
    exact hlength

end Hmac

section Gcm

theorem Reading.open_of_hash?_eq_none {reading : Reading}
    (hhash : reading.encryption.hash? = none) :
    reading.open = Error.ofOption tagMismatch
      (Crypto.Gcm.decrypt? (Crypto.Aes.encryptBlock reading.contentKey) reading.iv
        reading.associated (reading.sealed ++ reading.tag)) := by
  rw [Reading.open, openContents, hhash]
  rfl

theorem blockSize_le_of_decrypt? {cipher : Bytes → Bytes} {iv associated message text : Bytes}
    (h : Crypto.Gcm.decrypt? cipher iv associated message = some text) :
    Crypto.Gcm.blockSize ≤ message.length := by
  rw [Crypto.Gcm.decrypt?] at h
  split at h
  · cases h
  · rename_i hlength
    exact Nat.le_of_not_lt hlength

/-- Where the boundary lies is not looked at. -/
theorem SameButBoundary.open_eq {reading other : Reading} (h : SameButBoundary reading other)
    (hhash : reading.encryption.hash? = none) : other.open = reading.open := by
  have hother : other.encryption.hash? = none := by
    rw [h.encryption]
    exact hhash
  rw [Reading.open_of_hash?_eq_none hother, Reading.open_of_hash?_eq_none hhash, h.contentKey,
    h.associated, h.iv, h.message]

end Gcm

section Accepted

variable {key : PrivateKey} {token : String} {reading : Reading} {text : Bytes}

theorem ReadsAs.length_contentKey (h : ReadsAs key token reading) :
    reading.contentKey.length = reading.encryption.keyLength := by
  obtain ⟨-, -, ⟨_, -, -, hlength⟩, -, -, -, -, -⟩ := h
  exact hlength

/-- In every envelope that a key opens the tag is bound as its encryption binds
it. -/
theorem boundTag_of_decrypt (hdecrypt : decrypt token key = .ok text)
    (hreads : ReadsAs key token reading) : BoundTag reading text := by
  obtain ⟨found, hfound, hopen⟩ := decrypt_eq_ok_iff.1 hdecrypt
  obtain rfl := hreads.unique hfound
  have hkey := hreads.length_contentKey
  constructor
  · intro hsome
    obtain ⟨hash, hhash⟩ := Option.isSome_iff_exists.1 hsome
    have hlength : reading.tag.length = reading.encryption.tagLength := by
      by_contra hne
      rw [open_of_length_ne hhash hkey hne] at hopen
      cases hopen
    refine ⟨hlength, ?_⟩
    intro other hother hmoved
    apply open_of_length_ne
    · rw [hother.encryption]
      exact hhash
    · rw [hother.contentKey, hother.encryption]
      exact hkey
    · intro htag
      rw [hother.encryption, ← hlength] at htag
      exact hmoved (List.append_inj_left' hother.message htag)
  · intro hnone
    refine ⟨?_, ?_⟩
    · rw [Reading.open_of_hash?_eq_none hnone, Error.ofOption_eq_ok_iff] at hopen
      have hlong := blockSize_le_of_decrypt? hopen
      have hsize : reading.encryption.tagLength = Crypto.Gcm.blockSize := by
        cases hencryption : reading.encryption <;> rw [hencryption] at hnone <;>
          first | rfl | cases hnone
      rw [hsize]
      exact hlong
    · intro other hother
      rw [hother.open_eq hnone]
      exact hopen

theorem boundTag_of_decrypt_proth :
    ∃ token reading, reading.encryption = .a128CbcHs256 ∧
      decrypt token PrivateKey.proth = .ok [1, 2, 3] ∧ ReadsAs PrivateKey.proth token reading ∧
      BoundTag reading [1, 2, 3] := by
  obtain ⟨token, htoken⟩ := exists_encrypt_proth [1, 2, 3] .a128CbcHs256 (by decide) none
  obtain ⟨reading, wrapped, hencryption, rfl, hfits, hopen⟩ :=
    exists_token_of_encrypt PrivateKey.isPair_proth (Randomness.suits_zeros .a128CbcHs256) htoken
  have hdecrypt := decrypt_eq_ok_iff.2 ⟨reading, hfits.readsAs_token, hopen⟩
  exact ⟨_, reading, hencryption, hdecrypt, hfits.readsAs_token,
    boundTag_of_decrypt hdecrypt hfits.readsAs_token⟩

end Accepted

section Moved

variable {key : PrivateKey} {reading other : Reading} {header wrapped text : Bytes}

theorem SameButBoundary.fits (h : SameButBoundary reading other)
    (hfits : reading.Fits key header wrapped) : other.Fits key header wrapped where
  encryption := by
    rw [h.encryption]
    exact hfits.encryption
  contentKey := by
    rw [h.contentKey]
    exact hfits.contentKey
  length_contentKey := by
    rw [h.contentKey, h.encryption]
    exact hfits.length_contentKey
  associated := by
    rw [h.associated]
    exact hfits.associated
  length_iv := by
    rw [h.iv, h.encryption]
    exact hfits.length_iv

/-- A token in GCM is still opened after bytes have moved across the boundary. -/
theorem SameButBoundary.decrypt_token (h : SameButBoundary reading other)
    (hhash : reading.encryption.hash? = none) (hfits : reading.Fits key header wrapped)
    (hopen : reading.open = .ok text) : decrypt (other.token header wrapped) key = .ok text := by
  rw [← h.open_eq hhash] at hopen
  exact decrypt_eq_ok_iff.2 ⟨other, (h.fits hfits).readsAs_token, hopen⟩

/-- The reading with the whole tag moved to the end of the cipher text. -/
def Reading.withoutTag (reading : Reading) : Reading :=
  { reading with sealed := reading.sealed ++ reading.tag, tag := [] }

theorem Reading.sameButBoundary_withoutTag (reading : Reading) :
    SameButBoundary reading reading.withoutTag :=
  ⟨rfl, rfl, rfl, rfl, List.append_nil _⟩

/-- A key pair opens a token whose tag segment is empty. -/
theorem exists_decrypt_withoutTag :
    ∃ token reading, reading.encryption = .a128Gcm ∧ ReadsAs PrivateKey.proth token reading ∧
      reading.tag.length ≠ reading.encryption.tagLength ∧
      decrypt token PrivateKey.proth = .ok [1, 2, 3] := by
  obtain ⟨token, htoken⟩ := exists_encrypt_proth [1, 2, 3] .a128Gcm (by decide) none
  obtain ⟨reading, wrapped, hencryption, -, hfits, hopen⟩ :=
    exists_token_of_encrypt PrivateKey.isPair_proth (Randomness.suits_zeros .a128Gcm) htoken
  have hmoved := reading.sameButBoundary_withoutTag
  have hsame : reading.withoutTag.encryption = .a128Gcm := hmoved.encryption.trans hencryption
  have hhash : reading.encryption.hash? = none := by
    rw [hencryption]
    rfl
  refine ⟨_, reading.withoutTag, hsame, (hmoved.fits hfits).readsAs_token, ?_,
    hmoved.decrypt_token hhash hfits hopen⟩
  have hlength : 0 ≠ ContentEncryption.a128Gcm.tagLength := by decide
  rw [hsame]
  exact hlength

end Moved

end LocalCloud.Envelope
