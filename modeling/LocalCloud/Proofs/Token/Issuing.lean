import LocalCloud.Proofs.Codec.Pem
import LocalCloud.Proofs.Crypto.Signing
import LocalCloud.Proofs.Message.RoundTrip
import LocalCloud.Proofs.Token.Bearer
import LocalCloud.Proofs.Token.EnvelopeRoundTrip
import LocalCloud.Proofs.Token.Validity

/-!
# Issued tokens are valid

The authorization system signs claims with its private key and seals the signed
text for the provider.  The provider reads back the very claims that were signed,
so the token is valid as long as they are in force, and a bearer header carries
it to the provider unchanged.
-/

namespace LocalCloud

open Crypto.Rsa (PrivateKey PublicKey)

namespace Claims

theorem registeredReadable_toNode (claims : Claims) :
    SignedClaims.registeredReadable claims.toJson.toNode = true := by
  obtain ⟨tokenId, issuer, issuedAt, notBefore, expiry, consumer, service, interface⟩ := claims
  cases expiry <;> rfl

end Claims

namespace SignedClaims

open Crypto.Rsa (SignatureEncoding)

section Segments

/-- The text of three segments. -/
def Segments.text (segments : Segments) : String :=
  String.intercalate "." [segments.header, segments.claims, segments.signature]

/-- A text of segments is cut into these segments again. -/
theorem segments?_text {segments : Segments} (hheader : '.' ∉ segments.header.toList)
    (hclaims : '.' ∉ segments.claims.toList) (hsignature : '.' ∉ segments.signature.toList) :
    segments? segments.text = some segments := by
  have hsplit : Text.splitOn '.' segments.text.toList =
      [segments.header.toList, segments.claims.toList, segments.signature.toList] := by
    rw [Segments.text, String.toList_intercalate]
    apply Text.splitOn_intercalate
    · exact List.cons_ne_nil _ _
    · simp [hheader, hclaims, hsignature]
  rw [segments?, hsplit]
  simp

end Segments

section Sign

variable {key : PrivateKey} {algorithm : SignatureAlgorithm} {hash : Crypto.Hash} {pem : String}

/-- The header of a signed text. -/
def headerBytes (algorithm : SignatureAlgorithm) : Bytes :=
  (Json.Value.object [("typ", .string "JWT"), ("alg", .string algorithm.name)]).bytes

/-- The segments of signed claims, before there is a signature. -/
def unsigned (algorithm : SignatureAlgorithm) (claims : Claims) : Segments where
  header := Base64.encodeUrl (headerBytes algorithm)
  claims := Base64.encodeUrl claims.toJson.bytes
  signature := ""

/-- Claims under a signature. -/
def sign (key : PrivateKey) (algorithm : SignatureAlgorithm) (hash : Crypto.Hash)
    (claims : Claims) : Segments :=
  let message := (unsigned algorithm claims).message
  { unsigned algorithm claims with signature := Base64.encodeUrl (key.sign hash message) }

theorem ofHeader_headerBytes (algorithm : SignatureAlgorithm) :
    Json.decodeBytes? SignatureAlgorithm.ofHeader (headerBytes algorithm) = some algorithm := by
  have hintegral : (Json.Value.object
      [("typ", .string "JWT"), ("alg", .string algorithm.name)]).IsIntegral :=
    ⟨trivial, trivial, trivial⟩
  rw [Json.decodeBytes?, headerBytes, Json.Node.ofBytes?_bytes _ hintegral, Option.bind_some]
  cases algorithm <;> rfl

theorem segments?_sign (key : PrivateKey) (algorithm : SignatureAlgorithm) (hash : Crypto.Hash)
    (claims : Claims) :
    segments? (sign key algorithm hash claims).text = some (sign key algorithm hash claims) := by
  have hdot (bytes : Bytes) : '.' ∉ (Base64.encodeUrl bytes).toList :=
    fun hmem => (Base64.isSegmentChar_of_mem_encodeUrl hmem).1 rfl
  exact segments?_text (hdot _) (hdot _) (hdot _)

/-- A PEM text publishes a public key that is strong enough for signatures. -/
structure Publishes (pem : String) (key : PublicKey) : Prop where
  found : ∃ der, verificationKey? pem = some der ∧ RsaKey.publicParts? der = some key
  strong : isStrong key = true

/-- A key is published by the PEM text of its PKCS #1 form. -/
theorem publishes_render {der : Bytes} {key : PublicKey}
    (htree : (Asn1.trees? (der.length + 1) der).isSome = true)
    (hparts : RsaKey.publicParts? der = some key) (hstrong : isStrong key = true) :
    Publishes (Pem.render "RSA PUBLIC KEY" (Base64.encode der)) key where
  found := by
    obtain ⟨trees, htrees⟩ := Option.isSome_iff_exists.1 htree
    have hread : Pem.readAnywhere? (Pem.render "RSA PUBLIC KEY" (Base64.encode der)) =
        some ("RSA PUBLIC KEY", der) :=
      Pem.readAnywhere?_render (by decide) (by decide) der
    refine ⟨der, ?_, hparts⟩
    rw [verificationKey?, hread]
    simp [htrees]
  strong := hstrong

/-- A strong key has room for every digest. -/
theorem le_size_of_isStrong {key : PublicKey} (h : isStrong key = true) : 256 ≤ key.size := by
  simp only [isStrong, Bool.and_eq_true, decide_eq_true_eq] at h
  omega

/-- What is signed with a private key is accepted under its public half. -/
theorem signed_sign (hkey : key.IsPair) (hpem : Publishes pem key.publicKey)
    (halgorithm : algorithm.rsa? = some (.pkcs1, hash)) (claims : Claims) :
    Signed pem (sign key algorithm hash claims).text claims := by
  obtain ⟨der, hder, hparts⟩ := hpem.found
  have hsize := le_size_of_isStrong hpem.strong
  have hhash : hash.IsSized ∧ hash.digestSize + 22 ≤ key.publicKey.size := by
    cases algorithm <;> cases halgorithm
    · exact ⟨Crypto.Hash.isSized_sha256, Nat.le_trans (by decide) hsize⟩
    · exact ⟨Crypto.Hash.isSized_sha384, Nat.le_trans (by decide) hsize⟩
    · exact ⟨Crypto.Hash.isSized_sha512, Nat.le_trans (by decide) hsize⟩
  have hsegments := segments?_sign key algorithm hash claims
  have hverify := hkey.verify_sign hhash.1 hhash.2 (unsigned algorithm claims).message
  have hread : algorithm? (sign key algorithm hash claims).text = some algorithm := by
    rw [algorithm?, hsegments]
    simp only [Option.bind_eq_bind, Option.bind_some, sign, unsigned,
      Base64.decodeUrl?_encodeUrl, ofHeader_headerBytes]
  have hholds : holds (sign key algorithm hash claims) der .pkcs1 hash = true := by
    rw [holds, sign, Base64.decodeUrl?_encodeUrl, hparts]
    simp only [hpem.strong, Bool.true_and]
    exact hverify
  have hencodes : Encodes (sign key algorithm hash claims).claims claims :=
    ⟨_, _, Base64.decodeUrl?_encodeUrl _, Json.Node.ofBytes?_bytes _ claims.isIntegral_toJson,
      claims.registeredReadable_toNode, claims.decode_toNode⟩
  exact ⟨hread, rsa?_eq_some_iff.1 halgorithm, hder, hsegments, hholds, hencodes⟩

end Sign

end SignedClaims

theorem Envelope.compact_ne_empty {parts : List Bytes} (h : 1 < parts.length) :
    compact parts ≠ "" := by
  intro hempty
  have hne : parts ≠ [] := List.ne_nil_of_length_pos (Nat.lt_of_succ_lt h)
  have hsplit := congrArg List.length (splitString_compact hne)
  rw [hempty, List.length_map] at hsplit
  have hsingle : (Text.splitString '.' "").length = 1 := rfl
  omega

namespace Token

open Envelope (Randomness)

section Issue

variable {providerKey authorizationKey : PrivateKey} {algorithm : SignatureAlgorithm}
  {hash : Crypto.Hash} {encryption : ContentEncryption} {random : Randomness} {claims : Claims}
  {pem token : String} {now : Int64}

/-- The token with which the authorization system states claims to a provider. -/
def issue (authorizationKey : PrivateKey) (algorithm : SignatureAlgorithm) (hash : Crypto.Hash)
    (providerKey : PublicKey) (encryption : ContentEncryption) (random : Randomness)
    (claims : Claims) : Except Error String :=
  let text := (SignedClaims.sign authorizationKey algorithm hash claims).text
  Envelope.encrypt (Utf8.encode text) providerKey encryption (some "JWT") random

/-- Issued tokens are valid as long as their claims are in force. -/
theorem valid_of_issue (hprovider : providerKey.IsPair) (hrandom : random.Suits encryption)
    (hauthorization : authorizationKey.IsPair)
    (hpem : SignedClaims.Publishes pem authorizationKey.publicKey)
    (halgorithm : algorithm.rsa? = some (.pkcs1, hash))
    (hissue : issue authorizationKey algorithm hash providerKey.publicKey encryption random claims =
      .ok token)
    (hforce : claims.InForce now) : Valid token providerKey pem now claims := by
  obtain ⟨reading, wrapped, -, rfl, hfits, hopen⟩ :=
    Envelope.exists_token_of_encrypt hprovider hrandom hissue
  have hsigned := SignedClaims.signed_sign hauthorization hpem halgorithm claims
  have hblank : ∀ c ∈ (SignedClaims.sign authorizationKey algorithm hash claims).text.toList,
      Text.isBlank c = false := by
    have htext : (SignedClaims.sign authorizationKey algorithm hash claims).text =
        Envelope.compact [SignedClaims.headerBytes algorithm, claims.toJson.bytes,
          authorizationKey.sign hash (SignedClaims.unsigned algorithm claims).message] := rfl
    rw [htext]
    exact Envelope.isBlank_compact
  have hopens := Envelope.opensTo_iff.2
    (Envelope.decrypt_eq_ok_iff.2 ⟨reading, hfits.readsAs_token, hopen⟩)
  refine ⟨hopens, Utf8.decode?_encode _, ?_, hforce⟩
  rw [Text.trim_of_forall_not_isBlank hblank]
  exact hsigned

/-- A bearer header carries an issued token unchanged. -/
theorem token_header_of_issue
    (hissue : issue authorizationKey algorithm hash providerKey.publicKey encryption random claims =
      .ok token) : Bearer.token (some (Bearer.header token)) = .ok token := by
  obtain ⟨wrapped, -, rfl⟩ := Envelope.encrypt_eq_ok_iff.1 hissue
  exact Bearer.token_header (Envelope.compact_ne_empty (by simp)) Envelope.isBlank_compact

end Issue

section Example

/-- The PKCS #1 form of the public half of the strong key pair. -/
def strongProthDer : Bytes :=
  [0x30, 0x82, 0x01, 0x53, 0x02, 0x82, 0x01, 0x4C]
    ++ Bytes.ofNat 332 PrivateKey.strongProth.publicKey.modulus ++ [0x02, 0x01, 0x05]

def strongProthPem : String := Pem.render "RSA PUBLIC KEY" (Base64.encode strongProthDer)

theorem publishes_strongProth :
    SignedClaims.Publishes strongProthPem PrivateKey.strongProth.publicKey :=
  SignedClaims.publishes_render (by decide +kernel) (by decide +kernel) (by decide +kernel)

/-- A token from the strong key pair to the smaller one. -/
def issueProth (claims : Claims) : Except Error String :=
  issue .strongProth .rs256 .sha256 PrivateKey.proth.publicKey .a128CbcHs256 (.zeros .a128CbcHs256)
    claims

theorem exists_issueProth (claims : Claims) : ∃ token, issueProth claims = .ok token :=
  Envelope.exists_encrypt_proth _ .a128CbcHs256 (by decide) _

theorem valid_of_issueProth {claims : Claims} {token : String} {now : Int64}
    (hissue : issueProth claims = .ok token) (hforce : claims.InForce now) :
    Valid token .proth strongProthPem now claims :=
  valid_of_issue Crypto.Rsa.PrivateKey.isPair_proth (Envelope.Randomness.suits_zeros _)
    Crypto.Rsa.PrivateKey.isPair_strongProth publishes_strongProth rfl hissue hforce

end Example

end Token

end LocalCloud
