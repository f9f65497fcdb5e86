import LocalCloud.Token.Basic
import Mathlib.Tactic.Common

/-!
# Valid tokens

What makes a token valid, one condition after the other: the envelope, the
signature inside, and the claims.  The reader of tokens stops at the first
condition that fails; the theorem of this file says that it succeeds exactly
when all of them hold.
-/

namespace LocalCloud

open Crypto.Rsa (PrivateKey SignatureEncoding)

namespace Envelope

/-- A text is an envelope of five segments, and a private key opens it. -/
structure OpensTo (key : PrivateKey) (token : String) (contents : Bytes) : Prop where
  fiveSegments : (Text.splitString '.' (Text.trim token)).length = 5
  opened : decrypt token key = .ok contents

theorem opensTo_iff {key : PrivateKey} {token : String} {contents : Bytes} :
    OpensTo key token contents ↔ decrypt token key = .ok contents := by
  constructor
  · exact OpensTo.opened
  · intro hopened
    refine ⟨?_, hopened⟩
    simp only [decrypt] at hopened
    split at hopened
    · rename_i hparts
      rw [hparts]
      rfl
    · cases hopened

end Envelope

namespace SignedClaims

/-- The six accepted algorithms, each with its encoding and its hash. -/
def rsaAlgorithms : List (SignatureAlgorithm × SignatureEncoding × Crypto.Hash) :=
  [(.rs256, .pkcs1, .sha256), (.rs384, .pkcs1, .sha384), (.rs512, .pkcs1, .sha512),
    (.ps256, .pss, .sha256), (.ps384, .pss, .sha384), (.ps512, .pss, .sha512)]

theorem rsa?_eq_some_iff {algorithm : SignatureAlgorithm} {encoding : SignatureEncoding}
    {hash : Crypto.Hash} :
    algorithm.rsa? = some (encoding, hash) ↔ (algorithm, encoding, hash) ∈ rsaAlgorithms := by
  cases algorithm <;> simp [SignatureAlgorithm.rsa?, rsaAlgorithms, eq_comm]

/-- A segment is the base64 of the JSON of claims. -/
def Encodes (segment : String) (claims : Claims) : Prop :=
  ∃ bytes node, Base64.decodeUrl? segment = some bytes ∧
    Json.Node.ofBytes? bytes = some node ∧ registeredReadable node = true ∧
    Claims.decode node = some claims

/-- A text states claims under a signature: its header names one of the six
algorithms, and its signature holds for that algorithm under the key in a PEM
text. -/
inductive Signed (pem text : String) (claims : Claims) : Prop where
  | intro {algorithm : SignatureAlgorithm} {encoding : SignatureEncoding} {hash : Crypto.Hash}
      {key : VerificationKey} {segments : Segments}
      (halgorithm : algorithm? text = some algorithm)
      (haccepted : (algorithm, encoding, hash) ∈ rsaAlgorithms)
      (hkey : verificationKey? pem = some key)
      (hsegments : segments? text = some segments)
      (hholds : holds segments key encoding hash = true)
      (hencodes : Encodes segments.claims claims)

theorem read?_eq_some_iff {text : String} {key : VerificationKey} {encoding : SignatureEncoding}
    {hash : Crypto.Hash} {claims : Claims} :
    read? text key encoding hash = some claims ↔
      ∃ segments, segments? text = some segments ∧ holds segments key encoding hash = true ∧
        Encodes segments.claims claims := by
  unfold read?
  rw [Option.bind_eq_bind, Option.bind_eq_some_iff]
  constructor
  · rintro ⟨segments, hsegments, hread⟩
    split at hread
    · rename_i hholds
      simp only [Option.bind_eq_bind, Option.bind_eq_some_iff] at hread
      obtain ⟨bytes, hbytes, node, hnode, hread⟩ := hread
      split at hread
      · rename_i hreadable
        exact ⟨segments, hsegments, hholds, ⟨bytes, node, hbytes, hnode, hreadable, hread⟩⟩
      · cases hread
    · cases hread
  · rintro ⟨segments, hsegments, hholds, ⟨bytes, node, hbytes, hnode, hreadable, hclaims⟩⟩
    refine ⟨segments, hsegments, ?_⟩
    simp [hholds, hbytes, hnode, hreadable, hclaims]

end SignedClaims

namespace Claims

/-- Claims of the authorization system that are in force at a time. -/
structure InForce (now : Int64) (claims : Claims) : Prop where
  issued : claims.issuedAt ≤ now
  started : claims.notBefore ≤ now
  unexpired : ∀ expiry, claims.expiry = some expiry → now ≤ expiry
  issuer : claims.issuer = "Authorization"

theorem validate_eq_ok_iff {claims : Claims} {now : Int64} :
    claims.validate now = .ok () ↔ claims.InForce now := by
  unfold validate
  constructor
  · intro h
    split at h
    · cases h
    rename_i hissued
    split at h
    · cases h
    rename_i hstarted
    split at h
    · cases h
    rename_i hunexpired
    split at h
    · cases h
    rename_i hissuer
    refine ⟨Int64.not_lt.1 hissued, Int64.not_lt.1 hstarted, ?_, not_not.1 hissuer⟩
    intro expiry hexpiry
    rw [hexpiry] at hunexpired
    simpa using hunexpired
  · rintro ⟨hissued, hstarted, hunexpired, hissuer⟩
    have hexpiry : ¬ claims.expiry.any (· < now) = true := by
      cases hfound : claims.expiry with
      | none => simp
      | some expiry => simpa using hunexpired expiry hfound
    have hforeign : ¬ claims.issuer ≠ authorizationIssuer := not_not.2 hissuer
    rw [if_neg (Int64.not_lt.2 hissued), if_neg (Int64.not_lt.2 hstarted), if_neg hexpiry,
      if_neg hforeign]

end Claims

namespace Token

/-- Everything that makes a token valid: the provider's key opens it, it holds a
text, the text is signed by the authorization system, and its claims are in
force. -/
inductive Valid (token : String) (providerKey : PrivateKey) (pem : String) (now : Int64)
    (claims : Claims) : Prop where
  | intro {contents : Bytes} {text : String}
      (hopens : Envelope.OpensTo providerKey token contents)
      (htext : Utf8.decode? contents = some text)
      (hsigned : SignedClaims.Signed pem (Text.trim text) claims)
      (hforce : claims.InForce now)

theorem openSigned_eq_ok_iff {token text : String} {providerKey : PrivateKey} :
    openSigned token providerKey = .ok text ↔
      ∃ contents inner, Envelope.OpensTo providerKey token contents ∧
        Utf8.decode? contents = some inner ∧ text = Text.trim inner := by
  simp only [openSigned, Error.bind_eq_ok_iff, Error.ofOption_eq_ok_iff, Envelope.opensTo_iff,
    pure, Except.pure, Except.ok.injEq]
  constructor
  · rintro ⟨contents, hopened, inner, hinner, rfl⟩
    exact ⟨contents, inner, hopened, hinner, rfl⟩
  · rintro ⟨contents, inner, hopened, hinner, rfl⟩
    exact ⟨contents, hopened, inner, hinner, rfl⟩

theorem signatureScheme_eq_ok_iff {text : String} {encoding : SignatureEncoding}
    {hash : Crypto.Hash} :
    signatureScheme text = .ok (encoding, hash) ↔
      ∃ algorithm, SignedClaims.algorithm? text = some algorithm ∧
        (algorithm, encoding, hash) ∈ SignedClaims.rsaAlgorithms := by
  simp only [signatureScheme, Error.bind_eq_ok_iff, Error.ofOption_eq_ok_iff,
    SignedClaims.rsa?_eq_some_iff]

/-- Reading a token succeeds exactly for valid tokens. -/
theorem verify_eq_ok_iff {token : String} {providerKey : PrivateKey} {pem : String} {now : Int64}
    {claims : Claims} :
    verify token providerKey pem now = .ok claims ↔ Valid token providerKey pem now claims := by
  simp only [verify, Error.bind_eq_ok_iff, Error.ofOption_eq_ok_iff, openSigned_eq_ok_iff,
    SignedClaims.read?_eq_some_iff, pure, Except.pure, Except.ok.injEq]
  constructor
  · rintro ⟨_, ⟨contents, text, hopens, htext, rfl⟩, ⟨encoding, hash⟩, hscheme, key, hkey,
      found, ⟨segments, hsegments, hholds, hencodes⟩, ⟨⟩, hforce, rfl⟩
    obtain ⟨algorithm, halgorithm, haccepted⟩ := signatureScheme_eq_ok_iff.1 hscheme
    exact ⟨hopens, htext, ⟨halgorithm, haccepted, hkey, hsegments, hholds, hencodes⟩,
      Claims.validate_eq_ok_iff.1 hforce⟩
  · rintro ⟨hopens, htext, ⟨halgorithm, haccepted, hkey, hsegments, hholds, hencodes⟩, hforce⟩
    exact ⟨_, ⟨_, _, hopens, htext, rfl⟩, _, signatureScheme_eq_ok_iff.2 ⟨_, halgorithm, haccepted⟩,
      _, hkey, _, ⟨_, hsegments, hholds, hencodes⟩, (), Claims.validate_eq_ok_iff.2 hforce, rfl⟩

end Token

end LocalCloud
