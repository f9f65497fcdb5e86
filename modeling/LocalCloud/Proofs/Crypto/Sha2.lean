import LocalCloud.Crypto.Sha2

/-!
# Lengths of digests

Everything that cuts or masks with a digest relies on its length being the one
the hash function states.  `Hash.IsSized` says so, and the three hash functions
of the library satisfy it.
-/

namespace LocalCloud.Crypto

namespace Sha2

variable {W : Type} [Add W] [XorOp W] [AndOp W] [Complement W]

theorem length_digest (design : Sha2 W) (start : Registers W) (message : Bytes) :
    (design.digest start message).length = 8 * design.width := by
  simp only [digest, output, List.flatMap_cons, List.flatMap_nil, List.length_append,
    Bytes.length_ofNat, List.length_nil]
  omega

end Sha2

/-- The hash function gives digests of its size, which are not empty. -/
structure Hash.IsSized (hash : Hash) : Prop where
  length_run : ∀ message, (hash.run message).length = hash.digestSize
  digestSize_pos : 0 < hash.digestSize

namespace Hash

theorem isSized_sha256 : sha256.IsSized where
  length_run message := Sha2.length_digest Sha2.words32 _ message
  digestSize_pos := by decide

theorem isSized_sha384 : sha384.IsSized where
  length_run message := by
    apply List.length_take_of_le
    rw [Sha2.length_digest]
    decide
  digestSize_pos := by decide

theorem isSized_sha512 : sha512.IsSized where
  length_run message := Sha2.length_digest Sha2.words64 _ message
  digestSize_pos := by decide

theorem IsSized.length_hmac {hash : Hash} (hsized : hash.IsSized) (key message : Bytes) :
    (hmac hash key message).length = hash.digestSize :=
  hsized.length_run _

end Hash

end LocalCloud.Crypto
