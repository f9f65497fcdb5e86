import LocalCloud.Proofs.Crypto.Rsa

/-!
# Signing with RSA

The public exponent undoes the private one as the private one undoes the public
one, so what the holder of a private key signs in the encoding of PKCS #1 is
verified with its public half.
-/

namespace LocalCloud.Crypto.Rsa

section Encoding

variable {hash : Hash} {size : Nat}

/-- An encoding fills a size that has room for the digest, its description and
the frame around them. -/
theorem exists_encodePkcs1_eq_zero_cons (hsized : hash.IsSized)
    (hsize : hash.digestSize + 22 ≤ size) (message : Bytes) :
    ∃ rest, encodePkcs1 hash size message = 0 :: rest ∧ rest.length = size - 1 := by
  refine ⟨_, rfl, ?_⟩
  simp only [digestInfo, List.length_append, List.length_cons, List.length_nil,
    List.length_replicate, hsized.length_run]
  omega

end Encoding

section KeyPair

variable {key : PrivateKey} {value : Nat} {hash : Hash}

/-- The signature of a message, its digest encoded after PKCS #1. -/
def PrivateKey.sign (key : PrivateKey) (hash : Hash) (message : Bytes) : Bytes :=
  let size := key.publicKey.size
  Bytes.ofNat size
    (powMod (Bytes.toNat (encodePkcs1 hash size message)) key.exponent key.publicKey.modulus)

/-- The public exponent undoes the private one. -/
theorem PrivateKey.IsPair.powMod_powMod_exponent (hkey : key.IsPair)
    (hvalue : value < key.publicKey.modulus) :
    powMod (powMod value key.exponent key.publicKey.modulus) key.publicKey.exponent
      key.publicKey.modulus = value := by
  have hpower := hkey.pow_modEq_self value
  rw [Nat.mul_comm] at hpower
  rw [powMod_eq, powMod_eq, ← Nat.pow_mod, ← Nat.pow_mul]
  exact Nat.mod_eq_of_modEq hpower hvalue

/-- What is signed with a private key is verified with its public half. -/
theorem PrivateKey.IsPair.verify_sign (hkey : key.IsPair) (hsized : hash.IsSized)
    (hsize : hash.digestSize + 22 ≤ key.publicKey.size) (message : Bytes) :
    verify key.publicKey .pkcs1 hash message (key.sign hash message) = true := by
  obtain ⟨rest, hencoded, hrest⟩ := exists_encodePkcs1_eq_zero_cons hsized hsize message
  have hlength : (0 :: rest).length = key.publicKey.size := by
    rw [List.length_cons, hrest]
    omega
  have hback := hkey.powMod_powMod_exponent (hkey.toNat_zero_cons_lt hrest)
  simp only [verify, PrivateKey.sign, hencoded, hkey.toNat_ofNat_powMod, hback,
    Bytes.length_ofNat, Bytes.ofNat_toNat hlength]
  simp [hkey.powMod_lt]

end KeyPair

section Example

/-- A key pair with a modulus of 2650 bits, strong enough for signatures. -/
def PrivateKey.strongProth : PrivateKey where
  publicKey := ⟨prothNumber 438 * prothNumber 2208, 5⟩
  exponent := (9 * 2 ^ 2208 + 1) / 5
  prime1 := prothNumber 438
  prime2 := prothNumber 2208

theorem PrivateKey.isPair_strongProth : strongProth.IsPair where
  isUsable := by decide +kernel
  prime1 := isPair_proth.prime2
  prime2 := prime_prothNumber 11 (by decide +kernel) (by decide +kernel) (by decide +kernel)
  ne := by decide +kernel

end Example

end LocalCloud.Crypto.Rsa
