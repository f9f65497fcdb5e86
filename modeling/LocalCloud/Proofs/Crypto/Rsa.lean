import LocalCloud.Crypto.Rsa
import LocalCloud.Proofs.Codec.Numeral
import LocalCloud.Proofs.Crypto.Sha2
import Mathlib.FieldTheory.Finite.Basic
import Mathlib.NumberTheory.LucasPrimality

/-!
# Unwrapping with RSA

Repeated squaring computes the power, the two exponents of a key pair are
inverse to each other by Fermat's theorem for both primes, and the encoding
around the number is undone by computing its masks again.  Together they say
that the holder of the private key gets back what was wrapped for the public
one.
-/

namespace LocalCloud

namespace Crypto.Rsa

section Powers

theorem powMod_loop {count exponent : Nat} (h : exponent < 2 ^ count) (base : Nat) {modulus : Nat}
    {result : Nat} (hresult : result % modulus = result) :
    powMod.loop modulus count base exponent result = result * base ^ exponent % modulus := by
  induction count generalizing base exponent result with
  | zero =>
      rw [Nat.pow_zero, Nat.lt_one_iff] at h
      rw [powMod.loop, h, Nat.pow_zero, Nat.mul_one, hresult]
  | succ count ih =>
      have hhalf : exponent / 2 < 2 ^ count := by
        rw [Nat.pow_succ] at h
        omega
      have hsquare : (base * base % modulus) ^ (exponent / 2) ≡ base ^ (2 * (exponent / 2))
          [MOD modulus] := by
        rw [Nat.pow_mul, Nat.pow_two]
        exact (Nat.mod_modEq _ _).pow _
      rw [powMod.loop]
      rcases Nat.mod_two_eq_zero_or_one exponent with heven | hodd
      · have hexponent : exponent = 2 * (exponent / 2) := by omega
        rw [heven, if_neg (by decide), ih hhalf _ hresult]
        conv_rhs => rw [hexponent]
        exact hsquare.mul_left result
      · have hexponent : exponent = 2 * (exponent / 2) + 1 := by omega
        rw [hodd, if_pos (by decide), ih hhalf _ (Nat.mod_mod _ _)]
        conv_rhs => rw [hexponent, Nat.pow_succ, Nat.mul_comm (base ^ _), ← Nat.mul_assoc]
        exact (Nat.mod_modEq _ _).mul hsquare

theorem powMod_eq (base exponent modulus : Nat) :
    powMod base exponent modulus = base ^ exponent % modulus := by
  rw [powMod, powMod_loop Nat.lt_log2_self _ (Nat.mod_mod _ _)]
  have hone : 1 % modulus * (base % modulus) ^ exponent ≡ 1 * base ^ exponent [MOD modulus] :=
    (Nat.mod_modEq _ _).mul ((Nat.mod_modEq _ _).pow _)
  rw [Nat.one_mul] at hone
  exact hone

end Powers

/-- The parts of a private key fit together, and its factors are two different
primes. -/
structure PrivateKey.IsPair (key : PrivateKey) : Prop where
  isUsable : key.isUsable = true
  prime1 : key.prime1.Prime
  prime2 : key.prime2.Prime
  ne : key.prime1 ≠ key.prime2

section KeyPair

variable {key : PrivateKey} {value : Nat}

/-- Fermat's theorem in the form that needs no coprime base. -/
theorem pow_modEq_self_of_prime {prime exponent : Nat} (hprime : prime.Prime)
    (hexponent : exponent % (prime - 1) = 1) (value : Nat) :
    value ^ exponent ≡ value [MOD prime] := by
  have hsplit := Nat.div_add_mod exponent (prime - 1)
  rw [hexponent] at hsplit
  rw [← hsplit, Nat.pow_succ, Nat.pow_mul]
  by_cases hdvd : prime ∣ value
  · have hzero : value ≡ 0 [MOD prime] := (Nat.modEq_zero_iff_dvd).2 hdvd
    exact (hzero.mul_left _).trans hzero.symm
  · have hcoprime : Nat.Coprime value prime := ((hprime.coprime_iff_not_dvd).2 hdvd).symm
    have hfermat : value ^ (prime - 1) ≡ 1 [MOD prime] := by
      rw [← Nat.totient_prime hprime]
      exact Nat.ModEq.pow_totient hcoprime
    have hpower := (hfermat.pow (exponent / (prime - 1))).mul_right value
    rw [Nat.one_pow, Nat.one_mul] at hpower
    exact hpower

theorem PrivateKey.IsPair.modulus_eq (hkey : key.IsPair) :
    key.prime1 * key.prime2 = key.publicKey.modulus := by
  have husable := hkey.isUsable
  simp only [PrivateKey.isUsable, Bool.and_eq_true, beq_iff_eq] at husable
  exact husable.1.1.2

theorem PrivateKey.IsPair.modulus_ne_zero (hkey : key.IsPair) : key.publicKey.modulus ≠ 0 := by
  rw [← hkey.modulus_eq]
  exact Nat.mul_ne_zero hkey.prime1.ne_zero hkey.prime2.ne_zero

theorem PrivateKey.IsPair.pow_modEq_self (hkey : key.IsPair) (value : Nat) :
    value ^ (key.publicKey.exponent * key.exponent) ≡ value [MOD key.publicKey.modulus] := by
  have husable := hkey.isUsable
  simp only [PrivateKey.isUsable, Bool.and_eq_true, beq_iff_eq] at husable
  have hcoprime : Nat.Coprime key.prime1 key.prime2 :=
    (Nat.coprime_primes hkey.prime1 hkey.prime2).2 hkey.ne
  rw [← hkey.modulus_eq, ← Nat.modEq_and_modEq_iff_modEq_mul hcoprime]
  constructor
  · exact pow_modEq_self_of_prime hkey.prime1 husable.1.2 value
  · exact pow_modEq_self_of_prime hkey.prime2 husable.2 value

theorem PrivateKey.IsPair.powMod_powMod (hkey : key.IsPair)
    (hvalue : value < key.publicKey.modulus) :
    powMod (powMod value key.publicKey.exponent key.publicKey.modulus) key.exponent
      key.publicKey.modulus = value := by
  rw [powMod_eq, powMod_eq, ← Nat.pow_mod, ← Nat.pow_mul]
  exact Nat.mod_eq_of_modEq (hkey.pow_modEq_self value) hvalue

end KeyPair

section Size

variable {key : PublicKey}

theorem lt_pow_bitLength (n : Nat) : n < 2 ^ bitLength n := by
  rw [bitLength]
  split
  · omega
  · exact Nat.lt_log2_self

theorem pow_bitLength_le {n : Nat} (h : n ≠ 0) : 2 ^ (bitLength n - 1) ≤ n := by
  rw [bitLength, if_neg h, Nat.add_sub_cancel]
  exact Nat.log2_self_le h

theorem PublicKey.modulus_lt (key : PublicKey) : key.modulus < 256 ^ key.size := by
  have hbits : bitLength key.modulus ≤ 8 * key.size := by
    rw [PublicKey.size]
    omega
  calc
    key.modulus < 2 ^ bitLength key.modulus := lt_pow_bitLength _
    _ ≤ 2 ^ (8 * key.size) := Nat.pow_le_pow_right (by decide) hbits
    _ = 256 ^ key.size := Nat.pow_mul 2 8 key.size

/-- Numbers with a zero in the first place are below the modulus. -/
theorem PublicKey.le_modulus (h : key.modulus ≠ 0) : 256 ^ (key.size - 1) ≤ key.modulus := by
  have hbits : 8 * (key.size - 1) ≤ bitLength key.modulus - 1 := by
    rw [PublicKey.size]
    omega
  calc
    256 ^ (key.size - 1) = 2 ^ (8 * (key.size - 1)) := (Nat.pow_mul 2 8 _).symm
    _ ≤ 2 ^ (bitLength key.modulus - 1) := Nat.pow_le_pow_right (by decide) hbits
    _ ≤ key.modulus := pow_bitLength_le h

end Size

section Encoding

variable {hash : Hash} {size : Nat} {seed message encoded : Bytes}

theorem length_mask (hsized : hash.IsSized) (seed : Bytes) (length : Nat) :
    (mask hash seed length).length = length := by
  have hdigest : ∀ part ∈ (List.range ((length + hash.digestSize - 1) / hash.digestSize)).map
      (fun index => hash.run (seed ++ Bytes.ofNat 4 index)), part.length = hash.digestSize := by
    rw [List.forall_mem_map]
    intro index _
    exact hsized.length_run _
  have henough :
      length ≤ (length + hash.digestSize - 1) / hash.digestSize * hash.digestSize := by
    have hmod := Nat.mod_lt (length + hash.digestSize - 1) hsized.digestSize_pos
    have hdiv := Nat.div_add_mod (length + hash.digestSize - 1) hash.digestSize
    rw [Nat.mul_comm]
    omega
  rw [mask, List.flatMap_def]
  apply List.length_take_of_le
  rw [Bytes.length_flatten_of_forall hdigest, List.length_map, List.length_range]
  exact henough

namespace Oaep

/-- What is masked: the digest of the empty label, zeros, and the message behind
a one. -/
def block (hash : Hash) (size : Nat) (message : Bytes) : Bytes :=
  hash.run [] ++ List.replicate (size - message.length - 2 * hash.digestSize - 2) 0 ++ 1 :: message

theorem length_block (hsized : hash.IsSized)
    (hsize : message.length + 2 * hash.digestSize + 2 ≤ size) :
    (block hash size message).length = size - hash.digestSize - 1 := by
  simp only [block, List.length_append, List.length_replicate, List.length_cons,
    hsized.length_run]
  omega

theorem encode?_eq_some_iff :
    encode? hash size seed message = some encoded ↔
      message.length + 2 * hash.digestSize + 2 ≤ size ∧
        encoded =
          let maskedData :=
            Bytes.xor (block hash size message) (mask hash seed (size - hash.digestSize - 1))
          0 :: (Bytes.xor seed (mask hash maskedData hash.digestSize) ++ maskedData) := by
  rw [encode?]
  by_cases hshort : size < message.length + 2 * hash.digestSize + 2
  · simp only [hshort, if_true, reduceCtorEq, false_iff, not_and]
    intro hlong
    exact absurd hshort (Nat.not_lt_of_le hlong)
  · simp only [hshort, if_false, Option.some.injEq, Nat.le_of_not_lt hshort, true_and, block]
    exact eq_comm

/-- A block that was masked behind its masked seed is unmasked in the opposite
order. -/
theorem decode?_masked (hsized : hash.IsSized) (hseed : seed.length = hash.digestSize)
    {maskedData : Bytes} (hmessage : message.length + 2 * hash.digestSize + 2 ≤ size)
    (hmasked : maskedData =
      Bytes.xor (block hash size message) (mask hash seed (size - hash.digestSize - 1))) :
    decode? hash (0 :: (Bytes.xor seed (mask hash maskedData hash.digestSize) ++ maskedData)) =
      some message := by
  have hblock := length_block hsized hmessage
  have hmaskSeed := length_mask hsized maskedData hash.digestSize
  have hmaskData := length_mask hsized seed (size - hash.digestSize - 1)
  have hmaskedSeed :
      (Bytes.xor seed (mask hash maskedData hash.digestSize)).length = hash.digestSize := by
    rw [Bytes.xor_length, hseed, hmaskSeed, Nat.min_self]
  have hdata : maskedData.length = size - hash.digestSize - 1 := by
    rw [hmasked, Bytes.xor_length, hblock, hmaskData, Nat.min_self]
  have hseedBack :
      Bytes.xor (Bytes.xor seed (mask hash maskedData hash.digestSize))
        (mask hash maskedData hash.digestSize) = seed :=
    Bytes.xor_xor_cancel (Nat.le_of_eq (hseed.trans hmaskSeed.symm))
  have hdataBack : Bytes.xor maskedData (mask hash seed maskedData.length) =
      block hash size message := by
    rw [hdata, hmasked]
    exact Bytes.xor_xor_cancel (Nat.le_of_eq (hblock.trans hmaskData.symm))
  have hlong : ¬ (Bytes.xor seed (mask hash maskedData hash.digestSize) ++ maskedData).length <
      2 * hash.digestSize + 1 := by
    rw [List.length_append, hmaskedSeed, hdata]
    omega
  have hlabel := hsized.length_run []
  rw [decode?]
  dsimp only
  rw [if_neg hlong, List.take_left' hmaskedSeed, List.drop_left' hmaskedSeed, hseedBack, hdataBack,
    block, List.append_assoc, List.take_left' hlabel, List.drop_left' hlabel,
    List.dropWhile_append_of_pos (by simp)]
  exact if_pos ⟨rfl, rfl⟩

theorem decode?_of_encode? (hsized : hash.IsSized) (hseed : seed.length = hash.digestSize)
    (hencode : encode? hash size seed message = some encoded) :
    decode? hash encoded = some message := by
  obtain ⟨hmessage, rfl⟩ := encode?_eq_some_iff.1 hencode
  exact decode?_masked hsized hseed hmessage rfl

/-- An encoding fills the size it is made for and starts with a zero. -/
theorem exists_eq_zero_cons (hsized : hash.IsSized) (hseed : seed.length = hash.digestSize)
    (hencode : encode? hash size seed message = some encoded) :
    ∃ rest, encoded = 0 :: rest ∧ rest.length = size - 1 ∧ 0 < size := by
  obtain ⟨hmessage, rfl⟩ := encode?_eq_some_iff.1 hencode
  refine ⟨_, rfl, ?_, by omega⟩
  rw [List.length_append, Bytes.xor_length, Bytes.xor_length, hseed, length_mask hsized,
    length_mask hsized, length_block hsized hmessage]
  omega

end Oaep

end Encoding

/-- Wrapping fails for nothing but the length of the message. -/
theorem exists_encrypt?_eq_some {key : PublicKey} {message : Bytes}
    (h : message.length + 66 ≤ key.size) (seed : Bytes) :
    ∃ wrapped, encrypt? key seed message = some wrapped := by
  have hencode : ∃ encoded, Oaep.encode? .sha256 key.size seed message = some encoded :=
    ⟨_, Oaep.encode?_eq_some_iff.2 ⟨h, rfl⟩⟩
  obtain ⟨encoded, hencoded⟩ := hencode
  rw [encrypt?, hencoded]
  exact ⟨_, rfl⟩

section KeyPair

variable {key : PrivateKey} {rest : Bytes}

/-- A block of the size of the key that starts with a zero stands for a number below
the modulus. -/
theorem PrivateKey.IsPair.toNat_zero_cons_lt (hkey : key.IsPair)
    (hrest : rest.length = key.publicKey.size - 1) :
    Bytes.toNat (0 :: rest) < key.publicKey.modulus := by
  rw [Bytes.toNat_zero_cons]
  exact Nat.lt_of_lt_of_le (Bytes.toNat_lt hrest) (PublicKey.le_modulus hkey.modulus_ne_zero)

theorem PrivateKey.IsPair.powMod_lt (hkey : key.IsPair) (value exponent : Nat) :
    powMod value exponent key.publicKey.modulus < key.publicKey.modulus := by
  rw [powMod_eq]
  exact Nat.mod_lt _ (Nat.pos_of_ne_zero hkey.modulus_ne_zero)

/-- A power fits the size of the key. -/
theorem PrivateKey.IsPair.toNat_ofNat_powMod (hkey : key.IsPair) (value exponent : Nat) :
    Bytes.toNat (Bytes.ofNat key.publicKey.size (powMod value exponent key.publicKey.modulus)) =
      powMod value exponent key.publicKey.modulus :=
  Bytes.toNat_ofNat ((hkey.powMod_lt value exponent).trans key.publicKey.modulus_lt)

/-- The private key recovers what was wrapped for its public half. -/
theorem PrivateKey.IsPair.decrypt?_of_encrypt? (hkey : key.IsPair) {seed message wrapped : Bytes}
    (hseed : seed.length = 32) (hencrypt : encrypt? key.publicKey seed message = some wrapped) :
    decrypt? key wrapped = some message := by
  obtain ⟨encoded, hencode, rfl⟩ := Option.map_eq_some_iff.1 hencrypt
  obtain ⟨rest, rfl, hrest, hsize⟩ := Oaep.exists_eq_zero_cons Hash.isSized_sha256 hseed hencode
  have hlength : (0 :: rest).length = key.publicKey.size := by
    rw [List.length_cons, hrest]
    omega
  rw [decrypt?, hkey.toNat_ofNat_powMod, if_pos ⟨Bytes.length_ofNat _ _, hkey.powMod_lt _ _⟩,
    hkey.powMod_powMod (hkey.toNat_zero_cons_lt hrest), Bytes.ofNat_toNat hlength]
  exact Oaep.decode?_of_encode? Hash.isSized_sha256 hseed hencode

end KeyPair

section Example

/-- Three times a power of two, and one. -/
def prothNumber (exponent : Nat) : Nat := 3 * 2 ^ exponent + 1

theorem eq_two_or_three_of_dvd {prime exponent : Nat} (hprime : prime.Prime)
    (hdvd : prime ∣ 3 * 2 ^ exponent) : prime = 2 ∨ prime = 3 := by
  rcases hprime.dvd_mul.1 hdvd with hthree | htwo
  · exact .inr ((Nat.prime_dvd_prime_iff_eq hprime Nat.prime_three).1 hthree)
  · exact .inl ((Nat.prime_dvd_prime_iff_eq hprime Nat.prime_two).1 (hprime.dvd_of_dvd_pow htwo))

/-- Lucas's test for a number whose predecessor has the factors two and three
only. -/
theorem prime_prothNumber {exponent : Nat} (base : Nat)
    (hone : powMod base (3 * 2 ^ exponent) (prothNumber exponent) = 1)
    (hhalf : powMod base (3 * 2 ^ exponent / 2) (prothNumber exponent) ≠ 1)
    (hthird : powMod base (3 * 2 ^ exponent / 3) (prothNumber exponent) ≠ 1) :
    (prothNumber exponent).Prime := by
  have hpositive : 0 < 2 ^ exponent := Nat.two_pow_pos exponent
  have htwo : 2 ≤ prothNumber exponent := by
    rw [prothNumber]
    omega
  have hcast (power : Nat) : (base : ZMod (prothNumber exponent)) ^ power = 1 ↔
      powMod base power (prothNumber exponent) = 1 := by
    rw [powMod_eq, ← Nat.cast_pow, ← Nat.cast_one, ZMod.natCast_eq_natCast_iff',
      Nat.mod_eq_of_lt htwo]
  apply lucas_primality (prothNumber exponent) base
  · exact (hcast _).2 hone
  · intro prime hprime hdvd
    rw [ne_eq, hcast]
    rcases eq_two_or_three_of_dvd hprime hdvd with rfl | rfl
    · exact hhalf
    · exact hthird

/-- A key pair with a modulus of 850 bits, enough for content keys of 32 bytes. -/
def PrivateKey.proth : PrivateKey where
  publicKey := ⟨prothNumber 408 * prothNumber 438, 5⟩
  exponent := (6 * 2 ^ 438 + 1) / 5
  prime1 := prothNumber 408
  prime2 := prothNumber 438

theorem PrivateKey.isPair_proth : proth.IsPair where
  isUsable := by decide +kernel
  prime1 := prime_prothNumber 11 (by decide +kernel) (by decide +kernel) (by decide +kernel)
  prime2 := prime_prothNumber 5 (by decide +kernel) (by decide +kernel) (by decide +kernel)
  ne := by decide +kernel

end Example

end Crypto.Rsa

end LocalCloud
