import LocalCloud.Crypto.Cbc
import LocalCloud.Crypto.Gcm

/-!
# The modes of operation decrypt what they encrypted

Both modes are followed block by block for a cipher about which only the size of
its results is known, and for chaining that another function inverts it.  The
counter mode uses the cipher in one direction only, so mixing twice restores the
text without an inverse.
-/

namespace LocalCloud.Crypto

variable {cipher decipher : Bytes → Bytes} {iv text : Bytes}

namespace Cbc

section Padding

theorem pad_count (text : Bytes) :
    0 < blockSize - text.length % blockSize ∧ blockSize - text.length % blockSize ≤ blockSize := by
  have hlt : text.length % blockSize < blockSize := Nat.mod_lt _ (by decide)
  omega

theorem length_pad (text : Bytes) : (pad text).length % blockSize = 0 := by
  rw [pad, List.length_append, List.length_replicate, blockSize]
  omega

theorem unpad?_append_replicate {count : Nat} (hpositive : 0 < count) (hsize : count ≤ blockSize)
    (text : Bytes) :
    unpad? (text ++ List.replicate count (UInt8.ofNat count)) = some text := by
  have hlast : (text ++ List.replicate count (UInt8.ofNat count)).getLast? =
      some (UInt8.ofNat count) := by
    rw [List.getLast?_append, List.getLast?_replicate, if_neg (Nat.ne_of_gt hpositive)]
    rfl
  have hcount : (UInt8.ofNat count).toNat = count := by
    rw [blockSize] at hsize
    rw [UInt8.toNat_ofNat']
    omega
  have hkept : (text ++ List.replicate count (UInt8.ofNat count)).length - count = text.length := by
    rw [List.length_append, List.length_replicate, Nat.add_sub_cancel]
  have henough : count ≤ (text ++ List.replicate count (UInt8.ofNat count)).length := by
    rw [List.length_append, List.length_replicate]
    exact Nat.le_add_left _ _
  rw [unpad?, hlast]
  dsimp only
  rw [hcount, hkept, List.drop_left, List.take_left, if_pos]
  exact ⟨hpositive, hsize, henough, by simp⟩

theorem unpad?_pad (text : Bytes) : unpad? (pad text) = some text :=
  unpad?_append_replicate (pad_count text).1 (pad_count text).2 text

end Padding

section Chaining

theorem length_of_mem_encryptBlocks (hlength : ∀ block, (cipher block).length = blockSize)
    (previous : Bytes) (blocks : List Bytes) :
    ∀ block ∈ encryptBlocks cipher previous blocks, block.length = blockSize := by
  induction blocks generalizing previous with
  | nil =>
      intro block hblock
      cases hblock
  | cons block blocks ih => exact List.forall_mem_cons.2 ⟨hlength _, ih _⟩

theorem decryptBlocks_encryptBlocks (hlength : ∀ block, (cipher block).length = blockSize)
    (hinverse : ∀ block, block.length = blockSize → decipher (cipher block) = block)
    {previous : Bytes} (hprevious : previous.length = blockSize) {blocks : List Bytes}
    (hblocks : ∀ block ∈ blocks, block.length = blockSize) :
    decryptBlocks decipher previous (encryptBlocks cipher previous blocks) = blocks := by
  induction blocks generalizing previous with
  | nil => rfl
  | cons block blocks ih =>
      obtain ⟨hblock, hrest⟩ := List.forall_mem_cons.1 hblocks
      have hmixed : (Bytes.xor block previous).length = blockSize := by
        rw [Bytes.xor_length, hblock, hprevious, Nat.min_self]
      have hcancel : Bytes.xor (Bytes.xor block previous) previous = block :=
        Bytes.xor_xor_cancel (Nat.le_of_eq (hblock.trans hprevious.symm))
      rw [encryptBlocks, decryptBlocks, hinverse _ hmixed, hcancel, ih (hlength _) hrest]

theorem decrypt?_encrypt (hlength : ∀ block, (cipher block).length = blockSize)
    (hinverse : ∀ block, block.length = blockSize → decipher (cipher block) = block)
    (hiv : iv.length = blockSize) (text : Bytes) :
    decrypt? decipher iv (encrypt cipher iv text) = some text := by
  have hsize : 0 < blockSize := by decide
  have hsealed := length_of_mem_encryptBlocks hlength iv (Bytes.blocks blockSize (pad text))
  have hwhole : (encrypt cipher iv text).length % blockSize = 0 := by
    rw [encrypt, Bytes.length_flatten_of_forall hsealed, Nat.mul_mod_left]
  have hpadded := Bytes.length_of_mem_blocks hsize (length_pad text)
  rw [decrypt?, if_pos hwhole, encrypt, Bytes.blocks_flatten hsize hsealed,
    decryptBlocks_encryptBlocks hlength hinverse hiv hpadded, Bytes.flatten_blocks hsize,
    unpad?_pad]

end Chaining

end Cbc

namespace Gcm

theorem length_tag (hlength : ∀ block, (cipher block).length = blockSize)
    (iv associated sealed : Bytes) : (tag cipher iv associated sealed).length = blockSize := by
  rw [tag, Bytes.xor_length, Bytes.length_ofNat, hlength, Nat.min_self]

/-- The same counters take out again what they put in. -/
theorem mixCounters_mixCounters (hlength : ∀ block, (cipher block).length = blockSize)
    (text : Bytes) (number : Nat) :
    (mixCounters cipher iv number (Bytes.blocks blockSize
      (mixCounters cipher iv number (Bytes.blocks blockSize text)).flatten)).flatten = text := by
  have hsize : 0 < blockSize := by decide
  induction text using Bytes.blocks_induction hsize generalizing number with
  | nil => rfl
  | append first rest hfirst hshort hfull ih =>
      have hcipher := hlength (counterBlock iv number)
      have hmixed : (Bytes.xor first (cipher (counterBlock iv number))).length = first.length := by
        rw [Bytes.xor_length, hcipher, Nat.min_eq_left hshort]
      have hne : Bytes.xor first (cipher (counterBlock iv number)) ≠ [] := by
        apply List.ne_nil_of_length_pos
        rw [hmixed]
        exact List.length_pos_iff.2 hfirst
      have hrest : (Bytes.xor first (cipher (counterBlock iv number))).length = blockSize ∨
          (mixCounters cipher iv (number + 1) (Bytes.blocks blockSize rest)).flatten = [] := by
        rw [hmixed]
        apply hfull.imp_right
        rintro rfl
        rfl
      have hcancel : Bytes.xor (Bytes.xor first (cipher (counterBlock iv number)))
          (cipher (counterBlock iv number)) = first :=
        Bytes.xor_xor_cancel (by rw [hcipher]; exact hshort)
      rw [Bytes.blocks_append hfirst hshort hfull, mixCounters, List.flatten_cons,
        Bytes.blocks_append hne (by rw [hmixed]; exact hshort) hrest, mixCounters,
        List.flatten_cons, hcancel, ih]

theorem decrypt?_encrypt (hlength : ∀ block, (cipher block).length = blockSize)
    (iv associated text : Bytes) :
    decrypt? cipher iv associated
      ((encrypt cipher iv associated text).1 ++ (encrypt cipher iv associated text).2) =
        some text := by
  have htag := length_tag hlength iv associated (mix cipher iv text)
  rw [encrypt]
  dsimp only
  have hlong : ¬ (mix cipher iv text ++ tag cipher iv associated (mix cipher iv text)).length
      < blockSize := by
    rw [List.length_append, htag]
    omega
  have hcut : (mix cipher iv text ++ tag cipher iv associated (mix cipher iv text)).length
      - blockSize = (mix cipher iv text).length := by
    rw [List.length_append, htag, Nat.add_sub_cancel]
  rw [decrypt?, if_neg hlong, hcut]
  dsimp only
  rw [List.take_left, List.drop_left, if_pos rfl]
  exact congrArg some (mixCounters_mixCounters hlength text 2)

end Gcm

end LocalCloud.Crypto
