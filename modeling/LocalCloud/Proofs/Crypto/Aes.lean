import LocalCloud.Crypto.Aes
import Mathlib.Data.List.GetD
import Mathlib.Data.List.Induction

/-!
# AES decryption undoes encryption

The steps of a round are undone one by one: the substitution by its inverse
table, the rotation of the rows by the opposite rotation, and the product with
the column matrix by the product with the inverse matrix.  The last is a
statement about bytes of a single bit, since multiplication by a factor distributes
over the exclusive or.
-/

namespace LocalCloud.Crypto.Aes

/-- Looks up a substitute by walking along the table. -/
def entry (table : Array UInt8) (b : UInt8) : UInt8 := table.toList.getD b.toNat 0

theorem getD_eq_entry (table : Array UInt8) (b : UInt8) : table.getD b.toNat 0 = entry table b := by
  rw [entry, Array.getD_eq_getD_getElem?, ← Array.getElem?_toList, List.getD_eq_getElem?_getD]

/-- What stands in the substitution box is substituted back to its place there. -/
theorem map_entry_sbox :
    sbox.toList.map (entry inverseSbox) = (List.range 256).map UInt8.ofNat := by
  decide +kernel

theorem unsub_sub (b : UInt8) : unsub (sub b) = b := by
  have hplace : b.toNat < ((List.range 256).map UInt8.ofNat).length := by
    rw [List.length_map, List.length_range]
    exact b.toNat_lt
  calc unsub (sub b)
      = entry inverseSbox (entry sbox b) := by rw [unsub, sub, getD_eq_entry, getD_eq_entry]
    _ = (sbox.toList.map (entry inverseSbox)).getD b.toNat (entry inverseSbox 0) := by
        rw [List.getD_map]
        rfl
    _ = ((List.range 256).map UInt8.ofNat).getD b.toNat (entry inverseSbox 0) := by
        rw [map_entry_sbox]
    _ = b := by
        rw [List.getD_eq_getElem _ _ hplace, List.getElem_map, List.getElem_range,
          UInt8.ofNat_toNat]

section Permutation

theorem length_permute (positions : List Nat) (block : Bytes) :
    (permute positions block).length = positions.length :=
  List.length_map _

theorem permute_permute {first second : List Nat} (h : ∀ position ∈ second, position < first.length)
    (block : Bytes) :
    permute second (permute first block) =
      permute (second.map fun position => first.getD position 0) block := by
  rw [permute, permute, permute, List.map_map]
  apply List.map_congr_left
  intro position hposition
  have hlt := h position hposition
  have hmapped : position < (first.map fun position => block.getD position 0).length := by
    rw [List.length_map]
    exact hlt
  rw [List.getD_eq_getElem _ _ hmapped, List.getElem_map, Function.comp_apply,
    List.getD_eq_getElem _ _ hlt]

theorem permute_range (block : Bytes) : permute (List.range block.length) block = block := by
  apply List.ext_getElem
  · rw [length_permute, List.length_range]
  · intro position hleft hright
    simp [permute, hright]

theorem unshiftRows_shiftRows {block : Bytes} (h : block.length = 16) :
    unshiftRows (shiftRows block) = block := by
  rw [unshiftRows, shiftRows, permute_permute (by decide)]
  have hpositions :
      ([0, 13, 10, 7, 4, 1, 14, 11, 8, 5, 2, 15, 12, 9, 6, 3].map fun position =>
        [0, 5, 10, 15, 4, 9, 14, 3, 8, 13, 2, 7, 12, 1, 6, 11].getD position 0) =
        List.range block.length := by
    rw [h]
    decide
  rw [hpositions, permute_range]

end Permutation

section Columns

variable (a b c d : UInt8)

theorem and_xor_distrib (mask : UInt8) : (a ^^^ b) &&& mask = (a &&& mask) ^^^ (b &&& mask) := by
  apply UInt8.eq_of_toBitVec_eq
  apply BitVec.eq_of_getLsbD_eq
  intro bit _
  simp [Bool.and_xor_distrib_right]

/-- The bytes of a single bit. -/
def bits : List UInt8 := (List.range 8).map fun place => ⟨BitVec.twoPow 8 place⟩

theorem land_bit {bit : UInt8} (h : bit ∈ bits) : a &&& bit = 0 ∨ a &&& bit = bit := by
  obtain ⟨place, -, rfl⟩ := List.mem_map.1 h
  have hand := BitVec.and_twoPow a.toBitVec place
  split at hand
  · exact .inr (UInt8.eq_of_toBitVec_eq hand)
  · exact .inl (UInt8.eq_of_toBitVec_eq hand)

/-- A byte is the exclusive or of its bits. -/
theorem xor_bits : (a &&& 1) ^^^ ((a &&& 2) ^^^ ((a &&& 4) ^^^ ((a &&& 8) ^^^ ((a &&& 16) ^^^
    ((a &&& 32) ^^^ ((a &&& 64) ^^^ (a &&& 128))))))) = a := by
  have hxor (first second : UInt8) :
      (a &&& first) ^^^ (a &&& second) = a &&& (first ^^^ second) := by
    rw [UInt8.and_comm a, UInt8.and_comm a, ← and_xor_distrib, UInt8.and_comm]
  rw [hxor, hxor, hxor, hxor, hxor, hxor, hxor]
  exact UInt8.and_neg_one

/-- Maps that distribute over the exclusive or are the same if they agree on single bits. -/
theorem eq_of_xor {left : UInt8 → UInt8} (right : UInt8 → UInt8)
    (hleft : ∀ a b, left (a ^^^ b) = left a ^^^ left b)
    (hright : ∀ a b, right (a ^^^ b) = right a ^^^ right b)
    (h : bits.all (fun bit => left bit == right bit) = true) : left a = right a := by
  have hzero {f : UInt8 → UInt8} (hf : ∀ a b, f (a ^^^ b) = f a ^^^ f b) : f 0 = 0 := by
    have hself := hf 0 0
    rw [UInt8.xor_self, UInt8.xor_self] at hself
    exact hself
  have hbit {bit : UInt8} (hmem : bit ∈ bits) : left (a &&& bit) = right (a &&& bit) := by
    rcases land_bit a hmem with hnone | hsingle
    · rw [hnone, hzero hleft, hzero hright]
    · rw [hsingle]
      exact beq_iff_eq.1 (List.all_eq_true.1 h bit hmem)
  rw [← xor_bits a]
  simp only [hleft, hright]
  rw [hbit (by decide), hbit (by decide), hbit (by decide), hbit (by decide), hbit (by decide),
    hbit (by decide), hbit (by decide), hbit (by decide)]

theorem double_xor : double (a ^^^ b) = double a ^^^ double b := by
  have hreduction :
      (if (a &&& 0x80) ^^^ (b &&& 0x80) == 0 then (0 : UInt8) else 0x1B) =
        (if a &&& 0x80 == 0 then 0 else 0x1B) ^^^ (if b &&& 0x80 == 0 then 0 else 0x1B) := by
    have htop : (0x80 : UInt8) ∈ bits := by decide
    rcases land_bit a htop with ha | ha <;> rcases land_bit b htop with hb | hb <;>
      rw [ha, hb] <;> rfl
  rw [double, double, double, UInt8.shiftLeft_xor, and_xor_distrib, hreduction]
  ac_rfl

theorem times_xor (factor : Nat) : times factor (a ^^^ b) = times factor a ^^^ times factor b := by
  have hpick (chosen : Bool) (x y : UInt8) :
      (if chosen then x ^^^ y else 0) =
        (if chosen then x else 0) ^^^ (if chosen then y else 0) := by
    cases chosen <;> simp
  simp only [times, double_xor, hpick]
  ac_rfl

/-- The rows of the two column matrices multiply to a row of the unit matrix. -/
theorem times_diagonal : ∀ x : UInt8,
    times 14 (times 2 x) ^^^ times 11 (times 1 x) ^^^ times 13 (times 1 x) ^^^ times 9 (times 3 x)
      = x := by
  intro x
  apply eq_of_xor x fun x => x
  · intro a b
    simp only [times_xor]
    ac_rfl
  · intro a b
    rfl
  · rfl

theorem times_first : ∀ x : UInt8,
    times 14 (times 3 x) ^^^ times 11 (times 2 x) ^^^ times 13 (times 1 x) ^^^ times 9 (times 1 x)
      = 0 := by
  intro x
  apply eq_of_xor x fun _ => 0
  · intro a b
    simp only [times_xor]
    ac_rfl
  · intro a b
    rfl
  · rfl

theorem times_second : ∀ x : UInt8,
    times 14 (times 1 x) ^^^ times 11 (times 3 x) ^^^ times 13 (times 2 x) ^^^ times 9 (times 1 x)
      = 0 := by
  intro x
  apply eq_of_xor x fun _ => 0
  · intro a b
    simp only [times_xor]
    ac_rfl
  · intro a b
    rfl
  · rfl

theorem times_third : ∀ x : UInt8,
    times 14 (times 1 x) ^^^ times 11 (times 1 x) ^^^ times 13 (times 3 x) ^^^ times 9 (times 2 x)
      = 0 := by
  intro x
  apply eq_of_xor x fun _ => 0
  · intro a b
    simp only [times_xor]
    ac_rfl
  · intro a b
    rfl
  · rfl

theorem times_mixed :
    times 14 (times 2 a ^^^ times 3 b ^^^ times 1 c ^^^ times 1 d)
      ^^^ times 11 (times 1 a ^^^ times 2 b ^^^ times 3 c ^^^ times 1 d)
      ^^^ times 13 (times 1 a ^^^ times 1 b ^^^ times 2 c ^^^ times 3 d)
      ^^^ times 9 (times 3 a ^^^ times 1 b ^^^ times 1 c ^^^ times 2 d) = a := by
  calc
    _ = (times 14 (times 2 a) ^^^ times 11 (times 1 a) ^^^ times 13 (times 1 a)
          ^^^ times 9 (times 3 a))
        ^^^ (times 14 (times 3 b) ^^^ times 11 (times 2 b) ^^^ times 13 (times 1 b)
          ^^^ times 9 (times 1 b))
        ^^^ (times 14 (times 1 c) ^^^ times 11 (times 3 c) ^^^ times 13 (times 2 c)
          ^^^ times 9 (times 1 c))
        ^^^ (times 14 (times 1 d) ^^^ times 11 (times 1 d) ^^^ times 13 (times 3 d)
          ^^^ times 9 (times 2 d)) := by
      simp only [times_xor]
      ac_rfl
    _ = a := by
      rw [times_diagonal, times_first, times_second, times_third]
      simp

end Columns

/-- What holds of no columns, and of a column and others when it holds of the
others, holds of all blocks that consist of whole columns. -/
theorem columns_induction {motive : Bytes → Prop} (nil : motive [])
    (column : ∀ a b c d rest, motive rest → motive (a :: b :: c :: d :: rest))
    (block : Bytes) (whole : block.length % 4 = 0) : motive block := by
  match block with
  | [] => exact nil
  | [_] | [_, _] | [_, _, _] => simp at whole
  | a :: b :: c :: d :: rest =>
      have hrest : rest.length % 4 = 0 := by
        simp only [List.length_cons] at whole
        omega
      exact column a b c d rest (columns_induction nil column rest hrest)

theorem length_mixColumns (p q r s : Nat) {block : Bytes} (h : block.length % 4 = 0) :
    (mixColumns p q r s block).length = block.length := by
  apply columns_induction (motive := fun block =>
    (mixColumns p q r s block).length = block.length) rfl _ block h
  intro a b c d rest ih
  simp only [mixColumns, List.length_cons, ih]

theorem mixColumns_mixColumns {block : Bytes} (h : block.length % 4 = 0) :
    mixColumns 14 11 13 9 (mixColumns 2 3 1 1 block) = block := by
  apply columns_induction (motive := fun block =>
    mixColumns 14 11 13 9 (mixColumns 2 3 1 1 block) = block) rfl _ block h
  intro a b c d rest ih
  -- Every byte of a column is the first one of a rotated column.
  have hb := times_mixed b c d a
  have hc := times_mixed c d a b
  have hd := times_mixed d a b c
  simp only [mixColumns, List.cons.injEq]
  refine ⟨times_mixed a b c d, Eq.trans ?_ hb, Eq.trans ?_ hc, Eq.trans ?_ hd, ih⟩
  all_goals ac_rfl

section Rounds

variable {state key : Bytes}

/-- What a round does with the state before the columns are mixed. -/
def scramble (state : Bytes) : Bytes := shiftRows (state.map sub)

def unscramble (state : Bytes) : Bytes := (unshiftRows state).map unsub

/-- A round before the last one. -/
def round (state key : Bytes) : Bytes := Bytes.xor (mixColumns 2 3 1 1 (scramble state)) key

theorem length_scramble (state : Bytes) : (scramble state).length = 16 :=
  length_permute _ _

theorem unscramble_scramble (h : state.length = 16) : unscramble (scramble state) = state := by
  have hmapped : (state.map sub).length = 16 := by
    rw [List.length_map]
    exact h
  have hinverse : unsub ∘ sub = id := by
    funext b
    rw [Function.comp_apply, unsub_sub, id_eq]
  rw [unscramble, scramble, unshiftRows_shiftRows hmapped, List.map_map, hinverse, List.map_id]

theorem length_mixed (state : Bytes) : (mixColumns 2 3 1 1 (scramble state)).length = 16 := by
  rw [length_mixColumns _ _ _ _ (by rw [length_scramble]), length_scramble]

theorem length_round (state : Bytes) (hkey : key.length = 16) : (round state key).length = 16 := by
  rw [round, Bytes.xor_length, length_mixed, hkey, Nat.min_self]

theorem encryptRounds_append (state : Bytes) (keys : List Bytes) (last : Bytes) :
    encryptRounds state (keys ++ [last]) =
      Bytes.xor (scramble (keys.foldl round state)) last := by
  induction keys generalizing state with
  | nil => rfl
  | cons key keys ih =>
      rw [List.foldl_cons, ← ih]
      cases keys <;> rfl

theorem decryptRounds_cons (state key : Bytes) (keys : List Bytes) (first : Bytes) :
    decryptRounds state (key :: (keys ++ [first])) =
      decryptRounds (mixColumns 14 11 13 9 (Bytes.xor (unscramble state) key))
        (keys ++ [first]) := by
  cases keys <;> rfl

/-- The rounds are undone from the last one back to the first. -/
theorem decryptRounds_scramble (first : Bytes) (hstate : state.length = 16) {keys : List Bytes}
    (hkeys : ∀ key ∈ keys, key.length = 16) :
    decryptRounds (scramble (keys.foldl round state)) (keys.reverse ++ [first]) =
      Bytes.xor state first := by
  induction keys using List.reverseRecOn with
  | nil =>
      have hstart : unscramble (scramble state) = state := unscramble_scramble hstate
      exact congrArg (Bytes.xor · first) hstart
  | append_singleton keys key ih =>
      obtain ⟨hrest, hlast⟩ := List.forall_mem_append.1 hkeys
      have hkey : key.length = 16 := hlast key (List.mem_singleton_self key)
      rw [List.foldl_append, List.foldl_cons, List.foldl_nil, List.reverse_append,
        List.reverse_singleton, List.singleton_append, List.cons_append, decryptRounds_cons,
        unscramble_scramble (length_round _ hkey), round,
        Bytes.xor_xor_cancel (Nat.le_of_eq (by rw [length_mixed, hkey])),
        mixColumns_mixColumns (by rw [length_scramble]), ih hrest]

end Rounds

section KeySchedule

variable {size : Nat} {words : List Bytes} {key : Bytes}

theorem length_getD_of_forall {position : Nat} (hwords : ∀ word ∈ words, word.length = 4)
    (h : position < words.length) : (words.getD position []).length = 4 := by
  rw [List.getD_eq_getElem _ _ h]
  exact hwords _ (List.getElem_mem h)

theorem length_expand (size count index : Nat) (constant : UInt8) (words : List Bytes) :
    (expand size count index constant words).length = words.length + count := by
  induction count generalizing index constant words with
  | zero => rfl
  | succ count ih =>
      rw [expand, ih, List.length_cons]
      omega

theorem length_of_mem_expand (hsize : 0 < size) (henough : size ≤ words.length)
    (hwords : ∀ word ∈ words, word.length = 4) (count index : Nat) (constant : UInt8) :
    ∀ word ∈ expand size count index constant words, word.length = 4 := by
  induction count generalizing index constant words with
  | zero => exact hwords
  | succ count ih =>
      have hlast : (words.headD []).length = 4 := by
        have hfirst := length_getD_of_forall hwords (Nat.lt_of_lt_of_le hsize henough)
        cases words <;> exact hfirst
      have hback : (words.getD (size - 1) []).length = 4 :=
        length_getD_of_forall hwords (by omega)
      rw [expand]
      generalize words.headD [] = last at hlast
      apply ih
      · rw [List.length_cons]
        exact Nat.le_succ_of_le henough
      · apply List.forall_mem_cons.2 ⟨_, hwords⟩
        rw [Bytes.xor_length, hback]
        split
        · simp [Bytes.xor_length, hlast]
        · split <;> simp [hlast]

theorem length_words (hne : key ≠ []) (hwhole : key.length % 4 = 0) :
    0 < key.length / 4 ∧ (Bytes.blocks 4 key).length = key.length / 4 := by
  have hlength := Bytes.length_blocks (by decide) hwhole
  have hpositive : 0 < key.length := List.length_pos_iff.2 hne
  omega

/-- A key of whole words has round keys for a block, and more than one. -/
theorem roundKeys_whole (hne : key ≠ []) (hwhole : key.length % 4 = 0) :
    (∀ roundKey ∈ roundKeys key, roundKey.length = 16) ∧ 2 ≤ (roundKeys key).length := by
  obtain ⟨hpositive, hcount⟩ := length_words hne hwhole
  have hstart : ∀ word ∈ (Bytes.blocks 4 key).reverse, word.length = 4 := by
    intro word hword
    exact Bytes.length_of_mem_blocks (by decide) hwhole word (List.mem_reverse.1 hword)
  have hlength : (Bytes.blocks 4 key).reverse.length = key.length / 4 := by
    rw [List.length_reverse, hcount]
  have hschedule (count index : Nat) (constant : UInt8) :=
    length_of_mem_expand hpositive (Nat.le_of_eq hlength.symm) hstart count index constant
  rw [roundKeys]
  generalize hwords : (expand _ _ _ _ _).reverse = words
  have hword : ∀ word ∈ words, word.length = 4 := by
    intro word hmem
    rw [← hwords, List.mem_reverse] at hmem
    exact hschedule _ _ _ word hmem
  have htotal : words.flatten.length = 16 * (key.length / 4 + 7) := by
    rw [Bytes.length_flatten_of_forall hword, ← hwords, List.length_reverse, length_expand, hlength]
    omega
  have hblocks : words.flatten.length % 16 = 0 := by
    rw [htotal, Nat.mul_mod_right]
  refine ⟨Bytes.length_of_mem_blocks (by decide) hblocks, ?_⟩
  have hrounds := Bytes.length_blocks (by decide) hblocks
  omega

/-- The keys of the first and the last round stand apart from those between. -/
theorem exists_roundKeys_eq (hne : key ≠ []) (hwhole : key.length % 4 = 0) :
    ∃ first keys last, roundKeys key = first :: (keys ++ [last]) ∧ first.length = 16 ∧
      (∀ roundKey ∈ keys, roundKey.length = 16) ∧ last.length = 16 := by
  obtain ⟨hlengths, hmany⟩ := roundKeys_whole hne hwhole
  rcases hkeys : roundKeys key with _ | ⟨first, rest⟩
  · simp [hkeys] at hmany
  · have hrest : rest ≠ [] := by
      rintro rfl
      simp [hkeys] at hmany
    rw [hkeys, List.forall_mem_cons] at hlengths
    obtain ⟨hfirst, hrests⟩ := hlengths
    rw [← List.dropLast_concat_getLast hrest, List.forall_mem_append] at hrests
    refine ⟨first, rest.dropLast, rest.getLast hrest, ?_, hfirst, hrests.1, ?_⟩
    · rw [List.dropLast_concat_getLast]
    · exact hrests.2 _ (List.mem_singleton_self _)

end KeySchedule

section Blocks

variable {key block : Bytes}

theorem length_encryptBlock (hne : key ≠ []) (hwhole : key.length % 4 = 0) (block : Bytes) :
    (encryptBlock key block).length = 16 := by
  obtain ⟨first, keys, last, hkeys, -, -, hlast⟩ := exists_roundKeys_eq hne hwhole
  rw [encryptBlock, hkeys]
  dsimp only
  rw [encryptRounds_append, Bytes.xor_length, length_scramble, hlast, Nat.min_self]

/-- Decryption undoes encryption under the same key. -/
theorem decryptBlock_encryptBlock (hne : key ≠ []) (hwhole : key.length % 4 = 0)
    (hblock : block.length = 16) : decryptBlock key (encryptBlock key block) = block := by
  obtain ⟨first, keys, last, hkeys, hfirst, hmiddle, hlast⟩ := exists_roundKeys_eq hne hwhole
  have hreverse : (roundKeys key).reverse = last :: (keys.reverse ++ [first]) := by
    rw [hkeys, List.reverse_cons, List.reverse_append, List.reverse_singleton,
      List.singleton_append, List.cons_append]
  have hstart : (Bytes.xor block first).length = 16 := by
    rw [Bytes.xor_length, hblock, hfirst, Nat.min_self]
  rw [decryptBlock, encryptBlock, hreverse, hkeys]
  dsimp only
  rw [encryptRounds_append, Bytes.xor_xor_cancel (Nat.le_of_eq (by rw [length_scramble, hlast])),
    decryptRounds_scramble first hstart hmiddle,
    Bytes.xor_xor_cancel (Nat.le_of_eq (by rw [hblock, hfirst]))]

end Blocks

end LocalCloud.Crypto.Aes
