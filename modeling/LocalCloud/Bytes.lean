/-!
# Byte strings

Message bodies, keys, digests and certificates are lists of octets.  The lists
are built and consumed in order, so every codec of the library is a recursion
on this one shape.
-/

namespace LocalCloud

/-- A finite sequence of octets. -/
abbrev Bytes := List UInt8

namespace Bytes

/-- What is checked for the 256 numbers of bytes holds of every byte. -/
theorem forall_byte {motive : UInt8 → Prop} (h : ∀ n : Fin 256, motive (UInt8.ofNat n))
    (b : UInt8) : motive b := by
  have hb := h ⟨b.toNat, b.toNat_lt⟩
  rw [UInt8.ofNat_toNat] at hb
  exact hb

/-- The value of a byte string read as one big-endian number. -/
def toNat (bytes : Bytes) : Nat :=
  bytes.foldl (fun value byte => value * 256 + byte.toNat) 0

/-- The last `width` base-256 digits of `value`, most significant first. -/
def ofNat (width value : Nat) : Bytes :=
  loop width value []
where
  /-- Puts the digits of `value` in front of `tail`, last digit first. -/
  loop : Nat → Nat → Bytes → Bytes
    | 0, _, tail => tail
    | width + 1, value, tail => loop width (value / 256) (UInt8.ofNat (value % 256) :: tail)

/-- The octet by octet exclusive or of two strings, as long as the shorter. -/
def xor (left right : Bytes) : Bytes :=
  List.zipWith (fun a b => a ^^^ b) left right

theorem xor_length (left right : Bytes) :
    (xor left right).length = min left.length right.length := by
  simp [xor]

/-- Mixing in the same bytes twice changes nothing. -/
theorem xor_xor_cancel {left right : Bytes} (h : left.length ≤ right.length) :
    xor (xor left right) right = left := by
  induction left generalizing right with
  | nil => simp [xor]
  | cons a left ih =>
      cases right with
      | nil => simp at h
      | cons b right =>
          have hrest : xor (xor left right) right = left := ih (by simpa using h)
          simp only [xor, List.zipWith_cons_cons, List.cons.injEq] at hrest ⊢
          refine ⟨?_, hrest⟩
          rw [UInt8.xor_assoc, UInt8.xor_self, UInt8.xor_zero]

/-- The bytes in consecutive blocks of `size`, the last one possibly shorter. -/
def blocks (size : Nat) (bytes : Bytes) : List Bytes :=
  loop bytes.length bytes
where
  /-- Cuts at most `fuel` blocks; a string never has more blocks than octets. -/
  loop : Nat → Bytes → List Bytes
    | 0, _ => []
    | fuel + 1, bytes =>
      if bytes.isEmpty then [] else bytes.take size :: loop fuel (bytes.drop size)

section Numbers

variable {width value : Nat} {bytes tail : Bytes}

theorem ofNat_loop (width value : Nat) (tail : Bytes) :
    ofNat.loop width value tail = ofNat width value ++ tail := by
  induction width generalizing value tail with
  | zero => rfl
  | succ width ih =>
      have hdigit := ih (value / 256) [UInt8.ofNat (value % 256)]
      rw [ofNat, ofNat.loop, ofNat.loop, ih, hdigit, List.append_assoc, List.singleton_append]

theorem ofNat_succ (width value : Nat) :
    ofNat (width + 1) value = ofNat width (value / 256) ++ [UInt8.ofNat (value % 256)] := by
  rw [ofNat, ofNat.loop, ofNat_loop]

@[simp]
theorem length_ofNat (width value : Nat) : (ofNat width value).length = width := by
  induction width generalizing value with
  | zero => rfl
  | succ width ih => rw [ofNat_succ, List.length_append, ih, List.length_singleton]

@[simp]
theorem toNat_nil : toNat [] = 0 := rfl

theorem toNat_append_singleton (bytes : Bytes) (byte : UInt8) :
    toNat (bytes ++ [byte]) = toNat bytes * 256 + byte.toNat := by
  rw [toNat, List.foldl_append]
  rfl

theorem exists_eq_append_singleton {width : Nat} {bytes : Bytes} (h : bytes.length = width + 1) :
    ∃ front last, bytes = front ++ [last] ∧ front.length = width := by
  have hne : bytes ≠ [] := List.ne_nil_of_length_eq_add_one h
  refine ⟨bytes.dropLast, bytes.getLast hne, (List.dropLast_concat_getLast hne).symm, ?_⟩
  rw [List.length_dropLast, h, Nat.add_sub_cancel]

/-- A byte string is the numeral of its value at its own width. -/
theorem ofNat_toNat {width : Nat} {bytes : Bytes} (h : bytes.length = width) :
    ofNat width (toNat bytes) = bytes := by
  induction width generalizing bytes with
  | zero =>
      rw [List.length_eq_zero_iff.1 h]
      rfl
  | succ width ih =>
      obtain ⟨front, last, rfl, hfront⟩ := exists_eq_append_singleton h
      have hlast := last.toNat_lt
      have hhigh : (toNat front * 256 + last.toNat) / 256 = toNat front := by omega
      have hlow : (toNat front * 256 + last.toNat) % 256 = last.toNat := by omega
      rw [toNat_append_singleton, ofNat_succ, hhigh, hlow, ih hfront, UInt8.ofNat_toNat]

/-- Zeros in front do not count. -/
theorem toNat_zero_cons (bytes : Bytes) : toNat (0 :: bytes) = toNat bytes := rfl

end Numbers

section Blocks

variable {size : Nat} {bytes first rest : Bytes}

@[simp]
theorem blocks_nil (size : Nat) : blocks size [] = [] := rfl

/-- Fuel beyond the length of the bytes makes no difference. -/
theorem blocks_loop (hsize : 0 < size) {fuel : Nat} (hfuel : bytes.length ≤ fuel) :
    blocks.loop size fuel bytes = blocks size bytes := by
  induction fuel using Nat.strongRecOn generalizing bytes with
  | ind fuel ih =>
      cases bytes with
      | nil => cases fuel <;> rfl
      | cons byte bytes =>
          have hdrop : ((byte :: bytes).drop size).length ≤ bytes.length := by
            rw [List.length_drop, List.length_cons]
            omega
          obtain _ | fuel := fuel
          · cases hfuel
          · have hbytes : bytes.length ≤ fuel := Nat.le_of_succ_le_succ hfuel
            have hshort : bytes.length < fuel + 1 := Nat.lt_succ_of_le hbytes
            rw [blocks, List.length_cons, blocks.loop, blocks.loop,
              ih fuel (Nat.lt_succ_self fuel) (Nat.le_trans hdrop hbytes),
              ih bytes.length hshort hdrop]

/-- A full block, or a last one of any length, is cut off whole. -/
theorem blocks_append (hfirst : first ≠ []) (hsize : first.length ≤ size)
    (hfull : first.length = size ∨ rest = []) :
    blocks size (first ++ rest) = first :: blocks size rest := by
  have hpositive : 0 < size := Nat.lt_of_lt_of_le (List.length_pos_iff.2 hfirst) hsize
  have hcut : (first ++ rest).take size = first ∧ (first ++ rest).drop size = rest := by
    rcases hfull with rfl | rfl
    · exact ⟨List.take_left, List.drop_left⟩
    · rw [List.append_nil]
      exact ⟨List.take_of_length_le hsize, List.drop_of_length_le hsize⟩
  obtain ⟨fuel, hfuel⟩ : ∃ fuel, first.length = fuel + 1 :=
    Nat.exists_eq_add_one.2 (List.length_pos_iff.2 hfirst)
  have hlength : (first ++ rest).length = rest.length + fuel + 1 := by
    rw [List.length_append, hfuel]
    omega
  have hempty : (first ++ rest).isEmpty = false := by
    rw [List.isEmpty_eq_false_iff]
    exact List.append_ne_nil_of_left_ne_nil hfirst rest
  rw [blocks, hlength, blocks.loop, hempty, hcut.1, hcut.2,
    blocks_loop hpositive (Nat.le_add_right _ _)]
  rfl

/-- Whole blocks are found again where they were put together. -/
theorem blocks_flatten {parts : List Bytes} (hsize : 0 < size)
    (hparts : ∀ part ∈ parts, part.length = size) : blocks size parts.flatten = parts := by
  induction parts with
  | nil => rfl
  | cons part parts ih =>
      obtain ⟨hpart, hrest⟩ := List.forall_mem_cons.1 hparts
      have hne : part ≠ [] := by
        apply List.ne_nil_of_length_pos
        rw [hpart]
        exact hsize
      rw [List.flatten_cons, blocks_append hne (Nat.le_of_eq hpart) (.inl hpart), ih hrest]

/-- What holds of no bytes, and of a block and what follows when it holds of what
follows, holds of all bytes. -/
theorem blocks_induction {motive : Bytes → Prop} (hsize : 0 < size) (nil : motive [])
    (append : ∀ first rest, first ≠ [] → first.length ≤ size →
      (first.length = size ∨ rest = []) → motive rest → motive (first ++ rest))
    (bytes : Bytes) : motive bytes := by
  induction h : bytes.length using Nat.strongRecOn generalizing bytes with
  | ind length ih =>
      by_cases hnil : bytes = []
      · rw [hnil]
        exact nil
      · have hpositive : 0 < bytes.length := List.length_pos_iff.2 hnil
        have hrest : motive (bytes.drop size) := by
          apply ih (bytes.drop size).length _ _ rfl
          rw [← h, List.length_drop]
          omega
        have hfirst : bytes.take size ≠ [] := by
          apply List.ne_nil_of_length_pos
          rw [List.length_take]
          omega
        have hshort : (bytes.take size).length ≤ size := List.length_take_le size bytes
        have hfull : (bytes.take size).length = size ∨ bytes.drop size = [] := by
          rcases Nat.le_total size bytes.length with hlong | hend
          · exact .inl (List.length_take_of_le hlong)
          · exact .inr (List.drop_of_length_le hend)
        have happend := append _ _ hfirst hshort hfull hrest
        rw [List.take_append_drop] at happend
        exact happend

theorem flatten_blocks (hsize : 0 < size) (bytes : Bytes) :
    (blocks size bytes).flatten = bytes := by
  induction bytes using blocks_induction hsize with
  | nil => rfl
  | append first rest hfirst hshort hfull ih =>
      rw [blocks_append hfirst hshort hfull, List.flatten_cons, ih]

/-- Bytes that make up whole blocks are cut into whole blocks. -/
theorem length_of_mem_blocks (hsize : 0 < size) {bytes : Bytes} (hwhole : bytes.length % size = 0) :
    ∀ block ∈ blocks size bytes, block.length = size := by
  induction bytes using blocks_induction hsize with
  | nil => simp
  | append first rest hfirst hshort hfull ih =>
      have hpositive : 0 < first.length := List.length_pos_iff.2 hfirst
      have hlength : first.length = size := by
        rcases hfull with hfull | rfl
        · exact hfull
        · rw [List.append_nil] at hwhole
          have hle := Nat.le_of_dvd hpositive (Nat.dvd_of_mod_eq_zero hwhole)
          exact Nat.le_antisymm hshort hle
      have hrest : rest.length % size = 0 := by
        rw [List.length_append, hlength, Nat.add_mod_left] at hwhole
        exact hwhole
      rw [blocks_append hfirst hshort hfull]
      exact List.forall_mem_cons.2 ⟨hlength, ih hrest⟩

theorem length_flatten_of_forall {parts : List Bytes} (h : ∀ part ∈ parts, part.length = size) :
    parts.flatten.length = parts.length * size := by
  induction parts with
  | nil => simp
  | cons part parts ih =>
      obtain ⟨hpart, hrest⟩ := List.forall_mem_cons.1 h
      rw [List.flatten_cons, List.length_append, hpart, ih hrest, List.length_cons, Nat.add_mul,
        Nat.one_mul, Nat.add_comm]

theorem length_blocks (hsize : 0 < size) (hwhole : bytes.length % size = 0) :
    (blocks size bytes).length * size = bytes.length := by
  rw [← length_flatten_of_forall (length_of_mem_blocks hsize hwhole), flatten_blocks hsize]

end Blocks

end Bytes

end LocalCloud
