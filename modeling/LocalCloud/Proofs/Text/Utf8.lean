import LocalCloud.Text.Utf8
import Mathlib.Tactic.Common

/-!
# UTF-8 is read back

The automaton returns to its start after the bytes of a character, having read that
character.  So decoding undoes encoding, and reading the encoding of a text is reading
its characters.
-/

namespace LocalCloud.Utf8

variable {done : List Piece} {more low high value code : Nat}

theorem feed_inside {b : UInt8} (hlow : low ≤ b.toNat) (hhigh : b.toNat ≤ high) :
    feed (done, .inside more low high value) b =
      if more = 1 then (some (Char.ofNat (value * 64 + (b.toNat - 0x80))) :: done, .between)
      else (done, .inside (more - 1) 0x80 0xBF (value * 64 + (b.toNat - 0x80))) := by
  rw [feed, if_pos ⟨hlow, hhigh⟩]

/-- The last byte of a character completes it. -/
theorem feed_last (hlow : low ≤ 0x80 + code % 64) (hhigh : 0x80 + code % 64 ≤ high) :
    feed (done, .inside 1 low high (code / 64)) (UInt8.ofNat (0x80 + code % 64)) =
      (some (Char.ofNat code) :: done, .between) := by
  have hbyte : (UInt8.ofNat (0x80 + code % 64)).toNat = 0x80 + code % 64 := by
    rw [UInt8.toNat_ofNat_of_lt']
    simp only [UInt8.size]
    omega
  have hcode : code / 64 * 64 + (0x80 + code % 64 - 0x80) = code := by omega
  rw [feed_inside (by omega) (by omega), if_pos rfl, hbyte, hcode]

/-- A byte in the middle of a character adds six bits. -/
theorem feed_middle (hmore : more ≠ 1) (hlow : low ≤ 0x80 + code % 64)
    (hhigh : 0x80 + code % 64 ≤ high) :
    feed (done, .inside more low high (code / 64)) (UInt8.ofNat (0x80 + code % 64)) =
      (done, .inside (more - 1) 0x80 0xBF code) := by
  have hbyte : (UInt8.ofNat (0x80 + code % 64)).toNat = 0x80 + code % 64 := by
    rw [UInt8.toNat_ofNat_of_lt']
    simp only [UInt8.size]
    omega
  have hcode : code / 64 * 64 + (0x80 + code % 64 - 0x80) = code := by omega
  rw [feed_inside (by omega) (by omega), if_neg hmore, hbyte, hcode]

theorem start_two {lead : Nat} (hlow : 2 ≤ lead) (hhigh : lead < 32) :
    start (0xC0 + lead) = .inr (.inside 1 0x80 0xBF lead) := by
  have hall : ∀ lead < 32, 2 ≤ lead →
      start (0xC0 + lead) = .inr (.inside 1 0x80 0xBF lead) := by
    decide
  exact hall lead hhigh hlow

/-- The second byte is restricted behind two of the leads of three bytes, against
overlong forms and surrogates. -/
theorem start_three {lead : Nat} (h : lead < 16) :
    start (0xE0 + lead) =
      .inr (.inside 2 (if lead = 0 then 0xA0 else 0x80) (if lead = 13 then 0x9F else 0xBF)
        lead) := by
  revert lead
  decide

theorem start_four {lead : Nat} (h : lead < 5) :
    start (0xF0 + lead) =
      .inr (.inside 3 (if lead = 0 then 0x90 else 0x80) (if lead = 4 then 0x8F else 0xBF)
        lead) := by
  revert lead
  decide

theorem feed_start {b : Nat} {pending : Pending} (hb : b < 256) (hstart : start b = .inr pending) :
    feed (done, .between) (UInt8.ofNat b) = (done, pending) := by
  have hbyte : (UInt8.ofNat b).toNat = b := UInt8.toNat_ofNat_of_lt' hb
  rw [feed, feedStart, hbyte, hstart]

theorem feed_ascii {b : Nat} (hb : b < 0x80) :
    feed (done, .between) (UInt8.ofNat b) = (some (Char.ofNat b) :: done, .between) := by
  have hbyte : (UInt8.ofNat b).toNat = b := UInt8.toNat_ofNat_of_lt' (Nat.lt_trans hb (by decide))
  rw [feed, feedStart, hbyte, start, if_pos hb]

/-- The bytes of a character are read as that character. -/
theorem foldl_feed_encodeChar (done : List Piece) (c : Char) :
    (encodeChar c).foldl feed (done, .between) = (some c :: done, .between) := by
  have hscalar : c.toNat < 0xD800 ∨ 0xDFFF < c.toNat ∧ c.toNat < 0x110000 := c.valid
  have hthird : c.toNat / 64 / 64 = c.toNat / 4096 := Nat.div_div_eq_div_mul _ _ _
  have hfourth : c.toNat / 4096 / 64 = c.toNat / 262144 := Nat.div_div_eq_div_mul _ _ _
  unfold encodeChar
  dsimp only
  by_cases hone : c.toNat < 0x80
  · rw [if_pos hone, List.foldl_cons, feed_ascii hone, Char.ofNat_toNat]
    rfl
  rw [if_neg hone]
  by_cases htwo : c.toNat < 0x800
  · rw [if_pos htwo, List.foldl_cons, List.foldl_cons,
      feed_start (by omega) (start_two (by omega) (by omega)),
      feed_last (by omega) (by omega), Char.ofNat_toNat]
    rfl
  rw [if_neg htwo]
  by_cases hthree : c.toNat < 0x10000
  · have hlow : (if c.toNat / 4096 = 0 then 0xA0 else 0x80) ≤ 0x80 + c.toNat / 64 % 64 := by
      split <;> omega
    have hhigh : 0x80 + c.toNat / 64 % 64 ≤ if c.toNat / 4096 = 13 then 0x9F else 0xBF := by
      split <;> omega
    rw [if_pos hthree, List.foldl_cons, List.foldl_cons, List.foldl_cons,
      feed_start (by omega) (start_three (by omega)), ← hthird,
      feed_middle (by decide) (by rw [hthird]; exact hlow) (by rw [hthird]; exact hhigh),
      feed_last (by omega) (by omega), Char.ofNat_toNat]
    rfl
  · have hlow : (if c.toNat / 262144 = 0 then 0x90 else 0x80) ≤ 0x80 + c.toNat / 4096 % 64 := by
      split <;> omega
    have hhigh : 0x80 + c.toNat / 4096 % 64 ≤ if c.toNat / 262144 = 4 then 0x8F else 0xBF := by
      split <;> omega
    rw [if_neg hthree, List.foldl_cons, List.foldl_cons, List.foldl_cons, List.foldl_cons,
      feed_start (by omega) (start_four (by omega)), ← hfourth,
      feed_middle (by decide) (by rw [hfourth]; exact hlow) (by rw [hfourth]; exact hhigh),
      ← hthird, feed_middle (by decide) (by omega) (by omega), feed_last (by omega) (by omega),
      Char.ofNat_toNat]
    rfl

theorem units_encodeChars (chars : List Char) : units (encodeChars chars) = chars.map some := by
  have hfold : ∀ done, (encodeChars chars).foldl feed (done, .between) =
      ((chars.map some).reverse ++ done, .between) := by
    induction chars with
    | nil =>
        intro done
        rfl
    | cons c chars ih =>
        intro done
        rw [encodeChars, List.flatMap_cons, List.foldl_append, foldl_feed_encodeChar,
          ← encodeChars, ih, List.map_cons, List.reverse_cons, List.append_assoc,
          List.singleton_append]
  rw [units, hfold, List.append_nil]
  exact List.reverse_reverse _

theorem allChars?_loop_map_some (chars done : List Char) :
    allChars?.loop (chars.map some) done = some (chars.reverse ++ done) := by
  induction chars generalizing done with
  | nil => rfl
  | cons c chars ih =>
      rw [List.map_cons, allChars?.loop, ih, List.reverse_cons, List.append_assoc,
        List.singleton_append]

theorem decode?_encode (text : String) : decode? (encode text) = some text := by
  rw [decode?, encode, units_encodeChars, allChars?, allChars?_loop_map_some]
  simp

theorem decodeLossy_encode (text : String) : decodeLossy (encode text) = text := by
  rw [decodeLossy, encode, units_encodeChars, List.map_map]
  simp [Function.comp_def]

end LocalCloud.Utf8
