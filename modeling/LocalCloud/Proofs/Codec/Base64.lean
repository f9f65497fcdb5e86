import LocalCloud.Codec.Base64
import LocalCloud.Text.Whitespace

/-!
# Base64 is read back

Decoding undoes encoding at every length, with padding and without, and reads no other
text than the one that encoding writes.  The digits of the alphabet for URLs are neither
dots nor white space, so a text of segments that are separated by dots can be cut apart
and trimmed without damage to a segment; the characters of a padded text are neither
dashes nor white space, so boundaries and line ends around it are told apart from it.
-/

namespace LocalCloud.Base64

variable {alphabet : Alphabet} {bytes : Bytes}

theorem Alphabet.value?_digit {value : Nat} (h : value < 64) :
    alphabet.value? (alphabet.digit value) = some value := by
  revert value
  cases alphabet <;> decide

theorem mem_digits {c : Char} (h : c ∈ digits alphabet bytes) :
    ∃ value < 64, c = alphabet.digit value := by
  fun_induction digits alphabet bytes with
  | case1 => cases h
  | case2 x n =>
      have hx := x.toNat_lt
      simp only [List.mem_cons, List.not_mem_nil, or_false] at h
      rcases h with rfl | rfl
      · exact ⟨n / 64, by omega, rfl⟩
      · exact ⟨n % 64, by omega, rfl⟩
  | case3 x y n =>
      have hx := x.toNat_lt
      have hy := y.toNat_lt
      simp only [List.mem_cons, List.not_mem_nil, or_false] at h
      rcases h with rfl | rfl | rfl
      · exact ⟨n / 4096, by omega, rfl⟩
      · exact ⟨n / 64 % 64, by omega, rfl⟩
      · exact ⟨n % 64, by omega, rfl⟩
  | case4 x y z rest n ih =>
      have hx := x.toNat_lt
      have hy := y.toNat_lt
      have hz := z.toNat_lt
      simp only [List.mem_cons] at h
      rcases h with rfl | rfl | rfl | rfl | hrest
      · exact ⟨n / 262144, by omega, rfl⟩
      · exact ⟨n / 4096 % 64, by omega, rfl⟩
      · exact ⟨n / 64 % 64, by omega, rfl⟩
      · exact ⟨n % 64, by omega, rfl⟩
      · exact ih hrest

theorem ofDigits?_digits (alphabet : Alphabet) (bytes : Bytes) :
    ofDigits? alphabet (digits alphabet bytes) = some bytes := by
  fun_induction digits alphabet bytes with
  | case1 => rfl
  | case2 x n =>
      have hx := x.toNat_lt
      have hjoin : n / 64 * 64 + n % 64 = x.toNat * 16 := by omega
      have hlow : x.toNat * 16 % 16 = 0 := by omega
      have hbyte : x.toNat * 16 / 16 = x.toNat := by omega
      rw [ofDigits?, Alphabet.value?_digit (by omega), Alphabet.value?_digit (by omega)]
      simp [hjoin, hlow, hbyte]
  | case3 x y n =>
      have hx := x.toNat_lt
      have hy := y.toNat_lt
      have hjoin : (n / 4096 * 64 + n / 64 % 64) * 64 + n % 64 = n := by omega
      have hlow : n % 4 = 0 := by omega
      have hfirst : n / 1024 = x.toNat := by omega
      have hsecond : n / 4 % 256 = y.toNat := by omega
      rw [ofDigits?, Alphabet.value?_digit (by omega), Alphabet.value?_digit (by omega),
        Alphabet.value?_digit (by omega)]
      simp [hjoin, hlow, hfirst, hsecond]
  | case4 x y z rest n ih =>
      have hx := x.toNat_lt
      have hy := y.toNat_lt
      have hz := z.toNat_lt
      have hjoin : ((n / 262144 * 64 + n / 4096 % 64) * 64 + n / 64 % 64) * 64 + n % 64 = n := by
        omega
      have hfirst : n / 65536 = x.toNat := by omega
      have hsecond : n / 256 % 256 = y.toNat := by omega
      have hthird : n % 256 = z.toNat := by omega
      rw [ofDigits?, Alphabet.value?_digit (by omega), Alphabet.value?_digit (by omega),
        Alphabet.value?_digit (by omega), Alphabet.value?_digit (by omega)]
      simp [hjoin, hfirst, hsecond, hthird, ih]

theorem decodeUrl?_encodeUrl (bytes : Bytes) : decodeUrl? (encodeUrl bytes) = some bytes := by
  rw [decodeUrl?, encodeUrl, String.toList_ofList, ofDigits?_digits]

/-- A character that may stand in a segment: no dot and no white space. -/
def IsSegmentChar (c : Char) : Prop :=
  c ≠ '.' ∧ Text.isBlank c = false

theorem isSegmentChar_digit {value : Nat} (h : value < 64) :
    IsSegmentChar (Alphabet.urlSafe.digit value) := by
  unfold IsSegmentChar
  revert value
  decide

theorem isSegmentChar_of_mem_encodeUrl {c : Char} (h : c ∈ (encodeUrl bytes).toList) :
    IsSegmentChar c := by
  rw [encodeUrl, String.toList_ofList] at h
  obtain ⟨value, hvalue, rfl⟩ := mem_digits h
  exact isSegmentChar_digit hvalue

section Padding

/-- A character that may stand in a line of a block: no dash and no white space. -/
def IsBodyChar (c : Char) : Prop :=
  c ≠ '-' ∧ Text.isBlank c = false

theorem standard_digit {value : Nat} (h : value < 64) :
    Alphabet.standard.digit value ≠ '=' ∧ IsBodyChar (Alphabet.standard.digit value) := by
  unfold IsBodyChar
  revert value
  decide

/-- The last group of digits stands for one byte or two, never for less. -/
theorem length_digits_mod (alphabet : Alphabet) (bytes : Bytes) :
    (digits alphabet bytes).length % 4 ≠ 1 := by
  fun_induction digits alphabet bytes with
  | case1 => decide
  | case2 x n => simp
  | case3 x y n => simp
  | case4 x y z rest n ih =>
      simp only [List.length_cons]
      omega

theorem dropPadding_loop_replicate {count padding : Nat} (h : padding ≤ count) {chars : List Char}
    (hchars : '=' ∉ chars) :
    dropPadding.loop count (List.replicate padding '=' ++ chars) = chars.reverse := by
  induction padding generalizing count with
  | zero =>
      rw [List.replicate_zero, List.nil_append]
      cases chars with
      | nil => cases count <;> rfl
      | cons c chars =>
          have hc : '=' ≠ c := List.ne_of_not_mem_cons hchars
          rw [dropPadding.loop]
          rintro _ _ - heq
          exact hc (List.cons.inj heq).1.symm
  | succ padding ih =>
      obtain ⟨count, rfl⟩ := Nat.exists_eq_add_one.2 (Nat.lt_of_lt_of_le (Nat.succ_pos _) h)
      rw [List.replicate_succ, List.cons_append, dropPadding.loop,
        ih (Nat.le_of_succ_le_succ h)]

theorem dropPadding_append {count padding : Nat} (h : padding ≤ count) {chars : List Char}
    (hchars : '=' ∉ chars) :
    dropPadding count (chars ++ List.replicate padding '=') = chars := by
  have hreverse : '=' ∉ chars.reverse := fun hmem => hchars (List.mem_reverse.1 hmem)
  rw [dropPadding, List.reverse_append, List.reverse_replicate,
    dropPadding_loop_replicate h hreverse, List.reverse_reverse]

theorem decode?_encode (bytes : Bytes) : decode? (encode bytes) = some bytes := by
  have hmod := length_digits_mod .standard bytes
  have hplain : '=' ∉ digits .standard bytes := by
    intro hmem
    obtain ⟨value, hvalue, heq⟩ := mem_digits hmem
    exact (standard_digit hvalue).1 heq.symm
  have hpadding : (4 - (digits .standard bytes).length % 4) % 4 ≤ 2 := by omega
  have hwhole : (digits .standard bytes ++ List.replicate
      ((4 - (digits .standard bytes).length % 4) % 4) '=').length % 4 = 0 := by
    rw [List.length_append, List.length_replicate]
    omega
  rw [decode?, encode]
  simp only [String.toList_ofList]
  rw [if_pos hwhole, dropPadding_append hpadding hplain, ofDigits?_digits]

theorem encode_eq_empty_iff : encode bytes = "" ↔ bytes = [] := by
  constructor
  · intro h
    have hread := decode?_encode bytes
    rw [h] at hread
    exact (Option.some.inj hread).symm
  · rintro rfl
    rfl

theorem quote_not_mem_encode : '"' ∉ (encode bytes).toList := by
  have hdigit {value : Nat} (h : value < 64) : '"' ≠ Alphabet.standard.digit value := by
    revert value
    decide
  simp only [encode, String.toList_ofList, List.mem_append, List.mem_replicate]
  rintro (hmem | ⟨-, heq⟩)
  · obtain ⟨value, hvalue, heq⟩ := mem_digits hmem
    exact hdigit hvalue heq
  · exact absurd heq (by decide)

theorem isBodyChar_of_mem_encode {c : Char} (h : c ∈ (encode bytes).toList) : IsBodyChar c := by
  simp only [encode, String.toList_ofList, List.mem_append, List.mem_replicate] at h
  rcases h with hdigit | ⟨-, rfl⟩
  · obtain ⟨value, hvalue, rfl⟩ := mem_digits hdigit
    exact (standard_digit hvalue).2
  · exact ⟨by decide, by decide⟩

end Padding

section Canonical

variable {chars : List Char} {text : String}

/-- Whatever has a value is the digit of that value. -/
theorem Alphabet.eq_digit_of_value? {c : Char} {value : Nat} (h : alphabet.value? c = some value) :
    value < 64 ∧ c = alphabet.digit value := by
  have hchar {code : Nat} (hcode : code = c.toNat) : c = Char.ofNat code := by
    rw [hcode, Char.ofNat_toNat]
  unfold Alphabet.value? at h
  dsimp only at h
  split at h
  next hupper =>
    cases h
    unfold digit
    rw [if_pos (by omega)]
    exact ⟨by omega, hchar (by omega)⟩
  next =>
    split at h
    next hlower =>
      cases h
      unfold digit
      rw [if_neg (by omega), if_pos (by omega)]
      exact ⟨by omega, hchar (by omega)⟩
    next =>
      split at h
      next hdecimal =>
        cases h
        unfold digit
        rw [if_neg (by omega), if_neg (by omega), if_pos (by omega)]
        exact ⟨by omega, hchar (by omega)⟩
      next =>
        cases alphabet <;> dsimp only at h <;> split at h
        case standard.isTrue hplus =>
          cases h
          exact ⟨by decide, hplus⟩
        case urlSafe.isTrue hminus =>
          cases h
          exact ⟨by decide, hminus⟩
        all_goals
          split at h
          next hlast =>
            cases h
            exact ⟨by decide, hlast⟩
          next => cases h

theorem toNat_ofNat_of_lt {value : Nat} (h : value < 256) : (UInt8.ofNat value).toNat = value :=
  UInt8.toNat_ofNat_of_lt' h

/-- No bits are left over behind the last byte, so a group of digits is the one that its
bytes are written as. -/
theorem eq_digits_of_ofDigits? (h : ofDigits? alphabet chars = some bytes) :
    chars = digits alphabet bytes := by
  fun_induction ofDigits? alphabet chars generalizing bytes with
  | case1 =>
      cases h
      rfl
  | case2 => cases h
  | case3 p q =>
      simp only [Option.bind_eq_bind, Option.bind_eq_some_iff, Option.ite_none_right_eq_some] at h
      obtain ⟨first, hp, second, hq, hlow, hbytes⟩ := h
      cases hbytes
      obtain ⟨hfirst, rfl⟩ := Alphabet.eq_digit_of_value? hp
      obtain ⟨hsecond, rfl⟩ := Alphabet.eq_digit_of_value? hq
      rw [digits, toNat_ofNat_of_lt (by omega)]
      congr <;> omega
  | case4 p q r =>
      simp only [Option.bind_eq_bind, Option.bind_eq_some_iff, Option.ite_none_right_eq_some] at h
      obtain ⟨first, hp, second, hq, third, hr, hlow, hbytes⟩ := h
      cases hbytes
      obtain ⟨hfirst, rfl⟩ := Alphabet.eq_digit_of_value? hp
      obtain ⟨hsecond, rfl⟩ := Alphabet.eq_digit_of_value? hq
      obtain ⟨hthird, rfl⟩ := Alphabet.eq_digit_of_value? hr
      rw [digits, toNat_ofNat_of_lt (by omega), toNat_ofNat_of_lt (by omega)]
      congr <;> omega
  | case5 p q r s rest ih =>
      simp only [Option.bind_eq_bind, Option.bind_eq_some_iff] at h
      obtain ⟨first, hp, second, hq, third, hr, fourth, hs, tail, hrest, hbytes⟩ := h
      cases hbytes
      obtain ⟨hfirst, rfl⟩ := Alphabet.eq_digit_of_value? hp
      obtain ⟨hsecond, rfl⟩ := Alphabet.eq_digit_of_value? hq
      obtain ⟨hthird, rfl⟩ := Alphabet.eq_digit_of_value? hr
      obtain ⟨hfourth, rfl⟩ := Alphabet.eq_digit_of_value? hs
      rw [digits, toNat_ofNat_of_lt (by omega), toNat_ofNat_of_lt (by omega),
        toNat_ofNat_of_lt (by omega), ← ih hrest]
      congr <;> omega

theorem ofDigits?_eq_some_iff :
    ofDigits? alphabet chars = some bytes ↔ chars = digits alphabet bytes := by
  constructor
  · exact eq_digits_of_ofDigits?
  · rintro rfl
    exact ofDigits?_digits alphabet bytes

/-- The only text that is read as some bytes is the one they are written as. -/
theorem decodeUrl?_eq_some_iff : decodeUrl? text = some bytes ↔ text = encodeUrl bytes := by
  rw [decodeUrl?, ofDigits?_eq_some_iff, encodeUrl, ← String.toList_inj, String.toList_ofList]

/-- What is taken away at the end is padding, and at most as much as is allowed. -/
theorem exists_eq_dropPadding_append (count : Nat) (chars : List Char) :
    ∃ padding ≤ count, chars = dropPadding count chars ++ List.replicate padding '=' := by
  have hloop (count : Nat) (reversed : List Char) : ∃ padding ≤ count,
      reversed.reverse = dropPadding.loop count reversed ++ List.replicate padding '=' := by
    fun_induction dropPadding.loop count reversed with
    | case1 count rest ih =>
        obtain ⟨padding, hpadding, hrest⟩ := ih
        refine ⟨padding + 1, Nat.succ_le_succ hpadding, ?_⟩
        rw [List.reverse_cons, hrest, List.replicate_succ', List.append_assoc]
    | case2 count chars => exact ⟨0, Nat.zero_le _, (List.append_nil _).symm⟩
  obtain ⟨padding, hpadding, hchars⟩ := hloop count chars.reverse
  rw [List.reverse_reverse] at hchars
  exact ⟨padding, hpadding, hchars⟩

/-- Digits are followed by exactly the padding that makes their groups whole. -/
theorem decode?_eq_some_iff : decode? text = some bytes ↔ text = encode bytes := by
  constructor
  · intro h
    unfold decode? at h
    dsimp only at h
    rw [Option.ite_none_right_eq_some, ofDigits?_eq_some_iff] at h
    obtain ⟨hwhole, hdigits⟩ := h
    obtain ⟨padding, hpadding, hchars⟩ := exists_eq_dropPadding_append 2 text.toList
    rw [hdigits] at hchars
    have hcount : padding = (4 - (digits .standard bytes).length % 4) % 4 := by
      rw [hchars, List.length_append, List.length_replicate] at hwhole
      omega
    rw [encode, ← String.toList_inj, String.toList_ofList, hchars, hcount]
  · rintro rfl
    exact decode?_encode bytes

end Canonical

end LocalCloud.Base64
