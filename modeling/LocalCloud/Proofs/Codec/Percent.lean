import LocalCloud.Codec.Percent
import LocalCloud.Proofs.Http.HeaderValues
import LocalCloud.Proofs.Text.Segments
import LocalCloud.Proofs.Text.Utf8

/-!
# Queries are read back

A query is written in one of two conventions and read in a way that understands
both.  What the conventions have in common is how they may write a byte: as the
character it is, as a plus sign if it is a space, or escaped.  None of these forms
holds a separator, so the separators of a query are those that were put between
its parameters.
-/

namespace LocalCloud

open Http (IsPrintable)

namespace Percent

/-- The ways to write a byte of a name or value. -/
inductive Spells : List Char → UInt8 → Prop where
  | kept {b : UInt8} (h : isUnreserved b = true ∨ isFormSafe b = true) :
      Spells [Char.ofNat b.toNat] b
  | space : Spells ['+'] 0x20
  | escaped (b : UInt8) : Spells (escape b) b

/-- The characters that names and values are written with.  Neither the separators
of a query nor the mark of a fragment is among them. -/
def IsQueryChar (c : Char) : Prop :=
  IsPrintable c ∧ c ≠ '&' ∧ c ≠ '=' ∧ c ≠ '#'

instance (c : Char) : Decidable (IsQueryChar c) :=
  inferInstanceAs (Decidable ((32 ≤ c.toNat ∧ c.toNat < 127) ∧ c ≠ '&' ∧ c ≠ '=' ∧ c ≠ '#'))

/-- What reading does to a byte before percent decoding. -/
def unplus (b : UInt8) : UInt8 :=
  if b == 0x2B then 0x20 else b

section Spelling

variable {chars : List Char} {b : UInt8}

theorem isQueryChar_kept : ∀ b : UInt8, isUnreserved b = true ∨ isFormSafe b = true →
    IsQueryChar (Char.ofNat b.toNat) := by
  apply Bytes.forall_byte
  decide +kernel

theorem isQueryChar_escape (b : UInt8) : ∀ c ∈ escape b, IsQueryChar c := by
  have hall : ∀ b : UInt8, (escape b).all (fun c => decide (IsQueryChar c)) = true := by
    apply Bytes.forall_byte
    decide +kernel
  intro c hc
  exact of_decide_eq_true (List.all_eq_true.1 (hall b) c hc)

theorem Spells.isQueryChar (h : Spells chars b) : ∀ c ∈ chars, IsQueryChar c := by
  cases h with
  | kept hkept => simpa using isQueryChar_kept b hkept
  | space =>
      rw [List.forall_mem_singleton]
      decide
  | escaped => exact isQueryChar_escape b

theorem encodeChars_kept : ∀ b : UInt8, isUnreserved b = true ∨ isFormSafe b = true →
    (Utf8.encodeChars [Char.ofNat b.toNat]).map unplus = [b] ∧ (b == 0x25) = false := by
  apply Bytes.forall_byte
  decide +kernel

/-- The byte of a hexadecimal digit is left alone, and read as the digit. -/
theorem unplus_hexUpper {digit : Nat} (h : digit < 16) :
    unplus (UInt8.ofNat (Text.hexUpper digit).toNat) =
        UInt8.ofNat (Text.hexUpper digit).toNat ∧
      Text.hexDigit? (Char.ofNat (UInt8.ofNat (Text.hexUpper digit).toNat).toNat) =
        some digit := by
  revert digit
  decide

theorem decodeBytes_cons_of_ne (h : (b == 0x25) = false) (rest : Bytes) :
    decodeBytes (b :: rest) = b :: decodeBytes rest := by
  have hne : ¬ (b == 0x25) = true := by simp [h]
  match rest with
  | [] | [_] => rw [decodeBytes.eq_3 _ _ (by simp), if_neg hne]
  | _ :: _ :: _ => rw [decodeBytes, if_neg hne]

/-- A written byte is read as that byte. -/
theorem Spells.decodeBytes_append (h : Spells chars b) (rest : Bytes) :
    decodeBytes ((Utf8.encodeChars chars).map unplus ++ rest) = b :: decodeBytes rest := by
  cases h with
  | kept hkept =>
      obtain ⟨hbytes, hplain⟩ := encodeChars_kept b hkept
      rw [hbytes, List.singleton_append, decodeBytes_cons_of_ne hplain]
  | space =>
      have hbytes : (Utf8.encodeChars ['+']).map unplus = [0x20] := by decide
      rw [hbytes, List.singleton_append, decodeBytes_cons_of_ne (by decide)]
  | escaped =>
      have hhigh : b.toNat / 16 < 16 := by
        have hb := b.toNat_lt
        omega
      have hlow : b.toNat % 16 < 16 := Nat.mod_lt _ (by decide)
      have hprintable : ∀ c ∈ escape b, IsPrintable c := fun c hc => (isQueryChar_escape b c hc).1
      have hvalue : b.toNat / 16 * 16 + b.toNat % 16 = b.toNat := by omega
      rw [Http.encodeChars_of_isPrintable hprintable, escape]
      simp only [List.map_cons, List.map_nil, List.cons_append, List.nil_append,
        unplus_hexUpper hhigh, unplus_hexUpper hlow]
      rw [decodeBytes, if_pos (by decide)]
      simp only [unplus_hexUpper hhigh, unplus_hexUpper hlow, hvalue, UInt8.ofNat_toNat]

theorem decodeBytes_flatMap {write : UInt8 → List Char} (hwrite : ∀ b, Spells (write b) b)
    (bytes : Bytes) :
    decodeBytes ((Utf8.encodeChars (bytes.flatMap write)).map unplus) = bytes := by
  induction bytes with
  | nil => exact decodeBytes.eq_1
  | cons b bytes ih =>
      rw [List.flatMap_cons, Utf8.encodeChars, List.flatMap_append, List.map_append,
        ← Utf8.encodeChars, ← Utf8.encodeChars, (hwrite b).decodeBytes_append, ih]

end Spelling

/-- An encoding of texts that writes them byte by byte. -/
def IsEncoding (encode : String → String) : Prop :=
  ∃ write : UInt8 → List Char, (∀ b, Spells (write b) b) ∧
    ∀ text, encode text = String.ofList ((Utf8.encode text).flatMap write)

theorem isEncoding_encode : IsEncoding encode := by
  refine ⟨fun b => if isUnreserved b then [Char.ofNat b.toNat] else escape b, ?_, fun _ => rfl⟩
  intro b
  dsimp only
  split
  next h => exact .kept (.inl h)
  next => exact .escaped b

theorem isEncoding_encodeForm : IsEncoding encodeForm := by
  refine ⟨fun b => if isFormSafe b then [Char.ofNat b.toNat] else
    if b == 0x20 then ['+'] else escape b, ?_, fun _ => rfl⟩
  intro b
  dsimp only
  split
  next h => exact .kept (.inr h)
  next =>
    split
    next h =>
      rw [beq_iff_eq.1 h]
      exact .space
    next => exact .escaped b

section Encoding

variable {encode : String → String} (h : IsEncoding encode)
include h

theorem IsEncoding.isQueryChar (text : String) : ∀ c ∈ (encode text).toList, IsQueryChar c := by
  obtain ⟨write, hwrite, hencode⟩ := h
  intro c hc
  rw [hencode, String.toList_ofList, List.mem_flatMap] at hc
  obtain ⟨b, -, hc⟩ := hc
  exact (hwrite b).isQueryChar c hc

theorem IsEncoding.readComponent_encode (text : String) :
    Query.readComponent (Utf8.encode (encode text)) = text := by
  obtain ⟨write, hwrite, hencode⟩ := h
  have hchars : Utf8.encode (encode text) =
      Utf8.encodeChars ((Utf8.encode text).flatMap write) := by
    rw [hencode, Utf8.encode, String.toList_ofList]
  calc Query.readComponent (Utf8.encode (encode text))
      = Utf8.decodeLossy (decodeBytes ((Utf8.encode (encode text)).map unplus)) := rfl
    _ = Utf8.decodeLossy (Utf8.encode text) := by rw [hchars, decodeBytes_flatMap hwrite]
    _ = text := Utf8.decodeLossy_encode text

end Encoding

end Percent

namespace Query

open Percent (IsEncoding IsQueryChar)

/-- The byte of a character that is sent as one byte is not in a text without that
character. -/
theorem not_mem_encodeChars {separator : Char} (hseparator : IsPrintable separator)
    {chars : List Char} (hchars : ∀ c ∈ chars, IsPrintable c) (hmem : separator ∉ chars) :
    UInt8.ofNat separator.toNat ∉ Utf8.encodeChars chars := by
  rw [Http.encodeChars_of_isPrintable hchars, List.mem_map]
  rintro ⟨c, hc, heq⟩
  have hcode : c.toNat = separator.toNat := by
    rw [← (hchars c hc).toNat_ofNat, heq, hseparator.toNat_ofNat]
  have hsame : c = separator := by rw [← Char.ofNat_toNat c, hcode, Char.ofNat_toNat]
  exact hmem (hsame ▸ hc)

theorem splitBytes_eq_splitOn (separator : UInt8) (bytes : Bytes) :
    splitBytes separator bytes = bytes.splitOn separator := by
  induction bytes with
  | nil => rfl
  | cons b bytes ih =>
      rw [splitBytes, ih, List.splitOn_cons_eq_if_modifyHead]
      split
      · rfl
      · obtain ⟨first, others, hparts⟩ :=
          List.exists_cons_of_ne_nil (List.splitOn_ne_nil separator bytes)
        rw [hparts]
        rfl

theorem encodeChars_intercalate (separator : Char) (parts : List (List Char)) :
    Utf8.encodeChars ([separator].intercalate parts) =
      (Utf8.encodeChars [separator]).intercalate (parts.map Utf8.encodeChars) := by
  induction parts with
  | nil => rfl
  | cons part parts ih =>
      cases parts with
      | nil => rw [List.intercalate_singleton, List.map_singleton, List.intercalate_singleton]
      | cons next parts =>
          rw [List.intercalate_cons_cons, List.map_cons, List.map_cons,
            List.intercalate_cons_cons, ← List.map_cons, ← ih]
          simp only [Utf8.encodeChars, List.flatMap_append]

/-- The bytes of a written parameter. -/
theorem encode_param (name value : String) :
    Utf8.encode (name ++ "=" ++ value) = Utf8.encode name ++ 0x3D :: Utf8.encode value := by
  have hequals : Utf8.encodeChars "=".toList = [0x3D] := by decide
  simp only [Utf8.encode, String.toList_append]
  rw [Utf8.encodeChars, List.flatMap_append, List.flatMap_append, ← Utf8.encodeChars,
    ← Utf8.encodeChars, ← Utf8.encodeChars, hequals, List.append_assoc, List.singleton_append]

section

variable {encode : String → String} (h : IsEncoding encode)
include h

/-- The separators are not among the bytes of an encoded text. -/
theorem separator_not_mem_encode {separator : Char} (hseparator : separator = '&' ∨ separator = '=')
    (text : String) : UInt8.ofNat separator.toNat ∉ Utf8.encode (encode text) := by
  have hchars := h.isQueryChar text
  refine not_mem_encodeChars ?_ (fun c hc => (hchars c hc).1) ?_
  · rcases hseparator with rfl | rfl <;> exact ⟨by decide, by decide⟩
  · intro hmem
    obtain ⟨-, hand, hequals, -⟩ := hchars separator hmem
    rcases hseparator with rfl | rfl
    · exact hand rfl
    · exact hequals rfl

/-- No fragment begins in a written query. -/
theorem hash_not_mem_render (params : Params) : '#' ∉ (render encode params).toList := by
  have hencoded (text : String) : '#' ∉ (encode text).toList := by
    intro hmem
    obtain ⟨-, -, -, hhash⟩ := h.isQueryChar text '#' hmem
    exact hhash rfl
  have hand : "&".toList = ['&'] := by decide
  have hequals : '#' ∉ "=".toList := by decide
  rw [render, String.toList_intercalate, hand]
  intro hmem
  rcases Text.mem_of_mem_intercalate hmem with hsame | ⟨part, hpart, hmem⟩
  · exact absurd hsame (by decide)
  · obtain ⟨text, htext, rfl⟩ := List.mem_map.1 hpart
    obtain ⟨param, -, rfl⟩ := List.mem_map.1 htext
    rw [String.toList_append, String.toList_append, List.mem_append, List.mem_append] at hmem
    rcases hmem with (hmem | hmem) | hmem
    · exact hencoded param.1 hmem
    · exact hequals hmem
    · exact hencoded param.2 hmem

/-- The first `=` of a written parameter is the one behind its name. -/
theorem readParam_written (name value : String) :
    readParam (Utf8.encode (encode name ++ "=" ++ encode value)) = (name, value) := by
  have hname : ∀ b ∈ Utf8.encode (encode name), (b != 0x3D) = true :=
    Text.bne_of_not_mem (separator_not_mem_encode h (.inr rfl) name)
  have htake (rest : Bytes) : (0x3D :: rest).takeWhile (· != 0x3D) = [] := rfl
  have hdrop (rest : Bytes) : (0x3D :: rest).dropWhile (· != 0x3D) = 0x3D :: rest := rfl
  rw [encode_param, readParam, List.takeWhile_append_of_pos hname,
    List.dropWhile_append_of_pos hname, htake, hdrop, List.append_nil, List.drop_one,
    List.tail_cons, h.readComponent_encode, h.readComponent_encode]

theorem and_not_mem_written (name value : String) :
    0x26 ∉ Utf8.encode (encode name ++ "=" ++ encode value) := by
  have hencoded (text : String) : 0x26 ∉ Utf8.encode (encode text) :=
    separator_not_mem_encode h (.inl rfl) text
  rw [encode_param, List.mem_append, List.mem_cons, not_or, not_or]
  exact ⟨hencoded name, by decide, hencoded value⟩

/-- What is written in either convention is read as the parameters that were
written, in their order. -/
theorem parse_render (params : Params) : parse (render encode params) = params := by
  let written (param : String × String) : Bytes :=
    Utf8.encode (encode param.1 ++ "=" ++ encode param.2)
  have hand : ∀ part ∈ params.map written, 0x26 ∉ part := by
    intro part hpart
    obtain ⟨param, -, rfl⟩ := List.mem_map.1 hpart
    exact and_not_mem_written h param.1 param.2
  have hkept : ∀ part ∈ params.map written, (!part.isEmpty) = true := by
    intro part hpart
    obtain ⟨param, -, rfl⟩ := List.mem_map.1 hpart
    simp [written, encode_param]
  have hread : (params.map written).map readParam = params := by
    rw [List.map_map, List.map_congr_left (g := id), List.map_id]
    intro param _
    exact readParam_written h param.1 param.2
  have hbytes : Utf8.encode (render encode params) = [0x26].intercalate (params.map written) := by
    have hseparator : Utf8.encodeChars ['&'] = [0x26] := by decide
    have hand : "&".toList = ['&'] := by decide
    rw [render, Utf8.encode, String.toList_intercalate, hand, encodeChars_intercalate, hseparator,
      List.map_map, List.map_map]
    rfl
  by_cases hnil : params = []
  · rw [hnil]
    rfl
  · have hparts : params.map written ≠ [] := mt List.map_eq_nil_iff.1 hnil
    calc parse (render encode params)
        = (([0x26].intercalate (params.map written)).splitOn 0x26 |>.filter (!·.isEmpty)).map
            readParam := by rw [parse, hbytes, splitBytes_eq_splitOn]
      _ = ((params.map written).filter (!·.isEmpty)).map readParam := by
          rw [List.splitOn_intercalate _ hand hparts]
      _ = (params.map written).map readParam := by rw [List.filter_eq_self.2 hkept]
      _ = params := hread

end

end Query

end LocalCloud
