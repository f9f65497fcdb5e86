import LocalCloud.Codec.Asn1
import LocalCloud.Proofs.Codec.Numeral

/-!
# Elements are read as they are written

An element is written as its tag, the length of its contents in the fewest bytes, and the
contents.  The reader accepts no other length, so it finds an element at the front of some
bytes exactly where one is written there, and what is read determines the bytes it was read
from.
-/

namespace LocalCloud.Asn1

open Bytes (widthOf widthOf_pos widthOf_le widthOf_eq lt_pow_widthOf pow_widthOf_le)

section Length

variable {length width : Nat} {bytes rest : Bytes}

/-- A length in the fewest bytes: in one below 128, and behind their number from there on. -/
def lengthBytes (length : Nat) : Bytes :=
  if length < 0x80 then [UInt8.ofNat length]
  else UInt8.ofNat (0x80 + widthOf length) :: Bytes.ofNat (widthOf length) length

theorem length_lengthBytes_le (h : length < 2 ^ 32) : (lengthBytes length).length ≤ 5 := by
  unfold lengthBytes
  split
  · simp
  · have hwidth : widthOf length ≤ 4 := widthOf_le (by omega) h
    simp only [List.length_cons, Bytes.length_ofNat]
    omega

theorem takeLength?_lengthBytes (h : length < 2 ^ 32) (rest : Bytes) :
    takeLength? (lengthBytes length ++ rest) = some (length, rest) := by
  unfold lengthBytes
  split
  · rename_i hshort
    have hfirst : (UInt8.ofNat length).toNat = length :=
      UInt8.toNat_ofNat_of_lt' (Nat.lt_trans hshort (by decide))
    simp [takeLength?, hfirst, hshort]
  · rename_i hlong
    have hpositive := widthOf_pos length
    have hwidth : widthOf length ≤ 4 := widthOf_le (by omega) h
    have hfirst : (UInt8.ofNat (0x80 + widthOf length)).toNat = 0x80 + widthOf length :=
      UInt8.toNat_ofNat_of_lt' (by change _ < 256; omega)
    have hcount : 0x80 + widthOf length - 0x80 = widthOf length := by omega
    have htake : (Bytes.ofNat (widthOf length) length ++ rest).take (widthOf length) =
        Bytes.ofNat (widthOf length) length :=
      List.take_left' (Bytes.length_ofNat _ _)
    have hdrop : (Bytes.ofNat (widthOf length) length ++ rest).drop (widthOf length) = rest :=
      List.drop_left' (Bytes.length_ofNat _ _)
    have hroom : widthOf length ≤ (Bytes.ofNat (widthOf length) length ++ rest).length := by
      simp
    have hlow : Nat.pow 256 (widthOf length - 1) ≤ length := pow_widthOf_le (by omega)
    have hlength := Bytes.toNat_ofNat (lt_pow_widthOf length)
    simp only [List.cons_append, takeLength?, hfirst, hcount, htake, hdrop, hlength]
    rw [if_neg (by omega), if_pos ⟨hpositive, hwidth, hroom, Nat.not_lt.1 hlong, hlow⟩]

/-- A number without a zero in front is written in its own bytes. -/
theorem lengthBytes_toNat (hbytes : bytes.length = width) (hwidth : 0 < width)
    (hlong : 0x80 ≤ Bytes.toNat bytes) (hlow : 256 ^ (width - 1) ≤ Bytes.toNat bytes) :
    lengthBytes (Bytes.toNat bytes) = UInt8.ofNat (0x80 + width) :: bytes := by
  have hsame : widthOf (Bytes.toNat bytes) = width :=
    widthOf_eq hwidth hlow (Bytes.toNat_lt hbytes)
  rw [lengthBytes, if_neg (Nat.not_lt.2 hlong), hsame, Bytes.ofNat_toNat hbytes]

theorem eq_lengthBytes_of_takeLength? (h : takeLength? bytes = some (length, rest)) :
    length < 2 ^ 32 ∧ bytes = lengthBytes length ++ rest := by
  cases bytes with
  | nil => cases h
  | cons first tail =>
      simp only [takeLength?] at h
      split at h
      · rename_i hshort
        cases h
        refine ⟨Nat.lt_trans hshort (by decide), ?_⟩
        rw [lengthBytes, if_pos hshort, UInt8.ofNat_toNat, List.singleton_append]
      · rename_i hlong
        obtain ⟨count, hcount⟩ := Nat.exists_eq_add_of_le (Nat.not_lt.1 hlong)
        have hfirst : UInt8.ofNat (0x80 + count) = first := by rw [← hcount, UInt8.ofNat_toNat]
        rw [hcount, Nat.add_sub_cancel_left] at h
        obtain ⟨hbounds, hresult⟩ := Option.ite_none_right_eq_some.1 h
        obtain ⟨hpositive, hmost, hroom, hlength, hlow⟩ := hbounds
        obtain ⟨rfl, rfl⟩ := Prod.mk.inj (Option.some.inj hresult)
        have htake : (tail.take count).length = count := List.length_take_of_le hroom
        have hbound : Bytes.toNat (tail.take count) < 2 ^ 32 :=
          Nat.lt_of_lt_of_le (Bytes.toNat_lt htake) (Nat.pow_le_pow_right (by decide) hmost)
        refine ⟨hbound, ?_⟩
        rw [lengthBytes_toNat htake hpositive hlength hlow, hfirst, List.cons_append,
          List.take_append_drop]

/-- A length is read exactly where it is written in the fewest bytes. -/
theorem takeLength?_eq_some_iff :
    takeLength? bytes = some (length, rest) ↔
      length < 2 ^ 32 ∧ bytes = lengthBytes length ++ rest := by
  constructor
  · exact eq_lengthBytes_of_takeLength?
  · rintro ⟨hbound, rfl⟩
    exact takeLength?_lengthBytes hbound rest

end Length

section Elements

variable {bytes rest : Bytes} {element : Element}

/-- The bytes of an element. -/
def encode (tag : UInt8) (contents : Bytes) : Bytes :=
  tag :: (lengthBytes contents.length ++ contents)

/-- An element with the bytes it is written in.  Its tag is a single byte. -/
structure Element.IsWritten (element : Element) : Prop where
  tag : element.tag &&& 0x1F ≠ 0x1F
  length : element.contents.length < 2 ^ 32
  raw : element.raw = encode element.tag element.contents

theorem length_encode_le (tag : UInt8) (contents : Bytes) (h : contents.length < 2 ^ 32) :
    (encode tag contents).length ≤ contents.length + 6 := by
  have hlength := length_lengthBytes_le h
  rw [encode, List.length_cons, List.length_append]
  omega

theorem encode_append (tag : UInt8) (contents rest : Bytes) :
    encode tag contents ++ rest = tag :: (lengthBytes contents.length ++ (contents ++ rest)) := by
  rw [encode, List.cons_append, List.append_assoc]

/-- What stands in front of a rest is found again by the length of the rest. -/
theorem take_length_sub_length (bytes rest : Bytes) :
    (bytes ++ rest).take ((bytes ++ rest).length - rest.length) = bytes := by
  rw [List.length_append, Nat.add_sub_cancel, List.take_left]

theorem take?_encode (tag : UInt8) (contents rest : Bytes) (htag : tag &&& 0x1F ≠ 0x1F)
    (hlength : contents.length < 2 ^ 32) :
    take? (encode tag contents ++ rest) = some (⟨tag, contents, encode tag contents⟩, rest) := by
  have hread := takeLength?_lengthBytes hlength (contents ++ rest)
  have hraw := take_length_sub_length (encode tag contents) rest
  rw [encode_append] at hraw ⊢
  rw [take?, if_neg (by simpa using htag), hread]
  simp only [bind, Option.bind_some, List.take_left, List.drop_left, hraw]
  rw [if_pos (by simp)]

theorem isWritten_of_take? (h : take? bytes = some (element, rest)) :
    element.IsWritten ∧ bytes = element.raw ++ rest := by
  cases bytes with
  | nil => cases h
  | cons tag bytes =>
      obtain ⟨htag, h⟩ := Option.ite_none_left_eq_some.1 h
      obtain ⟨⟨length, body⟩, hlength, h⟩ := Option.bind_eq_some_iff.1 h
      obtain ⟨hroom, hresult⟩ := Option.ite_none_right_eq_some.1 h
      obtain ⟨rfl, rfl⟩ := Prod.mk.inj (Option.some.inj hresult)
      obtain ⟨hbound, rfl⟩ := takeLength?_eq_some_iff.1 hlength
      have hcontents : (body.take length).length = length := List.length_take_of_le hroom
      have hbytes : tag :: (lengthBytes length ++ body) =
          encode tag (body.take length) ++ body.drop length := by
        rw [encode_append, hcontents, List.take_append_drop]
      rw [hbytes, take_length_sub_length]
      exact ⟨⟨by simpa using htag, by rwa [hcontents], rfl⟩, rfl⟩

/-- An element is read exactly where it is written. -/
theorem take?_eq_some_iff :
    take? bytes = some (element, rest) ↔ element.IsWritten ∧ bytes = element.raw ++ rest := by
  constructor
  · exact isWritten_of_take?
  · obtain ⟨tag, contents, raw⟩ := element
    rintro ⟨⟨htag, hlength, hraw⟩, rfl⟩
    obtain rfl : raw = encode tag contents := hraw
    exact take?_encode tag contents rest htag hlength

end Elements

namespace Reader

variable {α : Type} {reader : Reader α} {tag : UInt8} {contents : Bytes} {value : α}

/-- What is read in front of any rest is read in front of none. -/
theorem run_of_forall_append {bytes : Bytes}
    (h : ∀ rest, reader.run (bytes ++ rest) = some (value, rest)) :
    reader.run bytes = some (value, []) := by
  have hread := h []
  rwa [List.append_nil] at hread

/-- Reading goes on behind a condition that holds. -/
theorem run_guard {condition : Prop} [Decidable condition] (h : condition) (next : Reader α)
    (bytes : Bytes) : (do guard condition; next : Reader α).run bytes = next.run bytes := by
  have hguard : (guard condition : Reader Unit) = pure () := if_pos h
  rw [hguard]
  rfl

theorem tagged_encode (tag : UInt8) (contents rest : Bytes) (htag : tag &&& 0x1F ≠ 0x1F)
    (hlength : contents.length < 2 ^ 32) :
    (tagged tag).run (encode tag contents ++ rest) =
      some (⟨tag, contents, encode tag contents⟩, rest) := by
  have hread : element.run (encode tag contents ++ rest) = _ :=
    take?_encode tag contents rest htag hlength
  rw [tagged, StateT.run_bind, hread]
  exact run_guard (beq_self_eq_true tag) (pure _) rest

/-- What is inside an element is read by itself. -/
theorem inside_encode (htag : tag &&& 0x1F ≠ 0x1F) (hlength : contents.length < 2 ^ 32)
    (hread : reader.run' contents = some value) (rest : Bytes) :
    (inside tag reader).run (encode tag contents ++ rest) = some (value, rest) := by
  have hcontents := tagged_encode tag contents rest htag hlength
  rw [inside, StateT.run_bind, hcontents]
  simp [-StateT.run'_eq, hread]

/-- Reading goes on until nothing more is found. -/
theorem many_encode (hread : reader.run (encode tag contents) = some (value, []))
    (hend : reader.run [] = none) : (many reader).run (encode tag contents) = some ([value], []) := by
  have hsome : reader (encode tag contents) = some (value, []) := hread
  have hnone : reader [] = none := hend
  have hloop (fuel : Nat) : many.loop reader fuel [] = ([], []) := by
    cases fuel with
    | zero => rfl
    | succ fuel => rw [many.loop, hnone]
  change some (many.loop reader ((lengthBytes contents.length ++ contents).length + 1)
    (encode tag contents)) = some ([value], [])
  rw [many.loop, hsome]
  simp only [hloop]

end Reader

end LocalCloud.Asn1
