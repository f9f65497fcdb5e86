import LocalCloud.Dict
import LocalCloud.Http.Header

/-!
# The values of a header

A header list may give a name several values.  Whoever asks for the value of the
name gets the first one; a dictionary made of the list keeps the last one, and of
the readable ones at that.
-/

namespace LocalCloud.Http

/-- A character of a header value that is read back as it was written. -/
def IsPrintable (c : Char) : Prop :=
  32 ≤ c.toNat ∧ c.toNat < 127

/-- Printable characters are sent as one byte each. -/
theorem encodeChars_of_isPrintable {chars : List Char} (h : ∀ c ∈ chars, IsPrintable c) :
    Utf8.encodeChars chars = chars.map fun c => UInt8.ofNat c.toNat := by
  induction chars with
  | nil => rfl
  | cons c chars ih =>
      obtain ⟨hc, hchars⟩ := List.forall_mem_cons.1 h
      have hascii : c.toNat < 0x80 := Nat.lt_of_lt_of_le hc.2 (by decide)
      have hchar : Utf8.encodeChar c = [UInt8.ofNat c.toNat] := if_pos hascii
      rw [Utf8.encodeChars, List.flatMap_cons, hchar, ← Utf8.encodeChars, ih hchars]
      rfl

theorem IsPrintable.toNat_ofNat {c : Char} (h : IsPrintable c) :
    (UInt8.ofNat c.toNat).toNat = c.toNat :=
  UInt8.toNat_ofNat_of_lt' (Nat.lt_trans h.2 (by decide))

theorem headerText?_encode {text : String} (h : ∀ c ∈ text.toList, IsPrintable c) :
    headerText? (Utf8.encode text) = some text := by
  have hbytes : Utf8.encode text = text.toList.map fun c => UInt8.ofNat c.toNat :=
    encodeChars_of_isPrintable h
  have hplain : ((Utf8.encode text).all fun b =>
      b == 9 || (32 ≤ b.toNat && b.toNat < 127)) = true := by
    rw [hbytes, List.all_map, List.all_eq_true]
    intro c hc
    simp [(h c hc).toNat_ofNat, (h c hc).1, (h c hc).2]
  have hchar : ∀ c ∈ text.toList,
      ((fun b : UInt8 => Char.ofNat b.toNat) ∘ fun c : Char => UInt8.ofNat c.toNat) c = id c := by
    intro c hc
    rw [Function.comp_apply, (h c hc).toNat_ofNat, Char.ofNat_toNat, id]
  have hchars : (Utf8.encode text).map (fun b => Char.ofNat b.toNat) = text.toList := by
    rw [hbytes, List.map_map, List.map_congr_left hchar, List.map_id]
  rw [headerText?, if_pos hplain, hchars, String.ofList_toList]

namespace Headers

/-- The values of a name in the order received. -/
def values (headers : Headers) (name : String) : List Bytes :=
  (headers.filter fun header => header.1 == name).map (·.2)

@[simp]
theorem values_nil (name : String) : values [] name = [] := rfl

@[simp]
theorem values_cons (header : String × Bytes) (headers : Headers) (name : String) :
    values (header :: headers) name =
      if header.1 = name then header.2 :: values headers name else values headers name := by
  simp only [values, List.filter_cons, beq_iff_eq]
  split <;> rfl

@[simp]
theorem values_append (headers more : Headers) (name : String) :
    values (headers ++ more) name = values headers name ++ values more name := by
  simp [values]

/-- The last readable value of a name. -/
def lastText? (headers : Headers) (name : String) : Option String :=
  ((headers.values name).filterMap headerText?).getLast?

theorem firstText?_eq (headers : Headers) (name : String) :
    headers.firstText? name = (headers.values name).head?.bind headerText? := by
  rw [firstText?, first?, values, List.head?_map, List.head?_filter]

/-- A name that is not repeated has one value, which is first and last. -/
theorem lastText?_eq_firstText? {headers : Headers} {name : String}
    (h : (headers.values name).length ≤ 1) : headers.lastText? name = headers.firstText? name := by
  rw [lastText?, firstText?_eq]
  generalize headers.values name = values at h
  match values with
  | [] => rfl
  | [value] => cases htext : headerText? value <;> simp [htext]
  | _ :: _ :: _ => simp at h

/-- A dictionary of the readable headers keeps the last readable value of a name. -/
theorem get?_ofList_texts (headers : Headers) (name : String) :
    (Dict.ofList headers.texts).get? name = headers.lastText? name := by
  have hvalues : (headers.texts.filter fun entry => entry.1 == name).map (·.2) =
      (headers.values name).filterMap headerText? := by
    induction headers with
    | nil => rfl
    | cons header headers ih =>
        rw [texts] at ih
        rw [texts, List.filterMap_cons, values_cons]
        cases htext : headerText? header.2 with
        | none =>
            by_cases hname : header.1 = name
            · simpa [hname, htext] using ih
            · simpa [hname] using ih
        | some text =>
            by_cases hname : header.1 = name
            · simpa [hname, htext] using ih
            · simpa [hname] using ih
  rw [Dict.get?_ofList, hvalues, lastText?]

end Headers

end LocalCloud.Http
