import LocalCloud.Json.Decode
import LocalCloud.Json.Printer
import LocalCloud.Proofs.Text.Decimal
import LocalCloud.Proofs.Text.Utf8
import Mathlib.Tactic.IntervalCases

/-!
# Printed documents are read back

Reading goes through three stages, and each is taken back in turn: the bytes are the
characters of the text, the characters are the tokens of the value, and the tokens are
the document.
-/

namespace LocalCloud.Json

namespace Value

mutual

/-- The tokens of the compact text of a value. -/
def tokens : Value → List Token
  | .null => [.null]
  | .bool value => [.bool value]
  | .number value => [.number (some value)]
  | .string text => [.string (some text)]
  | .array [] => [.leftBracket, .rightBracket]
  | .array (item :: rest) => .leftBracket :: (item.tokens ++ itemTokens rest)
  | .object [] => [.leftBrace, .rightBrace]
  | .object ((key, value) :: rest) =>
    .leftBrace :: .string (some key) :: .colon :: (value.tokens ++ fieldTokens rest)

/-- The tokens of the items behind the first one. -/
def itemTokens : List Value → List Token
  | [] => [.rightBracket]
  | item :: rest => .comma :: (item.tokens ++ itemTokens rest)

/-- The tokens of the fields behind the first one. -/
def fieldTokens : List (String × Value) → List Token
  | [] => [.rightBrace]
  | (key, value) :: rest =>
    .comma :: .string (some key) :: .colon :: (value.tokens ++ fieldTokens rest)

end

end Value

namespace Node

variable {stack : List Frame}

/-- In front of a first item the reader waits for a value, or for the end, which no
value begins with. -/
theorem foldlM_firstItem (value : Value) (rest : List Token) (stack : List Frame) :
    (value.tokens ++ rest).foldlM step? (.firstItem stack) =
      (value.tokens ++ rest).foldlM step? (.value (.items [] :: stack)) := by
  cases value with
  | array items => cases items <;> rfl
  | object fields => cases fields <;> rfl
  | _ => rfl

mutual

/-- The tokens of a value lead the reader to the document of the value. -/
theorem foldlM_tokens (value : Value) (stack : List Frame) :
    value.tokens.foldlM step? (.value stack) = some (place value.toNode stack) := by
  match value with
  | .null | .bool _ | .number _ | .string _ => rfl
  | .array [] => rfl
  | .array (item :: rest) =>
      have hitem := foldlM_tokens item (.items [] :: stack)
      have hrest := foldlM_itemTokens rest [item.toNode] stack
      rw [Value.tokens, List.foldlM_cons]
      change (item.tokens ++ Value.itemTokens rest).foldlM step? (.firstItem stack) = _
      rw [foldlM_firstItem, List.foldlM_append, hitem]
      exact hrest
  | .object [] => rfl
  | .object ((key, value) :: rest) =>
      have hvalue := foldlM_tokens value (.fields [] (some key) :: stack)
      have hrest := foldlM_fieldTokens rest [(some key, value.toNode)] stack
      rw [Value.tokens, List.foldlM_cons]
      change (value.tokens ++ Value.fieldTokens rest).foldlM step?
        (.value (.fields [] (some key) :: stack)) = _
      rw [List.foldlM_append, hvalue]
      exact hrest

theorem foldlM_itemTokens (items : List Value) (before : List Node) (stack : List Frame) :
    (Value.itemTokens items).foldlM step? (.afterItem before stack) =
      some (place (.array (before.reverse ++ Value.toNodes items)) stack) := by
  match items with
  | [] =>
      rw [Value.toNodes, List.append_nil]
      rfl
  | item :: rest =>
      have hitem := foldlM_tokens item (.items before :: stack)
      have hrest := foldlM_itemTokens rest (item.toNode :: before) stack
      rw [Value.itemTokens, List.foldlM_cons]
      change (item.tokens ++ Value.itemTokens rest).foldlM step?
        (.value (.items before :: stack)) = _
      rw [List.foldlM_append, hitem, Value.toNodes]
      rw [List.reverse_cons, List.append_assoc, List.singleton_append] at hrest
      exact hrest

theorem foldlM_fieldTokens (fields : List (String × Value))
    (before : List (Option String × Node)) (stack : List Frame) :
    (Value.fieldTokens fields).foldlM step? (.afterField before stack) =
      some (place (.object (before.reverse ++ Value.toFields fields)) stack) := by
  match fields with
  | [] =>
      rw [Value.toFields, List.append_nil]
      rfl
  | (key, value) :: rest =>
      have hvalue := foldlM_tokens value (.fields before (some key) :: stack)
      have hrest := foldlM_fieldTokens rest ((some key, value.toNode) :: before) stack
      rw [Value.fieldTokens, List.foldlM_cons]
      change (value.tokens ++ Value.fieldTokens rest).foldlM step?
        (.value (.fields before (some key) :: stack)) = _
      rw [List.foldlM_append, hvalue, Value.toFields]
      rw [List.reverse_cons, List.append_assoc, List.singleton_append] at hrest
      exact hrest

end

theorem ofTokens?_tokens (value : Value) : ofTokens? value.tokens = some value.toNode := by
  rw [ofTokens?, foldlM_tokens]
  rfl

end Node

open Utf8 (Piece)

namespace Token

section Strings

variable {done : List Char} {rest : List Piece} {c : Char}

theorem hexDigit?_hexLower {value : Nat} (h : value < 16) :
    Text.hexDigit? (Text.hexLower value) = some value := by
  revert value
  decide

theorem takeString_quote (done : List Char) (rest : List Piece) :
    takeString (some done) none (some '"' :: rest) =
      some (.string (some (String.ofList done.reverse)), rest) := by
  rw [takeString]
  rfl

theorem takeString_simple {d : Char} (h : simpleEscape? c = some d) :
    takeString (some done) none (some '\\' :: some c :: rest) =
      takeString (some (d :: done)) none rest := by
  have hu : c ≠ 'u' := by
    rintro rfl
    cases h
  rw [takeString, h]
  · rfl
  · intro _ _ _ _ _ _ hc
    exact hu hc

theorem takeString_unicode {value : Nat} (h : value < 32) (done : List Char) (rest : List Piece) :
    takeString (some done) none
        (some '\\' :: some 'u' :: some '0' :: some '0' :: some (Text.hexLower (value / 16)) ::
          some (Text.hexLower (value % 16)) :: rest) =
      takeString (some (Char.ofNat value :: done)) none rest := by
  have hcode : hex4? (some '0') (some '0') (some (Text.hexLower (value / 16)))
      (some (Text.hexLower (value % 16))) = some value := by
    have hzero : Text.hexDigit? '0' = some 0 := by decide
    have hhigh : Text.hexDigit? (Text.hexLower (value / 16)) = some (value / 16) :=
      hexDigit?_hexLower (by omega)
    have hlow : Text.hexDigit? (Text.hexLower (value % 16)) = some (value % 16) :=
      hexDigit?_hexLower (by omega)
    have hjoin : value / 16 * 16 + value % 16 = value := by omega
    simp [hex4?, hzero, hhigh, hlow, hjoin]
  have hhigh : ¬ (0xD800 ≤ value ∧ value ≤ 0xDBFF) := by omega
  have hlow : ¬ (0xDC00 ≤ value ∧ value ≤ 0xDFFF) := by omega
  rw [takeString, hcode]
  simp only [if_neg hhigh, if_neg hlow, push, Option.map_some]

theorem takeString_plain (hquote : c ≠ '"') (hbackslash : c ≠ '\\') (hcode : 0x20 ≤ c.toNat) :
    takeString (some done) none (some c :: rest) = takeString (some (c :: done)) none rest := by
  have hplain : ¬ (c.toNat < 0x20 ∨ c = '\\') := by
    rintro (hcontrol | hc)
    · omega
    · exact hbackslash hc
  rw [takeString, if_neg hplain]
  · rfl
  · exact hquote
  · intro _ _ _ _ _ _ hc
    exact hbackslash hc
  · intro _ _ _ hc
    exact hbackslash hc

/-- The escaped form of a character stands for that character. -/
theorem takeString_escapeChar (c : Char) (done : List Char) (rest : List Piece) :
    takeString (some done) none ((escapeChar c).map some ++ rest) =
      takeString (some (c :: done)) none rest := by
  unfold escapeChar
  by_cases hquote : c = '"'
  · rw [if_pos hquote, hquote]
    exact takeString_simple rfl
  rw [if_neg hquote]
  by_cases hbackslash : c = '\\'
  · rw [if_pos hbackslash, hbackslash]
    exact takeString_simple rfl
  rw [if_neg hbackslash]
  by_cases hcode : 0x20 ≤ c.toNat
  · rw [if_pos hcode]
    exact takeString_plain hquote hbackslash hcode
  rw [if_neg hcode]
  -- A control character: five have an escape of one letter, the others their code.
  have hc : c = Char.ofNat c.toNat := (Char.ofNat_toNat c).symm
  split
  case h_6 =>
      have hread := takeString_unicode (Nat.lt_of_not_le hcode) done rest
      rw [← hc] at hread
      exact hread
  all_goals
    rename_i hvalue
    rw [hvalue] at hc
    rw [hc]
    exact takeString_simple rfl

theorem takeString_chars (chars done : List Char) (rest : List Piece) :
    takeString (some done) none ((chars.flatMap escapeChar).map some ++ rest) =
      takeString (some (chars.reverse ++ done)) none rest := by
  induction chars generalizing done with
  | nil => rfl
  | cons c chars ih =>
      rw [List.flatMap_cons, List.map_append, List.append_assoc, takeString_escapeChar, ih,
        List.reverse_cons, List.append_assoc, List.singleton_append]

/-- The quoted form of a text is the token of that text. -/
theorem take?_quoteChars (text : String) (rest : List Piece) :
    take? ((quoteChars text).map some ++ rest) = some (.string (some text), rest) := by
  have hchars := takeString_chars text.toList [] (some '"' :: rest)
  rw [takeString_quote, List.append_nil, List.reverse_reverse, String.ofList_toList] at hchars
  rw [quoteChars, List.map_cons, List.map_append, List.cons_append, List.append_assoc]
  exact hchars

end Strings

end Token

namespace Number

/-- The integers that are kept as such: those of 64 bits, signed or unsigned. -/
def IsWord : Number → Prop
  | .integer value => -9223372036854775808 ≤ value ∧ value ≤ maxUnsigned
  | .double _ => False

end Number

namespace Token

variable {rest : List Piece} {digits : List Char}

def digitValues (digits : List Char) : List Nat :=
  digits.map fun c => c.toNat - 48

/-- What may follow a value inside a container. -/
def Ends (rest : List Piece) : Prop :=
  ∀ piece ∈ rest.head?, piece = some ',' ∨ piece = some ']' ∨ piece = some '}'

theorem ends_nil : Ends [] := by
  intro piece hpiece
  cases hpiece

theorem takeDigits_append (hdigits : ∀ c ∈ digits, c.isDigit = true) (hrest : Ends rest) :
    takeDigits (digits.map some ++ rest) = (digitValues digits, rest) := by
  induction digits with
  | nil =>
      rw [List.map_nil, List.nil_append]
      cases rest with
      | nil => rfl
      | cons piece rest =>
          rcases hrest piece rfl with rfl | rfl | rfl <;> rfl
  | cons c digits ih =>
      obtain ⟨hc, hdigits⟩ := List.forall_mem_cons.1 hdigits
      rw [List.map_cons, List.cons_append, takeDigits, Text.digit?_of_isDigit hc, ih hdigits]
      rfl

theorem exists_decimalChars_eq_cons {value : Nat} (h : value ≠ 0) :
    ∃ c tail, Text.decimalChars value = c :: tail ∧ c ≠ '0' := by
  induction value using Nat.strongRecOn with
  | ind value ih =>
      by_cases hsmall : value < 10
      · have hdigit : ∀ digit < 10, digit ≠ 0 → Nat.digitChar digit ≠ '0' := by decide
        exact ⟨value.digitChar, [], Nat.toDigits_of_lt_base hsmall, hdigit value hsmall h⟩
      · have hlarge : 10 ≤ value := Nat.le_of_not_lt hsmall
        have hquotient : value / 10 ≠ 0 := by omega
        obtain ⟨c, tail, hchars, hc⟩ := ih (value / 10) (by omega) hquotient
        refine ⟨c, tail ++ [(value % 10).digitChar], ?_, hc⟩
        rw [Text.decimalChars, Nat.toDigits_of_base_le (by decide) hlarge, ← Text.decimalChars,
          hchars, List.cons_append]

theorem takeWhole_decimalChars (value : Nat) (hrest : Ends rest) :
    takeWhole ((Text.decimalChars value).map some ++ rest) =
      some (digitValues (Text.decimalChars value), rest) := by
  have htake := takeDigits_append (Text.isDigit_decimalChars value) hrest
  by_cases hzero : value = 0
  · rw [hzero]
    rfl
  · obtain ⟨c, tail, hchars, hc⟩ := exists_decimalChars_eq_cons hzero
    rw [hchars, List.map_cons, List.cons_append] at htake ⊢
    rw [takeWhole, htake]
    · rfl
    · intro tail' heq
      injection heq with heq
      injection heq with heq
      exact hc heq

theorem takeFraction_of_ends (hrest : Ends rest) : takeFraction rest = some (none, rest) := by
  cases rest with
  | nil => rfl
  | cons piece rest => rcases hrest piece rfl with rfl | rfl | rfl <;> rfl

theorem takeExponent_of_ends (hrest : Ends rest) : takeExponent rest = some (none, rest) := by
  cases rest with
  | nil => rfl
  | cons piece rest => rcases hrest piece rfl with rfl | rfl | rfl <;> rfl

theorem takeNumber_decimalChars (negative : Bool) (value : Nat) (hrest : Ends rest) :
    takeNumber negative ((Text.decimalChars value).map some ++ rest) =
      some (.number (Number.ofParts negative (digitValues (Text.decimalChars value)) none none),
        rest) := by
  rw [takeNumber, takeWhole_decimalChars value hrest]
  simp [takeFraction_of_ends hrest, takeExponent_of_ends hrest]

end Token

namespace Number

theorem le_foldl (digits : List Nat) (value : Nat) :
    value ≤ digits.foldl (fun value digit => value * 10 + digit) value := by
  induction digits generalizing value with
  | nil => exact Nat.le_refl value
  | cons digit digits ih =>
      have hstep : value ≤ value * 10 + digit := by omega
      exact Nat.le_trans hstep (ih _)

/-- Digits of a number that fits 64 bits are all taken. -/
theorem accumulate_eq {digits : List Nat} {value result : Nat}
    (hvalue : digits.foldl (fun value digit => value * 10 + digit) value = result)
    (hresult : result ≤ maxUnsigned) : accumulate value digits = (result, digits.length, 0) := by
  induction digits generalizing value with
  | nil =>
      rw [List.foldl_nil] at hvalue
      rw [accumulate, hvalue]
      rfl
  | cons digit digits ih =>
      have hle : value * 10 + digit ≤ maxUnsigned := by
        have hfold := le_foldl digits (value * 10 + digit)
        rw [List.foldl_cons] at hvalue
        omega
      rw [accumulate, if_pos hle, ih hvalue]
      rfl

theorem foldl_digitValues (value : Nat) :
    (Token.digitValues (Text.decimalChars value)).foldl
      (fun value digit => value * 10 + digit) 0 = value := by
  rw [Token.digitValues, List.foldl_map]
  exact Text.foldl_decimalChars value

theorem ofParts_digits {value : Nat} (h : value ≤ maxUnsigned) :
    ofParts false (Token.digitValues (Text.decimalChars value)) none none =
      some (.integer value) := by
  rw [ofParts, accumulate_eq (foldl_digitValues value) h]
  rfl

theorem ofParts_negative_digits {value : Nat} (hpositive : 0 < value)
    (h : value ≤ 9223372036854775808) :
    ofParts true (Token.digitValues (Text.decimalChars value)) none none =
      some (.integer (-value)) := by
  have hword : value ≤ maxUnsigned := Nat.le_trans h (by decide)
  have hinside : ¬ (value = 0 ∨ value > 9223372036854775808) := by omega
  rw [ofParts, accumulate_eq (foldl_digitValues value) hword]
  simp [hinside]

end Number

namespace Token

theorem take?_of_isDigit {c : Char} (h : c.isDigit = true) (rest : List Piece) :
    take? (some c :: rest) = takeNumber false (some c :: rest) := by
  have hlow : 48 ≤ c.toNat := (Char.isDigit_iff_toNat.1 h).1
  have hhigh : c.toNat ≤ 57 := (Char.isDigit_iff_toNat.1 h).2
  rw [← Char.ofNat_toNat c]
  generalize c.toNat = code at hlow hhigh
  interval_cases code <;> rfl

theorem take?_decimalChars (value : Nat) (rest : List Piece) :
    take? ((Text.decimalChars value).map some ++ rest) =
      takeNumber false ((Text.decimalChars value).map some ++ rest) := by
  have hne : Text.decimalChars value ≠ [] := Nat.toDigits_ne_nil
  obtain ⟨c, tail, hchars⟩ := List.exists_cons_of_ne_nil hne
  have hc : c.isDigit = true := by
    apply Text.isDigit_decimalChars value
    rw [hchars]
    exact List.mem_cons_self
  rw [hchars]
  exact take?_of_isDigit hc _

/-- The text of an integer is the token of that integer. -/
theorem take?_number {number : Number} (hnumber : number.IsWord) (hrest : Ends rest) :
    take? (number.chars.map some ++ rest) = some (.number (some number), rest) := by
  cases number with
  | double bits => exact hnumber.elim
  | integer value =>
      obtain ⟨hlow, hhigh⟩ := hnumber
      rw [Number.chars]
      by_cases hnegative : value < 0
      · have hparts : Number.ofParts true (digitValues (Text.decimalChars value.natAbs)) none none =
            some (.integer value) := by
          rw [Number.ofParts_negative_digits (by omega) (by omega)]
          congr 2
          omega
        have hnumber := takeNumber_decimalChars true value.natAbs hrest
        rw [hparts] at hnumber
        rw [if_pos hnegative]
        exact hnumber
      · have hparts : Number.ofParts false (digitValues (Text.decimalChars value.toNat)) none none =
            some (.integer value) := by
          rw [Number.ofParts_digits (by omega)]
          congr 2
          omega
        rw [if_neg hnegative, take?_decimalChars, takeNumber_decimalChars false _ hrest, hparts]

section Scanning

variable {input middle rest : List Piece} {tokens later : List Token} {token : Token}

/-- An input begins with given tokens, without white space between them. -/
inductive Scans : List Piece → List Token → List Piece → Prop where
  | done (input : List Piece) : Scans input [] input
  | next {input middle rest : List Piece} {token : Token} {tokens : List Token}
      (htoken : take? input = some (token, middle)) (hshorter : middle.length < input.length)
      (hrest : Scans middle tokens rest) : Scans input (token :: tokens) rest

theorem Scans.single (htoken : take? input = some (token, rest))
    (hshorter : rest.length < input.length) : Scans input [token] rest :=
  .next htoken hshorter (.done rest)

theorem Scans.append (h : Scans input tokens middle) (hlater : Scans middle later rest) :
    Scans input (tokens ++ later) rest := by
  induction h with
  | done => exact hlater
  | next htoken hshorter _ ih => exact .next htoken hshorter (ih hlater)

theorem take?_of_isGap {piece : Piece} (h : isGap piece = true) (rest : List Piece) :
    take? (piece :: rest) = none := by
  simp only [isGap, Bool.or_eq_true, beq_iff_eq] at h
  rcases h with ((rfl | rfl) | rfl) | rfl <;> rfl

theorem dropWhile_isGap_of_take? (h : take? input = some (token, middle)) :
    input.dropWhile isGap = input := by
  cases input with
  | nil => rfl
  | cons piece rest =>
      have hgap : isGap piece ≠ true := by
        intro hgap
        rw [take?_of_isGap hgap] at h
        cases h
      exact List.dropWhile_cons_of_neg hgap

/-- Scanning an input that consists of tokens gives these tokens. -/
theorem scan_loop_of_scans (h : Scans input tokens []) {fuel : Nat} (hfuel : input.length ≤ fuel)
    (done : List Token) : scan.loop fuel input done = some (done.reverse ++ tokens) := by
  generalize hend : ([] : List Piece) = rest at h
  induction h generalizing fuel done with
  | done input =>
      rw [← hend, List.append_nil]
      cases fuel <;> rfl
  | @next input middle rest token tokens htoken hshorter _ ih =>
      obtain ⟨fuel, rfl⟩ : ∃ less, fuel = less + 1 := ⟨fuel - 1, by omega⟩
      have hne : input ≠ [] := by
        rintro rfl
        cases hshorter
      obtain ⟨piece, tail, rfl⟩ := List.exists_cons_of_ne_nil hne
      rw [scan.loop.eq_def, dropWhile_isGap_of_take? htoken]
      simp only [htoken]
      have hmiddle : middle.length ≤ fuel := by omega
      rw [ih hmiddle (token :: done) hend, List.reverse_cons, List.append_assoc,
        List.singleton_append]

theorem scan_of_scans (h : Scans input tokens []) : scan input = some tokens := by
  rw [scan, scan_loop_of_scans h (Nat.le_refl _)]
  rfl

theorem scans_quoteChars (text : String) (rest : List Piece) :
    Scans ((quoteChars text).map some ++ rest) [.string (some text)] rest := by
  refine .single (take?_quoteChars text rest) ?_
  rw [quoteChars, List.map_cons, List.cons_append, List.length_cons, List.length_append]
  omega

theorem scans_number {number : Number} (hnumber : number.IsWord) (hrest : Ends rest) :
    Scans (number.chars.map some ++ rest) [.number (some number)] rest := by
  refine .single (take?_number hnumber hrest) ?_
  have hne : number.chars ≠ [] := by
    intro hnil
    have htoken : take? (number.chars.map some ++ []) = some (.number (some number), []) :=
      take?_number hnumber ends_nil
    rw [hnil] at htoken
    cases htoken
  have hpositive : 0 < number.chars.length := List.length_pos_iff.2 hne
  rw [List.length_append, List.length_map]
  omega

end Scanning

end Token

namespace Value

mutual

/-- Every number of the value is an integer of 64 bits. -/
def IsIntegral : Value → Prop
  | .number value => value.IsWord
  | .array items => AreIntegral items
  | .object fields => FieldsAreIntegral fields
  | _ => True

/-- The same of every item. -/
def AreIntegral : List Value → Prop
  | [] => True
  | item :: rest => item.IsIntegral ∧ AreIntegral rest

/-- The same of every field. -/
def FieldsAreIntegral : List (String × Value) → Prop
  | [] => True
  | (_, value) :: rest => value.IsIntegral ∧ FieldsAreIntegral rest

end

theorem fieldsAreIntegral_iff {fields : List (String × Value)} :
    FieldsAreIntegral fields ↔ ∀ field ∈ fields, field.2.IsIntegral := by
  induction fields with
  | nil => exact iff_of_true trivial nofun
  | cons field fields ih =>
      rw [List.forall_mem_cons, ← ih]
      rfl

section

open Utf8 (Piece)
open Token (Scans Ends)

variable {rest : List Piece}

theorem ends_itemChars (items : List Value) (rest : List Piece) :
    Ends ((itemChars items).map some ++ rest) := by
  cases items <;> simp [Ends, itemChars]

theorem ends_fieldChars (fields : List (String × Value)) (rest : List Piece) :
    Ends ((fieldChars fields).map some ++ rest) := by
  cases fields <;> simp [Ends, fieldChars]

/-- A punctuation mark in front is one more token. -/
theorem scans_cons (mark : Char) {token : Token} {input rest : List Piece} {tokens : List Token}
    (hmark : ∀ input, Token.take? (some mark :: input) = some (token, input))
    (h : Scans input tokens rest) : Scans (some mark :: input) (token :: tokens) rest :=
  .next (hmark input) (Nat.lt_succ_self _) h

mutual

theorem scans_chars (value : Value) (hvalue : value.IsIntegral) {rest : List Piece}
    (hrest : Ends rest) : Scans (value.chars.map some ++ rest) value.tokens rest := by
  match value with
  | .null => exact .single rfl (by simp [chars]; omega)
  | .bool true => exact .single rfl (by simp [chars]; omega)
  | .bool false => exact .single rfl (by simp [chars]; omega)
  | .number _ => exact Token.scans_number hvalue hrest
  | .string text => exact Token.scans_quoteChars text rest
  | .array [] => exact scans_cons _ (fun _ => rfl) (scans_cons _ (fun _ => rfl) (.done rest))
  | .array (item :: items) =>
      obtain ⟨hitem, hitems⟩ := hvalue
      have hfirst := scans_chars item hitem (ends_itemChars items rest)
      have hothers := scans_itemChars items hitems rest
      rw [chars, tokens, List.map_cons, List.map_append, List.cons_append, List.append_assoc]
      exact scans_cons _ (fun _ => rfl) (hfirst.append hothers)
  | .object [] => exact scans_cons _ (fun _ => rfl) (scans_cons _ (fun _ => rfl) (.done rest))
  | .object ((key, value) :: fields) =>
      obtain ⟨hfield, hfields⟩ := hvalue
      have hfirst := scans_chars value hfield (ends_fieldChars fields rest)
      have hothers := scans_fieldChars fields hfields rest
      have hcolon := scans_cons ':' (fun _ => rfl) (hfirst.append hothers)
      have hkey := (Token.scans_quoteChars key _).append hcolon
      rw [chars, tokens, List.map_cons, List.map_append, List.map_cons, List.map_append,
        List.cons_append, List.append_assoc, List.cons_append, List.append_assoc]
      exact scans_cons _ (fun _ => rfl) hkey

theorem scans_itemChars (items : List Value) (hitems : AreIntegral items) (rest : List Piece) :
    Scans ((itemChars items).map some ++ rest) (itemTokens items) rest := by
  match items with
  | [] => exact scans_cons _ (fun _ => rfl) (.done rest)
  | item :: items =>
      obtain ⟨hitem, hitems⟩ := hitems
      have hfirst := scans_chars item hitem (ends_itemChars items rest)
      have hothers := scans_itemChars items hitems rest
      rw [itemChars, itemTokens, List.map_cons, List.map_append, List.cons_append,
        List.append_assoc]
      exact scans_cons _ (fun _ => rfl) (hfirst.append hothers)

theorem scans_fieldChars (fields : List (String × Value)) (hfields : FieldsAreIntegral fields)
    (rest : List Piece) :
    Scans ((fieldChars fields).map some ++ rest) (fieldTokens fields) rest := by
  match fields with
  | [] => exact scans_cons _ (fun _ => rfl) (.done rest)
  | (key, value) :: fields =>
      obtain ⟨hfield, hfields⟩ := hfields
      have hfirst := scans_chars value hfield (ends_fieldChars fields rest)
      have hothers := scans_fieldChars fields hfields rest
      have hcolon := scans_cons ':' (fun _ => rfl) (hfirst.append hothers)
      have hkey := (Token.scans_quoteChars key _).append hcolon
      rw [fieldChars, fieldTokens, List.map_cons, List.map_append, List.map_cons, List.map_append,
        List.cons_append, List.append_assoc, List.cons_append, List.append_assoc]
      exact scans_cons _ (fun _ => rfl) hkey

end

theorem scan_chars (value : Value) (hvalue : value.IsIntegral) :
    Token.scan (value.chars.map some) = some value.tokens := by
  have hscans := scans_chars value hvalue Token.ends_nil
  rw [List.append_nil] at hscans
  exact Token.scan_of_scans hscans

end

end Value

/-- The text of a value is read as the document of that value. -/
theorem Node.ofString?_text (value : Value) (hvalue : value.IsIntegral) :
    Node.ofString? value.text = some value.toNode := by
  rw [Node.ofString?, Value.text, String.toList_ofList, Node.ofPieces?,
    Value.scan_chars value hvalue]
  exact Node.ofTokens?_tokens value

/-- The bytes of a value are read as the document of that value. -/
theorem Node.ofBytes?_bytes (value : Value) (hvalue : value.IsIntegral) :
    Node.ofBytes? value.bytes = some value.toNode := by
  rw [Node.ofBytes?, Value.bytes, Utf8.units_encodeChars, Node.ofPieces?,
    Value.scan_chars value hvalue]
  exact Node.ofTokens?_tokens value

end LocalCloud.Json
