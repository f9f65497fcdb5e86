import LocalCloud.Codec.Pem
import LocalCloud.Proofs.Codec.Base64
import LocalCloud.Proofs.Text.Segments
import LocalCloud.Proofs.Text.Trimming

/-!
# Blocks are read back

A block is written as lines of base64 between two boundaries.  The base64 has
neither dashes nor line ends, so the boundaries are found where they were put,
and the lines in between join to the base64 again.  This holds of the reader for
certificates and of the reader for the key of the authorization system.
-/

namespace LocalCloud.Pem

section Lines

variable {chars : List Char} {lines : List (List Char)}

/-- The lines, each with its line feed. -/
def ended (lines : List (List Char)) : List Char :=
  lines.flatMap fun line => line ++ ['\n']

/-- Lines as they stand between boundaries: not empty, and without dashes and
white space. -/
def AreBody (lines : List (List Char)) : Prop :=
  ∀ line ∈ lines, line ≠ [] ∧ ∀ c ∈ line, Base64.IsBodyChar c

theorem ended_cons (line : List Char) (lines : List (List Char)) :
    ended (line :: lines) = line ++ '\n' :: ended lines := by
  rw [ended, List.flatMap_cons, List.append_assoc]
  rfl

/-- Splitting at the line feeds leaves nothing behind the last one. -/
theorem splitOn_ended (h : ∀ line ∈ lines, '\n' ∉ line) :
    Text.splitOn '\n' (ended lines) = lines ++ [[]] := by
  induction lines with
  | nil => rfl
  | cons line lines ih =>
      obtain ⟨hline, hlines⟩ := List.forall_mem_cons.1 h
      rw [ended_cons, Text.splitOn_append_cons hline, ih hlines]
      rfl

theorem intercalate_append_nil (lines : List (List Char)) :
    ['\n'].intercalate (lines ++ [[]]) = ended lines := by
  induction lines with
  | nil => rfl
  | cons line lines ih =>
      obtain ⟨next, others, hnext⟩ := List.exists_cons_of_ne_nil
        (List.append_ne_nil_of_right_ne_nil lines (List.cons_ne_nil [] []))
      rw [hnext] at ih
      rw [List.cons_append, hnext, List.intercalate_cons_cons, ih, ended_cons, List.append_assoc]
      rfl

/-- Lines of full width, but for the last, which may be shorter and is not empty. -/
structure AreWrapped (lines : List (List Char)) : Prop where
  full : ∀ line ∈ lines.dropLast, line.length = 64
  last : ∀ line ∈ lines.getLast?, 1 ≤ line.length ∧ line.length ≤ 64

theorem areWrapped_nil : AreWrapped [] where
  full := List.forall_mem_nil _
  last := nofun

theorem areWrapped_singleton {line : List Char} :
    AreWrapped [line] ↔ 1 ≤ line.length ∧ line.length ≤ 64 := by
  constructor
  · intro h
    exact h.last line rfl
  · intro h
    refine ⟨List.forall_mem_nil _, ?_⟩
    rintro _ ⟨⟩
    exact h

theorem areWrapped_cons_cons {line next : List Char} :
    AreWrapped (line :: next :: lines) ↔ line.length = 64 ∧ AreWrapped (next :: lines) := by
  constructor
  · rintro ⟨hfull, hlast⟩
    obtain ⟨hline, hnext⟩ := List.forall_mem_cons.1 hfull
    exact ⟨hline, hnext, hlast⟩
  · rintro ⟨hline, hfull, hlast⟩
    exact ⟨List.forall_mem_cons.2 ⟨hline, hfull⟩, hlast⟩

/-- The first line and the others. -/
theorem AreWrapped.cons {line : List Char} (h : AreWrapped (line :: lines)) :
    1 ≤ line.length ∧ line.length ≤ 64 ∧ (lines ≠ [] → line.length = 64) ∧ AreWrapped lines := by
  cases lines with
  | nil =>
      obtain ⟨hpositive, hwidth⟩ := areWrapped_singleton.1 h
      exact ⟨hpositive, hwidth, absurd rfl, areWrapped_nil⟩
  | cons next lines =>
      obtain ⟨hline, hnext⟩ := areWrapped_cons_cons.1 h
      exact ⟨by omega, by omega, fun _ => hline, hnext⟩

theorem AreWrapped.ne_nil (h : AreWrapped lines) : ∀ line ∈ lines, line ≠ [] := by
  induction lines with
  | nil => exact List.forall_mem_nil _
  | cons line lines ih =>
      obtain ⟨hpositive, -, -, hlines⟩ := h.cons
      exact List.forall_mem_cons.2 ⟨List.length_pos_iff.1 hpositive, ih hlines⟩

theorem AreWrapped.flatten_eq_nil_iff (h : AreWrapped lines) : lines.flatten = [] ↔ lines = [] := by
  constructor
  · intro hflatten
    rw [List.flatten_eq_nil_iff] at hflatten
    exact List.eq_nil_iff_forall_not_mem.2 fun line hline => h.ne_nil line hline (hflatten line hline)
  · rintro rfl
    rfl

/-- Characters can be put in such lines. -/
theorem exists_areWrapped (chars : List Char) :
    ∃ lines, AreWrapped lines ∧ lines.flatten = chars := by
  induction hlength : chars.length using Nat.strong_induction_on generalizing chars with
  | h length ih =>
    by_cases hlast : chars.length ≤ 64
    · by_cases hnil : chars = []
      · exact ⟨[], areWrapped_nil, hnil.symm⟩
      · have hpositive : 1 ≤ chars.length := List.length_pos_iff.2 hnil
        exact ⟨[chars], areWrapped_singleton.2 ⟨hpositive, hlast⟩, List.flatten_singleton⟩
    · have hrest : (chars.drop 64).length < length := by
        rw [List.length_drop]
        omega
      have hfirst : (chars.take 64).length = 64 := by
        rw [List.length_take]
        omega
      obtain ⟨lines, hlines, hflatten⟩ := ih _ hrest (chars.drop 64) rfl
      refine ⟨chars.take 64 :: lines, ?_, ?_⟩
      · cases lines with
        | nil =>
            have hnone := congrArg List.length hflatten
            rw [List.flatten_nil, List.length_nil, List.length_drop] at hnone
            omega
        | cons next lines => exact areWrapped_cons_cons.2 ⟨hfirst, hlines⟩
      · rw [List.flatten_cons, hflatten, List.take_append_drop]

/-- The lines that are written are the only ones of this form. -/
theorem AreWrapped.wrap_flatten (h : AreWrapped lines) : wrap lines.flatten = ended lines := by
  have hloop {fuel : Nat} (hfuel : lines.flatten.length ≤ fuel) :
      wrap.loop fuel lines.flatten = ended lines := by
    induction lines generalizing fuel with
    | nil => cases fuel <;> rfl
    | cons line lines ih =>
        obtain ⟨hpositive, hwidth, hfull, hlines⟩ := h.cons
        rw [List.flatten_cons, List.length_append] at hfuel
        obtain ⟨fuel, rfl⟩ := Nat.exists_eq_add_one.2 (by omega : 0 < fuel)
        have hne : (line ++ lines.flatten).isEmpty = false := by
          rw [List.isEmpty_eq_false_iff, ← List.length_pos_iff, List.length_append]
          omega
        have hcut : (line ++ lines.flatten).take lineWidth = line ∧
            (line ++ lines.flatten).drop lineWidth = lines.flatten := by
          by_cases hlast : lines = []
          · rw [hlast, List.flatten_nil, List.append_nil]
            exact ⟨List.take_of_length_le hwidth, List.drop_of_length_le hwidth⟩
          · exact ⟨List.take_left' (hfull hlast), List.drop_left' (hfull hlast)⟩
        rw [List.flatten_cons, wrap.loop, hne, if_neg Bool.false_ne_true, hcut.1, hcut.2,
          ih hlines (by omega), ended_cons]
  exact hloop (Nat.le_refl _)

theorem AreWrapped.areBody {bytes : Bytes} (h : AreWrapped lines)
    (hflatten : lines.flatten = (Base64.encode bytes).toList) : AreBody lines := by
  intro line hline
  refine ⟨h.ne_nil line hline, ?_⟩
  intro c hc
  have hmem : c ∈ lines.flatten := List.mem_flatten_of_mem hline hc
  rw [hflatten] at hmem
  exact Base64.isBodyChar_of_mem_encode hmem

theorem exists_lines_wrap_encode (bytes : Bytes) :
    ∃ lines, wrap (Base64.encode bytes).toList = ended lines ∧ AreBody lines ∧
      Base64.decode? (String.ofList lines.flatten) = some bytes := by
  obtain ⟨lines, hwrapped, hflatten⟩ := exists_areWrapped (Base64.encode bytes).toList
  refine ⟨lines, ?_, hwrapped.areBody hflatten, ?_⟩
  · rw [← hflatten, hwrapped.wrap_flatten]
  · rw [hflatten, String.ofList_toList, Base64.decode?_encode]

end Lines

section Body

variable {lines : List (List Char)} {c : Char}

theorem AreBody.cons {line : List Char} (h : AreBody (line :: lines)) :
    line ≠ [] ∧ (∀ c ∈ line, Base64.IsBodyChar c) ∧ AreBody lines := by
  obtain ⟨⟨hne, hline⟩, hrest⟩ := List.forall_mem_cons.1 h
  exact ⟨hne, hline, hrest⟩

theorem not_mem_of_isBlank {line : List Char} (h : ∀ c ∈ line, Base64.IsBodyChar c)
    (hblank : Text.isBlank c = true) : c ∉ line := by
  intro hc
  have hvisible := (h c hc).2
  rw [hblank] at hvisible
  cases hvisible

theorem isBlank_of_isGap (h : isGap c = true) : Text.isBlank c = true := by
  simp only [isGap, Bool.or_eq_true, beq_iff_eq] at h
  rcases h with ((rfl | rfl) | rfl) | rfl <;> decide

/-- Between the boundaries there are no dashes, and no white space but the line
feeds. -/
theorem AreBody.of_mem_ended (h : AreBody lines) (hc : c ∈ ended lines) :
    Base64.IsBodyChar c ∨ c = '\n' := by
  obtain ⟨line, hline, hmem⟩ := List.mem_flatMap.1 hc
  rcases List.mem_append.1 hmem with hmem | hmem
  · exact .inl ((h line hline).2 c hmem)
  · exact .inr (List.mem_singleton.1 hmem)

theorem AreBody.dash_not_mem_ended (h : AreBody lines) : '-' ∉ ended lines := by
  intro hmem
  rcases h.of_mem_ended hmem with hbody | heq
  · exact hbody.1 rfl
  · exact absurd heq (by decide)

theorem AreBody.return_not_mem_ended (h : AreBody lines) : '\r' ∉ ended lines := by
  intro hmem
  rcases h.of_mem_ended hmem with hbody | heq
  · have hvisible := hbody.2
    exact absurd hvisible (by decide)
  · exact absurd heq (by decide)

theorem AreBody.lineFeed_not_mem (h : AreBody lines) : ∀ line ∈ lines, '\n' ∉ line :=
  fun line hline => not_mem_of_isBlank (h line hline).2 (by decide)

/-- There is nothing to trim at the end of a line. -/
theorem AreBody.map_dropTrailing (h : AreBody lines) :
    lines.map (Text.dropTrailing Text.isBlank) = lines := by
  have heach : ∀ line ∈ lines, Text.dropTrailing Text.isBlank line = line := by
    intro line hline
    obtain ⟨-, hchars⟩ := h line hline
    exact Text.dropTrailing_of_last fun c hc => (hchars c (List.mem_of_mem_getLast? hc)).2
  rw [List.map_congr_left heach, List.map_id']

/-- No line is empty, so nothing looks like the end of headers. -/
theorem AreBody.splitWord?_emptyLine (h : AreBody lines) :
    Text.splitWord? ['\n', '\n'] (ended lines) = none := by
  induction lines with
  | nil => rfl
  | cons line lines ih =>
      obtain ⟨-, hline, hlines⟩ := h.cons
      -- the line feed behind a line is followed by a line that is not empty, or by nothing
      have hstart : ¬ ['\n', '\n'].isPrefixOf ('\n' :: ended lines) = true := by
        cases lines with
        | nil => decide
        | cons next lines =>
            obtain ⟨hne, hnext, -⟩ := hlines.cons
            obtain ⟨c, tail, rfl⟩ := List.exists_cons_of_ne_nil hne
            have hc : '\n' ≠ c :=
              List.ne_of_not_mem_cons (not_mem_of_isBlank hnext (by decide))
            simp [ended_cons, hc]
      rw [ended_cons, Text.splitWord?_append (not_mem_of_isBlank hline (by decide)),
        Text.splitWord?, Text.afterStart?, if_neg hstart, ih hlines]
      rfl

theorem AreBody.dropHeaders? (h : AreBody lines) :
    dropHeaders? (ended lines) = some (ended lines) := by
  rw [Pem.dropHeaders?, h.splitWord?_emptyLine,
    Text.splitWord?_of_not_mem h.return_not_mem_ended]
  rfl

theorem AreBody.dropWhile_isGap (h : AreBody lines) (rest : List Char) :
    (ended lines ++ '-' :: rest).dropWhile isGap = ended lines ++ '-' :: rest := by
  cases lines with
  | nil => rfl
  | cons line lines =>
      obtain ⟨hne, hline, -⟩ := h.cons
      obtain ⟨c, tail, rfl⟩ := List.exists_cons_of_ne_nil hne
      have hgap : ¬ isGap c = true := by
        intro hgap
        exact not_mem_of_isBlank hline (isBlank_of_isGap hgap) List.mem_cons_self
      rw [ended_cons, List.cons_append, List.cons_append, List.dropWhile_cons_of_neg hgap]

/-- The lines up to the closing boundary are collected as they are. -/
theorem AreBody.collectLines?_append (h : AreBody lines) {closing : List Char}
    (hclosing : endWord.isPrefixOf closing = true) (rest : List (List Char)) :
    collectLines? (lines ++ closing :: rest) = some lines.flatten := by
  have hmap := h.map_dropTrailing
  induction lines with
  | nil =>
      rw [List.nil_append, collectLines?, if_pos hclosing]
      rfl
  | cons line lines ih =>
      obtain ⟨hne, hline, hlines⟩ := h.cons
      obtain ⟨htrim, hmap⟩ := List.cons.inj hmap
      have hopen : ¬ endWord.isPrefixOf line = true := by
        rw [List.isPrefixOf_iff_prefix]
        intro hstart
        have hdash : '-' ∈ endWord := by decide
        exact (hline '-' (hstart.subset hdash)).1 rfl
      rw [List.cons_append, collectLines?, if_neg hopen, ih hlines hmap, htrim]
      rfl

end Body

section Render

variable {label : String}

/-- The characters of a block: the boundaries around its lines. -/
theorem toList_render (label base64 : String) :
    (render label base64).toList =
      beginWord ++ (label.toList ++ (dashes ++ '\n' :: (wrap base64.toList ++
        (endWord ++ (label.toList ++ (dashes ++ ['\n'])))))) := by
  have hdashes : "-----\n".toList = dashes ++ ['\n'] := rfl
  calc
    (render label base64).toList =
        beginWord ++ label.toList ++ "-----\n".toList ++ wrap base64.toList ++ endWord ++
          label.toList ++ "-----\n".toList := by
      unfold render
      simp only [String.toList_append, String.toList_ofList]
      rfl
    _ = _ := by simp only [hdashes, List.append_assoc, List.cons_append, List.nil_append]

/-- A block is the opening boundary, its lines and the closing boundary, each ended by a
line feed. -/
theorem toList_render_eq_ended {base64 : String} {lines : List (List Char)}
    (hwrap : wrap base64.toList = ended lines) : (render label base64).toList =
      ended ((beginWord ++ (label.toList ++ dashes)) ::
        (lines ++ [endWord ++ (label.toList ++ dashes)])) := by
  have hclosing : ended (lines ++ [endWord ++ (label.toList ++ dashes)]) =
      ended lines ++ (endWord ++ (label.toList ++ (dashes ++ ['\n']))) := by
    rw [ended, List.flatMap_append, List.flatMap_singleton]
    simp only [ended, List.append_assoc]
  rw [toList_render, hwrap, ended_cons, hclosing]
  simp only [List.append_assoc]

theorem splitWord?_boundary {word : List Char} (hword : word.head? = some '-')
    {first : List Char} (hfirst : '-' ∉ first) (rest : List Char) :
    Text.splitWord? word (first ++ (word ++ rest)) = some (first, rest) := by
  obtain ⟨tail, rfl⟩ := List.head?_eq_some_iff.1 hword
  exact Text.splitWord?_append_word hfirst tail rest

/-- The key of the authorization system is found in the block it was put in. -/
theorem readAnywhere?_render (hne : label ≠ "") (hlabel : '-' ∉ label.toList) (der : Bytes) :
    readAnywhere? (render label (Base64.encode der)) = some (label, der) := by
  obtain ⟨lines, hwrap, hbody, hdecode⟩ := exists_lines_wrap_encode der
  have hnone : '-' ∉ ([] : List Char) := List.not_mem_nil
  have hbegin : beginWord.head? = some '-' := rfl
  have hopening (rest : List Char) :
      Text.splitWord? beginWord (beginWord ++ rest) = some ([], rest) := by
    have hfound := splitWord?_boundary hbegin hnone rest
    exact hfound
  have hend : endWord = '-' :: endWord.tail := rfl
  have hgap (rest : List Char) : ('\n' :: (ended lines ++ (endWord ++ rest))).dropWhile isGap =
      ended lines ++ (endWord ++ rest) := by
    rw [List.dropWhile_cons_of_pos (by decide), hend, List.cons_append, hbody.dropWhile_isGap]
  have hfilled : label.toList.isEmpty = false := by simpa using hne
  have hlines : ((Text.splitOn '\n' (ended lines)).map
      (Text.dropTrailing Text.isBlank)).flatten = lines.flatten := by
    rw [splitOn_ended hbody.lineFeed_not_mem, List.map_append, hbody.map_dropTrailing, List.flatten_append]
    simp [Text.dropTrailing]
  rw [readAnywhere?, toList_render, hwrap, hopening]
  simp only [Option.bind_eq_bind, Option.bind_some]
  rw [splitWord?_boundary rfl hlabel]
  simp only [Option.bind_some]
  rw [hgap, splitWord?_boundary rfl hbody.dash_not_mem_ended]
  simp only [Option.bind_some]
  rw [splitWord?_boundary rfl hlabel]
  simp [hfilled, hbody.dropHeaders?, hlines, hdecode]

theorem lineFeed_not_mem_block (hlabel : '\n' ∉ label.toList) {lines : List (List Char)}
    (h : AreBody lines) : ∀ line ∈ (beginWord ++ (label.toList ++ dashes)) ::
      (lines ++ [endWord ++ (label.toList ++ dashes)]), '\n' ∉ line := by
  refine List.forall_mem_cons.2 ⟨?opening, List.forall_mem_append.2 ⟨h.lineFeed_not_mem, ?closing⟩⟩
  case opening =>
    simp only [List.mem_append, not_or]
    exact ⟨by decide, hlabel, by decide⟩
  case closing =>
    rw [List.forall_mem_singleton]
    simp only [List.mem_append, not_or]
    exact ⟨by decide, hlabel, by decide⟩

/-- A certificate is found in the block it was put in. -/
theorem readLines?_render (hdash : '-' ∉ label.toList) (hline : '\n' ∉ label.toList)
    (der : Bytes) : readLines? (render label (Base64.encode der)) = some der := by
  obtain ⟨lines, hwrap, hbody, hdecode⟩ := exists_lines_wrap_encode der
  have hsplit : Text.splitOn '\n' (render label (Base64.encode der)).toList =
      (beginWord ++ (label.toList ++ dashes)) ::
        (lines ++ (endWord ++ (label.toList ++ dashes)) :: [[]]) := by
    rw [toList_render_eq_ended hwrap, splitOn_ended (lineFeed_not_mem_block hline hbody),
      List.cons_append, List.append_assoc]
    rfl
  have hstart : beginWord.isPrefixOf (beginWord ++ (label.toList ++ dashes)) = true :=
    List.isPrefixOf_iff_prefix.2 (List.prefix_append _ _)
  have hstop : endWord.isPrefixOf (endWord ++ (label.toList ++ dashes)) = true :=
    List.isPrefixOf_iff_prefix.2 (List.prefix_append _ _)
  have hopens : opensBlock (beginWord ++ (label.toList ++ dashes)) = true := by
    have hword : '-' ∉ "BEGIN ".toList ++ label.toList := by
      simp only [List.mem_append, not_or]
      exact ⟨by decide, hdash⟩
    have hdashes : dashes.head? = some '-' := rfl
    have hfound := splitWord?_boundary hdashes hword []
    rw [List.append_nil, List.append_assoc] at hfound
    have hrest : (beginWord ++ (label.toList ++ dashes)).drop dashes.length =
        "BEGIN ".toList ++ (label.toList ++ dashes) := rfl
    rw [opensBlock, hstart, hrest, hfound]
    rfl
  rw [readLines?, hsplit, List.dropWhile_cons_of_neg (by simp [hstart])]
  simp only [hopens, if_true, hbody.collectLines?_append hstop, Option.bind_some, hdecode]

end Render

section Block

variable {label text : String} {body : Bytes} {lines : List String}

/-- A text is the block with a label and a body: between the boundaries stand lines of 64
characters, of which the last may be shorter but is not empty, and together they are read
as the body. -/
inductive IsBlock (label : String) (body : Bytes) (text : String) : Prop where
  | intro {lines : List String}
      (hsplit : Text.splitString '\n' text = ("-----BEGIN " ++ label ++ "-----") ::
        (lines ++ ["-----END " ++ label ++ "-----", ""]))
      (hfull : ∀ line ∈ lines.dropLast, line.length = 64)
      (hlast : ∀ line ∈ lines.getLast?, 1 ≤ line.length ∧ line.length ≤ 64)
      (hnone : lines = [] ↔ body = [])
      (hread : Base64.decode? (String.join lines) = some body) : IsBlock label body text

theorem areWrapped_map_toList_iff : AreWrapped (lines.map String.toList) ↔
    (∀ line ∈ lines.dropLast, line.length = 64) ∧
      ∀ line ∈ lines.getLast?, 1 ≤ line.length ∧ line.length ≤ 64 := by
  constructor
  · rintro ⟨hfull, hlast⟩
    constructor
    · simpa [← List.map_dropLast, String.length_toList] using hfull
    · simpa [String.length_toList] using hlast
  · rintro ⟨hfull, hlast⟩
    constructor
    · simpa [← List.map_dropLast, String.length_toList] using hfull
    · simpa [String.length_toList] using hlast

theorem decode?_join_iff : Base64.decode? (String.join lines) = some body ↔
    (lines.map String.toList).flatten = (Base64.encode body).toList := by
  rw [Base64.decode?_eq_some_iff, ← String.toList_inj, String.toList_join, List.flatMap_def]

theorem toList_boundary (label : String) :
    ("-----BEGIN " ++ label ++ "-----").toList = beginWord ++ (label.toList ++ dashes) ∧
      ("-----END " ++ label ++ "-----").toList = endWord ++ (label.toList ++ dashes) := by
  simp only [String.toList_append, List.append_assoc]
  exact ⟨rfl, rfl⟩

/-- There is one block with a label and a body, the one that is written. -/
theorem isBlock_iff (hlabel : '\n' ∉ label.toList) :
    IsBlock label body text ↔ text = render label (Base64.encode body) := by
  obtain ⟨hopening, hclosing⟩ := toList_boundary label
  constructor
  · rintro @⟨lines, hsplit, hfull, hlast, -, hread⟩
    have hwrap := (areWrapped_map_toList_iff.2 ⟨hfull, hlast⟩).wrap_flatten
    rw [decode?_join_iff.1 hread] at hwrap
    have htext := Text.toList_eq_of_splitString hsplit
    rw [← String.toList_inj, toList_render_eq_ended hwrap, htext, ← hopening, ← hclosing,
      ← intercalate_append_nil]
    simp
  · rintro rfl
    obtain ⟨chars, hwrapped, hflatten⟩ := exists_areWrapped (Base64.encode body).toList
    obtain ⟨lines, rfl⟩ : ∃ lines : List String, chars = lines.map String.toList :=
      ⟨chars.map String.ofList, by simp⟩
    have hwrap := hwrapped.wrap_flatten
    rw [hflatten] at hwrap
    have hbody := hwrapped.areBody hflatten
    obtain ⟨hfull, hlast⟩ := areWrapped_map_toList_iff.1 hwrapped
    refine ⟨?split, hfull, hlast, ?none, decode?_join_iff.2 hflatten⟩
    case split =>
      rw [Text.splitString, toList_render_eq_ended hwrap,
        splitOn_ended (lineFeed_not_mem_block hlabel hbody), ← hopening, ← hclosing]
      simp only [List.map_append, List.map_cons, List.map_nil, List.map_map, Function.comp_def,
        String.ofList_toList, List.map_id', List.cons_append, List.append_assoc, List.nil_append,
        String.ofList_nil]
    case none =>
      rw [← Base64.encode_eq_empty_iff, ← String.toList_eq_nil_iff, ← hflatten,
        hwrapped.flatten_eq_nil_iff, List.map_eq_nil_iff]

end Block

end LocalCloud.Pem
