import LocalCloud.Interface
import LocalCloud.Proofs.Text.Case
import LocalCloud.Proofs.Text.Segments

/-!
# Names of interfaces

A text names an interface when it has three parts between dashes and none of them is
empty.  The parts are kept in upper case, which adds no dashes and is final, so the
written form of an interface names that interface, and texts of one upper case name the
same one.
-/

namespace LocalCloud.Interface

variable {text : String} {interface : Interface}

/-- A text that names an interface, and its parts. -/
structure Names (text : String) (protocol security payload : List Char) : Prop where
  parts : Text.splitOn '-' text.toList = [protocol, security, payload]
  filled : protocol ≠ [] ∧ security ≠ [] ∧ payload ≠ []

theorem Names.ofString_eq {protocol security payload : List Char}
    (h : Names text protocol security payload) :
    ofString text = .ok (ofParts (String.ofList protocol) (String.ofList security)
      (String.ofList payload)) := by
  obtain ⟨hprotocol, hsecurity, hpayload⟩ := h.filled
  unfold ofString
  rw [h.parts]
  exact if_neg (by simp [hprotocol, hsecurity, hpayload])

/-- Every other text is refused, for one reason. -/
theorem ofString_of_not_names (h : ¬ ∃ protocol security payload,
    Names text protocol security payload) : ofString text = .error (malformed text) := by
  unfold ofString
  split
  next protocol security payload hparts =>
    apply if_pos
    by_contra hfilled
    simp only [Bool.or_eq_true, List.isEmpty_iff, not_or] at hfilled
    obtain ⟨⟨hprotocol, hsecurity⟩, hpayload⟩ := hfilled
    exact h ⟨protocol, security, payload, hparts, hprotocol, hsecurity, hpayload⟩
  next => rfl

theorem ofString_eq_ok_iff :
    ofString text = .ok interface ↔ ∃ protocol security payload,
      Names text protocol security payload ∧
        interface = ofParts (String.ofList protocol) (String.ofList security)
          (String.ofList payload) := by
  constructor
  · intro hread
    by_cases hnames : ∃ protocol security payload, Names text protocol security payload
    · obtain ⟨protocol, security, payload, hnames⟩ := hnames
      rw [hnames.ofString_eq] at hread
      exact ⟨protocol, security, payload, hnames, (Except.ok.inj hread).symm⟩
    · rw [ofString_of_not_names hnames] at hread
      cases hread
  · rintro ⟨protocol, security, payload, hnames, rfl⟩
    exact hnames.ofString_eq

/-- The written form of an interface of filled parts without dashes names it. -/
theorem names_toString {protocol security payload : String}
    (hfilled : ∀ part ∈ [protocol, security, payload], part.toList ≠ [] ∧ '-' ∉ part.toList) :
    Names (ofParts protocol security payload).toString (Text.upper protocol).toList
      (Text.upper security).toList (Text.upper payload).toList := by
  have hupper : ∀ part ∈ [protocol, security, payload],
      (Text.upper part).toList ≠ [] ∧ '-' ∉ (Text.upper part).toList := by
    intro part hpart
    obtain ⟨hne, hdash⟩ := hfilled part hpart
    exact ⟨Text.toList_upper_ne_nil hne, mt Text.dash_mem_of_mem_upper hdash⟩
  simp only [List.mem_cons, List.not_mem_nil, or_false, forall_eq_or_imp, forall_eq] at hupper
  obtain ⟨⟨hprotocol, hprotocolDash⟩, ⟨hsecurity, hsecurityDash⟩, hpayload, hpayloadDash⟩ := hupper
  have hchars : (ofParts protocol security payload).toString.toList =
      ['-'].intercalate [(Text.upper protocol).toList, (Text.upper security).toList,
        (Text.upper payload).toList] := by
    simp [toString, ofParts]
  constructor
  case parts =>
    rw [hchars]
    apply Text.splitOn_intercalate
    · exact List.cons_ne_nil _ _
    · simp [hprotocolDash, hsecurityDash, hpayloadDash]
  case filled => exact ⟨hprotocol, hsecurity, hpayload⟩

/-- An interface of filled parts without dashes is read from its written form. -/
theorem ofString_toString_ofParts {protocol security payload : String}
    (hfilled : ∀ part ∈ [protocol, security, payload], part.toList ≠ [] ∧ '-' ∉ part.toList) :
    ofString (ofParts protocol security payload).toString =
      .ok (ofParts protocol security payload) := by
  rw [(names_toString hfilled).ofString_eq]
  simp only [String.ofList_toList, ofParts, Text.upper_upper]

/-- An interface that was read is read again from its written form. -/
theorem ofString_toString (h : ofString text = .ok interface) :
    ofString interface.toString = .ok interface := by
  obtain ⟨protocol, security, payload, hnames, rfl⟩ := ofString_eq_ok_iff.1 h
  have hdash : ∀ part ∈ [protocol, security, payload], '-' ∉ part := by
    rw [← hnames.parts]
    exact fun _ => Text.separator_not_mem_of_mem_splitOn
  apply ofString_toString_ofParts
  obtain ⟨hprotocol, hsecurity, hpayload⟩ := hnames.filled
  simpa [hprotocol, hsecurity, hpayload] using hdash

/-- A text names an interface when it has two dashes and its parts are filled. -/
theorem exists_names_iff : (∃ protocol security payload, Names text protocol security payload) ↔
    text.toList.count '-' = 2 ∧ ∀ part ∈ Text.splitString '-' text, part ≠ "" := by
  have hlength := Text.length_splitOn '-' text.toList
  rw [Text.splitString, List.forall_mem_map]
  constructor
  · rintro ⟨protocol, security, payload, hparts, hprotocol, hsecurity, hpayload⟩
    rw [hparts] at hlength ⊢
    refine ⟨Nat.succ.inj hlength.symm, ?_⟩
    simp [hprotocol, hsecurity, hpayload]
  · rintro ⟨hcount, hfilled⟩
    rw [hcount] at hlength
    obtain ⟨protocol, security, payload, hparts⟩ := List.length_eq_three.1 hlength
    rw [hparts] at hfilled
    refine ⟨protocol, security, payload, hparts, ?_⟩
    simpa using hfilled

theorem Names.eq_join {protocol security payload : List Char}
    (h : Names text protocol security payload) :
    text = String.ofList protocol ++ "-" ++ String.ofList security ++ "-" ++
      String.ofList payload := by
  have hjoin := Text.intercalate_splitOn '-' text.toList
  rw [h.parts] at hjoin
  apply String.toList_injective
  rw [← hjoin]
  simp

/-- The written form of an interface that was read is the upper case of what was read. -/
theorem toString_of_ofString (h : ofString text = .ok interface) :
    interface.toString = Text.upper text := by
  have hdash : Text.upper "-" = "-" := by decide +kernel
  obtain ⟨protocol, security, payload, hnames, rfl⟩ := ofString_eq_ok_iff.1 h
  rw [hnames.eq_join, Text.upper_append, Text.upper_append, Text.upper_append, Text.upper_append,
    hdash]
  rfl

theorem exists_names_of_upper {protocol security payload : List Char}
    (h : Names (Text.upper text) protocol security payload) :
    ∃ protocol security payload, Names text protocol security payload := by
  have hdash : Text.upperChar '-' = ['-'] := by decide +kernel
  have hparts := h.parts
  rw [Text.upper, String.toList_ofList,
    Text.splitOn_flatMap hdash (fun _ => Text.eq_of_mem_upperChar (by decide) (by decide))] at hparts
  have hlength := congrArg List.length hparts
  rw [List.length_map] at hlength
  obtain ⟨first, second, third, hsplit⟩ := List.length_eq_three.1 hlength
  rw [hsplit, List.map_cons, List.map_cons, List.map_singleton] at hparts
  obtain ⟨rfl, rfl, rfl⟩ : first.flatMap Text.upperChar = protocol ∧
      second.flatMap Text.upperChar = security ∧ third.flatMap Text.upperChar = payload := by
    simpa using hparts
  obtain ⟨hfirst, hsecond, hthird⟩ := h.filled
  have hne {part : List Char} (hupper : part.flatMap Text.upperChar ≠ []) : part ≠ [] := by
    rintro rfl
    exact hupper rfl
  exact ⟨first, second, third, hsplit, hne hfirst, hne hsecond, hne hthird⟩

/-- A text and its upper case are read alike. -/
theorem ofString_upper_eq_ok_iff :
    ofString (Text.upper text) = .ok interface ↔ ofString text = .ok interface := by
  have hupper {read : Interface} (h : ofString text = .ok read) :
      ofString (Text.upper text) = .ok read := by
    rw [← toString_of_ofString h]
    exact ofString_toString h
  constructor
  · intro h
    obtain ⟨_, _, _, hnames, -⟩ := ofString_eq_ok_iff.1 h
    obtain ⟨_, _, _, hread⟩ := exists_names_of_upper hnames
    have hsame := (hupper hread.ofString_eq).symm.trans h
    rw [hread.ofString_eq]
    exact hsame
  · exact hupper

theorem eq_iff_toString_eq {other : String} {left right : Interface}
    (hleft : ofString text = .ok left) (hright : ofString other = .ok right) :
    left = right ↔ left.toString = right.toString := by
  constructor
  · intro h
    rw [h]
  · intro h
    have hread := ofString_toString hleft
    rw [h, ofString_toString hright] at hread
    exact (Except.ok.inj hread).symm

end LocalCloud.Interface
