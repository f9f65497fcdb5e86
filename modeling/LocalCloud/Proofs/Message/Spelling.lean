import LocalCloud.Access.Policy
import LocalCloud.Orchestration.Rule
import LocalCloud.Proofs.Message.RoundTrip
import LocalCloud.Proofs.Text.Folding

/-!
# Spellings of an interface

A text is read as an interface up to the case of all letters, and the interface is
written in upper case.  A text is recognised as the spelling of a given interface up to
the case of ASCII letters only, which is the same for texts whose other characters are
in upper case.
-/

namespace LocalCloud.Interface

open Json (ReadsBack Value Node decodeString?)

variable {text : String} {interface : Interface}

theorem readsBack_toJson (h : ofString text = .ok interface) :
    ReadsBack toJson decode interface := by
  have hdecode : decode interface.toJson.toNode = some interface := by
    change (ofString interface.toString).toOption = some interface
    rw [ofString_toString h]
    rfl
  exact Json.readsBack_of_decode trivial hdecode

theorem decode_eq_some_iff {node : Node} : decode node = some interface ↔
    ∃ text, node = .string (some text) ∧ ofString text = .ok interface := by
  constructor
  · intro h
    obtain ⟨text, htext, hread⟩ := Option.bind_eq_some_iff.1 h
    cases node with
    | string value =>
        obtain rfl : value = some text := htext
        refine ⟨text, rfl, ?_⟩
        cases hof : ofString text with
        | ok read =>
            rw [hof] at hread
            exact congrArg Except.ok (Option.some.inj hread)
        | error failure =>
            rw [hof] at hread
            cases hread
    | _ => cases htext
  · rintro ⟨text, rfl, hread⟩
    change (ofString text).toOption = some interface
    rw [hread]
    rfl

/-- How interfaces are read from texts and written as texts. -/
structure ReadsAsWritten : Prop where
  accepted : ∀ text, (∃ interface, ofString text = .ok interface) ↔
    text.toList.count '-' = 2 ∧ ∀ part ∈ Text.splitString '-' text, part ≠ ""
  written : ∀ text interface, ofString text = .ok interface →
    interface.toString = Text.upper text ∧ ofString interface.toString = .ok interface
  parts : ∀ protocol security payload : String,
    (∀ part ∈ [protocol, security, payload], part ≠ "" ∧ '-' ∉ part.toList) →
    (ofParts protocol security payload).toString =
        Text.upper protocol ++ "-" ++ Text.upper security ++ "-" ++ Text.upper payload ∧
      ofString (ofParts protocol security payload).toString =
        .ok (ofParts protocol security payload)
  same : ∀ text other left right, ofString text = .ok left → ofString other = .ok right →
    (left = right ↔ left.toString = right.toString) ∧
      (left.toString = right.toString ↔ Text.upper text = Text.upper other)
  /-- A JSON document is an interface if it is a string that is one. -/
  decoded : ∀ document interface, decodeString? decode document = some interface ↔
    ∃ text, Node.ofString? document = some (.string (some text)) ∧ ofString text = .ok interface
  encoded : ∀ text interface, ofString text = .ok interface →
    interface.toJson = .string interface.toString ∧ ReadsBack toJson decode interface

theorem readsAsWritten : ReadsAsWritten where
  accepted := by
    intro text
    rw [← exists_names_iff]
    constructor
    · rintro ⟨interface, hread⟩
      obtain ⟨protocol, security, payload, hnames, -⟩ := ofString_eq_ok_iff.1 hread
      exact ⟨protocol, security, payload, hnames⟩
    · rintro ⟨protocol, security, payload, hnames⟩
      exact ⟨_, hnames.ofString_eq⟩
  written := by
    intro text interface hread
    exact ⟨toString_of_ofString hread, ofString_toString hread⟩
  parts := by
    intro protocol security payload hfilled
    refine ⟨rfl, ofString_toString_ofParts ?_⟩
    intro part hpart
    obtain ⟨hne, hdash⟩ := hfilled part hpart
    exact ⟨mt String.toList_eq_nil_iff.1 hne, hdash⟩
  same := by
    intro text other left right hleft hright
    refine ⟨eq_iff_toString_eq hleft hright, ?_⟩
    rw [toString_of_ofString hleft, toString_of_ofString hright]
  decoded := by
    intro document interface
    rw [decodeString?, Option.bind_eq_some_iff]
    constructor
    · rintro ⟨node, hnode, hdecode⟩
      obtain ⟨text, rfl, hread⟩ := decode_eq_some_iff.1 hdecode
      exact ⟨text, hnode, hread⟩
    · rintro ⟨text, hnode, hread⟩
      exact ⟨_, hnode, decode_eq_some_iff.2 ⟨text, rfl, hread⟩⟩
  encoded := by
    intro text interface hread
    exact ⟨rfl, readsBack_toJson hread⟩

/-- A letter that two capitals stand for, and parts that are too few or empty. -/
example : ofString "ws-secure-ß" = .ok ⟨"WS", "SECURE", "SS"⟩ ∧
    ofString "A-B" = .error (malformed "A-B") ∧ ofString "A--C" = .error (malformed "A--C") := by
  decide +kernel

open Text (CasedInAscii)

theorem ofString_eq_ok_iff_upper_eq (h : ofString text = .ok interface) {other : String} :
    ofString other = .ok interface ↔ Text.upper other = Text.upper text := by
  constructor
  · intro hother
    rw [← toString_of_ofString hother, toString_of_ofString h]
  · intro hupper
    apply ofString_upper_eq_ok_iff.1
    rw [hupper]
    exact ofString_upper_eq_ok_iff.2 h

/-- A text spells an interface that was read when it is read as that interface, and needs
no other letters than those of ASCII to be put in upper case for it. -/
theorem spelledBy_iff (h : ofString text = .ok interface) (other : String) :
    interface.spelledBy other = true ↔ ofString other = .ok interface ∧ CasedInAscii other := by
  rw [spelledBy, toString_of_ofString h, ofString_eq_ok_iff_upper_eq h]
  exact Text.eqIgnoringAsciiCase_upper_left_iff

theorem exists_tokenFor_iff {tokens : Dict String} :
    (∃ token, OrchestrationRule.tokenFor interface tokens = some token) ↔
      ∃ key ∈ tokens.keys, interface.spelledBy key = true := by
  rw [← Option.isSome_iff_exists, OrchestrationRule.tokenFor, Option.isSome_map, List.find?_isSome,
    Dict.keys]
  constructor
  · rintro ⟨entry, hentry, hspelled⟩
    exact ⟨entry.1, List.mem_map_of_mem hentry, hspelled⟩
  · rintro ⟨key, hkey, hspelled⟩
    obtain ⟨entry, hentry, rfl⟩ := List.mem_map.1 hkey
    exact ⟨entry, hentry, hspelled⟩

/-- Where texts are compared with an interface that was read from a text. -/
structure ComparesAsRead (text : String) (interface : Interface) : Prop where
  spelled : ∀ other, interface.spelledBy other = true ↔
    ofString other = .ok interface ∧ CasedInAscii other
  itself : interface.spelledBy text = true ↔ CasedInAscii text
  /-- A token is found for the interface when one of the keys is such a spelling. -/
  token : ∀ tokens : Dict String,
    (∃ token, OrchestrationRule.tokenFor interface tokens = some token) ↔
      ∃ key ∈ tokens.keys, ofString key = .ok interface ∧ CasedInAscii key
  claims : ∀ (policy : TokenPolicy) (claims : Claims) (caller : String),
    policy.interface = interface →
    (policy.grants claims caller = true ↔
      claims.consumer.toList <+: caller.toList ∧
        (ofString claims.interface = .ok interface ∧ CasedInAscii claims.interface) ∧
        claims.service = policy.definition)

theorem comparesAsRead_of_ofString (text : String) (interface : Interface)
    (h : ofString text = .ok interface) : ComparesAsRead text interface where
  spelled := spelledBy_iff h
  itself := (spelledBy_iff h text).trans (and_iff_right h)
  token := by
    intro tokens
    rw [exists_tokenFor_iff]
    simp only [spelledBy_iff h]
  claims := by
    rintro policy claims caller rfl
    simp only [TokenPolicy.grants, Bool.and_eq_true, List.isPrefixOf_iff_prefix, beq_iff_eq,
      spelledBy_iff h, and_assoc]

theorem comparesAsRead_of_ofString_mixed :
    ofString "http-Secure-ß" = .ok ⟨"HTTP", "SECURE", "SS"⟩ ∧
      ComparesAsRead "http-Secure-ß" ⟨"HTTP", "SECURE", "SS"⟩ ∧
      ofString "HTTP-secure-sS" = .ok ⟨"HTTP", "SECURE", "SS"⟩ ∧ CasedInAscii "HTTP-secure-sS" ∧
      ¬ CasedInAscii "http-Secure-ß" := by
  have hread : ofString "http-Secure-ß" = .ok ⟨"HTTP", "SECURE", "SS"⟩ := by decide +kernel
  refine ⟨hread, comparesAsRead_of_ofString _ _ hread, ?_, ?_, ?_⟩ <;> decide +kernel

/-- A text that is read as an interface, but is no spelling of it: neither a token that has it
for its key is found, nor claims that name it are granted. -/
theorem exists_ofString_not_spelledBy :
    ∃ text interface, ofString text = .ok interface ∧ interface.spelledBy text = false ∧
      OrchestrationRule.tokenFor interface (Dict.ofList [(text, "tok")]) = none := by
  refine ⟨"http-ſecure-json", ⟨"HTTP", "SECURE", "JSON"⟩, ?_, ?_, ?_⟩
  · decide +kernel
  · decide +kernel
  · decide +kernel

end LocalCloud.Interface
