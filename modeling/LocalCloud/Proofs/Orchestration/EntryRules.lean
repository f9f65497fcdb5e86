import LocalCloud.Orchestration.Rule
import LocalCloud.Proofs.Message.Interface

/-!
# Which entries make rules

An entry of an orchestrator's answer is usable when its first interface is one and
its policy, if it names any, is known.  What a usable entry says becomes a rule, and
what is wrong with any other entry becomes a failure; the interface is looked at
before the policy.  An answer is the list of its usable entries, in order.
-/

namespace LocalCloud

namespace PolicyKind

/-- The names of a kind of policy in an entry, in upper case. -/
def spellings : PolicyKind → List String
  | unrestricted => ["UNRESTRICTED", "NOT_SECURE"]
  | certificate => ["CERTIFICATE"]
  | token => ["TOKEN"]

/-- The policy that an entry asks for.  A name may be in any letter case and have
white space around it. -/
inductive Asked : Option String → PolicyKind → Prop where
  | unnamed : Asked none .unrestricted
  | named {name : String} {kind : PolicyKind}
      (hspelled : Text.upper (Text.trim name) ∈ kind.spellings) : Asked (some name) kind

/-- Reads the policy of an entry. -/
def ofSecurity : Option String → Except Error PolicyKind
  | none => .ok unrestricted
  | some name => ofName name

theorem ofName_eq_ok_iff {name : String} {kind : PolicyKind} :
    ofName name = .ok kind ↔ Text.upper (Text.trim name) ∈ kind.spellings := by
  unfold ofName
  generalize Text.upper (Text.trim name) = upper
  dsimp only
  split
  next h => rcases h with rfl | rfl <;> cases kind <;> simp [spellings]
  next hunrestricted =>
    split
    next h =>
      subst h
      cases kind <;> simp [spellings]
    next hcertificate =>
      split
      next h =>
        subst h
        cases kind <;> simp [spellings]
      next htoken => cases kind <;> simp_all [spellings]

theorem asked_iff {security : Option String} {kind : PolicyKind} :
    Asked security kind ↔ ofSecurity security = .ok kind := by
  cases security with
  | none =>
    constructor
    · rintro ⟨⟩
      rfl
    · intro h
      obtain rfl := Except.ok.inj h
      exact .unnamed
  | some name =>
    rw [ofSecurity, ofName_eq_ok_iff]
    constructor
    · rintro ⟨hspelled⟩
      assumption
    · exact .named

/-- Any other name is refused and shown as it was understood. -/
theorem ofName_of_not_spelled {name : String}
    (h : ∀ kind : PolicyKind, Text.upper (Text.trim name) ∉ kind.spellings) :
    ofName name = .error (.unknownAccessPolicy (Text.upper (Text.trim name))) := by
  have hunrestricted : ¬ (Text.upper (Text.trim name) = "UNRESTRICTED" ∨
      Text.upper (Text.trim name) = "NOT_SECURE") := by simpa [spellings] using h .unrestricted
  have hcertificate : Text.upper (Text.trim name) ≠ "CERTIFICATE" := by
    simpa [spellings] using h .certificate
  have htoken : Text.upper (Text.trim name) ≠ "TOKEN" := by simpa [spellings] using h .token
  unfold ofName
  dsimp only
  rw [if_neg hunrestricted, if_neg hcertificate, if_neg htoken]

theorem exists_mem_spellings_iff {text : String} :
    (∃ kind : PolicyKind, text ∈ kind.spellings) ↔
      text ∈ ["UNRESTRICTED", "NOT_SECURE", "CERTIFICATE", "TOKEN"] := by
  constructor
  · rintro ⟨kind, hkind⟩
    have hnames : ∀ text ∈ kind.spellings,
        text ∈ ["UNRESTRICTED", "NOT_SECURE", "CERTIFICATE", "TOKEN"] := by
      cases kind <;> decide
    exact hnames text hkind
  · intro htext
    simp only [List.mem_cons, List.not_mem_nil, or_false] at htext
    rcases htext with rfl | rfl | rfl | rfl
    · exact ⟨.unrestricted, by simp [spellings]⟩
    · exact ⟨.unrestricted, by simp [spellings]⟩
    · exact ⟨.certificate, by simp [spellings]⟩
    · exact ⟨.token, by simp [spellings]⟩

end PolicyKind

/-- The token that is taken for an interface from those of an entry: that of the first
name, in the order of the names, which spells the interface.  An empty one is none. -/
inductive Interface.IssuedToken (interface : Interface) :
    Option (Dict String) → Option String → Prop where
  | without : interface.IssuedToken none none
  | unspelled {tokens : Dict String}
      (hother : ∀ entry ∈ tokens.entries, interface.spelledBy entry.1 = false) :
      interface.IssuedToken (some tokens) none
  | spelled {tokens : Dict String} {before after : List (String × String)} {name token : String}
      (hentries : tokens.entries = before ++ (name, token) :: after)
      (hspelled : interface.spelledBy name = true)
      (hfirst : ∀ entry ∈ before, interface.spelledBy entry.1 = false) :
      interface.IssuedToken (some tokens) (if token = "" then none else some token)

namespace OrchestrationEntry

/-- The entries that make a rule. -/
structure IsUsable (entry : OrchestrationEntry) : Prop where
  interface : ∃ first rest protocol security payload, entry.interfaces = first :: rest ∧
    Interface.Names first.name protocol security payload
  policy : ∀ name, entry.security = some name →
    Text.upper (Text.trim name) ∈ ["UNRESTRICTED", "NOT_SECURE", "CERTIFICATE", "TOKEN"]

/-- The rule of a usable entry. -/
inductive Yields (entry : OrchestrationEntry) (method : String) : OrchestrationRule → Prop where
  | rule {first : InterfaceEntry} {rest : List InterfaceEntry}
      {protocol security payload : List Char} {policy : PolicyKind} {token : Option String}
      (hinterfaces : entry.interfaces = first :: rest)
      (hnames : Interface.Names first.name protocol security payload)
      (hpolicy : PolicyKind.Asked entry.security policy)
      (htoken : Interface.IssuedToken (.ofParts (String.ofList protocol) (String.ofList security)
        (String.ofList payload)) entry.authorizationTokens token) :
      Yields entry method {
        service := {
          definition := entry.service.definition
          uri := entry.uri
          interface := .ofParts (String.ofList protocol) (String.ofList security)
            (String.ofList payload)
          policy := policy
          metadata := entry.metadata.getD ∅
          version := entry.version }
        provider := entry.provider
        method := Text.upper method
        token := token
        active := true }

/-- What is wrong with any other entry. -/
inductive Fails (entry : OrchestrationEntry) : Error → Prop where
  | noInterface (hinterfaces : entry.interfaces = []) :
      Fails entry (.orchestration ("provider " ++ entry.provider.toString ++ " of '"
        ++ entry.service.definition ++ "' lists no interface"))
  | malformedInterface {first : InterfaceEntry} {rest : List InterfaceEntry}
      (hinterfaces : entry.interfaces = first :: rest)
      (hnames : ¬ ∃ protocol security payload,
        Interface.Names first.name protocol security payload) :
      Fails entry (.validation ("interface '" ++ first.name
        ++ "' is not of the form PROTOCOL-SECURITY-PAYLOAD"))
  | unknownPolicy {first : InterfaceEntry} {rest : List InterfaceEntry}
      {protocol security payload : List Char} {name : String}
      (hinterfaces : entry.interfaces = first :: rest)
      (hnames : Interface.Names first.name protocol security payload)
      (hname : entry.security = some name)
      (hunknown : ∀ kind : PolicyKind, Text.upper (Text.trim name) ∉ kind.spellings) :
      Fails entry (.unknownAccessPolicy (Text.upper (Text.trim name)))

/-- An entry makes a rule when it is usable, and then makes the one rule; else it fails
for the first reason. -/
structure Decided (entry : OrchestrationEntry) (method : String) : Prop where
  usable_iff : (∃ rule, OrchestrationRule.ofEntry entry method = .ok rule) ↔ entry.IsUsable
  yields_iff : ∀ rule, OrchestrationRule.ofEntry entry method = .ok rule ↔
    entry.Yields method rule
  fails_iff : ∀ failure, OrchestrationRule.ofEntry entry method = .error failure ↔
    entry.Fails failure

/-- The rules of the usable entries of an answer, in order. -/
inductive YieldAll (method : String) :
    List OrchestrationEntry → List OrchestrationRule → Prop where
  | done : YieldAll method [] []
  | usable {entry : OrchestrationEntry} {entries : List OrchestrationEntry}
      {rule : OrchestrationRule} {rules : List OrchestrationRule}
      (hrule : entry.Yields method rule) (hrest : YieldAll method entries rules) :
      YieldAll method (entry :: entries) (rule :: rules)
  | ignored {entry : OrchestrationEntry} {entries : List OrchestrationEntry}
      {rules : List OrchestrationRule} (hunusable : ¬ entry.IsUsable)
      (hrest : YieldAll method entries rules) : YieldAll method (entry :: entries) rules

end OrchestrationEntry

namespace OrchestrationRule

open OrchestrationEntry (IsUsable Yields Fails YieldAll)

variable {entry : OrchestrationEntry} {method : String} {rule : OrchestrationRule}
  {failure : Error}

theorem filter_isEmpty (token : String) :
    (some token).filter (fun token => !token.isEmpty) =
      if token = "" then none else some token := by
  by_cases hempty : token = ""
  · rw [if_pos hempty, hempty]
    rfl
  · rw [if_neg hempty]
    simp [hempty]

theorem issuedToken_iff {interface : Interface} {issued : Option (Dict String)}
    {token : Option String} : interface.IssuedToken issued token ↔
      token = (issued.bind (tokenFor interface)).filter fun token => !token.isEmpty := by
  cases issued with
  | none =>
    constructor
    · rintro ⟨⟩
      rfl
    · rintro rfl
      exact .without
  | some tokens =>
    rw [Option.bind_some, tokenFor]
    constructor
    · intro h
      cases h with
      | unspelled hother =>
        have hfind : tokens.entries.find? (fun entry => interface.spelledBy entry.1) = none := by
          simpa using hother
        rw [hfind]
        rfl
      | @spelled _ before after name token hentries hspelled hfirst =>
        have hfind : tokens.entries.find? (fun entry => interface.spelledBy entry.1) =
            some (name, token) := by
          rw [List.find?_eq_some_iff_append]
          exact ⟨hspelled, before, after, hentries, by simpa using hfirst⟩
        rw [hfind, Option.map_some, filter_isEmpty]
    · rintro rfl
      cases hfind : tokens.entries.find? (fun entry => interface.spelledBy entry.1) with
      | none => exact .unspelled (by simpa using hfind)
      | some entry =>
        obtain ⟨name, token⟩ := entry
        obtain ⟨hspelled, before, after, hentries, hfirst⟩ :=
          List.find?_eq_some_iff_append.1 hfind
        rw [Option.map_some, filter_isEmpty]
        exact .spelled hentries hspelled (by simpa using hfirst)

theorem serviceOf_of_names {first : InterfaceEntry} {rest : List InterfaceEntry}
    {protocol security payload : List Char} (hinterfaces : entry.interfaces = first :: rest)
    (hnames : Interface.Names first.name protocol security payload) :
    serviceOf entry = (PolicyKind.ofSecurity entry.security).map fun policy => {
      definition := entry.service.definition
      uri := entry.uri
      interface := .ofParts (String.ofList protocol) (String.ofList security)
        (String.ofList payload)
      policy := policy
      metadata := entry.metadata.getD ∅
      version := entry.version } := by
  simp only [serviceOf, hinterfaces, List.head?_cons, Error.ofOption, bind, Except.bind,
    hnames.ofString_eq]
  cases entry.security with
  | none => rfl
  | some name =>
    dsimp only [PolicyKind.ofSecurity]
    cases PolicyKind.ofName name <;> rfl

theorem ofEntry_of_yields (h : entry.Yields method rule) : ofEntry entry method = .ok rule := by
  cases h with
  | rule hinterfaces hnames hpolicy htoken =>
    rw [ofEntry, serviceOf_of_names hinterfaces hnames, PolicyKind.asked_iff.1 hpolicy]
    rw [issuedToken_iff.1 htoken]
    rfl

theorem ofEntry_of_fails (h : entry.Fails failure) (method : String) :
    ofEntry entry method = .error failure := by
  cases h with
  | noInterface hinterfaces =>
    unfold ofEntry serviceOf
    rw [hinterfaces]
    rfl
  | malformedInterface hinterfaces hnames =>
    simp only [ofEntry, serviceOf, hinterfaces, List.head?_cons, Error.ofOption, bind, Except.bind,
      Interface.ofString_of_not_names hnames]
    rfl
  | unknownPolicy hinterfaces hnames hname hunknown =>
    rw [ofEntry, serviceOf_of_names hinterfaces hnames, hname, PolicyKind.ofSecurity,
      PolicyKind.ofName_of_not_spelled hunknown]
    rfl

end OrchestrationRule

namespace OrchestrationEntry

open OrchestrationRule (ofEntry ofEntries ofEntry_of_yields ofEntry_of_fails)

variable {entry : OrchestrationEntry} {method : String} {rule : OrchestrationRule}
  {failure : Error}

theorem IsUsable.exists_yields (h : entry.IsUsable) (method : String) :
    ∃ rule, entry.Yields method rule := by
  obtain ⟨first, rest, protocol, security, payload, hinterfaces, hnames⟩ := h.interface
  have hpolicy : ∃ policy, PolicyKind.Asked entry.security policy := by
    cases hsecurity : entry.security with
    | none => exact ⟨_, .unnamed⟩
    | some name =>
      obtain ⟨kind, hkind⟩ := PolicyKind.exists_mem_spellings_iff.2 (h.policy name hsecurity)
      exact ⟨kind, .named hkind⟩
  obtain ⟨policy, hpolicy⟩ := hpolicy
  exact ⟨_, .rule hinterfaces hnames hpolicy (OrchestrationRule.issuedToken_iff.2 rfl)⟩

theorem Yields.isUsable (h : entry.Yields method rule) : entry.IsUsable := by
  cases h with
  | rule hinterfaces hnames hpolicy _ =>
    refine ⟨⟨_, _, _, _, _, hinterfaces, hnames⟩, ?policy⟩
    case policy =>
      intro name hname
      rw [hname] at hpolicy
      cases hpolicy with
      | named hspelled => exact PolicyKind.exists_mem_spellings_iff.1 ⟨_, hspelled⟩

/-- What is wrong is found in the order in which it is looked for. -/
theorem exists_fails_of_not_isUsable (h : ¬ entry.IsUsable) : ∃ failure, entry.Fails failure := by
  cases hinterfaces : entry.interfaces with
  | nil => exact ⟨_, .noInterface hinterfaces⟩
  | cons first rest =>
    by_cases hnames : ∃ protocol security payload,
        Interface.Names first.name protocol security payload
    · obtain ⟨protocol, security, payload, hnames⟩ := hnames
      cases hsecurity : entry.security with
      | none =>
        exfalso
        apply h
        refine ⟨⟨first, rest, protocol, security, payload, hinterfaces, hnames⟩, ?_⟩
        intro name hname
        rw [hsecurity] at hname
        cases hname
      | some name =>
        refine ⟨_, .unknownPolicy hinterfaces hnames hsecurity ?_⟩
        intro kind hkind
        apply h
        refine ⟨⟨first, rest, protocol, security, payload, hinterfaces, hnames⟩, ?_⟩
        intro other hother
        obtain rfl := Option.some.inj (hsecurity.symm.trans hother)
        exact PolicyKind.exists_mem_spellings_iff.1 ⟨kind, hkind⟩
    · exact ⟨_, .malformedInterface hinterfaces hnames⟩

theorem yields_of_ofEntry (h : ofEntry entry method = .ok rule) : entry.Yields method rule := by
  by_cases husable : entry.IsUsable
  · obtain ⟨made, hmade⟩ := husable.exists_yields method
    obtain rfl := Except.ok.inj ((ofEntry_of_yields hmade).symm.trans h)
    exact hmade
  · obtain ⟨failure, hfails⟩ := exists_fails_of_not_isUsable husable
    cases (ofEntry_of_fails hfails method).symm.trans h

theorem fails_of_ofEntry (h : ofEntry entry method = .error failure) : entry.Fails failure := by
  by_cases husable : entry.IsUsable
  · obtain ⟨rule, hyields⟩ := husable.exists_yields method
    cases (ofEntry_of_yields hyields).symm.trans h
  · obtain ⟨found, hfails⟩ := exists_fails_of_not_isUsable husable
    obtain rfl := Except.error.inj ((ofEntry_of_fails hfails method).symm.trans h)
    exact hfails

theorem decided (entry : OrchestrationEntry) (method : String) : entry.Decided method where
  usable_iff := by
    constructor
    · rintro ⟨rule, hrule⟩
      exact (yields_of_ofEntry hrule).isUsable
    · intro husable
      obtain ⟨rule, hyields⟩ := husable.exists_yields method
      exact ⟨rule, ofEntry_of_yields hyields⟩
  yields_iff _ := ⟨yields_of_ofEntry, ofEntry_of_yields⟩
  fails_iff _ := ⟨fails_of_ofEntry, fun hfails => ofEntry_of_fails hfails method⟩

theorem ofEntries_cons_of_yields {entries : List OrchestrationEntry}
    (h : entry.Yields method rule) :
    ofEntries (entry :: entries) method = rule :: ofEntries entries method := by
  simp [ofEntries, ofEntry_of_yields h, Except.toOption]

theorem ofEntries_cons_of_not_isUsable {entries : List OrchestrationEntry}
    (h : ¬ entry.IsUsable) : ofEntries (entry :: entries) method = ofEntries entries method := by
  obtain ⟨failure, hfails⟩ := exists_fails_of_not_isUsable h
  simp [ofEntries, ofEntry_of_fails hfails, Except.toOption]

theorem yieldAll_ofEntries (method : String) (entries : List OrchestrationEntry) :
    YieldAll method entries (ofEntries entries method) := by
  induction entries with
  | nil => exact .done
  | cons entry entries ih =>
    by_cases husable : entry.IsUsable
    · obtain ⟨rule, hyields⟩ := husable.exists_yields method
      rw [ofEntries_cons_of_yields hyields]
      exact .usable hyields ih
    · rw [ofEntries_cons_of_not_isUsable husable]
      exact .ignored husable ih

/-- The rules of an answer are those of its usable entries. -/
theorem yieldAll_iff {entries : List OrchestrationEntry} {rules : List OrchestrationRule} :
    YieldAll method entries rules ↔ rules = ofEntries entries method := by
  constructor
  · intro h
    induction h with
    | done => rfl
    | usable hrule _ ih => rw [ofEntries_cons_of_yields hrule, ih]
    | ignored hunusable _ ih => rw [ofEntries_cons_of_not_isUsable hunusable, ih]
  · rintro rfl
    exact yieldAll_ofEntries method entries

end OrchestrationEntry

end LocalCloud
