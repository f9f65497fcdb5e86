import LocalCloud.Proofs.Access.TokenDecision

/-!
# How far a token is bound to its consumer

A token policy lets a caller in whose common name starts with the consumer that
the claims name.  A common name is the name of a system, a dot and a suffix, and
the name of a system has no dot, so the common name of a system starts with a
consumer exactly when the system's own name does.  A token therefore opens a
service to its consumer and to every system whose name continues the name of the
consumer, and to no other system.
-/

namespace LocalCloud

open Crypto.Rsa (PrivateKey)

/-- A request carries a valid token, and its certificate names a system with a
suffix. -/
structure BearsToken (providerKey : PrivateKey) (moment : Moment) (request : AccessRequest)
    (claims : Claims) (name suffix : String) : Prop where
  token : ∃ token pem, Bearer.token request.authorization = .ok token ∧
    moment.authorizationKey = some pem ∧ Token.Valid token providerKey pem moment.now claims
  caller : NamesCaller request.certificate (name ++ "." ++ suffix)

/-- What a token policy of a service makes of claims for a consumer when a system
presents them. -/
structure BoundToConsumer (service : Service) (policy : TokenPolicy) (moment : Moment)
    (request : AccessRequest) (claims : Claims) (name : String) : Prop where
  /-- A system whose name does not continue that of the consumer is refused,
  whatever the claims say about service and interface. -/
  refuses : ¬ claims.consumer.toList <+: name.toList →
    (AccessPolicy.token policy).isAuthorized moment request = .ok false
  /-- For the other systems it is service and interface that count. -/
  decides : claims.consumer.toList <+: name.toList →
    ((AccessPolicy.token policy).isAuthorized moment request = .ok true ↔
      service.interface.toString.toList.map Text.asciiLowerChar =
          claims.interface.toList.map Text.asciiLowerChar ∧
        claims.service = service.definition)

/-- A text without dots is continued by a name with a suffix exactly when it is
continued by the name. -/
theorem prefix_append_dot_iff {consumer name rest : List Char} (hdot : '.' ∉ consumer) :
    consumer <+: name ++ '.' :: rest ↔ consumer <+: name := by
  constructor
  · intro hstarts
    have hname : name <+: name ++ '.' :: rest := List.prefix_append _ _
    rcases List.prefix_or_prefix_of_prefix hstarts hname with hshort | ⟨more, rfl⟩
    · exact hshort
    -- a consumer longer than the name would go on with the dot behind it
    · cases more with
      | nil => rw [List.append_nil]
      | cons c more =>
          have hmore := (List.prefix_append_right_inj name).1 hstarts
          obtain ⟨rfl, -⟩ := List.cons_prefix_cons.1 hmore
          exact absurd (List.mem_append_right name List.mem_cons_self) hdot
  · intro hstarts
    exact hstarts.trans (List.prefix_append _ _)

/-- Claims for a consumer without dots concern a system with a suffix exactly when
the name of the system continues that of the consumer and the claims are made for the
service. -/
theorem Claims.concern_append_dot_iff {claims : Claims} (service : Service) (name suffix : String)
    (hdot : '.' ∉ claims.consumer.toList) :
    claims.Concern service (name ++ "." ++ suffix) ↔
      claims.consumer.toList <+: name.toList ∧
        service.interface.toString.toList.map Text.asciiLowerChar =
          claims.interface.toList.map Text.asciiLowerChar ∧
        claims.service = service.definition := by
  have hchars : (name ++ "." ++ suffix).toList = name.toList ++ '.' :: suffix.toList := by
    rw [String.toList_append, String.toList_append, List.append_assoc]
    rfl
  have hstarts : claims.consumer.toList <+: (name ++ "." ++ suffix).toList ↔
      claims.consumer.toList <+: name.toList := by
    rw [hchars]
    exact prefix_append_dot_iff hdot
  constructor
  · rintro ⟨hconsumer, hinterface, hdefinition⟩
    exact ⟨hstarts.1 hconsumer, hinterface, hdefinition⟩
  · rintro ⟨hconsumer, hinterface, hdefinition⟩
    exact ⟨hstarts.2 hconsumer, hinterface, hdefinition⟩

namespace TokenPolicy

variable {service : Service} {providerKey : PrivateKey} {policy : TokenPolicy} {moment : Moment}
  {request : AccessRequest} {claims : Claims} {name suffix : String}

/-- A request with a valid token is decided by its claims alone. -/
theorem isAuthorized_of_bearsToken (hcompiled : CompiledFor service providerKey policy)
    (hbears : BearsToken providerKey moment request claims name suffix) :
    (AccessPolicy.token policy).isAuthorized moment request =
      .ok (policy.grants claims (name ++ "." ++ suffix)) := by
  obtain rfl := hcompiled.eq
  obtain ⟨⟨token, pem, htoken, hkey, hvalid⟩, hcaller⟩ := hbears
  have hverify := Token.verify_eq_ok_iff.2 hvalid
  have hname := callerName_eq_ok_iff.2 hcaller
  simp only [AccessPolicy.isAuthorized, isAuthorized, htoken, check, hkey, Error.ofOption, hverify,
    hname, bind, Except.bind, pure, Except.pure]

section Example

/-- A token for the consumer of the claims is presented by a system of any name. -/
theorem exists_bearsToken (name suffix : String)
    (hlength : (Utf8.encode (name ++ "." ++ suffix)).length < 0x10000) :
    ∃ token, Token.issueProth echoClaims = .ok token ∧
      BearsToken .proth knownMoment (requestWith token (name ++ "." ++ suffix)) echoClaims name
        suffix := by
  obtain ⟨token, hissue, htoken, hvalid⟩ := exists_issued_valid
  exact ⟨token, hissue, ⟨token, _, htoken, rfl, hvalid⟩, namesCaller_minimal hlength⟩

end Example

/-- A token policy binds a token to its consumer up to a continuation of the
name, for every service, interface and time. -/
theorem boundToConsumer_of_bearsToken (hcompiled : CompiledFor service providerKey policy)
    (hbears : BearsToken providerKey moment request claims name suffix)
    (hdot : '.' ∉ claims.consumer.toList) :
    BoundToConsumer service policy moment request claims name := by
  have hdecision := isAuthorized_of_bearsToken hcompiled hbears
  have hconcern := Claims.concern_append_dot_iff service name suffix hdot
  obtain rfl := hcompiled.eq
  constructor
  · intro hforeign
    rw [hdecision, Except.ok.injEq, Bool.eq_false_iff, ne_eq, grants_iff, hconcern]
    rintro ⟨hstarts, -⟩
    exact hforeign hstarts
  · intro hstarts
    rw [hdecision, Except.ok.injEq, grants_iff, hconcern, and_iff_right hstarts]

/-- The token of one system in the hands of an unrelated one. -/
theorem boundToConsumer_of_bearsToken_intruder :
    ∃ token,
      let request := requestWith token ("intruder" ++ "." ++ "testcloud.company.arrowhead.eu")
      Token.issueProth echoClaims = .ok token ∧ CompiledFor echoService .proth echoPolicy ∧
        BearsToken .proth knownMoment request echoClaims "intruder"
          "testcloud.company.arrowhead.eu" ∧
        '.' ∉ echoClaims.consumer.toList ∧
        BoundToConsumer echoService echoPolicy knownMoment request echoClaims "intruder" := by
  obtain ⟨token, hissue, hbears⟩ := exists_bearsToken "intruder" "testcloud.company.arrowhead.eu"
    (by decide)
  have hdot : '.' ∉ echoClaims.consumer.toList := by decide
  exact ⟨token, hissue, compiledFor_echoPolicy, hbears, hdot,
    boundToConsumer_of_bearsToken compiledFor_echoPolicy hbears hdot⟩

/-- A system whose name continues that of the consumer is let in with the token of
the consumer. -/
theorem exists_isAuthorized_other_consumer :
    ∃ token,
      let request := requestWith token ("consumer2" ++ "." ++ "testcloud.company.arrowhead.eu")
      Token.issueProth echoClaims = .ok token ∧ CompiledFor echoService .proth echoPolicy ∧
        BearsToken .proth knownMoment request echoClaims "consumer2"
          "testcloud.company.arrowhead.eu" ∧
        echoClaims.consumer ≠ "" ∧ "consumer2" ≠ "" ∧ echoClaims.consumer ≠ "consumer2" ∧
        '.' ∉ echoClaims.consumer.toList ∧ '.' ∉ "consumer2".toList ∧
        (AccessPolicy.token echoPolicy).isAuthorized knownMoment request = .ok true := by
  obtain ⟨token, hissue, hbears⟩ := exists_bearsToken "consumer2" "testcloud.company.arrowhead.eu"
    (by decide)
  have hgrants : echoPolicy.grants echoClaims
      ("consumer2" ++ "." ++ "testcloud.company.arrowhead.eu") = true := by decide
  have hdecision := isAuthorized_of_bearsToken compiledFor_echoPolicy hbears
  rw [hgrants] at hdecision
  exact ⟨token, hissue, compiledFor_echoPolicy, hbears, by decide, by decide, by decide, by decide,
    by decide, hdecision⟩

end TokenPolicy

end LocalCloud
