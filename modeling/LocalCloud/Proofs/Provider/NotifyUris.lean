import LocalCloud.Proofs.Provider.EventTypes
import LocalCloud.Proofs.Provider.Routing
import LocalCloud.Proofs.Text.Case
import LocalCloud.Proofs.Text.Trimming

/-!
# Subscriptions by notify URI

A notify URI ends in an identifier of its own, so it belongs to one subscription at most,
whatever the event types are.  A lookup takes away the slashes in front of the URI it is
given, but subscriptions keep theirs.  So each one is found by its notify URI, with slashes
in front or without, unless its event type begins with a slash; then it is found by no URI.
-/

namespace LocalCloud

variable {E : Type}

namespace Subscription

variable {declared : EventDeclaration E} {subscription : Subscription E}

theorem IsDeclaredBy.notifyUri_eq (h : subscription.IsDeclaredBy declared) :
    subscription.notifyUri =
      Text.lower (Text.upper declared.eventType) ++ "-" ++ declared.identifier := by
  have huri := congrArg notifyUri h
  rw [declare] at huri
  exact huri

theorem IsDeclaredBy.dropLeading_notifyUri (h : subscription.IsDeclaredBy declared) :
    Text.dropLeading '/' subscription.notifyUri =
      Text.dropLeading '/' (Text.lower (Text.upper declared.eventType)) ++ "-" ++
        declared.identifier := by
  have hdash : ∀ c ∈ ("-" ++ declared.identifier).toList.head?, c ≠ '/' := by
    rw [String.toList_append]
    rintro c ⟨⟩
    decide
  rw [h.notifyUri_eq, String.append_assoc, Text.dropLeading_append hdash, String.append_assoc]

/-- The notify URI begins with a slash if the event type does. -/
theorem IsDeclaredBy.dropLeading_notifyUri_iff (h : subscription.IsDeclaredBy declared) :
    Text.dropLeading '/' subscription.notifyUri = subscription.notifyUri ↔
      declared.eventType.toList.head? ≠ some '/' := by
  have hkept (text : String) :
      text ++ "-" ++ declared.identifier =
          Text.lower (Text.upper declared.eventType) ++ "-" ++ declared.identifier ↔
        text = Text.lower (Text.upper declared.eventType) := by
    rw [String.append_assoc, String.append_assoc, String.append_left_inj]
  rw [h.dropLeading_notifyUri, h.notifyUri_eq, hkept, Text.dropLeading_eq_self_iff,
    Ne, Text.head?_lower_eq_slash_iff, Text.head?_upper_eq_slash_iff]

end Subscription

namespace Subscriptions

variable {declared : List (EventDeclaration E)} {subscriptions : Subscriptions E}

/-- Subscriptions that were declared as given, one after the other, under identifiers that
were made for them. -/
structure Declares (declared : List (EventDeclaration E)) (subscriptions : Subscriptions E) :
    Prop where
  items : List.Forall₂ Subscription.IsDeclaredBy declared subscriptions.items
  identifiers : ∀ event ∈ declared, Subscription.IsIdentifier event.identifier
  distinct : (declared.map EventDeclaration.identifier).Nodup

namespace Declares

variable {event other : EventDeclaration E} {subscription found : Subscription E}

theorem isDeclaredBy (h : Declares declared subscriptions)
    (hmem : (event, subscription) ∈ declared.zip subscriptions.items) :
    subscription.IsDeclaredBy event :=
  List.forall₂_zip h.items hmem

theorem nodup_identifiers (h : Declares declared subscriptions) :
    ((declared.zip subscriptions.items).map fun pair => pair.1.identifier).Nodup := by
  have hevents : (declared.zip subscriptions.items).map Prod.fst = declared :=
    List.map_fst_zip h.items.length_eq.le
  have hmap := h.distinct
  rw [← hevents, List.map_map] at hmap
  exact hmap

/-- Texts that end with the identifiers of declarations tell these apart. -/
theorem eq_of_append_identifier_eq (h : Declares declared subscriptions) {text otherText : String}
    (hmem : (event, subscription) ∈ declared.zip subscriptions.items)
    (hother : (other, found) ∈ declared.zip subscriptions.items)
    (hsame : otherText ++ other.identifier = text ++ event.identifier) :
    (other, found) = (event, subscription) := by
  have hevent := h.identifiers event (List.of_mem_zip hmem).1
  have hotherEvent := h.identifiers other (List.of_mem_zip hother).1
  have hidentifier : other.identifier = event.identifier :=
    hotherEvent.eq_of_append_eq hevent hsame
  exact List.inj_on_of_nodup_map h.nodup_identifiers hother hmem hidentifier

theorem map_snd_zip (h : Declares declared subscriptions) :
    (declared.zip subscriptions.items).map Prod.snd = subscriptions.items :=
  List.map_snd_zip h.items.length_eq.ge

theorem exists_declaration (h : Declares declared subscriptions)
    (hmem : subscription ∈ subscriptions.items) :
    ∃ event, (event, subscription) ∈ declared.zip subscriptions.items := by
  rw [← h.map_snd_zip] at hmem
  obtain ⟨⟨event, _⟩, hpair, rfl⟩ := List.mem_map.1 hmem
  exact ⟨event, hpair⟩

/-- A notify URI without the slashes in front is that of no other subscription. -/
theorem eq_of_notifyUri_eq_dropLeading (h : Declares declared subscriptions)
    (hmem : (event, subscription) ∈ declared.zip subscriptions.items)
    (hfound : found ∈ subscriptions.items)
    (hsame : found.notifyUri = Text.dropLeading '/' subscription.notifyUri) :
    found = subscription := by
  obtain ⟨other, hother⟩ := h.exists_declaration hfound
  rw [(h.isDeclaredBy hother).notifyUri_eq, (h.isDeclaredBy hmem).dropLeading_notifyUri] at hsame
  exact congrArg Prod.snd (h.eq_of_append_identifier_eq hmem hother hsame)

theorem nodup_notifyUris (h : Declares declared subscriptions) :
    (subscriptions.items.map Subscription.notifyUri).Nodup := by
  have hpairs : (declared.zip subscriptions.items).Nodup := .of_map _ h.nodup_identifiers
  rw [← h.map_snd_zip, List.map_map]
  apply hpairs.map_on
  rintro ⟨other, found⟩ hother ⟨event, subscription⟩ hmem hsame
  rw [Function.comp_apply, Function.comp_apply, (h.isDeclaredBy hother).notifyUri_eq,
    (h.isDeclaredBy hmem).notifyUri_eq] at hsame
  exact h.eq_of_append_identifier_eq hmem hother hsame

end Declares

section Lookup

variable {uri : String} {subscription : Subscription E}

theorem mem_of_byNotifyUri? (h : subscriptions.byNotifyUri? uri = some subscription) :
    subscription ∈ subscriptions.items ∧ subscription.notifyUri = Text.dropLeading '/' uri :=
  ⟨List.mem_of_find?_eq_some h, by simpa using List.find?_some h⟩

theorem byNotifyUri?_eq_some_iff
    (hnodup : (subscriptions.items.map Subscription.notifyUri).Nodup) :
    subscriptions.byNotifyUri? uri = some subscription ↔
      subscription ∈ subscriptions.items ∧ subscription.notifyUri = Text.dropLeading '/' uri := by
  constructor
  · exact mem_of_byNotifyUri?
  · rintro ⟨hmem, huri⟩
    cases hfound : subscriptions.byNotifyUri? uri with
    | none =>
        have hmissing := List.find?_eq_none.1 hfound subscription hmem
        exact absurd (beq_iff_eq.2 huri) hmissing
    | some found =>
        obtain ⟨hother, hotherUri⟩ := mem_of_byNotifyUri? hfound
        rw [List.inj_on_of_nodup_map hnodup hother hmem (hotherUri.trans huri.symm)]

theorem byNotifyUri?_slash_append (subscriptions : Subscriptions E) (uri : String) :
    subscriptions.byNotifyUri? ("/" ++ uri) = subscriptions.byNotifyUri? uri := by
  rw [byNotifyUri?, byNotifyUri?, Text.dropLeading_slash_append]

end Lookup

/-- A declared subscription, if a lookup of its notify URI finds it. -/
def findable? (event : EventDeclaration E) (subscription : Subscription E) :
    Option (Subscription E) :=
  if event.eventType.toList.head? = some '/' then none else some subscription

namespace Declares

variable {event : EventDeclaration E} {subscription : Subscription E}

theorem byNotifyUri?_notifyUri (h : Declares declared subscriptions)
    (hmem : (event, subscription) ∈ declared.zip subscriptions.items) :
    subscriptions.byNotifyUri? subscription.notifyUri = findable? event subscription := by
  have hslash := (h.isDeclaredBy hmem).dropLeading_notifyUri_iff
  rw [findable?]
  split
  next hhead =>
    rw [Option.eq_none_iff_forall_ne_some]
    intro found hfound
    obtain ⟨hitem, huri⟩ := mem_of_byNotifyUri? hfound
    obtain rfl := h.eq_of_notifyUri_eq_dropLeading hmem hitem huri
    exact hslash.1 huri.symm hhead
  next hhead =>
    exact (byNotifyUri?_eq_some_iff h.nodup_notifyUris).2
      ⟨(List.of_mem_zip hmem).2, (hslash.2 hhead).symm⟩

end Declares

/-- How subscriptions that were declared as given are found by URIs. -/
structure FindsByUri (declared : List (EventDeclaration E)) (subscriptions : Subscriptions E) :
    Prop where
  owner : ∀ uri subscription, subscriptions.byNotifyUri? uri = some subscription ↔
    subscription ∈ subscriptions.items ∧ subscription.notifyUri = Text.dropLeading '/' uri
  apart : (subscriptions.items.map Subscription.notifyUri).Nodup
  own : ∀ event subscription, (event, subscription) ∈ declared.zip subscriptions.items →
    subscriptions.byNotifyUri? subscription.notifyUri = findable? event subscription
  slashed : ∀ event subscription, (event, subscription) ∈ declared.zip subscriptions.items →
    subscriptions.byNotifyUri? ("/" ++ subscription.notifyUri) = findable? event subscription
  /-- A provider that took the subscription has it in its router, and where it has it the
  path is looked up alike. -/
  wired : ∀ event subscription, (event, subscription) ∈ declared.zip subscriptions.items →
    ∀ {H : Type} (header : Option String) (offers : List (Offer H E)),
      .event subscription ∈ (Provider.trusting header : Provider H E).accepted offers →
      ∃ router, ((Provider.trusting header).wired offers).router? = some router ∧
        (∃ path, (router.get? path).bind (·.endpoint? "POST") = some (.event subscription)) ∧
        ∀ path, (router.get? path).bind (·.endpoint? "POST") = some (.event subscription) →
          subscriptions.byNotifyUri? path = findable? event subscription
  /-- Without captures that is every path from which requests reach the subscription. -/
  routed : ∀ event subscription, (event, subscription) ∈ declared.zip subscriptions.items →
    ∀ {H : Type} (header : Option String) (offers : List (Offer H E)),
      (∀ offer ∈ offers, ¬ HasCapture offer.uri) → ∀ path method,
      ((Provider.trusting header).wired offers).route path method = .event subscription →
        subscriptions.byNotifyUri? path = findable? event subscription

theorem findsByUri_of_declares (h : Declares declared subscriptions) :
    subscriptions.FindsByUri declared := by
  have hslashed : ∀ event subscription,
      (event, subscription) ∈ declared.zip subscriptions.items →
      subscriptions.byNotifyUri? ("/" ++ subscription.notifyUri) =
        findable? event subscription := by
    intro event subscription hmem
    rw [byNotifyUri?_slash_append, h.byNotifyUri?_notifyUri hmem]
  refine ⟨fun uri subscription => byNotifyUri?_eq_some_iff h.nodup_notifyUris,
    h.nodup_notifyUris, fun event subscription => h.byNotifyUri?_notifyUri, hslashed,
    ?wired, ?routed⟩
  case wired =>
    intro event subscription hmem H header offers haccepted
    obtain ⟨router, hrouter, hgroups⟩ := ((Provider.WellWired.trusting header).wired
      offers).exists_groups
    have hanswers := (hgroups.congr (Provider.mem_offers_wired header offers)
      ).bind_endpoint?_eq_some_iff
    refine ⟨router, hrouter, ⟨subscription.path, ?_⟩, ?_⟩
    · exact (hanswers _ _ _).2 ⟨haccepted, rfl, .inl rfl⟩
    · intro path hpath
      obtain rfl : subscription.path = path := ((hanswers _ _ _).1 hpath).path_eq
      exact hslashed event subscription hmem
  case routed =>
    intro event subscription hmem H header offers hplain path method hroute
    obtain ⟨router, hrouter, hgroups, hliteral⟩ := Provider.routes_wired header hplain
    have hevent := (Provider.routesAsWired_of_groups hrouter hgroups hliteral path method).event
    obtain ⟨-, rfl, -⟩ := (hevent subscription).1 hroute
    exact hslashed event subscription hmem

theorem isIdentifier_replicate {digit : Char} (h : digit.isDigit = true) :
    Subscription.IsIdentifier (String.ofList (List.replicate 32 digit)) := by
  refine ⟨by rw [String.length_ofList, List.length_replicate], ?_⟩
  intro c hc
  rw [String.toList_ofList] at hc
  rw [List.eq_of_mem_replicate hc]
  exact .inl h

/-- Two subscriptions, one of them active and the other one for a type with a slash. -/
theorem findsByUri_of_declares_alarm :
    let declared : List (EventDeclaration Unit) :=
      [⟨"Temperature", (), none, String.ofList (List.replicate 32 '0')⟩,
        ⟨"/alarm", (), none, String.ofList (List.replicate 32 '1')⟩]
    let subscription (event : EventDeclaration Unit) : Subscription Unit :=
      .declare event.eventType ⟨"subscriber", "127.0.0.1", 7000, none⟩ event.callback
        event.metadata event.identifier
    let subscriptions : Subscriptions Unit :=
      ⟨declared.zipWith (fun event active => { subscription event with isSubscribed := active })
        [true, false]⟩
    Declares declared subscriptions ∧ subscriptions.FindsByUri declared := by
  intro declared subscription subscriptions
  have hdeclares : Declares declared subscriptions := by
    refine ⟨.cons rfl (.cons rfl .nil), ?_, ?_⟩
    · simp only [declared, List.forall_mem_cons]
      exact ⟨isIdentifier_replicate rfl, isIdentifier_replicate rfl, nofun⟩
    · simp [declared]
  exact ⟨hdeclares, findsByUri_of_declares hdeclares⟩

/-- A subscription that its own notify URI does not find. -/
theorem byNotifyUri?_notifyUri_eq_none_alarm :
    let event : EventDeclaration Unit :=
      ⟨"/alarm", (), none, String.ofList (List.replicate 32 '0')⟩
    let subscription : Subscription Unit :=
      .declare event.eventType ⟨"subscriber", "127.0.0.1", 7000, none⟩ event.callback
        event.metadata event.identifier
    let subscriptions : Subscriptions Unit := empty.insert subscription
    Declares [event] subscriptions ∧
      subscriptions.byNotifyUri? subscription.notifyUri = none ∧
      subscriptions.byNotifyUri? ("/" ++ subscription.notifyUri) = none ∧
      subscriptions.byNotifyUri? subscription.path = none := by
  intro event subscription subscriptions
  have hidentifier : Subscription.IsIdentifier event.identifier := isIdentifier_replicate rfl
  have hdeclares : Declares [event] subscriptions :=
    ⟨.cons rfl .nil, List.forall_mem_singleton.2 hidentifier, List.nodup_singleton _⟩
  have hslash : event.eventType.toList.head? = some '/' := by decide
  have hown : subscriptions.byNotifyUri? subscription.notifyUri = none :=
    (hdeclares.byNotifyUri?_notifyUri List.mem_cons_self).trans (if_pos hslash)
  refine ⟨hdeclares, hown, ?_, ?_⟩
  · rw [byNotifyUri?_slash_append, hown]
  · rw [Subscription.path, byNotifyUri?_slash_append, hown]

end Subscriptions

end LocalCloud
