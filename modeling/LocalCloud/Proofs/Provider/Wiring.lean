import LocalCloud.Provider.Wiring
import Mathlib.Data.List.Nodup
import Mathlib.Data.List.Perm.Basic
import Mathlib.Data.Prod.Basic
import Mathlib.Tactic.Common

/-!
# Wired paths stay apart

A provider is wired by offering it services and subscriptions one after the other;
it takes an offer or rejects it.  What it has taken never shares a route or a path,
what it has rejected leaves no trace, and whether it takes a whole collection does
not depend on the order in which the collection is offered.
-/

namespace LocalCloud

variable {H E : Type}

/-- The path and the method of a service. -/
def ProvidedService.route (service : ProvidedService H) : String × String :=
  (service.path, service.method)

namespace Offer

def service? : Offer H E → Option (ProvidedService H)
  | service provided => some provided
  | event _ => none

def event? : Offer H E → Option (Subscription E)
  | service _ => none
  | event subscription => some subscription

/-- The services among offers. -/
def services (offers : List (Offer H E)) : List (ProvidedService H) :=
  offers.filterMap service?

/-- The subscriptions among offers. -/
def events (offers : List (Offer H E)) : List (Subscription E) :=
  offers.filterMap event?

section Cons

variable (provided : ProvidedService H) (subscription : Subscription E)
  (offers : List (Offer H E))

@[simp]
theorem services_nil : services ([] : List (Offer H E)) = [] := rfl

@[simp]
theorem events_nil : events ([] : List (Offer H E)) = [] := rfl

@[simp]
theorem services_cons_service :
    services (.service provided :: offers) = provided :: services offers := rfl

@[simp]
theorem services_cons_event : services (.event subscription :: offers) = services offers := rfl

@[simp]
theorem events_cons_service : events (.service provided :: offers) = events offers := rfl

@[simp]
theorem events_cons_event :
    events (.event subscription :: offers) = subscription :: events offers := rfl

end Cons

@[simp]
theorem mem_services {offers : List (Offer H E)} {provided : ProvidedService H} :
    provided ∈ services offers ↔ .service provided ∈ offers := by
  rw [services, List.mem_filterMap]
  constructor
  · rintro ⟨offer, hoffer, hservice⟩
    cases offer with
    | service other => exact Option.some.inj hservice ▸ hoffer
    | event subscription => exact nomatch hservice
  · intro hoffer
    exact ⟨_, hoffer, rfl⟩

@[simp]
theorem mem_events {offers : List (Offer H E)} {subscription : Subscription E} :
    subscription ∈ events offers ↔ .event subscription ∈ offers := by
  rw [events, List.mem_filterMap]
  constructor
  · rintro ⟨offer, hoffer, hevent⟩
    cases offer with
    | service provided => exact nomatch hevent
    | event other => exact Option.some.inj hevent ▸ hoffer
  · intro hoffer
    exact ⟨_, hoffer, rfl⟩

end Offer

namespace Wiring

variable {provider after : Provider H E} {first : Wiring H E Unit} {next : Unit → Wiring H E Unit}

theorem run_bind_of_ok (h : first.run provider = (.ok (), after)) :
    (first >>= next).run provider = (next ()).run after := by
  have hfirst : StateT.run first.run provider = pure (.ok (), after) := h
  change StateT.run (first >>= next).run provider = StateT.run (next ()).run after
  rw [ExceptT.run_bind, StateT.run_bind, hfirst, pure_bind]

theorem run_bind_of_error {failure : Error} (h : first.run provider = (.error failure, after)) :
    (first >>= next).run provider = (.error failure, after) := by
  have hfirst : StateT.run first.run provider = pure (.error failure, after) := h
  change StateT.run (first >>= next).run provider = pure (.error failure, after)
  rw [ExceptT.run_bind, StateT.run_bind, hfirst, pure_bind]
  rfl

end Wiring

namespace Provider

variable {provider : Provider H E} {offer : Offer H E}

theorem run_claimRoute (provider : Provider H E) (path method : String) :
    (claimRoute path method).run provider =
      if path ∈ provider.eventPaths then
        (.error (.validation ("path " ++ path ++ " is an event notify URI")), provider)
      else if (path, method) ∈ provider.routes then
        (.error (.validation ("route " ++ method ++ " " ++ path ++ " is already taken")), provider)
      else (.ok (), { provider with routes := provider.routes ++ [(path, method)] }) := by
  change (if path ∈ provider.eventPaths then _ else _ : Wiring H E Unit).run provider = _
  split
  · rfl
  · change (if (path, method) ∈ provider.routes then _ else _ : Wiring H E Unit).run provider = _
    split
    · rfl
    · rfl

theorem run_claimEventPath (provider : Provider H E) (path : String) :
    (claimEventPath path).run provider =
      if path ∈ provider.routes.map (·.1) then
        (.error (.validation ("path " ++ path ++ " is already a service URI")), provider)
      else if path ∈ provider.eventPaths then
        (.error (.validation ("notify URI " ++ path ++ " is already taken")), provider)
      else (.ok (), { provider with eventPaths := provider.eventPaths ++ [path] }) := by
  change (if path ∈ provider.routes.map (·.1) then _ else _ : Wiring H E Unit).run provider = _
  split
  · rfl
  · split
    · rfl
    · rfl

/-- The provider has room for an offer. -/
def Fits (provider : Provider H E) : Offer H E → Prop
  | .service service => service.method ∈ methods ∧ service.path ∉ provider.eventPaths ∧
      service.route ∉ provider.routes
  | .event subscription => subscription.path ∉ provider.routes.map (·.1) ∧
      subscription.path ∉ provider.eventPaths

/-- The provider with one more offer. -/
def taking (provider : Provider H E) : Offer H E → Provider H E
  | .service service => { provider with
      services := provider.services ++ [service]
      routes := provider.routes ++ [service.route] }
  | .event subscription => { provider with
      events := provider.events ++ [subscription]
      eventPaths := provider.eventPaths ++ [subscription.path] }

theorem run_wire_of_fits (h : provider.Fits offer) :
    (wire offer).run provider = (.ok (), provider.taking offer) := by
  cases offer with
  | service service =>
      obtain ⟨hmethod, hpath, hroute⟩ := h
      have hclaim := run_claimRoute provider service.path service.method
      rw [ProvidedService.route] at hroute
      rw [if_neg hpath, if_neg hroute] at hclaim
      rw [wire, wireService, if_neg (not_not_intro hmethod), Wiring.run_bind_of_ok hclaim]
      rfl
  | event subscription =>
      obtain ⟨hpath, hevent⟩ := h
      have hclaim := run_claimEventPath provider subscription.path
      rw [if_neg hpath, if_neg hevent] at hclaim
      rw [wire, wireEvent, Wiring.run_bind_of_ok hclaim]
      rfl

/-- An offer without room is rejected, and nothing else happens. -/
theorem run_wire_of_not_fits (h : ¬ provider.Fits offer) :
    ∃ reason, (wire offer).run provider = (.error (.validation reason), provider) := by
  cases offer with
  | service service =>
      rw [wire, wireService]
      by_cases hmethod : service.method ∈ methods
      · have hclaim := run_claimRoute provider service.path service.method
        rw [if_neg (not_not_intro hmethod)]
        split at hclaim
        · exact ⟨_, Wiring.run_bind_of_error hclaim⟩
        · rename_i hpath
          split at hclaim
          · exact ⟨_, Wiring.run_bind_of_error hclaim⟩
          · rename_i hroute
            exact absurd ⟨hmethod, hpath, hroute⟩ h
      · rw [if_pos hmethod]
        exact ⟨_, rfl⟩
  | event subscription =>
      have hclaim := run_claimEventPath provider subscription.path
      rw [wire, wireEvent]
      split at hclaim
      · exact ⟨_, Wiring.run_bind_of_error hclaim⟩
      · rename_i hpath
        split at hclaim
        · exact ⟨_, Wiring.run_bind_of_error hclaim⟩
        · rename_i hevent
          exact absurd ⟨hpath, hevent⟩ h

/-- The provider after offers were made to it one after the other. -/
def wired (provider : Provider H E) (offers : List (Offer H E)) : Provider H E :=
  offers.foldl (fun provider offer => ((wire offer).run provider).2) provider

/-- Those of the offers made one after the other that the provider takes. -/
def accepted (provider : Provider H E) : List (Offer H E) → List (Offer H E)
  | [] => []
  | offer :: offers =>
    match (wire offer).run provider with
    | (.ok (), after) => offer :: accepted after offers
    | (.error _, after) => accepted after offers

section Cons

variable {offers : List (Offer H E)}

theorem wired_cons_of_fits (h : provider.Fits offer) :
    provider.wired (offer :: offers) = (provider.taking offer).wired offers := by
  rw [wired, List.foldl_cons, run_wire_of_fits h]
  rfl

theorem wired_cons_of_not_fits (h : ¬ provider.Fits offer) :
    provider.wired (offer :: offers) = provider.wired offers := by
  obtain ⟨reason, hrun⟩ := run_wire_of_not_fits h
  rw [wired, List.foldl_cons, hrun]
  rfl

theorem accepted_cons_of_fits (h : provider.Fits offer) :
    provider.accepted (offer :: offers) = offer :: (provider.taking offer).accepted offers := by
  rw [accepted, run_wire_of_fits h]

theorem accepted_cons_of_not_fits (h : ¬ provider.Fits offer) :
    provider.accepted (offer :: offers) = provider.accepted offers := by
  obtain ⟨reason, hrun⟩ := run_wire_of_not_fits h
  rw [accepted, hrun]

end Cons

/-- A provider serves what it has taken and nothing else. -/
theorem serves_wired (provider : Provider H E) (offers : List (Offer H E)) :
    (provider.wired offers).services =
        provider.services ++ Offer.services (provider.accepted offers) ∧
      (provider.wired offers).events =
        provider.events ++ Offer.events (provider.accepted offers) := by
  induction offers generalizing provider with
  | nil => simp [wired, accepted]
  | cons offer offers ih =>
      by_cases h : provider.Fits offer
      · obtain ⟨hservices, hevents⟩ := ih (provider.taking offer)
        rw [wired_cons_of_fits h, accepted_cons_of_fits h, hservices, hevents]
        cases offer <;> simp [taking]
      · rw [wired_cons_of_not_fits h, accepted_cons_of_not_fits h]
        exact ih provider

theorem services_wired (header : Option String) (offers : List (Offer H E)) :
    ((trusting header).wired offers).services =
      Offer.services ((trusting header : Provider H E).accepted offers) :=
  (serves_wired _ offers).1

theorem events_wired (header : Option String) (offers : List (Offer H E)) :
    ((trusting header).wired offers).events =
      Offer.events ((trusting header : Provider H E).accepted offers) :=
  (serves_wired _ offers).2

theorem accepted_sublist (provider : Provider H E) (offers : List (Offer H E)) :
    (provider.accepted offers).Sublist offers := by
  induction offers generalizing provider with
  | nil => exact List.Sublist.refl _
  | cons offer offers ih =>
      by_cases h : provider.Fits offer
      · rw [accepted_cons_of_fits h]
        exact (ih _).cons_cons offer
      · rw [accepted_cons_of_not_fits h]
        exact (ih _).cons offer

/-- What is recorded as taken is what is served, and no route or path is taken
twice. -/
structure WellWired (provider : Provider H E) : Prop where
  routes_eq : provider.routes = provider.services.map ProvidedService.route
  eventPaths_eq : provider.eventPaths = provider.events.map Subscription.path
  supported : ∀ service ∈ provider.services, service.method ∈ methods
  routes_nodup : provider.routes.Nodup
  eventPaths_nodup : provider.eventPaths.Nodup
  apart : ∀ path ∈ provider.routes.map (·.1), path ∉ provider.eventPaths

namespace WellWired

theorem trusting (header : Option String) : (trusting header : Provider H E).WellWired where
  routes_eq := rfl
  eventPaths_eq := rfl
  supported := by simp [Provider.trusting]
  routes_nodup := List.nodup_nil
  eventPaths_nodup := List.nodup_nil
  apart := by simp [Provider.trusting]

/-- An offer that fits keeps the paths apart. -/
theorem taking (hwired : provider.WellWired) (hfits : provider.Fits offer) :
    (provider.taking offer).WellWired := by
  cases offer with
  | service service =>
      obtain ⟨hmethod, hpath, hroute⟩ := hfits
      refine ⟨?routes_eq, hwired.eventPaths_eq, ?supported, ?routes_nodup,
        hwired.eventPaths_nodup, ?apart⟩
      case routes_eq => simp [Provider.taking, hwired.routes_eq]
      case supported =>
        simp only [Provider.taking, List.forall_mem_append, List.forall_mem_singleton]
        exact ⟨hwired.supported, hmethod⟩
      case routes_nodup =>
        simpa [Provider.taking] using hwired.routes_nodup.concat hroute
      case apart =>
        simp only [Provider.taking, List.map_append, List.forall_mem_append, List.map_singleton,
          List.forall_mem_singleton]
        exact ⟨hwired.apart, hpath⟩
  | event subscription =>
      obtain ⟨hpath, hevent⟩ := hfits
      refine ⟨hwired.routes_eq, ?eventPaths_eq, hwired.supported, hwired.routes_nodup,
        ?eventPaths_nodup, ?apart⟩
      case eventPaths_eq => simp [Provider.taking, hwired.eventPaths_eq]
      case eventPaths_nodup =>
        simpa [Provider.taking] using hwired.eventPaths_nodup.concat hevent
      case apart =>
        intro path hservice hmem
        rcases List.mem_append.1 hmem with hold | hnew
        · exact hwired.apart path hservice hold
        · exact hpath (List.mem_singleton.1 hnew ▸ hservice)

theorem wired (hwired : provider.WellWired) (offers : List (Offer H E)) :
    (provider.wired offers).WellWired := by
  induction offers generalizing provider with
  | nil => exact hwired
  | cons offer offers ih =>
      by_cases h : provider.Fits offer
      · rw [wired_cons_of_fits h]
        exact ih (hwired.taking h)
      · rw [wired_cons_of_not_fits h]
        exact ih hwired

end WellWired

end Provider

/-- Services and subscriptions that one provider can serve together: every method, in
upper case as services hold it, is supported, no two services share a path and a
method, no two subscriptions share a notify URI, and no subscription has the path of
a service. -/
structure Compatible (services : List (ProvidedService H)) (events : List (Subscription E)) :
    Prop where
  supported : ∀ service ∈ services, service.method ∈ Provider.methods
  routes : (services.map fun service =>
    (Text.dropLeading '/' service.service.uri, service.method)).Nodup
  notifyUris : (events.map Subscription.notifyUri).Nodup
  apart : ∀ service ∈ services, ∀ subscription ∈ events,
    "/" ++ subscription.notifyUri ≠ "/" ++ Text.dropLeading '/' service.service.uri

theorem slash_append_injective : Function.Injective fun text : String => "/" ++ text := by
  intro left right h
  have hchars := congrArg String.toList h
  rw [String.toList_append, String.toList_append] at hchars
  exact String.toList_injective (List.append_cancel_left hchars)

namespace Compatible

variable {services services' : List (ProvidedService H)} {events events' : List (Subscription E)}

/-- The slash in front of a path does not matter. -/
theorem nodup_routes (h : Compatible services events) :
    (services.map ProvidedService.route).Nodup := by
  have hmap : services.map ProvidedService.route =
      (services.map fun service =>
        (Text.dropLeading '/' service.service.uri, service.method)).map
        (Prod.map (fun text : String => "/" ++ text) id) := by
    rw [List.map_map]
    rfl
  rw [hmap]
  exact h.routes.map (slash_append_injective.prodMap Function.injective_id)

theorem nodup_paths (h : Compatible services events) : (events.map Subscription.path).Nodup := by
  have hmap : events.map Subscription.path =
      (events.map Subscription.notifyUri).map fun text => "/" ++ text := by
    rw [List.map_map]
    rfl
  rw [hmap]
  exact h.notifyUris.map slash_append_injective

theorem perm (h : Compatible services events) (hservices : services.Perm services')
    (hevents : events.Perm events') : Compatible services' events' where
  supported service hservice := h.supported service (hservices.mem_iff.2 hservice)
  routes := (hservices.map _).nodup_iff.1 h.routes
  notifyUris := (hevents.map _).nodup_iff.1 h.notifyUris
  apart service hservice subscription hsubscription :=
    h.apart service (hservices.mem_iff.2 hservice) subscription (hevents.mem_iff.2 hsubscription)

end Compatible

namespace Provider

variable {provider : Provider H E}

theorem WellWired.compatible (hwired : provider.WellWired) :
    Compatible provider.services provider.events where
  supported := hwired.supported
  routes := by
    have hroutes := hwired.routes_nodup
    rw [hwired.routes_eq] at hroutes
    refine List.Nodup.of_map (Prod.map (fun text : String => "/" ++ text) id) ?_
    rwa [List.map_map]
  notifyUris := by
    have hpaths := hwired.eventPaths_nodup
    rw [hwired.eventPaths_eq] at hpaths
    refine List.Nodup.of_map (fun text : String => "/" ++ text) ?_
    rwa [List.map_map]
  apart service hservice subscription hsubscription heq := by
    have hroute : service.path ∈ provider.routes.map (·.1) := by
      rw [hwired.routes_eq, List.map_map]
      exact List.mem_map_of_mem hservice
    have hpath : subscription.path ∈ provider.eventPaths := by
      rw [hwired.eventPaths_eq]
      exact List.mem_map_of_mem hsubscription
    have hsame : subscription.path = service.path := heq
    exact hwired.apart service.path hroute (hsame ▸ hpath)

/-- There is room for an offer that goes together with what was taken. -/
theorem WellWired.fits_service (hwired : provider.WellWired) {service : ProvidedService H}
    {more : List (ProvidedService H)} {others : List (Subscription E)}
    (h : Compatible (provider.services ++ service :: more) (provider.events ++ others)) :
    provider.Fits (.service service) := by
  have hmem : service ∈ provider.services ++ service :: more := by simp
  refine ⟨h.supported service hmem, ?path, ?route⟩
  case path =>
    intro hpath
    rw [hwired.eventPaths_eq] at hpath
    obtain ⟨subscription, hsubscription, hsame⟩ := List.mem_map.1 hpath
    exact h.apart service hmem subscription (List.mem_append_left _ hsubscription) hsame
  case route =>
    intro hroute
    have hnodup := h.nodup_routes
    rw [List.map_append, List.map_cons] at hnodup
    rw [hwired.routes_eq] at hroute
    exact (List.nodup_append.1 hnodup).2.2 _ hroute _ List.mem_cons_self rfl

theorem WellWired.fits_event (hwired : provider.WellWired) {subscription : Subscription E}
    {more : List (Subscription E)} {others : List (ProvidedService H)}
    (h : Compatible (provider.services ++ others) (provider.events ++ subscription :: more)) :
    provider.Fits (.event subscription) := by
  have hmem : subscription ∈ provider.events ++ subscription :: more := by simp
  refine ⟨?path, ?event⟩
  case path =>
    intro hpath
    rw [hwired.routes_eq, List.map_map] at hpath
    obtain ⟨service, hservice, hsame⟩ := List.mem_map.1 hpath
    exact h.apart service (List.mem_append_left _ hservice) subscription hmem hsame.symm
  case event =>
    intro hpath
    have hnodup := h.nodup_paths
    rw [List.map_append, List.map_cons] at hnodup
    rw [hwired.eventPaths_eq] at hpath
    exact (List.nodup_append.1 hnodup).2.2 _ hpath _ List.mem_cons_self rfl

theorem accepted_ne_of_not_fits {offer : Offer H E} {offers : List (Offer H E)}
    (h : ¬ provider.Fits offer) : provider.accepted (offer :: offers) ≠ offer :: offers := by
  intro hall
  rw [accepted_cons_of_not_fits h] at hall
  have hlength := (accepted_sublist provider offers).length_le
  rw [hall, List.length_cons] at hlength
  omega

/-- A provider takes all of a collection exactly when the collection goes together
with what was taken before. -/
theorem WellWired.accepted_eq_iff (hwired : provider.WellWired) (offers : List (Offer H E)) :
    provider.accepted offers = offers ↔
      Compatible (provider.services ++ Offer.services offers)
        (provider.events ++ Offer.events offers) := by
  induction offers generalizing provider with
  | nil => simpa [accepted] using hwired.compatible
  | cons offer offers ih =>
      by_cases hfits : provider.Fits offer
      · rw [accepted_cons_of_fits hfits, List.cons_inj_right, ih (hwired.taking hfits)]
        cases offer <;> simp [Provider.taking]
      · -- no room now means a clash with something taken before
        refine iff_of_false (accepted_ne_of_not_fits hfits) fun h => hfits ?_
        cases offer with
        | service service => exact hwired.fits_service h
        | event subscription => exact hwired.fits_event h

end Provider

/-- The identifiers made for subscriptions: thirty-two hexadecimal digits. -/
def Subscription.IsIdentifier (identifier : String) : Prop :=
  identifier.length = 32 ∧ ∀ c ∈ identifier.toList, c.isDigit = true ∨ 'a' ≤ c ∧ c ≤ 'f'

/-- A subscription was declared under an identifier made for it. -/
def Subscription.DeclaredUnder (identifier : String) (subscription : Subscription E) : Prop :=
  IsIdentifier identifier ∧ ∃ eventType subscriber callback metadata,
    subscription = declare eventType subscriber callback metadata identifier

/-- Texts that end with an identifier each are equal only if the identifiers are. -/
theorem Subscription.IsIdentifier.eq_of_append_eq {left right leftId rightId : String}
    (hleft : IsIdentifier leftId) (hright : IsIdentifier rightId)
    (hsame : left ++ leftId = right ++ rightId) : leftId = rightId := by
  have hchars := congrArg String.toList hsame
  rw [String.toList_append, String.toList_append] at hchars
  have hlength : leftId.toList.length = rightId.toList.length := by
    rw [String.length_toList, String.length_toList, hleft.1, hright.1]
  exact String.toList_injective (List.append_inj_right' hchars hlength)

theorem Subscription.notifyUri_ne {left right : Subscription E} {leftId rightId : String}
    (hleft : left.DeclaredUnder leftId) (hright : right.DeclaredUnder rightId)
    (hne : leftId ≠ rightId) : left.notifyUri ≠ right.notifyUri := by
  obtain ⟨hleftId, _, _, _, _, rfl⟩ := hleft
  obtain ⟨hrightId, _, _, _, _, rfl⟩ := hright
  intro hsame
  exact hne (hleftId.eq_of_append_eq hrightId hsame)

namespace Provider

/-- What comes of offering services and subscriptions one after the other. -/
structure StaysApart (initial : Provider H E) (offers : List (Offer H E)) : Prop where
  services : (initial.wired offers).services = Offer.services (initial.accepted offers)
  events : (initial.wired offers).events = Offer.events (initial.accepted offers)
  routes : ∀ path method, (path, method) ∈ (initial.wired offers).routes ↔
    ∃ service, .service service ∈ initial.accepted offers ∧ service.path = path ∧
      service.method = method
  eventPaths : ∀ path, path ∈ (initial.wired offers).eventPaths ↔
    ∃ subscription, .event subscription ∈ initial.accepted offers ∧ subscription.path = path
  routes_nodup : ((Offer.services (initial.accepted offers)).map ProvidedService.route).Nodup
  paths_nodup : ((Offer.events (initial.accepted offers)).map Subscription.path).Nodup
  apart : ∀ path method, (path, method) ∈ (initial.wired offers).routes →
    path ∉ (initial.wired offers).eventPaths
  /-- A rejected offer changes nothing. -/
  rejected : ∀ offer failure after,
    (wire offer).run (initial.wired offers) = (.error failure, after) →
    after = initial.wired offers
  /-- A collection is taken as a whole exactly when it goes together. -/
  whole : initial.accepted offers = offers ↔
    Compatible (Offer.services offers) (Offer.events offers)
  anyOrder : ∀ other, offers.Perm other →
    (initial.accepted other = other ↔ initial.accepted offers = offers)
  /-- Generated identifiers keep the notify URIs of subscriptions apart, whatever
  their event types. -/
  notifyUris : ∀ (left right : Subscription E) (leftId rightId : String),
    left.DeclaredUnder leftId → right.DeclaredUnder rightId → leftId ≠ rightId →
    left.notifyUri ≠ right.notifyUri

theorem staysApart (header : Option String) (offers : List (Offer H E)) :
    (trusting header : Provider H E).StaysApart offers := by
  have hinitial : (trusting header : Provider H E).WellWired := .trusting header
  have hwired := hinitial.wired offers
  have hroutes := hwired.routes_eq
  have hpaths := hwired.eventPaths_eq
  rw [services_wired] at hroutes
  rw [events_wired] at hpaths
  have hwhole : ∀ offers, (trusting header : Provider H E).accepted offers = offers ↔
      Compatible (Offer.services offers) (Offer.events offers) := hinitial.accepted_eq_iff
  refine ⟨services_wired header offers, events_wired header offers, ?routes, ?eventPaths,
    hroutes ▸ hwired.routes_nodup, hpaths ▸ hwired.eventPaths_nodup, ?apart, ?rejected,
    hwhole offers, ?anyOrder, ?notifyUris⟩
  case routes =>
    intro path method
    rw [hroutes]
    simp [ProvidedService.route]
  case eventPaths =>
    intro path
    rw [hpaths]
    simp
  case apart =>
    intro path method hroute
    exact hwired.apart path (List.mem_map_of_mem hroute)
  case rejected =>
    intro offer failure after hrun
    by_cases hfits : ((trusting header).wired offers).Fits offer
    · rw [run_wire_of_fits hfits] at hrun
      cases hrun
    · obtain ⟨reason, hrejected⟩ := run_wire_of_not_fits hfits
      rw [hrejected] at hrun
      cases hrun
      rfl
  case anyOrder =>
    intro other hperm
    rw [hwhole, hwhole]
    have hservices : (Offer.services offers).Perm (Offer.services other) := hperm.filterMap _
    have hevents : (Offer.events offers).Perm (Offer.events other) := hperm.filterMap _
    constructor
    · intro h
      exact h.perm hservices.symm hevents.symm
    · intro h
      exact h.perm hservices hevents
  case notifyUris =>
    intro left right leftId rightId hleft hright hne
    exact Subscription.notifyUri_ne hleft hright hne

end Provider

end LocalCloud
