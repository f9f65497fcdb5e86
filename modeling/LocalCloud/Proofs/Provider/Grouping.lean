import LocalCloud.Proofs.Provider.Wiring
import LocalCloud.Provider.Router

/-!
# Offers grouped by path

The router regroups the services of a provider by path, one endpoint for each
method, and gives a path of its own to every subscription.  No offer is lost on
the way, because what was wired shares no route and no path: the router holds
every offer under its path and method, and holds nothing else.
-/

namespace LocalCloud

variable {H E : Type}

namespace Offer

/-- The path an offer is served at. -/
def path : Offer H E → String
  | service provided => provided.path
  | event subscription => subscription.path

/-- The method an offer is served with. -/
def method : Offer H E → String
  | service provided => provided.method
  | event _ => "POST"

/-- The offer that a method finds at a path: its own, or for `HEAD` that of `GET`. -/
structure Answers (offers : List (Offer H E)) (path method : String) (offer : Offer H E) :
    Prop where
  mem : offer ∈ offers
  path_eq : offer.path = path
  method_eq : offer.method = method ∨ method = "HEAD" ∧ offer.method = "GET" ∧
    ∀ other ∈ offers, other.path = path → other.method ≠ "HEAD"

section Answers

variable {offers : List (Offer H E)} {path method : String}

theorem answers_service_iff {service : ProvidedService H} :
    Answers offers path method (.service service) ↔
      .service service ∈ offers ∧ service.path = path ∧
        (service.method = method ∨ method = "HEAD" ∧ service.method = "GET" ∧
          ∀ other, .service other ∈ offers → other.path = path → other.method ≠ "HEAD") := by
  have hhead : (∀ other ∈ offers, other.path = path → other.method ≠ "HEAD") ↔
      ∀ other, .service other ∈ offers → other.path = path → other.method ≠ "HEAD" := by
    constructor
    · intro h other
      exact h (.service other)
    · intro h other hother
      cases other with
      | service other => exact h other hother
      | event subscription => exact fun _ => show "POST" ≠ "HEAD" by decide
  rw [← hhead]
  constructor
  · rintro ⟨hmem, hpath, hmethod⟩
    exact ⟨hmem, hpath, hmethod⟩
  · rintro ⟨hmem, hpath, hmethod⟩
    exact ⟨hmem, hpath, hmethod⟩

theorem answers_event_iff {subscription : Subscription E} :
    Answers offers path method (.event subscription) ↔
      .event subscription ∈ offers ∧ subscription.path = path ∧ method = "POST" := by
  constructor
  · rintro ⟨hmem, hpath, hmethod | ⟨-, hget, -⟩⟩
    · exact ⟨hmem, hpath, hmethod.symm⟩
    · exact absurd hget (show "POST" ≠ "GET" by decide)
  · rintro ⟨hmem, hpath, rfl⟩
    exact ⟨hmem, hpath, .inl rfl⟩

/-- Where `GET` is answered, `HEAD` is answered one way or the other. -/
theorem exists_answers_iff :
    (∃ offer, Answers offers path method offer) ↔
      ∃ offer ∈ offers, offer.path = path ∧
        (offer.method = method ∨ method = "HEAD" ∧ offer.method = "GET") := by
  constructor
  · rintro ⟨offer, hmem, hpath, hmethod⟩
    exact ⟨offer, hmem, hpath, hmethod.imp_right fun h => ⟨h.1, h.2.1⟩⟩
  · rintro ⟨offer, hmem, hpath, hmethod | ⟨rfl, hget⟩⟩
    · exact ⟨offer, hmem, hpath, .inl hmethod⟩
    · by_cases hown : ∃ other ∈ offers, other.path = path ∧ other.method = "HEAD"
      · obtain ⟨other, hother, hat, hhead⟩ := hown
        exact ⟨other, hother, hat, .inl hhead⟩
      · refine ⟨offer, hmem, hpath, .inr ⟨rfl, hget, fun other hother hat hhead => ?_⟩⟩
        exact hown ⟨other, hother, hat, hhead⟩

end Answers

end Offer

namespace Router

variable {router : Router H E}

/-- A router holds given offers, each under its path and method, and nothing else. -/
structure Groups (router : Router H E) (offers : List (Offer H E)) : Prop where
  wired : ∀ path, (router.get? path).isSome = true ↔ ∃ offer ∈ offers, offer.path = path
  endpoint : ∀ path method offer,
    ((router.get? path).getD {}).endpoints.get? method = some offer ↔
      offer ∈ offers ∧ offer.path = path ∧ offer.method = method

namespace Groups

variable {offers : List (Offer H E)}

theorem empty : Groups (∅ : Router H E) [] where
  wired path := by simp
  endpoint path method offer := by
    rw [Dict.get?_empty, Option.getD_none]
    simp

/-- Only which offers there are counts. -/
theorem congr (h : router.Groups offers) {others : List (Offer H E)}
    (hsame : ∀ offer, offer ∈ offers ↔ offer ∈ others) : router.Groups others where
  wired path := by simp only [h.wired, hsame]
  endpoint path method offer := by rw [h.endpoint, hsame]

/-- One more offer is added by giving its path the endpoints it has and the new one. -/
theorem extend (h : router.Groups offers) {extended : Router H E} {offer : Offer H E}
    (endpoints : MethodRouter H E)
    (hget : ∀ path, extended.get? path =
      if path = offer.path then some endpoints else router.get? path)
    (hendpoints : ∀ method other, endpoints.endpoints.get? method = some other ↔
      (other ∈ offers ∧ other.path = offer.path ∧ other.method = method) ∨
        other = offer ∧ offer.method = method) :
    extended.Groups (offers ++ [offer]) where
  wired path := by
    simp only [List.mem_append, List.mem_singleton, or_and_right, exists_or, exists_eq_left]
    rw [hget, ← h.wired]
    by_cases hpath : path = offer.path
    · simp [hpath]
    · simp [hpath, Ne.symm hpath]
  endpoint path method other := by
    simp only [List.mem_append, List.mem_singleton, or_and_right]
    rw [hget]
    by_cases hpath : path = offer.path
    · subst hpath
      rw [if_pos rfl, Option.getD_some, hendpoints]
      refine or_congr_right (and_congr_right ?_)
      rintro rfl
      simp
    · rw [if_neg hpath, h.endpoint, iff_self_or]
      rintro ⟨rfl, hsame, -⟩
      exact absurd hsame.symm hpath

/-- A service with a route of its own is added to its path. -/
theorem addService? (h : router.Groups offers) {service : ProvidedService H}
    (hmethod : service.method ∈ Provider.methods)
    (hfree : ∀ other ∈ offers, other.path = service.path → other.method ≠ service.method) :
    ∃ extended, router.addService? service = some extended ∧
      extended.Groups (offers ++ [.service service]) := by
  have hexisting := h.endpoint service.path
  rw [Router.addService?, if_neg (not_not_intro hmethod)]
  dsimp only
  generalize (router.get? service.path).getD {} = group at hexisting ⊢
  have hnone : group.endpoints.get? service.method = none := by
    rw [Option.eq_none_iff_forall_ne_some]
    intro other hother
    obtain ⟨hmem, hpath, hsame⟩ := (hexisting service.method other).1 hother
    exact hfree other hmem hpath hsame
  have hcontains : ¬ group.endpoints.contains service.method = true := by
    rw [Dict.contains, hnone]
    exact Bool.false_ne_true
  rw [MethodRouter.on?, if_neg hcontains, Option.map_some]
  refine ⟨_, rfl, h.extend
    ⟨group.endpoints.insert service.method (.service service),
      MethodRouter.allowing group.allowed service.method⟩ ?get ?endpoints⟩
  case get =>
    intro path
    rw [Dict.get?_insert, Dict.get?_erase]
    split
    next hpath => exact (if_pos hpath).symm
    next hpath => exact (if_neg hpath).symm
  case endpoints =>
    intro method other
    rw [Dict.get?_insert]
    split
    next hmethod =>
      subst hmethod
      constructor
      · intro hother
        exact .inr ⟨(Option.some.inj hother).symm, rfl⟩
      · rintro (⟨hmem, hpath, hsame⟩ | ⟨rfl, -⟩)
        · exact absurd hsame (hfree other hmem hpath)
        · rfl
    next hmethod =>
      refine (hexisting method other).trans (iff_self_or.2 ?_)
      rintro ⟨-, hsame⟩
      exact absurd hsame.symm hmethod

/-- A subscription is given a path that nothing else has. -/
theorem addEvent (h : router.Groups offers) {subscription : Subscription E}
    (hfree : ∀ other ∈ offers, other.path ≠ subscription.path) :
    (router.addEvent subscription).Groups (offers ++ [.event subscription]) := by
  refine h.extend (.ofEvent subscription) (Dict.get?_insert router _ · _) ?endpoints
  intro method other
  have hold : ¬ (other ∈ offers ∧ other.path = subscription.path ∧ other.method = method) :=
    fun hother => hfree other hother.1 hother.2.1
  rw [MethodRouter.ofEvent, Dict.get?_insert, Dict.get?_empty]
  constructor
  · intro hother
    split at hother
    next hmethod => exact .inr ⟨(Option.some.inj hother).symm, hmethod.symm⟩
    next => exact nomatch hother
  · rintro (hother | ⟨rfl, hmethod⟩)
    · exact absurd hother hold
    · exact if_pos hmethod.symm

/-- Services with routes of their own are added one after the other. -/
theorem foldlM_addService? (h : router.Groups offers) {services : List (ProvidedService H)}
    (hsupported : ∀ service ∈ services, service.method ∈ Provider.methods)
    (hdistinct : (services.map ProvidedService.route).Nodup)
    (hfree : ∀ service ∈ services, ∀ other ∈ offers, other.path = service.path →
      other.method ≠ service.method) :
    ∃ extended, services.foldlM Router.addService? router = some extended ∧
      extended.Groups (offers ++ services.map .service) := by
  induction services generalizing router offers with
  | nil => exact ⟨router, rfl, by simpa using h⟩
  | cons service services ih =>
      obtain ⟨hmethod, hmethods⟩ := List.forall_mem_cons.1 hsupported
      obtain ⟨hunlike, hrest⟩ := List.nodup_cons.1 hdistinct
      obtain ⟨hnew, hfree⟩ := List.forall_mem_cons.1 hfree
      obtain ⟨added, hadded, hgroups⟩ := h.addService? hmethod hnew
      have hstill : ∀ next ∈ services, ∀ other ∈ offers ++ [.service service],
          other.path = next.path → other.method ≠ next.method := by
        intro next hnext other hother hpath hsame
        rcases List.mem_append.1 hother with hold | hservice
        · exact hfree next hnext other hold hpath hsame
        · obtain rfl := List.mem_singleton.1 hservice
          have hroute : service.route = next.route := Prod.ext hpath hsame
          exact hunlike (hroute ▸ List.mem_map_of_mem hnext)
      obtain ⟨extended, hextended, hall⟩ := ih hgroups hmethods hrest hstill
      refine ⟨extended, ?_, by simpa using hall⟩
      rw [List.foldlM_cons, hadded]
      exact hextended

/-- Subscriptions with paths of their own are added one after the other. -/
theorem foldl_addEvent (h : router.Groups offers) {events : List (Subscription E)}
    (hdistinct : (events.map Subscription.path).Nodup)
    (hfree : ∀ subscription ∈ events, ∀ other ∈ offers, other.path ≠ subscription.path) :
    (events.foldl Router.addEvent router).Groups (offers ++ events.map .event) := by
  induction events generalizing router offers with
  | nil => simpa using h
  | cons subscription events ih =>
      obtain ⟨hunlike, hrest⟩ := List.nodup_cons.1 hdistinct
      obtain ⟨hnew, hfree⟩ := List.forall_mem_cons.1 hfree
      have hstill : ∀ next ∈ events, ∀ other ∈ offers ++ [.event subscription],
          other.path ≠ next.path := by
        intro next hnext other hother hpath
        rcases List.mem_append.1 hother with hold | hevent
        · exact hfree next hnext other hold hpath
        · obtain rfl := List.mem_singleton.1 hevent
          have hsame : subscription.path = next.path := hpath
          exact hunlike (hsame ▸ List.mem_map_of_mem hnext)
      have hall := ih (h.addEvent hnew) hrest hstill
      simpa using hall

theorem endpoint?_eq_some_iff (h : router.Groups offers) {path : String}
    {endpoints : MethodRouter H E} (hget : router.get? path = some endpoints) (method : String)
    (offer : Offer H E) :
    endpoints.endpoint? method = some offer ↔ Offer.Answers offers path method offer := by
  have hendpoint := h.endpoint path
  rw [hget, Option.getD_some] at hendpoint
  rw [MethodRouter.endpoint?]
  cases hown : endpoints.endpoints.get? method with
  | some found =>
      obtain ⟨hmem, hpath, hmethod⟩ := (hendpoint method found).1 hown
      constructor
      · intro hsame
        obtain rfl := Option.some.inj hsame
        exact ⟨hmem, hpath, .inl hmethod⟩
      · rintro ⟨hother, hat, hsame | ⟨rfl, -, hhead⟩⟩
        · exact hown.symm.trans ((hendpoint method offer).2 ⟨hother, hat, hsame⟩)
        · exact absurd hmethod (hhead found hmem hpath)
  | none =>
      have hmissing : ∀ other ∈ offers, other.path = path → other.method ≠ method := by
        intro other hmem hpath hmethod
        rw [(hendpoint method other).2 ⟨hmem, hpath, hmethod⟩] at hown
        exact nomatch hown
      dsimp only
      split
      next hhead =>
        subst hhead
        rw [hendpoint]
        constructor
        · rintro ⟨hmem, hpath, hget⟩
          exact ⟨hmem, hpath, .inr ⟨rfl, hget, hmissing⟩⟩
        · rintro ⟨hmem, hpath, hsame | ⟨-, hget, -⟩⟩
          · exact absurd hsame (hmissing offer hmem hpath)
          · exact ⟨hmem, hpath, hget⟩
      next hother =>
        refine iff_of_false nofun ?_
        rintro ⟨hmem, hpath, hsame | ⟨hhead, -⟩⟩
        · exact hmissing offer hmem hpath hsame
        · exact hother hhead

/-- The endpoint at a path is looked up as the path and then the method. -/
theorem bind_endpoint?_eq_some_iff (h : router.Groups offers) (path method : String)
    (offer : Offer H E) :
    (router.get? path).bind (·.endpoint? method) = some offer ↔
      Offer.Answers offers path method offer := by
  cases hget : router.get? path with
  | some endpoints => exact h.endpoint?_eq_some_iff hget method offer
  | none =>
      refine iff_of_false nofun fun hanswers => ?_
      have hwired := (h.wired path).2 ⟨offer, hanswers.mem, hanswers.path_eq⟩
      rw [hget] at hwired
      cases hwired

/-- No two offers answer the same method of a path. -/
theorem answers_unique (h : router.Groups offers) {path method : String} {left right : Offer H E}
    (hleft : Offer.Answers offers path method left)
    (hright : Offer.Answers offers path method right) : left = right := by
  rw [← h.bind_endpoint?_eq_some_iff] at hleft hright
  exact Option.some.inj (hleft.symm.trans hright)

end Groups

end Router

namespace Provider

variable {provider : Provider H E}

/-- Everything that a provider serves. -/
def offers (provider : Provider H E) : List (Offer H E) :=
  provider.services.map .service ++ provider.events.map .event

theorem mem_offers_wired (header : Option String) (offers : List (Offer H E))
    (offer : Offer H E) :
    offer ∈ ((trusting header).wired offers).offers ↔
      offer ∈ (trusting header : Provider H E).accepted offers := by
  rw [Provider.offers, services_wired, events_wired]
  cases offer <;> simp

/-- No service is lost while the router is made, since none shares a route. -/
theorem WellWired.exists_groups (hwired : provider.WellWired) :
    ∃ router, provider.router? = some router ∧ router.Groups provider.offers := by
  have hroutes := hwired.routes_nodup
  have hpaths := hwired.eventPaths_nodup
  rw [hwired.routes_eq] at hroutes
  rw [hwired.eventPaths_eq] at hpaths
  obtain ⟨router, hservices, hgroups⟩ :=
    Router.Groups.empty.foldlM_addService? (E := E) hwired.supported hroutes (by simp)
  have hapart : ∀ subscription ∈ provider.events,
      ∀ other ∈ [] ++ provider.services.map (Offer.service (E := E)),
        other.path ≠ subscription.path := by
    intro subscription hsubscription other hother hsame
    obtain ⟨service, hservice, rfl⟩ := List.mem_map.1 hother
    refine hwired.apart service.path ?_ ?_
    · rw [hwired.routes_eq, List.map_map]
      exact List.mem_map_of_mem hservice
    · have hpath : service.path = subscription.path := hsame
      rw [hwired.eventPaths_eq, hpath]
      exact List.mem_map_of_mem hsubscription
  refine ⟨provider.events.foldl Router.addEvent router, ?_, ?_⟩
  · rw [router?, hservices]
    rfl
  · exact hgroups.foldl_addEvent hpaths hapart

end Provider

end LocalCloud
