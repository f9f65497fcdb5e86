import LocalCloud.Proofs.Provider.Grouping
import LocalCloud.Proofs.Provider.Mediation
import LocalCloud.Proofs.Text.Segments

/-!
# Every wired endpoint is reached

A request finds exactly the service or subscription that was taken for its path and
method; it is told a wrong method where the path is wired for others, and that
nothing is there where the path is not wired.  The paths are literal here, without
captures, so that no path matches another one.
-/

namespace LocalCloud

open Http (Request Response)

variable {H E : Type}

namespace Segment

theorem ofChars_of_not_mem {chars : List Char} (h : '{' ∉ chars) :
    ofChars chars = literal chars := by
  unfold ofChars
  split
  · exact absurd List.mem_cons_self h
  · exact absurd List.mem_cons_self h
  · rfl

theorem matches_map_literal {parts other : List (List Char)} :
    «matches» (parts.map literal) other = true ↔ parts = other := by
  induction parts generalizing other with
  | nil => cases other <;> simp [«matches»]
  | cons part parts ih => cases other <;> simp [«matches», ih]

/-- A path without braces matches itself and nothing else. -/
theorem matches_ofPath_iff {wired path : String} (h : '{' ∉ wired.toList) :
    «matches» (ofPath wired) (Text.splitOn '/' path.toList) = true ↔ wired = path := by
  have hliteral : ofPath wired = (Text.splitOn '/' wired.toList).map literal := by
    rw [ofPath]
    apply List.map_congr_left
    intro part hpart
    exact ofChars_of_not_mem fun hmem => h (Text.mem_of_mem_splitOn hpart hmem)
  rw [hliteral, matches_map_literal]
  constructor
  · intro hparts
    exact String.toList_injective (Text.splitOn_injective '/' hparts)
  · rintro rfl
    rfl

end Segment

/-- Whether a URI holds anything that a router may take for a capture. -/
def HasCapture (uri : String) : Prop :=
  '{' ∈ uri.toList ∨ '}' ∈ uri.toList ∨
    ∃ part ∈ Text.splitOn '/' uri.toList, part.head? = some ':' ∨ part.head? = some '*'

instance : DecidablePred HasCapture := fun _ => inferInstanceAs (Decidable (_ ∨ _ ∨ _))

namespace Offer

/-- The text that the path is made from. -/
def uri : Offer H E → String
  | service provided => provided.service.uri
  | event subscription => subscription.notifyUri

theorem not_mem_path {offer : Offer H E} (h : ¬ HasCapture offer.uri) :
    '{' ∉ offer.path.toList := by
  intro hmem
  apply h
  left
  cases offer with
  | service provided =>
      have hpath : '{' ∈ ("/" ++ Text.dropLeading '/' provided.service.uri).toList := hmem
      rw [String.toList_append, Text.dropLeading] at hpath
      rcases List.mem_append.1 hpath with hslash | huri
      · simp at hslash
      · rw [String.toList_ofList] at huri
        exact (List.dropWhile_sublist _).subset huri
  | event subscription =>
      have hpath : '{' ∈ ("/" ++ subscription.notifyUri).toList := hmem
      rw [String.toList_append] at hpath
      rcases List.mem_append.1 hpath with hslash | huri
      · simp at hslash
      · exact huri

theorem route_injective : Function.Injective (route : Offer H E → Route H E) := by
  intro left right h
  cases left <;> cases right <;> cases h <;> rfl

end Offer

namespace Router

variable {router : Router H E}

theorem foldl_prefer_of_forall_eq {candidates : List String} {path : String}
    (h : ∀ wired ∈ candidates, wired = path) :
    candidates.foldl prefer (some path) = some path := by
  induction candidates with
  | nil => rfl
  | cons wired candidates ih =>
      obtain ⟨rfl, hrest⟩ := List.forall_mem_cons.1 h
      rw [List.foldl_cons, prefer, ite_self]
      exact ih hrest

/-- Among literal paths the one requested is found, if it is there. -/
theorem match?_eq (hplain : ∀ wired ∈ router.keys, '{' ∉ wired.toList) (path : String) :
    router.match? path = if path ∈ router.keys then some path else none := by
  have hcandidates : ∀ wired, wired ∈ router.keys.filter (fun wired =>
      Segment.matches (Segment.ofPath wired) (Text.splitOn '/' path.toList)) ↔
      wired ∈ router.keys ∧ wired = path := by
    intro wired
    rw [List.mem_filter]
    exact and_congr_right fun hwired => Segment.matches_ofPath_iff (hplain wired hwired)
  rw [match?]
  generalize router.keys.filter (fun wired =>
    Segment.matches (Segment.ofPath wired) (Text.splitOn '/' path.toList)) = candidates
    at hcandidates ⊢
  cases candidates with
  | nil =>
      have hmissing : path ∉ router.keys := fun hmem =>
        absurd ((hcandidates path).2 ⟨hmem, rfl⟩) List.not_mem_nil
      rw [if_neg hmissing]
      rfl
  | cons wired candidates =>
      obtain ⟨hmem, rfl⟩ := (hcandidates wired).1 List.mem_cons_self
      rw [if_pos hmem, List.foldl_cons]
      exact foldl_prefer_of_forall_eq fun other hother =>
        ((hcandidates other).1 (List.mem_cons_of_mem _ hother)).2

theorem route_eq (hplain : ∀ wired ∈ router.keys, '{' ∉ wired.toList) (path method : String) :
    router.route path method =
      match router.get? path with
      | none => .unknown
      | some endpoints => endpoints.answer method := by
  have hfound : (router.match? path).bind router.get? = router.get? path := by
    rw [match?_eq hplain]
    split
    next h => rfl
    next h =>
      rw [Dict.mem_keys_iff, Option.isSome_iff_ne_none, not_not] at h
      rw [h]
      rfl
  cases hget : router.get? path with
  | none => rw [route, hfound, hget]
  | some endpoints => rw [route, hfound, hget]

/-- What a request finds among the offers. -/
inductive Finds (offers : List (Offer H E)) (path method : String) : Route H E → Prop where
  | offer {offer : Offer H E} (hanswers : Offer.Answers offers path method offer) :
      Finds offers path method offer.route
  | wrongMethod {allowed : List String} (hwired : ∃ offer ∈ offers, offer.path = path)
      (hnone : ∀ offer, ¬ Offer.Answers offers path method offer) :
      Finds offers path method (.wrongMethod allowed)
  | unknown (hunwired : ∀ offer ∈ offers, offer.path ≠ path) :
      Finds offers path method .unknown

namespace Finds

variable {offers : List (Offer H E)} {path method : String} {found : Route H E}

theorem exists_wrongMethod_iff (h : Finds offers path method found) :
    (∃ allowed, found = .wrongMethod allowed) ↔
      (∃ offer ∈ offers, offer.path = path) ∧
        ∀ offer ∈ offers, offer.path = path →
          offer.method ≠ method ∧ ¬ (method = "HEAD" ∧ offer.method = "GET") := by
  have hunanswered : (∀ offer ∈ offers, offer.path = path →
      offer.method ≠ method ∧ ¬ (method = "HEAD" ∧ offer.method = "GET")) ↔
      ∀ offer, ¬ Offer.Answers offers path method offer := by
    rw [← not_exists, Offer.exists_answers_iff]
    simp only [not_exists, not_and, not_or]
  rw [hunanswered]
  cases h with
  | @offer offer hanswers =>
      refine iff_of_false ?_ fun hnone => hnone.2 offer hanswers
      rintro ⟨allowed, hsame⟩
      cases offer <;> exact nomatch hsame
  | wrongMethod hwired hnone => exact iff_of_true ⟨_, rfl⟩ ⟨hwired, hnone⟩
  | unknown hunwired =>
      refine iff_of_false nofun ?_
      rintro ⟨⟨offer, hoffer, hpath⟩, -⟩
      exact hunwired offer hoffer hpath

theorem eq_unknown_iff (h : Finds offers path method found) :
    found = .unknown ↔ ∀ offer ∈ offers, offer.path ≠ path := by
  cases h with
  | @offer offer hanswers =>
      refine iff_of_false ?_ fun hunwired => hunwired offer hanswers.mem hanswers.path_eq
      cases offer <;> exact nofun
  | wrongMethod hwired _ =>
      obtain ⟨offer, hoffer, hpath⟩ := hwired
      exact iff_of_false nofun fun hunwired => hunwired offer hoffer hpath
  | unknown hunwired => exact iff_of_true rfl hunwired

end Finds

namespace Groups

variable {offers : List (Offer H E)}

/-- A router over literal paths finds what it holds. -/
theorem finds (h : router.Groups offers) (hplain : ∀ offer ∈ offers, '{' ∉ offer.path.toList)
    (path method : String) : Finds offers path method (router.route path method) := by
  have hkeys : ∀ wired ∈ router.keys, '{' ∉ wired.toList := by
    intro wired hwired
    obtain ⟨offer, hoffer, rfl⟩ := (h.wired wired).1 (Dict.mem_keys_iff.1 hwired)
    exact hplain offer hoffer
  rw [route_eq hkeys]
  cases hget : router.get? path with
  | none =>
      refine .unknown fun offer hoffer hpath => ?_
      have hwired := (h.wired path).2 ⟨offer, hoffer, hpath⟩
      rw [hget] at hwired
      cases hwired
  | some endpoints =>
      have hanswers := h.endpoint?_eq_some_iff hget method
      dsimp only
      rw [MethodRouter.answer]
      cases hfound : endpoints.endpoint? method with
      | some offer => exact .offer ((hanswers offer).1 hfound)
      | none =>
          refine .wrongMethod ((h.wired path).1 (by rw [hget]; rfl)) fun offer hoffer => ?_
          rw [(hanswers offer).2 hoffer] at hfound
          cases hfound

/-- An offer is routed to exactly where it answers. -/
theorem route_eq_iff (h : router.Groups offers)
    (hplain : ∀ offer ∈ offers, '{' ∉ offer.path.toList) (path method : String)
    (offer : Offer H E) :
    router.route path method = offer.route ↔ Offer.Answers offers path method offer := by
  have hfinds := h.finds hplain path method
  generalize router.route path method = found at hfinds
  cases hfinds with
  | @offer other hother =>
      rw [Offer.route_injective.eq_iff]
      constructor
      · rintro rfl
        exact hother
      · intro hanswers
        exact h.answers_unique hother hanswers
  | wrongMethod _ hnone => exact iff_of_false (by cases offer <;> exact nofun) (hnone offer)
  | unknown hunwired =>
      exact iff_of_false (by cases offer <;> exact nofun)
        fun hanswers => hunwired offer hanswers.mem hanswers.path_eq

end Groups

end Router

namespace Provider

variable {provider : Provider H E}

/-- Where a provider that took given offers routes a method of a path. -/
structure RoutesAsWired (provider : Provider H E) (accepted : List (Offer H E))
    (path method : String) : Prop where
  service : ∀ service, provider.route path method = .service service ↔
    .service service ∈ accepted ∧ service.path = path ∧
      (service.method = method ∨ method = "HEAD" ∧ service.method = "GET" ∧
        ∀ other, .service other ∈ accepted → other.path = path → other.method ≠ "HEAD")
  event : ∀ subscription, provider.route path method = .event subscription ↔
    .event subscription ∈ accepted ∧ subscription.path = path ∧ method = "POST"
  wrongMethod : (∃ allowed, provider.route path method = .wrongMethod allowed) ↔
    (∃ offer ∈ accepted, offer.path = path) ∧
      ∀ offer ∈ accepted, offer.path = path →
        offer.method ≠ method ∧ ¬ (method = "HEAD" ∧ offer.method = "GET")
  unknown : provider.route path method = .unknown ↔ ∀ offer ∈ accepted, offer.path ≠ path

theorem routes_wired (header : Option String) {offers : List (Offer H E)}
    (hplain : ∀ offer ∈ offers, ¬ HasCapture offer.uri) :
    ∃ router, ((trusting header).wired offers).router? = some router ∧
      router.Groups ((trusting header).accepted offers) ∧
      ∀ offer ∈ (trusting header : Provider H E).accepted offers, '{' ∉ offer.path.toList := by
  have hwired := (WellWired.trusting header).wired offers
  obtain ⟨router, hrouter, hgroups⟩ := hwired.exists_groups
  refine ⟨router, hrouter, hgroups.congr (mem_offers_wired header offers), ?_⟩
  intro offer hoffer
  exact Offer.not_mem_path (hplain offer ((accepted_sublist _ offers).subset hoffer))

theorem routesAsWired_of_groups {router : Router H E} {accepted : List (Offer H E)}
    (hrouter : provider.router? = some router) (hgroups : router.Groups accepted)
    (hplain : ∀ offer ∈ accepted, '{' ∉ offer.path.toList) (path method : String) :
    provider.RoutesAsWired accepted path method := by
  have hroute : provider.route path method = router.route path method := by
    rw [Provider.route, hrouter]
  have hanswers := hgroups.route_eq_iff hplain path method
  have hfinds := hgroups.finds hplain path method
  rw [← hroute] at hanswers hfinds
  refine ⟨?service, ?event, hfinds.exists_wrongMethod_iff, hfinds.eq_unknown_iff⟩
  case service =>
    intro service
    exact (hanswers (.service service)).trans Offer.answers_service_iff
  case event =>
    intro subscription
    exact (hanswers (.event subscription)).trans Offer.answers_event_iff

section Handle

variable {moment : Moment} {request : Request}

theorem handle_of_event {m : Type → Type} [Monad m] [LawfulMonad m]
    {subscription : Subscription E}
    (hroute : provider.route request.target.path request.method = .event subscription)
    (run : H → ServiceRequest → m (Except Error ServiceResponse))
    (runCallback : E → Event → m (Except Error Unit)) :
    provider.handle run runCallback moment request =
      (fun response => response.toMethod request.method) <$>
        subscription.deliver runCallback request.body := by
  simp only [handle, hroute, map_eq_pure_bind]

theorem refuses_of_wrongMethod {allowed : List String}
    (hroute : provider.route request.target.path request.method = .wrongMethod allowed) :
    provider.Refuses moment request
      (({ status := 405, allow := allowed } : Response).toMethod request.method) := by
  intro m _ _ run runCallback
  simp only [handle, hroute, pure_bind]

theorem refuses_of_unknown
    (hroute : provider.route request.target.path request.method = .unknown) :
    provider.Refuses moment request ((Response.ofStatus 404).toMethod request.method) := by
  intro m _ _ run runCallback
  simp only [handle, hroute, pure_bind]

end Handle

/-- How a provider that took given offers answers a request. -/
structure AnswersAsWired (provider : Provider H E) (accepted : List (Offer H E))
    (moment : Moment) (request : Request) : Prop extends
    provider.RoutesAsWired accepted request.target.path request.method where
  served : ∀ service,
    provider.route request.target.path request.method = .service service →
    ∀ {m : Type → Type} [Monad m] [LawfulMonad m]
      (run : H → ServiceRequest → m (Except Error ServiceResponse))
      (runCallback : E → Event → m (Except Error Unit)),
      provider.handle run runCallback moment request =
        (fun response => response.toMethod request.method) <$>
          service.serve run provider.proxyHeader moment request
  delivered : ∀ subscription,
    provider.route request.target.path request.method = .event subscription →
    ∀ {m : Type → Type} [Monad m] [LawfulMonad m]
      (run : H → ServiceRequest → m (Except Error ServiceResponse))
      (runCallback : E → Event → m (Except Error Unit)),
      provider.handle run runCallback moment request =
        (fun response => response.toMethod request.method) <$>
          subscription.deliver runCallback request.body
  wrongMethodStatus : ∀ allowed,
    provider.route request.target.path request.method = .wrongMethod allowed →
    ∃ refusal, refusal.status = 405 ∧ provider.Refuses moment request refusal
  unknownStatus : provider.route request.target.path request.method = .unknown →
    ∃ refusal, refusal.status = 404 ∧ provider.Refuses moment request refusal
  /-- No offer that was accepted is skipped, overwritten or shadowed. -/
  reached : ∀ offer ∈ accepted, provider.route offer.path offer.method = offer.route

theorem answersAsWired_of_plain (header : Option String) (offers : List (Offer H E))
    (hplain : ∀ offer ∈ offers, ¬ HasCapture offer.uri) (moment : Moment) (request : Request) :
    ((trusting header).wired offers).AnswersAsWired ((trusting header).accepted offers) moment
      request := by
  obtain ⟨router, hrouter, hgroups, hliteral⟩ := routes_wired header hplain
  refine ⟨routesAsWired_of_groups hrouter hgroups hliteral _ _, ?served, ?delivered,
    ?wrongMethodStatus, ?unknownStatus, ?reached⟩
  case served =>
    intro service hroute m _ _ run runCallback
    simp only [handle, hroute, map_eq_pure_bind]
  case delivered =>
    intro subscription hroute m _ _ run runCallback
    exact handle_of_event hroute run runCallback
  case wrongMethodStatus =>
    intro allowed hroute
    exact ⟨_, status_toMethod _ _, refuses_of_wrongMethod hroute⟩
  case unknownStatus =>
    intro hroute
    exact ⟨_, status_toMethod _ _, refuses_of_unknown hroute⟩
  case reached =>
    intro offer hoffer
    rw [Provider.route, hrouter]
    exact (hgroups.route_eq_iff hliteral _ _ offer).2 ⟨hoffer, rfl, .inl rfl⟩

/-- Two methods on one path, a subscription, and a service that comes too late. -/
theorem answersAsWired_of_plain_shared :
    let data (method : String) : ProvidedService Unit := {
      service := ⟨"data", "data", ⟨"HTTP", "SECURE", "JSON"⟩, .unrestricted, ∅, none⟩
      provider := ⟨"provider", "127.0.0.1", 7000, none⟩
      method := method
      handler := ()
      policy := .unrestricted }
    let subscription : Subscription Unit :=
      .declare "Temperature" ⟨"provider", "127.0.0.1", 7000, none⟩ () none
        "00112233445566778899aabbccddeeff"
    let offers := [.service (data "GET"), .service (data "POST"), .event subscription,
      .service (data "GET")]
    let request : Request := {
      method := "HEAD"
      target := ⟨"/data", none⟩
      headers := []
      peer := .unasked }
    (∀ offer ∈ offers, ¬ HasCapture offer.uri) ∧
      ((trusting none).accepted offers).length = 3 ∧
      ((trusting none).wired offers).AnswersAsWired ((trusting none).accepted offers) ⟨none, 0⟩
        request := by
  intro data subscription offers request
  have hplain : ∀ offer ∈ offers, ¬ HasCapture offer.uri := by decide +kernel
  exact ⟨hplain, by decide +kernel, answersAsWired_of_plain none offers hplain ⟨none, 0⟩ request⟩

end Provider

end LocalCloud
