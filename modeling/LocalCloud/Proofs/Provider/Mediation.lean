import LocalCloud.Proofs.Access.Evidence
import Mathlib.Data.List.Permutation
import Mathlib.Tactic.Common

/-!
# Complete mediation

No handler of a provided service runs unless the policy of the service admits
the caller and the body is small enough, and then it runs once.  The handlers
that run are observed by recording every call while the provider answers, so the
statements hold whatever a handler does.
-/

namespace LocalCloud

open Http (Request Response)

variable {H E : Type} {m : Type → Type} [Monad m]

/-- A call of a handler. -/
abbrev HandlerCall (H : Type) := H × ServiceRequest

/-- Runs a handler and records the call. -/
def recorded (run : H → ServiceRequest → m (Except Error ServiceResponse)) (handler : H)
    (request : ServiceRequest) :
    StateT (List (HandlerCall H)) m (Except Error ServiceResponse) := do
  modify (· ++ [(handler, request)])
  StateT.lift (run handler request)

/-- Runs a callback without a record. -/
def unrecorded (run : E → Event → m (Except Error Unit)) (callback : E) (event : Event) :
    StateT (List (HandlerCall H)) m (Except Error Unit) :=
  StateT.lift (run callback event)

/-- A handler that does nothing but fail. -/
def idleHandler (_ : H) (_ : ServiceRequest) : Id (Except Error ServiceResponse) :=
  .error Error.unreadableJson

/-- A callback that does nothing. -/
def idleCallback (_ : E) (_ : Event) : Id (Except Error Unit) :=
  .ok ()

namespace Provider

/-- The calls of handlers that a provider makes while it answers a request. -/
def handlerCalls (provider : Provider H E) (moment : Moment) (request : Request) :
    List (HandlerCall H) :=
  ((provider.handle (recorded idleHandler) (unrecorded idleCallback) moment request).run []).run.2

end Provider

/-- The caller of a service with tokens cannot be told: the listener asks for no
certificate and no proxy is trusted to forward one. -/
def LacksCertificateSource (proxyHeader : Option String) (request : Request)
    (policy : AccessPolicy) : Prop :=
  policy.kind = .token ∧ request.peer = .unasked ∧ proxyHeader = none

/-- The callers a policy admits. -/
def Admits (proxyHeader : Option String) (moment : Moment) (request : Request) :
    AccessPolicy → Prop
  | .unrestricted => True
  | .certificate => ∃ pem, CallerCertificate proxyHeader request pem ∧ Text.HasContent pem
  | .token policy =>
      (request.peer ≠ .unasked ∨ proxyHeader ≠ none) ∧
        ∃ access, Presents proxyHeader request access ∧
          policy.isAuthorized moment access = .ok true

theorem seesCertificates_eq_false_iff {proxyHeader : Option String} {peer : Http.Peer} :
    seesCertificates proxyHeader peer = false ↔ peer = .unasked ∧ proxyHeader = none := by
  cases peer <;> simp [seesCertificates, Http.Peer.isAsked]

theorem Admits.not_lacks {proxyHeader : Option String} {moment : Moment} {request : Request}
    {policy : AccessPolicy} (h : Admits proxyHeader moment request policy) :
    ¬ LacksCertificateSource proxyHeader request policy := by
  rintro ⟨hkind, hpeer, hheader⟩
  cases policy with
  | unrestricted => simp [AccessPolicy.kind] at hkind
  | certificate => simp [AccessPolicy.kind] at hkind
  | token policy =>
      obtain ⟨hsource, -⟩ := h
      rcases hsource with hsource | hsource
      · exact hsource hpeer
      · exact hsource hheader

theorem LacksCertificateSource.not_admits {proxyHeader : Option String} {moment : Moment}
    {request : Request} {policy : AccessPolicy}
    (h : LacksCertificateSource proxyHeader request policy) :
    ¬ Admits proxyHeader moment request policy :=
  fun hadmits => hadmits.not_lacks h

/-- Away from the missing certificate source, a policy admits whom it authorizes. -/
theorem admits_iff_isAuthorized {proxyHeader : Option String} {moment : Moment}
    {request : Request} {policy : AccessPolicy}
    (hsource : ¬ LacksCertificateSource proxyHeader request policy) :
    Admits proxyHeader moment request policy ↔
      policy.isAuthorized moment (credentials proxyHeader request) = .ok true := by
  cases policy with
  | unrestricted => simp [Admits, AccessPolicy.isAuthorized]
  | certificate =>
      simp only [Admits, AccessPolicy.isAuthorized, credentials, Except.ok.injEq,
        ← callerCertificate_eq_some_iff, ← Text.isAllBlank_eq_false_iff]
      cases callerCertificate proxyHeader request <;> simp
  | token policy =>
      simp only [Admits, AccessPolicy.isAuthorized, presents_iff, exists_eq_left]
      constructor
      · exact And.right
      · intro h
        refine ⟨?_, h⟩
        by_contra hnone
        rw [not_or, not_not, not_not] at hnone
        exact hsource ⟨rfl, hnone⟩

namespace ProvidedService

/-- What may come of a request to a service before its handler runs. -/
inductive Verdict (proxyHeader : Option String) (moment : Moment) (provided : ProvidedService H)
    (request : Request) : Except Response ServiceRequest → Prop where
  | sourceless {refusal : Response}
      (hlacks : LacksCertificateSource proxyHeader request provided.policy)
      (hstatus : refusal.status = 501) :
      Verdict proxyHeader moment provided request (.error refusal)
  | denied {refusal : Response}
      (hsource : ¬ LacksCertificateSource proxyHeader request provided.policy)
      (hdenied : ¬ Admits proxyHeader moment request provided.policy)
      (hstatus : refusal.status = 403) :
      Verdict proxyHeader moment provided request (.error refusal)
  | oversized {refusal : Response}
      (hadmits : Admits proxyHeader moment request provided.policy)
      (hsize : ¬ request.body.length ≤ bodyLimit)
      (hstatus : refusal.status = 400) :
      Verdict proxyHeader moment provided request (.error refusal)
  | admitted {received : ServiceRequest}
      (hadmits : Admits proxyHeader moment request provided.policy)
      (hsize : request.body.length ≤ bodyLimit)
      (hquery : received.query = Dict.ofList (Query.parse (request.target.query.getD "")))
      (hbody : received.body = request.body) :
      Verdict proxyHeader moment provided request (.ok received)

variable {proxyHeader : Option String} {moment : Moment} {provided : ProvidedService H}
  {request : Request}

theorem authorize_of_lacks (moment : Moment)
    (h : LacksCertificateSource proxyHeader request provided.policy) :
    ∃ refusal : Response, refusal.status = 501 ∧
      authorize proxyHeader moment provided request = .error refusal := by
  obtain ⟨hkind, hsource⟩ := h
  unfold authorize
  rw [if_pos ⟨hkind, seesCertificates_eq_false_iff.2 hsource⟩]
  exact ⟨_, rfl, rfl⟩

theorem authorize_of_not_lacks
    (h : ¬ LacksCertificateSource proxyHeader request provided.policy) :
    authorize proxyHeader moment provided request =
      match provided.policy.isAuthorized moment (credentials proxyHeader request) with
      | .ok true => .ok ()
      | .ok false =>
          .error (failureResponse 403 ("not authorized to use '" ++ provided.definition ++ "'"))
      | .error failure => .error (failureResponse 403 failure.message) := by
  have hsees : ¬ (provided.policy.kind = .token ∧
      seesCertificates proxyHeader request.peer = false) := fun hboth =>
    h ⟨hboth.1, seesCertificates_eq_false_iff.1 hboth.2⟩
  exact if_neg hsees

theorem authorize_of_admits (h : Admits proxyHeader moment request provided.policy) :
    authorize proxyHeader moment provided request = .ok () := by
  have hsource := h.not_lacks
  rw [authorize_of_not_lacks hsource,
    (admits_iff_isAuthorized hsource).1 h]

theorem authorize_of_not_admits
    (hsource : ¬ LacksCertificateSource proxyHeader request provided.policy)
    (hdenied : ¬ Admits proxyHeader moment request provided.policy) :
    ∃ refusal : Response, refusal.status = 403 ∧
      authorize proxyHeader moment provided request = .error refusal := by
  rw [admits_iff_isAuthorized hsource] at hdenied
  rw [authorize_of_not_lacks hsource]
  split
  · contradiction
  · exact ⟨_, rfl, rfl⟩
  · exact ⟨_, rfl, rfl⟩

/-- The certificate source is checked before the policy, and the policy before
the body. -/
theorem accept_verdict (proxyHeader : Option String) (moment : Moment)
    (provided : ProvidedService H) (request : Request) :
    Verdict proxyHeader moment provided request (accept proxyHeader moment provided request) := by
  unfold accept
  by_cases hlacks : LacksCertificateSource proxyHeader request provided.policy
  · obtain ⟨refusal, hstatus, hrefused⟩ :=
      authorize_of_lacks moment hlacks
    rw [hrefused]
    exact .sourceless hlacks hstatus
  by_cases hadmits : Admits proxyHeader moment request provided.policy
  · rw [authorize_of_admits hadmits]
    by_cases hsize : request.body.length ≤ bodyLimit
    · have hread : readBody request.body = .ok request.body := if_neg (Nat.not_lt.2 hsize)
      rw [hread]
      exact .admitted hadmits hsize rfl rfl
    · have hread : readBody request.body =
          .error (failureResponse 400 "cannot read body: length limit exceeded") :=
        if_pos (Nat.not_le.1 hsize)
      rw [hread]
      exact .oversized hadmits hsize rfl
  · obtain ⟨refusal, hstatus, hrefused⟩ :=
      authorize_of_not_admits hlacks hadmits
    rw [hrefused]
    exact .denied hlacks hadmits hstatus

/-- An admitted request is handed on with its parameters, of which the last one of a
name counts. -/
theorem query_of_accept {received : ServiceRequest}
    (h : accept proxyHeader moment provided request = .ok received) :
    received.query = Dict.ofList (Query.parse (request.target.query.getD "")) := by
  have hverdict := accept_verdict proxyHeader moment provided request
  rw [h] at hverdict
  cases hverdict with
  | admitted _ _ hquery _ => exact hquery

/-- Requests that show the same about their callers are authorized alike. -/
theorem authorize_congr {other : Request} (h : SameEvidence proxyHeader request other) :
    authorize proxyHeader moment provided request = authorize proxyHeader moment provided other := by
  simp only [authorize, h.peer, h.credentials_eq]

/-- They are refused alike, too, when both bodies fit or neither does. -/
theorem accept_eq_error_congr {other : Request} (h : SameEvidence proxyHeader request other)
    (hsize : request.body.length ≤ bodyLimit ↔ other.body.length ≤ bodyLimit)
    {refusal : Response} (hrefused : accept proxyHeader moment provided request = .error refusal) :
    accept proxyHeader moment provided other = .error refusal := by
  unfold accept at hrefused ⊢
  rw [authorize_congr h] at hrefused
  cases hauthorize : authorize proxyHeader moment provided other with
  | error denial => rwa [hauthorize] at hrefused
  | ok admitted =>
      rw [hauthorize] at hrefused
      by_cases hfits : request.body.length ≤ bodyLimit
      · rw [show readBody request.body = .ok request.body from if_neg (Nat.not_lt.2 hfits)]
          at hrefused
        cases hrefused
      · have hother := mt hsize.2 hfits
        rw [readBody, if_pos (Nat.not_le.1 hfits)] at hrefused
        rw [readBody, if_pos (Nat.not_le.1 hother)]
        exact hrefused

end ProvidedService

namespace Provider

variable {provider : Provider H E} {moment : Moment} {request : Request}
  {provided : ProvidedService H}

theorem handle_of_service [LawfulMonad m]
    (hroute : provider.route request.target.path request.method = .service provided)
    (run : H → ServiceRequest → m (Except Error ServiceResponse))
    (runCallback : E → Event → m (Except Error Unit)) :
    provider.handle run runCallback moment request =
      match ProvidedService.accept provider.proxyHeader moment provided request with
      | .error refusal => pure (refusal.toMethod request.method)
      | .ok received =>
          (fun result => (ProvidedService.answer result).toMethod request.method) <$>
            run provided.handler received := by
  simp only [handle, ProvidedService.serve, hroute]
  cases ProvidedService.accept provider.proxyHeader moment provided request with
  | error refusal => simp
  | ok received => simp

/-- The calls of the handler of a service, read off the verdict on a request. -/
theorem run_handle_recorded [LawfulMonad m]
    (hroute : provider.route request.target.path request.method = .service provided)
    (run : H → ServiceRequest → m (Except Error ServiceResponse))
    (runCallback : E → Event → m (Except Error Unit)) (log : List (HandlerCall H)) :
    (provider.handle (recorded run) (unrecorded runCallback) moment request).run log =
      (fun response => (response, log ++
        match ProvidedService.accept provider.proxyHeader moment provided request with
        | .error _ => []
        | .ok received => [(provided.handler, received)])) <$>
        provider.handle run runCallback moment request := by
  rw [handle_of_service hroute, handle_of_service hroute]
  cases ProvidedService.accept provider.proxyHeader moment provided request with
  | error refusal => simp
  | ok received => simp [recorded]

theorem handlerCalls_of_service
    (hroute : provider.route request.target.path request.method = .service provided) :
    provider.handlerCalls moment request =
      match ProvidedService.accept provider.proxyHeader moment provided request with
      | .error _ => []
      | .ok received => [(provided.handler, received)] := by
  unfold handlerCalls
  rw [run_handle_recorded hroute]
  rfl

theorem handlerCalls_eq_nil_iff
    (hroute : provider.route request.target.path request.method = .service provided) :
    provider.handlerCalls moment request = [] ↔
      ∃ refusal,
        ProvidedService.accept provider.proxyHeader moment provided request = .error refusal := by
  rw [handlerCalls_of_service hroute]
  cases ProvidedService.accept provider.proxyHeader moment provided request with
  | error refusal => simp
  | ok received => simp

/-- A request is answered without a call of any handler or callback. -/
def Refuses (provider : Provider H E) (moment : Moment) (request : Request)
    (refusal : Response) : Prop :=
  ∀ {m : Type → Type} [Monad m] [LawfulMonad m]
    (run : H → ServiceRequest → m (Except Error ServiceResponse))
    (runCallback : E → Event → m (Except Error Unit)),
    provider.handle run runCallback moment request = pure refusal

theorem refuses_of_accept_eq_error
    (hroute : provider.route request.target.path request.method = .service provided)
    {refusal : Response}
    (hrefused : ProvidedService.accept provider.proxyHeader moment provided request =
      .error refusal) :
    provider.Refuses moment request (refusal.toMethod request.method) := by
  intro m _ _ run runCallback
  rw [handle_of_service hroute, hrefused]

@[simp]
theorem status_toMethod (response : Response) (method : String) :
    (response.toMethod method).status = response.status := by
  unfold Response.toMethod
  split <;> rfl

/-- How a provider deals with a request to one of its services.  Every query can
be read, so beside the policy only the size of the body decides. -/
structure Mediates (provider : Provider H E) (moment : Moment) (request : Request)
    (provided : ProvidedService H) : Prop where
  /-- The record of calls is the same for all handlers, and keeping it changes
  no answer. -/
  observed : ∀ {m : Type → Type} [Monad m] [LawfulMonad m]
    (run : H → ServiceRequest → m (Except Error ServiceResponse))
    (runCallback : E → Event → m (Except Error Unit)) (log : List (HandlerCall H)),
    (provider.handle (recorded run) (unrecorded runCallback) moment request).run log =
      (fun response => (response, log ++ provider.handlerCalls moment request)) <$>
        provider.handle run runCallback moment request
  once : (provider.handlerCalls moment request).length ≤ 1
  own : ∀ call ∈ provider.handlerCalls moment request, call.1 = provided.handler ∧
    call.2.query = Dict.ofList (Query.parse (request.target.query.getD "")) ∧
    call.2.body = request.body
  invoked : provider.handlerCalls moment request ≠ [] ↔
    Admits provider.proxyHeader moment request provided.policy ∧
      request.body.length ≤ 4 * 1024 * 1024
  refused : provider.handlerCalls moment request = [] → ∃ refusal : Response,
    provider.Refuses moment request refusal ∧
    (refusal.status = 501 ↔
      LacksCertificateSource provider.proxyHeader request provided.policy) ∧
    (refusal.status = 403 ↔
      ¬ LacksCertificateSource provider.proxyHeader request provided.policy ∧
        ¬ Admits provider.proxyHeader moment request provided.policy) ∧
    (refusal.status = 400 ↔
      Admits provider.proxyHeader moment request provided.policy ∧
        4 * 1024 * 1024 < request.body.length)
  /-- No header counts but the first `Authorization` and, for an unverified peer,
  the first value of the trusted header. -/
  noninterference : ∀ other : Request,
    provider.route other.target.path other.method = .service provided →
    SameEvidence provider.proxyHeader request other →
    (request.body.length ≤ 4 * 1024 * 1024 ↔ other.body.length ≤ 4 * 1024 * 1024) →
    (provider.handlerCalls moment request = [] ↔ provider.handlerCalls moment other = []) ∧
    (provider.handlerCalls moment request = [] → ∃ refusal : Response,
      provider.Refuses moment request (refusal.toMethod request.method) ∧
      provider.Refuses moment other (refusal.toMethod other.method))

theorem refused_of_verdict {refusal : Response}
    (hrefused : ProvidedService.accept provider.proxyHeader moment provided request =
      .error refusal) :
    (refusal.status = 501 ↔
      LacksCertificateSource provider.proxyHeader request provided.policy) ∧
    (refusal.status = 403 ↔
      ¬ LacksCertificateSource provider.proxyHeader request provided.policy ∧
        ¬ Admits provider.proxyHeader moment request provided.policy) ∧
    (refusal.status = 400 ↔
      Admits provider.proxyHeader moment request provided.policy ∧
        bodyLimit < request.body.length) := by
  have hverdict :=
    ProvidedService.accept_verdict provider.proxyHeader moment provided request
  rw [hrefused] at hverdict
  cases hverdict with
  | sourceless hlacks hstatus => simp [hstatus, hlacks, hlacks.not_admits]
  | denied hsource hdenied hstatus => simp [hstatus, hsource, hdenied]
  | oversized hadmits hsize hstatus =>
      simp [hstatus, hadmits, hadmits.not_lacks, Nat.not_le.1 hsize]

theorem invoked_iff
    (hroute : provider.route request.target.path request.method = .service provided) :
    provider.handlerCalls moment request ≠ [] ↔
      Admits provider.proxyHeader moment request provided.policy ∧
        request.body.length ≤ bodyLimit := by
  rw [handlerCalls_of_service hroute]
  have hverdict :=
    ProvidedService.accept_verdict provider.proxyHeader moment provided request
  generalize ProvidedService.accept provider.proxyHeader moment provided request = verdict
    at hverdict ⊢
  cases hverdict with
  | sourceless hlacks _ => simp [hlacks.not_admits]
  | denied _ hdenied _ => simp [hdenied]
  | oversized _ hsize _ => simp [hsize]
  | admitted hadmits hsize _ _ => simp [hadmits, hsize]

/-- An admitted caller reaches the handler with the request that was accepted. -/
theorem exists_handlerCalls_of_admits
    (hroute : provider.route request.target.path request.method = .service provided)
    (hadmits : Admits provider.proxyHeader moment request provided.policy)
    (hsize : request.body.length ≤ bodyLimit) :
    ∃ received,
      ProvidedService.accept provider.proxyHeader moment provided request = .ok received ∧
        provider.handlerCalls moment request = [(provided.handler, received)] := by
  have hcalled := (invoked_iff hroute).2 ⟨hadmits, hsize⟩
  rw [handlerCalls_of_service hroute] at hcalled ⊢
  cases haccept : ProvidedService.accept provider.proxyHeader moment provided request with
  | error refusal =>
      rw [haccept] at hcalled
      exact absurd rfl hcalled
  | ok received => exact ⟨received, rfl, rfl⟩

/-- Complete mediation: whatever services are wired, a request to one of them
reaches the handler exactly when the policy admits the caller and the body fits,
and its refusal tells the reason. -/
theorem mediates_of_route (provider : Provider H E) (moment : Moment) (request : Request)
    (provided : ProvidedService H)
    (hroute : provider.route request.target.path request.method = .service provided) :
    provider.Mediates moment request provided where
  observed run runCallback log := by
    rw [run_handle_recorded hroute, handlerCalls_of_service hroute]
  once := by
    rw [handlerCalls_of_service hroute]
    cases ProvidedService.accept provider.proxyHeader moment provided request <;> simp
  own := by
    rw [handlerCalls_of_service hroute]
    have hverdict :=
      ProvidedService.accept_verdict provider.proxyHeader moment provided request
    generalize ProvidedService.accept provider.proxyHeader moment provided request = verdict
      at hverdict ⊢
    cases hverdict with
    | sourceless | denied | oversized => simp
    | admitted _ _ hquery hbody => simp [hquery, hbody]
  invoked := invoked_iff hroute
  refused hnone := by
    obtain ⟨refusal, hrefused⟩ := (handlerCalls_eq_nil_iff hroute).1 hnone
    have hreason := refused_of_verdict hrefused
    refine ⟨_, refuses_of_accept_eq_error hroute hrefused, ?_⟩
    rwa [status_toMethod]
  noninterference other hother hsame hsize := by
    have hboth : provider.handlerCalls moment request = [] ↔
        provider.handlerCalls moment other = [] := by
      rw [handlerCalls_eq_nil_iff hroute, handlerCalls_eq_nil_iff hother]
      constructor
      · rintro ⟨refusal, hrefused⟩
        exact ⟨refusal, ProvidedService.accept_eq_error_congr hsame hsize hrefused⟩
      · rintro ⟨refusal, hrefused⟩
        exact ⟨refusal, ProvidedService.accept_eq_error_congr hsame.symm hsize.symm hrefused⟩
    refine ⟨hboth, fun hnone => ?_⟩
    obtain ⟨refusal, hrefused⟩ := (handlerCalls_eq_nil_iff hroute).1 hnone
    exact ⟨refusal, refuses_of_accept_eq_error hroute hrefused, refuses_of_accept_eq_error hother
      (ProvidedService.accept_eq_error_congr hsame hsize hrefused)⟩

/-- A service for callers with a certificate, behind a proxy that is sent the
header twice. -/
theorem mediates_of_route_forwarded :
    let echo : ProvidedService Unit := {
      service := ⟨"echo", "echo", ⟨"HTTP", "SECURE", "JSON"⟩, .certificate, ∅, none⟩
      provider := ⟨"provider", "127.0.0.1", 7000, none⟩
      method := "GET"
      handler := ()
      policy := .certificate }
    let provider : Provider Unit Unit := { proxyHeader := some "x-cert", services := [echo] }
    let request : Request := {
      method := "GET"
      target := ⟨"/echo", some "a=b"⟩
      headers := [("x-cert", [37, 50, 48]), ("x-cert", [65])]
      peer := .anonymous }
    provider.route request.target.path request.method = .service echo ∧
      provider.Mediates ⟨none, 0⟩ request echo := by
  intro echo provider request
  have hroute : provider.route request.target.path request.method = .service echo := by cbv
  exact ⟨hroute, mediates_of_route provider ⟨none, 0⟩ request echo hroute⟩

end Provider

end LocalCloud
