import LocalCloud.Proofs.Message.RoundTrip
import LocalCloud.Proofs.Provider.Routing

/-!
# What the answer to a delivery tells

A delivered body runs the callback of a subscription once if it holds an event of the
subscribed type, and is refused otherwise.  A refusal has the status 400; but so has the
answer when the callback itself fails because a value is malformed, while any other failure
of it has the status 500.  Calls are recorded while a body is delivered, so the statements
hold whatever a callback does.
-/

namespace LocalCloud

open Http (Request Response)

variable {H E : Type} {m : Type → Type} [Monad m]

/-- A call of a callback. -/
abbrev CallbackCall (E : Type) := E × Event

/-- Runs a callback and records the call. -/
def recordedCallback (run : E → Event → m (Except Error Unit)) (callback : E) (event : Event) :
    StateT (List (CallbackCall E)) m (Except Error Unit) := do
  modify (· ++ [(callback, event)])
  StateT.lift (run callback event)

/-- A body that is small enough to be read holds an event. -/
structure Event.IsHeld (event : Event) (body : Bytes) : Prop where
  size : body.length ≤ bodyLimit
  read : Json.decodeBytes? decode body = some event

/-- A body holds one event at most. -/
theorem Event.IsHeld.unique {event other : Event} {body : Bytes} (h : event.IsHeld body)
    (hother : other.IsHeld body) : other = event :=
  Option.some.inj (hother.read.symm.trans h.read)

namespace Subscription

variable {subscription : Subscription E} {body : Bytes} {event : Event}

/-- The calls of callbacks that are made while a body is delivered. -/
def callbackCalls (subscription : Subscription E) (body : Bytes) : List (CallbackCall E) :=
  ((subscription.deliver (recordedCallback idleCallback) body).run []).run.2

/-- A body holds an event of the subscribed type. -/
structure Hears (subscription : Subscription E) (body : Bytes) (event : Event) : Prop
    extends event.IsHeld body where
  type : Text.eqIgnoringAsciiCase event.eventType subscription.eventType = true

theorem hears_iff_of_isHeld (h : event.IsHeld body) {other : Event} :
    subscription.Hears body other ↔ other = event ∧ subscription.accepts event = true := by
  constructor
  · intro hhears
    obtain rfl := h.unique hhears.toIsHeld
    exact ⟨rfl, hhears.type⟩
  · rintro ⟨rfl, htype⟩
    exact ⟨h, htype⟩

/-- A body that holds no event is refused. -/
theorem readEvent_cases (body : Bytes) :
    (∃ event, readEvent body = .ok event ∧ event.IsHeld body) ∨
      ∃ refusal, readEvent body = .error refusal ∧ refusal.status = 400 ∧
        ∀ event : Event, ¬ event.IsHeld body := by
  by_cases hsize : body.length ≤ bodyLimit
  · have hread : readBody body = .ok body := if_neg (Nat.not_lt.2 hsize)
    rw [readEvent, hread]
    cases hdecode : Json.decodeBytes? Event.decode body with
    | some event =>
      refine .inl ⟨event, ?_, hsize, hdecode⟩
      simp only [bind, Except.bind, hdecode]
    | none =>
      refine .inr ⟨failureResponse 400 "invalid event: the body is not an event", ?_, rfl, ?_⟩
      · simp only [bind, Except.bind, hdecode]
      · intro event hheld
        exact Option.some_ne_none event (hheld.read.symm.trans hdecode)
  · have hread : readBody body =
        .error (failureResponse 400 "cannot read body: length limit exceeded") :=
      if_pos (Nat.not_le.1 hsize)
    rw [readEvent, hread]
    exact .inr ⟨_, rfl, rfl, fun event hheld => hsize hheld.size⟩

theorem notify_of_accepts (h : subscription.accepts event = true)
    (run : E → Event → m (Except Error Unit)) :
    subscription.notify run event = run subscription.callback event :=
  if_pos h

theorem deliver_of_hears [LawfulMonad m] (h : subscription.Hears body event)
    (run : E → Event → m (Except Error Unit)) :
    subscription.deliver run body = answer <$> run subscription.callback event := by
  rcases readEvent_cases body with ⟨found, hread, hheld⟩ | ⟨_, -, -, hnone⟩
  · obtain rfl := h.toIsHeld.unique hheld
    simp only [deliver, hread, notify_of_accepts h.type, map_eq_pure_bind]
  · exact absurd h.toIsHeld (hnone event)

/-- A body is refused without a call, whatever the callback would do. -/
def Refuses (subscription : Subscription E) (body : Bytes) (refusal : Response) : Prop :=
  ∀ {m : Type → Type} [Monad m] [LawfulMonad m] (run : E → Event → m (Except Error Unit)),
    subscription.deliver run body = pure refusal

theorem exists_refuses (h : ∀ event, ¬ subscription.Hears body event) :
    ∃ refusal : Response, refusal.status = 400 ∧ subscription.Refuses body refusal := by
  rcases readEvent_cases body with ⟨event, hread, hheld⟩ | ⟨refusal, hread, hstatus, -⟩
  · have hother : ¬ subscription.accepts event = true := fun htype => h event ⟨hheld, htype⟩
    refine ⟨failureResponse 400 (subscription.misdelivered event), rfl, ?_⟩
    intro m _ _ run
    simp only [deliver, hread, notify, if_neg hother, pure_bind]
    rfl
  · refine ⟨refusal, hstatus, ?_⟩
    intro m _ _ run
    simp only [deliver, hread]

theorem callbackCalls_of_hears (h : subscription.Hears body event) :
    subscription.callbackCalls body = [(subscription.callback, event)] := by
  rw [callbackCalls, deliver_of_hears h]
  rfl

theorem callbackCalls_of_not_hears (h : ∀ event, ¬ subscription.Hears body event) :
    subscription.callbackCalls body = [] := by
  obtain ⟨refusal, -, hrefuses⟩ := exists_refuses h
  rw [callbackCalls, hrefuses]
  rfl

/-- Every delivered body is heard or refused. -/
theorem hears_or_refuses (subscription : Subscription E) (body : Bytes) :
    (∃ event, subscription.Hears body event ∧
        subscription.callbackCalls body = [(subscription.callback, event)]) ∨
      ∃ refusal : Response, refusal.status = 400 ∧ subscription.Refuses body refusal ∧
        (∀ event, ¬ subscription.Hears body event) ∧ subscription.callbackCalls body = [] := by
  by_cases hhears : ∃ event, subscription.Hears body event
  · obtain ⟨event, hevent⟩ := hhears
    exact .inl ⟨event, hevent, callbackCalls_of_hears hevent⟩
  · rw [not_exists] at hhears
    obtain ⟨refusal, hstatus, hrefuses⟩ := exists_refuses hhears
    exact .inr ⟨refusal, hstatus, hrefuses, hhears, callbackCalls_of_not_hears hhears⟩

/-- What the status of an answer tells about the outcomes of the calls that were made. -/
structure StatusTells (status : UInt16) (outcomes : List (Except Error Unit)) : Prop where
  ok : status = 200 ↔ .ok () ∈ outcomes
  failed : status = 500 ↔ ∃ failure, .error failure ∈ outcomes ∧
    ∀ detail, failure ≠ .validation detail
  refused : status = 400 ↔ outcomes = [] ∨ ∃ detail, .error (.validation detail) ∈ outcomes

theorem statusTells_refused : StatusTells 400 [] := by
  constructor <;> simp

theorem statusTells_answer (outcome : Except Error Unit) :
    StatusTells (answer outcome).status [outcome] := by
  cases outcome with
  | ok value => constructor <;> simp [answer, Response.ofStatus]
  | error failure =>
    cases failure <;> constructor <;> simp [answer, failureResponse]

theorem length_callbackCalls_le (subscription : Subscription E) (body : Bytes) :
    (subscription.callbackCalls body).length ≤ 1 := by
  rcases subscription.hears_or_refuses body with ⟨event, -, hcalls⟩ | ⟨_, -, -, -, hcalls⟩
  · rw [hcalls, List.length_singleton]
  · rw [hcalls, List.length_nil]
    exact Nat.zero_le 1

theorem mem_callbackCalls_iff {callback : E} :
    (callback, event) ∈ subscription.callbackCalls body ↔
      callback = subscription.callback ∧ subscription.Hears body event := by
  rcases subscription.hears_or_refuses body with ⟨found, hhears, hcalls⟩ | ⟨_, -, -, hnot, hcalls⟩
  · rw [hcalls, List.mem_singleton, Prod.mk.injEq]
    refine and_congr_right fun _ => ⟨?_, fun hother => hhears.toIsHeld.unique hother.toIsHeld⟩
    rintro rfl
    exact hhears
  · rw [hcalls]
    exact iff_of_false List.not_mem_nil fun hcall => hnot event hcall.2

theorem run_deliver_recordedCallback [LawfulMonad m] (subscription : Subscription E)
    (body : Bytes) (run : E → Event → m (Except Error Unit)) (log : List (CallbackCall E)) :
    (subscription.deliver (recordedCallback run) body).run log =
      (fun response => (response, log ++ subscription.callbackCalls body)) <$>
        subscription.deliver run body := by
  rcases subscription.hears_or_refuses body with
    ⟨event, hhears, hcalls⟩ | ⟨refusal, -, hrefuses, -, hcalls⟩
  · rw [deliver_of_hears hhears, deliver_of_hears hhears, hcalls]
    simp [recordedCallback]
  · rw [hrefuses, hrefuses, hcalls, List.append_nil, map_pure]
    rfl

theorem statusTells_deliver {σ : Type} (subscription : Subscription E) (body : Bytes)
    (run : E → Event → StateM σ (Except Error Unit)) (world : σ) :
    StatusTells ((subscription.deliver run body).run world).1.status
      ((subscription.callbackCalls body).map fun call => ((run call.1 call.2).run world).1) := by
  rcases subscription.hears_or_refuses body with
    ⟨event, hhears, hcalls⟩ | ⟨refusal, hstatus, hrefuses, -, hcalls⟩
  · rw [deliver_of_hears hhears, hcalls]
    exact statusTells_answer _
  · rw [hrefuses, hcalls, List.map_nil]
    change StatusTells refusal.status []
    rw [hstatus]
    exact statusTells_refused

/-- A request that is routed to the subscription is answered as the delivery of its body. -/
def IsServed (subscription : Subscription E) (body : Bytes) : Prop :=
  ∀ {H : Type} (provider : Provider H E) (moment : Moment) (request : Request),
    provider.route request.target.path request.method = .event subscription →
    request.body = body →
    ∀ {m : Type → Type} [Monad m] [LawfulMonad m]
      (runHandler : H → ServiceRequest → m (Except Error ServiceResponse))
      (run : E → Event → m (Except Error Unit)),
      provider.handle runHandler run moment request =
        (fun response => response.toMethod request.method) <$> subscription.deliver run body

theorem isServed (subscription : Subscription E) (body : Bytes) : subscription.IsServed body := by
  intro H provider moment request hroute hbody m _ _ runHandler run
  rw [← hbody]
  exact Provider.handle_of_event hroute runHandler run

/-- How the delivery of a body is answered, whatever the callback does. -/
structure AnswersDelivery (subscription : Subscription E) (body : Bytes) : Prop where
  atMostOnce : (subscription.callbackCalls body).length ≤ 1
  called : ∀ call, call ∈ subscription.callbackCalls body ↔
    call.1 = subscription.callback ∧ subscription.Hears body call.2
  /-- The record of calls is the same for all callbacks, and keeping it changes no answer. -/
  recorded : ∀ {m : Type → Type} [Monad m] [LawfulMonad m]
    (run : E → Event → m (Except Error Unit)) (log : List (CallbackCall E)),
    (subscription.deliver (recordedCallback run) body).run log =
      (fun response => (response, log ++ subscription.callbackCalls body)) <$>
        subscription.deliver run body
  /-- The outcome of a callback is told apart from a refusal unless it is the failure for a
  malformed value. -/
  told : ∀ {σ : Type} (run : E → Event → StateM σ (Except Error Unit)) (world : σ),
    StatusTells ((subscription.deliver run body).run world).1.status
      ((subscription.callbackCalls body).map fun call => ((run call.1 call.2).run world).1)
  served : subscription.IsServed body

theorem answersDelivery (subscription : Subscription E) (body : Bytes) :
    subscription.AnswersDelivery body where
  atMostOnce := subscription.length_callbackCalls_le body
  called := by
    rintro ⟨callback, event⟩
    exact mem_callbackCalls_iff
  recorded := subscription.run_deliver_recordedCallback body
  told := subscription.statusTells_deliver body
  served := subscription.isServed body

/-- A callback that ran and failed is answered as if it had not run, while a handler of a
service that fails likewise is not. -/
theorem exists_deliver_failed_status_eq :
    ∃ (subscription : Subscription Unit) (body : Bytes) (event : Event) (failure : Error),
      subscription.callbackCalls body = [((), event)] ∧
        (Id.run (subscription.deliver (fun _ _ => pure (.error failure)) body)).status = 400 ∧
        (ProvidedService.answer (.error failure)).status = 500 := by
  let subscription : Subscription Unit :=
    .declare "temperature" ⟨"subscriber", "127.0.0.1", 7000, none⟩ () none
      "00112233445566778899aabbccddeeff"
  let event : Event := { eventType := "TEMPERATURE", payload := "21" }
  have hread := (Json.readsBack_of_decode event.isIntegral_toJson event.decode_toNode).2
  have hhears : subscription.Hears event.toJson.bytes event :=
    ⟨⟨by decide +kernel, hread⟩, by decide +kernel⟩
  refine ⟨subscription, event.toJson.bytes, event, .validation "boom",
    callbackCalls_of_hears hhears, ?_, rfl⟩
  rw [deliver_of_hears hhears]
  rfl

end Subscription

end LocalCloud
