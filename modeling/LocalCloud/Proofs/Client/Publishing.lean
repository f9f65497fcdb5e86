import LocalCloud.Proofs.Client.CoreIsolation
import LocalCloud.Proofs.Message.Forwarding
import LocalCloud.Proofs.Orchestration.TokenTransport
import LocalCloud.Proofs.Provider.EventTypes

/-!
# Published events reach the matching subscriptions

A client publishes an event under its type in upper case, and a subscription keeps its type
in upper case, too.  No letter of such a type is an ASCII letter in lower case, so the
comparison of ASCII letters at the subscriber tells exactly whether both types are the same
in upper case.
-/

namespace LocalCloud

open Http (Response)

variable {C H E σ : Type}

namespace Subscription

/-- A delivered body is taken for an event under a condition, and refused otherwise. -/
structure TakesExactlyIf (subscription : Subscription E) (body : Bytes) (event : Event)
    (condition : Prop) : Prop where
  called_iff : subscription.callbackCalls body = [(subscription.callback, event)] ↔ condition
  taken : condition → ∀ {m : Type → Type} [Monad m] [LawfulMonad m]
    (run : E → Event → m (Except Error Unit)),
    subscription.deliver run body = answer <$> run subscription.callback event
  refused : ¬ condition → subscription.callbackCalls body = [] ∧
    ∃ refusal : Response, refusal.status = 400 ∧ subscription.Refuses body refusal
  served : subscription.IsServed body

variable {subscription : Subscription E} {body : Bytes} {event : Event} {condition : Prop}

theorem takesExactlyIf_of_isHeld (hheld : event.IsHeld body)
    (hcondition : subscription.accepts event = true ↔ condition) :
    subscription.TakesExactlyIf body event condition := by
  have hhears_iff {other : Event} : subscription.Hears body other ↔ other = event ∧ condition := by
    rw [hears_iff_of_isHeld hheld, hcondition]
  refine ⟨?called_iff, ?taken, ?refused, subscription.isServed body⟩
  case called_iff =>
    constructor
    · intro hcalls
      have hcall : (subscription.callback, event) ∈ subscription.callbackCalls body := by
        rw [hcalls]
        exact List.mem_singleton_self _
      exact (hhears_iff.1 (mem_callbackCalls_iff.1 hcall).2).2
    · intro h
      exact callbackCalls_of_hears (hhears_iff.2 ⟨rfl, h⟩)
  case taken =>
    intro h m _ _ run
    exact deliver_of_hears (hhears_iff.2 ⟨rfl, h⟩) run
  case refused =>
    intro h
    have hnot (other : Event) : ¬ subscription.Hears body other := fun hhears =>
      h (hhears_iff.1 hhears).2
    exact ⟨callbackCalls_of_not_hears hnot, exists_refuses hnot⟩

end Subscription

namespace Client

/-- What the event handler is given when a client publishes an event. -/
def publishedJson (client : Client C H E) (eventType payload : String) (metadata : Dict String)
    (timeStamp : String) : Json.Value :=
  (client.publishForm eventType payload metadata timeStamp).toJson.canonical

/-- What comes of an event that a client publishes. -/
structure ReachesMatching (network : Network (StateM σ) C) (client : Client C H E) (world : σ)
    (eventType payload : String) (metadata : Dict String) (timeStamp : String) : Prop where
  sent : ∃ consumer answer,
    client.callsOf network (.core (.publish eventType payload metadata timeStamp)) world =
      [⟨consumer, CoreService.publish.rule client.config,
        .ofJson (client.publishedJson eventType payload metadata timeStamp), answer⟩]
  given : ∀ rule call,
    HttpCall.ofRequest rule (.ofJson (client.publishedJson eventType payload metadata timeStamp)) =
      .ok call →
    call.body = some (client.publishedJson eventType payload metadata timeStamp).bytes
  /-- Whatever is delivered for it, subscriptions of any provider take it exactly if it is of
  their type in upper case. -/
  reached : ∀ delivered,
    Forwards (client.publishedJson eventType payload metadata timeStamp).bytes delivered →
    ∃ event : Event, event.eventType = Text.upper eventType ∧ event.payload = payload ∧
      event.metadata = metadata ∧
      ∀ {E' : Type} (declared : EventDeclaration E') (subscription : Subscription E'),
        subscription.IsDeclaredBy declared →
        subscription.TakesExactlyIf delivered event
          (Text.upper eventType = Text.upper declared.eventType)

theorem reachesMatching_of_reachable {client : Client C H E} (h : client.Reachable)
    (network : Network (StateM σ) C) (world : σ) (eventType payload : String)
    (metadata : Dict String) (timeStamp : String) :
    client.ReachesMatching network world eventType payload metadata timeStamp where
  sent := by
    obtain ⟨consumer, hhttp⟩ := h.wellFormed.consumers.exists_http
    exact ⟨consumer, exists_callsOf_core hhttp network _ world⟩
  given := by
    intro rule call hcall
    exact HttpCall.body_of_ofRequest hcall
  reached := by
    intro delivered hforwards
    obtain ⟨stamp, hheld⟩ := hforwards.exists_isHeld
    refine ⟨⟨Text.upper eventType, metadata, payload, stamp⟩, rfl, rfl, rfl, ?_⟩
    intro E' declared subscription hdeclared
    apply Subscription.takesExactlyIf_of_isHeld hheld
    rw [hdeclared.accepts_iff]
    exact Text.standsFor_upper_iff

/-- Two spellings of a type, and another type. -/
theorem reachesMatching_of_reachable_street :
    let network : Network (StateM Unit) Unit := {
      http := fun _ => pure (.answered 200 [])
      webSocket := fun _ => pure (.lost "unused")
      custom := fun _ _ _ => pure (.error (.transport "unused")) }
    let client : Client Unit Unit Unit := {
      config := {}
      system := ⟨"arrowhead_client", "127.0.0.1", 7000, none⟩
      consumers := .builtIn }
    let subscription (eventType : String) : Subscription Unit :=
      .declare eventType client.system () none "00112233445566778899aabbccddeeff"
    let delivered :=
      (Event.toJson ⟨"STRASSE", Dict.ofList [("unit", "C")], "21", "2026-10-16T12:00:00Z"⟩).bytes
    client.Reachable ∧
      client.ReachesMatching network () "Straße" "21" (Dict.ofList [("unit", "C")]) "" ∧
      Forwards (client.publishedJson "Straße" "21" (Dict.ofList [("unit", "C")]) "").bytes
        delivered ∧
      ((subscription "strasse").callbackCalls delivered).length = 1 ∧
      (subscription "road").callbackCalls delivered = [] := by
  intro network client subscription delivered
  have hbuild : Client.build {} ∅ .builtIn ([] : List (ServiceDeclaration Unit))
      ([] : List (EventDeclaration Unit)) = .ok client := by
    simp [Client.build, Config.system, ClientIdentity.checkAll, Config.identityFiles?,
      Client.readProviderKey, Client.readAuthorizationKey, pure, Except.pure, bind, Except.bind,
      client]
  have hreachable : client.Reachable := .built .standard hbuild
  have hreaches := reachesMatching_of_reachable hreachable network () "Straße" "21"
    (Dict.ofList [("unit", "C")]) ""
  have hforwards : Forwards
      (client.publishedJson "Straße" "21" (Dict.ofList [("unit", "C")]) "").bytes delivered := by
    apply PublishForm.forwards_event
    · exact show "STRASSE" = Text.upper "Straße" by decide +kernel
    · rfl
    · rfl
    · decide +kernel
  obtain ⟨event, -, -, -, htakes⟩ := hreaches.reached delivered hforwards
  have hsame := htakes ⟨"strasse", (), none, "00112233445566778899aabbccddeeff"⟩
    (subscription "strasse") rfl
  have hother := htakes ⟨"road", (), none, "00112233445566778899aabbccddeeff"⟩
    (subscription "road") rfl
  refine ⟨hreachable, hreaches, hforwards, ?_, (hother.refused (by decide +kernel)).1⟩
  rw [hsame.called_iff.2 (by decide +kernel), List.length_singleton]

end Client

end LocalCloud
