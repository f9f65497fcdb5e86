import LocalCloud.Client.Basic
import LocalCloud.Proofs.Text.Folding
import Mathlib.Tactic.Common

/-!
# The event types a subscription answers to

A subscription keeps its event type in upper case, over all letters, and is looked up and
told of events up to the case of ASCII letters only.  So it answers to every spelling that
ASCII letters alone put in upper case, and to no other one: a type with a letter beyond
ASCII that is not in upper case is not even recognised by the subscription declared for it.
-/

namespace LocalCloud

open Text (CasedInAscii StandsFor)

variable {E : Type}

namespace Subscription

/-- A subscription was declared as given; it may have become active since. -/
def IsDeclaredBy (declared : EventDeclaration E) (subscription : Subscription E) : Prop :=
  { subscription with isSubscribed := false } =
    declare declared.eventType subscription.subscriber declared.callback declared.metadata
      declared.identifier

variable {declared : EventDeclaration E} {subscription : Subscription E}

theorem IsDeclaredBy.eventType_eq (h : subscription.IsDeclaredBy declared) :
    subscription.eventType = Text.upper declared.eventType := by
  have htype := congrArg eventType h
  rw [declare] at htype
  exact htype

theorem IsDeclaredBy.accepts_iff (h : subscription.IsDeclaredBy declared) {event : Event} :
    subscription.accepts event = true ↔ StandsFor event.eventType declared.eventType := by
  rw [accepts, h.eventType_eq, Text.eqIgnoringAsciiCase_comm]
  exact Text.eqIgnoringAsciiCase_upper_left_iff

theorem accepts_declare_iff {eventType identifier : String} {subscriber : System} {callback : E}
    {metadata : Option (Dict String)} {event : Event} :
    (declare eventType subscriber callback metadata identifier).accepts event = true ↔
      StandsFor event.eventType eventType := by
  let declared : EventDeclaration E := ⟨eventType, callback, metadata, identifier⟩
  have hdeclared : (declare eventType subscriber callback metadata identifier).IsDeclaredBy
      declared := rfl
  exact hdeclared.accepts_iff

end Subscription

namespace Subscriptions

variable {eventType identifier : String} {subscriber : System} {callback : E}
  {metadata : Option (Dict String)}

/-- Behind the subscriptions found before, a new one is found under the spellings of its
type. -/
theorem byEventType_insert_declare (subscriptions : Subscriptions E) (spelling : String) :
    let subscription : Subscription E :=
      .declare eventType subscriber callback metadata identifier
    (subscriptions.insert subscription).byEventType spelling =
      subscriptions.byEventType spelling ++
        if StandsFor spelling eventType then [subscription] else [] := by
  intro subscription
  have hspelled : Text.eqIgnoringAsciiCase subscription.eventType spelling = true ↔
      StandsFor spelling eventType := Text.eqIgnoringAsciiCase_upper_left_iff
  rw [byEventType, insert, List.filter_append, List.filter_singleton, Bool.cond_eq_ite,
    if_congr hspelled rfl rfl]
  rfl

/-- The spellings under which a subscription is found and told of events, once it is declared
for an event type and kept beside others. -/
structure AnswersToType (subscriptions : Subscriptions E) (subscription : Subscription E)
    (eventType : String) : Prop where
  found : ∀ spelling, (subscriptions.insert subscription).byEventType spelling =
    subscriptions.byEventType spelling ++
      if StandsFor spelling eventType then [subscription] else []
  notified : ∀ {m : Type → Type} [Monad m] (run : E → Event → m (Except Error Unit))
    (event : Event), subscription.notify run event =
      if StandsFor event.eventType eventType then run subscription.callback event
      else pure (.error (.validation (subscription.misdelivered event)))
  /-- The declared type itself is such a spelling unless it has other letters that are not in
  upper case. -/
  itself : StandsFor eventType eventType ↔ CasedInAscii eventType
  inUpperCase : ∀ spelling, Text.upper spelling = Text.upper eventType →
    StandsFor (Text.upper spelling) eventType
  /-- Spellings that ASCII letters put in one upper case are alike everywhere. -/
  alike : ∀ spelling other, Text.upper spelling = Text.upper other → CasedInAscii spelling →
    CasedInAscii other →
    (subscriptions.insert subscription).byEventType spelling =
        (subscriptions.insert subscription).byEventType other ∧
      ∀ (told : Subscription E) (event : Event),
        told.accepts { event with eventType := spelling } =
          told.accepts { event with eventType := other }

theorem answersToType (subscriptions : Subscriptions E) (eventType : String) (subscriber : System)
    (callback : E) (metadata : Option (Dict String)) (identifier : String) :
    subscriptions.AnswersToType
      (.declare eventType subscriber callback metadata identifier) eventType where
  found := subscriptions.byEventType_insert_declare
  notified := by
    intro m _ run event
    exact if_congr Subscription.accepts_declare_iff rfl rfl
  itself := and_iff_right rfl
  inUpperCase := by
    intro spelling hupper
    exact Text.standsFor_upper_iff.2 hupper
  alike := by
    intro spelling other hupper hspelling hother
    have hsame := Text.eqIgnoringAsciiCase_congr hupper hspelling hother
    constructor
    · simp only [byEventType, hsame]
    · intro told event
      rw [Subscription.accepts, Subscription.accepts, Text.eqIgnoringAsciiCase_comm, hsame,
        Text.eqIgnoringAsciiCase_comm]

/-- A subscription that its own event type neither finds nor reaches, although another
spelling with the same upper case does both. -/
theorem exists_byEventType_declared_eq_nil :
    ∃ eventType other : String, Text.upper other = Text.upper eventType ∧
      let subscription : Subscription Unit :=
        .declare eventType ⟨"subscriber", "127.0.0.1", 7000, none⟩ () none
          "00112233445566778899aabbccddeeff"
      (empty.insert subscription).byEventType eventType = [] ∧
        subscription.accepts { eventType := eventType } = false ∧
        (empty.insert subscription).byEventType other = [subscription] ∧
        subscription.accepts { eventType := other } = true := by
  have hdeclared : ¬ StandsFor "température" "température" := by decide +kernel
  have hother : StandsFor "TEMPÉRATURE" "température" := by decide +kernel
  refine ⟨"température", "TEMPÉRATURE", hother.1, ?_⟩
  intro subscription
  refine ⟨?_, ?_, ?_, ?_⟩
  · rw [byEventType_insert_declare, if_neg hdeclared]
    rfl
  · exact Bool.eq_false_iff.2 (mt Subscription.accepts_declare_iff.1 hdeclared)
  · rw [byEventType_insert_declare, if_pos hother]
    rfl
  · exact Subscription.accepts_declare_iff.2 hother

end Subscriptions

end LocalCloud
