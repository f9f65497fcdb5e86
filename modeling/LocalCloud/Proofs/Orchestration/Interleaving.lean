import LocalCloud.Proofs.Orchestration.Failover

/-!
# Consumptions under way at the same time

Every consumption takes the list of its definition once, when it starts.  From
then on it looks at one rule after the other and waits for one call at a time,
while others do the same, the store is changed and consumptions are given up.

A step is one indivisible thing that happens.  What happens between two steps of
one consumption is arbitrary, so a statement about every run is one about every
interleaving.
-/

namespace LocalCloud

variable {α : Type}

/-- How far a consumption has come. -/
inductive Stage (α : Type) where
  /-- These rules are still to be looked at. -/
  | choosing (rest : List StoredRule)
  /-- A call through a rule is under way; the rest comes after it. -/
  | calling (stored : StoredRule) (rest : List StoredRule)
  | returned (result : Except Error α)
  | cancelled

namespace Stage

/-- The rules that may still be called. -/
def uncalled : Stage α → List StoredRule
  | choosing rest => rest
  | calling _ rest => rest
  | returned _ => []
  | cancelled => []

/-- The rules that are being called or may still be. -/
def pending : Stage α → List StoredRule
  | choosing rest => rest
  | calling stored rest => stored :: rest
  | returned _ => []
  | cancelled => []

/-- Whether the consumption has not come to an end. -/
def Working : Stage α → Prop
  | choosing _ => True
  | calling _ _ => True
  | returned _ => False
  | cancelled => False

/-- Where the end of a call leads: to the end of the consumption or to the next
rule. -/
def following (rest : List StoredRule) : Option (Except Error α) → Stage α
  | some result => returned result
  | none => choosing rest

end Stage

/-- A consumption: what it consumes, the list it took and how far it has come. -/
structure Consumption (α : Type) where
  definition : String
  taken : List StoredRule
  stage : Stage α

/-- What a consumption can do next. -/
inductive Action (α : Type) where
  | pass
  | call (stored : StoredRule)
  | complete (outcome : Except Error α)
  | giveUp
  | cancel

/-- One action of a consumption and what it does to the store. -/
inductive Move (definition : String) (rules : RuleStore) :
    Stage α → Action α → Stage α → RuleStore → Prop where
  | pass {stored : StoredRule} {rest : List StoredRule}
      (hinactive : ¬ rules.isActive stored = true) :
      Move definition rules (.choosing (stored :: rest)) .pass (.choosing rest) rules
  | call {stored : StoredRule} {rest : List StoredRule} (hactive : rules.isActive stored = true) :
      Move definition rules (.choosing (stored :: rest)) (.call stored) (.calling stored rest) rules
  | complete {stored : StoredRule} {rest : List StoredRule} (outcome : Except Error α) :
      Move definition rules (.calling stored rest) (.complete outcome)
        (.following rest (rules.settle stored outcome).1) (rules.settle stored outcome).2
  | giveUp : Move definition rules (.choosing []) .giveUp
      (.returned (.error (.noAvailableServices definition))) rules
  | cancel {stage : Stage α} (hworking : stage.Working) :
      Move definition rules stage .cancel .cancelled rules

/-- The store and all consumptions that were ever started. -/
structure Resolver (α : Type) where
  rules : RuleStore := .empty
  consumptions : List (Consumption α) := []

namespace Resolver

/-- One thing that happens.  A consumption is known by its place among all that
were ever started. -/
inductive Event (α : Type) where
  | insert (rule : OrchestrationRule)
  | replace (definition : String) (rules : List OrchestrationRule)
  | remove (definition : String)
  | start (definition : String)
  | act (who : Nat) (action : Action α)

/-- A consumption that starts now. -/
def started (rules : RuleStore) (definition : String) : Consumption α where
  definition := definition
  taken := rules.list definition
  stage := .choosing (rules.list definition)

/-- One step of the store or of a consumption. -/
inductive Step (state : Resolver α) : Event α → Resolver α → Prop where
  | insert (rule : OrchestrationRule) :
      Step state (.insert rule) { state with rules := state.rules.insert rule }
  | replace (definition : String) (rules : List OrchestrationRule) :
      Step state (.replace definition rules)
        { state with rules := state.rules.replace definition rules }
  | remove (definition : String) :
      Step state (.remove definition) { state with rules := state.rules.erase definition }
  | start (definition : String) :
      Step state (.start definition)
        { state with consumptions := state.consumptions ++ [started state.rules definition] }
  | act {who : Nat} {consumption : Consumption α} {action : Action α} {stage : Stage α}
      {rules : RuleStore} (hwho : state.consumptions[who]? = some consumption)
      (hmove : Move consumption.definition state.rules consumption.stage action stage rules) :
      Step state (.act who action)
        ⟨rules, state.consumptions.set who { consumption with stage }⟩

/-- Steps one after another. -/
inductive Run : Resolver α → List (Event α) → Resolver α → Prop where
  | nil (state : Resolver α) : Run state [] state
  | cons {state middle last : Resolver α} {event : Event α} {trace : List (Event α)}
      (hstep : Step state event middle) (hrun : Run middle trace last) :
      Run state (event :: trace) last

/-- The states that the system can come to. -/
inductive Reachable : Resolver α → Prop where
  | initial : Reachable {}
  | step {state later : Resolver α} {event : Event α} (h : Reachable state)
      (hstep : Step state event later) : Reachable later

/-- The rule a consumption starts to call in an event. -/
def Event.calledBy? (who : Nat) : Event α → Option StoredRule
  | .act other (.call stored) => if other = who then some stored else none
  | _ => none

/-- The rules a consumption calls in a run, in order. -/
def callsOf (who : Nat) (trace : List (Event α)) : List StoredRule :=
  trace.filterMap (Event.calledBy? who)

end Resolver

section Moves

variable {definition : String} {rules rules' : RuleStore} {stage stage' : Stage α}
variable {action : Action α}

/-- The only action that touches the store is the transport failure of a call, and
it deactivates the rule of that call. -/
theorem Move.rules_eq (h : Move definition rules stage action stage' rules') :
    rules' = rules ∨ ∃ failed rest detail, stage = .calling failed rest ∧
      action = .complete (.error (.transport detail)) ∧ rules' = rules.deactivate failed := by
  cases h with
  | pass | call | giveUp | cancel => exact .inl rfl
  | @complete stored rest outcome =>
      by_cases hfailed : (Attempt.mk stored outcome).Failed
      · obtain ⟨detail, rfl⟩ := hfailed
        exact .inr ⟨stored, rest, detail, rfl, rfl, rfl⟩
      · refine .inl ?_
        rw [RuleStore.settle_of_settled rules hfailed]

theorem Move.working (h : Move definition rules stage action stage' rules') : stage.Working := by
  cases h with
  | cancel hworking => exact hworking
  | _ => trivial

theorem Move.isActive_of_call {stored : StoredRule}
    (h : Move definition rules stage (.call stored) stage' rules') :
    rules.isActive stored = true := by
  cases h with
  | call hactive => exact hactive

theorem Move.of_cancel (h : Move definition rules stage .cancel stage' rules') :
    stage' = .cancelled ∧ rules' = rules := by
  cases h with
  | cancel => exact ⟨rfl, rfl⟩

/-- An action calls the next rule or none, and never brings a rule back. -/
theorem Move.uncalled (h : Move definition rules stage action stage' rules') (who : Nat) :
    (Resolver.callsOf who [.act who action] ++ stage'.uncalled).Sublist stage.uncalled := by
  cases h with
  | pass => exact List.sublist_cons_self _ _
  | @call stored rest =>
      have hcalls : Resolver.callsOf who [.act who (Action.call stored : Action α)] = [stored] := by
        simp [Resolver.callsOf, Resolver.Event.calledBy?]
      rw [hcalls]
      exact List.Sublist.refl _
  | @complete stored rest outcome =>
      change (Stage.following rest _).uncalled.Sublist rest
      cases (rules.settle stored outcome).1 with
      | none => exact List.Sublist.refl _
      | some result => exact List.nil_sublist _
  | giveUp => exact List.nil_sublist _
  | cancel => exact List.nil_sublist _

theorem Move.pending (h : Move definition rules stage action stage' rules') :
    stage'.pending.Sublist stage.pending := by
  cases h with
  | pass => exact List.sublist_cons_self _ _
  | call => exact List.Sublist.refl _
  | @complete stored rest outcome =>
      cases (rules.settle stored outcome).1 with
      | none => exact List.sublist_cons_self _ _
      | some result => exact List.nil_sublist _
  | giveUp => exact List.nil_sublist _
  | cancel => exact List.nil_sublist _

end Moves

namespace Resolver

variable {state middle later : Resolver α} {event : Event α} {trace : List (Event α)}
variable {stored : StoredRule} {who : Nat} {consumption : Consumption α}

/-- What becomes of a consumption while a trace runs. -/
structure Follows (who : Nat) (trace : List (Event α)) (before after : Consumption α) : Prop where
  definition : after.definition = before.definition
  taken : after.taken = before.taken
  calls : (callsOf who trace ++ after.stage.uncalled).Sublist before.stage.uncalled
  ended : ¬ before.stage.Working → after = before ∧ ∀ action, .act who action ∉ trace

theorem Follows.refl (who : Nat) (consumption : Consumption α) :
    Follows who [] consumption consumption where
  definition := rfl
  taken := rfl
  calls := List.Sublist.refl _
  ended _ := ⟨rfl, fun _ => List.not_mem_nil⟩

theorem Follows.cons {before between after : Consumption α}
    (hstep : Follows who [event] before between) (hrun : Follows who trace between after) :
    Follows who (event :: trace) before after where
  definition := hrun.definition.trans hstep.definition
  taken := hrun.taken.trans hstep.taken
  calls := by
    have hsplit : callsOf who (event :: trace) = callsOf who [event] ++ callsOf who trace := by
      rw [callsOf, callsOf, callsOf, ← List.filterMap_append, List.singleton_append]
    rw [hsplit, List.append_assoc]
    exact (hrun.calls.append_left _).trans hstep.calls
  ended hended := by
    obtain ⟨hsame, hnone⟩ := hstep.ended hended
    rw [← hsame] at hended
    obtain ⟨hsame', hnone'⟩ := hrun.ended hended
    refine ⟨hsame'.trans hsame, fun action hmem => ?_⟩
    rcases List.mem_cons.1 hmem with heq | hlater
    · exact hnone action (heq ▸ List.mem_singleton_self _)
    · exact hnone' action hlater

/-- A consumption is moved by its own actions only. -/
theorem follows_of_not_own (hother : ∀ action, event ≠ .act who action) :
    Follows who [event] consumption consumption where
  definition := rfl
  taken := rfl
  calls := by
    have hcalls : callsOf who [event] = [] := by
      cases event with
      | act actor action =>
          have hactor : actor ≠ who := fun heq => hother action (heq ▸ rfl)
          cases action <;> simp [callsOf, Event.calledBy?, hactor]
      | _ => rfl
    simp only [hcalls, List.nil_append, List.Sublist.refl]
  ended _ := by
    refine ⟨rfl, fun action hmem => ?_⟩
    exact hother action (List.mem_singleton.1 hmem).symm

theorem Step.follows (h : Step state event later)
    (hwho : state.consumptions[who]? = some consumption) :
    ∃ after, later.consumptions[who]? = some after ∧ Follows who [event] consumption after := by
  have hlt : who < state.consumptions.length := (List.getElem?_eq_some_iff.1 hwho).1
  cases h with
  | insert | replace | remove =>
      exact ⟨consumption, hwho, follows_of_not_own fun _ => nofun⟩
  | start definition =>
      refine ⟨consumption, ?_, follows_of_not_own fun _ => nofun⟩
      rw [List.getElem?_append_left hlt]
      exact hwho
  | @act actor mover action stage rules hactor hmove =>
      by_cases hown : actor = who
      · subst hown
        obtain rfl : mover = consumption := Option.some.inj (hactor.symm.trans hwho)
        refine ⟨{ mover with stage }, List.getElem?_set_self hlt, rfl, rfl, hmove.uncalled actor,
          fun hended => absurd hmove.working hended⟩
      · refine ⟨consumption, ?_, follows_of_not_own fun other heq => ?_⟩
        · rw [List.getElem?_set_ne hown]
          exact hwho
        · injection heq with hactor
          exact hown hactor

/-- Whatever happens, a consumption keeps its list and calls rules of it in order. -/
theorem Run.follows (h : Run state trace later)
    (hwho : state.consumptions[who]? = some consumption) :
    ∃ after, later.consumptions[who]? = some after ∧ Follows who trace consumption after := by
  induction h generalizing consumption with
  | nil => exact ⟨consumption, hwho, .refl who consumption⟩
  | cons hstep _ ih =>
      obtain ⟨between, hbetween, hfirst⟩ := hstep.follows hwho
      obtain ⟨after, hafter, hrest⟩ := ih hbetween
      exact ⟨after, hafter, hfirst.cons hrest⟩

/-- An inactive rule stays so in every step. -/
theorem Step.isActive_before (h : Step state event later)
    (hlater : later.rules.isActive stored = true) : state.rules.isActive stored = true := by
  cases h with
  | insert | replace | remove | start => exact hlater
  | act _ hmove =>
      rcases hmove.rules_eq with hrules | ⟨failed, _, _, _, _, hrules⟩
      · rwa [hrules] at hlater
      · rw [hrules, RuleStore.isActive_deactivate, Bool.and_eq_true] at hlater
        exact hlater.1

theorem Run.isActive_before (h : Run state trace later)
    (hlater : later.rules.isActive stored = true) : state.rules.isActive stored = true := by
  induction h with
  | nil => exact hlater
  | cons hstep _ ih => exact hstep.isActive_before (ih hlater)

theorem Step.isActive_of_call (h : Step state (.act who (.call stored)) later) :
    state.rules.isActive stored = true := by
  cases h with
  | act _ hmove => exact hmove.isActive_of_call

/-- A rule that is called in a run was active when the run began. -/
theorem Run.isActive_of_call (h : Run state trace later)
    (hcall : .act who (.call stored) ∈ trace) : state.rules.isActive stored = true := by
  induction h with
  | nil => cases hcall
  | cons hstep _ ih =>
      rcases List.mem_cons.1 hcall with rfl | hlater
      · exact hstep.isActive_of_call
      · exact hstep.isActive_before (ih hlater)

/-- The traces in which a consumption, while nothing else happens, makes these
attempts and comes to its end by itself. -/
inductive Performs (who : Nat) : List (Attempt α) → List (Event α) → Prop where
  | settled {stored : StoredRule} {outcome : Except Error α}
      (hsettled : ¬ (Attempt.mk stored outcome).Failed) :
      Performs who [⟨stored, outcome⟩] [.act who (.call stored), .act who (.complete outcome)]
  | exhausted : Performs who [] [.act who .giveUp]
  | pass {attempts : List (Attempt α)} {trace : List (Event α)} (h : Performs who attempts trace) :
      Performs who attempts (.act who .pass :: trace)
  | failed {stored : StoredRule} {outcome : Except Error α} {attempts : List (Attempt α)}
      {trace : List (Event α)} (hfailed : (Attempt.mk stored outcome).Failed)
      (h : Performs who attempts trace) :
      Performs who (⟨stored, outcome⟩ :: attempts)
        (.act who (.call stored) :: .act who (.complete outcome) :: trace)

/-- The steps of one call. -/
theorem Run.call {rules : RuleStore} {consumptions : List (Consumption α)}
    {definition : String} {taken rest : List StoredRule} {stage : Stage α} {after : RuleStore}
    (hwho : consumptions[who]? = some ⟨definition, taken, .choosing (stored :: rest)⟩)
    (hactive : rules.isActive stored = true) (outcome : Except Error α)
    (hstage : Stage.following rest (rules.settle stored outcome).1 = stage)
    (hafter : (rules.settle stored outcome).2 = after)
    (hrun : Run ⟨after, consumptions.set who ⟨definition, taken, stage⟩⟩ trace later) :
    Run ⟨rules, consumptions⟩ (.act who (.call stored) :: .act who (.complete outcome) :: trace)
      later := by
  subst hstage hafter
  have hlt : who < consumptions.length := (List.getElem?_eq_some_iff.1 hwho).1
  refine .cons (.act hwho (.call hactive)) (.cons (.act (List.getElem?_set_self hlt)
    (.complete outcome)) ?_)
  rw [List.set_set]
  exact hrun

/-- Trying the rules of a list is what a consumption does that nothing interferes
with. -/
theorem run_attempt {σ : Type} (call : OrchestrationRule → StateM σ (Except Error α))
    (definition : String) (taken list : List StoredRule) (rules : RuleStore)
    (consumptions : List (Consumption α)) (world : σ)
    (hwho : consumptions[who]? = some ⟨definition, taken, .choosing list⟩) :
    ∃ attempts trace result after last,
      (RuleStore.attempt call definition list rules).run world = ((result, after), last) ∧
        Calls call world attempts last ∧ Performs who attempts trace ∧
        Run ⟨rules, consumptions⟩ trace
          ⟨after, consumptions.set who ⟨definition, taken, .returned result⟩⟩ := by
  have hlt : who < consumptions.length := (List.getElem?_eq_some_iff.1 hwho).1
  -- After every passed rule and every failed call the consumption stands before the
  -- rest of its list, with the other consumptions as they were.
  induction list generalizing rules consumptions world with
  | nil =>
      refine ⟨[], [.act who .giveUp], _, rules, world, rfl, .done world, .exhausted, ?_⟩
      exact .cons (.act hwho .giveUp) (.nil _)
  | cons stored rest ih =>
      by_cases hactive : rules.isActive stored = true
      · obtain ⟨⟨outcome, between⟩, hcall⟩ : ∃ answer, (call stored.rule).run world = answer :=
          ⟨_, rfl⟩
        by_cases hfailed : (Attempt.mk stored outcome).Failed
        · obtain ⟨detail, rfl⟩ := hfailed
          obtain ⟨attempts, trace, result, after, last, hrun, hcalls, hperforms, hsteps⟩ :=
            ih (rules.deactivate stored)
              (consumptions.set who ⟨definition, taken, .choosing rest⟩) between
              (List.getElem?_set_self hlt) (by rwa [List.length_set])
          refine ⟨_, _, result, after, last, ?_, .next hcall hcalls,
            .failed ⟨detail, rfl⟩ hperforms, .call hwho hactive _ rfl rfl ?_⟩
          · rw [RuleStore.run_attempt_of_failed hactive rest hcall, hrun]
          · rw [List.set_set] at hsteps
            exact hsteps
        · have hsettle := RuleStore.settle_of_settled rules hfailed
          refine ⟨_, _, outcome, rules, between, ?_, .next hcall (.done between),
            .settled hfailed, ?_⟩
          · exact RuleStore.run_attempt_of_settled hactive rest hcall hfailed
          · refine .call hwho hactive outcome ?_ ?_ (.nil _)
            · rw [hsettle]
              rfl
            · rw [hsettle]
      · obtain ⟨attempts, trace, result, after, last, hrun, hcalls, hperforms, hsteps⟩ :=
          ih rules (consumptions.set who ⟨definition, taken, .choosing rest⟩) world
            (List.getElem?_set_self hlt) (by rwa [List.length_set])
        refine ⟨attempts, _, result, after, last, ?_, hcalls, hperforms.pass, ?_⟩
        · rw [RuleStore.run_attempt_of_inactive hactive, hrun]
        · rw [List.set_set] at hsteps
          exact .cons (.act hwho (.pass hactive)) hsteps

end Resolver

end LocalCloud
