import LocalCloud.Client.Operations
import LocalCloud.Proofs.Orchestration.Numbering
import Mathlib.Tactic.Common

/-!
# Failover

A consumption tries the active rules of its definition one after another.  What
it tried is kept as a list of attempts, and everything else about it is read off
that list: the result, and which rules are inactive afterwards.

The outside world is a state that every call reads and changes, so the outcomes
are arbitrary, and the world may well hold a record of the calls.
-/

namespace LocalCloud

variable {σ α : Type}

/-- A call through a stored rule and what came of it. -/
structure Attempt (α : Type) where
  stored : StoredRule
  outcome : Except Error α

/-- The call failed before an answer arrived. -/
def Attempt.Failed (attempt : Attempt α) : Prop :=
  ∃ detail, attempt.outcome = .error (.transport detail)

/-- The attempts as calls made in this order, each in the world that the one
before left behind. -/
inductive Calls (call : OrchestrationRule → StateM σ (Except Error α)) :
    σ → List (Attempt α) → σ → Prop where
  | done (world : σ) : Calls call world [] world
  | next {world between last : σ} {stored : StoredRule} {outcome : Except Error α}
      {rest : List (Attempt α)} (hcall : (call stored.rule).run world = (outcome, between))
      (hrest : Calls call between rest last) :
      Calls call world (⟨stored, outcome⟩ :: rest) last

/-- What the attempts of a consumption are when it has the rules `list` before it,
and how they determine its result and the store it leaves. -/
structure FailsOver (store : RuleStore) (definition : String) (list : List StoredRule)
    (attempts : List (Attempt α)) (result : Except Error α) (after : RuleStore) : Prop where
  /-- The active rules are tried in order and none is passed over. -/
  tried : attempts.map (·.stored) <+: list.filter store.isActive
  /-- Either all attempts but the last fail and the last one decides, or every
  active rule has failed. -/
  settled :
    (∃ earlier last, attempts = earlier ++ [last] ∧ (∀ attempt ∈ earlier, attempt.Failed) ∧
        ¬ last.Failed ∧ result = last.outcome) ∨
      (∀ attempt ∈ attempts, attempt.Failed) ∧
        attempts.map (·.stored) = list.filter store.isActive ∧
        result = .error (.noAvailableServices definition)
  lists : after.lists = store.lists
  next : after.next = store.next
  /-- Exactly the failed rules have become inactive. -/
  active : ∀ stored, after.isActive stored = true ↔ store.isActive stored = true ∧
    ∀ attempt ∈ attempts, attempt.Failed → attempt.stored.number ≠ stored.number
  reachable : store.Reachable → (∀ stored ∈ list, stored.number < store.next) → after.Reachable

namespace RuleStore

variable {store : RuleStore} {definition : String} {stored : StoredRule}
variable {call : OrchestrationRule → StateM σ (Except Error α)}

theorem current_eq_of_isActive (hactive : store.isActive stored = true) :
    store.current stored = stored.rule := by
  have hrule : stored.rule.active = true := by
    rw [isActive, Bool.and_eq_true] at hactive
    exact hactive.1
  rw [current, hactive, ← hrule]

theorem run_attempt_of_inactive (hactive : ¬ store.isActive stored = true)
    (rest : List StoredRule) (world : σ) :
    (attempt call definition (stored :: rest) store).run world =
      (attempt call definition rest store).run world := by
  rw [attempt, if_neg hactive]

theorem settle_of_transport (store : RuleStore) (stored : StoredRule) (detail : String) :
    store.settle stored (.error (.transport detail) : Except Error α) =
      (none, store.deactivate stored) := rfl

theorem settle_of_settled (store : RuleStore) {outcome : Except Error α}
    (hsettled : ¬ (Attempt.mk stored outcome).Failed) :
    store.settle stored outcome = (some outcome, store) := by
  cases outcome with
  | ok value => rfl
  | error failure =>
      cases failure with
      | transport detail => exact absurd ⟨detail, rfl⟩ hsettled
      | _ => rfl

theorem run_attempt_of_failed (hactive : store.isActive stored = true) (rest : List StoredRule)
    {world between : σ} {detail : String}
    (hcall : (call stored.rule).run world = (.error (.transport detail), between)) :
    (attempt call definition (stored :: rest) store).run world =
      (attempt call definition rest (store.deactivate stored)).run between := by
  rw [attempt, if_pos hactive, current_eq_of_isActive hactive, StateT.run_bind, hcall]
  rfl

theorem run_attempt_of_settled (hactive : store.isActive stored = true) (rest : List StoredRule)
    {world between : σ} {outcome : Except Error α}
    (hcall : (call stored.rule).run world = (outcome, between))
    (hsettled : ¬ (Attempt.mk stored outcome).Failed) :
    (attempt call definition (stored :: rest) store).run world = ((outcome, store), between) := by
  rw [attempt, if_pos hactive, current_eq_of_isActive hactive, StateT.run_bind, hcall]
  cases outcome with
  | ok value => rfl
  | error failure =>
      cases failure with
      | transport detail => exact absurd ⟨detail, rfl⟩ hsettled
      | _ => rfl

/-- Deactivating one rule does not change which rules of a list are active if the
list does not hold that rule. -/
theorem filter_isActive_deactivate {rest : List StoredRule}
    (hdistinct : ∀ other ∈ rest, stored.number < other.number) :
    rest.filter (store.deactivate stored).isActive = rest.filter store.isActive := by
  apply List.filter_congr
  intro other hother
  have hne : other.number ≠ stored.number := Nat.ne_of_gt (hdistinct other hother)
  rw [isActive_deactivate, bne_iff_ne.2 hne, Bool.and_true]

end RuleStore

namespace FailsOver

variable {store after : RuleStore} {definition : String} {list rest : List StoredRule}
variable {stored : StoredRule} {attempts : List (Attempt α)} {result : Except Error α}

theorem exhausted : FailsOver store definition [] ([] : List (Attempt α))
    (.error (.noAvailableServices definition)) store where
  tried := List.nil_prefix
  settled := by
    refine .inr ⟨?_, rfl, rfl⟩
    intro attempt hattempt
    cases hattempt
  lists := rfl
  next := rfl
  active := by simp
  reachable hstore _ := hstore

/-- An inactive rule is passed over. -/
theorem skip (hactive : ¬ store.isActive stored = true)
    (h : FailsOver store definition rest attempts result after) :
    FailsOver store definition (stored :: rest) attempts result after where
  tried := by
    rw [List.filter_cons_of_neg hactive]
    exact h.tried
  settled := by
    rw [List.filter_cons_of_neg hactive]
    exact h.settled
  lists := h.lists
  next := h.next
  active := h.active
  reachable hstore hissued := h.reachable hstore (List.forall_mem_cons.1 hissued).2

/-- A result that is no transport failure ends the consumption. -/
theorem settle (hactive : store.isActive stored = true) (rest : List StoredRule)
    {outcome : Except Error α} (hsettled : ¬ (Attempt.mk stored outcome).Failed) :
    FailsOver store definition (stored :: rest) [⟨stored, outcome⟩] outcome store where
  tried := by
    rw [List.filter_cons_of_pos hactive]
    exact List.prefix_cons_inj stored |>.2 List.nil_prefix
  settled := by
    refine .inl ⟨[], ⟨stored, outcome⟩, rfl, ?_, hsettled, rfl⟩
    intro attempt hattempt
    cases hattempt
  lists := rfl
  next := rfl
  active other := by
    refine ⟨fun hother => ⟨hother, ?_⟩, And.left⟩
    intro attempt hattempt hfailed
    rw [List.mem_singleton.1 hattempt] at hfailed
    exact absurd hfailed hsettled
  reachable hstore _ := hstore

/-- A transport failure deactivates the rule, and the rest is tried without it. -/
theorem fail (hactive : store.isActive stored = true)
    (hdistinct : ∀ other ∈ rest, stored.number < other.number) {outcome : Except Error α}
    (hfailed : (Attempt.mk stored outcome).Failed)
    (h : FailsOver (store.deactivate stored) definition rest attempts result after) :
    FailsOver store definition (stored :: rest) (⟨stored, outcome⟩ :: attempts) result after where
  tried := by
    rw [List.filter_cons_of_pos hactive, List.map_cons]
    refine (List.prefix_cons_inj stored).2 ?_
    rw [← RuleStore.filter_isActive_deactivate hdistinct]
    exact h.tried
  settled := by
    rw [List.filter_cons_of_pos hactive, ← RuleStore.filter_isActive_deactivate hdistinct]
    rcases h.settled with ⟨earlier, last, hattempts, hearlier, hlast, hresult⟩ |
      ⟨hall, hmap, hresult⟩
    · refine .inl ⟨⟨stored, outcome⟩ :: earlier, last, ?_, ?_, hlast, hresult⟩
      · rw [hattempts, List.cons_append]
      · exact List.forall_mem_cons.2 ⟨hfailed, hearlier⟩
    · refine .inr ⟨List.forall_mem_cons.2 ⟨hfailed, hall⟩, ?_, hresult⟩
      rw [List.map_cons, hmap]
  lists := h.lists
  next := h.next
  active other := by
    rw [h.active other, RuleStore.isActive_deactivate, Bool.and_eq_true, bne_iff_ne,
      List.forall_mem_cons]
    constructor
    · rintro ⟨⟨hother, hne⟩, hrest⟩
      exact ⟨hother, fun _ => hne.symm, hrest⟩
    · rintro ⟨hother, hne, hrest⟩
      exact ⟨⟨hother, (hne hfailed).symm⟩, hrest⟩
  reachable hstore hissued := by
    have hboth := List.forall_mem_cons.1 hissued
    exact h.reachable (.deactivate hboth.1 hstore) hboth.2

theorem distinct (hascending : list.Pairwise fun left right => left.number < right.number)
    (h : FailsOver store definition list attempts result after) :
    attempts.Pairwise fun earlier later => earlier.stored.number < later.stored.number := by
  have hfilter := (hascending.filter store.isActive).sublist h.tried.sublist
  rwa [List.pairwise_map] at hfilter

theorem mem_list (h : FailsOver store definition list attempts result after)
    {attempt : Attempt α} (hattempt : attempt ∈ attempts) : attempt.stored ∈ list := by
  have hstored := h.tried.subset (List.mem_map_of_mem hattempt)
  exact (List.mem_filter.1 hstored).1

end FailsOver

namespace RuleStore

/-- Trying the rules of a list is failing over. -/
theorem attempt_failsOver (call : OrchestrationRule → StateM σ (Except Error α))
    (definition : String) {list : List StoredRule}
    (hascending : list.Pairwise fun left right => left.number < right.number) (store : RuleStore)
    (world : σ) : ∃ attempts result after last,
      (attempt call definition list store).run world = ((result, after), last) ∧
        Calls call world attempts last ∧
        FailsOver store definition list attempts result after := by
  -- The store and the world change from one rule to the next, the rest of the list
  -- does not: a deactivation concerns a number that is not in the rest.
  induction hascending generalizing store world with
  | nil => exact ⟨[], _, store, world, rfl, .done world, .exhausted⟩
  | @cons stored rest hdistinct _ ih =>
      by_cases hactive : store.isActive stored = true
      · obtain ⟨⟨outcome, between⟩, hcall⟩ : ∃ answer, (call stored.rule).run world = answer :=
          ⟨_, rfl⟩
        by_cases hfailed : (Attempt.mk stored outcome).Failed
        · obtain ⟨attempts, result, after, last, hrun, hcalls, hfails⟩ :=
            ih (store.deactivate stored) between
          refine ⟨⟨stored, outcome⟩ :: attempts, result, after, last, ?_, .next hcall hcalls,
            hfails.fail hactive hdistinct hfailed⟩
          obtain ⟨detail, houtcome⟩ := hfailed
          rw [run_attempt_of_failed hactive rest (hcall.trans (by rw [← houtcome])), hrun]
        · refine ⟨[⟨stored, outcome⟩], outcome, store, between, ?_, .next hcall (.done between),
            .settle hactive rest hfailed⟩
          exact run_attempt_of_settled hactive rest hcall hfailed
      · obtain ⟨attempts, result, after, last, hrun, hcalls, hfails⟩ := ih store world
        refine ⟨attempts, result, after, last, ?_, hcalls, hfails.skip hactive⟩
        rw [run_attempt_of_inactive hactive, hrun]

end RuleStore

namespace Client

variable {C H E : Type} {network : Network (StateM σ) C} {client middle after : Client C H E}
variable {definition : String} {request : ConsumeRequest} {world between last : σ}
variable {attempts rest : List (Attempt Reply)} {reply : Except Error Reply}

/-- A consumption, with the attempts it is made of.  Every attempt is a call with
the request itself. -/
structure Consumed (network : Network (StateM σ) C) (client : Client C H E) (definition : String)
    (request : ConsumeRequest) (world : σ) (attempts : List (Attempt Reply))
    (reply : Except Error Reply) (after : Client C H E) (last : σ) : Prop where
  run : (client.consume network definition request).run world = ((reply, after), last)
  calls : Calls (fun rule => client.call network rule request) world attempts last
  failsOver : FailsOver client.rules definition (client.rules.list definition) attempts reply
    after.rules
  others : after = { client with rules := after.rules }

theorem consume_consumed (network : Network (StateM σ) C) (client : Client C H E)
    (hclient : client.rules.WellNumbered) (definition : String) (request : ConsumeRequest)
    (world : σ) : ∃ attempts reply after last,
      Consumed network client definition request world attempts reply after last := by
  obtain ⟨attempts, reply, rules, last, hrun, hcalls, hfails⟩ :=
    RuleStore.attempt_failsOver (fun rule => client.call network rule request) definition
      (hclient.ascending definition) client.rules world
  refine ⟨attempts, reply, { client with rules := rules }, last, ?_, hcalls, hfails, rfl⟩
  rw [consume, RuleStore.resolve, StateT.run_bind, hrun]
  rfl

theorem Consumed.isActive_iff (hclient : client.rules.WellNumbered)
    (h : Consumed network client definition request world attempts reply after last)
    {other : String} {stored : StoredRule} (hstored : stored ∈ client.rules.list other) :
    after.rules.isActive stored = true ↔ client.rules.isActive stored = true ∧
      ∀ attempt ∈ attempts, attempt.Failed → attempt.stored ≠ stored := by
  rw [h.failsOver.active stored]
  apply and_congr_right
  intro _
  apply forall₂_congr
  intro attempt hattempt
  apply imp_congr_right
  intro _
  apply not_congr
  constructor
  · intro hnumber
    have hlisted := h.failsOver.mem_list hattempt
    exact (hclient.unambiguous.unique hlisted hstored hnumber).2
  · intro heq
    rw [heq]

namespace Consumptions

end Consumptions

end Client

end LocalCloud
