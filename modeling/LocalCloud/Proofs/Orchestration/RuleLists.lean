import LocalCloud.Proofs.Dict.Spelling
import LocalCloud.Proofs.Orchestration.Failover
import Mathlib.Data.Set.Card
import Mathlib.Logic.Function.Basic

/-!
# The rule store as lists

To its users the store is a function from definitions to lists of rules, most of them
empty.  What the store holds beside that cannot be seen: the numbers of the rules, the
rules that were deactivated and replaced since, and which empty lists it keeps.  Every use
of the store is one of the lists, so stores with the same lists stay alike whatever is done
with them.
-/

namespace LocalCloud

/-- The rules of every definition, in the order they were found. -/
abbrev RuleLists := String → List OrchestrationRule

/-- A change of what is stored. -/
inductive RuleChange where
  | insert (rule : OrchestrationRule)
  | replace (definition : String) (rules : List OrchestrationRule)
  | remove (definition : String)

namespace RuleChange

def definition : RuleChange → String
  | insert rule => rule.service.definition
  | replace definition _ => definition
  | remove definition => definition

/-- What becomes of the list of the definition. -/
def apply (list : List OrchestrationRule) : RuleChange → List OrchestrationRule
  | insert rule => list ++ [rule]
  | replace _ rules => rules
  | remove _ => []

def onLists (lists : RuleLists) (change : RuleChange) : RuleLists :=
  Function.update lists change.definition (change.apply (lists change.definition))

def onStore (store : RuleStore) : RuleChange → RuleStore
  | insert rule => store.insert rule
  | replace definition rules => store.replace definition rules
  | remove definition => store.erase definition

end RuleChange

section Uses

variable {σ α S : Type}

/-- Calls through the active rules of a list in order until one settles the result.  The
rules that failed are inactive in the list that is left. -/
def tryRules (call : OrchestrationRule → StateM σ (Except Error α)) (definition : String) :
    List OrchestrationRule → StateM σ (Except Error α × List OrchestrationRule)
  | [] => pure (.error (.noAvailableServices definition), [])
  | rule :: rest =>
    if rule.active then do
      match ← call rule with
      | .error (.transport _) =>
        let (result, rest) ← tryRules call definition rest
        return (result, rule.deactivate :: rest)
      | outcome => return (outcome, rule :: rest)
    else do
      let (result, rest) ← tryRules call definition rest
      return (result, rule :: rest)

/-- A use of the rules: a change, the deactivation of a rule that was looked up, or a
resolution by calls that depend on the world and change it. -/
inductive RuleUse (σ α : Type) where
  | change (made : RuleChange)
  | deactivate (definition : String) (position : Nat)
  | resolve (definition : String) (call : OrchestrationRule → StateM σ (Except Error α))

namespace RuleUse

def onLists (lists : RuleLists) : RuleUse σ α → StateM σ (Option (Except Error α) × RuleLists)
  | change made => pure (none, made.onLists lists)
  | deactivate definition position =>
    let list := (lists definition).modify position OrchestrationRule.deactivate
    pure (none, Function.update lists definition list)
  | resolve definition call => do
    let (result, list) ← tryRules call definition (lists definition)
    return (some result, Function.update lists definition list)

def onStore (store : RuleStore) : RuleUse σ α → StateM σ (Option (Except Error α) × RuleStore)
  | change made => pure (none, made.onStore store)
  | deactivate definition position =>
    pure (none, (store.list definition)[position]?.elim store store.deactivate)
  | resolve definition call => do
    let (result, store) ← store.resolve definition call
    return (some result, store)

/-- Uses one after the other, with the results of the resolutions among them. -/
def runAll (step : S → RuleUse σ α → StateM σ (Option (Except Error α) × S)) :
    List (RuleUse σ α) → S → StateM σ (List (Option (Except Error α)) × S)
  | [], state => pure ([], state)
  | use :: rest, state => do
    let (result, state) ← step state use
    let (results, state) ← runAll step rest state
    return (result :: results, state)

end RuleUse

end Uses

/-- What can be looked up. -/
structure Lookups where
  get : String → Option (List OrchestrationRule)
  contains : String → Bool
  definitions : List String
  snapshot : List (String × List OrchestrationRule)
  size : Nat
  isEmpty : Bool

/-- Everything that can be looked up is about the definitions with rules. -/
structure Lookups.Agree (lookups : Lookups) (lists : RuleLists) : Prop where
  get : ∀ definition,
    lookups.get definition = if lists definition = [] then none else some (lists definition)
  contains : ∀ definition, lookups.contains definition = true ↔ lists definition ≠ []
  mem_definitions : ∀ definition, definition ∈ lookups.definitions ↔ lists definition ≠ []
  ascending : lookups.definitions.Pairwise (· < ·)
  snapshot : lookups.snapshot =
    lookups.definitions.map fun definition => (definition, lists definition)
  size : lookups.size = {definition | lists definition ≠ []}.ncard
  isEmpty : lookups.isEmpty = true ↔ ∀ definition, lists definition = []

/-- The lists determine what is looked up. -/
theorem Lookups.Agree.unique {first second : Lookups} {lists : RuleLists} (h : first.Agree lists)
    (h' : second.Agree lists) : first = second := by
  have hget : first.get = second.get := by
    funext definition
    rw [h.get, h'.get]
  have hcontains : first.contains = second.contains := by
    funext definition
    rw [Bool.eq_iff_iff, h.contains, h'.contains]
  have hdefinitions : first.definitions = second.definitions := by
    apply h.ascending.eq_of_mem_iff h'.ascending
    intro definition
    rw [h.mem_definitions, h'.mem_definitions]
  have hsnapshot : first.snapshot = second.snapshot := by
    rw [h.snapshot, h'.snapshot, hdefinitions]
  have hsize : first.size = second.size := by
    rw [h.size, h'.size]
  have hempty : first.isEmpty = second.isEmpty := by
    rw [Bool.eq_iff_iff, h.isEmpty, h'.isEmpty]
  cases first
  cases second
  simp only [Lookups.mk.injEq]
  exact ⟨hget, hcontains, hdefinitions, hsnapshot, hsize, hempty⟩

namespace RuleStore

/-- The rules of every definition as they are now. -/
def view (store : RuleStore) : RuleLists :=
  fun definition => (store.list definition).map store.current

def lookups (store : RuleStore) : Lookups where
  get definition := (store.get? definition).map fun list => list.map store.current
  contains := store.contains
  definitions := store.definitions
  snapshot := store.snapshot.map fun entry => (entry.1, entry.2.map store.current)
  size := store.size
  isEmpty := store.isEmpty

section Lookup

variable (store : RuleStore) {definition : String} {entry : String × List StoredRule}

theorem view_eq_nil_iff : store.view definition = [] ↔ store.list definition = [] :=
  List.map_eq_nil_iff

theorem get?_eq : store.get? definition =
    if store.list definition = [] then none else some (store.list definition) := by
  rw [get?, list]
  cases store.lists.get? definition with
  | none => rfl
  | some list => cases list <;> rfl

theorem mem_snapshot_iff : entry ∈ store.snapshot ↔ store.get? entry.1 = some entry.2 := by
  rw [snapshot, List.mem_filter, get?, Option.filter_eq_some_iff, Dict.get?_eq_some_iff]

theorem mem_definitions_iff : definition ∈ store.definitions ↔ store.list definition ≠ [] := by
  rw [definitions, List.mem_map]
  constructor
  · rintro ⟨entry, hentry, rfl⟩ hnil
    rw [mem_snapshot_iff, get?_eq, if_pos hnil] at hentry
    cases hentry
  · intro hlist
    refine ⟨(definition, store.list definition), ?_, rfl⟩
    rw [mem_snapshot_iff, get?_eq, if_neg hlist]

theorem definitions_ascending : store.definitions.Pairwise (· < ·) :=
  List.pairwise_map.2 (store.lists.ascending.filter _)

theorem definitions_nodup : store.definitions.Nodup := by
  apply store.definitions_ascending.imp
  rintro definition _ hlt rfl
  exact String.lt_irrefl definition hlt

/-- What is looked up is about the lists. -/
theorem agree_view : store.lookups.Agree store.view where
  get := by
    intro definition
    simp only [lookups, get?_eq, view_eq_nil_iff]
    split
    · rfl
    · rfl
  contains := by
    intro definition
    simp only [lookups, contains, get?_eq, ne_eq, view_eq_nil_iff]
    split
    next h => exact iff_of_false nofun fun hne => hne h
    next h => exact iff_of_true rfl h
  mem_definitions := by
    intro definition
    rw [ne_eq, view_eq_nil_iff]
    exact store.mem_definitions_iff
  ascending := store.definitions_ascending
  snapshot := by
    simp only [lookups, definitions, List.map_map]
    apply List.map_congr_left
    intro entry hentry
    rw [mem_snapshot_iff, get?_eq] at hentry
    split at hentry
    · cases hentry
    · rw [← Option.some.inj hentry]
      rfl
  size := by
    have hset : {definition | store.view definition ≠ []} = ↑store.definitions.toFinset := by
      ext definition
      rw [List.coe_toFinset, Set.mem_ofPred_eq, Set.mem_ofPred_eq, mem_definitions_iff, ne_eq,
        view_eq_nil_iff]
    rw [hset, Set.ncard_coe_finset, List.toFinset_card_of_nodup store.definitions_nodup,
      definitions, List.length_map]
    rfl
  isEmpty := by
    have hsize : store.lookups.isEmpty = true ↔ store.definitions = [] := by
      rw [definitions, List.map_eq_nil_iff, ← List.length_eq_zero_iff]
      exact beq_iff_eq
    rw [hsize, List.eq_nil_iff_forall_not_mem]
    apply forall_congr'
    intro definition
    rw [mem_definitions_iff, not_not, view_eq_nil_iff]

end Lookup

section Changes

variable {store : RuleStore} {definition : String} {stored failed : StoredRule}
  {before rest : List StoredRule}

/-- A rule that enters the store is as it was given. -/
theorem map_current_number (h : store.WellNumbered) (rules : List OrchestrationRule) :
    (number store.next rules).map store.current = rules := by
  calc (number store.next rules).map store.current
      = (number store.next rules).map (·.rule) := by
        apply List.map_congr_left
        intro stored hstored
        have hunretired : store.retired.contains stored.number = false := by
          rw [List.contains_eq_mem, decide_eq_false_iff_not]
          exact (h.isFresh_number hstored).unretired
        rw [current, isActive, hunretired, Bool.not_false, Bool.and_true]
    _ = rules := map_rule_number store.next rules

theorem view_eq_update (store : RuleStore) {after : RuleStore} {list : String → List StoredRule}
    (hlist : ∀ other, after.list other =
      if other = definition then list other else store.list other)
    (hcurrent : after.current = store.current) :
    after.view = Function.update store.view definition
      ((list definition).map store.current) := by
  funext other
  rw [view, hlist, hcurrent, Function.update_apply]
  split
  next h => rw [h]
  next => rfl

/-- A change of the store is one of its lists. -/
theorem view_onStore (h : store.WellNumbered) (change : RuleChange) :
    (change.onStore store).view = change.onLists store.view := by
  cases change with
  | insert rule =>
    have hentered : store.current ⟨store.next, rule⟩ = rule :=
      List.singleton_injective (map_current_number h [rule])
    rw [RuleChange.onStore, store.view_eq_update (fun other => store.list_insert other rule) rfl,
      List.map_append, List.map_singleton, hentered]
    rfl
  | replace definition rules =>
    rw [RuleChange.onStore,
      store.view_eq_update (fun other => store.list_replace definition other rules) rfl,
      map_current_number h]
    rfl
  | remove definition =>
    exact store.view_eq_update (fun other => store.list_erase definition other) rfl

theorem WellNumbered.onStore (h : store.WellNumbered) (change : RuleChange) :
    (change.onStore store).WellNumbered := by
  cases change with
  | insert rule => exact h.insert rule
  | replace definition rules => exact h.replace definition rules
  | remove definition => exact h.erase definition

theorem current_deactivate_self (store : RuleStore) (failed : StoredRule) :
    (store.deactivate failed).current failed = (store.current failed).deactivate := by
  rw [current, isActive_deactivate, bne_self_eq_false, Bool.and_false]
  rfl

theorem map_current_deactivate {list : List StoredRule}
    (h : ∀ stored ∈ list, stored.number ≠ failed.number) :
    list.map (store.deactivate failed).current = list.map store.current := by
  apply List.map_congr_left
  intro stored hstored
  rw [current, current, isActive_deactivate, bne_iff_ne.2 (h stored hstored), Bool.and_true]

/-- The rules around one of a list have other numbers. -/
theorem WellNumbered.number_ne (h : store.WellNumbered)
    (hlist : store.list definition = before ++ failed :: rest) :
    (∀ stored ∈ before, stored.number ≠ failed.number) ∧
      ∀ stored ∈ rest, stored.number ≠ failed.number := by
  have hascending := h.ascending definition
  rw [hlist, List.pairwise_append, List.pairwise_cons] at hascending
  obtain ⟨-, ⟨hrest, -⟩, hbefore⟩ := hascending
  exact ⟨fun stored hstored => Nat.ne_of_lt (hbefore stored hstored failed List.mem_cons_self),
    fun stored hstored => Nat.ne_of_gt (hrest stored hstored)⟩

/-- A deactivation is seen at one place of one list. -/
theorem view_deactivate (h : store.WellNumbered)
    (hlist : store.list definition = before ++ failed :: rest) :
    (store.deactivate failed).view = Function.update store.view definition
      (before.map store.current ++
        (store.current failed).deactivate :: rest.map store.current) := by
  funext other
  by_cases hother : other = definition
  · subst hother
    obtain ⟨hbefore, hrest⟩ := h.number_ne hlist
    rw [Function.update_self, view, list_deactivate, hlist, List.map_append, List.map_cons,
      map_current_deactivate hbefore, map_current_deactivate hrest, current_deactivate_self]
  · have hfailed : failed ∈ store.list definition := by
      rw [hlist]
      exact List.mem_append_right _ List.mem_cons_self
    rw [Function.update_of_ne hother, view, view, list_deactivate]
    apply map_current_deactivate
    intro stored hstored heq
    exact hother (h.unambiguous.unique hstored hfailed heq).1

end Changes

end RuleStore

section Uses

variable {σ α S : Type} {call : OrchestrationRule → StateM σ (Except Error α)}
  {definition : String}

section Trying

variable {rule : OrchestrationRule} {rest left : List OrchestrationRule} {world between last : σ}
  {result outcome : Except Error α}

theorem run_tryRules_of_inactive (hactive : ¬ rule.active = true)
    (hrest : (tryRules call definition rest).run world = ((result, left), last)) :
    (tryRules call definition (rule :: rest)).run world = ((result, rule :: left), last) := by
  rw [tryRules, if_neg hactive, StateT.run_bind, hrest]
  rfl

theorem run_tryRules_of_failed (hactive : rule.active = true) {detail : String}
    (hcall : (call rule).run world = (.error (.transport detail), between))
    (hrest : (tryRules call definition rest).run between = ((result, left), last)) :
    (tryRules call definition (rule :: rest)).run world =
      ((result, rule.deactivate :: left), last) := by
  rw [tryRules, if_pos hactive, StateT.run_bind, hcall]
  change (tryRules call definition rest >>= fun found =>
    pure (found.1, rule.deactivate :: found.2)).run between = _
  rw [StateT.run_bind, hrest]
  rfl

theorem run_tryRules_of_settled (hactive : rule.active = true)
    (hcall : (call rule).run world = (outcome, between))
    (hsettled : ∀ detail, outcome ≠ .error (.transport detail)) :
    (tryRules call definition (rule :: rest)).run world = ((outcome, rule :: rest), between) := by
  rw [tryRules, if_pos hactive, StateT.run_bind, hcall]
  cases outcome with
  | ok value => rfl
  | error failure =>
    cases failure with
    | transport detail => exact absurd rfl (hsettled detail)
    | _ => rfl

end Trying

namespace RuleStore

/-- The rules behind the first ones of a definition are tried, in the store and as they are
seen: both come to the same result, call for call, and leave the same rules. -/
structure Tried (call : OrchestrationRule → StateM σ (Except Error α)) (definition : String)
    (store : RuleStore) (before rest : List StoredRule) (world : σ) (result : Except Error α)
    (after : RuleStore) (left : List OrchestrationRule) (last : σ) : Prop where
  run : (attempt call definition rest store).run world = ((result, after), last)
  tried : (tryRules call definition (rest.map store.current)).run world = ((result, left), last)
  view : after.view = Function.update store.view definition (before.map store.current ++ left)
  wellNumbered : after.WellNumbered

namespace Tried

variable {store after : RuleStore} {stored : StoredRule} {before rest : List StoredRule}
  {left : List OrchestrationRule} {world between last : σ} {result outcome : Except Error α}

theorem exhausted (hstore : store.WellNumbered) (hlist : store.list definition = before) :
    Tried call definition store before [] world (.error (.noAvailableServices definition)) store []
      world where
  run := rfl
  tried := rfl
  view := by
    rw [List.append_nil, ← hlist]
    exact (Function.update_eq_self definition store.view).symm
  wellNumbered := hstore

theorem skip (hactive : ¬ store.isActive stored = true)
    (h : Tried call definition store (before ++ [stored]) rest world result after left last) :
    Tried call definition store before (stored :: rest) world result after
      (store.current stored :: left) last where
  run := by rw [run_attempt_of_inactive hactive, h.run]
  tried := run_tryRules_of_inactive hactive h.tried
  view := by
    rw [h.view, List.map_append, List.append_assoc]
    rfl
  wellNumbered := h.wellNumbered

theorem settle (hstore : store.WellNumbered)
    (hlist : store.list definition = before ++ stored :: rest)
    (hactive : store.isActive stored = true)
    (hcall : (call stored.rule).run world = (outcome, between))
    (hsettled : ¬ (Attempt.mk stored outcome).Failed) :
    Tried call definition store before (stored :: rest) world outcome store
      ((stored :: rest).map store.current) between where
  run := run_attempt_of_settled hactive rest hcall hsettled
  tried := by
    rw [← current_eq_of_isActive hactive] at hcall
    exact run_tryRules_of_settled hactive hcall fun detail heq => hsettled ⟨detail, heq⟩
  view := by
    rw [← List.map_append, ← hlist]
    exact (Function.update_eq_self definition store.view).symm
  wellNumbered := hstore

/-- A deactivation concerns one place of the list, and the rest is tried without it. -/
theorem fail (hstore : store.WellNumbered)
    (hlist : store.list definition = before ++ stored :: rest)
    (hactive : store.isActive stored = true) {detail : String}
    (hcall : (call stored.rule).run world = (.error (.transport detail), between))
    (h : Tried call definition (store.deactivate stored) (before ++ [stored]) rest between result
      after left last) :
    Tried call definition store before (stored :: rest) world result after
      ((store.current stored).deactivate :: left) last where
  run := by rw [run_attempt_of_failed hactive rest hcall, h.run]
  tried := by
    obtain ⟨-, hrest⟩ := hstore.number_ne hlist
    have htried := h.tried
    rw [map_current_deactivate hrest] at htried
    rw [← current_eq_of_isActive hactive] at hcall
    exact run_tryRules_of_failed hactive hcall htried
  view := by
    obtain ⟨hbefore, -⟩ := hstore.number_ne hlist
    rw [h.view, view_deactivate hstore hlist, Function.update_idem, List.map_append,
      map_current_deactivate hbefore, List.map_singleton, current_deactivate_self,
      List.append_assoc, List.singleton_append]
  wellNumbered := h.wellNumbered

end Tried

theorem exists_tried (call : OrchestrationRule → StateM σ (Except Error α)) (definition : String)
    (rest : List StoredRule) (store : RuleStore) (before : List StoredRule) (world : σ)
    (hstore : store.WellNumbered) (hlist : store.list definition = before ++ rest) :
    ∃ result after left last,
      Tried call definition store before rest world result after left last := by
  induction rest generalizing store before world with
  | nil =>
    rw [List.append_nil] at hlist
    exact ⟨_, store, [], world, .exhausted hstore hlist⟩
  | cons stored rest ih =>
    have hsplit : store.list definition = (before ++ [stored]) ++ rest := by
      rw [hlist, List.append_cons]
    by_cases hactive : store.isActive stored = true
    · obtain ⟨⟨outcome, between⟩, hcall⟩ : ∃ answer, (call stored.rule).run world = answer :=
        ⟨_, rfl⟩
      by_cases hfailed : (Attempt.mk stored outcome).Failed
      · obtain ⟨detail, houtcome⟩ := hfailed
        obtain rfl : outcome = .error (.transport detail) := houtcome
        have hmem : stored ∈ store.list definition := by
          rw [hlist]
          exact List.mem_append_right before List.mem_cons_self
        obtain ⟨result, after, left, last, h⟩ := ih (store.deactivate stored) (before ++ [stored])
          between (hstore.deactivate (hstore.unambiguous.issued hmem)) hsplit
        exact ⟨result, after, _, last, h.fail hstore hlist hactive hcall⟩
      · exact ⟨outcome, store, _, between, .settle hstore hlist hactive hcall hfailed⟩
    · obtain ⟨result, after, left, last, h⟩ := ih store (before ++ [stored]) world hstore hsplit
      exact ⟨result, after, _, last, h.skip hactive⟩

/-- The list around a place, in the store and as it is seen. -/
theorem exists_modify_view {position : Nat} {stored : StoredRule} (store : RuleStore)
    (h : (store.list definition)[position]? = some stored) : ∃ before rest,
      store.list definition = before ++ stored :: rest ∧
        (store.view definition).modify position OrchestrationRule.deactivate =
          before.map store.current ++ (store.current stored).deactivate ::
            rest.map store.current := by
  obtain ⟨hposition, hstored⟩ := List.getElem?_eq_some_iff.1 h
  have hview : position < (store.view definition).length := by
    rw [view, List.length_map]
    exact hposition
  refine ⟨(store.list definition).take position, (store.list definition).drop (position + 1),
    ?_, ?_⟩
  · rw [← hstored, List.getElem_cons_drop, List.take_append_drop]
  · rw [List.modify_eq_take_cons_drop hview, List.map_take, List.map_drop]
    simp only [view, List.getElem_map, hstored]

end RuleStore

namespace RuleUse

/-- A use of the store is a use of its lists, with the same result and effect on the
world. -/
theorem run_onStore (use : RuleUse σ α) (store : RuleStore) (world : σ) (h : store.WellNumbered) :
    ∃ result after last,
      (use.onStore store).run world = ((result, after), last) ∧
        (use.onLists store.view).run world = ((result, after.view), last) ∧
        after.WellNumbered := by
  cases use with
  | change made =>
    refine ⟨none, made.onStore store, world, rfl, ?_, h.onStore made⟩
    rw [store.view_onStore h made]
    rfl
  | deactivate definition position =>
    cases hstored : (store.list definition)[position]? with
    | none =>
      have hlength : (store.view definition).length ≤ position := by
        rw [RuleStore.view, List.length_map]
        exact List.getElem?_eq_none_iff.1 hstored
      refine ⟨none, store, world, ?_, ?_, h⟩
      · rw [onStore, hstored]
        rfl
      · rw [onLists, List.modify_eq_self hlength, Function.update_eq_self]
        rfl
    | some stored =>
      obtain ⟨before, rest, hlist, hmodified⟩ := store.exists_modify_view hstored
      have hissued := h.unambiguous.issued (List.mem_of_getElem? hstored)
      refine ⟨none, store.deactivate stored, world, ?_, ?_, h.deactivate hissued⟩
      · rw [onStore, hstored]
        rfl
      · rw [onLists, hmodified, RuleStore.view_deactivate h hlist]
        rfl
  | resolve definition call =>
    obtain ⟨result, after, left, last, htried⟩ :=
      RuleStore.exists_tried call definition (store.list definition) store [] world h rfl
    refine ⟨some result, after, last, ?_, ?_, htried.wellNumbered⟩
    · rw [onStore, RuleStore.resolve, StateT.run_bind, htried.run]
      rfl
    · rw [onLists, RuleStore.view, StateT.run_bind, htried.tried, htried.view]
      rfl

theorem run_runAll_cons {step : S → RuleUse σ α → StateM σ (Option (Except Error α) × S)}
    {use : RuleUse σ α} {rest : List (RuleUse σ α)} {state middle after : S}
    {world between last : σ} {result : Option (Except Error α)}
    {results : List (Option (Except Error α))}
    (hstep : (step state use).run world = ((result, middle), between))
    (hrest : (runAll step rest middle).run between = ((results, after), last)) :
    (runAll step (use :: rest) state).run world = ((result :: results, after), last) := by
  rw [runAll, StateT.run_bind, hstep]
  change (runAll step rest middle >>= fun found =>
    pure (result :: found.1, found.2)).run between = _
  rw [StateT.run_bind, hrest]
  rfl

theorem run_runAll_onStore (uses : List (RuleUse σ α)) (store : RuleStore) (world : σ)
    (h : store.WellNumbered) : ∃ results after last,
      (runAll onStore uses store).run world = ((results, after), last) ∧
        (runAll onLists uses store.view).run world = ((results, after.view), last) ∧
        after.WellNumbered := by
  induction uses generalizing store world with
  | nil => exact ⟨[], store, world, rfl, rfl, h⟩
  | cons use rest ih =>
    obtain ⟨result, middle, between, hstore, hlists, hmiddle⟩ := use.run_onStore store world h
    obtain ⟨results, after, last, hrest, hrest', hafter⟩ := ih middle between hmiddle
    exact ⟨result :: results, after, last, run_runAll_cons hstore hrest,
      run_runAll_cons hlists hrest', hafter⟩

end RuleUse

namespace RuleStore

/-- What a user sees who goes on with some uses and then looks everything up. -/
def seen (store : RuleStore) (uses : List (RuleUse σ α)) (world : σ) :
    List (Option (Except Error α)) × Lookups × σ :=
  let ((results, after), last) := (RuleUse.runAll RuleUse.onStore uses store).run world
  (results, after.lookups, last)

/-- No later uses tell the stores apart. -/
def Alike (first second : RuleStore) : Prop :=
  ∀ {σ α : Type} (uses : List (RuleUse σ α)) (world : σ),
    first.seen uses world = second.seen uses world

theorem alike_of_view_eq {first second : RuleStore} (hfirst : first.WellNumbered)
    (hsecond : second.WellNumbered) (h : first.view = second.view) : first.Alike second := by
  intro σ α uses world
  obtain ⟨results, after, last, hrun, hlists, -⟩ :=
    RuleUse.run_runAll_onStore uses first world hfirst
  obtain ⟨results', after', last', hrun', hlists', -⟩ :=
    RuleUse.run_runAll_onStore uses second world hsecond
  rw [h, hlists', Prod.mk.injEq, Prod.mk.injEq] at hlists
  obtain ⟨⟨rfl, hview⟩, rfl⟩ := hlists
  have hlookups : after.lookups = after'.lookups := by
    apply after.agree_view.unique
    rw [← hview]
    exact after'.agree_view
  rw [seen, seen, hrun, hrun']
  simp only [hlookups]

end RuleStore

end Uses

section Histories

variable {store : RuleStore}

theorem RuleStore.view_foldl_onStore (h : store.WellNumbered) (changes : List RuleChange) :
    (changes.foldl RuleChange.onStore store).view = changes.foldl RuleChange.onLists store.view ∧
      (changes.foldl RuleChange.onStore store).WellNumbered := by
  induction changes generalizing store with
  | nil => exact ⟨rfl, h⟩
  | cons change changes ih =>
    rw [List.foldl_cons, List.foldl_cons, ← store.view_onStore h change]
    exact ih (h.onStore change)

/-- What was done to a definition does not matter when its list is emptied in the end. -/
theorem RuleChange.update_foldl_onLists (changes : List RuleChange) (definition : String)
    (lists : RuleLists) :
    Function.update (changes.foldl onLists lists) definition [] =
      (changes.filter fun change => change.definition ≠ definition).foldl onLists
        (Function.update lists definition []) := by
  induction changes generalizing lists with
  | nil => rfl
  | cons change changes ih =>
    rw [List.foldl_cons, ih]
    by_cases hchange : change.definition = definition
    · rw [List.filter_cons_of_neg (by simpa using hchange), onLists, hchange,
        Function.update_idem]
    · rw [List.filter_cons_of_pos (by simpa using hchange), List.foldl_cons, onLists, onLists,
        Function.update_of_ne hchange, Function.update_comm hchange]

end Histories

/-- To its users the store is a function to lists, and empty lists do not exist. -/
structure RuleStore.ActsAsLists : Prop where
  /-- Every use of a new store is one of lists that are all empty at first. -/
  agrees : ∀ {σ α : Type} (uses : List (RuleUse σ α)) (world : σ), ∃ results store lists last,
    (RuleUse.runAll RuleUse.onStore uses .empty).run world = ((results, store), last) ∧
      (RuleUse.runAll RuleUse.onLists uses fun _ => []).run world = ((results, lists), last) ∧
      store.lookups.Agree lists
  /-- A definition that was resolved to nothing is one that was removed, -/
  erased : ∀ {σ α : Type} (uses : List (RuleUse σ α)) (world : σ) {results store last},
    (RuleUse.runAll RuleUse.onStore uses .empty).run world = ((results, store), last) →
      ∀ definition, (store.replace definition []).Alike (store.erase definition)
  /-- and one that there never was. -/
  untouched : ∀ (changes : List RuleChange) (definition : String),
    ((changes.foldl RuleChange.onStore .empty).replace definition []).Alike
      ((changes.filter fun change => change.definition ≠ definition).foldl RuleChange.onStore
        .empty)

theorem RuleStore.actsAsLists : ActsAsLists where
  agrees := by
    intro σ α uses world
    obtain ⟨results, store, last, hrun, hlists, -⟩ :=
      RuleUse.run_runAll_onStore uses .empty world .empty
    exact ⟨results, store, store.view, last, hrun, hlists, store.agree_view⟩
  erased := by
    intro σ α uses world results store last hrun definition
    obtain ⟨results', store', last', hrun', -, hstore⟩ :=
      RuleUse.run_runAll_onStore uses .empty world .empty
    obtain ⟨hpair, rfl⟩ := Prod.mk.inj (hrun.symm.trans hrun')
    obtain ⟨rfl, rfl⟩ := Prod.mk.inj hpair
    apply alike_of_view_eq (hstore.replace definition []) (hstore.erase definition)
    exact (store.view_onStore hstore (.replace definition [])).trans
      (store.view_onStore hstore (.remove definition)).symm
  untouched := by
    intro changes definition
    obtain ⟨hview, hstore⟩ := view_foldl_onStore WellNumbered.empty changes
    obtain ⟨hview', hstore'⟩ := view_foldl_onStore WellNumbered.empty
      (changes.filter fun change => change.definition ≠ definition)
    apply alike_of_view_eq (hstore.replace definition []) hstore'
    calc ((changes.foldl RuleChange.onStore .empty).replace definition []).view
        = Function.update (changes.foldl RuleChange.onStore .empty).view definition [] :=
          view_onStore hstore (.replace definition [])
      _ = Function.update (changes.foldl RuleChange.onLists empty.view) definition [] := by
          rw [hview]
      _ = (changes.filter fun change => change.definition ≠ definition).foldl RuleChange.onLists
            (Function.update empty.view definition []) :=
          RuleChange.update_foldl_onLists changes definition empty.view
      _ = _ := by
          have hempty : Function.update empty.view definition [] = empty.view :=
            Function.update_eq_self definition empty.view
          rw [hempty, hview']

/-- Alike, but not the same: the first one keeps an empty list. -/
example : RuleStore.empty.replace "echo" [] ≠ RuleStore.empty.erase "echo" := by
  decide +kernel

end LocalCloud
