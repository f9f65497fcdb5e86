import LocalCloud.Orchestration.Store
import Mathlib.Tactic.Common

/-!
# Numbers of stored rules

A rule keeps its number for as long as anyone holds a list with it, and a number
is given to one rule only.  That is what lets a deactivation reach a rule through
every list that holds it, and no other rule.
-/

namespace LocalCloud

/-- Numbers below `next` identify the rules that are held, together with the
definition they are held for. -/
structure Unambiguous (next : Nat) (holds : String → StoredRule → Prop) : Prop where
  issued : ∀ {definition : String} {stored : StoredRule}, holds definition stored →
    stored.number < next
  unique : ∀ {left right : String} {first second : StoredRule}, holds left first →
    holds right second → first.number = second.number → left = right ∧ first = second

namespace Unambiguous

variable {next : Nat} {holds holds' : String → StoredRule → Prop}

theorem mono (h : Unambiguous next holds)
    (hsubset : ∀ definition stored, holds' definition stored → holds definition stored) :
    Unambiguous next holds' where
  issued hheld := h.issued (hsubset _ _ hheld)
  unique hfirst hsecond heq := h.unique (hsubset _ _ hfirst) (hsubset _ _ hsecond) heq

/-- Rules that enter with the next numbers are told apart from each other and from
all earlier ones. -/
theorem extend (h : Unambiguous next holds) (entered : String) (rules : List OrchestrationRule)
    (hsubset : ∀ definition stored, holds' definition stored →
      holds definition stored ∨
        definition = entered ∧ stored ∈ RuleStore.number next rules) :
    Unambiguous (next + rules.length) holds' where
  issued hheld := by
    rcases hsubset _ _ hheld with hold | ⟨-, hnew⟩
    · exact Nat.lt_of_lt_of_le (h.issued hold) (Nat.le_add_right _ _)
    · exact (RuleStore.number_bounds _ _ hnew).2
  unique hfirst hsecond heq := by
    rcases hsubset _ _ hfirst with hfirst | ⟨hleft, hfirst⟩ <;>
      rcases hsubset _ _ hsecond with hsecond | ⟨hright, hsecond⟩
    · exact h.unique hfirst hsecond heq
    · have hold := h.issued hfirst
      have hnew := (RuleStore.number_bounds _ _ hsecond).1
      omega
    · have hold := h.issued hsecond
      have hnew := (RuleStore.number_bounds _ _ hfirst).1
      omega
    · refine ⟨hleft.trans hright.symm, ?_⟩
      exact RuleStore.eq_of_number_eq (RuleStore.number_ascending rules next) hfirst hsecond heq

end Unambiguous

namespace RuleStore

theorem length_number (first : Nat) (rules : List OrchestrationRule) :
    (number first rules).length = rules.length := by
  induction rules generalizing first with
  | nil => rfl
  | cons rule rest ih => rw [number, List.length_cons, List.length_cons, ih]

/-- Numbering keeps the rules and their order. -/
theorem map_rule_number (first : Nat) (rules : List OrchestrationRule) :
    (number first rules).map (·.rule) = rules := by
  induction rules generalizing first with
  | nil => rfl
  | cons rule rest ih => rw [number, List.map_cons, ih]

theorem rule_mem_of_mem_number {first : Nat} {rules : List OrchestrationRule}
    {stored : StoredRule} (h : stored ∈ number first rules) : stored.rule ∈ rules := by
  induction rules generalizing first with
  | nil => exact absurd h List.not_mem_nil
  | cons rule rest ih =>
    rcases List.mem_cons.1 h with rfl | hrest
    · exact List.mem_cons_self
    · exact List.mem_cons_of_mem _ (ih hrest)

/-- The lists of a store are in the order of their numbers, and its numbers are
unambiguous. -/
structure WellNumbered (store : RuleStore) : Prop where
  ascending : ∀ definition,
    (store.list definition).Pairwise fun left right => left.number < right.number
  unambiguous : Unambiguous store.next fun definition stored => stored ∈ store.list definition
  retired : ∀ number ∈ store.retired, number < store.next

/-- A number that the store has not given to any rule. -/
structure IsFresh (store : RuleStore) (number : Nat) : Prop where
  unlisted : ∀ definition, ∀ stored ∈ store.list definition, stored.number ≠ number
  unretired : number ∉ store.retired

/-- The stores that arise from the empty one.  A deactivation may concern any rule
that ever had a number, also one of a list that has been replaced. -/
inductive Reachable : RuleStore → Prop where
  | empty : Reachable .empty
  | insert {store : RuleStore} (rule : OrchestrationRule) (h : Reachable store) :
      Reachable (store.insert rule)
  | replace {store : RuleStore} (definition : String) (rules : List OrchestrationRule)
      (h : Reachable store) : Reachable (store.replace definition rules)
  | erase {store : RuleStore} (definition : String) (h : Reachable store) :
      Reachable (store.erase definition)
  | deactivate {store : RuleStore} {stored : StoredRule} (hissued : stored.number < store.next)
      (h : Reachable store) : Reachable (store.deactivate stored)

namespace WellNumbered

variable {store : RuleStore}

theorem empty : RuleStore.empty.WellNumbered where
  ascending := by simp
  unambiguous := ⟨by simp, by simp⟩
  retired := by simp [RuleStore.empty]

/-- The next numbers are fresh. -/
theorem isFresh_number (h : store.WellNumbered) {rules : List OrchestrationRule}
    {stored : StoredRule} (hstored : stored ∈ number store.next rules) :
    store.IsFresh stored.number := by
  have hnew := (number_bounds _ _ hstored).1
  constructor
  · intro definition old hold
    have hissued := h.unambiguous.issued hold
    omega
  · intro hretired
    have hissued := h.retired _ hretired
    omega

theorem insert (h : store.WellNumbered) (rule : OrchestrationRule) :
    (store.insert rule).WellNumbered where
  ascending definition := by
    rw [list_insert]
    split
    · refine List.pairwise_append.2 ⟨h.ascending definition, List.pairwise_singleton _ _, ?_⟩
      intro left hleft right hright
      rw [List.mem_singleton.1 hright]
      exact h.unambiguous.issued hleft
    · exact h.ascending definition
  unambiguous := by
    apply h.unambiguous.extend rule.service.definition [rule]
    intro definition stored hstored
    exact mem_list_insert store definition rule stored hstored
  retired number hnumber := Nat.lt_succ_of_lt (h.retired number hnumber)

theorem replace (h : store.WellNumbered) (definition : String) (rules : List OrchestrationRule) :
    (store.replace definition rules).WellNumbered where
  ascending other := by
    rw [list_replace]
    split
    · exact number_ascending rules store.next
    · exact h.ascending other
  unambiguous := by
    apply h.unambiguous.extend definition rules
    intro other stored hstored
    exact mem_list_replace store definition other rules stored hstored
  retired number hnumber := Nat.lt_of_lt_of_le (h.retired number hnumber) (Nat.le_add_right _ _)

theorem erase (h : store.WellNumbered) (definition : String) :
    (store.erase definition).WellNumbered where
  ascending other := by
    rw [list_erase]
    split
    · exact List.Pairwise.nil
    · exact h.ascending other
  unambiguous := by
    apply h.unambiguous.mono
    intro other stored hstored
    exact mem_list_erase store definition other stored hstored
  retired := h.retired

theorem deactivate (h : store.WellNumbered) {stored : StoredRule}
    (hissued : stored.number < store.next) : (store.deactivate stored).WellNumbered where
  ascending := h.ascending
  unambiguous := h.unambiguous
  retired number hnumber := by
    rcases List.mem_cons.1 hnumber with rfl | hold
    · exact hissued
    · exact h.retired number hold

end WellNumbered

theorem Reachable.wellNumbered {store : RuleStore} (h : store.Reachable) : store.WellNumbered := by
  induction h with
  | empty => exact WellNumbered.empty
  | insert rule _ ih => exact ih.insert rule
  | replace definition rules _ ih => exact ih.replace definition rules
  | erase definition _ ih => exact ih.erase definition
  | deactivate hissued _ ih => exact ih.deactivate hissued

end RuleStore

end LocalCloud
