import LocalCloud.Orchestration.Rule

/-!
# The store of orchestration rules

Rules by service definition.  Every rule that enters the store receives a number
of its own, so a list taken from the store keeps denoting the same rules after
the definition has been resolved anew.  A deactivation is recorded under the
rule's number and is seen through every list that holds the rule.
-/

namespace LocalCloud

/-- A rule and the number under which the store knows it. -/
structure StoredRule where
  number : Nat
  /-- The rule as it was when it entered the store. -/
  rule : OrchestrationRule
deriving DecidableEq

/-- Rules by definition, in the order they were found. -/
structure RuleStore where
  /-- The current lists; an empty list says the same as none. -/
  lists : Dict (List StoredRule) := ∅
  /-- The number of the next rule. -/
  next : Nat := 0
  /-- The numbers of the rules deactivated since they entered. -/
  retired : List Nat := []
deriving DecidableEq

namespace RuleStore

/-- The store without rules. -/
def empty : RuleStore := {}

instance : Inhabited RuleStore := ⟨empty⟩

/-- Whether a rule is active now. -/
def isActive (store : RuleStore) (stored : StoredRule) : Bool :=
  stored.rule.active && !store.retired.contains stored.number

/-- A rule as it is now. -/
def current (store : RuleStore) (stored : StoredRule) : OrchestrationRule :=
  { stored.rule with active := store.isActive stored }

/-- The list under a definition, which may be empty. -/
def list (store : RuleStore) (definition : String) : List StoredRule :=
  (store.lists.get? definition).getD []

/-- Gives consecutive numbers to rules. -/
def number (first : Nat) : List OrchestrationRule → List StoredRule
  | [] => []
  | rule :: rest => ⟨first, rule⟩ :: number (first + 1) rest

/-- Appends a rule to the list of its definition. -/
def insert (store : RuleStore) (rule : OrchestrationRule) : RuleStore :=
  let definition := rule.service.definition
  { store with
    lists := store.lists.insert definition (store.list definition ++ number store.next [rule])
    next := store.next + 1 }

/-- Puts new rules in the place of those of a definition. -/
def replace (store : RuleStore) (definition : String) (rules : List OrchestrationRule) :
    RuleStore :=
  { store with
    lists := store.lists.insert definition (number store.next rules)
    next := store.next + rules.length }

/-- The rules of a definition, if there are any. -/
def get? (store : RuleStore) (definition : String) : Option (List StoredRule) :=
  (store.lists.get? definition).filter fun list => !list.isEmpty

/-- Whether a definition has rules. -/
def contains (store : RuleStore) (definition : String) : Bool :=
  (store.get? definition).isSome

def erase (store : RuleStore) (definition : String) : RuleStore :=
  { store with lists := store.lists.erase definition }

/-- The definitions that have rules and their lists, in order. -/
def snapshot (store : RuleStore) : List (String × List StoredRule) :=
  store.lists.entries.filter fun entry => !entry.2.isEmpty

/-- The definitions that have rules, in order. -/
def definitions (store : RuleStore) : List String :=
  store.snapshot.map (·.1)

/-- The number of definitions that have rules. -/
def size (store : RuleStore) : Nat :=
  store.snapshot.length

/-- Whether no definition has rules. -/
def isEmpty (store : RuleStore) : Bool :=
  store.size == 0

def deactivate (store : RuleStore) (stored : StoredRule) : RuleStore :=
  { store with retired := stored.number :: store.retired }

section Resolve

variable {m : Type → Type} [Monad m] {α : Type}

/-- What the outcome of a call through a rule means.  A transport failure
deactivates the rule and leaves the result open; any other outcome is the
result. -/
def settle (store : RuleStore) (stored : StoredRule) :
    Except Error α → Option (Except Error α) × RuleStore
  | .ok value => (some (.ok value), store)
  | .error failure =>
    if failure.isTransport then (none, store.deactivate stored)
    else (some (.error failure), store)

/-- Tries the active rules of a list in order until one settles the result. -/
def attempt (call : OrchestrationRule → m (Except Error α)) (definition : String) :
    List StoredRule → RuleStore → m (Except Error α × RuleStore)
  | [], store => pure (.error (.noAvailableServices definition), store)
  | stored :: rest, store =>
    if store.isActive stored then do
      match store.settle stored (← call (store.current stored)) with
      | (some result, store) => pure (result, store)
      | (none, store) => attempt call definition rest store
    else attempt call definition rest store

/-- Tries the active rules of a definition in order until one call has a result
that is not a transport failure. -/
def resolve (store : RuleStore) (definition : String)
    (call : OrchestrationRule → m (Except Error α)) : m (Except Error α × RuleStore) :=
  attempt call definition (store.list definition) store

end Resolve

section Views

variable (store : RuleStore) (definition other : String) (rule : OrchestrationRule)
variable (rules : List OrchestrationRule) (stored : StoredRule)

@[simp]
theorem list_empty : empty.list definition = [] := rfl

theorem list_insert : (store.insert rule).list other =
    if other = rule.service.definition then store.list other ++ [⟨store.next, rule⟩]
    else store.list other := by
  simp only [insert, list, Dict.get?_insert, number]
  split
  · rename_i heq
    rw [heq]
    rfl
  · rfl

theorem list_replace : (store.replace definition rules).list other =
    if other = definition then number store.next rules else store.list other := by
  simp only [replace, list, Dict.get?_insert]
  split <;> rfl

theorem list_erase : (store.erase definition).list other =
    if other = definition then [] else store.list other := by
  simp only [erase, list, Dict.get?_erase]
  split <;> rfl

theorem mem_list_insert (h : stored ∈ (store.insert rule).list other) :
    stored ∈ store.list other ∨
      other = rule.service.definition ∧ stored ∈ number store.next [rule] := by
  rw [list_insert] at h
  split at h
  · rename_i heq
    rcases List.mem_append.1 h with hold | hnew
    · exact .inl hold
    · exact .inr ⟨heq, hnew⟩
  · exact .inl h

theorem mem_list_replace (h : stored ∈ (store.replace definition rules).list other) :
    stored ∈ store.list other ∨ other = definition ∧ stored ∈ number store.next rules := by
  rw [list_replace] at h
  split at h
  · rename_i heq
    exact .inr ⟨heq, h⟩
  · exact .inl h

theorem mem_list_erase (h : stored ∈ (store.erase definition).list other) :
    stored ∈ store.list other := by
  rw [list_erase] at h
  split at h
  · cases h
  · exact h

@[simp]
theorem list_deactivate : (store.deactivate stored).list other = store.list other := rfl

@[simp]
theorem next_insert : (store.insert rule).next = store.next + 1 := rfl

@[simp]
theorem next_replace : (store.replace definition rules).next = store.next + rules.length := rfl

@[simp]
theorem isActive_insert : (store.insert rule).isActive stored = store.isActive stored := rfl

@[simp]
theorem isActive_replace :
    (store.replace definition rules).isActive stored = store.isActive stored := rfl

@[simp]
theorem isActive_erase : (store.erase definition).isActive stored = store.isActive stored := rfl

/-- A deactivation concerns every copy of the rule, by its number, and no other
rule. -/
theorem isActive_deactivate (failed : StoredRule) : (store.deactivate failed).isActive stored =
    (store.isActive stored && stored.number != failed.number) := by
  simp only [isActive, deactivate, List.contains_cons, Bool.not_or, bne]
  rw [Bool.and_comm (!(stored.number == failed.number)), Bool.and_assoc]

/-- Consecutive numbers start at the first one. -/
theorem number_bounds {first : Nat} (h : stored ∈ number first rules) :
    first ≤ stored.number ∧ stored.number < first + rules.length := by
  induction rules generalizing first with
  | nil => simp [number] at h
  | cons rule rest ih =>
    rcases List.mem_cons.1 h with rfl | hrest
    · simp
    · have hbounds := ih hrest
      simp only [List.length_cons]
      omega

theorem number_ascending (first : Nat) :
    (number first rules).Pairwise fun left right => left.number < right.number := by
  induction rules generalizing first with
  | nil => exact List.Pairwise.nil
  | cons rule rest ih =>
    refine List.pairwise_cons.2 ⟨fun stored hstored => ?_, ih (first + 1)⟩
    exact (number_bounds rest stored hstored).1

/-- In a list in the order of the numbers, a number belongs to one rule. -/
theorem eq_of_number_eq {list : List StoredRule} {first second : StoredRule}
    (hascending : list.Pairwise fun left right => left.number < right.number)
    (hfirst : first ∈ list) (hsecond : second ∈ list) (heq : first.number = second.number) :
    first = second := by
  induction hascending with
  | nil => simp at hfirst
  | cons hhead _ ih =>
    rcases List.mem_cons.1 hfirst with rfl | hlater <;>
      rcases List.mem_cons.1 hsecond with rfl | hlater'
    · rfl
    · have hlt := hhead second hlater'
      omega
    · have hlt := hhead first hlater
      omega
    · exact ih hlater hlater'

end Views

end RuleStore

end LocalCloud
