import LocalCloud.Proofs.Client.Watching
import LocalCloud.Proofs.Provider.Mirror

/-!
# What becomes of every item

A bulk operation skips an item or calls for it, and a call succeeds or fails.  The
course of an operation says which, item by item and in order, and its calls, its
report and what it leaves are read off that course.  An operation that is dropped has
gone through a first part of the course, up to the call that it was waiting for.

The calls and the world they change are arbitrary.
-/

namespace LocalCloud

variable {α σ : Type}

/-- What becomes of an item of a bulk operation. -/
inductive Fate where
  | skipped
  | succeeded
  | failed (failure : Error)

/-- An item of a bulk operation and what became of it. -/
structure Visited (α : Type) where
  item : α
  fate : Fate

namespace Visited

/-- The call for an item, unless it was skipped. -/
def call? (visited : Visited α) : Option (α × Except Error Unit) :=
  match visited.fate with
  | .skipped => none
  | .succeeded => some (visited.item, .ok ())
  | .failed failure => some (visited.item, .error failure)

def isFailed (visited : Visited α) : Bool :=
  match visited.fate with
  | .failed _ => true
  | _ => false

/-- The calls of a course, with their outcomes. -/
def calls (course : List (Visited α)) : List (α × Except Error Unit) :=
  course.filterMap call?

end Visited

open Visited (calls)

@[simp]
theorem Visited.calls_cons (visited : Visited α) (course : List (Visited α)) :
    calls (visited :: course) = visited.call?.toList ++ calls course := by
  rw [calls, List.filterMap_cons]
  cases visited.call? <;> rfl

/-- The calls of a bulk operation, noted with their outcomes. -/
def notingCall (call : α → StateM σ (Except Error Unit)) (item : α) :
    StateM (σ × List (α × Except Error Unit)) (Except Error Unit) :=
  noting (item, ·) (call item)

theorem run_notingCall (call : α → StateM σ (Except Error Unit)) (item : α) (world : σ)
    (log : List (α × Except Error Unit)) :
    (notingCall call item).run (world, log) = (((call item).run world).1,
      ((call item).run world).2, log ++ [(item, ((call item).run world).1)]) := rfl

namespace Change

/-- An item changes when its call succeeded, and else stays as it is. -/
def after (change : Change α) (visited : Visited α) : α :=
  match visited.fate with
  | .succeeded => change.reach visited.item
  | _ => visited.item

/-- The report on a course: every list has the names in the order of the items. -/
def report (change : Change α) (course : List (Visited α)) : Report where
  succeeded := course.filterMap fun visited =>
    match visited.fate with
    | .succeeded => some (change.name visited.item)
    | _ => none
  skipped := course.filterMap fun visited =>
    match visited.fate with
    | .skipped => some (change.name visited.item)
    | _ => none
  failed := course.filterMap fun visited =>
    match visited.fate with
    | .failed failure => some (change.name visited.item, failure.message)
    | _ => none

/-- What a bulk operation leaves when it is dropped while it waits for a call that
`count` others came before. -/
def dropped {m : Type → Type} [Monad m] (change : Change α) (call : α → m (Except Error Unit)) :
    Nat → List α → m (List α)
  | _, [] => pure []
  | count, item :: rest =>
    if change.isReached item then (item :: ·) <$> dropped change call count rest
    else match count with
      | 0 => pure (item :: rest)
      | count + 1 => do
        let outcome ← call item
        (change.settle item outcome :: ·) <$> dropped change call count rest

section

variable {m : Type → Type} [Monad m] {change : Change α} {call : α → m (Except Error Unit)}
  {item : α}

theorem dropped_cons_of_reached (h : change.isReached item = true) (count : Nat) (rest : List α) :
    change.dropped call count (item :: rest) = (item :: ·) <$> change.dropped call count rest := by
  rw [dropped.eq_def]
  exact if_pos h

theorem dropped_zero_cons (h : change.isReached item = false) (rest : List α) :
    change.dropped call 0 (item :: rest) = pure (item :: rest) := by
  rw [dropped.eq_def]
  exact if_neg (by simp [h])

theorem dropped_succ_cons (h : change.isReached item = false) (count : Nat) (rest : List α) :
    change.dropped call (count + 1) (item :: rest) = (do
      let outcome ← call item
      (change.settle item outcome :: ·) <$> change.dropped call count rest) := by
  rw [dropped.eq_def]
  exact if_neg (by simp [h])

/-- When the operation is dropped during the call for an item, the items before it are
as a whole operation leaves them, and the others are as they were. -/
theorem dropped_append [LawfulMonad m] (h : change.isReached item = false)
    (before rest : List α) :
    change.dropped call (before.filter fun item => !change.isReached item).length
        (before ++ item :: rest) = (· ++ item :: rest) <$> change.settled call before := by
  induction before with
  | nil =>
    rw [settled_nil, map_pure]
    exact dropped_zero_cons h rest
  | cons first before ih =>
    cases hfirst : change.isReached first with
    | true =>
      rw [List.filter_cons_of_neg (by simp [hfirst]), List.cons_append,
        dropped_cons_of_reached hfirst, ih, settled_cons_of_reached hfirst, Functor.map_map,
        Functor.map_map]
      rfl
    | false =>
      rw [List.filter_cons_of_pos (by simp [hfirst]), List.length_cons, List.cons_append,
        dropped_succ_cons hfirst, settled_cons_of_not_reached hfirst, map_bind]
      congr 1
      funext outcome
      rw [ih, Functor.map_map, Functor.map_map]
      rfl

end

/-- The courses of a bulk operation from one world to another. -/
inductive Courses (change : Change α) (call : α → StateM σ (Except Error Unit)) :
    σ → List (Visited α) → σ → Prop where
  | done {world : σ} : Courses change call world [] world
  | skip {world later : σ} {item : α} {course : List (Visited α)}
      (hreached : change.isReached item = true)
      (hrest : Courses change call world course later) :
      Courses change call world (⟨item, .skipped⟩ :: course) later
  | succeed {world between later : σ} {item : α} {course : List (Visited α)}
      (hreached : change.isReached item = false)
      (hcall : (call item).run world = (.ok (), between))
      (hrest : Courses change call between course later) :
      Courses change call world (⟨item, .succeeded⟩ :: course) later
  | fail {world between later : σ} {item : α} {failure : Error} {course : List (Visited α)}
      (hreached : change.isReached item = false)
      (hcall : (call item).run world = (.error failure, between))
      (hrest : Courses change call between course later) :
      Courses change call world (⟨item, .failed failure⟩ :: course) later

/-- Every operation has a course. -/
theorem exists_courses (change : Change α) (call : α → StateM σ (Except Error Unit))
    (items : List α) (world : σ) :
    ∃ course later, change.Courses call world course later ∧ course.map Visited.item = items := by
  induction items generalizing world with
  | nil => exact ⟨[], world, .done, rfl⟩
  | cons item items ih =>
    cases hreached : change.isReached item with
    | true =>
      obtain ⟨course, later, hcourse, hitems⟩ := ih world
      exact ⟨_, later, .skip hreached hcourse, congrArg (item :: ·) hitems⟩
    | false =>
      obtain ⟨outcome, between, hcall⟩ : ∃ outcome between,
          (call item).run world = (outcome, between) := ⟨_, _, rfl⟩
      obtain ⟨course, later, hcourse, hitems⟩ := ih between
      cases outcome with
      | ok _ => exact ⟨_, later, .succeed hreached hcall hcourse, congrArg (item :: ·) hitems⟩
      | error failure =>
        exact ⟨_, later, .fail hreached hcall hcourse, congrArg (item :: ·) hitems⟩

namespace Courses

variable {change : Change α} {call : α → StateM σ (Except Error Unit)} {world later : σ}
  {course done rest : List (Visited α)}

/-- What an operation leaves and reports is read off its course. -/
theorem run (h : change.Courses call world course later) :
    (change.run call (course.map Visited.item)).run world =
      ((course.map change.after, change.report course), later) := by
  induction h with
  | done => rfl
  | skip hreached _ ih =>
    rw [List.map_cons, Change.run, if_pos hreached, StateT.run_bind, ih]
    rfl
  | succeed hreached hcall _ ih | fail hreached hcall _ ih =>
    rw [List.map_cons, Change.run, if_neg (by simp [hreached]), StateT.run_bind, hcall]
    change (change.run call _ >>= _ : StateT σ Id _).run _ = _
    rw [StateT.run_bind, ih]
    rfl

/-- Noting the calls of an operation changes nothing, and notes those of its course. -/
theorem noting (h : change.Courses call world course later)
    (log : List (α × Except Error Unit)) :
    change.Courses (notingCall call) (world, log) course (later, log ++ calls course) := by
  induction h generalizing log with
  | done =>
    rw [calls, List.filterMap_nil, List.append_nil]
    exact .done
  | skip hreached _ ih => exact .skip hreached (ih log)
  | @succeed world between later item course hreached hcall _ ih =>
    have hnoted : (notingCall call item).run (world, log) =
        (.ok (), between, log ++ [(item, .ok ())]) := by
      rw [run_notingCall, hcall]
    have hrest := ih (log ++ [(item, .ok ())])
    rw [List.append_assoc] at hrest
    exact .succeed hreached hnoted hrest
  | @fail world between later item failure course hreached hcall _ ih =>
    have hnoted : (notingCall call item).run (world, log) =
        (.error failure, between, log ++ [(item, .error failure)]) := by
      rw [run_notingCall, hcall]
    have hrest := ih (log ++ [(item, .error failure)])
    rw [List.append_assoc] at hrest
    exact .fail hreached hnoted hrest

/-- A first part of a course is the course of a first part. -/
theorem exists_of_append (h : change.Courses call world (done ++ rest) later) :
    ∃ between, change.Courses call world done between ∧ change.Courses call between rest later := by
  induction done generalizing world with
  | nil => exact ⟨world, .done, h⟩
  | cons visited done ih =>
    cases h with
    | skip hreached hrest =>
      obtain ⟨between, hdone, hrest⟩ := ih hrest
      exact ⟨between, .skip hreached hdone, hrest⟩
    | succeed hreached hcall hrest =>
      obtain ⟨between, hdone, hrest⟩ := ih hrest
      exact ⟨between, .succeed hreached hcall hdone, hrest⟩
    | fail hreached hcall hrest =>
      obtain ⟨between, hdone, hrest⟩ := ih hrest
      exact ⟨between, .fail hreached hcall hdone, hrest⟩

/-- The items that are skipped are those in the wanted state. -/
theorem skipped_iff (h : change.Courses call world course later) :
    ∀ visited ∈ course, visited.fate = .skipped ↔ change.isReached visited.item = true := by
  induction h with
  | done => simp
  | skip hreached _ ih => exact List.forall_mem_cons.2 ⟨by simp [hreached], ih⟩
  | succeed hreached _ _ ih | fail hreached _ _ ih =>
    exact List.forall_mem_cons.2 ⟨by simp [hreached], ih⟩

/-- Every other item is called for once, in order. -/
theorem map_fst_calls (h : change.Courses call world course later) :
    (calls course).map Prod.fst =
      (course.map Visited.item).filter fun item => !change.isReached item := by
  induction h with
  | done => rfl
  | skip hreached _ ih => simpa [Visited.call?, hreached] using ih
  | succeed hreached _ _ ih | fail hreached _ _ ih => simpa [Visited.call?, hreached] using ih

/-- An operation that is dropped leaves what the calls before have made of the items. -/
theorem dropped (h : change.Courses call world course later) {item : α}
    (hitem : change.isReached item = false) (rest : List α) :
    (change.dropped call (calls course).length (course.map Visited.item ++ item :: rest)).run
        world = (course.map change.after ++ item :: rest, later) := by
  have hcount : (calls course).length =
      ((course.map Visited.item).filter fun item => !change.isReached item).length := by
    rw [← h.map_fst_calls, List.length_map]
  rw [hcount, dropped_append hitem, settled, StateT.run_map, StateT.run_map, h.run]
  rfl

/-- What is in the wanted state afterwards was so before, or was called for with
success. -/
theorem isReached_after_iff (h : change.Courses call world course later)
    (hreach : ∀ item, change.isReached (change.reach item) = true) :
    ∀ visited ∈ course, change.isReached (change.after visited) = true ↔
      visited.fate = .skipped ∨ visited.fate = .succeeded := by
  intro visited hvisited
  have hskipped := h.skipped_iff visited hvisited
  obtain ⟨item, fate⟩ := visited
  cases fate with
  | skipped => simpa [after] using hskipped
  | succeeded => simp [after, hreach]
  | failed failure => simpa [after] using hskipped

/-- What is not in the wanted state afterwards was called for in vain. -/
theorem filter_not_isReached (h : change.Courses call world course later)
    (hreach : ∀ item, change.isReached (change.reach item) = true) :
    ((course.map change.after).filter fun item => !change.isReached item) =
      (course.filter Visited.isFailed).map Visited.item := by
  induction h with
  | done => rfl
  | skip hreached _ ih => simpa [after, Visited.isFailed, hreached] using ih
  | succeed _ _ _ ih => simpa [after, Visited.isFailed, hreach] using ih
  | @fail _ _ _ item failure course hreached _ _ ih =>
    have hfirst : (Visited.mk item (.failed failure)).isFailed = true := rfl
    rw [List.filter_cons_of_pos hfirst, List.map_cons, List.map_cons, ← ih]
    exact List.filter_cons_of_pos (by simp [after, hreached])

end Courses

section Report

variable {change : Change α}

/-- Every item is reported once. -/
theorem perm_report (course : List (Visited α)) :
    ((change.report course).succeeded ++ (change.report course).skipped ++
        (change.report course).failed.map Prod.fst).Perm
      (course.map fun visited => change.name visited.item) := by
  induction course with
  | nil => exact .nil
  | cons visited course ih =>
    obtain ⟨item, fate⟩ := visited
    rw [List.map_cons]
    cases fate with
    | succeeded => exact ih.cons _
    | skipped =>
      apply List.Perm.trans _ (ih.cons _)
      rw [List.append_assoc, List.append_assoc]
      exact List.perm_middle
    | failed failure => exact List.perm_middle.trans (ih.cons _)

end Report

/-- How a bulk operation goes in a world, and how it ends. -/
structure Goes (change : Change α) (call : α → StateM σ (Except Error Unit)) (items : List α)
    (world : σ) (course : List (Visited α)) (later : σ) : Prop where
  visits : course.map Visited.item = items
  run : (change.run call items).run world =
    ((course.map change.after, change.report course), later)
  /-- The calls that the operation makes are those of its course. -/
  noted : ∀ log, (change.run (notingCall call) items).run (world, log) =
    ((course.map change.after, change.report course), later, log ++ calls course)
  /-- They are made once for every item that is not in the wanted state, in order. -/
  called : (calls course).map Prod.fst = items.filter fun item => !change.isReached item
  skipped_iff : ∀ visited ∈ course,
    visited.fate = .skipped ↔ change.isReached visited.item = true
  /-- Every item is reported in one of the lists, and once. -/
  reported : ((change.report course).succeeded ++ (change.report course).skipped ++
    (change.report course).failed.map Prod.fst).Perm (items.map change.name)
  /-- So when all names are different, every name is in exactly one list. -/
  distinct : (items.map change.name).Nodup → ((change.report course).succeeded ++
    (change.report course).skipped ++ (change.report course).failed.map Prod.fst).Nodup
  reached_iff : ∀ visited ∈ course, change.isReached (change.after visited) = true ↔
    visited.fate = .skipped ∨ visited.fate = .succeeded
  unchanged : ∀ visited ∈ course, visited.isFailed = true → change.after visited = visited.item
  /-- An operation that is dropped during a call has made the calls before it, and the
  items are as these have left them. -/
  dropped : ∀ done visited rest, course = done ++ visited :: rest → visited.fate ≠ .skipped →
    ∀ log, ∃ between,
      (change.dropped (notingCall call) (calls done).length items).run (world, log) =
        (done.map change.after ++ visited.item :: rest.map Visited.item, between,
          log ++ calls done)
  /-- The same operation, in whatever world, then calls for what failed. -/
  again : ∀ {τ : Type} (call' : α → StateM τ (Except Error Unit)) (world' : τ)
      (log : List (α × Except Error Unit)), ∃ retried later',
    ((change.run (notingCall call') (course.map change.after)).run (world', log)).2 =
        (later', log ++ retried) ∧
      retried.map Prod.fst = (course.filter Visited.isFailed).map Visited.item

/-- A bulk operation goes on when a call fails, whatever its calls do. -/
def IsTolerant (change : Change α) : Prop :=
  ∀ {σ : Type} (call : α → StateM σ (Except Error Unit)) (items : List α) (world : σ),
    ∃ course later, change.Goes call items world course later

theorem isTolerant_of_isReached_reach {change : Change α}
    (hreach : ∀ item, change.isReached (change.reach item) = true) : change.IsTolerant := by
  intro σ call items world
  obtain ⟨course, later, hcourse, rfl⟩ := change.exists_courses call items world
  have hreported : ((change.report course).succeeded ++ (change.report course).skipped ++
      (change.report course).failed.map Prod.fst).Perm
        ((course.map Visited.item).map change.name) := by
    rw [List.map_map]
    exact perm_report course
  refine ⟨course, later, rfl, hcourse.run, ?noted, hcourse.map_fst_calls, hcourse.skipped_iff,
    hreported, hreported.nodup_iff.2, hcourse.isReached_after_iff hreach, ?unchanged, ?dropped,
    ?again⟩
  case noted => exact fun log => (hcourse.noting log).run
  case unchanged =>
    rintro ⟨item, fate⟩ - hfailed
    cases fate with
    | failed failure => rfl
    | skipped | succeeded => cases hfailed
  case dropped =>
    rintro done visited rest rfl hcalled log
    have hitem : change.isReached visited.item = false := by
      rw [← Bool.not_eq_true, ← hcourse.skipped_iff visited (by simp)]
      exact hcalled
    obtain ⟨between, hdone, -⟩ := hcourse.exists_of_append
    refine ⟨between, ?_⟩
    rw [List.map_append, List.map_cons]
    exact (hdone.noting log).dropped hitem (rest.map Visited.item)
  case again =>
    intro τ call' world' log
    obtain ⟨course', later', hcourse', hitems⟩ :=
      change.exists_courses call' (course.map change.after) world'
    refine ⟨calls course', later', ?_, ?_⟩
    · rw [← hitems, (hcourse'.noting log).run]
    · rw [hcourse'.map_fst_calls, hitems, hcourse.filter_not_isReached hreach]

end Change

/-- Registering, unregistering, subscribing and unsubscribing everything. -/
theorem Change.isTolerant_of_lifecycle (H E : Type) :
    (Change.registered : Change (ProvidedService H)).IsTolerant ∧
      (Change.unregistered : Change (ProvidedService H)).IsTolerant ∧
      (Change.activated : Change (Subscription E)).IsTolerant ∧
      (Change.ended : Change (Subscription E)).IsTolerant :=
  ⟨isTolerant_of_isReached_reach fun _ => rfl, isTolerant_of_isReached_reach fun _ => rfl,
    isTolerant_of_isReached_reach fun _ => rfl, isTolerant_of_isReached_reach fun _ => rfl⟩

end LocalCloud
