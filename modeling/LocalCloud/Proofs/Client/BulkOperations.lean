import LocalCloud.Proofs.Client.CoreCalls
import LocalCloud.Proofs.Client.Watching

/-!
# The course of bulk operations

How a bulk operation goes is kept as the list of its calls with their answers.
What was called for, what the operation leaves and what it reports are read off
that list, and a watched operation shows that it sends these calls and no others.
-/

namespace LocalCloud

variable {α A C H E σ ω : Type}

namespace Change

variable {change : Change α} {judge : A → Except Error Unit}

/-- How a bulk operation goes over a list of items: the calls it makes with their
answers, the items it leaves and its report. -/
inductive Visits (change : Change α) (judge : A → Except Error Unit) :
    List α → List (α × A) → List α → Report → Prop where
  | done : Visits change judge [] [] [] {}
  | skip {item : α} {items settled : List α} {calls : List (α × A)} {report : Report}
      (hreached : change.isReached item = true)
      (hrest : Visits change judge items calls settled report) :
      Visits change judge (item :: items) calls (item :: settled) (change.skip item report)
  | call {item : α} {items settled : List α} {calls : List (α × A)} {report : Report}
      (hreached : change.isReached item = false) (answer : A)
      (hrest : Visits change judge items calls settled report) :
      Visits change judge (item :: items) ((item, answer) :: calls)
        (change.settle item (judge answer) :: settled) (change.record item (judge answer) report)

/-- The items whose calls succeeded. -/
def accepted (judge : A → Except Error Unit) (calls : List (α × A)) : List α :=
  (calls.filter fun call => (judge call.2).isOk).map Prod.fst

/-- The items whose calls failed. -/
def refused (judge : A → Except Error Unit) (calls : List (α × A)) : List α :=
  (calls.filter fun call => !(judge call.2).isOk).map Prod.fst

/-- The names of the items whose calls failed, with the texts of the failures. -/
def failures (change : Change α) (judge : A → Except Error Unit) (calls : List (α × A)) :
    List (String × String) :=
  calls.filterMap fun call =>
    match judge call.2 with
    | .ok () => none
    | .error failure => some (change.name call.1, failure.message)

namespace Visits

variable {items settled : List α} {calls : List (α × A)} {report : Report}

/-- Every item that is not in the wanted state is called for once, in order. -/
theorem map_fst (h : change.Visits judge items calls settled report) :
    calls.map Prod.fst = items.filter fun item => !change.isReached item := by
  induction h with
  | done => rfl
  | skip hreached _ ih => simpa [hreached] using ih
  | call hreached answer _ ih => simpa [hreached] using ih

theorem map_fst_of_none (h : change.Visits judge items calls settled report)
    (hnone : ∀ item ∈ items, change.isReached item = false) : calls.map Prod.fst = items := by
  rw [h.map_fst, List.filter_eq_self]
  intro item hitem
  rw [hnone item hitem, Bool.not_false]

theorem failed (h : change.Visits judge items calls settled report) :
    report.failed = change.failures judge calls := by
  induction h with
  | done => rfl
  | skip _ _ ih => exact ih
  | @call item items settled calls report _ answer _ ih =>
    rw [failures] at ih ⊢
    cases houtcome : judge answer with
    | ok _ => simpa [houtcome, record] using ih
    | error failure => simpa [houtcome, record] using ih

/-- What is not in the wanted state afterwards is what was called for in vain. -/
theorem filter_not_isReached (h : change.Visits judge items calls settled report)
    (hreach : ∀ item, change.isReached (change.reach item) = true) :
    (settled.filter fun item => !change.isReached item) = refused judge calls := by
  induction h with
  | done => rfl
  | skip hreached _ ih => simpa [hreached] using ih
  | @call item items settled calls report hreached answer _ ih =>
    cases houtcome : judge answer with
    | ok _ => simpa [refused, settle, houtcome, hreach, Except.isOk, Except.toBool] using ih
    | error failure =>
      simpa [refused, settle, houtcome, hreached, Except.isOk, Except.toBool] using ih

/-- When nothing was in the wanted state, what is in it afterwards is what was
called for with success. -/
theorem filter_isReached_of_none (h : change.Visits judge items calls settled report)
    (hreach : ∀ item, change.isReached (change.reach item) = true)
    (hnone : ∀ item ∈ items, change.isReached item = false) :
    settled.filter change.isReached = (accepted judge calls).map change.reach := by
  induction h with
  | done => rfl
  | skip hreached _ _ =>
    rw [hnone _ List.mem_cons_self] at hreached
    exact absurd hreached Bool.false_ne_true
  | @call item items settled calls report hreached answer _ ih =>
    have hrest := ih fun other hother => hnone other (List.mem_cons_of_mem _ hother)
    cases houtcome : judge answer with
    | ok _ => simpa [accepted, settle, houtcome, hreach, Except.isOk, Except.toBool] using hrest
    | error failure =>
      simpa [accepted, settle, houtcome, hreached, Except.isOk, Except.toBool] using hrest

/-- The answers determine how the operation goes. -/
theorem unique {settled' : List α} {calls' : List (α × A)} {report' : Report}
    (h : change.Visits judge items calls settled report)
    (h' : change.Visits judge items calls' settled' report')
    (hanswers : calls.map Prod.snd = calls'.map Prod.snd) :
    calls = calls' ∧ settled = settled' ∧ report = report' := by
  induction h generalizing settled' calls' report' with
  | done =>
    cases h'
    exact ⟨rfl, rfl, rfl⟩
  | skip hreached _ ih =>
    cases h' with
    | skip _ hrest =>
      obtain ⟨rfl, rfl, rfl⟩ := ih hrest hanswers
      exact ⟨rfl, rfl, rfl⟩
    | call hunreached => exact absurd (hunreached.symm.trans hreached) Bool.false_ne_true
  | call hunreached answer _ ih =>
    cases h' with
    | skip hreached => exact absurd (hunreached.symm.trans hreached) Bool.false_ne_true
    | call _ answer' hrest =>
      rw [List.map_cons, List.map_cons, List.cons.injEq] at hanswers
      obtain ⟨rfl, hanswers⟩ := hanswers
      obtain ⟨rfl, rfl, rfl⟩ := ih hrest hanswers
      exact ⟨rfl, rfl, rfl⟩

end Visits

/-- A bulk operation shows the calls it makes when each of them shows itself. -/
theorem exists_shows_run {call : α → StateM σ (Except Error Unit)}
    {counterpart : α → StateM (σ × List ω) (Except Error Unit)} (change : Change α)
    (judge : A → Except Error Unit) (note : α → A → ω)
    (hcall : ∀ item world, ∃ answer later,
      Shows (call item) (counterpart item) id world (judge answer) later [note item answer])
    (items : List α) (world : σ) :
    ∃ calls settled report later, change.Visits judge items calls settled report ∧
      Shows (change.run call items) (change.run counterpart items) id world (settled, report) later
        (calls.map fun call => note call.1 call.2) := by
  induction items generalizing world with
  | nil => exact ⟨[], [], {}, world, .done, .of_pure id world (([], {}) : List α × Report)⟩
  | cons item items ih =>
    cases hreached : change.isReached item with
    | true =>
      obtain ⟨calls, settled, report, later, hvisits, hshows⟩ := ih world
      refine ⟨calls, _, _, later, .skip hreached hvisits, ?_⟩
      rw [run, run, if_pos hreached, if_pos hreached]
      exact hshows.bind_pure rfl rfl
    | false =>
      obtain ⟨answer, between, hshown⟩ := hcall item world
      obtain ⟨calls, settled, report, later, hvisits, hshows⟩ := ih between
      have hneg : ¬ change.isReached item = true := by simp [hreached]
      refine ⟨_, _, _, later, .call hreached answer hvisits, ?_⟩
      rw [run, run, if_neg hneg, if_neg hneg]
      exact hshown.bind (hshows.bind_pure rfl rfl)

end Change

namespace Bulk

/-- The calls of a bulk operation for items, with their answers. -/
def callsFor (bulk : Bulk α) (client : Client C H E) (consumer : Consumer C)
    (answered : List (α × Except Error Reply)) : List (ConsumerCall C) :=
  answered.map fun call => client.coreCall consumer bulk.service (bulk.request call.1) call.2

theorem map_answer_callsFor (bulk : Bulk α) (client : Client C H E) (consumer : Consumer C)
    (answered : List (α × Except Error Reply)) :
    (bulk.callsFor client consumer answered).map ConsumerCall.answer = answered.map Prod.snd := by
  rw [callsFor, List.map_map]
  rfl

theorem exists_shows_run (bulk : Bulk α) {client : Client C H E} {consumer : Consumer C}
    (hhttp : client.consumers.get "HTTP" = .ok consumer) (network : Network (StateM σ) C)
    (note : ConsumerCall C → ω) (items : List α) (world : σ) :
    ∃ answered settled report later,
      bulk.change.Visits bulk.service.outcome items answered settled report ∧
      Shows (bulk.change.run (bulk.call network client) items)
        (bulk.change.run (bulk.call (network.watched note) client.watched) items) id world
        (settled, report) later ((bulk.callsFor client consumer answered).map note) := by
  have hcall (item : α) (world : σ) : ∃ answer later,
      Shows (bulk.call network client item) (bulk.call (network.watched note) client.watched item)
        id world (bulk.service.outcome answer) later
        [note (client.coreCall consumer bulk.service (bulk.request item) answer)] := by
    obtain ⟨answer, later, hshows⟩ :=
      Client.exists_shows_callCore hhttp network note bulk.service (bulk.request item) world
    refine ⟨answer, later, ?_⟩
    rw [call, call, Client.notifyCore_eq, Client.notifyCore_eq]
    exact hshows.map rfl
  obtain ⟨answered, settled, report, later, hvisits, hshows⟩ :=
    bulk.change.exists_shows_run bulk.service.outcome _ hcall items world
  refine ⟨answered, settled, report, later, hvisits, ?_⟩
  rw [callsFor, List.map_map]
  exact hshows

end Bulk

namespace Client

variable {client : Client C H E} {consumer : Consumer C}
  (hhttp : client.consumers.get "HTTP" = .ok consumer) (network : Network (StateM σ) C)
  (note : ConsumerCall C → ω) (world : σ)
include hhttp

theorem exists_shows_changeServices (bulk : Bulk (ProvidedService H)) :
    ∃ answered settled report later,
      bulk.change.Visits bulk.service.outcome client.services.items answered settled report ∧
      Shows (client.changeServices bulk.change (bulk.call network client))
        (client.watched.changeServices bulk.change
          (bulk.call (network.watched note) client.watched)) (Prod.map id watched) world
        (report, { client with services := ⟨settled⟩ }) later
        ((bulk.callsFor client consumer answered).map note) := by
  obtain ⟨answered, settled, report, later, hvisits, hshows⟩ :=
    bulk.exists_shows_run hhttp network note client.services.items world
  exact ⟨answered, settled, report, later, hvisits, hshows.bind_pure rfl rfl⟩

theorem exists_shows_changeEvents (bulk : Bulk (Subscription E)) :
    ∃ answered settled report later,
      bulk.change.Visits bulk.service.outcome client.events.items answered settled report ∧
      Shows (client.changeEvents bulk.change (bulk.call network client))
        (client.watched.changeEvents bulk.change
          (bulk.call (network.watched note) client.watched)) (Prod.map id watched) world
        (report, { client with events := ⟨settled⟩ }) later
        ((bulk.callsFor client consumer answered).map note) := by
  obtain ⟨answered, settled, report, later, hvisits, hshows⟩ :=
    bulk.exists_shows_run hhttp network note client.events.items world
  exact ⟨answered, settled, report, later, hvisits, hshows.bind_pure rfl rfl⟩

end Client

end LocalCloud
