import LocalCloud.Proofs.Orchestration.Interleaving

/-!
# Safety of interleaved consumptions

The invariant relates three things that change separately: the current lists, the
lists that consumptions hold, and the numbers that have been retired.  Since a
number belongs to one rule wherever that rule is held, a failed call deactivates
the rule it went to, and never one that has taken its place.
-/

namespace LocalCloud.Resolver

variable {α : Type} {state middle later : Resolver α} {event : Event α}
variable {trace : List (Event α)} {definition : String} {stored : StoredRule} {who : Nat}

/-- A rule is in the current list of a definition or in one that was taken for it. -/
def Holds (state : Resolver α) (definition : String) (stored : StoredRule) : Prop :=
  stored ∈ state.rules.list definition ∨
    ∃ consumption ∈ state.consumptions, consumption.definition = definition ∧
      stored ∈ consumption.taken

/-- A consumption of a definition is waiting for a call through a rule. -/
def Calling (state : Resolver α) (who : Nat) (definition : String) (stored : StoredRule) : Prop :=
  ∃ consumption rest, state.consumptions[who]? = some consumption ∧
    consumption.definition = definition ∧ consumption.stage = .calling stored rest

/-- The call of a consumption ends with a transport failure. -/
def Event.failure (who : Nat) (detail : String) : Event α :=
  .act who (.complete (.error (.transport detail)))

/-- The invariant. -/
structure Sound (state : Resolver α) : Prop where
  wellNumbered : state.rules.WellNumbered
  unambiguous : Unambiguous state.rules.next state.Holds
  pending : ∀ consumption ∈ state.consumptions, consumption.stage.pending ⊆ consumption.taken

theorem sound_initial : Sound ({} : Resolver α) where
  wellNumbered := .empty
  unambiguous := by
    have hnone : ∀ definition stored, ¬ Holds ({} : Resolver α) definition stored := by
      rintro definition stored (hlisted | ⟨consumption, hmem, -⟩)
      · cases hlisted
      · cases hmem
    exact ⟨fun hheld => absurd hheld (hnone _ _), fun hheld => absurd hheld (hnone _ _)⟩
  pending _ hmem := nomatch hmem

namespace Sound

theorem mem_taken (h : state.Sound) {consumption : Consumption α} {rest : List StoredRule}
    (hwho : state.consumptions[who]? = some consumption)
    (hstage : consumption.stage = .calling stored rest) : stored ∈ consumption.taken := by
  have hpending : stored ∈ consumption.stage.pending := by
    rw [hstage]
    exact List.mem_cons_self
  exact h.pending consumption (List.mem_of_getElem? hwho) hpending

theorem holds_of_calling (h : state.Sound) (hcalling : state.Calling who definition stored) :
    state.Holds definition stored := by
  obtain ⟨consumption, rest, hwho, hdefinition, hstage⟩ := hcalling
  have htaken := h.mem_taken hwho hstage
  exact .inr ⟨consumption, List.mem_of_getElem? hwho, hdefinition, htaken⟩

end Sound

/-- An action leaves the store alone or deactivates the rule whose call has
failed. -/
theorem Step.act_rules {action : Action α} (h : Step state (.act who action) later) :
    later.rules = state.rules ∨ ∃ definition failed detail,
      state.Calling who definition failed ∧ action = .complete (.error (.transport detail)) ∧
        later.rules = state.rules.deactivate failed := by
  cases h with
  | @act _ consumption _ _ _ hwho hmove =>
      rcases hmove.rules_eq with hrules | ⟨failed, rest, detail, hstage, haction, hrules⟩
      · exact .inl hrules
      · exact .inr ⟨_, failed, detail, ⟨consumption, rest, hwho, rfl, hstage⟩, haction, hrules⟩

/-- The rule of a failed call is inactive. -/
theorem Step.isActive_of_failure {detail : String} (h : Step state (.failure who detail) later)
    (hcalling : state.Calling who definition stored) : later.rules.isActive stored = false := by
  obtain ⟨consumption, rest, hwho, -, hstage⟩ := hcalling
  cases h with
  | @act _ mover _ _ _ hactor hmove =>
      obtain rfl : mover = consumption := Option.some.inj (hactor.symm.trans hwho)
      rw [hstage] at hmove
      cases hmove
      rw [RuleStore.settle_of_transport, RuleStore.isActive_deactivate, bne_self_eq_false,
        Bool.and_false]

theorem Step.sound_act {action : Action α} (h : state.Sound)
    (hstep : Step state (.act who action) later) : later.Sound := by
  have hrules := hstep.act_rules
  cases hstep with
  | @act _ consumption _ stage rules hwho hmove =>
      have hmem : consumption ∈ state.consumptions := List.mem_of_getElem? hwho
      have hunchanged : rules.WellNumbered ∧ rules.next = state.rules.next ∧
          rules.lists = state.rules.lists := by
        rcases hrules with heq | ⟨_, failed, _, hcalling, -, heq⟩
        · obtain rfl : rules = state.rules := heq
          exact ⟨h.wellNumbered, rfl, rfl⟩
        · obtain rfl : rules = state.rules.deactivate failed := heq
          have hissued := h.unambiguous.issued (h.holds_of_calling hcalling)
          exact ⟨h.wellNumbered.deactivate hissued, rfl, rfl⟩
      obtain ⟨hnumbered, hnext, hlists⟩ := hunchanged
      -- The moved consumption differs from the one before in its stage only.
      have hold : ∀ other ∈ state.consumptions.set who { consumption with stage },
          other ∈ state.consumptions ∨ other = { consumption with stage } := by
        intro other hother
        exact List.mem_or_eq_of_mem_set hother
      refine ⟨hnumbered, ?_, ?_⟩
      · rw [hnext]
        apply h.unambiguous.mono
        intro definition stored hheld
        rcases hheld with hlisted | ⟨other, hother, hdefinition, htaken⟩
        · rw [RuleStore.list, hlists] at hlisted
          exact .inl hlisted
        · rcases hold other hother with hsame | rfl
          · exact .inr ⟨other, hsame, hdefinition, htaken⟩
          · exact .inr ⟨consumption, hmem, hdefinition, htaken⟩
      · intro other hother
        rcases hold other hother with hsame | rfl
        · exact h.pending other hsame
        · exact List.Subset.trans hmove.pending.subset (h.pending consumption hmem)

/-- Every step keeps the invariant. -/
theorem Step.sound (h : state.Sound) (hstep : Step state event later) : later.Sound := by
  cases hstep with
  | insert rule =>
      refine ⟨h.wellNumbered.insert rule, ?_, h.pending⟩
      apply h.unambiguous.extend rule.service.definition [rule]
      intro definition stored hheld
      rcases hheld with hlisted | htaken
      · exact (RuleStore.mem_list_insert _ _ _ _ hlisted).imp .inl id
      · exact .inl (.inr htaken)
  | replace replaced rules =>
      refine ⟨h.wellNumbered.replace replaced rules, ?_, h.pending⟩
      apply h.unambiguous.extend replaced rules
      intro definition stored hheld
      rcases hheld with hlisted | htaken
      · exact (RuleStore.mem_list_replace _ _ _ _ _ hlisted).imp .inl id
      · exact .inl (.inr htaken)
  | remove removed =>
      refine ⟨h.wellNumbered.erase removed, ?_, h.pending⟩
      apply h.unambiguous.mono
      intro definition stored hheld
      exact hheld.imp (RuleStore.mem_list_erase _ _ _ _) id
  | start begun =>
      have hold : ∀ other ∈ state.consumptions ++ [started state.rules begun],
          other ∈ state.consumptions ∨ other = started state.rules begun := by
        intro other hother
        rw [List.mem_append, List.mem_singleton] at hother
        exact hother
      refine ⟨h.wellNumbered, ?_, ?_⟩
      · apply h.unambiguous.mono
        intro definition stored hheld
        rcases hheld with hlisted | ⟨other, hother, hdefinition, htaken⟩
        · exact .inl hlisted
        · rcases hold other hother with hsame | rfl
          · exact .inr ⟨other, hsame, hdefinition, htaken⟩
          · exact .inl (hdefinition ▸ htaken)
      · intro other hother
        rcases hold other hother with hsame | rfl
        · exact h.pending other hsame
        · exact List.Subset.refl _
  | act hwho hmove => exact Step.sound_act h (.act hwho hmove)

theorem Reachable.sound (h : state.Reachable) : state.Sound := by
  induction h with
  | initial => exact sound_initial
  | step _ hstep ih => exact hstep.sound ih

theorem Run.sound (h : state.Sound) (hrun : Run state trace later) : later.Sound := by
  induction hrun with
  | nil => exact h
  | cons hstep _ ih => exact ih (hstep.sound h)

/-- A rule becomes inactive when a call on that very rule fails, and only then. -/
theorem Step.isActive_eq_false_iff (h : state.Sound) (hstep : Step state event later)
    (hheld : state.Holds definition stored) (hactive : state.rules.isActive stored = true) :
    later.rules.isActive stored = false ↔
      ∃ who detail, event = .failure who detail ∧ state.Calling who definition stored := by
  constructor
  · intro hinactive
    have hchanged : later.rules.isActive stored ≠ state.rules.isActive stored := by
      rw [hinactive, hactive]
      exact Bool.false_ne_true
    cases event with
    | act who action =>
        rcases hstep.act_rules with hrules | ⟨other, failed, detail, hcalling, rfl, hrules⟩
        · exact absurd (by rw [hrules]) hchanged
        · rw [hrules, RuleStore.isActive_deactivate, hactive, Bool.true_and,
            bne_eq_false_iff_eq] at hinactive
          -- The failed rule is held with the same number, so it is the rule.
          obtain ⟨rfl, rfl⟩ :=
            h.unambiguous.unique (h.holds_of_calling hcalling) hheld hinactive.symm
          exact ⟨who, detail, rfl, hcalling⟩
    | _ =>
        cases hstep
        exact absurd rfl hchanged
  · rintro ⟨who, detail, rfl, hcalling⟩
    exact hstep.isActive_of_failure hcalling

/-- A consumption does not deactivate a rule that came after the consumption. -/
theorem Run.isActive_of_act (h : state.Sound) (hrun : Run state trace middle)
    {action : Action α} (hstep : Step middle (.act who action) later)
    (hwho : who < state.consumptions.length) (hstored : state.rules.next ≤ stored.number) :
    later.rules.isActive stored = middle.rules.isActive stored := by
  rcases hstep.act_rules with hrules | ⟨_, failed, _, ⟨caller, rest, hcaller, -, hstage⟩, -, hrules⟩
  · rw [hrules]
  · have hbefore := List.getElem?_eq_getElem hwho
    obtain ⟨after, hafter, hfollows⟩ := hrun.follows hbefore
    obtain rfl : after = caller := Option.some.inj (hafter.symm.trans hcaller)
    have htaken := (hrun.sound h).mem_taken hcaller hstage
    rw [hfollows.taken] at htaken
    have hissued : failed.number < state.rules.next :=
      h.unambiguous.issued (.inr ⟨_, List.getElem_mem hwho, rfl, htaken⟩)
    have hne : stored.number ≠ failed.number := by omega
    rw [hrules, RuleStore.isActive_deactivate, bne_iff_ne.2 hne, Bool.and_true]

/-- A consumption that starts calls rules of the list it takes, in order. -/
theorem Run.calls_of_start (hstep : Step state (.start definition) middle)
    (hrun : Run middle trace later) :
    (callsOf state.consumptions.length trace).Sublist (state.rules.list definition) := by
  cases hstep with
  | start =>
      obtain ⟨after, -, hfollows⟩ := hrun.follows List.getElem?_concat_length
      exact (List.sublist_append_left _ _).trans hfollows.calls

theorem mem_of_mem_callsOf (h : stored ∈ callsOf who trace) : .act who (.call stored) ∈ trace := by
  obtain ⟨event, hmem, hcalled⟩ := List.mem_filterMap.1 h
  unfold Event.calledBy? at hcalled
  split at hcalled
  · split at hcalled
    · rename_i heq
      rw [Option.some.injEq] at hcalled
      rw [heq, hcalled] at hmem
      exact hmem
    · cases hcalled
  · cases hcalled

/-- A rule that is inactive is called by nobody from then on. -/
theorem Run.not_mem_callsOf (hrun : Run state trace later)
    (hinactive : state.rules.isActive stored = false) (who : Nat) : stored ∉ callsOf who trace := by
  intro hcalled
  have hactive := hrun.isActive_of_call (mem_of_mem_callsOf hcalled)
  rw [hinactive] at hactive
  cases hactive

theorem Run.isActive_eq_false (hrun : Run state trace later)
    (hinactive : state.rules.isActive stored = false) : later.rules.isActive stored = false := by
  rw [← Bool.not_eq_true] at hinactive ⊢
  exact fun hlater => hinactive (hrun.isActive_before hlater)

/-- What holds of a state however it goes on from there. -/
structure Safe (state : Resolver α) : Prop where
  /-- An inactive rule stays inactive, and nobody starts a call on it. -/
  inactive : ∀ {trace later stored}, Run state trace later →
    state.rules.isActive stored = false →
      later.rules.isActive stored = false ∧ ∀ who, stored ∉ callsOf who trace
  called : ∀ {who stored later}, Step state (.act who (.call stored)) later →
    state.rules.isActive stored = true
  /-- A consumption calls rules of the list it took when it started, in order and
  each at most once, whatever happens to the list of the definition. -/
  ordered : ∀ {definition middle trace later}, Step state (.start definition) middle →
    Run middle trace later →
      (callsOf state.consumptions.length trace).Sublist (state.rules.list definition) ∧
        (callsOf state.consumptions.length trace).Pairwise
          fun left right => left.number < right.number
  /-- A rule becomes inactive exactly when a call on that very rule fails. -/
  deactivated : ∀ {event later definition stored}, Step state event later →
    state.Holds definition stored → state.rules.isActive stored = true →
      (later.rules.isActive stored = false ↔
        ∃ who detail, event = .failure who detail ∧ state.Calling who definition stored)
  /-- Consumptions that were under way leave the rules of a new list alone. -/
  replaced : ∀ {definition rules middle trace between who action later},
    Step state (.replace definition rules) middle → Run middle trace between →
      Step between (.act who action) later → who < state.consumptions.length →
        ∀ stored ∈ middle.rules.list definition,
          later.rules.isActive stored = between.rules.isActive stored
  /-- An insertion keeps the rules there are, and their flags. -/
  inserted : ∀ {rule later}, Step state (.insert rule) later → ∀ definition,
    later.rules.list definition =
        state.rules.list definition ++
          (if definition = rule.service.definition then [⟨state.rules.next, rule⟩] else []) ∧
      ∀ stored ∈ state.rules.list definition,
        later.rules.isActive stored = state.rules.isActive stored
  /-- Once a call through a rule has failed, nobody calls the rule, whichever list
  the failed call came from and whatever has been inserted. -/
  seen : ∀ {who definition stored detail middle trace later},
    state.Calling who definition stored → Step state (.failure who detail) middle →
      Run middle trace later → later.rules.isActive stored = false ∧
        ∀ newcomer, stored ∉ callsOf newcomer trace
  /-- A consumption that is given up changes nothing and does nothing more. -/
  cancelled : ∀ {who middle trace later}, Step state (.act who .cancel) middle →
    Run middle trace later → middle.rules = state.rules ∧
      (∀ action, .act who action ∉ trace) ∧
        ∃ consumption, later.consumptions[who]? = some consumption ∧
          consumption.stage = .cancelled
  /-- A consumption that nothing interferes with is `RuleStore.resolve`. -/
  alone : ∀ {σ : Type} (call : OrchestrationRule → StateM σ (Except Error α)) definition world,
    ∃ attempts trace result after last,
      (state.rules.resolve definition call).run world = ((result, after), last) ∧
        Calls call world attempts last ∧ Performs state.consumptions.length attempts trace ∧
        Run state (.start definition :: trace) ⟨after, state.consumptions ++
          [⟨definition, state.rules.list definition, .returned result⟩]⟩

theorem Step.cancelled (hstep : Step state (.act who .cancel) middle) :
    middle.rules = state.rules ∧ ∃ consumption, middle.consumptions[who]? = some consumption ∧
      consumption.stage = .cancelled := by
  cases hstep with
  | act hwho hmove =>
      have hlt := (List.getElem?_eq_some_iff.1 hwho).1
      obtain ⟨rfl, rfl⟩ := hmove.of_cancel
      exact ⟨rfl, _, List.getElem?_set_self hlt, rfl⟩

theorem run_resolve {σ : Type} (call : OrchestrationRule → StateM σ (Except Error α))
    (state : Resolver α) (definition : String) (world : σ) :
    ∃ attempts trace result after last,
      (state.rules.resolve definition call).run world = ((result, after), last) ∧
        Calls call world attempts last ∧ Performs state.consumptions.length attempts trace ∧
        Run state (.start definition :: trace) ⟨after, state.consumptions ++
          [⟨definition, state.rules.list definition, .returned result⟩]⟩ := by
  obtain ⟨attempts, trace, result, after, last, hrun, hcalls, hperforms, hsteps⟩ :=
    run_attempt call definition (state.rules.list definition) (state.rules.list definition)
      state.rules _ world List.getElem?_concat_length
  refine ⟨attempts, trace, result, after, last, hrun, hcalls, hperforms, .cons (.start _) ?_⟩
  rw [List.set_append_right _ _ (Nat.le_refl _), Nat.sub_self] at hsteps
  exact hsteps

/-- Every state the resolver can come to is safe. -/
theorem safe_of_reachable (hreachable : state.Reachable) : state.Safe where
  inactive hrun hinactive :=
    ⟨hrun.isActive_eq_false hinactive, hrun.not_mem_callsOf hinactive⟩
  called hstep := hstep.isActive_of_call
  ordered {definition middle trace later} hstep hrun := by
    have hcalls := hrun.calls_of_start hstep
    exact ⟨hcalls, (hreachable.sound.wellNumbered.ascending definition).sublist hcalls⟩
  deactivated hstep := hstep.isActive_eq_false_iff hreachable.sound
  replaced hreplace hrun hstep hwho stored hstored := by
    refine Run.isActive_of_act hreachable.sound (.cons hreplace hrun) hstep hwho ?_
    cases hreplace with
    | replace =>
        rw [RuleStore.list_replace, if_pos rfl] at hstored
        exact (RuleStore.number_bounds _ stored hstored).1
  inserted hstep definition := by
    cases hstep with
    | insert rule =>
        refine ⟨?_, fun stored _ => rfl⟩
        rw [RuleStore.list_insert]
        split
        · rfl
        · rw [List.append_nil]
  seen hcalling hstep hrun := by
    have hinactive := hstep.isActive_of_failure hcalling
    exact ⟨hrun.isActive_eq_false hinactive, hrun.not_mem_callsOf hinactive⟩
  cancelled hstep hrun := by
    obtain ⟨hrules, consumption, hwho, hstage⟩ := hstep.cancelled
    obtain ⟨after, hafter, hfollows⟩ := hrun.follows hwho
    have hended : ¬ consumption.stage.Working := by
      rw [hstage]
      exact id
    obtain ⟨rfl, hnone⟩ := hfollows.ended hended
    exact ⟨hrules, hnone, after, hafter, hstage⟩
  alone call definition world := run_resolve call state definition world

/-- A consumption still waits for the one rule of a list that has been replaced. -/
theorem safe_of_reachable_replaced :
    let interface : Interface := ⟨"HTTP", "INSECURE", "JSON"⟩
    let service : Service := ⟨"echo", "echo", interface, .unrestricted, ∅, none⟩
    let first : OrchestrationRule := .ofParts service ⟨"first", "127.0.0.1", 7001, none⟩ "GET"
    let second : OrchestrationRule := .ofParts service ⟨"second", "127.0.0.1", 7002, none⟩ "GET"
    let state : Resolver Reply := {
      rules := (RuleStore.empty.insert first).replace "echo" [second]
      consumptions := [⟨"echo", [⟨0, first⟩], .calling ⟨0, first⟩ []⟩] }
    state.Reachable ∧ state.Safe := by
  intro interface service first second state
  have hlist : (RuleStore.empty.insert first).list "echo" = [⟨0, first⟩] := by
    rw [RuleStore.list_insert]
    rfl
  let begun : Consumption Reply := ⟨"echo", [⟨0, first⟩], .choosing [⟨0, first⟩]⟩
  let waiting : Resolver Reply := ⟨RuleStore.empty.insert first, [begun]⟩
  have hinserted : (⟨RuleStore.empty.insert first, []⟩ : Resolver Reply).Reachable :=
    .step .initial (.insert first)
  have hwaiting : waiting.Reachable := by
    have hstep := hinserted.step (.start "echo")
    rw [started, hlist] at hstep
    exact hstep
  have hwho : waiting.consumptions[0]? = some begun := rfl
  have hmove : Move "echo" waiting.rules begun.stage (.call ⟨0, first⟩) (.calling ⟨0, first⟩ [])
      waiting.rules := .call rfl
  have hcalling := hwaiting.step (.act hwho hmove)
  have hreachable : state.Reachable := hcalling.step (.replace "echo" [second])
  exact ⟨hreachable, safe_of_reachable hreachable⟩

end LocalCloud.Resolver
