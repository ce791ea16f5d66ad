/-
Evidence that is delivered again: as long as no restart finds an attempt in flight that the journal
knows evidence of, what was persisted once is never applied again, restarts or not.
-/
import RolloutFabric.Safety.Attempts
import RolloutFabric.Safety.Verification

namespace RolloutFabric

variable {ρ : Type} {env : Env ρ} {spare restarts : Bool}

/-! ## What is persisted -/

/-- A snapshot of the rollout landed in the journal before the controller was opened again. -/
def SavedIn (rollout : RolloutId) (t : List Event) : Prop :=
  ∃ l₁ e l₂, t = l₁ ++ e :: l₂ ∧ (∃ r : Rollout, e.Lands r ∧ r.id = rollout)
    ∧ ∀ incarnation, .opened incarnation ∉ l₁

/-- The record was applied to the attempt since it was dispatched, and the journal knows. -/
def Persisted (trace : List Event) (id : AttemptId) (record : EvidenceRecord) : Prop :=
  AppliedSince (fun record => SavedIn record.rollout) trace id record

/-- The record was applied to the attempt since it was dispatched, and the journal or the running
controller knows. -/
def Remembered (trace : List Event) (id : AttemptId) (record : EvidenceRecord) : Prop :=
  AppliedSince (fun record t => (∀ incarnation, .opened incarnation ∉ t)
    ∨ SavedIn record.rollout t) trace id record

theorem Persisted.remembered {t : List Event} {id : AttemptId} {record : EvidenceRecord}
    (h : Persisted t id record) : Remembered t id record := AppliedSince.weaken h fun _ => .inr

/-- A snapshot that landed after more had happened, if it was not there before. -/
theorem SavedIn.before {rollout : RolloutId} {t l : List Event} (h : SavedIn rollout (t ++ l)) :
    (∀ incarnation, .opened incarnation ∉ t) ∨ SavedIn rollout t := by
  obtain ⟨l₁, e, l₂, heq, hlands, hnone⟩ := h
  rcases List.append_eq_append_iff.1 heq with ⟨l', rfl, -⟩ | ⟨l', rfl, hl⟩
  · exact .inl fun incarnation hmem => hnone incarnation (List.mem_append_left _ hmem)
  · cases l' with
    | nil =>
      rw [List.append_nil]
      exact .inl hnone
    | cons x l' =>
      obtain ⟨rfl, -⟩ := List.cons.inj hl
      exact .inr ⟨l₁, _, l', rfl, hlands, hnone⟩

theorem remembered_append {t l : List Event} {id : AttemptId} {record : EvidenceRecord}
    (h : Remembered (t ++ l) id record) :
    Remembered t id record ∧ (∀ a step, .dispatched a step ∈ l → a.id ≠ id)
      ∨ ∃ attempt generation current, .applied record attempt generation current ∈ l
        ∧ record.attempt = id := by
  refine (appliedSince_append h).imp_left fun ⟨hold, hlast⟩ => ⟨hold.weaken fun t₂ h => ?_, hlast⟩
  rcases h with h | h
  · exact .inl fun incarnation hmem => h incarnation (List.mem_append_left _ hmem)
  · exact h.before

/-- What is known after the controller was opened again is what the journal knew. -/
theorem remembered_opened {t l : List Event} {incarnation : IncarnationId} {id : AttemptId}
    {record : EvidenceRecord} (h : Remembered (t ++ .opened incarnation :: l) id record)
    (hl : ∀ attempt generation current, .applied record attempt generation current ∉ l) :
    Persisted t id record := by
  rcases appliedSince_append h with ⟨hold, -⟩ | ⟨attempt, generation, current, hmem, -⟩
  · refine hold.weaken fun t₂ h => ?_
    rcases h with h | ⟨l₁, e, l₂, heq, hlands, hnone⟩
    · exact absurd (by simp) (h incarnation)
    · rcases List.append_eq_append_iff.1 heq with ⟨l', rfl, hl'⟩ | ⟨l', rfl, hl'⟩
      · cases l' with
        | nil =>
          obtain ⟨rfl, -⟩ := List.cons.inj hl'
          obtain ⟨r, hland, -⟩ := hlands
          cases hland
        | cons x l' =>
          obtain ⟨rfl, -⟩ := List.cons.inj hl'
          exact absurd (by simp) (hnone incarnation)
      · cases l' with
        | nil =>
          obtain ⟨rfl, -⟩ := List.cons.inj hl'
          obtain ⟨r, hland, -⟩ := hlands
          cases hland
        | cons x l' =>
          obtain ⟨rfl, -⟩ := List.cons.inj hl'
          exact ⟨l₁, _, l', rfl, hlands, hnone⟩
  · rcases List.mem_cons.1 hmem with hmem | hmem
    · cases hmem
    · exact absurd hmem (hl _ _ _)

/-! ## Applied once -/

/-- No evidence of an attempt is known where it is rebuilt. -/
def Unspent (t : List Event) : Event → Prop
  | .rebuilt attempt _ _ => ∀ record, ¬ Remembered t attempt.id record
  | _ => True

/-- An entry has heard all that is known of its attempt. -/
def Heard (t : List Event) (id : AttemptId) (a : Attempt) : Prop :=
  Each Unspent t → ∀ record, Remembered t id record → record.sequence ≤ a.highestSequence

/-- A record is applied only where it is newer than all that is known of its attempt. -/
def Newer (t : List Event) : Event → Prop
  | .applied record _ _ _ => Each Unspent t → ∀ earlier, Remembered t record.attempt earlier →
      earlier.sequence < record.sequence
  | _ => True

theorem heard_tabled : Tabled restarts Heard where
  grows h hl hclean record hr := by
    rcases remembered_append hr with ⟨hold, -⟩ | ⟨attempt, generation, current, hmem, hid⟩
    · exact h (hclean.initial (List.prefix_append ..)) record hold
    · exact absurd hid (hl _ _ _ _ hmem)
  congr h _ hsequence hclean record hr := hsequence ▸ h hclean record hr
  applied h hlt _ hsequence hclean earlier hr := by
    rw [hsequence]
    rcases remembered_append hr with ⟨hold, -⟩ | ⟨_, _, _, hmem, -⟩
    · have hle := h (hclean.initial (List.prefix_append ..)) earlier hold
      exact UInt64.le_of_lt (UInt64.lt_of_le_of_lt hle hlt)
    · obtain ⟨rfl, -⟩ := Event.applied.inj (List.mem_singleton.1 hmem)
      exact UInt64.le_refl _
  dispatched t attempt step place state _ earlier hr := by
    rcases remembered_append hr with ⟨-, hlast⟩ | ⟨_, _, _, hmem, -⟩
    · exact absurd rfl (hlast attempt step (List.mem_cons_self ..))
    · simp at hmem
  rebuilt _ t attempt step state hclean earlier hr := by
    rcases remembered_append hr with ⟨hold, -⟩ | ⟨_, _, _, hmem, -⟩
    · exact absurd hold (hclean t _ [] rfl earlier)
    · simp at hmem

theorem newer_recorded : Recorded env restarts Heard (fun _ _ => True) Newer where
  toTabled := heard_tabled
  extended _ _ _ _ := trivial
  blank _ _ _ := trivial
  adopted _ _ _ := trivial
  act _ _ _ _ _ := trivial
  events v a hg _ htable _ _ e hmem := by
    cases e with
    | applied record attempt generation current =>
      obtain ⟨-, j, i, rfl⟩ := Act.of_applied hmem
      intro hclean earlier hr
      exact UInt64.lt_of_le_of_lt (htable _ _ hg.found hclean earlier hr) hg.sequence
    | _ => trivial
  second _ _ _ _ _ _ := trivial
  noted _ _ he := by cases he <;> trivial

/-! ## What a restart rebuilds -/

/-- The rollouts a restart reads back. -/
def readBack (env : Env ρ) (trace : List Event) : List Rollout :=
  match ((journalRecords trace).map Prod.fst).foldlM (recoverRecord env.limits) {} with
  | .ok found => found.inOrder
  | .error _ => []

/-- The attempt is the current one of a target that is in flight. -/
def Rollout.Outstanding (r : Rollout) (id : AttemptId) : Prop :=
  id ≠ .nil ∧ ∃ j i, (r.targetAt j i).currentAttempt = id
    ∧ (r.targetAt j i).state.countsAsChanging = true

/-- What a restart logs of the rollouts it reads back. -/
def Event.Revives (rs : List Rollout) : Event → Prop
  | .rebuilt attempt _ _ => ∃ r ∈ rs, r.Outstanding attempt.id
  | .applied .. => False
  | _ => True

/-- The trace grew by what a restart logs. -/
def Revived (rs : List Rollout) (t t' : List Event) : Prop :=
  ∃ l, t' = t ++ l ∧ ∀ e ∈ l, e.Revives rs

theorem Revived.refl (rs : List Rollout) (t : List Event) : Revived rs t t :=
  ⟨[], (List.append_nil t).symm, fun _ h => by cases h⟩

theorem Revived.trans {rs : List Rollout} {t t' t'' : List Event} (h : Revived rs t t')
    (h' : Revived rs t' t'') : Revived rs t t'' := by
  obtain ⟨l, rfl, hl⟩ := h
  obtain ⟨l', rfl, hl'⟩ := h'
  refine ⟨l ++ l', by simp, fun e he => ?_⟩
  exact (List.mem_append.1 he).elim (hl e) (hl' e)

theorem revived_of_write {rs : List Rollout} {v v' : View}
    (h : Relation.ReflTransGen (MachineStep env Act.isWrite) v v') :
    Revived rs v.trace v'.trace := by
  induction h with
  | refl => exact .refl ..
  | @tail v₁ _ _ hstep ih =>
    obtain ⟨a, ha, -, -, rfl⟩ := hstep
    refine ih.trans ⟨a.events v₁, a.trace_run v₁, fun e he => ?_⟩
    cases a with
    | append => exact List.mem_singleton.1 he ▸ trivial
    | latch => cases he
    | _ => cases ha

/-- Restoring keeps the targets, or takes their attempts. -/
theorem revived_of_restoring {rs : List Rollout} {r : Rollout} (hr : r ∈ rs) {v v' : View}
    (h : Relation.ReflTransGen (MachineStep env Act.isRestoring) v v')
    (hv : v.rollout = r.core) :
    Revived rs v.trace v'.trace ∧ ∀ j i, (v'.rollout.targetAt j i).currentAttempt = .nil
      ∨ v'.rollout.targetAt j i = r.core.targetAt j i := by
  induction h with
  | refl => exact ⟨.refl .., fun j i => .inr (by rw [hv])⟩
  | @tail v₁ _ _ hstep ih =>
    obtain ⟨hrevived, htargets⟩ := ih
    obtain ⟨a, ha, hg, -, rfl⟩ := hstep
    cases a with
    | rebuild j i attempt =>
      refine ⟨hrevived.trans ⟨_, Act.trace_run _ _, fun e he => ?_⟩, htargets⟩
      obtain rfl := List.mem_singleton.1 he
      obtain ⟨-, -, hcurrent, hnamed, hchanging, -⟩ := hg
      rcases htargets j i with hnil | hsame
      · exact absurd (hcurrent.symm.trans hnil) hnamed
      · change (v₁.rollout.targetAt j i).currentAttempt = _ at hcurrent
        change (v₁.rollout.targetAt j i).state.countsAsChanging = _ at hchanging
        rw [hsame, ← Rollout.core_targetAt] at hcurrent hchanging
        exact ⟨r, hr, hnamed, j, i, hcurrent, hchanging⟩
    | alter j i t =>
      refine ⟨hrevived, fun k l => ?_⟩
      change ((v₁.rollout.modifyTarget j i fun _ => t).targetAt k l).currentAttempt = .nil
        ∨ (v₁.rollout.modifyTarget j i fun _ => t).targetAt k l = _
      rw [RolloutCore.targetAt_modifyTarget]
      split
      · exact .inl (by simpa [Act.isRestoring] using ha)
      · exact htargets k l
    | evict id => exact ⟨hrevived, htargets⟩
    | _ => cases ha

theorem restore_revived {rs : List Rollout} {o : Orchestrator ρ} {r : Rollout} {plan : ChangePlan}
    (hr : r ∈ rs) : Revived rs o.impl.trace (restore env o r plan).2.impl.trace := by
  unfold restore
  split
  · exact .refl ..
  cases plan.validate env.limits with
  | error s => exact .refl ..
  | ok plan =>
  dsimp only
  split
  · exact .refl ..
  split
  · exact .refl ..
  let noted : Impl ρ := { o.impl with trace := o.impl.trace ++ [.restored r] }
  have hadopted : (r.adopt o.impl).core = r.core := rfl
  have hperforms : Performs env Act.isRestoring (fun _ => False)
      (World.core { impl := noted, rollout := r.adopt o.impl })
      (restoreTargets env r.incarnation (r.adopt o.impl))
      fun _ c' => ∀ j i, c'.rollout.Released j i := restoreTargets_performs rfl
  have hrun := (hperforms { impl := noted, rollout := r.adopt o.impl } rfl).1
  change Revived rs o.impl.trace
    ((restoreTargets env r.incarnation (r.adopt o.impl)).exec _).2.impl.trace
  have hnoted : Revived rs o.impl.trace noted.trace :=
    ⟨[.restored r], rfl, fun e he => List.mem_singleton.1 he ▸ trivial⟩
  exact hnoted.trans (revived_of_restoring hr hrun hadopted).1

theorem adoptAll_revived {rs rs' : List Rollout} {plans : Map PlanId ChangePlan}
    {o : Orchestrator ρ} (hrs : ∀ r ∈ rs', r ∈ rs) :
    Revived rs o.impl.trace (rs'.foldl (adoptRollout env plans) o).impl.trace := by
  induction rs' generalizing o with
  | nil => exact .refl ..
  | cons r rs' ih =>
    refine Revived.trans ?_ (ih fun r' hr' => hrs r' (List.mem_cons_of_mem _ hr'))
    unfold adoptRollout
    cases plans.lookup r.planId with
    | none => exact .refl ..
    | some plan => exact restore_revived (hrs r (List.mem_cons_self ..))

theorem appendJournal_revived {rs : List Rollout} {entry : JournalEntry} {w₀ w : World ρ}
    {status : Except Status Unit} (hexec : (appendJournal env entry).exec w₀ = (status, w))
    (hentry : entry.Describes w₀.view.rollout) : Revived rs w₀.impl.trace w.impl.trace := by
  have hperforms : Performs env Act.isWrite WriteFault w₀.core (appendJournal env entry)
      fun _ c' => c' = w₀.core := appendJournal_performs hentry
  have hsteps := (hperforms w₀ rfl).1
  rw [hexec] at hsteps
  exact revived_of_write hsteps

/-- A restart logs that the controller was opened, and revives what it reads back. -/
theorem openController_revived (entropy : Entropy) (trace : List Event) (outside : ρ) :
    (openController env entropy trace outside).trace = trace
      ∨ ∃ incarnation, Revived (readBack env trace) (trace ++ [.opened incarnation])
        (openController env entropy trace outside).trace := by
  unfold openController
  split
  · exact .inl rfl
  dsimp only
  generalize hexec : Program.exec (appendJournal env _) _ = result
  obtain ⟨claimed, w⟩ := result
  let ids : IdFactory := { seed := entropy.controller }
  let incarnation := (ids.next .incarnation .incarnation).1
  refine .inr ⟨incarnation, ?_⟩
  have hclaimed : Revived (readBack env trace) (trace ++ [.opened incarnation]) w.impl.trace :=
    appendJournal_revived hexec trivial
  dsimp only
  split
  · next found hscan =>
    refine Revived.trans hclaimed (adoptAll_revived (o := {
      impl := { w.impl with inventory := found.inventory }, held := [] }) fun r hr => ?_)
    rw [readBack, hscan]
    exact hr
  · exact hclaimed

/-! ## Runs -/

/-- A restart finds no attempt in flight that the journal knows evidence of. -/
def Step.Unspent (env : Env ρ) (n : Node ρ) : Step ρ → Prop
  | .restart _ => ∀ r ∈ readBack env n.trace, ∀ id, r.Outstanding id →
      ∀ record, ¬ Persisted n.trace id record
  | _ => True

/-- Without a restart nothing is rebuilt. -/
theorem unspent_kept : Kept env (Act.spares false false) (fun _ _ => True) Unspent where
  grows _ _ _ h := h
  blank _ _ _ := trivial
  act _ _ _ _ _ _ h := h
  events v a ha _ _ _ _ e hmem := by
    cases e with
    | rebuilt attempt step state =>
      cases a with
      | rebuild => cases ha
      | gate j id kind =>
        simp only [Act.events] at hmem
        split at hmem <;> simp at hmem
      | _ => simp [Act.events] at hmem
    | _ => trivial
  second _ _ _ _ _ _ := trivial
  rewritten _ _ _ _ _ := trivial
  opened _ _ := trivial
  recovered _ _ := trivial

theorem unspent_step {o : Orchestrator ρ} {i : Input} (hs : o.sys.Holds (View.Sound env))
    (h : Each Unspent o.impl.trace) : Each Unspent (o.step env i).impl.trace := by
  have hholds : o.sys.Holds fun v => True ∧ Each (Saves fun _ _ => True) v.trace
      ∧ Each Unspent v.trace := fun r _ => ⟨trivial, fun _ _ _ _ _ _ => trivial, h⟩
  have hreach : Reaches env false false o.sys (o.step env i).sys :=
    step_reaches hs fun _ => spares_false o
  exact (unspent_kept.carried.steps hreach hs hholds).2.blank.2.2

theorem unspent_restart {entropy : Entropy} {trace : List Event} {outside : ρ}
    (h : Each Unspent trace) (hfree : ∀ r ∈ readBack env trace, ∀ id, r.Outstanding id →
      ∀ record, ¬ Persisted trace id record) :
    Each Unspent (openController env entropy trace outside).trace := by
  have hcases : (openController env entropy trace outside).trace = trace ∨ _ :=
    openController_revived entropy trace outside
  rcases hcases with heq | ⟨incarnation, hrevived⟩
  · rw [heq]
    exact h
  · obtain ⟨l, heq, hl⟩ := hrevived
    rw [heq, List.append_assoc]
    refine h.append fun l₁ e l₂ hsplit => ?_
    cases l₁ with
    | nil =>
      obtain ⟨rfl, -⟩ := List.cons.inj hsplit
      trivial
    | cons x l₁ =>
      obtain ⟨rfl, rfl⟩ := List.cons.inj hsplit
      cases e with
      | rebuilt attempt step state =>
        intro record hremembered
        obtain ⟨r, hr, hout⟩ := hl _ (List.mem_append_right _ (List.mem_cons_self ..))
        refine hfree r hr attempt.id hout record (remembered_opened hremembered ?_)
        intro attempt generation current hmem
        exact hl _ (List.mem_append_left _ hmem)
      | _ => trivial

theorem unspent_run {n : Node ρ} (hn : n.Initial) {steps : List (Step ρ)}
    (hsteps : ∀ before step after, steps = before ++ step :: after →
      step.Unspent env (n.run env before)) : Each Unspent (n.run env steps).trace := by
  induction steps using List.reverseRecOn with
  | nil =>
    rw [← Node.sys_trace]
    exact (congrArg Sys.trace hn.sys_eq) ▸ .nil
  | append_singleton steps step ih =>
    have hbefore := ih fun before s after heq =>
      hsteps before s (after ++ [step]) (by rw [heq]; simp)
    have hstep := hsteps steps step [] rfl
    have hsound : (n.run env steps).sys.Holds (View.Sound env) := sound_of_run hn steps
    rw [Node.run_append]
    cases hnode : n.run env steps with
    | running o =>
      rw [hnode] at hbefore hsound
      cases step with
      | input i => exact unspent_step hsound hbefore
      | crash during boundary outside =>
        exact (unspent_step (i := during) hsound hbefore).initial (List.take_prefix ..)
      | restart entropy => exact hbefore
    | stopped trace outside =>
      rw [hnode] at hbefore hstep
      cases step with
      | restart entropy => exact unspent_restart hbefore hstep
      | input i => exact hbefore
      | crash during boundary outside => exact hbefore

def Event.applies (record : EvidenceRecord) : Event → Bool
  | .applied r _ _ _ => r == record
  | _ => false

/-- A verification passed, and a later one failed. -/
def verifiedThenFailed : Orchestrator Unit :=
  (deliver volatileEnv ({}, verifiedNode.orchestrator)
    [(verifiedPass 1, ⟨1000⟩), ({ verifiedPass 2 with kind := .verificationFailed }, ⟨1000⟩)]).2

/-- A new controller adopts what the journal keeps of that rollout. -/
def verifiedRestored : Status × Orchestrator Unit :=
  restore volatileEnv twinOrchestrator (verifiedThenFailed.standing 0).rollout.persisted verifiedPlan

/-- The report that passed is delivered again. -/
def verifiedAgain : Orchestrator Unit :=
  (drainRecord volatileEnv ⟨1000⟩ ({}, verifiedRestored.2) (verifiedPass 1)).2

end RolloutFabric
