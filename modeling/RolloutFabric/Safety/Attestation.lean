/-
Who vouches for a target: what a worker's evidence frame does to the health and the verification
of the targets, and through them to the gates.
-/
import RolloutFabric.Adapter.Process
import RolloutFabric.Orchestrator.Overlooked
import RolloutFabric.Safety.Verification

namespace RolloutFabric

open Program

variable {ρ : Type} {env : Env ρ}

/-! ## What others vouch for -/

def StageRuntime.attested (s : StageRuntime) : List Attested := s.targets.map TargetRuntime.attested

def Rollout.attested (r : Rollout) : List (List Attested) := r.stages.map StageRuntime.attested

def Orchestrator.attested (o : Orchestrator ρ) : List (List (List Attested)) :=
  o.held.map fun h => h.rollout.attested

/-- A succeeded target with this health stops the health gate. -/
def TargetRuntime.lacksHealth (policy : HealthGatePolicy) (t : TargetRuntime) : Bool :=
  !t.healthy || decide (t.consecutiveHealthy < policy.minConsecutiveHealthy)
    || !t.lastHealthOriginLive

theorem blocksHealth_eq (policy : HealthGatePolicy) (t : TargetRuntime) :
    blocksHealth policy t = (t.state == .succeeded && t.lacksHealth policy) := rfl

/-- The gates read nothing else of a target that succeeded. -/
theorem gates_of_attested {t t' : TargetRuntime} (h : t'.attested = t.attested) :
    (∀ policy, t'.lacksHealth policy = t.lacksHealth policy)
      ∧ ∀ policy now limits,
        verificationBlocking policy now limits t' = verificationBlocking policy now limits t := by
  simp only [TargetRuntime.attested, Attested.mk.injEq] at h
  obtain ⟨htarget, hhealthy, hconsecutive, -, -, hlive, -, hat, hpassed, hverifier⟩ := h
  refine ⟨fun policy => ?_, fun policy now limits => ?_⟩
  · simp only [TargetRuntime.lacksHealth, hhealthy, hconsecutive, hlive]
  · simp only [verificationBlocking, htarget, hat, hpassed, hverifier]

/-! ## What leaves it alone -/

def World.attested (w : World ρ) : List (List Attested) := w.rollout.attested

theorem map_modify_eq_iff {α β : Type} {f : α → β} {g : α → α} {l : List α} {i : Nat} :
    (l.modify i g).map f = l.map f ↔ ∀ a, l[i]? = some a → f (g a) = f a := by
  constructor
  · intro h a ha
    have hi := congrArg (fun l : List β => l[i]?) h
    simpa [List.getElem?_modify, ha] using hi
  · intro h
    apply List.ext_getElem?
    intro n
    simp only [List.getElem?_map, List.getElem?_modify]
    by_cases hn : i = n
    · subst hn
      cases ha : l[i]? with
      | none => rfl
      | some a => simp [h a ha]
    · simp [hn]

/-- A change of one target changes what others vouch for exactly when it does so for the target. -/
theorem Rollout.attested_modifyTarget (r : Rollout) {j i : Nat} {f : TargetRuntime → TargetRuntime}
    (hj : j < r.stages.length) (hi : i < (r.stageAt j).targets.length) :
    (r.modifyTarget j i f).attested = r.attested
      ↔ (f (r.targetAt j i)).attested = (r.targetAt j i).attested := by
  have hstage : r.stages[j]? = some (r.stageAt j) := by simp [stageAt, hj]
  have htarget : (r.stageAt j).targets[i]? = some (r.targetAt j i) := by
    simp [targetAt, hi]
  unfold attested modifyTarget modifyStage
  rw [map_modify_eq_iff]
  constructor
  · intro h
    exact map_modify_eq_iff.1 (h _ hstage) _ htarget
  · intro h s hs
    obtain rfl := Option.some.inj (hstage.symm.trans hs)
    refine map_modify_eq_iff.2 fun t ht => ?_
    obtain rfl := Option.some.inj (htarget.symm.trans ht)
    exact h

theorem Rollout.attested_modifyTarget_same (r : Rollout) (j i : Nat)
    {f : TargetRuntime → TargetRuntime} (h : ∀ t, (f t).attested = t.attested) :
    (r.modifyTarget j i f).attested = r.attested :=
  map_modify_eq_iff.2 fun _ _ => map_modify_eq_iff.2 fun t _ => h t

/-- What others vouch for is all that is shown of a target. -/
theorem attested_overlooks (j i : Nat) : Overlooks Rollout.attested j i where
  settled _ := rfl
  target r _ h := r.attested_modifyTarget_same j i h
  stage _ _ h := map_modify_eq_iff.2 fun s _ => congrArg (List.map TargetRuntime.attested) (h s)

/-! ## Verifications -/

section Drain

variable {o : Orchestrator ρ} {record : EvidenceRecord} {now : Timestamp} {r : TickReport}
  {k j i : Nat} {a : Attempt}

theorem attested_put (w : World ρ) :
    (o.put k w).attested = o.attested.set k w.rollout.attested := by
  apply List.ext_getElem?
  intro n
  simp only [Orchestrator.put, Orchestrator.setRollout, Orchestrator.attested, List.getElem?_map,
    List.getElem?_modify, List.getElem?_set, List.length_map]
  by_cases hn : k = n
  · subst hn
    by_cases hk : k < o.held.length <;> simp [hk]
  · simp [hn]

/-- A function on the `k`-th rollout changes what others vouch for exactly when it does so there. -/
theorem attested_on (hk : k < o.held.length) (m : Op ρ Unit) :
    (o.on k r m).2.attested = o.attested
      ↔ (m.exec (o.world k r)).2.attested = (o.heldAt k).rollout.attested := by
  have hat : o.attested[k]? = some (o.heldAt k).rollout.attested := by
    simp [Orchestrator.attested, Orchestrator.heldAt, hk]
  show (o.put k _).attested = o.attested ↔ _
  rw [attested_put]
  constructor
  · intro h
    have hset := congrArg (fun l => l[k]?) h
    obtain ⟨hlt, -⟩ := List.getElem?_eq_some_iff.1 hat
    rw [List.getElem?_set_self hlt, hat] at hset
    exact Option.some.inj hset
  · intro h
    obtain ⟨hlt, hsome⟩ := List.getElem?_eq_some_iff.1 hat
    change (World.rollout _).attested = _ at h
    rw [h, ← hsome, List.set_getElem_self]

/-- The verification finds in the target what it says. -/
def EvidenceRecord.Reverifies (record : EvidenceRecord) (t : TargetRuntime) : Prop :=
  t.verificationObservedAt = record.observedAt
    ∧ t.verificationPassed = (record.kind == .verificationPassed)
    ∧ t.verificationVerifier = record.verifier

theorem attested_verify (record : EvidenceRecord) (t : TargetRuntime) :
    (record.verify t).attested = t.attested ↔ record.Reverifies t := by
  simp only [EvidenceRecord.verify, TargetRuntime.attested, Attested.mk.injEq, true_and,
    EvidenceRecord.Reverifies]
  tauto

/-- A record that is admitted is applied to the rollout it names, and to nothing else. -/
theorem attested_admitted (htelemetry : record.isTelemetry = false)
    (hindex : o.index record.rollout = some k)
    (hadmitted : Admitted env o.impl (o.heldAt k).rollout record now j i a) :
    ∃ w : World ρ, w.rollout = (o.heldAt k).rollout ∧ w.impl.attempts = o.impl.attempts
      ∧ ((drainRecord env now (r, o) record).2.attested = o.attested
        ↔ ((Op.latch (applyEvidence env record now)).exec w).2.attested = w.attested) := by
  rw [drainRecord_admitted htelemetry hindex hadmitted]
  generalize ho' : o.count (fun c => { c with evidenceAccepted := c.evidenceAccepted + 1 }) = o'
  have hlt : k < o'.held.length := ho' ▸ index_lt hindex
  have hattested : o'.attested = o.attested := by
    subst ho'
    rfl
  refine ⟨o'.world k r, ?_, ?_, ?_⟩
  · subst ho'
    rfl
  · subst ho'
    rfl
  · rw [← hattested]
    exact attested_on hlt _

theorem drain_attempt_frames (htelemetry : record.isTelemetry = false)
    (hclass : evidenceClass record.kind ≠ .verification) :
    (drainRecord env now (r, o) record).2.attested = o.attested := by
  by_cases hadmitted : ∃ k j i a, o.index record.rollout = some k
      ∧ Admitted env o.impl (o.heldAt k).rollout record now j i a
  · obtain ⟨k, j, i, a, hindex, hadmitted⟩ := hadmitted
    obtain ⟨w, hroll, hattempts, hiff⟩ := attested_admitted (r := r) htelemetry hindex hadmitted
    refine hiff.2 ?_
    exact applyEvidence_kept Rollout.attested (hroll ▸ hadmitted.stage)
      (hroll ▸ hadmitted.target) (hattempts ▸ hadmitted.attempt)
      ((attested_overlooks j i).applyClass_frames hclass)
  · obtain ⟨f, hf⟩ : ∃ f, (drainRecord env now (r, o) record).2 = o.count f :=
      drainRecord_refused htelemetry fun k j i a hindex h => hadmitted ⟨k, j, i, a, hindex, h⟩
    rw [hf]
    rfl

theorem drain_verification_iff (hclass : evidenceClass record.kind = .verification) :
    (drainRecord env now (r, o) record).2.attested = o.attested
      ↔ ∀ k j i a, o.index record.rollout = some k →
        Admitted env o.impl (o.heldAt k).rollout record now j i a →
        record.Reverifies ((o.heldAt k).rollout.targetAt j i) := by
  have htelemetry : record.isTelemetry = false := by
    unfold EvidenceRecord.isTelemetry
    rw [hclass]
    rfl
  by_cases hadmitted : ∃ k j i a, o.index record.rollout = some k
      ∧ Admitted env o.impl (o.heldAt k).rollout record now j i a
  · obtain ⟨k, j, i, a, hindex, hadmitted⟩ := hadmitted
    obtain ⟨w, hroll, hattempts, hiff⟩ := attested_admitted (r := r) htelemetry hindex hadmitted
    obtain ⟨hj, hi⟩ := Rollout.find_range hadmitted.stage hadmitted.target
    have hverified : ((Op.latch (applyEvidence env record now)).exec w).2.attested
        = (w.rollout.modifyTarget j i record.verify).attested := by
      refine applyEvidence_standing (j := j) (i := i) (a := a)
        (q := fun v => v.rollout.attested = (w.rollout.modifyTarget j i record.verify).attested)
        (hroll ▸ hadmitted.stage) (hroll ▸ hadmitted.target) (hattempts ▸ hadmitted.attempt) ?_
      refine (effects_verify hclass).weaken fun _ v' hv' => ?_
      rw [hv']
      rfl
    rw [hiff, hverified, World.attested, hroll, Rollout.attested_modifyTarget _ hj hi,
      attested_verify]
    refine ⟨fun h k' j' i' a' hindex' hadmitted' => ?_, fun h => h k j i a hindex hadmitted⟩
    obtain rfl := Option.some.inj (hindex.symm.trans hindex')
    obtain rfl := Option.some.inj (hadmitted.stage.symm.trans hadmitted'.stage)
    obtain rfl := Option.some.inj (hadmitted.target.symm.trans hadmitted'.target)
    exact h
  · obtain ⟨f, hf⟩ : ∃ f, (drainRecord env now (r, o) record).2 = o.count f :=
      drainRecord_refused htelemetry fun k j i a hindex h => hadmitted ⟨k, j, i, a, hindex, h⟩
    rw [hf]
    exact ⟨fun _ k j i a hindex h => absurd ⟨k, j, i, a, hindex, h⟩ hadmitted, fun _ => rfl⟩

end Drain

/-! ## Health samples -/

theorem foldl_modify_range {α : Type} (l : List α) (g : α → α) :
    (List.range l.length).foldl (fun l j => l.modify j g) l = l.map g := by
  have hat (n m : Nat) : ((List.range n).foldl (fun l j => l.modify j g) l)[m]?
      = if m < n then (l[m]?).map g else l[m]? := by
    induction n with
    | zero => simp
    | succ n ih =>
      rw [List.range_succ, List.foldl_concat, List.getElem?_modify, ih]
      by_cases hm : n = m
      · subst hm
        simp
      · have hlt : m < n + 1 ↔ m < n := by omega
        simp [hm, hlt]
  apply List.ext_getElem?
  intro m
  rw [hat, List.getElem?_map]
  split
  · rfl
  · next hm => rw [List.getElem?_eq_none (by omega)]; rfl

/-- A sample reaches the target of the stage it names. -/
def StageRuntime.sample (limits : RuntimeLimits) (record : EvidenceRecord) (now : Timestamp)
    (s : StageRuntime) : StageRuntime :=
  match s.findTarget record.target with
  | none => s
  | some i => { s with targets := s.targets.modify i (applyHealth limits record now) }

def Rollout.sample (limits : RuntimeLimits) (record : EvidenceRecord) (now : Timestamp)
    (r : Rollout) : Rollout :=
  { r with stages := r.stages.map (StageRuntime.sample limits record now) }

section Samples

variable {o : Orchestrator ρ} {record : EvidenceRecord} {now : Timestamp} {r : TickReport}

theorem Rollout.modifyStage_congr {r : Rollout} {j : Nat} {f g : StageRuntime → StageRuntime}
    (h : f (r.stageAt j) = g (r.stageAt j)) : r.modifyStage j f = r.modifyStage j g := by
  simp only [modifyStage, mk.injEq, true_and, and_true]
  apply List.ext_getElem?
  intro n
  simp only [List.getElem?_modify]
  by_cases hn : j = n
  · subst hn
    cases hs : r.stages[j]? with
    | none => rfl
    | some s =>
      have hat : r.stageAt j = s := by simp [stageAt, hs]
      simpa [hat] using h
  · simp [hn]

theorem effects_sampleStage (j : Nat) (v : Standing) :
    Effects World.standing v (do
      let stage ← Op.stage (ρ := ρ) j
      match stage.findTarget record.target with
      | none => pure ()
      | some i => do
        let place ← Op.read fun w => w.rollout.place j i
        Op.updateTarget j i (applyHealth env.limits record now)
        Op.log (.observed place stage.policy.healthGate record now))
      fun _ v' => v' = v.modifyStage j (StageRuntime.sample env.limits record now) := by
  refine .bind effects_stage fun s v' ⟨hv', hs⟩ => ?_
  rw [hv', hs]
  split
  · next hnone =>
    refine .pure ?_
    have hsame : v.rollout.modifyStage j (StageRuntime.sample env.limits record now)
        = v.rollout.modifyStage j fun s => s :=
      Rollout.modifyStage_congr (by simp only [StageRuntime.sample, hnone])
    rw [Standing.modifyStage, hsame]
    simp [Rollout.modifyStage]
  · next i hsome =>
    refine .bind (effects_read _) fun _ v₁ h₁ => ?_
    rw [h₁.1]
    refine .bind (effects_updateTarget _) fun _ v₂ h₂ => ?_
    refine .weaken (effects_base (log_frames _) fun _ => rfl) fun _ v₃ h₃ => ?_
    rw [h₃, h₂, Standing.modifyTarget, Standing.modifyStage, Rollout.modifyTarget]
    congr 1
    exact Rollout.modifyStage_congr (by simp only [StageRuntime.sample, hsome])

theorem Standing.foldl_modifyStage (g : StageRuntime → StageRuntime) (l : List Nat) (v : Standing) :
    l.foldl (fun v j => v.modifyStage j g) v = { v with rollout := { v.rollout with
      stages := l.foldl (fun stages j => stages.modify j g) v.rollout.stages } } := by
  induction l generalizing v with
  | nil => rfl
  | cons j l ih => rw [List.foldl_cons, ih]; rfl

theorem effects_telemetryOn (v : Standing) :
    Effects World.standing v (telemetryOn (ρ := ρ) env record now) fun _ v' =>
      v' = { v with rollout := v.rollout.sample env.limits record now } := by
  unfold telemetryOn
  refine .bind (effects_read _) fun r v' ⟨hv', w, hw, hr⟩ => ?_
  have hstages : r.stages = v.rollout.stages := by
    rw [hr, ← hw]
    rfl
  rw [hv']
  split
  · refine .bind (.forM (fun v j _ => effects_sampleStage j v) v) fun _ v₁ h₁ => ?_
    refine .weaken (effects_base (latch_frames persistRollout_frames) (latch_returns _))
      fun _ v₂ h₂ => ?_
    rw [h₂, h₁, Standing.foldl_modifyStage, hstages, foldl_modify_range]
    rfl
  · next hnone =>
    refine .pure ?_
    have hsame : v.rollout.stages.map (StageRuntime.sample env.limits record now)
        = v.rollout.stages := by
      refine (List.map_congr_left fun s hs => ?_).trans (List.map_id _)
      have hs' : (s.findTarget record.target).isSome = false := by
        rw [← hstages] at hs
        have hall := hnone
        simp only [Rollout.holds, List.any_eq_true, not_exists, not_and] at hall
        exact Bool.eq_false_iff.2 (hall s hs)
      rw [Option.isSome_eq_false_iff, Option.isNone_iff_eq_none] at hs'
      simp only [StageRuntime.sample, hs', id]
    rw [Rollout.sample, hsame]

theorem settled_on {m : Op ρ Unit} {f : Rollout → Rollout} (k : Nat)
    (hm : ∀ v, Effects World.standing v m fun _ v' => v' = { v with rollout := f v.rollout }) :
    (o.on k r m).2.settled = o.settled.modify k f := by
  obtain ⟨_, -, h⟩ := hm _ (o.world k r) rfl
  show (o.put k _).settled = _
  rw [Orchestrator.settled_put]
  have hroll : (m.exec (o.world k r)).2.rollout.settled = f (o.heldAt k).rollout.settled :=
    congrArg Standing.rollout h
  rw [hroll]
  by_cases hk : k < o.held.length
  · have hk' : k < o.settled.length := by simpa [Orchestrator.settled] using hk
    have hat := Option.some.inj ((List.getElem?_eq_getElem hk').symm.trans
      (Orchestrator.heldAt_settled hk))
    rw [← hat]
    apply List.ext_getElem?
    intro n
    rw [List.getElem?_set, List.getElem?_modify]
    by_cases hn : k = n
    · subst hn
      simp [hk']
    · simp [hn]
  · have hk' : o.settled.length ≤ k := by simpa [Orchestrator.settled] using hk
    rw [List.set_eq_of_length_le hk', List.modify_eq_self hk']

theorem settled_telemetry (hfresh : (admissionFreshness env.limits record now).fresh = true) :
    (applyTelemetry env record now o).settled
      = o.settled.map (Rollout.sample env.limits record now) := by
  have hfold (l : List Nat) (o : Orchestrator ρ) :
      (l.foldl (fun o k => (o.on k {} (telemetryOn env record now)).2) o).settled
        = l.foldl (fun l k => l.modify k (Rollout.sample env.limits record now)) o.settled := by
    induction l generalizing o with
    | nil => rfl
    | cons k l ih => rw [List.foldl_cons, ih, settled_on k effects_telemetryOn, List.foldl_cons]
  unfold applyTelemetry
  simp only [hfresh, Bool.not_true, Bool.false_eq_true, if_false]
  change (List.foldl _ o _).settled = _
  rw [hfold, ← foldl_modify_range]
  simp [Orchestrator.settled]

/-- The health sample finds in the target what it says. -/
def EvidenceRecord.Resamples (record : EvidenceRecord) (t : TargetRuntime) : Prop :=
  record.outcome ≠ .succeeded ∧ t.healthy = false ∧ t.consecutiveHealthy = 0 ∧ t.healthySince = {}
    ∧ t.lastHealthyAt = record.observedAt ∧ t.lastHealthSource = record.healthSource
    ∧ t.lastHealthOriginLive = (record.origin == .live)

theorem attested_applyHealth {limits : RuntimeLimits} {t : TargetRuntime}
    (hfresh : (admissionFreshness limits record now).fresh = true) :
    (applyHealth limits record now t).attested = t.attested ↔ record.Resamples t := by
  have hnext (n : UInt32) : n + 1 ≠ n := fun h => by
    have := congrArg UInt32.toBitVec h
    simp at this
  unfold applyHealth
  simp only [hfresh, Bool.not_true, Bool.false_eq_true, if_false]
  split
  · next hhealthy =>
    simp only [TargetRuntime.attested, Attested.mk.injEq, EvidenceRecord.Resamples, hhealthy]
    exact ⟨fun h => absurd h.2.2.1 (hnext _), fun h => absurd rfl h.1⟩
  · next hunhealthy =>
    simp only [TargetRuntime.attested, Attested.mk.injEq, EvidenceRecord.Resamples, true_and,
      and_true]
    constructor
    · rintro ⟨hh, hc, hs, hat, hl, hsrc⟩
      exact ⟨hunhealthy, hh.symm, hc.symm, hs.symm, hat.symm, hsrc.symm, hl.symm⟩
    · rintro ⟨-, hh, hc, hs, hat, hsrc, hl⟩
      exact ⟨hh.symm, hc.symm, hs.symm, hat.symm, hl.symm, hsrc.symm⟩

theorem drain_telemetry_iff (htelemetry : record.isTelemetry = true) :
    (drainRecord env now (r, o) record).2.attested = o.attested
      ↔ ((admissionFreshness env.limits record now).fresh = true →
        ∀ h ∈ o.held, ∀ stage ∈ h.rollout.stages, ∀ i t,
          stage.findTarget record.target = some i → stage.targets[i]? = some t →
          record.Resamples t) := by
  have hsettled (o : Orchestrator ρ) : o.attested = o.settled.map Rollout.attested := by
    simp only [Orchestrator.attested, Orchestrator.settled, List.map_map]
    rfl
  have hdrain : (drainRecord env now (r, o) record).2 = applyTelemetry env record now o := by
    simp only [drainRecord, htelemetry, if_true]
  rw [hdrain]
  cases hfresh : (admissionFreshness env.limits record now).fresh with
  | false =>
    have hstale : (applyTelemetry env record now o).attested = o.attested := by
      simp only [applyTelemetry, hfresh, Bool.not_false, if_true]
      rfl
    simp [hstale]
  | true =>
  have hstage (s : StageRuntime) : (s.sample env.limits record now).attested = s.attested
      ↔ ∀ i t, s.findTarget record.target = some i → s.targets[i]? = some t →
        record.Resamples t := by
    unfold StageRuntime.sample
    split
    · next hnone => simp [hnone]
    · next i hsome =>
      simp only [StageRuntime.attested, map_modify_eq_iff, attested_applyHealth hfresh, hsome,
        Option.some.injEq]
      exact ⟨fun h i' t hi ht => h t (hi ▸ ht), fun h t ht => h i t rfl ht⟩
  rw [hsettled, settled_telemetry hfresh, hsettled, List.map_map, List.map_inj_left]
  simp only [Orchestrator.settled, List.forall_mem_map, Function.comp_apply, Rollout.attested,
    Rollout.sample, Rollout.settled, List.map_map, List.map_inj_left, hstage, true_implies]

end Samples

/-! ## Frames -/

/-- What others vouch for is as it was, and so is what the health gate and the evidence gate make
of every target. -/
structure Orchestrator.Unvouched (o o' : Orchestrator ρ) (limits : RuntimeLimits) : Prop where
  fields : o'.attested = o.attested
  healthGate : ∀ k j i policy, ((o'.heldAt k).rollout.targetAt j i).lacksHealth policy
    = ((o.heldAt k).rollout.targetAt j i).lacksHealth policy
  evidenceGate : ∀ k j i policy now,
    verificationBlocking policy now limits ((o'.heldAt k).rollout.targetAt j i)
      = verificationBlocking policy now limits ((o.heldAt k).rollout.targetAt j i)

theorem Orchestrator.Unvouched.of_fields {o o' : Orchestrator ρ} {limits : RuntimeLimits}
    (h : o'.attested = o.attested) : o.Unvouched o' limits := by
  have hat (o : Orchestrator ρ) (k j i : Nat) : ((o.heldAt k).rollout.targetAt j i).attested
      = ((o.attested.getD k []).getD j []).getD i (default : TargetRuntime).attested := by
    simp only [Orchestrator.attested, Orchestrator.heldAt, Rollout.attested, Rollout.targetAt,
      Rollout.stageAt, List.getD_eq_getElem?_getD, List.getElem?_map]
    cases o.held[k]? with
    | none => rfl
    | some h =>
      simp only [Option.map_some, Option.getD_some, List.getElem?_map]
      cases h.rollout.stages[j]? with
      | none => rfl
      | some s =>
        simp only [Option.map_some, Option.getD_some]
        show _ = ((s.targets.map TargetRuntime.attested)[i]?).getD _
        rw [List.getElem?_map]
        cases s.targets[i]? <;> rfl
  have hsame (k j i : Nat) : ((o'.heldAt k).rollout.targetAt j i).attested
      = ((o.heldAt k).rollout.targetAt j i).attested := by rw [hat, hat, h]
  exact ⟨h, fun k j i => (gates_of_attested (hsame k j i)).1,
    fun k j i policy now => (gates_of_attested (hsame k j i)).2 policy now limits⟩

/-- The record is refused where it vouches for a target, or says what is already there. -/
def EvidenceRecord.Idle (record : EvidenceRecord) (env : Env ρ) (o : Orchestrator ρ)
    (now : Timestamp) : Prop :=
  match evidenceClass record.kind with
  | .telemetry => (admissionFreshness env.limits record now).fresh = true →
      ∀ h ∈ o.held, ∀ stage ∈ h.rollout.stages, ∀ i t,
        stage.findTarget record.target = some i → stage.targets[i]? = some t → record.Resamples t
  | .verification => ∀ k j i a, o.index record.rollout = some k →
      Admitted env o.impl (o.heldAt k).rollout record now j i a →
      record.Reverifies ((o.heldAt k).rollout.targetAt j i)
  | _ => True

theorem drain_unvouched_iff {o : Orchestrator ρ} {record : EvidenceRecord} {now : Timestamp}
    {r : TickReport} :
    o.Unvouched (drainRecord env now (r, o) record).2 env.limits ↔ record.Idle env o now := by
  have hfields : o.Unvouched (drainRecord env now (r, o) record).2 env.limits
      ↔ (drainRecord env now (r, o) record).2.attested = o.attested := ⟨fun h => h.fields, .of_fields⟩
  rw [hfields]
  unfold EvidenceRecord.Idle
  have hframes (ht : evidenceClass record.kind ≠ .telemetry)
      (hv : evidenceClass record.kind ≠ .verification) :
      (drainRecord env now (r, o) record).2.attested = o.attested :=
    drain_attempt_frames (by simpa [EvidenceRecord.isTelemetry] using ht) hv
  cases hclass : evidenceClass record.kind with
  | telemetry => exact drain_telemetry_iff (by rw [EvidenceRecord.isTelemetry, hclass]; rfl)
  | verification => exact drain_verification_iff hclass
  | _ => exact ⟨fun _ => trivial, fun _ => hframes (by simp [hclass]) (by simp [hclass])⟩

/-- A worker's frame leaves what others vouch for alone exactly when the record in it, if there is
one, is no health sample and no verification, or is refused, or says what is already there. -/
theorem frame_unvouched_iff (env : Env ρ) (a : ProcessAdapter) (c : Connection) (body : Bytes)
    (r : TickReport) (o : Orchestrator ρ) (now : Timestamp) :
    o.Unvouched (deliverFrame env now a c body (r, o)).2 env.limits
      ↔ ∀ record, decodeEvidence body env.limits = .ok record → record.attest.Idle env o now := by
  unfold deliverFrame ProcessAdapter.handleEvidence
  cases hdecode : decodeEvidence body env.limits with
  | error status =>
    constructor
    · intro _ record h
      cases h
    · intro _
      exact .of_fields rfl
  | ok record =>
    refine drain_unvouched_iff.trans ⟨fun h record' heq => ?_, fun h => h record rfl⟩
    cases heq
    exact h

/-- The worker that runs the attempt reports its verification under the name of a verifier. -/
def selfVerified : Bytes := (verifiedPass 1).encode

/-- The target is verified, by a frame of its own worker. -/
theorem selfVerified_counts :
    let o := verifiedNode.orchestrator
    let o' := (deliverFrame volatileEnv ⟨1000⟩ {} {} selfVerified ({}, o)).2
    ((decodeEvidence selfVerified volatileEnv.limits).toOption.map EvidenceRecord.authority
        = some .workerSelfReported)
      ∧ ((o.heldAt 0).rollout.targetAt 0 0).verificationPassed = false
      ∧ ((o'.heldAt 0).rollout.targetAt 0 0).verificationPassed = true
      ∧ ¬ o.Unvouched o' volatileEnv.limits := by
  have hflips : (decodeEvidence selfVerified volatileEnv.limits).toOption.map
        EvidenceRecord.authority = some .workerSelfReported
      ∧ ((verifiedNode.orchestrator.heldAt 0).rollout.targetAt 0 0).verificationPassed = false
      ∧ (((deliverFrame volatileEnv ⟨1000⟩ {} {} selfVerified
        ({}, verifiedNode.orchestrator)).2.heldAt 0).rollout.targetAt 0 0).verificationPassed = true
      ∧ (deliverFrame volatileEnv ⟨1000⟩ {} {} selfVerified
        ({}, verifiedNode.orchestrator)).2.attested ≠ verifiedNode.orchestrator.attested := by
    decide +kernel
  exact ⟨hflips.1, hflips.2.1, hflips.2.2.1, fun h => hflips.2.2.2 h.fields⟩

end RolloutFabric
