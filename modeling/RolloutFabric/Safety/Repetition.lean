/-
Evidence that is delivered again to the controller that applied it: whatever happened in between,
it is refused as one that was heard before.
-/
import RolloutFabric.Orchestrator.Turns
import RolloutFabric.Safety.Confinement
import RolloutFabric.Safety.Provenance

namespace RolloutFabric

open Program

variable {ρ : Type} {env : Env ρ} {o o' : Orchestrator ρ} {record : EvidenceRecord}
  {now : Timestamp} {k : Nat}

/-! ## Applying a record -/

/-- The first thing an admitted record does is to be logged. -/
theorem applyEvidence_logs {j i : Nat} {a : Attempt} {w : World ρ} {c : Core} (hw : w.core = c)
    (h : Admits c record j i a) : ∃ generation current,
      w.impl.trace ++ [.applied record a generation current]
        <+: ((Op.latch (applyEvidence env record now)).exec w).2.impl.trace := by
  have hattempt : w.impl.attempts.lookup record.attempt = some a := by
    rw [World.lookup_core hw, h.found]
  have hstage : w.rollout.findStage record.stage = some j := (World.findStage_core hw _).trans h.stage
  have htarget : (w.rollout.stageAt j).findTarget record.target = some i :=
    (World.findTarget_core hw j _).trans h.target
  refine ⟨w.view.rollout.generation, (w.view.rollout.targetAt j i).currentAttempt, ?_⟩
  -- the record is logged first, then noted on the attempt, and the rest runs from there
  let logged : World ρ := { w with impl := { w.impl with trace := w.impl.trace
    ++ [.applied record a w.rollout.generation (w.rollout.targetAt j i).currentAttempt] } }
  let noted : World ρ := ((Op.updateAttempt record.attempt fun a => { a with
    highestSequence := record.sequence
    lastEvidenceAt := record.recordedAt
    acceptedEvidence := a.acceptedEvidence + 1 }).exec logged).2
  have hview : noted.view = (Act.apply record j i a).run w.view := by
    refine (updateAttempt_view logged hattempt).trans ?_
    have hcurrent : (w.view.rollout.targetAt j i).currentAttempt
        = (w.rollout.targetAt j i).currentAttempt :=
      congrArg TargetCore.currentAttempt (Rollout.core_targetAt ..).symm
    rw [Act.run, hcurrent]
    rfl
  have hcore : noted.core = (Act.apply record j i a).after c := by
    rw [World.core, hview, Act.core_run rfl]
    exact congrArg (fun c => (Act.apply record j i a).after c) hw
  have hrest : Performs env Act.isSettling (fun _ => True) noted.core
      (do applyClass env record j i a now; persistRollout env) fun _ _ => True := by
    rw [hcore]
    exact .bind (applyClass_performs h.apply) fun _ _ _ =>
      persistRollout_performs.wrote.weaken fun _ _ _ => trivial
  have hrun : (applyEvidence env record now).exec w
      = Program.exec (do applyClass env record j i a now; persistRollout env) noted := by
    unfold applyEvidence
    rw [exec_bind_ok (exec_get w)]
    simp only [hstage, htarget, hattempt]
    rfl
  have hgrown := trace_grows (hrest noted rfl).1
  rw [← hrun, hview, Act.trace_run] at hgrown
  unfold Op.latch
  rw [exec_tryCatch]
  generalize (applyEvidence env record now).exec w = result at hgrown ⊢
  obtain ⟨status, w'⟩ := result
  cases status with
  | ok _ => exact hgrown
  | error s => exact hgrown

/-! ## Refusing a record -/

/-- What a record that was heard before is refused as. -/
def EvidenceAdmission.isRepeat : EvidenceAdmission → Bool
  | .duplicate | .outOfOrder | .staleGeneration | .staleAttempt | .staleIncarnation
  | .unknownAttempt => true
  | _ => false

/-- A record that is no newer than what its attempt heard. -/
theorem admitRecord_repeat {s : Impl ρ} {r : Rollout}
    (hvalid : (record.validate env.limits).isOk = true)
    (hplace : record.generation = r.generation → ∃ j, r.findStage record.stage = some j
      ∧ ((r.stageAt j).findTarget record.target).isSome = true)
    (hheard : ∀ live, s.attempts.lookup record.attempt = some live →
      record.sequence ≤ live.highestSequence) :
    (admitRecord env s (some r) true record now).disposition.isRepeat = true := by
  unfold admitRecord
  simp only [hvalid, Bool.not_true, Bool.false_eq_true, if_false]
  split
  · rfl
  next hgeneration =>
  obtain ⟨j, hstage, htarget⟩ := hplace (not_not.1 hgeneration)
  obtain ⟨i, htarget⟩ := Option.isSome_iff_exists.1 htarget
  simp only [hstage, htarget]
  cases hlookup : s.attempts.lookup record.attempt with
  | none => rfl
  | some live =>
    dsimp only
    split
    · rfl
    unfold admitAttempt
    split
    · rfl
    split
    · rfl
    next hnew =>
    rw [if_pos (UInt64.lt_of_le_of_ne (hheard live hlookup) hnew)]
    rfl

theorem drainRecord_repeat {acc : TickReport × Orchestrator ρ} (htelemetry : record.isTelemetry = false)
    (hindex : acc.2.index record.rollout = some k)
    (hvalid : (record.validate env.limits).isOk = true)
    (hplace : record.generation = (acc.2.coreAt k).generation → ∃ j,
      (acc.2.coreAt k).findStage record.stage = some j
        ∧ (((acc.2.coreAt k).stageAt j).findTarget record.target).isSome = true)
    (hheard : ∀ live, acc.2.impl.attempts.lookup record.attempt = some live →
      record.sequence ≤ live.highestSequence) :
    ∃ d, d.isRepeat = true
      ∧ drainRecord env now acc record = (acc.1, acc.2.count fun c => c.refuse d) := by
  have hrepeat : (admitRecord env acc.2.impl (some (acc.2.heldAt k).rollout) true record
      now).disposition.isRepeat = true := by
    refine admitRecord_repeat hvalid (fun hgeneration => ?_) hheard
    obtain ⟨j, hstage, htarget⟩ := hplace hgeneration
    refine ⟨j, (Rollout.findStage_core _ _).trans hstage, ?_⟩
    rw [StageRuntime.findTarget_core, Rollout.core_stageAt]
    exact htarget
  refine ⟨_, hrepeat, ?_⟩
  have hrefused : (admitRecord env acc.2.impl (some (acc.2.heldAt k).rollout) true record
      now).isAccepted = false := by
    generalize admitRecord env acc.2.impl (some (acc.2.heldAt k).rollout) true record now
      = admission at hrepeat
    unfold AdmissionResult.isAccepted
    cases hd : admission.disposition <;> simp_all [EvidenceAdmission.isRepeat]
  simp only [drainRecord, htelemetry, index_find hindex, index_plan hindex, hrefused,
    Bool.not_false, Bool.false_eq_true, if_false, if_true]

/-! ## Moments of a run -/

/-- After these inputs a tick takes the record up, once it took up those before it. -/
structure TakesUp (env : Env ρ) (n : Node ρ) (inputs : List Input) (o : Orchestrator ρ)
    (before : List EvidenceRecord) (record : EvidenceRecord) : Prop where
  run : n.run env (inputs.map .input) = .running o
  up : o.impl.shuttingDown = false
  opened : o.impl.storageFailed = false
  pending : before ++ [record] <+: (o.polled env).impl.pendingEvidence

def Node.coreAt (n : Node ρ) (k : Nat) : RolloutCore := (n.held.getD k default).rollout.core

/-- Two attempts were dispatched under one identifier: the hash it is cut from collided. -/
def Redispatched (trace : List Event) : Prop :=
  ∃ t₁ a s t₂, trace = t₁ ++ .dispatched a s :: t₂ ∧ ∃ b s', .dispatched b s' ∈ t₂ ∧ b.id = a.id

/-- A rollout was given a new generation under an identifier that one of its generations had. -/
def Reminted (env : Env ρ) (n : Node ρ) (inputs : List Input) : Prop :=
  ∃ first before id context k, first <+: before ∧ before ++ [.regenerate id context] <+: inputs
    ∧ let coreAfter (inputs : List Input) := (n.run env (inputs.map .input)).coreAt k
      (coreAfter (before ++ [.regenerate id context])).generation = (coreAfter first).generation
        ∧ (coreAfter (before ++ [.regenerate id context])).places ≠ (coreAfter before).places

theorem Reminted.mono {n : Node ρ} {inputs more : List Input} (h : Reminted env n inputs)
    (hm : inputs <+: more) : Reminted env n more := by
  obtain ⟨first, before, id, context, k, hfirst, hbefore, h⟩ := h
  exact ⟨first, before, id, context, k, hfirst, hbefore.trans hm, h⟩

theorem Input.rebuilds_acts {i : Input} (hi : ∀ id context, i ≠ .regenerate id context) (a : Act)
    (ha : i.acts a = true) : a.rebuilds = false := by
  cases i with
  | regenerate id context => exact absurd rfl (hi id context)
  | _ => cases a <;> first | rfl | (simp [acts, Act.isAbort, Act.isCommand, Act.isShared, Act.isSettling,
      Act.isTick] at ha)

/-- Without a collision a rollout keeps its places for as long as it is in a generation. -/
theorem places_after {n : Node ρ} (hn : n.Initial) {inputs : List Input}
    (hrun : n.run env (inputs.map .input) = .running o) (hk : k < o.held.length)
    (more : List Input) : ∃ o', n.run env ((inputs ++ more).map .input) = .running o'
      ∧ o.Moved env (fun _ => true) o' ∧ (Reminted env n (inputs ++ more)
        ∨ ((o'.coreAt k).generation = (o.coreAt k).generation →
          (o'.coreAt k).places = (o.coreAt k).places)) := by
  induction more using List.reverseRecOn with
  | nil => exact ⟨o, by rw [List.append_nil]; exact hrun, .refl o, .inr fun _ => rfl⟩
  | append_singleton more i ih =>
    obtain ⟨o₁, hrun₁, hmoved, hcases⟩ := ih
    have hs : o₁.sys.Holds (View.Sound env) := by
      have hsound : (n.run env ((inputs ++ more).map .input)).sys.Holds (View.Sound env) :=
        sound_of_run hn _
      rw [hrun₁] at hsound
      exact hsound
    have hstep := step_moved hs i
    have hrun₂ : n.run env ((inputs ++ (more ++ [i])).map .input) = .running (o₁.step env i) := by
      rw [← List.append_assoc, List.map_append, List.map_singleton, Node.run_append, hrun₁]
      rfl
    refine ⟨o₁.step env i, hrun₂, hmoved.trans (hstep.mono fun _ _ => rfl), ?_⟩
    have hprefix : inputs ++ more <+: inputs ++ (more ++ [i]) := by
      rw [← List.append_assoc]
      exact List.prefix_append ..
    rcases hcases with hcollides | hkept
    · exact .inl (hcollides.mono hprefix)
    have hlt : k < o₁.held.length := Nat.lt_of_lt_of_le hk hmoved.length
    by_cases hsame : ((o₁.step env i).coreAt k).places = (o₁.coreAt k).places
    · have hgeneration : ((o₁.step env i).coreAt k).generation = (o₁.coreAt k).generation :=
        congrArg (fun p => p.2.1) hsame
      exact .inr fun h => hsame.trans (hkept (hgeneration.symm.trans h))
    · by_cases hback : ((o₁.step env i).coreAt k).generation = (o.coreAt k).generation
      · have hregenerates : ∃ id context, i = .regenerate id context := by
          by_contra hother
          refine hsame (hstep.places hlt (Input.rebuilds_acts fun id context heq => ?_))
          exact hother ⟨id, context, heq⟩
        obtain ⟨id, context, rfl⟩ := hregenerates
        refine .inl ⟨inputs, inputs ++ more, id, context, k, List.prefix_append .., ?_, ?_⟩
        · rw [List.append_assoc]
        · dsimp only
          rw [List.append_assoc, hrun₂, hrun₁, hrun]
          exact ⟨hback, hsame⟩
      · exact .inr fun h => absurd h hback

/-- The table and the trace where a tick takes a record up. -/
theorem TakesUp.tracks {n : Node ρ} (hn : n.Initial) {inputs : List Input}
    {before : List EvidenceRecord} (h : TakesUp env n inputs o before record) :
    o.sys.Holds (View.Sound env) ∧ o.Tracks env (o.draining env before).2
      ∧ ∀ id a, (o.draining env before).2.impl.attempts.lookup id = some a →
        Tracked (o.draining env before).2.impl.trace id a := by
  have hrecorded : Recorded env false Tracked _ Explained := explained_recorded
  obtain ⟨hs, hholds⟩ := hrecorded.carried.holds_inputs hn inputs hrecorded.start
  rw [h.run] at hs hholds
  have htracks : o.Tracks env (o.draining env before).2 :=
    Orchestrator.draining_tracks hs h.opened before
  exact ⟨hs, htracks, (hrecorded.carried.steps htracks.drains.reaches hs hholds).2.blank.table⟩

/-- Taking an admitted record up dispatches nothing before it is logged. -/
theorem drainRecord_logs {acc : TickReport × Orchestrator ρ} {j i : Nat} {a : Attempt}
    (htelemetry : record.isTelemetry = false) (hindex : acc.2.index record.rollout = some k)
    (hadmitted : Admitted env acc.2.impl (acc.2.heldAt k).rollout record now j i a) :
    ∃ generation current, acc.2.impl.trace ++ [.applied record a generation current]
      <+: (drainRecord env now acc record).2.impl.trace := by
  obtain ⟨report, o⟩ := acc
  rw [drainRecord_admitted htelemetry hindex hadmitted]
  generalize ho' : o.count (fun c => { c with evidenceAccepted := c.evidenceAccepted + 1 }) = o'
  have htrace : o.impl.trace = (o'.world k report).impl.trace := by
    subst ho'
    rfl
  have hadmits : Admits (o'.world k report).core record j i a := by
    subst ho'
    exact Admitted.admits rfl ⟨hadmitted.valid, hadmitted.generation, hadmitted.stage,
      hadmitted.target, hadmitted.attempt, hadmitted.incarnation, hadmitted.epoch,
      hadmitted.sequence, hadmitted.unfinished, hadmitted.fresh⟩ htelemetry
      ((World.findStage_core rfl _).symm.trans hadmitted.stage)
      ((World.findTarget_core rfl j _).symm.trans hadmitted.target)
      (.inl ⟨(index_id hindex).symm, hadmitted.generation⟩)
  obtain ⟨generation, current, hlogs⟩ : ∃ generation current,
      (o'.world k report).impl.trace ++ [.applied record a generation current]
        <+: ((Op.latch (applyEvidence env record now)).exec (o'.world k report)).2.impl.trace :=
    applyEvidence_logs rfl hadmits
  refine ⟨generation, current, ?_⟩
  change o.impl.trace ++ _ <+: _
  rw [htrace]
  exact hlogs

/-- The record was applied, and the attempt was not dispatched again since. -/
theorem appliedTo_of_logged {t t' : List Event} {a : Attempt} {generation : GenerationId}
    {current : AttemptId} (hlogged : t ++ [.applied record a generation current] <+: t')
    (hhanded : ∃ place, Handed t place record.attempt) :
    Redispatched t' ∨ AppliedTo t' record.attempt record := by
  obtain ⟨rest, rfl⟩ := hlogged
  by_cases hagain : ∃ b s, .dispatched b s ∈ rest ∧ b.id = record.attempt
  · obtain ⟨b, s, hmem, hid⟩ := hagain
    obtain ⟨_, a', s', hmem', hid', -⟩ := hhanded
    obtain ⟨t₁, t₂, rfl⟩ := List.append_of_mem hmem'
    refine .inl ⟨t₁, a', s', t₂ ++ [.applied record a generation current] ++ rest, by simp, b, s,
      List.mem_append_right _ hmem, hid.trans hid'.symm⟩
  · refine .inr ⟨t, a, generation, current, rest, by simp, rfl, fun b s hmem hid => ?_, trivial⟩
    exact hagain ⟨b, s, hmem, hid⟩

theorem rebuilds_settling (a : Act) (ha : a.isSettling = true) : a.rebuilds = false :=
  Input.rebuilds_acts (i := .reconcile default) (fun _ _ h => by cases h) a ha

theorem rebuilds_tick (a : Act) (ha : (a.isTick false || a.isSettling) = true) :
    a.rebuilds = false :=
  Input.rebuilds_acts (i := .tick) (fun _ _ h => by cases h) a ha

/-- One record is taken up later than another. -/
def Later (inputs inputs' : List Input) (before before' : List EvidenceRecord)
    (record : EvidenceRecord) : Prop :=
  inputs' = inputs ∧ before ++ [record] <+: before' ∨ inputs ++ [.tick] <+: inputs'

/-- What happens between two times that a record is taken up. -/
theorem TakesUp.later {n : Node ρ} (hn : n.Initial) {inputs inputs' : List Input}
    {before before' : List EvidenceRecord} (h : TakesUp env n inputs o before record)
    (h' : TakesUp env n inputs' o' before' record)
    (hlater : Later inputs inputs' before before' record)
    (hk : k < (o.draining env before).2.held.length) :
    (o.draining env (before ++ [record])).2.Moved env (fun _ => true) (o'.draining env before').2
      ∧ (Reminted env n inputs' ∨ ((((o'.draining env before').2.coreAt k).generation
          = ((o.draining env before).2.coreAt k).generation) →
        ((o'.draining env before').2.coreAt k).places
          = ((o.draining env before).2.coreAt k).places)) := by
  obtain ⟨hs, htracks, -⟩ := h.tracks hn
  rcases hlater with ⟨rfl, rest, rfl⟩ | ⟨rest, rfl⟩
  -- both deliveries are drained in one tick
  · obtain rfl : o = o' := Node.running.inj (h.run.symm.trans h'.run)
    have hmid : o.Tracks env (o.draining env (before ++ [record])).2 :=
      Orchestrator.draining_tracks hs h.opened _
    have hrest (records more : List EvidenceRecord) : o.draining env (records ++ more)
        = more.foldl (drainRecord env (o.tickTime env)) (o.draining env records) :=
      List.foldl_append ..
    have hon : (o.draining env (before ++ [record])).2.Tracks env
        (o.draining env (before ++ [record] ++ rest)).2 := by
      rw [hrest (before ++ [record])]
      exact hmid.here.records
    have hall : (o.draining env before).2.Tracks env
        (o.draining env (before ++ [record] ++ rest)).2 := by
      rw [List.append_assoc, hrest before]
      exact htracks.here.records
    exact ⟨hon.moved.mono fun _ _ => rfl,
      .inr fun _ => hall.moved.places hk rebuilds_settling⟩
  -- the second is drained in a later tick, after a run that mints no identifier again
  · obtain ⟨hs', htracks', -⟩ := h'.tracks hn
    obtain ⟨after, hpending⟩ := h.pending
    have hmid : (o.draining env (before ++ [record])).2.Moved env _ (tick env o).2 :=
      Orchestrator.draining_moved hs h.up h.opened hpending.symm
    have hall : (o.draining env before).2.Moved env _ (tick env o).2 :=
      Orchestrator.draining_moved hs h.up h.opened (by rw [← hpending, List.append_assoc])
    have hrun : n.run env ((inputs ++ [Input.tick]).map .input) = .running (tick env o).2 := by
      rw [List.map_append, List.map_singleton, Node.run_append, h.run]
      rfl
    have hk₁ : k < (tick env o).2.held.length := Nat.lt_of_lt_of_le hk hall.length
    obtain ⟨o₂, hrun₂, hmoved, hcases⟩ := places_after hn hrun hk₁ rest
    obtain rfl : o₂ = o' := Node.running.inj (hrun₂.symm.trans h'.run)
    have hk₂ : k < o₂.held.length := Nat.lt_of_lt_of_le hk₁ hmoved.length
    refine ⟨((hmid.mono fun _ _ => rfl).trans hmoved).trans (htracks'.moved.mono fun _ _ => rfl),
      hcases.imp_right fun hkept hgeneration => ?_⟩
    have hbefore := hall.places hk rebuilds_tick
    have hafter := htracks'.moved.places hk₂ rebuilds_settling
    have hgen {r r' : RolloutCore} (h : r'.places = r.places) : r'.generation = r.generation :=
      congrArg (fun p => p.2.1) h
    rw [hafter, ← hbefore]
    refine hkept ?_
    rw [hgen hbefore, ← hgeneration, hgen hafter]

/-- In a run without a restart, a record that was admitted once is refused whenever it is delivered
again, as a duplicate, out of order, stale or unknown; nothing but a counter changes. -/
theorem redelivery_harmless {n : Node ρ} (hn : n.Initial) {inputs inputs' : List Input}
    {o o' : Orchestrator ρ} {before before' : List EvidenceRecord} {record : EvidenceRecord}
    (htelemetry : record.isTelemetry = false) (h : TakesUp env n inputs o before record)
    (haccepted : record.accepted env (o.draining env before).2 (o.tickTime env) = true)
    (h' : TakesUp env n inputs' o' before' record)
    (hlater : Later inputs inputs' before before' record) :
    let acc := o'.draining env before'
    Redispatched acc.2.impl.trace ∨ Reminted env n inputs' ∨ ∃ d, d.isRepeat = true
      ∧ drainRecord env (o'.tickTime env) acc record
        = (acc.1, acc.2.count fun c => c.refuse d) := by
  obtain ⟨-, htracks, htable⟩ := h.tracks hn
  obtain ⟨-, -, htable'⟩ := h'.tracks hn
  obtain ⟨k, j, i, a, hindex, hadmitted⟩ := accepted_iff.1 haccepted
  have hk : k < (o.draining env before).2.held.length := index_lt hindex
  obtain ⟨hmoved, hplaces⟩ := h.later hn h' hlater hk
  have hmid : o.draining env (before ++ [record])
      = drainRecord env (o.tickTime env) (o.draining env before) record := List.foldl_append ..
  obtain ⟨generation, current, hlogs⟩ : ∃ generation current,
      (o.draining env before).2.impl.trace ++ [.applied record a generation current]
        <+: (drainRecord env (o.tickTime env) (o.draining env before) record).2.impl.trace :=
    drainRecord_logs htelemetry hindex hadmitted
  rw [← hmid] at hlogs
  have hhanded : ∃ place, Handed (o.draining env before).2.impl.trace place record.attempt :=
    ⟨_, (htable _ _ hadmitted.attempt).handed⟩
  dsimp only
  -- the log of the first delivery is still there when the second is drained
  rcases appliedTo_of_logged (hlogs.trans hmoved.grown) hhanded with hcollides | happlied
  · exact .inl hcollides
  rcases hplaces with hcollides | hplaces
  · exact .inr (.inl hcollides)
  refine .inr (.inr (drainRecord_repeat (k := k) htelemetry ?_ hadmitted.valid (fun hgeneration => ?_)
    fun live hlive => (htable' _ _ hlive).newest record happlied))
  -- the rollout is found under the same index
  · have hstep : (o.draining env before).2.Moved env Act.isSettling
        (o.draining env (before ++ [record])).2 := by
      have hrecord : Orchestrator.Tracks env (o.draining env before).2
          (drainRecord env (o.tickTime env) (o.draining env before) record).2 := htracks.here.record
      rw [hmid]
      exact hrecord.moved
    exact hmoved.index (hstep.index hindex)
  -- within one generation every place is where it was
  · have hsame := hplaces (hgeneration.symm.trans hadmitted.generation)
    refine ⟨j, ?_, ?_⟩
    · rw [findStage_of_places hsame]
      exact (Rollout.findStage_core _ _).symm.trans hadmitted.stage
    · rw [findTarget_of_places hsame]
      have htarget := hadmitted.target
      rw [StageRuntime.findTarget_core, Rollout.core_stageAt] at htarget
      exact Option.isSome_of_eq_some htarget

/-! ## A success that is reported twice -/

/-- The orchestrator of the twin rollout after these inputs. -/
def twinAfter (inputs : List Input) : Orchestrator Unit :=
  (twinNode.run volatileEnv (inputs.map .input)).orchestrator

theorem twinAfter_run (inputs : List Input) :
    twinNode.run volatileEnv (inputs.map .input) = .running (twinAfter inputs) := by
  rw [twinAfter, twinNode, Node.run_inputs]
  rfl

/-- The terminal success of the first target. -/
def twinSuccess : EvidenceRecord := twinDispatched.report 0 .executionCompleted .succeeded

/-- The success is delivered again after the tick that applied it. -/
def repeatTwin : List Input := succeedTwin ++ [.onEvidence twinSuccess]

theorem repeatTwin_checks :
    let o := twinAfter succeedTwin.dropLast
    let o' := twinAfter repeatTwin
    (o.impl.shuttingDown = false ∧ o.impl.storageFailed = false
        ∧ (o.polled volatileEnv).impl.pendingEvidence = [twinSuccess]
        ∧ twinSuccess.accepted volatileEnv (o.draining volatileEnv []).2 (o.tickTime volatileEnv)
          = true)
      ∧ o'.impl.shuttingDown = false ∧ o'.impl.storageFailed = false
        ∧ (o'.polled volatileEnv).impl.pendingEvidence = [twinSuccess] := by
  decide +kernel

theorem twinSuccess_repeated :
    let acc := (twinAfter repeatTwin).draining volatileEnv []
    Redispatched acc.2.impl.trace ∨ Reminted volatileEnv twinNode repeatTwin
      ∨ ∃ d, d.isRepeat = true
        ∧ drainRecord volatileEnv ((twinAfter repeatTwin).tickTime volatileEnv) acc twinSuccess
          = (acc.1, acc.2.count fun c => c.refuse d) := by
  obtain ⟨⟨hup, hopened, hpending, haccepted⟩, hup', hopened', hpending'⟩ := repeatTwin_checks
  have hfirst : TakesUp volatileEnv twinNode succeedTwin.dropLast (twinAfter succeedTwin.dropLast)
      [] twinSuccess := ⟨twinAfter_run _, hup, hopened, by rw [hpending]; exact List.prefix_rfl⟩
  have hsecond : TakesUp volatileEnv twinNode repeatTwin (twinAfter repeatTwin) [] twinSuccess :=
    ⟨twinAfter_run _, hup', hopened', by rw [hpending']; exact List.prefix_rfl⟩
  exact redelivery_harmless twinNode_initial rfl hfirst haccepted hsecond
    (.inr ⟨[.onEvidence twinSuccess], rfl⟩)

end RolloutFabric
