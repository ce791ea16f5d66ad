/-
Verification and completion: a verification counts only when it is delivered before the terminal
report of its attempt, which closes the attempt to everything that comes later.
-/
import RolloutFabric.Orchestrator.Standing
import RolloutFabric.Safety.Concurrency

namespace RolloutFabric

open Program

variable {ρ : Type} {env : Env ρ} {o o' : Orchestrator ρ} {k j i : Nat} {a a' : Attempt}
  {record : EvidenceRecord} {now : Timestamp} {r : TickReport}

/-! ## Rollouts as evidence sees them -/

namespace Orchestrator

def settled (o : Orchestrator ρ) : List Rollout := o.held.map fun h => h.rollout.settled

theorem index_settled (id : RolloutId) :
    o.index id = o.settled.findIdx? fun r => r.id == id := by
  simp [index, settled, List.findIdx?_map, Function.comp_def, Rollout.settled]

theorem heldAt_settled (hk : k < o.held.length) :
    o.settled[k]? = some (o.heldAt k).rollout.settled := by
  simp [settled, heldAt, hk]

theorem settled_put (w : World ρ) : (o.put k w).settled = o.settled.set k w.rollout.settled := by
  apply List.ext_getElem?
  intro n
  simp only [put, setRollout, settled, List.getElem?_map, List.getElem?_modify, List.getElem?_set,
    List.length_map]
  by_cases hn : k = n
  · subst hn
    by_cases hk : k < o.held.length <;> simp [hk]
  · simp [hn]

theorem settled_put_same {w : World ρ} (hk : k < o.held.length)
    (h : w.rollout.settled = (o.heldAt k).rollout.settled) : (o.put k w).settled = o.settled := by
  have hk' : k < o.settled.length := by simpa [settled] using hk
  have hat : o.settled[k] = (o.heldAt k).rollout.settled :=
    Option.some.inj ((List.getElem?_eq_getElem hk').symm.trans (heldAt_settled hk))
  rw [settled_put, h, ← hat, List.set_getElem_self]

theorem index_on (m : Op ρ Unit)
    (h : (m.exec (o.world k r)).2.rollout.id = (o.heldAt k).rollout.id) (id : RolloutId) :
    (o.on k r m).2.index id = o.index id := by
  rw [index_settled, index_settled]
  change (o.put k _).settled.findIdx? _ = _
  rw [settled_put]
  have hids : (o.settled.set k (m.exec (o.world k r)).2.rollout.settled).map Rollout.id
      = o.settled.map Rollout.id := by
    apply List.ext_getElem?
    intro n
    simp only [List.getElem?_map, List.getElem?_set]
    by_cases hn : k = n
    · subst hn
      by_cases hk : k < o.held.length
      · rw [if_pos rfl, if_pos (by simpa [settled] using hk), heldAt_settled hk]
        exact congrArg some h
      · simp [settled, hk]
    · simp [hn]
  have hfind (l : List Rollout) : (l.findIdx? fun r => r.id == id)
      = (l.map Rollout.id).findIdx? fun x => x == id := by
    rw [List.findIdx?_map]
    rfl
  rw [hfind, hfind, hids]

/-- What a function of the state machine sees of the `k`-th rollout. -/
def standing (o : Orchestrator ρ) (k : Nat) : Standing := (o.world k {}).standing

theorem standing_on (hk : k < o.held.length) (m : Op ρ Unit) :
    (o.on k r m).2.standing k = (m.exec (o.world k r)).2.standing := by
  have hheld : ((o.on k r m).2.heldAt k).rollout = (m.exec (o.world k r)).2.rollout := by
    simp [on, put, setRollout, heldAt, hk]
  simp only [standing, world, World.standing, hheld]
  rfl

end Orchestrator

/-! ## Draining one record -/

theorem index_plan {id : RolloutId} (h : o.index id = some k) : (o.planFor id).isSome = true := by
  have hfind := index_find h
  unfold Orchestrator.find at hfind
  unfold Orchestrator.planFor
  rw [Option.isSome_map]
  exact Option.isSome_of_eq_some (Option.map_eq_some_iff.1 hfind).choose_spec.1

/-- A record that is admitted is applied to the rollout it names. -/
theorem drainRecord_admitted (htelemetry : record.isTelemetry = false)
    (hindex : o.index record.rollout = some k)
    (hadmitted : Admitted env o.impl (o.heldAt k).rollout record now j i a) :
    (drainRecord env now (r, o) record).2
      = ((o.count fun c => { c with evidenceAccepted := c.evidenceAccepted + 1 }).on k r
        (Op.latch (applyEvidence env record now))).2 := by
  have haccepted := admit_isAccepted.2
    ⟨index_plan hindex, _, j, i, a, index_find hindex, hadmitted⟩
  have hcount : (o.count fun c => { c with evidenceAccepted := c.evidenceAccepted + 1 }).index
      record.rollout = some k := hindex
  simp only [drainRecord, htelemetry, haccepted, Bool.not_true, Bool.false_eq_true, if_false, hcount]

/-- A record that is not admitted is counted. -/
theorem drainRecord_refused (htelemetry : record.isTelemetry = false)
    (h : ∀ k j i a, o.index record.rollout = some k →
      ¬ Admitted env o.impl (o.heldAt k).rollout record now j i a) :
    ∃ f, (drainRecord env now (r, o) record).2 = o.count f := by
  have hrefused : (admitRecord env o.impl (o.find record.rollout)
      (o.planFor record.rollout).isSome record now).isAccepted = false := by
    rw [Bool.eq_false_iff]
    intro haccepted
    obtain ⟨-, r, j, i, live, hfind, hadmitted⟩ := admit_isAccepted.1 haccepted
    cases hk : o.index record.rollout with
    | none =>
      obtain ⟨h', hfound, -⟩ := Option.map_eq_some_iff.1 hfind
      have hnone := List.findIdx?_eq_none_iff.1 hk h' (List.mem_of_find?_eq_some hfound)
      rw [List.find?_some hfound] at hnone
      cases hnone
    | some k =>
      rw [index_find hk] at hfind
      cases hfind
      exact h k j i live hk hadmitted
  simp only [drainRecord, htelemetry, hrefused, Bool.not_false, Bool.false_eq_true, if_false, if_true]
  exact ⟨_, rfl⟩

/-! ## Delivery -/

/-- Records delivered one after the other, each drained at a time of its own. -/
def deliver (env : Env ρ) (acc : TickReport × Orchestrator ρ)
    (records : List (EvidenceRecord × Timestamp)) : TickReport × Orchestrator ρ :=
  records.foldl (fun acc e => drainRecord env e.2 acc e.1) acc

theorem deliver_around (acc : TickReport × Orchestrator ρ)
    (first second : EvidenceRecord × Timestamp) (between : List (EvidenceRecord × Timestamp)) :
    deliver env acc (first :: between ++ [second]) = drainRecord env second.2
      (deliver env (drainRecord env first.2 acc first.1) between) second.1 := by
  simp [deliver]

/-- The attempt is in flight on the target at `j`, `i` of the `k`-th rollout. -/
structure InFlight (o : Orchestrator ρ) (k j i : Nat) (a : Attempt) : Prop where
  index : o.index a.rollout = some k
  generation : (o.standing k).rollout.generation = a.generation
  stage : (o.standing k).rollout.findStage a.stage = some j
  target : ((o.standing k).rollout.stageAt j).findTarget a.target = some i
  attempt : (o.standing k).attempts a.id = some a
  unfinished : a.finished = false
  uncancelled : a.wasCancelled = false
  current : ((o.standing k).rollout.targetAt j i).currentAttempt = a.id
  state : ((o.standing k).rollout.targetAt j i).state = .dispatched

/-- The attempt as it was, but for the last record noted on it. -/
def Attempt.Echoes (a a' : Attempt) : Prop :=
  a' = { a with
    highestSequence := a'.highestSequence
    lastEvidenceAt := a'.lastEvidenceAt
    acceptedEvidence := a'.acceptedEvidence }

/-- The record names the attempt, everywhere. -/
structure EvidenceRecord.Names (record : EvidenceRecord) (a : Attempt) : Prop where
  rollout : record.rollout = a.rollout
  generation : record.generation = a.generation
  stage : record.stage = a.stage
  target : record.target = a.target
  attempt : record.attempt = a.id
  epoch : record.attemptEpoch = a.epoch

theorem EvidenceRecord.Names.echo (h : record.Names a) (hecho : a.Echoes a') :
    record.Names a' := by
  rw [hecho]
  exact ⟨h.rollout, h.generation, h.stage, h.target, h.attempt, h.epoch⟩

/-- The record is well formed, and fresh for the stage when it is drained. -/
structure EvidenceRecord.FreshFor (record : EvidenceRecord) (env : Env ρ) (stage : StageRuntime)
    (now : Timestamp) : Prop where
  valid : (record.validate env.limits).isOk = true
  fresh : (evaluateFreshness record.observedAt now
    (gateMaxAge stage.policy.evidenceMaxAge env.limits) (skewOf env.limits)).fresh = true

theorem InFlight.admitted (hin : InFlight o k j i a) (hnames : record.Names a)
    (hclass : (evidenceClass record.kind).describesPresent = false)
    (hfresh : record.FreshFor env ((o.standing k).rollout.stageAt j) now)
    (hseq : a.highestSequence < record.sequence) :
    Admitted env o.impl (o.heldAt k).rollout record now j i a where
  valid := hfresh.valid
  generation := hnames.generation.trans hin.generation.symm
  stage := by rw [hnames.stage]; exact hin.stage
  target := by rw [hnames.target]; exact hin.target
  attempt := by rw [hnames.attempt]; exact hin.attempt
  incarnation := .inr hclass
  epoch := hnames.epoch
  sequence := hseq
  unfinished := hin.unfinished
  fresh := .inr hfresh.fresh

theorem isTelemetry_of_class (hclass : (evidenceClass record.kind).describesPresent = false) :
    record.isTelemetry = false := by
  unfold EvidenceRecord.isTelemetry
  cases hc : evidenceClass record.kind <;> first | rfl | (rw [hc] at hclass; cases hclass)

/-- What an admitted record about an attempt in flight brings about. -/
theorem InFlight.drain (hin : InFlight o k j i a) (hnames : record.Names a)
    (hclass : (evidenceClass record.kind).describesPresent = false)
    (hfresh : record.FreshFor env ((o.standing k).rollout.stageAt j) now)
    (hseq : a.highestSequence < record.sequence) {q : Standing → Prop}
    (hid : ∀ v', q v' → v'.rollout.id = (o.standing k).rollout.id)
    (heffect : Effects World.standing ((o.standing k).setAttempt record.attempt (a.heard record))
      (applyClass env record j i a now) fun _ v' => q v') :
    q ((drainRecord env now (r, o) record).2.standing k)
      ∧ (drainRecord env now (r, o) record).2.index a.rollout = some k := by
  have hadmitted := hin.admitted hnames hclass hfresh hseq
  have hindex : o.index record.rollout = some k := by rw [hnames.rollout]; exact hin.index
  rw [drainRecord_admitted (isTelemetry_of_class hclass) hindex hadmitted]
  generalize ho' : o.count (fun c => { c with evidenceAccepted := c.evidenceAccepted + 1 }) = o'
  have hlt : k < o'.held.length := ho' ▸ index_lt hindex
  have heffect' : q ((Op.latch (applyEvidence env record now)).exec (o'.world k r)).2.standing := by
    subst ho'
    exact applyEvidence_standing hadmitted.stage hadmitted.target hadmitted.attempt heffect
  refine ⟨by rw [Orchestrator.standing_on hlt]; exact heffect', ?_⟩
  rw [Orchestrator.index_on _ ?_]
  · subst ho'
    exact hin.index
  · subst ho'
    exact hid _ heffect'

theorem Rollout.find_range {r : Rollout} {stage : StageId} {target : TargetId}
    (hstage : r.findStage stage = some j) (htarget : (r.stageAt j).findTarget target = some i) :
    j < r.stages.length ∧ i < (r.stageAt j).targets.length := by
  rw [Rollout.findStage_core] at hstage
  rw [StageRuntime.findTarget_core] at htarget
  have hj := (RolloutCore.findStage_lt hstage).1
  have hi := (StageCore.findTarget_lt htarget).1
  simp only [Rollout.core, StageRuntime.core, List.length_map] at hj hi
  exact ⟨hj, hi⟩

theorem InFlight.range (hin : InFlight o k j i a) : j < (o.standing k).rollout.stages.length
    ∧ i < ((o.standing k).rollout.stageAt j).targets.length :=
  Rollout.find_range hin.stage hin.target

/-- Where an attempt is in flight is read off the core of its rollout. -/
theorem InFlight.of_core (hin : InFlight o k j i a) (hindex : o'.index a.rollout = some k)
    (hcore : (o'.standing k).rollout.core = (o.standing k).rollout.core)
    (hattempt : (o'.standing k).attempts a.id = some a') (hecho : a.Echoes a') :
    InFlight o' k j i a' := by
  have hstage (j : Nat) : ((o'.standing k).rollout.stageAt j).core
      = ((o.standing k).rollout.stageAt j).core := by
    rw [Rollout.core_stageAt, Rollout.core_stageAt, hcore]
  have htarget : ((o'.standing k).rollout.targetAt j i).core
      = ((o.standing k).rollout.targetAt j i).core := by
    rw [Rollout.core_targetAt, Rollout.core_targetAt, hcore]
  have hentry : (o'.standing k).attempts a'.id = some a' := by
    have hid : a'.id = a.id := by rw [hecho]
    rw [hid]
    exact hattempt
  rw [hecho]
  constructor
  · exact hindex
  · exact (congrArg RolloutCore.generation hcore).trans hin.generation
  · rw [Rollout.findStage_core, hcore, ← Rollout.findStage_core]
    exact hin.stage
  · rw [StageRuntime.findTarget_core, hstage, ← StageRuntime.findTarget_core]
    exact hin.target
  · rw [← hecho]
    exact hentry
  · exact hin.unfinished
  · exact hin.uncancelled
  · exact (congrArg TargetCore.currentAttempt htarget).trans hin.current
  · exact (congrArg TargetCore.state htarget).trans hin.state

/-! ## Each kind of record -/

/-- A verification is written to the target, and the attempt stays in flight. -/
theorem InFlight.verify (hin : InFlight o k j i a) (hnames : record.Names a)
    (hkind : record.kind = .verificationPassed)
    (hfresh : record.FreshFor env ((o.standing k).rollout.stageAt j) now)
    (hseq : a.highestSequence < record.sequence) :
    let o' := (drainRecord env now (r, o) record).2
    InFlight o' k j i (a.heard record)
      ∧ (o'.standing k).rollout = (o.standing k).rollout.modifyTarget j i record.verify := by
  have hclass : evidenceClass record.kind = .verification := by rw [hkind]; rfl
  obtain ⟨hafter, hindex⟩ := hin.drain (r := r)
    (q := fun v' => v' = ((o.standing k).setAttempt record.attempt (a.heard record)).modifyTarget
      j i record.verify) hnames (by rw [hclass]; rfl) hfresh hseq (fun _ h => by rw [h]; rfl)
    (effects_verify hclass)
  dsimp only
  generalize (drainRecord env now (r, o) record).2 = o' at hafter hindex
  have hrollout : (o'.standing k).rollout
      = (o.standing k).rollout.modifyTarget j i record.verify := by
    rw [hafter]; rfl
  refine ⟨hin.of_core hindex ?_ ?_ rfl, hrollout⟩
  · rw [hrollout]
    refine core_modifyTarget_same (h := ?_) ..
    exact fun _ => rfl
  · rw [hafter, ← hnames.attempt]
    exact Function.update_self ..

/-- The terminal success closes the attempt; the verification of the target is as it was. -/
theorem InFlight.complete (hin : InFlight o k j i a) (hnames : record.Names a)
    (hkind : record.kind = .executionCompleted) (houtcome : record.outcome = .succeeded)
    (hfresh : record.FreshFor env ((o.standing k).rollout.stageAt j) now)
    (hseq : a.highestSequence < record.sequence) :
    let o' := (drainRecord env now (r, o) record).2
    o'.impl.attempts.lookup a.id = some ((a.heard record).succeed record)
      ∧ ((o'.standing k).rollout.targetAt j i).state = .succeeded
      ∧ ((o'.standing k).rollout.targetAt j i).verification
        = ((o.standing k).rollout.targetAt j i).verification := by
  have hclass : evidenceClass record.kind = .execution := by rw [hkind]; rfl
  obtain ⟨hj, hi⟩ := hin.range
  have hrolling : ((o.standing k).rollout.targetAt j i).state ≠ .rollingBack := by
    rw [hin.state]; decide
  obtain ⟨⟨-, hb, hstate, hverification⟩, -⟩ := hin.drain (r := r) hnames
    (by rw [hclass]; rfl) hfresh hseq (fun _ h => h.1)
    (effects_complete (b := a.heard record) hj hi (Function.update_self ..) hin.uncancelled
      (hin.current.trans hnames.attempt.symm) hrolling hkind houtcome)
  rw [hnames.attempt] at hb
  exact ⟨hb, hstate, hverification⟩

/-! ## Records in between -/

/-- The rollouts are as they were, and of the attempt only what was last heard has changed, up to
a sequence below the bound. -/
structure Quiet (o o' : Orchestrator ρ) (a : Attempt) (bound : UInt64) : Prop where
  settled : o'.settled = o.settled
  echo : ∃ a', o'.impl.attempts.lookup a.id = some a' ∧ a.Echoes a' ∧ a'.highestSequence < bound

theorem Quiet.progress {bound : UInt64} (h : Quiet o o' a bound)
    (hkind : record.kind.isProgress = true)
    (hseq : record.attempt = a.id → record.sequence < bound) :
    Quiet o (drainRecord env now (r, o') record).2 a bound := by
  have htelemetry : record.isTelemetry = false := by
    unfold EvidenceRecord.isTelemetry
    cases hk : record.kind <;> first | rfl | (rw [hk] at hkind; cases hkind)
  by_cases hadmitted : ∃ k j i live, o'.index record.rollout = some k
      ∧ Admitted env o'.impl (o'.heldAt k).rollout record now j i live
  -- an admitted report of progress changes the attempt it names and no target
  · obtain ⟨k, j, i, live, hindex, hadmitted⟩ := hadmitted
    rw [drainRecord_admitted htelemetry hindex hadmitted]
    generalize ho₁ : o'.count (fun c => { c with evidenceAccepted := c.evidenceAccepted + 1 }) = o₁
    have hsettled : o₁.settled = o.settled := ho₁ ▸ h.settled
    have hattempts : o₁.impl.attempts = o'.impl.attempts := ho₁ ▸ rfl
    have hlt : k < o₁.held.length := ho₁ ▸ index_lt hindex
    have hafter : ((Op.latch (applyEvidence env record now)).exec (o₁.world k r)).2.standing
        = (o'.standing k).setAttempt record.attempt (live.heard record) := by
      subst ho₁
      exact applyEvidence_standing (q := fun v' => v' = _) hadmitted.stage hadmitted.target
        hadmitted.attempt (effects_progress hkind)
    obtain ⟨a', hfound, hecho, hbound⟩ := h.echo
    constructor
    · refine (Orchestrator.settled_put_same hlt ?_).trans hsettled
      subst ho₁
      exact congrArg Standing.rollout hafter
    · have hlookup (id : AttemptId) :
          (o₁.on k r (Op.latch (applyEvidence env record now))).2.impl.attempts.lookup id
            = Function.update (fun id => o'.impl.attempts.lookup id) record.attempt
              (some (live.heard record)) id := congrFun (congrArg Standing.attempts hafter) id
      rw [hlookup]
      -- the sequence number it brings is below the bound
      by_cases hid : a.id = record.attempt
      · have hlive : a' = live := by
          rw [hid, hadmitted.attempt] at hfound
          exact (Option.some.inj hfound).symm
        subst hlive
        rw [hid, Function.update_self]
        refine ⟨_, rfl, ?_, hseq hid.symm⟩
        unfold Attempt.Echoes at hecho ⊢
        rw [hecho]
        rfl
      · rw [Function.update_of_ne hid]
        exact ⟨a', hfound, hecho, hbound⟩
  · obtain ⟨f, hf⟩ : ∃ f, (drainRecord env now (r, o') record).2 = o'.count f :=
      drainRecord_refused htelemetry fun k j i live hindex ha =>
        hadmitted ⟨k, j, i, live, hindex, ha⟩
    rw [hf]
    exact ⟨h.settled, h.echo⟩

theorem Quiet.between {bound : UInt64} {records : List (EvidenceRecord × Timestamp)}
    (h : Quiet o o' a bound)
    (hrecords : ∀ e ∈ records, e.1.kind.isProgress = true
      ∧ (e.1.attempt = a.id → e.1.sequence < bound)) :
    Quiet o (deliver env (r, o') records).2 a bound := by
  induction records generalizing r o' with
  | nil => exact h
  | cons e records ih =>
    obtain ⟨hkind, hseq⟩ := hrecords e (List.mem_cons_self ..)
    exact ih (h.progress hkind hseq) fun e' he' => hrecords e' (List.mem_cons_of_mem _ he')

theorem Quiet.standing {bound : UInt64} (h : Quiet o o' a bound) (k : Nat) :
    (o'.standing k).rollout = (o.standing k).rollout := by
  have hat (o : Orchestrator ρ) : (o.standing k).rollout
      = o.settled.getD k (default : Held).rollout.settled := by
    simp only [Orchestrator.standing, Orchestrator.world, World.standing, Orchestrator.settled,
      Orchestrator.heldAt, List.getD_eq_getElem?_getD, List.getElem?_map]
    cases o.held[k]? <;> rfl
  rw [hat, hat, h.settled]

/-- An attempt in flight stays so while only progress is reported. -/
theorem InFlight.quiet {bound : UInt64} (hin : InFlight o k j i a) (h : Quiet o o' a bound) :
    ∃ a', InFlight o' k j i a' ∧ a.Echoes a' ∧ a'.highestSequence < bound := by
  obtain ⟨a', hfound, hecho, hbound⟩ := h.echo
  refine ⟨a', hin.of_core ?_ ?_ hfound hecho, hecho, hbound⟩
  · rw [Orchestrator.index_settled, h.settled, ← Orchestrator.index_settled]
    exact hin.index
  · rw [h.standing k]

/-! ## Verification and completion -/

/-- The evidence gate of a stage would count the target among the verified ones. -/
def TargetRuntime.countsVerified (t : TargetRuntime) (policy : EvidenceGatePolicy) (now : Timestamp)
    (limits : RuntimeLimits) : Bool :=
  t.state == .succeeded && (verificationBlocking policy now limits t).isNone

/-- Two records in the order of their sequences, with others between them. -/
def inSequence (first second : EvidenceRecord × Timestamp)
    (between : List (EvidenceRecord × Timestamp)) : List (EvidenceRecord × Timestamp) :=
  if first.1.sequence < second.1.sequence then first :: between ++ [second]
  else second :: between ++ [first]

theorem verificationBlocking_congr {t t' : TargetRuntime} (policy : EvidenceGatePolicy)
    (now : Timestamp) (limits : RuntimeLimits) (h : t'.verification = t.verification) :
    (verificationBlocking policy now limits t').isNone
      = (verificationBlocking policy now limits t).isNone := by
  simp only [TargetRuntime.verification, Prod.mk.injEq] at h
  obtain ⟨hat, hpassed, hverifier⟩ := h
  simp only [verificationBlocking, hat, hpassed, hverifier]
  repeat' (split <;> try rfl)

/-- A terminal success of the attempt and a verification of it, both admissible when they are
drained, with progress between them. -/
structure Reports (env : Env ρ) (o : Orchestrator ρ) (k j : Nat) (a : Attempt)
    (success verification : EvidenceRecord × Timestamp)
    (between : List (EvidenceRecord × Timestamp)) : Prop where
  completes : success.1.kind = .executionCompleted ∧ success.1.outcome = .succeeded
  verifies : verification.1.kind = .verificationPassed
  names : success.1.Names a ∧ verification.1.Names a
  fresh : success.1.FreshFor env ((o.standing k).rollout.stageAt j) success.2
    ∧ verification.1.FreshFor env ((o.standing k).rollout.stageAt j) verification.2
  newer : a.highestSequence < success.1.sequence ∧ a.highestSequence < verification.1.sequence
  distinct : success.1.sequence ≠ verification.1.sequence
  progress : ∀ e ∈ between, e.1.kind.isProgress = true ∧ (e.1.attempt = a.id →
    e.1.sequence < success.1.sequence ∨ e.1.sequence < verification.1.sequence)

variable {success verification : EvidenceRecord × Timestamp}
  {between : List (EvidenceRecord × Timestamp)}

theorem Reports.verify_first (h : Reports env o k j a success verification between)
    (hin : InFlight o k j i a) (hlt : verification.1.sequence < success.1.sequence) :
    let t := ((deliver env (r, o) (verification :: between ++ [success])).2.standing
      k).rollout.targetAt j i
    t.state = .succeeded ∧ t.verification
      = (verification.1.verify ((o.standing k).rollout.targetAt j i)).verification := by
  obtain ⟨hin₁, hroll₁⟩ := hin.verify (r := r) h.names.2 h.verifies h.fresh.2 h.newer.2
  rw [deliver_around]
  generalize drainRecord env verification.2 (r, o) verification.1 = acc₁ at hin₁ hroll₁ ⊢
  have hquiet : Quiet acc₁.2 (deliver env acc₁ between).2 (a.heard verification.1)
      success.1.sequence := by
    refine Quiet.between (r := acc₁.1) ⟨rfl, _, hin₁.attempt, rfl, hlt⟩ fun e he => ?_
    obtain ⟨hkind, hseq⟩ := h.progress e he
    refine ⟨hkind, fun hid => ?_⟩
    rcases hseq hid with hseq | hseq
    · exact hseq
    · exact UInt64.lt_trans hseq hlt
  obtain ⟨a', hin₂, hecho, hbound⟩ := hin₁.quiet hquiet
  have hroll₂ := hquiet.standing k
  generalize deliver env acc₁ between = acc₂ at hin₂ hroll₂ ⊢
  have hpolicy : ((acc₂.2.standing k).rollout.stageAt j).policy
      = ((o.standing k).rollout.stageAt j).policy := by
    rw [hroll₂, hroll₁, Rollout.policy_modifyTarget]
  have hfresh : success.1.FreshFor env ((acc₂.2.standing k).rollout.stageAt j) success.2 :=
    ⟨h.fresh.1.valid, by rw [hpolicy]; exact h.fresh.1.fresh⟩
  have hnames : success.1.Names (a.heard verification.1) :=
    h.names.1.echo rfl
  obtain ⟨-, hstate, hverification⟩ := hin₂.complete (r := acc₂.1) (hnames.echo hecho)
    h.completes.1 h.completes.2 hfresh hbound
  refine ⟨hstate, hverification.trans ?_⟩
  rw [hroll₂, hroll₁, Rollout.targetAt_modifyTarget hin.range.1 hin.range.2]

theorem Reports.complete_first (h : Reports env o k j a success verification between)
    (hin : InFlight o k j i a) (hlt : success.1.sequence < verification.1.sequence) :
    let t := ((deliver env (r, o) (success :: between ++ [verification])).2.standing
      k).rollout.targetAt j i
    t.state = .succeeded
      ∧ t.verification = ((o.standing k).rollout.targetAt j i).verification := by
  obtain ⟨hattempt, hstate, hverification⟩ :=
    hin.complete (r := r) h.names.1 h.completes.1 h.completes.2 h.fresh.1 h.newer.1
  rw [deliver_around]
  generalize drainRecord env success.2 (r, o) success.1 = acc₁ at hattempt hstate hverification ⊢
  have hquiet : Quiet acc₁.2 (deliver env acc₁ between).2 ((a.heard success.1).succeed success.1)
      verification.1.sequence := by
    refine Quiet.between (r := acc₁.1) ⟨rfl, _, hattempt, rfl, hlt⟩ fun e he => ?_
    obtain ⟨hkind, hseq⟩ := h.progress e he
    refine ⟨hkind, fun hid => ?_⟩
    rcases hseq hid with hseq | hseq
    · exact UInt64.lt_trans hseq hlt
    · exact hseq
  obtain ⟨a', hfound, hecho, -⟩ := hquiet.echo
  have hroll₂ := hquiet.standing k
  generalize deliver env acc₁ between = acc₂ at hfound hroll₂ ⊢
  have htelemetry : verification.1.isTelemetry = false := by
    unfold EvidenceRecord.isTelemetry
    rw [h.verifies]
    rfl
  -- the attempt is finished: whatever names it is refused
  obtain ⟨f, hf⟩ : ∃ f, (drainRecord env verification.2 acc₂ verification.1).2 = acc₂.2.count f :=
    drainRecord_refused htelemetry fun k j i live _ hadmitted => by
      have hlive : a' = live := by
        have := hadmitted.attempt
        rw [h.names.2.attempt] at this
        exact Option.some.inj (hfound.symm.trans this)
      have hfinished : a'.finished = true := by rw [hecho]; rfl
      rw [hlive, hadmitted.unfinished] at hfinished
      cases hfinished
  change (drainRecord env verification.2 acc₂ verification.1).2 = _ at hf
  rw [hf]
  change ((acc₂.2.standing k).rollout.targetAt j i).state = _
    ∧ ((acc₂.2.standing k).rollout.targetAt j i).verification = _
  rw [hroll₂]
  exact ⟨hstate, hverification⟩

theorem TargetRuntime.countsVerified_of {t t' : TargetRuntime} (policy : EvidenceGatePolicy)
    (now : Timestamp) (limits : RuntimeLimits) (hstate : t.state = .succeeded)
    (h : t.verification = t'.verification) :
    t.countsVerified policy now limits = (verificationBlocking policy now limits t').isNone := by
  rw [countsVerified, hstate, verificationBlocking_congr policy now limits h]
  rfl

/-- After both reports the target is complete and counted as verified exactly when the
verification came first and the gate accepts it, or came second to one that the target already
held: after the terminal report no other is admitted. -/
theorem verification_counts_iff (h : Reports env o k j a success verification between)
    (hin : InFlight o k j i a) (policy : EvidenceGatePolicy) (now : Timestamp) :
    let t := (o.standing k).rollout.targetAt j i
    (((deliver env (r, o) (inSequence success verification between)).2.standing
        k).rollout.targetAt j i).countsVerified policy now env.limits = true
      ↔ verification.1.sequence < success.1.sequence
          ∧ (verificationBlocking policy now env.limits (verification.1.verify t)).isNone = true
        ∨ success.1.sequence < verification.1.sequence
          ∧ (verificationBlocking policy now env.limits t).isNone = true := by
  dsimp only
  unfold inSequence
  by_cases hlt : success.1.sequence < verification.1.sequence
  · obtain ⟨hstate, hverification⟩ := h.complete_first (r := r) hin hlt
    rw [if_pos hlt, TargetRuntime.countsVerified_of policy now env.limits hstate hverification]
    simp [hlt, UInt64.lt_asymm hlt]
  · have hgt : verification.1.sequence < success.1.sequence := by
      rcases UInt64.lt_or_eq_of_le (UInt64.not_lt.1 hlt) with hgt | heq
      · exact hgt
      · exact absurd heq.symm h.distinct
    obtain ⟨hstate, hverification⟩ := h.verify_first (r := r) hin hgt
    rw [if_neg hlt,
      TargetRuntime.countsVerified_of policy now env.limits hstate hverification]
    simp [hgt, hlt]

/-! ## A stage that asks for verification -/

def verifiedPlan : ChangePlan := { twinPlan with
  stages := twinPlan.stages.map fun stage => { stage with
    policy := { twinPolicy with entryGate := .automatic }
    evidenceRule := { requireVerification := true } } }

/-- The orchestrator of a node that is running. -/
def Node.orchestrator : Node Unit → Orchestrator Unit
  | .running o => o
  | .stopped .. => twinOrchestrator

def dispatchVerified : List (Step Unit) :=
  [.input (.create verifiedPlan {}), .input (.arm twinRollout {}), .input (.start twinRollout {}),
    .input .tick, .input .tick]

/-- Both targets of the stage are dispatched. -/
def verifiedNode : Node Unit := twinNode.run volatileEnv dispatchVerified

/-- The attempt of the first target. -/
def verifiedAttempt : Attempt :=
  (verifiedNode.orchestrator.impl.attempts.lookup
    (verifiedNode.first.targetAt 0 0).currentAttempt).getD default

/-- A terminal success of that attempt under this sequence. -/
def verifiedSuccess (sequence : UInt64) : EvidenceRecord :=
  { verifiedNode.report 0 .executionCompleted .succeeded with sequence := sequence }

def verifiedPass (sequence : UInt64) : EvidenceRecord :=
  { verifiedNode.report 0 .verificationPassed .succeeded with
    sequence := sequence, verifier := idOf 10 }

/-- What is checked of the run before the two reports arrive. -/
theorem verifiedNode_checks :
    let o := verifiedNode.orchestrator
    let a := verifiedAttempt
    let r := (o.standing 0).rollout
    (o.index a.rollout = some 0 ∧ r.generation = a.generation ∧ r.findStage a.stage = some 0
        ∧ (r.stageAt 0).findTarget a.target = some 0 ∧ (o.standing 0).attempts a.id = some a
        ∧ a.finished = false ∧ a.wasCancelled = false ∧ (r.targetAt 0 0).currentAttempt = a.id
        ∧ (r.targetAt 0 0).state = .dispatched)
      ∧ (r.stageAt 0).evidenceRule.requireVerification = true ∧ a.highestSequence = 0
      ∧ (verificationBlocking (r.stageAt 0).policy.evidenceGate ⟨1000⟩ volatileEnv.limits
          ((verifiedPass 1).verify (r.targetAt 0 0))).isNone = true
      ∧ (verificationBlocking (r.stageAt 0).policy.evidenceGate ⟨1000⟩ volatileEnv.limits
          (r.targetAt 0 0)).isNone = false
      ∧ ∀ e ∈ [verifiedSuccess 2, verifiedPass 1, verifiedSuccess 1, verifiedPass 2],
        (e.rollout = a.rollout ∧ e.generation = a.generation ∧ e.stage = a.stage
          ∧ e.target = a.target ∧ e.attempt = a.id ∧ e.attemptEpoch = a.epoch)
        ∧ (e.validate volatileEnv.limits).isOk = true
        ∧ (evaluateFreshness e.observedAt ⟨1000⟩
            (gateMaxAge (r.stageAt 0).policy.evidenceMaxAge volatileEnv.limits)
            (skewOf volatileEnv.limits)).fresh = true := by
  decide +kernel

theorem verifiedNode_inFlight : InFlight verifiedNode.orchestrator 0 0 0 verifiedAttempt := by
  obtain ⟨hindex, hgeneration, hstage, htarget, hattempt, hunfinished, huncancelled, hcurrent,
    hstate⟩ := verifiedNode_checks.1
  exact ⟨hindex, hgeneration, hstage, htarget, hattempt, hunfinished, huncancelled, hcurrent, hstate⟩

/-- A terminal success and a verification under these sequences. -/
theorem verifiedNode_reports {s v : UInt64}
    (hs : verifiedSuccess s ∈ [verifiedSuccess 2, verifiedPass 1, verifiedSuccess 1, verifiedPass 2])
    (hv : verifiedPass v ∈ [verifiedSuccess 2, verifiedPass 1, verifiedSuccess 1, verifiedPass 2])
    (hnewer : 0 < s ∧ 0 < v) (hne : s ≠ v) :
    Reports volatileEnv verifiedNode.orchestrator 0 0 verifiedAttempt (verifiedSuccess s, ⟨1000⟩)
      (verifiedPass v, ⟨1000⟩) [] := by
  obtain ⟨-, -, hlow, -, -, hrecords⟩ := verifiedNode_checks
  have hnames {e : EvidenceRecord} (he : e ∈ [verifiedSuccess 2, verifiedPass 1, verifiedSuccess 1,
      verifiedPass 2]) : e.Names verifiedAttempt := by
    obtain ⟨⟨hrollout, hgeneration, hstage, htarget, hattempt, hepoch⟩, -⟩ := hrecords e he
    exact ⟨hrollout, hgeneration, hstage, htarget, hattempt, hepoch⟩
  refine ⟨⟨rfl, rfl⟩, rfl, ⟨hnames hs, hnames hv⟩, ⟨?_, ?_⟩, ?_, hne, fun e he => by cases he⟩
  · exact ⟨(hrecords _ hs).2.1, (hrecords _ hs).2.2⟩
  · exact ⟨(hrecords _ hv).2.1, (hrecords _ hv).2.2⟩
  · rw [hlow]
    exact hnewer

/-- Verified first, the completed target counts. -/
theorem verifiedNode_counts :
    (((deliver volatileEnv ({}, verifiedNode.orchestrator)
      (inSequence (verifiedSuccess 2, ⟨1000⟩) (verifiedPass 1, ⟨1000⟩) [])).2.standing
        0).rollout.targetAt 0 0).countsVerified
      ((verifiedNode.orchestrator.standing 0).rollout.stageAt 0).policy.evidenceGate ⟨1000⟩
      volatileEnv.limits = true :=
  (verification_counts_iff (verifiedNode_reports (by simp) (by simp) (by decide) (by decide))
    verifiedNode_inFlight _ _).2 (.inl ⟨by decide, verifiedNode_checks.2.2.2.1⟩)

/-- Verified after it completed, the target is never counted as verified. -/
theorem verifiedNode_uncounted :
    let o := verifiedNode.orchestrator
    let stage := (o.standing 0).rollout.stageAt 0
    stage.evidenceRule.requireVerification = true
      ∧ InFlight o 0 0 0 verifiedAttempt
      ∧ Reports volatileEnv o 0 0 verifiedAttempt (verifiedSuccess 1, ⟨1000⟩)
        (verifiedPass 2, ⟨1000⟩) []
      ∧ (((deliver volatileEnv ({}, o)
        (inSequence (verifiedSuccess 1, ⟨1000⟩) (verifiedPass 2, ⟨1000⟩) [])).2.standing
          0).rollout.targetAt 0 0).countsVerified stage.policy.evidenceGate ⟨1000⟩
        volatileEnv.limits = false := by
  have hreports : Reports volatileEnv verifiedNode.orchestrator 0 0 verifiedAttempt
      (verifiedSuccess 1, ⟨1000⟩) (verifiedPass 2, ⟨1000⟩) [] :=
    verifiedNode_reports (by simp) (by simp) (by decide) (by decide)
  have hlt : (verifiedSuccess 1).sequence < (verifiedPass 2).sequence := by decide
  obtain ⟨hstate, hverification⟩ := hreports.complete_first (r := {}) verifiedNode_inFlight hlt
  refine ⟨verifiedNode_checks.2.1, verifiedNode_inFlight, hreports, ?_⟩
  unfold inSequence
  rw [if_pos hlt, TargetRuntime.countsVerified_of _ _ _ hstate hverification]
  exact verifiedNode_checks.2.2.2.2.1

end RolloutFabric
