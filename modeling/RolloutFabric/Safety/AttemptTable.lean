/-
The attempt table and its bound: which attempts a run leaves in the table, and when the finished
ones among them stay within twice the concurrent attempts and one.
-/
import RolloutFabric.Orchestrator.Turns
import RolloutFabric.Safety.AttemptMoves
import RolloutFabric.Safety.Concurrency

namespace RolloutFabric

open Program Trimming

variable {ρ : Type} {env : Env ρ} {now : Timestamp}

/-! ## Every run -/

section

variable {o : Orchestrator ρ} {id : RolloutId} {context : CommandContext} {s : Impl ρ}

theorem command_tracked {body : ChangePlan → Op ρ Bytes} (h : o.impl.Tracked env.limits)
    (hbody : ∀ plan, Tracks env (body plan)) :
    (o.command id context body).2.impl.Tracked env.limits := by
  unfold Orchestrator.command
  dsimp only
  split
  · exact h
  split
  · exact h
  split
  · exact h
  · exact (hbody _).tracked h

theorem createRollout_tracked {plan : ChangePlan} (h : o.impl.Tracked env.limits) :
    (createRollout env o plan context).2.impl.Tracked env.limits := by
  unfold createRollout
  dsimp only
  split
  · exact h
  split
  · exact h
  split
  · exact h
  next plan _ =>
  split
  · exact h
  split
  · exact buildRollout_tracks.tracked (h.congr rfl rfl)
  · exact buildRollout_tracks.tracked (h.congr rfl rfl)

theorem onEvidence_tracked {record : EvidenceRecord} (h : s.Tracked env.limits) :
    (s.onEvidence env.limits record).Tracked env.limits := by
  unfold Impl.onEvidence
  split
  · exact h.congr rfl rfl
  · exact h.congr rfl rfl

theorem poll_tracked (h : s.Tracked env.limits) : (s.poll env).Tracked env.limits := by
  unfold Impl.poll
  split
  · exact h
  next execution _ =>
  have hcalls (calls : List SinkCall) : ∀ s : Impl ρ, s.Tracked env.limits →
      (calls.foldl (fun s call => s.sink env.limits call) s).Tracked env.limits := by
    induction calls with
    | nil => exact fun s hs => hs
    | cons call calls ih =>
      intro s hs
      refine ih _ ?_
      cases call with
      | evidence record => exact onEvidence_tracked hs
      | event event => exact hs.congr rfl rfl
  exact hcalls _ _ (h.congr rfl rfl)

theorem on_tracked {k : Nat} {report : TickReport} {m : Op ρ Unit} (h : o.impl.Tracked env.limits)
    (hm : Tracks env m) : (o.on k report m).2.impl.Tracked env.limits :=
  hm.tracked (w := o.world k report) h

theorem applyTelemetry_tracked {record : EvidenceRecord} (h : o.impl.Tracked env.limits) :
    (applyTelemetry env record now o).impl.Tracked env.limits := by
  have hloop (ks : List Nat) : ∀ o : Orchestrator ρ, o.impl.Tracked env.limits →
      (ks.foldl (fun o k => (o.on k {} (telemetryOn env record now)).2) o).impl.Tracked
        env.limits := by
    induction ks with
    | nil => exact fun o ho => ho
    | cons k ks ih => exact fun o ho => ih _ (on_tracked ho telemetryOn_tracks)
  unfold applyTelemetry
  dsimp only
  split
  · exact h.congr rfl rfl
  · exact (hloop _ o h).congr rfl rfl

theorem drainRecord_tracked {report : TickReport} {record : EvidenceRecord}
    (h : o.impl.Tracked env.limits) :
    (drainRecord env now (report, o) record).2.impl.Tracked env.limits := by
  unfold drainRecord
  dsimp only
  split
  · exact applyTelemetry_tracked h
  split
  · exact h.congr rfl rfl
  split
  · exact h.congr rfl rfl
  · refine on_tracked ?_ (.latch applyEvidence_tracks)
    exact h.congr rfl rfl

theorem drainPending_tracked {report : TickReport} (h : o.impl.Tracked env.limits) :
    (drainPending env now report o).2.impl.Tracked env.limits := by
  have hloop (records : List EvidenceRecord) : ∀ acc : TickReport × Orchestrator ρ,
      acc.2.impl.Tracked env.limits →
        (records.foldl (drainRecord env now) acc).2.impl.Tracked env.limits := by
    induction records with
    | nil => exact fun acc hacc => hacc
    | cons record records ih => exact fun acc hacc => ih _ (drainRecord_tracked hacc)
  refine hloop _ _ ?_
  exact h.congr rfl rfl

theorem maybeCompact_tracked (h : o.impl.Tracked env.limits) :
    (maybeCompact env o).impl.Tracked env.limits := by
  unfold maybeCompact
  split
  · exact h
  split
  · exact h
  split
  · exact h
  dsimp only
  split
  · exact h.congr rfl (notes_concat _ _)
  · exact h.congr rfl (notes_concat _ _)

theorem tick_tracked (h : o.impl.Tracked env.limits) : (tick env o).2.impl.Tracked env.limits := by
  have hloop (ks : List Nat) (now : Timestamp) : ∀ acc : TickReport × Orchestrator ρ,
      acc.2.impl.Tracked env.limits →
        (ks.foldl (fun acc k => acc.2.on k acc.1 (advance env now)) acc).2.impl.Tracked
          env.limits := by
    induction ks with
    | nil => exact fun acc hacc => hacc
    | cons k ks ih => exact fun acc hacc => ih _ (on_tracked hacc advance_tracks)
  unfold tick
  split
  · exact h
  · refine maybeCompact_tracked (hloop _ _ _ (drainPending_tracked ?_))
    exact poll_tracked (h.congr rfl rfl)

theorem reconcileOutstanding_tracked (h : o.impl.Tracked env.limits) :
    (reconcileOutstanding env o id).2.impl.Tracked env.limits := by
  unfold reconcileOutstanding
  split
  · exact h
  split
  · exact h
  · exact reconcileRollout_tracks.tracked (w := o.world _ {}) h

/-- Every input moves the table by notes and revisions alone. -/
theorem step_tracked (h : o.impl.Tracked env.limits) (input : Input) :
    (o.step env input).impl.Tracked env.limits := by
  cases input with
  | create plan context => exact createRollout_tracked h
  | arm id context => exact command_tracked h fun _ => armRollout_tracks
  | start id context => exact command_tracked h fun _ => startRollout_tracks
  | pause id context reason => exact command_tracked h fun _ => pauseRollout_tracks
  | resume id context => exact command_tracked h fun _ => resumeRollout_tracks
  | abort id context reason => exact command_tracked h fun _ => abortRollout_tracks
  | approveGate id gate context => exact command_tracked h fun _ => approvePending_tracks
  | retire id context => exact command_tracked h fun _ => retireRollout_tracks
  | regenerate id context => exact command_tracked h fun _ => regenerateRollout_tracks
  | setInventory inventory => exact h.congr rfl rfl
  | onEvidence record => exact onEvidence_tracked h
  | onAdapterEvent event => exact h.congr rfl rfl
  | reconcile id => exact reconcileOutstanding_tracked h
  | tick => exact tick_tracked h
  | noteShutdown => exact h.congr rfl rfl

theorem restore_tracked {r : Rollout} {plan : ChangePlan} (h : o.impl.Tracked env.limits) :
    (restore env o r plan).2.impl.Tracked env.limits := by
  unfold restore
  split
  · exact h
  split
  · exact h
  dsimp only
  split
  · exact h
  split
  · exact h
  · have hrestored : Tracks env ((List.range (r.adopt o.impl).stages.length).forM fun j =>
        (List.range ((r.adopt o.impl).stageAt j).targets.length).forM fun i =>
          restoreTarget env r.incarnation j i) :=
      .forM fun j => .forM fun i => restoreTarget_tracks
    refine (hrestored.tracked (w := {
      impl := { o.impl with trace := o.impl.trace ++ [.restored r] }
      rollout := r.adopt o.impl }) ?_).congr rfl rfl
    exact h.congr rfl (notes_concat _ _)

end

def Node.Tracked (limits : RuntimeLimits) : Node ρ → Prop
  | running o => o.impl.Tracked limits
  | stopped _ _ => True

/-- A controller that opens notes what it rebuilds, in a table that is empty. -/
theorem openController_tracked (env : Env ρ) (entropy : Entropy) (trace : List Event)
    (outside : ρ) : (openController env entropy trace outside).Tracked env.limits := by
  have hadopt (plans : Map PlanId ChangePlan) (rs : List Rollout) : ∀ o : Orchestrator ρ,
      o.impl.Tracked env.limits → (rs.foldl (adoptRollout env plans) o).impl.Tracked env.limits := by
    induction rs with
    | nil => exact fun o ho => ho
    | cons r rs ih =>
      intro o ho
      refine ih _ ?_
      unfold adoptRollout
      split
      · exact ho
      · exact restore_tracked ho
  unfold openController
  split
  · exact trivial
  dsimp only
  split
  · refine hadopt _ _ _ (Impl.Tracked.congr (appendJournal_tracks.tracked ?_) rfl rfl)
    exact ⟨[], (notes_concat trace (.opened _)).symm, rfl⟩
  · exact trivial

def Node.table : Node ρ → AttemptTable
  | running o => o.impl.table
  | stopped _ _ => {}

theorem Node.Initial.tracked {n : Node ρ} (hn : n.Initial) (hempty : n.table = {})
    (limits : RuntimeLimits) : n.Tracked limits := by
  cases hn with
  | stopped outside => exact trivial
  | running o hheld hattempts htrace hstorage => exact ⟨[], by rw [htrace]; rfl, hempty⟩

theorem tracked_of_run {n : Node ρ} (hn : n.Tracked env.limits) (steps : List (Step ρ)) :
    (n.run env steps).Tracked env.limits := by
  induction steps generalizing n with
  | nil => exact hn
  | cons step steps ih =>
    refine ih ?_
    cases n with
    | running o =>
      cases step with
      | input input => exact step_tracked hn input
      | crash during boundary outside => exact trivial
      | restart entropy => exact hn
    | stopped trace outside =>
      cases step with
      | input input => exact trivial
      | crash during boundary outside => exact trivial
      | restart entropy => exact openController_tracked env entropy trace outside

/-! ## The bound -/

theorem AttemptTable.after_ordered (limits : RuntimeLimits) (moves : List AttemptMove) :
    (AttemptTable.after limits moves).Ordered := Table.ordered_empty.run moves

/-- In every run the table is the work of the attempts that were noted, and of revisions. Noting one
never evicts an unfinished attempt, and leaves no more finished ones than the bound exactly when no
more than that many arrived behind an unfinished one. -/
theorem attempt_table_bounded_iff {n : Node ρ} (hn : n.Initial) (hempty : n.table = {})
    (steps : List (Step ρ)) {o : Orchestrator ρ} (hrun : n.run env steps = .running o) :
    (∃ moves, o.impl.Performed env.limits moves) ∧
      ∀ moves, o.impl.Performed env.limits moves →
        ∀ before attempt later, moves = before ++ .note attempt.id attempt :: later →
          let t := AttemptTable.after env.limits before
          (Table.doneCount Attempt.finished (t.note env.limits attempt) ≤ attemptBound env.limits
            ↔ Table.heldBack Attempt.finished (t.put attempt.id attempt) ≤ attemptBound env.limits)
          ∧ ∀ id a, (t.put attempt.id attempt).entries.lookup id = some a → a.finished = false →
            (t.note env.limits attempt).entries.lookup id = some a := by
  have htracked := tracked_of_run (hn.tracked hempty env.limits) steps
  rw [hrun] at htracked
  refine ⟨htracked, fun moves _ before attempt later _ => ?_⟩
  constructor
  · exact Table.doneCount_trim_le_iff (AttemptTable.after_ordered env.limits before).put
  · intro id a hfound hfinished
    exact Table.lookup_trim hfound hfinished

/-! ### One attempt that is never heard of -/

/-- It accepts every attempt, and knows nothing of those it is asked about. -/
def lossyAdapter : ExecutionAdapter Nat where
  dispatch _ s := ({ outcome := .accepted }, s)
  reconcile fences s := ({ ok := true, entries := fences.map fun fence =>
    { fence, disposition := .unknown, outcome := .inconclusive } }, s)
  cancel _ s := (.success, s)
  poll s := ([], s)

/-- One concurrent attempt, and a clock that passes a deadline with every tick. -/
def tightEnv : Env Nat where
  limits := { volatileEnv.limits with maxDispatchBatch := 1, maxConcurrentAttempts := 1 }
  clock s := (⟨.ofNat (1000000000000 * s)⟩, s + 1)
  execution := some lossyAdapter
  health := none
  journal := none

def retryPlan : ChangePlan := { rerunPlan with
  stages := rerunPlan.stages.map fun stage => { stage with
    policy := { stage.policy with maxAttemptsPerTarget := 16 } } }

def retryOrchestrator : Orchestrator Nat where
  impl := {
    incarnation := idOf 7
    controllerEpoch := 1
    ids := { seed := default }
    inventory := twinInventory
    outside := 1 }

/-- The attempt on the first target becomes unknown, and the second target is tried again with
every tick. -/
def retries : List Input :=
  .create retryPlan {} :: startRerun ++ .reconcile twinRollout :: List.replicate 5 .tick

def retried : Orchestrator Nat := retryOrchestrator.after tightEnv retries

theorem retried_performed : ∃ moves, retried.impl.Performed tightEnv.limits moves :=
  (attempt_table_bounded_iff (.running retryOrchestrator rfl rfl rfl rfl) rfl (retries.map .input)
    (Node.run_inputs retryOrchestrator retries)).1

/-- A dispatch ends the last tick. Its attempt is the newest one, and four in front of it are
finished. -/
theorem finished_attempts_pile_up :
    attemptBound tightEnv.limits = 3
      ∧ retried.impl.trace.dropLast.getLast?.any Event.isDispatched = true
      ∧ (notes retried.impl.trace).getLast?.map Prod.fst = retried.impl.table.order.getLast?
      ∧ Table.doneCount Attempt.finished retried.impl.table = 4 := by
  decide +kernel

end RolloutFabric
