/-
What the functions of the state machine do to the attempt table: attempts are noted, as the trace
says, and revised, and nothing else happens to it.
-/
import RolloutFabric.Lib.Trimming
import RolloutFabric.Safety.Approvals

namespace RolloutFabric

open Program Trimming

variable {ρ α β : Type} {env : Env ρ} {now : Timestamp} {j i : Nat}

/-! ## The table -/

abbrev AttemptTable := Table AttemptId Attempt

abbrev AttemptMove := Trimming.Move AttemptId Attempt

def Impl.table (s : Impl ρ) : AttemptTable := ⟨s.attemptOrder, s.attempts⟩

/-- The bound of `note_attempt`. -/
def attemptBound (limits : RuntimeLimits) : Nat := limits.maxConcurrentAttempts.toNat * 2 + 1

namespace AttemptTable

def note (limits : RuntimeLimits) (t : AttemptTable) (attempt : Attempt) : AttemptTable :=
  Table.note Attempt.finished (attemptBound limits) t attempt.id attempt

/-- The table after these moves, from an empty one. -/
def after (limits : RuntimeLimits) (moves : List AttemptMove) : AttemptTable :=
  Table.run Attempt.finished (attemptBound limits) {} moves

end AttemptTable

theorem trimAttempts_eq (bound : Nat) (order : List AttemptId) (attempts : Map AttemptId Attempt) :
    trimAttempts bound order attempts = ((Table.trim Attempt.finished bound order attempts).order,
      (Table.trim Attempt.finished bound order attempts).entries) := by
  induction order generalizing attempts with
  | nil => rfl
  | cons oldest order ih =>
    unfold trimAttempts Table.trim
    cases hfound : attempts.lookup oldest with
    | none => simp
    | some attempt =>
      by_cases hlength : bound < (oldest :: order).length
      · cases hfinished : attempt.finished with
        | true => simp only [hlength, hfinished, Option.any_some, and_self, if_true, ih]
        | false => simp [hfinished]
      · simp only [hlength, false_and, if_false]

theorem Impl.table_noteAttempt (s : Impl ρ) (limits : RuntimeLimits) (attempt : Attempt) :
    (s.noteAttempt limits attempt).table = s.table.note limits attempt := by
  unfold noteAttempt
  simp only [trimAttempts_eq]
  rfl

theorem table_updateAttempt (w : World ρ) (id : AttemptId) (f : Attempt → Attempt) :
    ((Op.updateAttempt id f).exec w).2.impl.table = w.impl.table.revise id f := by
  have hlookup : w.impl.table.entries.lookup id = w.impl.attempts.lookup id := rfl
  rw [Table.revise, hlookup, Op.updateAttempt, Op.exec_updateImpl]
  cases w.impl.attempts.lookup id <;> rfl

/-! ## What a run does to it -/

/-- What the trace says was noted since the controller was opened. -/
def Event.note (noted : List (AttemptId × Attempt)) : Event → List (AttemptId × Attempt)
  | .opened _ => []
  | .dispatched attempt _ => noted ++ [(attempt.id, attempt)]
  | .rebuilt attempt _ _ => noted ++ [(attempt.id, attempt)]
  | _ => noted

def notes (trace : List Event) : List (AttemptId × Attempt) := trace.foldl Event.note []

theorem notes_concat (trace : List Event) (e : Event) :
    notes (trace ++ [e]) = e.note (notes trace) := by
  unfold notes
  rw [List.foldl_append]
  rfl

/-- The moves noted what the trace says, and made the table what it is. -/
structure Impl.Performed (limits : RuntimeLimits) (s : Impl ρ) (moves : List AttemptMove) : Prop where
  noted : noted moves = notes s.trace
  table : s.table = AttemptTable.after limits moves

def Impl.Tracked (limits : RuntimeLimits) (s : Impl ρ) : Prop := ∃ moves, s.Performed limits moves

namespace Impl.Tracked

variable {limits : RuntimeLimits} {s s' : Impl ρ}

theorem congr (h : s.Tracked limits) (htable : s'.table = s.table)
    (hnotes : notes s'.trace = notes s.trace) : s'.Tracked limits := by
  obtain ⟨moves, hnoted, hmoves⟩ := h
  exact ⟨moves, hnoted.trans hnotes.symm, htable.trans hmoves⟩

theorem noted (h : s.Tracked limits) (attempt : Attempt)
    (htable : s'.table = s.table.note limits attempt)
    (hnotes : notes s'.trace = notes s.trace ++ [(attempt.id, attempt)]) : s'.Tracked limits := by
  obtain ⟨moves, hnoted, hmoves⟩ := h
  refine ⟨moves ++ [.note attempt.id attempt], ?_, ?_⟩
  · rw [hnotes, ← hnoted, Trimming.noted, List.filterMap_append]
    rfl
  · rw [htable, hmoves, AttemptTable.after, AttemptTable.after, Table.run_concat]
    rfl

theorem revised (h : s.Tracked limits) {id : AttemptId} {f : Attempt → Attempt}
    (htable : s'.table = s.table.revise id f) (hnotes : notes s'.trace = notes s.trace) :
    s'.Tracked limits := by
  obtain ⟨moves, hnoted, hmoves⟩ := h
  refine ⟨moves ++ [.revise id f], ?_, ?_⟩
  · rw [hnotes, ← hnoted, Trimming.noted, List.filterMap_append]
    exact List.append_nil _
  · rw [htable, hmoves, AttemptTable.after, AttemptTable.after, Table.run_concat]
    rfl

end Impl.Tracked

/-- Whatever the program returns, it noted what it logged as noted and evicted nothing else. -/
def Tracks (env : Env ρ) (m : Op ρ α) : Prop :=
  Triple (fun w => w.impl.Tracked env.limits) m (fun _ w => w.impl.Tracked env.limits)
    fun _ w => w.impl.Tracked env.limits

namespace Tracks

theorem pure (a : α) : Tracks env (pure a : Op ρ α) := Triple.pure fun _ h => h

theorem throw (e : Status) : Tracks env (throw e : Op ρ α) := Triple.throw fun _ h => h

theorem bind {m : Op ρ α} {f : α → Op ρ β} (hm : Tracks env m) (hf : ∀ a, Tracks env (f a)) :
    Tracks env (m >>= f) := Triple.bind hm hf

theorem get_bind {f : World ρ → Op ρ β} (hf : ∀ w, Tracks env (f w)) :
    Tracks env ((get : Op ρ (World ρ)) >>= f) := triple_get_bind fun w _ => hf w

theorem read_bind {f : World ρ → α} {k : α → Op ρ β} (hk : ∀ a, Tracks env (k a)) :
    Tracks env (Op.read f >>= k) := triple_read_bind fun w _ => hk (f w)

theorem modify {g : World ρ → World ρ} (htable : ∀ w, (g w).impl.table = w.impl.table)
    (htrace : ∀ w, notes (g w).impl.trace = notes w.impl.trace) :
    Tracks env (modify g : Op ρ PUnit) :=
  Triple.modify fun w h => h.congr (htable w) (htrace w)

theorem updateImpl {f : Impl ρ → Impl ρ} (htable : ∀ s, (f s).table = s.table)
    (htrace : ∀ s, (f s).trace = s.trace) : Tracks env (Op.updateImpl f) :=
  modify (fun w => htable w.impl) fun w => congrArg notes (htrace w.impl)

theorem updateRollout (f : Rollout → Rollout) : Tracks env (Op.updateRollout (ρ := ρ) f) :=
  modify (fun _ => rfl) fun _ => rfl

theorem updateReport (f : TickReport → TickReport) : Tracks env (Op.updateReport (ρ := ρ) f) :=
  modify (fun _ => rfl) fun _ => rfl

theorem updateCounters (f : OrchestratorCounters → OrchestratorCounters) :
    Tracks env (Op.updateCounters (ρ := ρ) f) := updateImpl (fun _ => rfl) fun _ => rfl

theorem updateAttempt {id : AttemptId} {f : Attempt → Attempt} :
    Tracks env (Op.updateAttempt (ρ := ρ) id f) := by
  refine Triple.modify fun w h => h.revised (table_updateAttempt w id f) ?_
  dsimp only
  split <;> rfl

theorem ask_bind {f : ρ → α × ρ} {k : α → Op ρ β} (hk : ∀ a, Tracks env (k a)) :
    Tracks env (Op.ask f >>= k) := triple_ask_bind (fun _ _ h => h.congr rfl rfl) hk

theorem log {e : Event} (h : ∀ l, e.note l = l) : Tracks env (Op.log (ρ := ρ) e) :=
  modify (fun _ => rfl) fun w => (notes_concat w.impl.trace e).trans (h _)

/-- An attempt is logged as noted, and noted. -/
theorem note_bind {e : Event} {attempt : Attempt} {k : Unit → Op ρ β}
    (h : ∀ l, e.note l = l ++ [(attempt.id, attempt)]) (hk : ∀ a, Tracks env (k a)) :
    Tracks env (Op.log e >>= fun _ => noteAttempt env attempt >>= k) := by
  intro w hw
  refine hk () _ (hw.noted attempt ?_ ?_)
  · exact Impl.table_noteAttempt ..
  · exact (notes_concat w.impl.trace e).trans (h _)

theorem tryCatch {m : Op ρ α} {h : Status → Op ρ α} (hm : Tracks env m)
    (hh : ∀ e, Tracks env (h e)) : Tracks env (tryCatch m h) := Triple.tryCatch hm hh

theorem latch {m : Op ρ Unit} (hm : Tracks env m) : Tracks env (Op.latch m) :=
  tryCatch hm fun _ => updateImpl (fun _ => rfl) fun _ => rfl

theorem forM {g : β → Op ρ Unit} {l : List β} (h : ∀ b, Tracks env (g b)) :
    Tracks env (l.forM g) := Triple.forM fun b _ => h b

theorem foldlM {g : α → β → Op ρ α} {l : List β} {a : α} (h : ∀ a b, Tracks env (g a b)) :
    Tracks env (l.foldlM g a) := Triple.foldlM fun a b _ => h a b

/-- What holds at the end of a run, however it ends. -/
theorem tracked {m : Op ρ α} (hm : Tracks env m) {w : World ρ} (hw : w.impl.Tracked env.limits) :
    (m.exec w).2.impl.Tracked env.limits := Triple.after hm hw

theorem check (s : Status) : Tracks env (Op.check (ρ := ρ) s) := by
  unfold Op.check
  split
  · exact pure ()
  · exact throw s

theorem enterTarget {state : TargetState} {record : Option EvidenceRecord}
    {f : TargetRuntime → TargetRuntime} :
    Tracks env (Op.enterTarget (ρ := ρ) j i state record f) := by
  unfold Op.enterTarget
  refine .read_bind fun place => .bind (.updateRollout _) fun _ => ?_
  exact .bind (.modify (fun _ => rfl) fun _ => rfl) fun _ => .log fun _ => rfl

/-- A step that is taken in some cases only. -/
theorem when {c : Prop} [Decidable c] {m : Op ρ Unit} (hm : Tracks env m) :
    Tracks env (if c then m else Pure.pure ()) := by
  split
  · exact hm
  · exact .pure ()

theorem when_bind {c : Prop} [Decidable c] {m : Op ρ Unit} {k : Unit → Op ρ β} (hm : Tracks env m)
    (hk : ∀ a, Tracks env (k a)) : Tracks env (if c then m >>= k else k ()) := by
  split
  · exact .bind hm hk
  · exact hk ()

end Tracks

/-! ## Writing -/

section

variable {entry : JournalEntry}

theorem journalAppend_tracks {limits : RuntimeLimits} {device : JournalDevice ρ} :
    Tracks env (journalAppend limits device entry) := by
  unfold journalAppend
  refine .read_bind fun _ => .read_bind fun epoch => ?_
  split
  · exact .bind (.log fun _ => rfl) fun _ => .pure _
  split
  · exact .bind (.log fun _ => rfl) fun _ => .pure _
  · refine .ask_bind fun answer => .bind (.log fun _ => rfl) fun _ => ?_
    dsimp only
    split
    · exact .bind (.updateImpl (fun _ => rfl) fun _ => rfl) fun _ => .pure _
    · exact .pure _

theorem appendJournal_tracks : Tracks env (appendJournal env entry) := by
  unfold appendJournal
  split
  · exact .pure _
  · refine .read_bind fun failed => ?_
    split
    · exact .read_bind fun status => .throw _
    · refine .bind journalAppend_tracks fun status => ?_
      split
      · exact .updateCounters _
      · exact .bind (.updateImpl (fun _ => rfl) fun _ => rfl) fun _ => .throw _

theorem persistRollout_tracks : Tracks env (persistRollout env) := by
  unfold persistRollout
  refine .get_bind fun w => ?_
  dsimp only
  split
  · exact .bind (.log fun _ => rfl) fun _ => .throw _
  split
  · exact .bind appendJournal_tracks fun _ => .updateImpl (fun _ => rfl) fun _ => rfl
  · exact .updateImpl (fun _ => rfl) fun _ => rfl

theorem countTransition_tracks (counted : Bool) :
    Tracks env (countTransition (ρ := ρ) counted) := by
  unfold countTransition
  split
  · exact .updateReport _
  · exact .pure _

theorem transition_tracks {next : RolloutState} {reason : Bytes} {counted : Bool} :
    Tracks env (transition env next reason now counted) := by
  unfold transition
  refine .read_bind fun state => ?_
  split
  · exact .pure _
  split
  · refine .bind ?_ fun _ => .bind (countTransition_tracks counted) fun _ => persistRollout_tracks
    unfold Op.enterRollout
    exact .bind (.updateRollout _) fun _ => .read_bind fun _ => .log fun _ => rfl
  · exact .throw _

theorem stageTransition_tracks {next : StageState} {counted : Bool} :
    Tracks env (stageTransition env j next now counted) := by
  unfold stageTransition
  refine .read_bind fun stage => ?_
  split
  · exact .pure _
  split
  · refine .bind ?_ fun _ => .bind (countTransition_tracks counted) fun _ => persistRollout_tracks
    unfold Op.enterStage
    refine .read_bind fun _ => .bind (.updateRollout _) fun _ => .bind (.updateRollout _) fun _ => ?_
    exact .read_bind fun _ => .log fun _ => rfl
  · exact .throw _

theorem commit_tracks {fill : World ρ → DecisionBuilder} : Tracks env (commit env now fill) := by
  unfold commit commitDecision
  refine .read_bind fun _ => .read_bind fun decision => ?_
  refine .bind (.updateImpl (fun _ => rfl) fun _ => rfl) fun _ => ?_
  exact .bind (.updateRollout _) fun _ => .latch appendJournal_tracks

/-- A decision of a tick. -/
theorem decide_tracks {fill : World ρ → DecisionBuilder} :
    Tracks env (do commit env now fill; countDecision) :=
  .bind commit_tracks fun _ => .updateReport _

end

/-! ## Evidence -/

section

variable {record : EvidenceRecord} {attempt : Attempt}

theorem retryOrExhaust_tracks : Tracks env (retryOrExhaust env j i now) := by
  unfold retryOrExhaust
  refine .read_bind fun stage => .read_bind fun target => ?_
  split
  · exact .bind .enterTarget fun _ => decide_tracks
  · exact .when_bind .enterTarget fun _ => decide_tracks

theorem applyTerminalExecution_tracks :
    Tracks env (applyTerminalExecution env record j i attempt now) := by
  unfold applyTerminalExecution
  refine .bind .updateAttempt fun _ => .bind (.updateRollout _) fun _ => ?_
  refine .read_bind fun target => ?_
  split
  · refine .bind .updateAttempt fun _ => .bind .enterTarget fun _ => ?_
    exact .updateRollout _
  split
  · exact .updateAttempt
  split
  · refine .bind .updateAttempt fun _ => .bind .enterTarget fun _ => ?_
    refine .bind (.updateRollout _) fun _ => .bind (.updateReport _) fun _ => ?_
    exact .read_bind fun stage => decide_tracks
  · refine .bind .updateAttempt fun _ => .bind .enterTarget fun _ => ?_
    exact .bind (.updateRollout _) fun _ => retryOrExhaust_tracks

theorem applyCompensation_tracks : Tracks env (applyCompensation env record j i now) := by
  unfold applyCompensation
  refine .bind (.updateRollout _) fun _ => .bind .updateAttempt fun _ => ?_
  refine .read_bind fun stage => ?_
  split
  · refine .bind (.updateRollout _) fun _ => .read_bind fun target => ?_
    split
    · exact .bind .enterTarget fun _ => .updateRollout _
    · exact .pure _
  · refine .bind .enterTarget fun _ => .bind (.updateRollout _) fun _ => ?_
    exact .read_bind fun target => decide_tracks

theorem applyCancellation_tracks : Tracks env (applyCancellation (ρ := ρ) record j i) := by
  unfold applyCancellation
  refine .bind .updateAttempt fun _ => .bind (.updateRollout _) fun _ => ?_
  refine .read_bind fun target => .when_bind .enterTarget fun _ => ?_
  exact .bind (.updateRollout _) fun _ => .updateRollout _

theorem applyClass_tracks : Tracks env (applyClass env record j i attempt now) := by
  unfold applyClass
  split
  · exact .pure _
  · exact .pure _
  · exact applyCancellation_tracks
  · refine .read_bind fun target => ?_
    split
    · exact .pure _
    split
    · exact applyCompensation_tracks
    · exact applyTerminalExecution_tracks
  · exact applyCompensation_tracks
  · exact .updateRollout _

theorem applyEvidence_tracks : Tracks env (applyEvidence env record now) := by
  unfold applyEvidence
  refine .get_bind fun w => ?_
  split
  · exact .pure _
  split
  · exact .pure _
  split
  · exact .pure _
  · refine .bind (.log fun _ => rfl) fun _ => .bind .updateAttempt fun _ => ?_
    exact .bind applyClass_tracks fun _ => persistRollout_tracks

end

/-! ## Advancing -/

section

variable {reason : Bytes} {kind : GateKind}

theorem openGate_tracks : Tracks env (openGate env j kind now) := by
  unfold openGate
  refine .read_bind fun minted => .bind (.updateImpl (fun _ => rfl) fun _ => rfl) fun _ => ?_
  refine .bind (.updateRollout _) fun _ => .latch ?_
  exact .bind stageTransition_tracks fun _ => .read_bind fun state => .when transition_tracks

theorem weigh_tracks : Tracks env (weigh (ρ := ρ) j now) := .read_bind fun _ => .log fun _ => rfl

theorem probeHealth_tracks : Tracks env (probeHealth env j now) := by
  unfold probeHealth
  refine .read_bind fun stage => ?_
  split
  · exact .pure _
  split
  · exact .pure _
  refine .get_bind fun w => .when ?_
  refine .bind (.updateImpl (fun _ => rfl) fun _ => rfl) fun _ => .read_bind fun _ => ?_
  exact .ask_bind fun status => .when (.updateCounters _)

theorem failRollout_tracks : Tracks env (failRollout env reason now) := by
  unfold failRollout
  refine .read_bind fun state => ?_
  split
  · exact .pure _
  · exact .when_bind transition_tracks fun _ => transition_tracks

theorem beginRollback_tracks : Tracks env (beginRollback env reason now) := by
  unfold beginRollback
  refine .read_bind fun state => .when_bind transition_tracks fun _ => .read_bind fun r => ?_
  refine .bind (.forM fun j => .forM fun i => ?_) fun _ => ?_
  · exact .read_bind fun stage => .read_bind fun target => .when .enterTarget
  · exact .bind commit_tracks fun _ => .bind (.updateReport _) fun _ => persistRollout_tracks

theorem failStage_tracks : Tracks env (failStage env j reason now) := by
  unfold failStage
  refine .bind stageTransition_tracks fun _ => .get_bind fun w => ?_
  split
  · exact beginRollback_tracks
  · exact failRollout_tracks

theorem startStage_tracks : Tracks env (startStage env j now) := by
  unfold startStage
  refine .bind stageTransition_tracks fun _ => .get_bind fun w => ?_
  exact .when_bind transition_tracks fun _ => decide_tracks

theorem beginStage_tracks : Tracks env (beginStage env j now) := by
  unfold beginStage
  refine .get_bind fun w => ?_
  dsimp only
  split
  · exact .throw _
  · exact .pure _
  · exact .bind commit_tracks fun _ => .bind (.updateReport _) fun _ => failRollout_tracks
  · split
    · refine .bind stageTransition_tracks fun _ => ?_
      split
      · exact .bind commit_tracks fun _ => .bind (.updateReport _) fun _ => openGate_tracks
      · exact startStage_tracks
    · exact startStage_tracks

/-! ### Dispatch -/

/-- The attempt that is dispatched is the one that is noted. -/
theorem accept_tracks {attempt : Attempt} {step : UInt32} :
    Tracks env (Op.accept env j i attempt step) := by
  intro w hw
  have haccepted : ((Op.accept env j i attempt step).exec w).2.impl.Tracked env.limits := by
    refine hw.noted attempt ?_ ?_
    · exact Impl.table_noteAttempt ..
    · show notes (w.impl.trace ++ [.dispatched attempt step] ++ [.entered _ _ none]) = _
      rw [notes_concat, notes_concat]
      rfl
  exact ⟨.refl, fun _ _ => haccepted, fun _ _ => haccepted⟩

theorem noteIdempotencyKey_tracks {key : Digest256} : Tracks env (noteIdempotencyKey env key) := by
  refine .updateImpl (fun s => ?_) fun s => ?_
  · split <;> rfl
  · split <;> rfl

theorem createAndDispatch_tracks {id : TargetId} {action : ActionSpec} {step : UInt32}
    {epoch : UInt64} : Tracks env (createAndDispatch env j id action step epoch now) := by
  unfold createAndDispatch
  refine .get_bind fun w => ?_
  dsimp only
  split
  · exact .throw _
  split
  · exact .updateCounters _
  refine .bind (.updateImpl (fun _ => rfl) fun _ => rfl) fun _ => .bind (.updateRollout _) fun _ => ?_
  refine .bind (.log fun _ => rfl) fun _ => .ask_bind fun result => ?_
  split
  · exact .updateCounters _
  · refine .bind accept_tracks fun _ => .bind noteIdempotencyKey_tracks fun _ => ?_
    exact .bind (.updateRollout _) fun _ => .bind (.updateReport _) fun _ => decide_tracks

theorem dispatchEntry_tracks {entry : DispatchPlanEntry} :
    Tracks env (dispatchEntry env j now entry) := by
  unfold dispatchEntry
  refine .read_bind fun stage => ?_
  dsimp only
  split
  · exact createAndDispatch_tracks
  · exact .pure _

theorem dispatchStage_tracks : Tracks env (dispatchStage env j now) := by
  unfold dispatchStage
  refine .get_bind fun w => .bind (.forM fun entry => dispatchEntry_tracks) fun _ => ?_
  refine .read_bind fun changing => .bind (.updateRollout _) fun _ => ?_
  refine .bind (.updateRollout _) fun _ => ?_
  dsimp only
  split
  · refine .read_bind fun stage => .bind commit_tracks fun _ => ?_
    exact .bind (.updateReport _) fun _ => persistRollout_tracks
  · exact persistRollout_tracks

theorem cancelTarget_tracks : Tracks env (cancelTarget env j now i) := by
  unfold cancelTarget
  refine .read_bind fun target => .read_bind fun found => ?_
  split
  · exact .pure _
  · exact .pure _
  split
  · exact .pure _
  refine .bind .updateAttempt fun _ => .bind (.log fun _ => rfl) fun _ => ?_
  split
  · exact .read_bind fun stage => commit_tracks
  · refine .ask_bind fun status => ?_
    dsimp only
    split
    · exact .bind (.check _) fun _ => .read_bind fun stage => commit_tracks
    · exact .read_bind fun stage => commit_tracks

theorem cancelInFlight_tracks : Tracks env (cancelInFlight env j now) := by
  unfold cancelInFlight
  exact .read_bind fun stage => .bind (.forM fun i => cancelTarget_tracks) fun _ =>
    persistRollout_tracks

theorem runRollback_tracks : Tracks env (runRollback env j i now) := by
  unfold runRollback
  refine .get_bind fun w => ?_
  dsimp only
  split
  · exact .pure _
  split
  · refine .bind .enterTarget fun _ => .bind (.updateRollout _) fun _ => persistRollout_tracks
  · exact createAndDispatch_tracks

theorem finishRollback_tracks : Tracks env (finishRollback env now) := by
  unfold finishRollback
  refine .read_bind fun r => ?_
  split
  · exact persistRollout_tracks
  · refine .bind (.log fun _ => rfl) fun _ => .bind (.forM fun j => stageTransition_tracks) fun _ => ?_
    exact .read_bind fun _ => failRollout_tracks

/-! ### Stages -/

theorem advanceCursor_tracks {health evidence advance : GateEvaluation} :
    Tracks env (advanceCursor env j health evidence advance now) := by
  unfold advanceCursor
  refine .bind stageTransition_tracks fun _ => .bind stageTransition_tracks fun _ => ?_
  refine .bind (.updateRollout _) fun _ => .read_bind fun r => .bind commit_tracks fun _ => ?_
  refine .bind (.updateReport _) fun _ => ?_
  split
  · exact transition_tracks
  · exact transition_tracks

theorem refuseManualGate_tracks {selected rationale : Bytes} :
    Tracks env (refuseManualGate env j kind reason selected rationale now) := by
  unfold refuseManualGate
  refine .read_bind fun stage => .bind commit_tracks fun _ => ?_
  exact .bind (.updateReport _) fun _ => openGate_tracks

theorem completeStage_tracks {approved : Bool} : Tracks env (completeStage env j now approved) := by
  unfold completeStage
  refine .get_bind fun w => .bind (.log fun _ => rfl) fun _ => .bind (.updateRollout _) fun _ => ?_
  refine .bind (.updateReport _) fun _ => .bind (.updateRollout _) fun _ => ?_
  refine .bind (.updateReport _) fun _ => ?_
  dsimp only
  split
  · split
    · exact refuseManualGate_tracks
    · exact .bind commit_tracks fun _ => .bind (.updateReport _) fun _ => failStage_tracks
  · refine .bind (.updateRollout _) fun _ => .bind (.updateReport _) fun _ => ?_
    split
    · split
      · exact refuseManualGate_tracks
      · exact decide_tracks
    · exact advanceCursor_tracks

theorem expireTarget_tracks : Tracks env (expireTarget env j now i) := by
  unfold expireTarget
  refine .read_bind fun target => .read_bind fun found => ?_
  split
  · exact .pure _
  split
  · exact .pure _
  split
  · exact .pure _
  refine .bind .updateAttempt fun _ => .bind (.updateRollout _) fun _ => ?_
  split
  · exact .bind .enterTarget fun _ => .updateRollout _
  · refine .read_bind fun stage => .bind .enterTarget fun _ => .bind (.updateRollout _) fun _ => ?_
    exact .bind commit_tracks fun _ => .bind (.updateReport _) fun _ => retryOrExhaust_tracks

theorem clearCanary_tracks : Tracks env (clearCanary env j now) := by
  unfold clearCanary
  refine .bind weigh_tracks fun _ => .read_bind fun stage => ?_
  split
  · exact .pure _
  split
  · refine .bind (.updateRollout _) fun _ => .bind commit_tracks fun _ => ?_
    exact .bind (.updateReport _) fun _ => .pure _
  split
  · refine .bind commit_tracks fun _ => .bind (.updateReport _) fun _ => ?_
    exact .bind failStage_tracks fun _ => .pure _
  · exact .pure _

theorem settleStage_tracks : Tracks env (settleStage env j now) := by
  unfold settleStage
  refine .read_bind fun stage => ?_
  dsimp only
  split
  · refine .bind (.updateRollout _) fun _ => .bind stageTransition_tracks fun _ => ?_
    refine .read_bind fun state => ?_
    exact .when_bind transition_tracks fun _ => decide_tracks
  split
  · exact persistRollout_tracks
  · exact completeStage_tracks

theorem holdForHealth_tracks : Tracks env (holdForHealth env j now) := by
  unfold holdForHealth
  refine .read_bind fun stage => .bind (.updateRollout _) fun _ => .bind commit_tracks fun _ => ?_
  exact .bind (.updateReport _) fun _ => persistRollout_tracks

theorem runStage_tracks : Tracks env (runStage env j now) := by
  unfold runStage
  refine .read_bind fun stage => .bind (.forM fun i => expireTarget_tracks) fun _ => ?_
  refine .bind probeHealth_tracks fun _ => .read_bind fun stage => ?_
  dsimp only
  split
  · exact .bind commit_tracks fun _ => .bind (.updateReport _) fun _ => failStage_tracks
  refine .bind clearCanary_tracks fun failed => ?_
  split
  · exact .pure _
  refine .bind weigh_tracks fun _ => .read_bind fun stage => ?_
  split
  · exact settleStage_tracks
  split
  · exact holdForHealth_tracks
  · exact dispatchStage_tracks

/-! ### Rollouts -/

theorem skipStage_tracks : Tracks env (skipStage env now) := by
  unfold skipStage
  refine .bind (.updateRollout _) fun _ => .read_bind fun r => ?_
  split
  · exact transition_tracks
  · exact transition_tracks

theorem advanceStage_tracks : Tracks env (advanceStage env j now) := by
  unfold advanceStage
  refine .read_bind fun r => ?_
  split
  · exact beginStage_tracks
  · exact stageTransition_tracks
  · exact runStage_tracks
  · exact runStage_tracks
  · exact probeHealth_tracks
  · exact completeStage_tracks
  · exact skipStage_tracks
  · split
    · exact beginRollback_tracks
    · exact failRollout_tracks
  · split
    · exact beginRollback_tracks
    · exact failRollout_tracks
  · exact .updateRollout _
  · exact .updateRollout _
  · exact .pure _

theorem advanceRollback_tracks : Tracks env (advanceRollback env now) := by
  unfold advanceRollback
  refine .read_bind fun r => .bind (.forM fun j => .forM fun i => ?_) fun _ => finishRollback_tracks
  exact .read_bind fun target => .when runRollback_tracks

theorem advance_tracks : Tracks env (advance env now) := by
  unfold advance
  refine .read_bind fun r => ?_
  split
  case h_9 =>
    split
    · exact .pure _
    split
    · exact .pure _
    · exact probeHealth_tracks
  case h_10 => exact .latch advanceRollback_tracks
  case h_11 | h_12 | h_13 =>
    refine .latch ?_
    split
    · exact transition_tracks
    · exact advanceStage_tracks
  all_goals exact .pure _

end

/-! ## Telemetry, reconciliation and restoring -/

section

variable {record : EvidenceRecord}

theorem telemetryOn_tracks : Tracks env (telemetryOn env record now) := by
  unfold telemetryOn
  refine .read_bind fun r => .when (.bind (.forM fun j => .read_bind fun stage => ?_) fun _ => ?_)
  · split
    · exact .pure _
    · exact .read_bind fun place => .bind (.updateRollout _) fun _ => .log fun _ => rfl
  · exact .latch persistRollout_tracks

theorem releaseAttempt_tracks {id : AttemptId} : Tracks env (releaseAttempt (ρ := ρ) id j i) := by
  unfold releaseAttempt
  refine .bind .updateAttempt fun _ => .read_bind fun target => .when_bind .enterTarget fun _ => ?_
  exact .bind (.updateRollout _) fun _ => .updateRollout _

theorem reconcileEntry_tracks {find : Rollout → RolloutId → Option Rollout} {entry : ReconcileEntry} :
    Tracks env (reconcileEntry env find now entry) := by
  unfold reconcileEntry
  refine .get_bind fun w => ?_
  dsimp only
  split
  · exact .pure _
  split
  · exact .pure _
  split
  · exact .pure _
  split
  case h_1 | h_2 =>
    refine .bind (.updateImpl (fun _ => rfl) fun _ => rfl) fun _ => .get_bind fun w => ?_
    split
    · exact .bind (.updateCounters _) fun _ => .pure _
    · exact .bind applyEvidence_tracks fun _ => .pure _
  · exact .bind releaseAttempt_tracks fun _ => .pure _
  · exact .pure _
  · refine .read_bind fun target => .when_bind .enterTarget fun _ => ?_
    exact .bind .updateAttempt fun _ => .pure _

theorem reconcileRollout_tracks {find : Rollout → RolloutId → Option Rollout}
    {execution : ExecutionAdapter ρ} : Tracks env (reconcileRollout env find execution) := by
  unfold reconcileRollout
  refine .get_bind fun w => ?_
  dsimp only
  split
  · exact .pure _
  split
  · exact .throw _
  refine .ask_bind fun result => .ask_bind fun now => .when_bind (.throw _) fun _ => ?_
  refine .bind (.foldlM fun counts entry => ?_) fun counts => ?_
  · exact .bind reconcileEntry_tracks fun _ => .pure _
  · exact .bind commit_tracks fun _ => .bind persistRollout_tracks fun _ => .pure _

theorem restoreTarget_tracks {previous : IncarnationId} :
    Tracks env (restoreTarget env previous j i) := by
  unfold restoreTarget
  refine .read_bind fun r => ?_
  dsimp only
  split
  · exact .pure _
  split
  · exact .updateRollout _
  split
  · exact .updateRollout _
  · exact .note_bind (fun _ => rfl) fun _ => .bind noteIdempotencyKey_tracks fun _ => .updateRollout _

end

/-! ## Commands -/

section

variable {plan : ChangePlan} {context : CommandContext} {reason : Bytes}

theorem requireState_tracks {allowed : RolloutState → Bool} {message : Bytes} :
    Tracks env (requireState (ρ := ρ) allowed message) := by
  unfold requireState
  exact .read_bind fun state => .when (.throw _)

theorem addStage_tracks {failed : StageSpec → Status → Status}
    {truncated : StageSpec → CohortMaterialization → Status} {refuseEmpty : Bool} {id : StageId} :
    Tracks env (addStage env plan now failed truncated refuseEmpty id) := by
  unfold addStage
  split
  · exact .throw _
  refine .get_bind fun w => ?_
  split
  · exact .throw _
  refine .when_bind (.throw _) fun _ => .read_bind fun minted => ?_
  refine .bind (.updateImpl (fun _ => rfl) fun _ => rfl) fun _ => ?_
  exact .when_bind (.throw _) fun _ => .updateRollout _

theorem buildRollout_tracks : Tracks env (buildRollout env plan context now) := by
  unfold buildRollout
  refine .bind (.forM fun id => addStage_tracks) fun _ => .bind (.updateRollout _) fun _ => ?_
  refine .bind commit_tracks fun _ => .bind transition_tracks fun _ => .read_bind fun inventory => ?_
  exact .bind appendJournal_tracks fun _ => appendJournal_tracks

theorem freezeStage_tracks : Tracks env (freezeStage (ρ := ρ) now j) := by
  unfold freezeStage
  refine .read_bind fun stage => ?_
  split
  · exact .throw _
  · exact .updateRollout _

theorem armRollout_tracks : Tracks env (armRollout env context) := by
  unfold armRollout
  refine .bind requireState_tracks fun _ => .ask_bind fun now => .read_bind fun r => ?_
  refine .bind (.forM fun j => freezeStage_tracks) fun _ => .bind commit_tracks fun _ => ?_
  exact .bind transition_tracks fun _ => .read_bind fun r => .pure _

theorem startRollout_tracks : Tracks env (startRollout env) := by
  unfold startRollout
  refine .bind requireState_tracks fun _ => .read_bind fun r => .when_bind (.throw _) fun _ => ?_
  split
  · exact .throw _
  · exact .ask_bind fun now => .bind transition_tracks fun _ => .pure _

theorem pauseRollout_tracks : Tracks env (pauseRollout env context reason) := by
  unfold pauseRollout
  refine .read_bind fun previous => .when_bind (.throw _) fun _ => .ask_bind fun now => ?_
  refine .bind (.updateRollout _) fun _ => .read_bind fun r => ?_
  refine .bind commit_tracks fun _ => .bind transition_tracks fun _ => ?_
  split
  · split
    · exact .bind cancelInFlight_tracks fun _ => .pure _
    · exact .pure _
  · exact .pure _

theorem resumeRollout_tracks : Tracks env (resumeRollout env context) := by
  unfold resumeRollout
  refine .bind requireState_tracks fun _ => .read_bind fun r => .when_bind (.throw _) fun _ => ?_
  refine .ask_bind fun now => .bind commit_tracks fun _ => ?_
  exact .bind transition_tracks fun _ => .pure _

theorem abortStage_tracks : Tracks env (abortStage env now j) := by
  unfold abortStage
  refine .read_bind fun stage => ?_
  split
  · exact stageTransition_tracks
  split
  · exact .pure _
  · exact .bind cancelInFlight_tracks fun _ => stageTransition_tracks

theorem abortRollout_tracks : Tracks env (abortRollout env context reason) := by
  unfold abortRollout
  refine .read_bind fun r => .when_bind (.throw _) fun _ => .ask_bind fun now => ?_
  refine .bind commit_tracks fun _ => .bind transition_tracks fun _ => ?_
  refine .bind (.forM fun j => abortStage_tracks) fun _ => ?_
  dsimp only
  split
  · exact .bind beginRollback_tracks fun _ => .pure _
  · exact .bind failRollout_tracks fun _ => .pure _

theorem approvePending_tracks {gate : GateId} : Tracks env (approvePending env context gate) := by
  unfold approvePending
  refine .read_bind fun r => ?_
  split
  · exact .throw _
  refine .ask_bind fun now => .read_bind fun stage => .bind commit_tracks fun _ => ?_
  refine .bind (.updateRollout _) fun _ => .bind (.log fun _ => rfl) fun _ => ?_
  dsimp only
  split
  · exact .bind beginStage_tracks fun _ => .pure _
  · exact .bind completeStage_tracks fun _ => .pure _
  · exact .bind completeStage_tracks fun _ => .pure _
  · exact .bind stageTransition_tracks fun _ => .pure _
  · exact .bind beginRollback_tracks fun _ => .pure _

theorem retireRollout_tracks : Tracks env (retireRollout env) := by
  unfold retireRollout
  refine .bind requireState_tracks fun _ => .ask_bind fun now => .bind transition_tracks fun _ => ?_
  exact .read_bind fun r => .bind appendJournal_tracks fun _ => .pure _

theorem regenerateRollout_tracks : Tracks env (regenerateRollout env context plan) := by
  unfold regenerateRollout
  refine .bind requireState_tracks fun _ => .ask_bind fun now => .read_bind fun minted => ?_
  refine .bind (.updateImpl (fun _ => rfl) fun _ => rfl) fun _ => .bind (.updateRollout _) fun _ => ?_
  refine .bind (.forM fun id => addStage_tracks) fun _ => .bind (.updateRollout _) fun _ => ?_
  refine .bind commit_tracks fun _ => .bind (.updateRollout _) fun _ => ?_
  exact .bind persistRollout_tracks fun _ => .read_bind fun r => .pure _

end

end RolloutFabric
