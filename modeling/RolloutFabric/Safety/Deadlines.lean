/-
Attempt deadlines: an attempt that is dispatched or rebuilt gets its whole deadline exactly where
its start and the deadline of its stage have a 64-bit sum.
-/
import RolloutFabric.Json.Durations
import RolloutFabric.Safety.Accounts
import RolloutFabric.Safety.Concurrency

namespace RolloutFabric

open Program

variable {ρ : Type} {env : Env ρ} {w : World ρ} {j i : Nat} {start now : Timestamp}
  {attempt : Attempt}

/-! ## Deadlines -/

/-- The deadline is that many nanoseconds after the dispatch, over the integers, and the deadline
check of no tick before or at it does anything. -/
structure Attempt.GetsDeadline (attempt : Attempt) (nanos : Int) : Prop where
  exact : attempt.deadline.nanos.toInt = attempt.dispatchedAt.nanos.toInt + nanos
  spared : ∀ {ρ : Type} (env : Env ρ) (j i : Nat) (now : Timestamp) (w : World ρ) (a : Attempt),
    w.impl.attempts.lookup (w.rollout.targetAt j i).currentAttempt = some a →
    a.deadline = attempt.deadline → now.nanos.toInt ≤ attempt.dispatchedAt.nanos.toInt + nanos →
    (expireTarget env j now i).exec w = (.ok (), w)

/-- The check does nothing where the deadline is not over. -/
theorem expireTarget_spares {a : Attempt}
    (ha : w.impl.attempts.lookup (w.rollout.targetAt j i).currentAttempt = some a)
    (hnow : ¬ a.deadline < now) : (expireTarget env j now i).exec w = (.ok (), w) := by
  unfold expireTarget
  simp only [Op.target, Op.findAttempt, Op.read, exec_bind, exec_get, exec_pure, ha, hnow]
  split
  · rfl
  · simp

theorem getsDeadline_iff_exact {nanos : Int} : attempt.GetsDeadline nanos
    ↔ attempt.deadline.nanos.toInt = attempt.dispatchedAt.nanos.toInt + nanos := by
  refine ⟨fun h => h.exact, fun h => ⟨h, fun env j i now w a ha hdeadline hnow => ?_⟩⟩
  refine expireTarget_spares ha fun hlt => ?_
  have hlt : a.deadline.nanos.toInt < now.nanos.toInt := Int64.lt_iff_toInt_lt.1 hlt
  rw [hdeadline, h] at hlt
  omega

/-! ## Dispatches and restores -/

/-- The attempt is dispatched for the stage, or rebuilt, in that world; its time starts then. -/
inductive HandsOut (env : Env ρ) (w : World ρ) (j : Nat) (start : Timestamp) (attempt : Attempt) :
    Prop
  | dispatch {id : TargetId} {action : ActionSpec} {step step' : UInt32} {epoch : UInt64}
      {events : List Event}
      (htrace : ((createAndDispatch env j id action step epoch start).exec w).2.impl.trace
        = w.impl.trace ++ events)
      (hmem : .dispatched attempt step' ∈ events)
  | restore {previous : IncarnationId} {i : Nat} {step : UInt32} {state : TargetState}
      {events : List Event}
      (hstart : (w.rollout.targetAt j i).dispatchedAt = start)
      (htrace : ((restoreTarget env previous j i).exec w).2.impl.trace = w.impl.trace ++ events)
      (hmem : .rebuilt attempt step state ∈ events)

/-- The trace goes on from a first part, and every dispatch since is of that attempt. -/
def Tally.DispatchesOnly (before : List Event) (attempt : Attempt) (l : Tally) : Prop :=
  ∃ events, l.trace = before ++ events ∧ ∀ a step, .dispatched a step ∈ events → a = attempt

theorem dispatchesOnly_logged (before : List Event) (attempt : Attempt) :
    Logged (Tally.DispatchesOnly before attempt) := by
  constructor
  rintro l e he ⟨events, htrace, honly⟩
  refine ⟨events ++ [e], by rw [Tally.log, htrace, List.append_assoc], fun a step hmem => ?_⟩
  rcases List.mem_append.1 hmem with hmem | hmem
  · exact honly a step hmem
  · rw [← List.mem_singleton.1 hmem] at he
    cases he

/-- A dispatch is of the attempt that is minted for the target. -/
theorem createAndDispatch_only {id : TargetId} {action : ActionSpec} {step : UInt32}
    {epoch : UInt64} : ∃ target, Tally.DispatchesOnly w.impl.trace
      (mintAttempt w (w.rollout.stageAt j) target action epoch start)
      ((createAndDispatch env j id action step epoch start).exec w).2.tally := by
  refine ⟨w.rollout.targetAt j (((w.rollout.stageAt j).findTarget id).getD 0), ?_⟩
  generalize hattempt : mintAttempt w (w.rollout.stageAt j) _ action epoch start = attempt
  have hI := dispatchesOnly_logged w.impl.trace attempt
  have hw : w.tally.DispatchesOnly w.impl.trace attempt :=
    ⟨[], (List.append_nil _).symm, fun _ _ h => by cases h⟩
  have hrun : Triple (fun s => s = w) (createAndDispatch env j id action step epoch start)
      (fun _ s => s.tally.DispatchesOnly w.impl.trace attempt)
      fun _ s => s.tally.DispatchesOnly w.impl.trace attempt := by
    unfold createAndDispatch
    refine triple_get_bind fun w' h => ?_
    subst h
    dsimp only
    split
    · exact Upholds.here (.throw _) hw
    next i hfind =>
    rw [hfind, Option.getD_some] at hattempt
    split
    · exact Upholds.here (.updateImpl fun _ => rfl) hw
    refine Upholds.here ?_ hw
    refine .bind (.updateImpl fun _ => rfl) fun _ => .bind (.updateTarget fun _ => rfl) fun _ => ?_
    refine .bind (.log hI fun _ _ => trivial) fun _ => .ask_bind fun result => ?_
    rw [hattempt]
    split
    · exact .updateImpl fun _ => rfl
    refine .bind ?_ fun _ => .bind (.updateImpl fun s => by dsimp only; split <;> rfl) fun _ => ?_
    · rintro s ⟨events, htrace, honly⟩
      obtain ⟨hok, htally⟩ := @accept_exec _ env j i s attempt step
      refine ⟨.refl, fun _ _ => ?_, fun e he => by rw [hok] at he; cases he⟩
      show Tally.DispatchesOnly w'.impl.trace attempt _
      rw [htally]
      refine hI.log _ _ trivial ⟨events ++ [.dispatched attempt step], ?_, fun a step' hmem => ?_⟩
      · rw [Tally.dispatch, htrace, List.append_assoc]
      · rcases List.mem_append.1 hmem with hmem | hmem
        · exact honly a step' hmem
        · cases List.mem_singleton.1 hmem
          rfl
    · refine .bind (.updateRollout fun _ => rfl) fun _ => .bind (.modify fun _ => rfl) fun _ => ?_
      exact .bind (commit_upholds hI) fun _ => countDecision_upholds
  exact hrun.after rfl

/-- A restore rebuilds the current attempt of the target, or nothing. -/
theorem restoreTarget_trace {previous : IncarnationId} :
    ((restoreTarget env previous j i).exec w).2.impl.trace = w.impl.trace
      ∨ ∃ action step state, ((restoreTarget env previous j i).exec w).2.impl.trace
        = w.impl.trace ++ [.rebuilt (rebuildAttempt w.rollout (w.rollout.stageAt j)
          (w.rollout.targetAt j i) action previous) step state] := by
  unfold restoreTarget
  simp only [Op.read, exec_bind, exec_get, exec_pure]
  split
  · exact .inl rfl
  split
  · exact .inl rfl
  split
  · exact .inl rfl
  next action _ =>
  refine .inr ⟨action, (w.rollout.targetAt j i).rollbackStep, (w.rollout.targetAt j i).state, ?_⟩
  simp only [Op.log, noteAttempt, noteIdempotencyKey, Op.updateImpl, Op.updateRollout, exec_bind,
    exec_modify]
  split <;> rfl

/-- What is handed out carries its start, and the deadline of its stage added to it. -/
theorem HandsOut.times (h : HandsOut env w j start attempt) : attempt.dispatchedAt = start
    ∧ attempt.deadline = start.add (w.rollout.stageAt j).policy.attemptDeadline := by
  cases h with
  | @dispatch id action step step' epoch events htrace hmem =>
    obtain ⟨target, events', htrace', honly⟩ :=
      @createAndDispatch_only _ env w j start id action step epoch
    have hsame : events = events' := List.append_cancel_left (htrace.symm.trans htrace')
    rw [honly attempt step' (hsame ▸ hmem)]
    exact ⟨rfl, rfl⟩
  | @restore previous i step state events hstart htrace hmem =>
    rcases @restoreTarget_trace _ env w j i previous with hnone | ⟨action, step', state', hone⟩
    · rw [hnone, List.self_eq_append_right] at htrace
      rw [htrace] at hmem
      cases hmem
    · obtain rfl := List.append_cancel_left (htrace.symm.trans hone)
      cases List.mem_singleton.1 hmem
      rw [← hstart]
      exact ⟨rfl, rfl⟩

/-! ## Whole deadlines -/

theorem StagePolicy.attemptDeadline_pos {p : StagePolicy} {limits : RuntimeLimits}
    (h : (p.validate limits).isOk = true) : 0 < p.attemptDeadline.nanos.toInt := by
  rw [StagePolicy.validate, firstFailure_isOk] at h
  have hdeadline := h (refuseIf (p.attemptDeadline.isZero || p.attemptDeadline.isNegative)
    (text "attempt_deadline must be positive")) (by simp)
  rw [refuseIf_isOk, Bool.not_eq_true', Bool.or_eq_false_iff] at hdeadline
  obtain ⟨hzero, hnegative⟩ := hdeadline
  have hne : p.attemptDeadline.nanos.toInt ≠ 0 := fun h0 => by
    have : p.attemptDeadline.nanos = 0 := Int64.toInt_inj.1 h0
    simp [Duration.isZero, this] at hzero
  have hnonneg : ¬ p.attemptDeadline.nanos.toInt < 0 := fun hlt => by
    have : p.attemptDeadline.nanos < 0 := Int64.lt_iff_toInt_lt.2 hlt
    simp [Duration.isNegative, this] at hnegative
  omega

/-- The member of a policy document that sets the deadline. -/
def attemptDeadlineKey : Bytes := text "attempt_deadline_ms"

/-- An attempt gets the deadline its document asks for exactly where it ends before the last
instant there is. -/
theorem getsDeadline_iff {object : JsonValue} {parent : Bytes} {limits : RuntimeLimits}
    (hread : readOptionalMillis object attemptDeadlineKey parent (.fromSeconds 120)
      = .ok (w.rollout.stageAt j).policy.attemptDeadline)
    (hvalid : ((w.rollout.stageAt j).policy.validate limits).isOk = true)
    (hstart : 0 < start.nanos.toInt) (h : HandsOut env w j start attempt) :
    attempt.GetsDeadline (object.askedNanos attemptDeadlineKey (.fromSeconds 120))
      ↔ start.nanos.toInt + object.askedNanos attemptDeadlineKey (.fromSeconds 120) < 2 ^ 63 := by
  have hpos := StagePolicy.attemptDeadline_pos hvalid
  obtain ⟨hdispatched, hdeadline⟩ := h.times
  rw [getsDeadline_iff_exact, hdispatched, hdeadline, ← readOptionalMillis_exact hread,
    Timestamp.toInt_add_eq_iff]
  omega

/-! ### A dispatch of the present -/

def Event.dispatches (attempt : Attempt) : Event → Bool
  | .dispatched a _ => decide (a = attempt)
  | _ => false

/-- The first dispatch of a run is handed out by the call that makes it. -/
theorem handsOut_first {id : TargetId} {action : ActionSpec} {step : UInt32} {epoch : UInt64}
    (hnone : w.impl.trace.any Event.isDispatched = false)
    (hsome : ((createAndDispatch env j id action step epoch start).exec w).2.impl.trace.any
      (Event.dispatches attempt) = true) : HandsOut env w j start attempt := by
  obtain ⟨target, events, htrace, -⟩ :=
    @createAndDispatch_only _ env w j start id action step epoch
  have htrace' : ((createAndDispatch env j id action step epoch start).exec w).2.impl.trace
      = w.impl.trace ++ events := htrace
  rw [htrace', List.any_append, Bool.or_eq_true, List.any_eq_true] at hsome
  rw [List.any_eq_false] at hnone
  rcases hsome with ⟨e, he, hdispatches⟩ | hsome
  · cases e <;> first | cases hdispatches | exact absurd rfl (hnone _ he)
  · obtain ⟨e, he, hdispatches⟩ := List.any_eq_true.1 hsome
    cases e with
    | dispatched a step' =>
      obtain rfl : a = attempt := of_decide_eq_true hdispatches
      exact .dispatch htrace' he
    | _ => cases hdispatches

/-- An instant of the present era. -/
def present : Timestamp := ⟨1767225600000000000⟩

def presentEnv : Env Unit := { volatileEnv with clock := fun s => (present, s) }

/-- The policy of a plan document that sets nothing but the deadline. -/
def deadlineDocument (millis : Int64) : JsonValue := .object [(attemptDeadlineKey, .number millis)]

def deadlinePlan (millis : Int64) : ChangePlan := { rerunPlan with
  stages := rerunPlan.stages.map fun stage => { stage with
    policy := { stage.policy with attemptDeadline := .fromMillis millis } } }

/-- The rollout of the plan is started, and a tick enters its stage. -/
def deadlineOrchestrator (millis : Int64) : Orchestrator Unit :=
  loneOrchestrator.after presentEnv
    [.create (deadlinePlan millis) {}, .arm twinRollout {}, .start twinRollout {}, .tick]

def deadlineWorld (millis : Int64) : World Unit := (deadlineOrchestrator millis).world 0 {}

/-- What the next tick does for the target. -/
def deadlineDispatch (millis : Int64) : Op Unit Unit :=
  createAndDispatch presentEnv 0 (idOf 1)
    ((primaryAction ((deadlineWorld millis).rollout.stageAt 0)).getD default) 0 1 present

def deadlineAttempt (millis : Int64) : Attempt :=
  mintAttempt (deadlineWorld millis) ((deadlineWorld millis).rollout.stageAt 0)
    ((deadlineWorld millis).rollout.targetAt 0 0)
    ((primaryAction ((deadlineWorld millis).rollout.stageAt 0)).getD default) 1 present

/-- What is asked of a dispatch: it is the first one, and its stage follows the document. -/
structure DeadlineCase (millis : Int64) : Prop where
  read : readOptionalMillis (deadlineDocument millis) attemptDeadlineKey [] (.fromSeconds 120)
    = .ok ((deadlineWorld millis).rollout.stageAt 0).policy.attemptDeadline
  valid : (((deadlineWorld millis).rollout.stageAt 0).policy.validate presentEnv.limits).isOk = true
  none : (deadlineWorld millis).impl.trace.any Event.isDispatched = false
  some : ((deadlineDispatch millis).exec (deadlineWorld millis)).2.impl.trace.any
    (Event.dispatches (deadlineAttempt millis)) = true

instance (millis : Int64) : Decidable (DeadlineCase millis) :=
  decidable_of_iff (_ ∧ _ ∧ _ ∧ _) ⟨fun ⟨h₁, h₂, h₃, h₄⟩ => ⟨h₁, h₂, h₃, h₄⟩,
    fun ⟨h₁, h₂, h₃, h₄⟩ => ⟨h₁, h₂, h₃, h₄⟩⟩

theorem DeadlineCase.handsOut {millis : Int64} (h : DeadlineCase millis) :
    HandsOut presentEnv (deadlineWorld millis) 0 present (deadlineAttempt millis) := by
  have hsome := h.some
  unfold deadlineDispatch at hsome
  exact handsOut_first h.none hsome

theorem deadlineCase_minute : DeadlineCase 60000 := by decide +kernel

/-- A minute. -/
theorem getsDeadline_iff_minute :
    (deadlineAttempt 60000).GetsDeadline
        ((deadlineDocument 60000).askedNanos attemptDeadlineKey (.fromSeconds 120))
      ↔ present.nanos.toInt
        + (deadlineDocument 60000).askedNanos attemptDeadlineKey (.fromSeconds 120) < 2 ^ 63 :=
  @getsDeadline_iff _ presentEnv (deadlineWorld 60000) 0 present (deadlineAttempt 60000)
    (deadlineDocument 60000) [] presentEnv.limits deadlineCase_minute.read deadlineCase_minute.valid
    (by decide) deadlineCase_minute.handsOut

/-- The longest deadline a document may set is over as soon as the attempt is dispatched: the tick
after it, at the same time, gives the target up. -/
theorem longest_deadline_is_over :
    DeadlineCase 9223372036854
      ∧ HandsOut presentEnv (deadlineWorld 9223372036854) 0 present
        (deadlineAttempt 9223372036854)
      ∧ ¬ (deadlineAttempt 9223372036854).GetsDeadline
        ((deadlineDocument 9223372036854).askedNanos attemptDeadlineKey (.fromSeconds 120))
      ∧ ((((deadlineOrchestrator 9223372036854).after presentEnv [.tick, .tick]).heldAt
        0).rollout.targetAt 0 0).state = .exhausted := by
  have hall : DeadlineCase 9223372036854
      ∧ (deadlineAttempt 9223372036854).deadline.nanos.toInt
        ≠ (deadlineAttempt 9223372036854).dispatchedAt.nanos.toInt
        + (deadlineDocument 9223372036854).askedNanos attemptDeadlineKey (.fromSeconds 120)
      ∧ ((((deadlineOrchestrator 9223372036854).after presentEnv [.tick, .tick]).heldAt
        0).rollout.targetAt 0 0).state = .exhausted := by decide +kernel
  obtain ⟨hcase, hexact, hstate⟩ := hall
  exact ⟨hcase, hcase.handsOut, fun h => hexact h.exact, hstate⟩

end RolloutFabric
