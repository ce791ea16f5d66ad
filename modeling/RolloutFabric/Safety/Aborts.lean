/-
An abort that is not refused ends in a rollback or in failure, and no rollout stays behind in
aborting, in every run in which the executor cancels what it is asked to and no restart finds an
abort half done. An executor that cannot be reached leaves the rollout where nothing moves it.
-/
import RolloutFabric.Safety.Paused

namespace RolloutFabric

variable {ρ : Type} {env : Env ρ} {o : Orchestrator ρ} {k : Nat} {id : RolloutId}
  {context : CommandContext} {reason : Bytes}

/-! ## Who leads to aborting -/

/-- The transition that an abort begins with. -/
def Act.aborts : Act → Bool
  | enter .aborting => true
  | _ => false

theorem Act.aborting_run {a : Act} {v : View} (ha : a.aborts = false)
    (h : v.rollout.state ≠ .aborting) : (a.run v).rollout.state ≠ .aborting := by
  cases a with
  | enter next =>
    rintro (rfl : next = .aborting)
    cases ha
  | gate j id kind =>
    dsimp only [run]
    split <;> exact h
  | revalidate => exact fun hr => by cases hr
  | _ => exact h

theorem Follows.aborting {allowed : Act → Bool} {r r' : RolloutCore}
    (h : Follows env allowed r r') (hl : ∀ a, allowed a = true → a.aborts = false)
    (hr : r.state ≠ .aborting) : r'.state ≠ .aborting := by
  induction h with
  | refl => exact hr
  | tail _ hstep ih =>
    obtain ⟨v, a, ha, -, rfl, rfl⟩ := hstep
    exact Act.aborting_run (hl a ha) ih

/-- No input but an abort leads to aborting, and no creation. -/
theorem Input.acts_aborts {i : Input} (hi : ∀ id context reason, i ≠ .abort id context reason)
    (a : Act) (ha : (i.acts a || a.isBuild) = true) : a.aborts = false := by
  cases a with
  | enter next =>
    cases next with
    | aborting =>
      cases i with
      | abort id context reason => exact absurd rfl (hi id context reason)
      | _ => cases ha
    | _ => rfl
  | _ => rfl

theorem Act.restoring_aborts {a : Act} (ha : a.isRestoring = true) : a.aborts = false := by
  cases a <;> first | rfl | cases ha

/-! ## One abort -/

/-- The states an abort is refused in from the start. -/
def RolloutState.refusesAbort (s : RolloutState) : Bool :=
  s.isTerminal || s == .aborting || s == .rollingBack

/-- The abort will go through, once it is let through: its rollout was armed, and the executor
cancels, or knows nothing of, whatever is in flight on the stages that are worked on. -/
structure Orchestrator.Abortable (env : Env ρ) (o : Orchestrator ρ) (k : Nat) : Prop where
  armed : (o.heldAt k).rollout.state ≠ .created ∧ (o.heldAt k).rollout.state ≠ .validated
  cancels : (o.heldAt k).rollout.state.refusesAbort = false →
    ∀ j, ((o.heldAt k).rollout.stageAt j).state.cancellable = true → Cancels env (o.world k {}).core j

/-- The journal took every record it was given. -/
structure Orchestrator.Recorded (o : Orchestrator ρ) : Prop where
  storage : o.impl.storageFailed = false
  appended : ∀ entry epoch landed, .appended entry epoch false landed ∉ o.impl.trace

theorem Orchestrator.Recorded.no_fault {w : World ρ} (h : (o.put k w).Recorded) :
    ¬ WriteFault w.view := by
  rintro (hfailed | ⟨entry, epoch, landed, hmem⟩)
  · exact absurd (hfailed.symm.trans h.storage) (by simp)
  · exact h.appended entry epoch landed hmem

/-- A refused abort leaves the rollouts alone; one that was not refused is over. -/
def Orchestrator.AbortOver (o : Orchestrator ρ) (id : RolloutId) :
    Result Bytes × Orchestrator ρ → Prop
  | (.error _, o') => o'.held = o.held
  | (.ok _, o') => ∃ k, o.index id = some k ∧ ((o'.heldAt k).rollout.state = .rollingBack
      ∨ (o'.heldAt k).rollout.state = .failed)

/-- An abort that its rollout refuses from the start changes nothing. -/
theorem abortRollout_refused {w : World ρ} (h : w.rollout.state.refusesAbort = true) :
    ∃ s, (abortRollout env context reason).exec w = (.error s, w) := by
  unfold abortRollout
  rw [Program.exec_bind, Op.exec_read]
  have hover : w.rollout.state.isTerminal = true ∨ w.rollout.state = .aborting
      ∨ w.rollout.state = .rollingBack := by
    simpa [RolloutState.refusesAbort, or_assoc] using h
  simp only [hover, if_true]
  exact ⟨_, rfl⟩

/-- An abort that goes through is over when it returns. -/
theorem abortRollout_over (h : o.Abortable env k)
    (hlive : (o.heldAt k).rollout.state.refusesAbort = false)
    (hrecorded : (o.put k ((abortRollout env context reason).exec (o.world k {})).2).Recorded) :
    ∃ detail w, (abortRollout env context reason).exec (o.world k {}) = (.ok detail, w)
      ∧ (w.rollout.state = .rollingBack ∨ w.rollout.state = .failed) := by
  have hstate : (o.world k {}).core.rollout.state = (o.heldAt k).rollout.state := rfl
  have hlegal : (o.world k {}).core.rollout.state.legalTransition .aborting = true := by
    have harmed := h.armed
    rw [hstate]
    revert harmed hlive
    cases (o.heldAt k).rollout.state <;>
      simp [RolloutState.refusesAbort, RolloutState.isTerminal, RolloutState.legalTransition]
  have hcancels (j : Nat) (hj : ((o.world k {}).core.rollout.stageAt j).state.cancellable = true) :
      Cancels env (o.world k {}).core j := by
    refine h.cancels hlive j ?_
    rw [← World.stageState_core (w := o.world k {}) rfl] at hj
    exact hj
  have hperforms : Performs env Act.isAbort WriteFault (o.world k {}).core
      (abortRollout env context reason) _ :=
    abortRollout_performs (.inl hlegal) (.inl hcancels)
  obtain ⟨-, hok, hfault⟩ := hperforms (o.world k {}) rfl
  have hno := hrecorded.no_fault
  generalize (abortRollout env context reason).exec (o.world k {}) = result at hok hfault hno ⊢
  obtain ⟨answer, w⟩ := result
  cases answer with
  | error s => exact absurd (hfault s rfl) hno
  | ok detail => exact ⟨detail, w, rfl, hok detail rfl⟩

/-- What an abort leaves behind: it is over, and the other rollouts are as they were. -/
theorem abort_over (h : ∀ k, o.Passes id context k → o.Abortable env k)
    (hrecorded : (abort env o id context reason).2.Recorded) :
    o.AbortOver id (abort env o id context reason)
      ∧ ∀ held ∈ (abort env o id context reason).2.held, held ∈ o.held
        ∨ held.rollout.state = .rollingBack ∨ held.rollout.state = .failed := by
  revert hrecorded
  unfold abort Orchestrator.command
  dsimp only
  split
  · exact fun _ => ⟨rfl, fun _ hh => .inl hh⟩
  next hauthority =>
  cases hindex : o.index id with
  | none => exact fun _ => ⟨rfl, fun _ hh => .inl hh⟩
  | some k =>
  dsimp only
  split
  · exact fun _ => ⟨rfl, fun _ hh => .inl hh⟩
  next hfences =>
  have hk := index_lt hindex
  have habortable := h k ⟨hindex, by simpa using hauthority, by simpa using hfences⟩
  rintro hrecorded
  cases hlive : (o.heldAt k).rollout.state.refusesAbort with
  | true =>
    obtain ⟨s, hexec⟩ : ∃ s, (abortRollout env context reason).exec (o.world k {})
        = (.error s, o.world k {}) := abortRollout_refused hlive
    rw [hexec]
    have hsame : (o.put k (o.world k {})).held = o.held := by rw [Orchestrator.put_world]
    exact ⟨hsame, fun held hh => .inl (hsame ▸ hh)⟩
  | false =>
    obtain ⟨detail, w, hexec, hover⟩ := abortRollout_over habortable hlive hrecorded
    rw [hexec]
    refine ⟨⟨k, hindex, ?_⟩, fun held hh => ?_⟩
    · rw [Orchestrator.heldAt_put_self hk]
      exact hover
    · obtain ⟨n, hn⟩ := List.mem_iff_getElem?.1 hh
      change (o.held.modify k fun h => { h with rollout := w.rollout })[n]? = some held at hn
      rw [List.getElem?_modify, Option.map_eq_map, Option.map_eq_some_iff] at hn
      obtain ⟨old, hold, rfl⟩ := hn
      split
      · exact .inr hover
      · exact .inl (List.mem_of_getElem? hold)

/-! ## Every run -/

/-- An abort goes through and is recorded, and a restart finds none half done. -/
def Step.AbortsThrough (env : Env ρ) (n : Node ρ) : Step ρ → Prop
  | .input (.abort id context reason) => ∀ o, n = .running o →
      (∀ k, o.Passes id context k → o.Abortable env k) ∧ (abort env o id context reason).2.Recorded
  | .restart _ => ∀ trace outside, n = .stopped trace outside →
      ∀ rollout, ReadsBack env trace rollout → rollout.state ≠ .aborting
  | _ => True

theorem Step.aborts_through (hgoes : ∀ k, o.Passes id context k → o.Abortable env k)
    (hrecorded : (abort env o id context reason).2.Recorded) :
    Step.AbortsThrough env (.running o) (.input (.abort id context reason)) := by
  rintro o' ho
  cases ho
  exact ⟨hgoes, hrecorded⟩

/-- No rollout is left behind in aborting. -/
def Node.NoneAborting (n : Node ρ) : Prop := ∀ h ∈ n.held, h.rollout.state ≠ .aborting

theorem Orchestrator.mem_held {h : Held} :
    h ∈ o.held ↔ ∃ n, n < o.held.length ∧ o.heldAt n = h := by
  rw [List.mem_iff_getElem]
  constructor
  · rintro ⟨n, hn, rfl⟩
    exact ⟨n, hn, by simp [heldAt, hn]⟩
  · rintro ⟨n, hn, rfl⟩
    exact ⟨n, hn, by simp [heldAt, hn]⟩

/-- Whatever is not an abort leads no rollout to aborting. -/
theorem step_aborting (hs : o.sys.Holds (View.Sound env)) {i : Input}
    (hi : ∀ id context reason, i ≠ .abort id context reason)
    (hnone : (Node.running o).NoneAborting) : (Node.running (o.step env i)).NoneAborting := by
  have hmoved : o.Moved env i.acts (o.step env i) := step_moved hs i
  have hpast (a : Act) (ha : i.acts a = true) : a.aborts = false :=
    Input.acts_aborts hi a (by rw [ha, Bool.true_or])
  rintro held hheld
  obtain ⟨n, hlt, rfl⟩ := Orchestrator.mem_held.1 hheld
  by_cases hn : n < o.held.length
  · exact (hmoved.follows n hn).aborting hpast (hnone _ (Orchestrator.mem_held.2 ⟨n, hn, rfl⟩))
  · obtain ⟨r, hblank, hruns⟩ := hmoved.added n (Nat.le_of_not_lt hn) hlt
    refine hruns.aborting (Input.acts_aborts hi) ?_
    rw [hblank.state]
    exact fun h => by cases h

theorem nodeStep_aborting {n : Node ρ} {step : Step ρ} (hs : n.sys.Holds (View.Sound env))
    (h : step.AbortsThrough env n) (hnone : n.NoneAborting) : (n.step env step).NoneAborting := by
  cases n with
  | running o =>
    cases step with
    | crash during boundary outside => exact fun held hh => absurd hh List.not_mem_nil
    | restart entropy => exact hnone
    | input i =>
      by_cases hi : ∀ id context reason, i ≠ .abort id context reason
      · exact step_aborting hs hi hnone
      · push Not at hi
        obtain ⟨id, context, reason, rfl⟩ := hi
        obtain ⟨hgoes, hrecorded⟩ := h o rfl
        rintro held hh
        rcases (abort_over hgoes hrecorded).2 held hh with hold | hback | hfailed
        · exact hnone held hold
        · rw [hback]
          exact fun heq => by cases heq
        · rw [hfailed]
          exact fun heq => by cases heq
  | stopped trace outside =>
    cases step with
    | input i => exact hnone
    | crash during boundary outside' => exact hnone
    | restart entropy =>
      rintro held hh
      obtain ⟨rollout, hread, hruns⟩ := openController_held hh
      exact hruns.aborting (fun a => Act.restoring_aborts) (h trace outside rfl rollout hread)

/-- Every abort of the run is refused, and leaves the rollouts alone, or is over when it returns. -/
def AbortsOver (env : Env ρ) (n : Node ρ) (steps : List (Step ρ)) : Prop :=
  ∀ before id context reason after, steps = before ++ .input (.abort id context reason) :: after →
    ∀ o, n.run env before = .running o → o.AbortOver id (abort env o id context reason)

/-- As long as the executor cancels what an abort asks it to, every record of the abort is
written and no restart finds one half done, an abort never sticks. -/
theorem abort_never_sticks {n : Node ρ} (hn : n.Initial) (steps : List (Step ρ))
    (h : ∀ before step after, steps = before ++ step :: after →
      step.AbortsThrough env (n.run env before)) :
    (n.run env steps).NoneAborting ∧ AbortsOver env n steps := by
  refine ⟨?_, fun before id context reason after heq o ho => ?_⟩
  · induction steps using List.reverseRecOn with
    | nil =>
      rintro held hh
      have hmem : held.rollout.core ∈ n.sys.rollouts := Node.mem_held hh
      rw [hn.sys_eq] at hmem
      cases hmem
    | append_singleton steps step ih =>
      rw [Node.run_append]
      refine nodeStep_aborting (sound_of_run hn steps) (h steps step [] rfl) (ih ?_)
      exact fun before s after heq => h before s (after ++ [step]) (by rw [heq]; simp)
  · obtain ⟨hgoes, hrecorded⟩ := h before _ after heq o ho
    exact (abort_over hgoes hrecorded).1

/-! ## An abort that goes through -/

theorem loneAborted_recorded :
    (loneOrchestrator.after volatileEnv firstRun).index twinRollout = some 0
      ∧ ((loneOrchestrator.after volatileEnv firstRun).heldAt 0).rollout.state = .running
      ∧ (abort volatileEnv (loneOrchestrator.after volatileEnv firstRun) twinRollout {}
        []).2.impl.storageFailed = false
      ∧ ∀ e ∈ (abort volatileEnv (loneOrchestrator.after volatileEnv firstRun) twinRollout {}
        []).2.impl.trace, e.isJournal = false := by
  decide +kernel

theorem loneAborted_over :
    ((Node.running loneOrchestrator).run volatileEnv
      ((firstRun ++ [Input.abort twinRollout {} []]).map .input)).NoneAborting := by
  refine (abort_never_sticks (.running _ rfl rfl rfl rfl) _ fun before step after heq => ?_).1
  obtain ⟨hindex, hstate, hstorage, hnone⟩ := loneAborted_recorded
  rw [List.map_append, List.map_singleton] at heq
  rcases List.eq_nil_or_concat after with rfl | ⟨after', last, rfl⟩
  · obtain ⟨rfl, hlast⟩ := List.append_inj' heq rfl
    obtain ⟨rfl, -⟩ := List.cons.inj hlast
    rw [Node.run_inputs]
    refine Step.aborts_through (fun k hpasses => ?_) ⟨hstorage, fun entry epoch landed hmem => ?_⟩
    · obtain rfl : 0 = k := Option.some.inj (hindex.symm.trans hpasses.index)
      refine ⟨by rw [hstate]; exact ⟨fun h => (by cases h), fun h => by cases h⟩, fun _ j _ => ?_⟩
      rintro execution hexecution i attempt - - - s
      cases hexecution
      rfl
    · cases hnone _ hmem
  · have hsplit : firstRun.map Step.input ++ [.input (.abort twinRollout {} [])]
        = (before ++ step :: after') ++ [last] := by
      rw [heq, List.concat_eq_append, List.append_assoc, List.cons_append]
    have hmem : step ∈ firstRun.map Step.input := by
      rw [(List.append_inj' hsplit rfl).1]
      exact List.mem_append_right _ (List.mem_cons_self ..)
    obtain ⟨i, hi, rfl⟩ := List.mem_map.1 hmem
    simp only [firstRun, startRerun, List.mem_cons, List.not_mem_nil, or_false] at hi
    rcases hi with rfl | rfl | rfl | rfl | rfl <;> trivial

/-! ## An executor that cannot be reached -/

/-- The worker that owns an attempt is not attached. -/
def deafEnv : Env Unit :=
  { volatileEnv with
    execution := some { promptAdapter with cancel := fun _ s => (makeStatus .unavailable [], s) } }

/-- Ticks leave a rollout in aborting. -/
theorem aborting_ticks {n : Node ρ} (hn : n.Initial) {steps : List (Step ρ)}
    (ho : n.run env steps = .running o) (h : (o.heldAt k).rollout.state = .aborting) (ticks : Nat) :
    ((o.after env (List.replicate ticks .tick)).heldAt k).rollout.state = .aborting := by
  induction ticks generalizing o steps with
  | zero => exact h
  | succ ticks ih =>
    have hs : (n.run env steps).sys.Holds (View.Sound env) := sound_of_run hn steps
    rw [ho] at hs
    have hstill := (Orchestrator.tick_stillAt hs (.inr h)).1
    refine @ih _ (steps ++ [.input .tick]) ?_ ((congrArg RolloutCore.state hstill :).trans h)
    rw [Node.run_append, ho]
    rfl

/-- The abort is refused for the executor's answer, and the rollout stays in aborting. -/
theorem loneAborting_sticks :
    ((loneOrchestrator.after deafEnv firstRun).heldAt 0).rollout.state = .running
      ∧ (abort deafEnv (loneOrchestrator.after deafEnv firstRun) twinRollout {} []).1.isOk = false
      ∧ ∀ ticks, ((((loneOrchestrator.after deafEnv (firstRun ++ [.abort twinRollout {} []])).after
        deafEnv (List.replicate ticks .tick)).heldAt 0).rollout.state = .aborting) := by
  have hconcrete : ((loneOrchestrator.after deafEnv firstRun).heldAt 0).rollout.state = .running
      ∧ (abort deafEnv (loneOrchestrator.after deafEnv firstRun) twinRollout {} []).1.isOk = false
      ∧ ((loneOrchestrator.after deafEnv (firstRun ++ [.abort twinRollout {} []])).heldAt
        0).rollout.state = .aborting := by decide +kernel
  obtain ⟨hstate, hrefused, haborting⟩ := hconcrete
  exact ⟨hstate, hrefused, aborting_ticks (.running _ rfl rfl rfl rfl)
    (Node.run_inputs loneOrchestrator _) haborting⟩

end RolloutFabric
