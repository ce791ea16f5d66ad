/-
A paused rollout: ticks, evidence, reconciliations and the commands on it leave its state, its
cursor, its stages and its attempts alone, as long as no operator approves a gate of it.
-/
import RolloutFabric.Orchestrator.Turns
import RolloutFabric.Safety.Concurrency

namespace RolloutFabric

variable {ρ : Type} {env : Env ρ}

/-! ## What stands still -/

/-- A target, but for what evidence reports about the attempt it was last given. -/
def TargetCore.still (t : TargetCore) : TargetCore :=
  { t with state := .pending, currentAttempt := .nil, rollbackStep := 0, health := {} }

/-- A rollout, but for what evidence reports about the attempts of its targets. -/
def RolloutCore.still (r : RolloutCore) : RolloutCore :=
  { r with stages := r.stages.map fun s => { s with targets := s.targets.map TargetCore.still } }

theorem RolloutCore.still_modifyTarget {r : RolloutCore} {j i : Nat} {f : TargetCore → TargetCore}
    (h : (f (r.targetAt j i)).still = (r.targetAt j i).still) :
    (r.modifyTarget j i f).still = r.still := by
  have hstage (s : StageCore) (hs : (f (s.targetAt i)).still = (s.targetAt i).still) :
      (s.targets.modify i f).map TargetCore.still = s.targets.map TargetCore.still := by
    apply List.ext_getElem?
    intro n
    rw [List.getElem?_map, List.getElem?_modify, List.getElem?_map]
    by_cases hn : i = n
    · subst hn
      cases hi : s.targets[i]? with
      | none => rfl
      | some t' =>
        rw [StageCore.targetAt, List.getD_eq_getElem?_getD, hi] at hs
        simpa using hs
    · simp [hn]
  simp only [still, modifyTarget, modifyStage, RolloutCore.mk.injEq, true_and]
  apply List.ext_getElem?
  intro n
  rw [List.getElem?_map, List.getElem?_modify, List.getElem?_map]
  by_cases hn : j = n
  · subst hn
    cases hj : r.stages[j]? with
    | none => rfl
    | some s =>
      have hs : r.stageAt j = s := by simp [stageAt, hj]
      rw [targetAt, hs] at h
      simp [hstage s h]
  · simp [hn]

theorem Assigns.still {c : Core} {j i : Nat} {t : TargetCore} {record : Option EvidenceRecord}
    (h : Assigns c j i t record) : t.still = (c.rollout.targetAt j i).still := by
  cases h <;> rfl

theorem Alters.still {c : Core} {j i : Nat} {t : TargetCore} (h : Alters c j i t) :
    t.still = (c.rollout.targetAt j i).still := by
  cases h <;> rfl

/-- What settles targets leaves the rest of the rollout alone. -/
theorem Act.still_settling {a : Act} {c : Core} (ha : a.isSettling = true) (hg : a.Guard env c) :
    (a.after c).rollout.still = c.rollout.still := by
  cases a with
  | assign j i t record => exact RolloutCore.still_modifyTarget (Assigns.still hg)
  | alter j i t => exact RolloutCore.still_modifyTarget (Alters.still hg)
  | observe record now j i => exact RolloutCore.still_modifyTarget rfl
  | append | latch | apply | report | lose => rfl
  | _ => cases ha

namespace Orchestrator

variable {o o' : Orchestrator ρ} {k n : Nat}

/-- The rollout at an index, as far as it stands still. -/
def stillAt (o : Orchestrator ρ) (k : Nat) : RolloutCore := (o.heldAt k).rollout.core.still

theorem stillAt_settled (h : Follows env Act.isSettling (o.coreAt n) (o'.coreAt n)) :
    o'.stillAt n = o.stillAt n := by
  refine h.same fun v a ha hg => ?_
  cases hw : a.isWrite with
  | true => exact congrArg (fun c => c.rollout.still) (Act.core_run_write hw v)
  | false =>
    have hrun := congrArg (fun c => c.rollout.still) (Act.core_run hw v)
    exact hrun.trans (Act.still_settling ha hg)

/-! ## Evidence and ticks -/

variable {report : TickReport} {now : Timestamp}

theorem advance_idle {w : World ρ} (h : w.rollout.state = .paused ∨ w.rollout.state = .aborting) :
    (advance env now).exec w = (.ok (), w) := by
  unfold advance
  rw [Program.exec_bind, Op.exec_read]
  rcases h with h | h
  all_goals
    simp only [h]
    rfl

theorem put_world : o.put k (o.world k report) = o := by
  have hheld : (o.held.modify k fun h => { h with rollout := (o.heldAt k).rollout }) = o.held := by
    apply List.ext_getElem?
    intro n
    rw [List.getElem?_modify]
    by_cases hn : k = n
    · subst hn
      cases hk : o.held[k]? with
      | none => simp
      | some h => simp [Orchestrator.heldAt, hk]
    · simp [hn]
  simp only [put, setRollout, world, hheld]

/-- A tick leaves a rollout that is paused, or is aborting, alone but for the evidence it drains. -/
theorem tick_stillAt (hs : o.sys.Holds (View.Sound env))
    (hp : (o.heldAt n).rollout.state = .paused ∨ (o.heldAt n).rollout.state = .aborting) :
    (tick env o).2.stillAt n = o.stillAt n ∧ (tick env o).2.held.length = o.held.length := by
  refine ⟨?_, tick_length hs⟩
  by_cases hrunning : o.impl.shuttingDown = true ∨ o.impl.storageFailed = true
  · rw [tick_stopped hrunning]
  obtain ⟨hup, hopen⟩ : o.impl.shuttingDown = false ∧ o.impl.storageFailed = false := by
    simpa using hrunning
  have hn : n < o.held.length := by
    by_contra hn
    rw [heldAt, List.getD_eq_getElem?_getD, List.getElem?_eq_none (Nat.le_of_not_lt hn)] at hp
    rcases hp with hp | hp <;> cases hp
  have hdrained : (o.drained env).stillAt n = o.stillAt n :=
    stillAt_settled ((draining_tracks hs hopen _).moved.follows n hn)
  have hturn := tick_turn hs hup hopen hn
  have hstate : (o.turn env n).rollout.state = (o.heldAt n).rollout.state := by
    rw [hturn.rollout]
    exact (congrArg RolloutCore.state hdrained :)
  rw [stillAt, hturn.after, advance_idle (hstate.symm ▸ hp), hturn.rollout]
  exact hdrained

/-! ## Commands -/

/-- A command gets past the authority check and its fences, to the rollout at `n`. -/
structure Passes (o : Orchestrator ρ) (id : RolloutId) (context : CommandContext) (n : Nat) :
    Prop where
  index : o.index id = some n
  authority : (checkAuthority o.impl context).isOk = true
  fences : (checkFences (o.heldAt n).rollout context).isOk = true

/-- A command left the rollout at `n` as it was, and answered with an error if it names it. -/
structure Refused (o : Orchestrator ρ) (id : RolloutId) (n : Nat)
    (answer : Result Bytes × Orchestrator ρ) : Prop where
  same : answer.2.heldAt n = o.heldAt n
  length : answer.2.held.length = o.held.length
  error : o.index id = some n → ∃ s, answer.1 = .error s

theorem command_refused {id : RolloutId} {context : CommandContext} {body : ChangePlan → Op ρ Bytes}
    (h : o.Passes id context n →
      ∃ s, (body (o.heldAt n).plan).exec (o.world n {}) = (.error s, o.world n {})) :
    o.Refused id n (o.command id context body) := by
  unfold command
  dsimp only
  split
  · exact ⟨rfl, rfl, fun _ => ⟨_, rfl⟩⟩
  next hauthority =>
  cases hk : o.index id with
  | none => exact ⟨rfl, rfl, fun hn => by rw [hk] at hn; cases hn⟩
  | some k =>
    dsimp only
    split
    · exact ⟨rfl, rfl, fun _ => ⟨_, rfl⟩⟩
    next hfences =>
    by_cases hn : k = n
    · subst hn
      obtain ⟨s, hs⟩ := h ⟨hk, by simpa using hauthority, by simpa using hfences⟩
      rw [hs, put_world]
      exact ⟨rfl, rfl, fun _ => ⟨s, rfl⟩⟩
    · refine ⟨heldAt_put hn, List.length_modify .., fun hn' => ?_⟩
      rw [hk] at hn'
      exact absurd (Option.some.inj hn') hn

theorem requireState_refuses {allowed : RolloutState → Bool} {message : Bytes} {β : Type}
    {k : Unit → Op ρ β} {w : World ρ} (h : allowed w.rollout.state = false) :
    ∃ s, (requireState allowed message >>= k).exec w = (.error s, w) := by
  unfold requireState
  simp only [Program.exec_bind, Op.exec_read, h]
  exact ⟨_, rfl⟩

theorem requireState_allows {allowed : RolloutState → Bool} {message : Bytes} {β : Type}
    {k : Unit → Op ρ β} {w : World ρ} (h : allowed w.rollout.state = true) :
    (requireState allowed message >>= k).exec w = (k ()).exec w := by
  unfold requireState
  simp only [Program.exec_bind, Op.exec_read, h]
  rfl

end Orchestrator

/-- The rollout an input is a command on. -/
def Input.names : Input → Option RolloutId
  | .arm id _ | .start id _ | .pause id _ _ | .resume id _ | .abort id _ _ | .approveGate id _ _
  | .retire id _ | .regenerate id _ => some id
  | _ => none

/-- What a command answers. -/
def Orchestrator.answer (env : Env ρ) (o : Orchestrator ρ) : Input → Option (Result Bytes)
  | .arm id context => some (arm env o id context).1
  | .start id context => some (start env o id context).1
  | .pause id context reason => some (pause env o id context reason).1
  | .resume id context => some (resume env o id context).1
  | .abort id context reason => some (abort env o id context reason).1
  | .approveGate id gate context => some (approveGate env o id gate context).1
  | .retire id context => some (retire env o id context).1
  | .regenerate id context => some (regenerate env o id context).1
  | _ => none

/-- Nothing that passes the fences approves a pending gate of the rollout at `k`, resumes it or
aborts it. -/
def Orchestrator.Quiet (o : Orchestrator ρ) (k : Nat) : Input → Prop
  | .approveGate id gate context => o.Passes id context k →
      ∀ stage ∈ (o.heldAt k).rollout.stages, stage.pendingGate = .nil ∨ stage.pendingGate ≠ gate
  | .resume id context => o.Passes id context k →
      RolloutState.paused.legalTransition (o.heldAt k).rollout.resumeState = false
  | .abort id context _ => ¬ o.Passes id context k
  | _ => True

/-- A command on the rollout at `k` is refused, and leaves it as it is. -/
def Orchestrator.Refuses (env : Env ρ) (o : Orchestrator ρ) (k : Nat) (i : Input) : Prop :=
  ∀ id, i.names = some id → o.index id = some k →
    (∃ s, o.answer env i = some (.error s)) ∧ (o.step env i).heldAt k = o.heldAt k

namespace Orchestrator

variable {o : Orchestrator ρ} {k : Nat}

/-- One input that is quiet about a paused rollout. -/
theorem step_paused (hs : o.sys.Holds (View.Sound env)) (hk : k < o.held.length)
    (hp : (o.heldAt k).rollout.state = .paused) {i : Input} (hq : o.Quiet k i) :
    (o.step env i).stillAt k = o.stillAt k ∧ k < (o.step env i).held.length
      ∧ o.Refuses env k i := by
  have hstate : (o.world k {}).rollout.state = .paused := hp
  -- a command that names the rollout is refused, and leaves it as it is
  have hrefused {id : RolloutId} {answer : Result Bytes × Orchestrator ρ}
      (h : o.Refused id k answer) (hstep : o.step env i = answer.2)
      (hanswer : o.answer env i = some answer.1) (hnames : i.names = some id) :
      (o.step env i).stillAt k = o.stillAt k ∧ k < (o.step env i).held.length
        ∧ o.Refuses env k i := by
    rw [Refuses, hstep, hanswer, hnames]
    refine ⟨by rw [stillAt, h.same, stillAt], by rw [h.length]; exact hk, fun id' hid hindex => ?_⟩
    obtain rfl := Option.some.inj hid
    obtain ⟨s, herror⟩ := h.error hindex
    exact ⟨⟨s, by rw [herror]⟩, h.same⟩
  -- an input that names no rollout has nothing to refuse
  have hfree (h : (o.step env i).stillAt k = o.stillAt k)
      (hlength : k < (o.step env i).held.length) (hnames : i.names = none) :
      (o.step env i).stillAt k = o.stillAt k ∧ k < (o.step env i).held.length
        ∧ o.Refuses env k i :=
    ⟨h, hlength, fun id hid => by rw [hnames] at hid; cases hid⟩
  cases i with
  | create plan context =>
    have hmoved : Moved env Act.isSettling o (createRollout env o plan context).2 :=
      createRollout_moved plan context
    exact hfree (stillAt_settled (hmoved.follows k hk)) (Nat.lt_of_lt_of_le hk hmoved.length) rfl
  | arm id context =>
    refine hrefused (command_refused fun _ => ?_) rfl rfl rfl
    exact requireState_refuses (by rw [hstate]; rfl)
  | start id context =>
    refine hrefused (command_refused fun _ => ?_) rfl rfl rfl
    exact requireState_refuses (by rw [hstate]; rfl)
  | pause id context reason =>
    refine hrefused (command_refused fun _ => ?_) rfl rfl rfl
    unfold pauseRollout
    simp only [Program.exec_bind, Op.exec_read, hstate]
    exact ⟨_, rfl⟩
  -- the state to resume to is not one that a paused rollout may enter
  | resume id context =>
    refine hrefused (command_refused fun hpasses => ?_) rfl rfl rfl
    have hillegal : RolloutState.paused.legalTransition (o.world k {}).rollout.resumeState = false :=
      hq hpasses
    unfold resumeRollout
    rw [requireState_allows (by rw [hstate]; rfl)]
    simp only [Program.exec_bind, Op.exec_read, hillegal]
    exact ⟨_, rfl⟩
  | abort id context reason =>
    exact hrefused (command_refused fun hpasses => absurd hpasses hq) rfl rfl rfl
  -- no stage has that gate pending
  | approveGate id gate context =>
    refine hrefused (command_refused fun hpasses => ?_) rfl rfl rfl
    have hnone : ((o.world k {}).rollout.stages.findIdx? fun stage =>
        !stage.pendingGate.isNil && stage.pendingGate == gate) = none := by
      refine List.findIdx?_eq_none_iff.2 fun stage hstage => ?_
      rcases hq hpasses stage hstage with hnil | hother
      · simp [hnil]
      · simp [hother]
    unfold approvePending
    simp only [Program.exec_bind, Op.exec_read, hnone]
    exact ⟨_, rfl⟩
  | retire id context =>
    refine hrefused (command_refused fun _ => ?_) rfl rfl rfl
    exact requireState_refuses (by rw [hstate]; rfl)
  | regenerate id context =>
    refine hrefused (command_refused fun _ => ?_) rfl rfl rfl
    exact requireState_refuses (by rw [hstate]; rfl)
  | reconcile id =>
    have hmoved : Moved env Act.isSettling o (reconcileOutstanding env o id).2 :=
      reconcile_moved hs id
    exact hfree (stillAt_settled (hmoved.follows k hk)) (Nat.lt_of_lt_of_le hk hmoved.length) rfl
  -- a tick settles what others wait for, and passes the paused rollout by
  | tick =>
    obtain ⟨hstill, hlength⟩ := tick_stillAt hs (.inl hp)
    exact hfree hstill (by rw [step, hlength]; exact hk) rfl
  | setInventory inventory => exact hfree rfl hk rfl
  | onEvidence record => exact hfree rfl hk rfl
  | onAdapterEvent event => exact hfree rfl hk rfl
  | noteShutdown => exact hfree rfl hk rfl

end Orchestrator

/-! ## Runs -/

namespace Node

/-- The rollout at an index. -/
def rolloutAt (n : Node ρ) (k : Nat) : Rollout := (n.held.getD k default).rollout

def Quiet (n : Node ρ) (k : Nat) (i : Input) : Prop := ∀ o, n = .running o → o.Quiet k i

def Refuses (env : Env ρ) (n : Node ρ) (k : Nat) (i : Input) : Prop :=
  ∀ o, n = .running o → o.Refuses env k i

end Node

/-- The rollout is still paused: its cursor, its stages and the attempts of its targets are the
same. -/
structure StaysPaused (r r' : Rollout) : Prop where
  state : r'.state = .paused
  id : r'.id = r.id
  generation : r'.generation = r.generation
  cursor : r'.cursor = r.cursor
  stages : r'.stages.map StageRuntime.state = r.stages.map StageRuntime.state
  /-- A dispatch writes both. -/
  attempts : (r'.stages.map fun s => s.targets.map fun t => (t.lastAttempt, t.epoch))
    = r.stages.map fun s => s.targets.map fun t => (t.lastAttempt, t.epoch)

theorem staysPaused_of_still {r r' : Rollout} (hp : r.state = .paused)
    (h : r'.core.still = r.core.still) : StaysPaused r r' where
  state := (congrArg RolloutCore.state h :).trans hp
  id := (congrArg RolloutCore.id h :)
  generation := (congrArg RolloutCore.generation h :)
  cursor := (congrArg RolloutCore.cursor h :)
  stages := by
    have hstages := congrArg (fun r => r.stages.map StageCore.state) h
    simpa [RolloutCore.still, Rollout.core, StageRuntime.core, Function.comp_def] using hstages
  attempts := by
    have hstages := congrArg
      (fun r => r.stages.map fun s => s.targets.map fun t => (t.lastAttempt, t.epoch)) h
    simpa [RolloutCore.still, Rollout.core, StageRuntime.core, TargetCore.still,
      TargetRuntime.core, Function.comp_def] using hstages

/-- A rollout that is paused stays so, and refuses every other command, through every sequence of
inputs that never approves a pending gate of it. -/
theorem paused_stays {n : Node ρ} (hn : n.Initial) (steps : List (Step ρ)) {k : Nat}
    (hk : k < (n.run env steps).held.length)
    (hp : ((n.run env steps).rolloutAt k).state = .paused) (inputs : List Input)
    (hquiet : ∀ before i after, inputs = before ++ i :: after →
      (n.run env (steps ++ before.map .input)).Quiet k i) :
    StaysPaused ((n.run env steps).rolloutAt k)
        ((n.run env (steps ++ inputs.map .input)).rolloutAt k)
      ∧ ∀ before i after, inputs = before ++ i :: after →
        (n.run env (steps ++ before.map .input)).Refuses env k i := by
  suffices hall : ((n.run env (steps ++ inputs.map .input)).rolloutAt k).core.still
        = ((n.run env steps).rolloutAt k).core.still
      ∧ k < (n.run env (steps ++ inputs.map .input)).held.length
      ∧ ∀ before i after, inputs = before ++ i :: after →
        (n.run env (steps ++ before.map .input)).Refuses env k i from
    ⟨staysPaused_of_still hp hall.1, hall.2.2⟩
  induction inputs using List.reverseRecOn with
  | nil =>
    rw [List.map_nil, List.append_nil]
    exact ⟨rfl, hk, fun before i after h => by simp at h⟩
  | append_singleton inputs i ih =>
    obtain ⟨hstill, hlength, hrefuses⟩ := ih fun before i' after h =>
      hquiet before i' (after ++ [i]) (by rw [h]; simp)
    have hi := hquiet inputs i [] rfl
    have hsound : (n.run env (steps ++ inputs.map .input)).sys.Holds (View.Sound env) :=
      sound_of_run hn _
    rw [List.map_append, List.map_singleton, ← List.append_assoc, Node.run_append]
    generalize hreached : n.run env (steps ++ inputs.map .input) = reached
      at hstill hlength hi hsound ⊢
    cases reached with
    | stopped trace outside => cases hlength
    | running o =>
      have hstate : (o.heldAt k).rollout.state = .paused :=
        (congrArg RolloutCore.state hstill :).trans hp
      obtain ⟨hstep, hlength', hrefused⟩ := o.step_paused hsound hlength hstate (hi o rfl)
      refine ⟨hstep.trans hstill, hlength', fun before i' after h => ?_⟩
      rcases List.eq_nil_or_concat after with rfl | ⟨after', last, rfl⟩
      · obtain ⟨rfl, hlast⟩ := List.append_inj' h rfl
        obtain ⟨rfl, -⟩ := List.cons.inj hlast
        rw [hreached]
        intro o' ho
        cases ho
        exact hrefused
      · have hsplit : inputs ++ [i] = (before ++ i' :: after') ++ [last] := by
          rw [h, List.concat_eq_append, List.append_assoc, List.cons_append]
        exact hrefuses before i' after' (List.append_inj' hsplit rfl).1

/-! ## A gate approved behind a pause -/

def pauseTwin : List (Step Unit) := startTwin ++ [.input (.pause twinRollout {} [])]

theorem twinPaused_paused :
    0 < (twinNode.run volatileEnv pauseTwin).held.length
      ∧ ((twinNode.run volatileEnv pauseTwin).rolloutAt 0).state = .paused := by decide +kernel

theorem twinPaused_stays : StaysPaused ((twinNode.run volatileEnv pauseTwin).rolloutAt 0)
    ((twinNode.run volatileEnv (pauseTwin ++ [.input .tick, .input (.arm twinRollout {})])).rolloutAt
      0) := by
  refine (paused_stays twinNode_initial pauseTwin twinPaused_paused.1 twinPaused_paused.2
    [.tick, .arm twinRollout {}] ?_).1
  intro before i after h
  have hi : i ∈ ([.tick, .arm twinRollout {}] : List Input) :=
    h ▸ List.mem_append_right _ (List.mem_cons_self ..)
  rcases List.mem_pair.1 hi with rfl | rfl
  · exact fun _ _ => trivial
  · exact fun _ _ => trivial

/-- The entry gate was open when the rollout was paused; approving it starts the stage. -/
theorem twinPaused_approved :
    ((twinNode.run volatileEnv pauseTwin).rolloutAt 0).state = .paused
      ∧ ¬ StaysPaused ((twinNode.run volatileEnv pauseTwin).rolloutAt 0)
        ((twinNode.run volatileEnv (pauseTwin
          ++ [.input (.approveGate twinRollout twinGated.pendingGate {})])).rolloutAt 0) := by
  refine ⟨twinPaused_paused.2, fun h => ?_⟩
  have hrunning : ((twinNode.run volatileEnv (pauseTwin
      ++ [.input (.approveGate twinRollout twinGated.pendingGate {})])).rolloutAt 0).state
        = .running := by decide +kernel
  rw [h.state] at hrunning
  cases hrunning

end RolloutFabric
