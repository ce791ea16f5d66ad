/-
The rollouts of an orchestrator one by one: what an input does to a rollout is a run of acts on it,
and a tick gives every rollout one turn once the evidence was drained.
-/
import RolloutFabric.Orchestrator.Runs

namespace RolloutFabric

variable {ρ : Type} {env : Env ρ} {allowed : Act → Bool} {r r' r'' : RolloutCore}

/-! ## Runs of one rollout -/

/-- The rollout gets from one core to the other by allowed acts, in whatever surroundings. -/
def Follows (env : Env ρ) (allowed : Act → Bool) : RolloutCore → RolloutCore → Prop :=
  Relation.ReflTransGen fun r r' => ∃ v a, allowed a = true ∧ a.Guard env v.core
    ∧ v.rollout = r ∧ (a.run v).rollout = r'

theorem Follows.mono {more : Act → Bool} (h : Follows env allowed r r')
    (hl : ∀ a, allowed a = true → more a = true) : Follows env more r r' :=
  Relation.ReflTransGen.mono (fun _ _ ⟨v, a, ha, hg⟩ => ⟨v, a, hl a ha, hg⟩) _ _ h

/-- What no act changes is the same along a run. -/
theorem Follows.same {β : Type} {f : RolloutCore → β} (h : Follows env allowed r r')
    (hf : ∀ v (a : Act), allowed a = true → a.Guard env v.core →
      f (a.run v).rollout = f v.rollout) : f r' = f r := by
  induction h with
  | refl => rfl
  | tail _ hstep ih =>
    obtain ⟨v, a, ha, hg, rfl, rfl⟩ := hstep
    exact (hf v a ha hg).trans ih

theorem Performs.follows {α : Type} {e : View → Prop} {c : Core} {m : Op ρ α}
    {q : α → Core → Prop} (h : Performs env allowed e c m q) {w : World ρ} (hw : w.core = c) :
    Follows env allowed w.rollout.core (m.exec w).2.rollout.core := by
  have hrun := (h w hw).1
  change Follows env allowed w.view.rollout (m.exec w).2.view.rollout
  generalize w.view = v, (m.exec w).2.view = v' at hrun ⊢
  induction hrun with
  | refl => exact .refl
  | tail _ hstep ih =>
    obtain ⟨a, ha, hg, -, rfl⟩ := hstep
    exact ih.tail ⟨_, a, ha, hg, rfl, rfl⟩

/-! ## Places -/

/-- The places of a rollout: its generation, its stages and their targets. -/
def RolloutCore.places (r : RolloutCore) : RolloutId × GenerationId × List (StageId × List TargetId) :=
  (r.id, r.generation, r.stages.map fun s => (s.id, s.targets.map TargetCore.target))

theorem RolloutCore.places_modifyStage (r : RolloutCore) (j : Nat) {f : StageCore → StageCore}
    (hid : ∀ s, (f s).id = s.id) (ht : ∀ s, (f s).targets = s.targets) :
    (r.modifyStage j f).places = r.places := by
  simp only [places, modifyStage, Prod.mk.injEq, true_and]
  exact map_modify_same (fun s => by rw [hid, ht]) _ _

theorem RolloutCore.places_modifyTarget (r : RolloutCore) (j i : Nat) {f : TargetCore → TargetCore}
    (h : ∀ t, (f t).target = t.target) : (r.modifyTarget j i f).places = r.places := by
  simp only [places, modifyTarget, modifyStage, Prod.mk.injEq, true_and]
  refine map_modify_same (fun s => ?_) _ _
  rw [map_modify_same h]

theorem RolloutCore.places_setTarget (r : RolloutCore) (j i : Nat) {t : TargetCore}
    (h : t.target = (r.targetAt j i).target) : (r.modifyTarget j i fun _ => t).places = r.places := by
  have hconst := modifyTarget_const r j i fun s => { t with target := s.target }
  have ht : { t with target := (r.targetAt j i).target } = t := by rw [← h]
  rw [ht] at hconst
  rw [hconst]
  exact r.places_modifyTarget j i fun _ => rfl

/-- What gives a rollout its stages. -/
def Act.rebuilds : Act → Bool
  | regenerate .. | grow .. => true
  | _ => false

/-- Only a new generation has new places. -/
theorem Act.places_run {a : Act} {v : View} (ha : a.rebuilds = false) (hg : a.Guard env v.core) :
    (a.run v).rollout.places = v.rollout.places := by
  cases a with
  | stage j next => exact v.rollout.places_modifyStage j (fun _ => rfl) fun _ => rfl
  | pickUp j g => exact v.rollout.places_modifyStage j (fun _ => rfl) fun _ => rfl
  | approve j => exact v.rollout.places_modifyStage j (fun _ => rfl) fun _ => rfl
  | gate j id kind =>
    dsimp only [run]
    split
    · exact v.rollout.places_modifyStage j (fun _ => rfl) fun _ => rfl
    · exact v.rollout.places_modifyStage j (fun _ => rfl) fun _ => rfl
  | offer j i id => exact v.rollout.places_modifyTarget j i fun _ => rfl
  | dispatch j i attempt step => exact v.rollout.places_modifyTarget j i fun _ => rfl
  | observe record now j i => exact v.rollout.places_modifyTarget j i fun _ => rfl
  | assign j i t record => exact v.rollout.places_setTarget j i (Assigns.target_eq hg)
  | alter j i t => exact v.rollout.places_setTarget j i (Alters.target_eq hg)
  | regenerate | grow => cases ha
  | _ => rfl

theorem Act.id_run (a : Act) (v : View) : (a.run v).rollout.id = v.rollout.id := by
  cases a with
  | gate j id kind =>
    dsimp only [run]
    split <;> rfl
  | _ => rfl

theorem findStage_of_places (h : r'.places = r.places) (id : StageId) :
    r'.findStage id = r.findStage id := by
  refine RolloutCore.findStage_congr ?_ id
  have hstages := congrArg (fun p => p.2.2.map Prod.fst) h
  simpa [RolloutCore.places, Function.comp_def] using hstages

theorem findTarget_of_places (h : r'.places = r.places) (j : Nat) (id : TargetId) :
    (r'.stageAt j).findTarget id = (r.stageAt j).findTarget id := by
  refine StageCore.findTarget_congr ?_ id
  have hstage := congrArg (fun p => (p.2.2[j]?).map Prod.snd) h
  simp only [RolloutCore.places, List.getElem?_map, Option.map_map] at hstage
  simp only [RolloutCore.stageAt, List.getD_eq_getElem?_getD]
  cases hr : r.stages[j]? <;> cases hr' : r'.stages[j]? <;> simp_all

/-! ## Runs of all rollouts -/

namespace Orchestrator

variable {o o' o'' : Orchestrator ρ} {k n : Nat} {report : TickReport} {now : Timestamp}

/-- The core of the rollout at an index. -/
def coreAt (o : Orchestrator ρ) (k : Nat) : RolloutCore := (o.heldAt k).rollout.core

/-- The rollouts moved by allowed acts, and the trace grew; others may have been built. -/
structure Moved (env : Env ρ) (allowed : Act → Bool) (o o' : Orchestrator ρ) : Prop where
  length : o.held.length ≤ o'.held.length
  follows : ∀ n, n < o.held.length → Follows env allowed (o.coreAt n) (o'.coreAt n)
  added : ∀ n, o.held.length ≤ n → n < o'.held.length → ∃ r : RolloutCore, r.Blank
    ∧ Follows env (fun a => allowed a || a.isBuild) r (o'.coreAt n)
  grown : o.impl.trace <+: o'.impl.trace

theorem Moved.of_held (hheld : o'.held = o.held) (htrace : o.impl.trace <+: o'.impl.trace) :
    Moved env allowed o o' := by
  refine ⟨hheld ▸ Nat.le_refl _, fun n _ => ?_, fun n hle hlt => ?_, htrace⟩
  · rw [coreAt, coreAt, heldAt, heldAt, hheld]
    exact .refl
  · rw [hheld] at hlt
    omega

theorem Moved.refl (o : Orchestrator ρ) : Moved env allowed o o := .of_held rfl List.prefix_rfl

theorem Moved.trans (h : Moved env allowed o o') (h' : Moved env allowed o' o'') :
    Moved env allowed o o'' where
  length := Nat.le_trans h.length h'.length
  follows n hn := (h.follows n hn).trans (h'.follows n (Nat.lt_of_lt_of_le hn h.length))
  added n hle hlt := by
    by_cases hn : n < o'.held.length
    · obtain ⟨r, hr, hbuilt⟩ := h.added n hle hn
      exact ⟨r, hr, hbuilt.trans ((h'.follows n hn).mono fun a ha => by rw [ha, Bool.true_or])⟩
    · exact h'.added n (Nat.le_of_not_lt hn) hlt
  grown := h.grown.trans h'.grown

theorem Moved.mono {more : Act → Bool} (h : Moved env allowed o o')
    (hl : ∀ a, allowed a = true → more a = true) : Moved env more o o' where
  length := h.length
  follows n hn := (h.follows n hn).mono hl
  added n hle hlt := by
    obtain ⟨r, hr, hbuilt⟩ := h.added n hle hlt
    refine ⟨r, hr, hbuilt.mono fun a ha => ?_⟩
    rcases Bool.or_eq_true_iff.1 ha with ha | ha
    · rw [hl a ha, Bool.true_or]
    · rw [ha, Bool.or_true]
  grown := h.grown

theorem index_iff {id : RolloutId} : o.index id = some k ↔ k < o.held.length
    ∧ (o.coreAt k).id = id ∧ ∀ n, n < k → (o.coreAt n).id ≠ id := by
  have hat {n : Nat} (hn : n < o.held.length) : (o.coreAt n).id = o.held[n].rollout.id := by
    simp [coreAt, heldAt, hn, Rollout.core]
  rw [index, List.findIdx?_eq_some_iff_getElem]
  constructor
  · rintro ⟨hk, hid, hfirst⟩
    refine ⟨hk, (hat hk).trans (by simpa using hid), fun n hn => ?_⟩
    rw [hat (Nat.lt_trans hn hk)]
    simpa using hfirst n hn
  · rintro ⟨hk, hid, hfirst⟩
    refine ⟨hk, by simpa [hat hk] using hid, fun n hn => ?_⟩
    have := hfirst n hn
    rw [hat (Nat.lt_trans hn hk)] at this
    simpa using this

/-- No rollout changes its identifier. -/
theorem Moved.index {id : RolloutId} (h : Moved env allowed o o') (hindex : o.index id = some k) :
    o'.index id = some k := by
  obtain ⟨hk, hid, hfirst⟩ := index_iff.1 hindex
  have hsame (n : Nat) (hn : n < o.held.length) : (o'.coreAt n).id = (o.coreAt n).id :=
    (h.follows n hn).same fun v a _ _ => a.id_run v
  refine index_iff.2 ⟨Nat.lt_of_lt_of_le hk h.length, (hsame k hk).trans hid, fun n hn => ?_⟩
  rw [hsame n (Nat.lt_trans hn hk)]
  exact hfirst n hn

/-- Only a new generation has new places. -/
theorem Moved.places (h : Moved env allowed o o') (hk : k < o.held.length)
    (hl : ∀ a : Act, allowed a = true → a.rebuilds = false) :
    (o'.coreAt k).places = (o.coreAt k).places :=
  (h.follows k hk).same fun _ a ha hg => Act.places_run (hl a ha) hg

theorem heldAt_put_self (hk : k < o.held.length) (w : World ρ) :
    (o.put k w).heldAt k = { o.heldAt k with rollout := w.rollout } := by
  simp [put, setRollout, heldAt, hk]

theorem put_moved {α : Type} {m : Op ρ α} {e : View → Prop} {q : α → Core → Prop}
    (hk : k < o.held.length)
    (hm : Performs env allowed e (o.sys.view (o.heldAt k).rollout.core).core m q) :
    Moved env allowed o (o.put k (m.exec (o.world k report)).2) := by
  refine ⟨(List.length_modify ..).ge, fun n _ => ?_, fun n hle hlt => ?_,
    trace_grows (hm (o.world k report) rfl).1⟩
  · by_cases hn : k = n
    · subst hn
      rw [coreAt, coreAt, heldAt_put_self hk]
      exact hm.follows (w := o.world k report) rfl
    · rw [coreAt, coreAt, heldAt_put hn]
      exact .refl
  · have hlength : (o.put k (m.exec (o.world k report)).2).held.length = o.held.length :=
      List.length_modify ..
    omega

theorem command_moved {id : RolloutId} {context : CommandContext} {body : ChangePlan → Op ρ Bytes}
    (h : ∀ k, k < o.held.length → Performs env allowed (fun _ => True)
      (o.sys.view (o.heldAt k).rollout.core).core (body (o.heldAt k).plan) fun _ _ => True) :
    Moved env allowed o (o.command id context body).2 := by
  unfold command
  dsimp only
  split
  · exact .refl o
  cases hk : o.index id with
  | none => exact .refl o
  | some k =>
    dsimp only
    split
    · exact .refl o
    · exact put_moved (index_lt hk) (h k (index_lt hk))

/-! ## Evidence -/

/-- Evidence was drained: the targets of every rollout were settled. -/
structure Tracks (env : Env ρ) (o o' : Orchestrator ρ) : Prop where
  drains : Drains env false false o.sys o'
  length : o'.held.length = o.held.length
  moved : Moved env Act.isSettling o o'

theorem Tracks.count (h : Tracks env o o') (f : OrchestratorCounters → OrchestratorCounters) :
    Tracks env o (o'.count f) :=
  ⟨h.drains.count f, h.length, h.moved.trans (.of_held rfl List.prefix_rfl)⟩

theorem Tracks.on {m : Op ρ Unit} {q : Unit → Core → Prop} (h : Tracks env o o')
    (hk : k < o'.held.length) (hm : Performs env Act.isSettling (fun _ => True)
      (o'.sys.view (o'.heldAt k).rollout.core).core m q) : Tracks env o (o'.on k report m).2 where
  drains := h.drains.on hk hm
  length := (on_length m).trans h.length
  moved := h.moved.trans (put_moved hk hm)

theorem Tracks.here (h : Tracks env o o') : Tracks env o' o' :=
  ⟨⟨.refl, h.drains.sound, h.drains.rests, h.drains.spares⟩, rfl, .refl o'⟩

theorem Tracks.telemetry {record : EvidenceRecord} (h : Tracks env o o') :
    Tracks env o (applyTelemetry env record now o') := by
  unfold applyTelemetry
  dsimp only
  split
  · exact h.count _
  · next hfresh =>
    refine Tracks.count ?_ _
    exact foldl_range (f := fun o k => (o.on k {} (telemetryOn env record now)).2) (a := o')
      (n := o'.held.length) (fun _ o₁ => Tracks env o o₁) h fun k o₁ hk h₁ =>
        h₁.on (by rw [h₁.length, ← h.length]; exact hk)
          (telemetryOn_performs (by simpa using hfresh))

theorem Tracks.record {record : EvidenceRecord} (h : Tracks env o o') :
    Tracks env o (drainRecord env now (report, o') record).2 := by
  have hcases : DrainsRecord env o' report record now
      (drainRecord env now (report, o') record) := drainRecord_drains record now
  generalize drainRecord env now (report, o') record = result at hcases
  cases hcases with
  | telemetry => exact h.telemetry
  | counted f => exact h.count f
  | applied f k hk m hm => exact (h.count f).on hk hm

theorem Tracks.records {records : List EvidenceRecord} {acc : TickReport × Orchestrator ρ}
    (h : Tracks env o acc.2) : Tracks env o (records.foldl (drainRecord env now) acc).2 := by
  induction records generalizing acc with
  | nil => exact h
  | cons record records ih => exact ih h.record

/-- The time a tick reads off the clock. -/
def tickTime (o : Orchestrator ρ) (env : Env ρ) : Timestamp :=
  (env.clock o.impl.outside).1

/-- The orchestrator of a tick once the adapter was polled. -/
def polled (o : Orchestrator ρ) (env : Env ρ) : Orchestrator ρ :=
  ⟨Impl.poll { o.impl with outside := (env.clock o.impl.outside).2 } env, o.held⟩

/-- The drain of a tick, once these records were taken up. -/
def draining (o : Orchestrator ρ) (env : Env ρ) (records : List EvidenceRecord) :
    TickReport × Orchestrator ρ :=
  records.foldl (drainRecord env (env.clock o.impl.outside).1)
    ({}, { o.polled env with impl := { (o.polled env).impl with pendingEvidence := [] } })

/-- The orchestrator once a tick has drained the evidence. -/
def drained (o : Orchestrator ρ) (env : Env ρ) : Orchestrator ρ :=
  (o.draining env (o.polled env).impl.pendingEvidence).2

theorem draining_tracks (hs : o.sys.Holds (View.Sound env)) (hopen : o.impl.storageFailed = false)
    (records : List EvidenceRecord) : Tracks env o (o.draining env records).2 := by
  obtain ⟨ha, ht, hf⟩ := poll_same { o.impl with outside := (env.clock o.impl.outside).2 } env
  let start : Orchestrator ρ :=
    { o.polled env with impl := { (o.polled env).impl with pendingEvidence := [] } }
  have hpolled : start.sys = o.sys := sys_of_impl (o := o) ha ht hf
  have hstart : Tracks env o start := by
    refine ⟨⟨hpolled ▸ .refl, hpolled ▸ hs, fun r hr => ?_, fun r _ h => by cases h⟩, rfl,
      .of_held rfl (ht ▸ List.prefix_rfl)⟩
    rw [hpolled] at hr
    refine (hs r (.inr hr)).rests.resolve_left ?_
    change ¬ o.impl.storageFailed = true
    simp [hopen]
  exact hstart.records

/-! ## Ticks -/

theorem storageFailed_steps {v v' : View} (h : Relation.ReflTransGen (MachineStep env allowed) v v')
    (hv : v.storageFailed = true) : v'.storageFailed = true := by
  induction h with
  | refl => exact hv
  | tail _ hstep ih =>
    obtain ⟨a, -, -, -, rfl⟩ := hstep
    exact storageFailed_run ih

theorem maybeCompact_held : (maybeCompact env o).held = o.held := by
  unfold maybeCompact
  cases env.journal with
  | none => rfl
  | some device =>
    dsimp only
    split
    · rfl
    split
    · rfl
    split <;> rfl

theorem maybeCompact_grown : o.impl.trace <+: (maybeCompact env o).impl.trace := by
  unfold maybeCompact
  cases env.journal with
  | none => exact List.prefix_rfl
  | some device =>
    dsimp only
    split
    · exact List.prefix_rfl
    split
    · exact List.prefix_rfl
    split <;> exact List.prefix_append ..

theorem maybeCompact_storage (h : o.impl.storageFailed = true) :
    (maybeCompact env o).impl.storageFailed = true := by
  unfold maybeCompact
  cases env.journal with
  | none => exact h
  | some device =>
    dsimp only
    split
    · exact h
    split
    · exact h
    split
    · exact h
    · rfl

/-- The turn of the rollout at `n` in a tick: it is advanced as the evidence left it. -/
structure Turn (env : Env ρ) (o o' : Orchestrator ρ) (n : Nat) (w : World ρ) : Prop where
  rollout : w.rollout = ((o.drained env).heldAt n).rollout
  failing : w.failing = none
  sound : w.view.Sound env
  ready : Ready w.core
  after : (o'.heldAt n).rollout
    = ((advance env (env.clock o.impl.outside).1).exec w).2.rollout
  storage : ((advance env (env.clock o.impl.outside).1).exec w).2.impl.storageFailed = true →
    o'.impl.storageFailed = true

/-- The tick once the rollouts before the `n`-th had their turn. -/
def before (o : Orchestrator ρ) (env : Env ρ) (n : Nat) : TickReport × Orchestrator ρ :=
  (List.range n).foldl (fun acc k => acc.2.on k acc.1 (advance env (env.clock o.impl.outside).1))
    (o.draining env (o.polled env).impl.pendingEvidence)

/-- What the rollout at `n` is advanced in. -/
def turn (o : Orchestrator ρ) (env : Env ρ) (n : Nat) : World ρ :=
  (o.before env n).2.world n (o.before env n).1

theorem before_succ (o : Orchestrator ρ) (n : Nat) : o.before env (n + 1)
    = (o.before env n).2.on n (o.before env n).1 (advance env (env.clock o.impl.outside).1) := by
  unfold before
  rw [List.range_succ, List.foldl_append]
  rfl

/-- The rollouts before the `k`-th had their turn. -/
structure Turned (env : Env ρ) (o : Orchestrator ρ) (k : Nat) (o' : Orchestrator ρ) : Prop where
  advancing : Advancing env false false o.sys (o.drained env) k o'
  moved : Moved env (Act.isTick false) (o.drained env) o'
  turns : ∀ n, n < k → Turn env o o' n (o.turn env n)

theorem advance_ticks {w : World ρ} (h : Ready w.core) :
    Performs env (Act.isTick false) (fun _ => True) w.core (advance env now) fun _ _ => True :=
  advance_performs h fun h => by cases h

theorem Turned.next (h : Turned env o k (o.before env k).2) (hk : k < (o.drained env).held.length)
    (hspare : RolloutFabric.Spares ((o.drained env).heldAt k).rollout.core.alone false) :
    Turned env o (k + 1) (o.before env (k + 1)).2 := by
  have hworld : o.turn env k = (o.before env k).2.world k (o.before env k).1 := rfl
  rw [before_succ]
  generalize (o.before env k).2 = o', (o.before env k).1 = report at h hworld ⊢
  have hk' : k < o'.held.length := h.advancing.length.symm ▸ hk
  have hmem := List.mem_of_getElem? (rollouts_getElem? hk')
  have hsound := h.advancing.sound _ (.inr hmem)
  have hready : Ready (o'.world k report).core :=
    ready_of_rests hsound.tidy hsound.placed (h.advancing.rests _ hmem) rfl
  refine ⟨h.advancing.advance hk hspare,
    h.moved.trans (put_moved hk' (advance_ticks hready)), fun n hn => ?_⟩
  rcases Nat.lt_succ_iff_lt_or_eq.1 hn with hlt | rfl
  · have hturn : Turn env o o' n (o.turn env n) := h.turns n hlt
    refine ⟨hturn.rollout, hturn.failing, hturn.sound, hturn.ready, ?_, fun hfailed => ?_⟩
    · rw [on, heldAt_put (Nat.ne_of_gt hlt)]
      exact hturn.after
    · exact storageFailed_steps ((advance_ticks hready) (o'.world k report) rfl).1
        (hturn.storage hfailed)
  · rw [hworld]
    refine ⟨?_, rfl, hsound, hready, ?_, id⟩
    · rw [← h.advancing.rest n (Nat.le_refl n)]
      rfl
    · rw [on, heldAt_put_self hk']

/-- In a tick every rollout has its turn, and the journal may be compacted after that. -/
theorem tick_turned (hs : o.sys.Holds (View.Sound env)) (hup : o.impl.shuttingDown = false)
    (hopen : o.impl.storageFailed = false) :
    Turned env o o.held.length (o.before env o.held.length).2
      ∧ (tick env o).2 = maybeCompact env (o.before env o.held.length).2 := by
  have htracks : Tracks env o (o.drained env) := draining_tracks hs hopen _
  have hturned (k : Nat) (hk : k ≤ (o.drained env).held.length) :
      Turned env o k (o.before env k).2 := by
    induction k with
    | zero => exact ⟨⟨htracks.drains.reaches, htracks.drains.sound,
        fun r hr => (htracks.drains.rests r hr).weaken, rfl, fun _ _ => rfl⟩, .refl _,
        fun n h => absurd h (Nat.not_lt_zero n)⟩
    | succ k ih =>
      have hspare := htracks.drains.spares _ (List.mem_of_getElem? (rollouts_getElem? hk))
      exact (ih (Nat.le_of_succ_le hk)).next hk hspare
  rw [htracks.length] at hturned
  refine ⟨hturned _ (Nat.le_refl _), ?_⟩
  unfold tick
  split
  · next h =>
    rcases h with h | h
    · rw [hup] at h
      cases h
    · rw [hopen] at h
      cases h
  · rw [← htracks.length]
    rfl

theorem tick_turn (hs : o.sys.Holds (View.Sound env)) (hup : o.impl.shuttingDown = false)
    (hopen : o.impl.storageFailed = false) (hn : n < o.held.length) :
    Turn env o (tick env o).2 n (o.turn env n) := by
  obtain ⟨hturned, htick⟩ := tick_turned hs hup hopen
  have hturn : Turn env o (o.before env o.held.length).2 n (o.turn env n) := hturned.turns n hn
  rw [htick]
  refine ⟨hturn.rollout, hturn.failing, hturn.sound, hturn.ready, ?_, fun h => ?_⟩
  · rw [heldAt, maybeCompact_held]
    exact hturn.after
  · exact maybeCompact_storage (hturn.storage h)

theorem tick_stopped (h : o.impl.shuttingDown = true ∨ o.impl.storageFailed = true) :
    (tick env o).2 = o := by
  unfold tick
  rw [if_pos h]

/-- What a tick does after it took these records up. -/
theorem draining_moved (hs : o.sys.Holds (View.Sound env)) (hup : o.impl.shuttingDown = false)
    (hopen : o.impl.storageFailed = false) {records rest : List EvidenceRecord}
    (hpending : (o.polled env).impl.pendingEvidence = records ++ rest) :
    Moved env (fun a => a.isTick false || a.isSettling) (o.draining env records).2
      (tick env o).2 := by
  obtain ⟨hturned, htick⟩ := tick_turned hs hup hopen
  have htracks : Tracks env o (o.draining env records).2 := draining_tracks hs hopen records
  have hrest : Tracks env (o.draining env records).2 (o.drained env) := by
    have happend : o.draining env (records ++ rest)
        = rest.foldl (drainRecord env (env.clock o.impl.outside).1) (o.draining env records) :=
      List.foldl_append ..
    rw [drained, hpending, happend]
    exact htracks.here.records
  rw [htick]
  refine .trans (hrest.moved.mono fun a ha => by rw [ha, Bool.or_true]) ?_
  refine .trans (hturned.moved.mono fun a ha => by rw [ha, Bool.true_or]) ?_
  exact .of_held maybeCompact_held maybeCompact_grown

theorem tick_length (hs : o.sys.Holds (View.Sound env)) :
    (tick env o).2.held.length = o.held.length := by
  by_cases hrunning : o.impl.shuttingDown = true ∨ o.impl.storageFailed = true
  · rw [tick_stopped hrunning]
  obtain ⟨hup, hopen⟩ : o.impl.shuttingDown = false ∧ o.impl.storageFailed = false := by
    simpa using hrunning
  obtain ⟨hturned, htick⟩ := tick_turned hs hup hopen
  rw [htick, maybeCompact_held]
  exact hturned.advancing.length.trans (draining_tracks hs hopen _).length

theorem tick_moved (hs : o.sys.Holds (View.Sound env)) :
    Moved env (fun a => a.isTick false || a.isSettling) o (tick env o).2 := by
  by_cases hrunning : o.impl.shuttingDown = true ∨ o.impl.storageFailed = true
  · rw [tick_stopped hrunning]
    exact .refl o
  obtain ⟨hup, hopen⟩ : o.impl.shuttingDown = false ∧ o.impl.storageFailed = false := by
    simpa using hrunning
  have hdrained : Tracks env o (o.draining env []).2 := draining_tracks hs hopen []
  refine .trans (hdrained.moved.mono fun a ha => by rw [ha, Bool.or_true]) ?_
  exact draining_moved hs hup hopen rfl

/-! ## Inputs -/

theorem createRollout_moved (plan : ChangePlan) (context : CommandContext) :
    Moved env allowed o (createRollout env o plan context).2 := by
  -- one more rollout is held, and the others stay where they were
  have hadded (built : Held) (o' : Orchestrator ρ) (h : o'.held = o.held ++ [built])
      (hbuilt : ∃ r : RolloutCore, r.Blank ∧ Follows env Act.isBuild r built.rollout.core)
      (ht : o.impl.trace <+: o'.impl.trace) : Moved env allowed o o' := by
    refine ⟨by simp [h], fun n hn => ?_, fun n hle hlt => ?_, ht⟩
    · have hsame : o'.heldAt n = o.heldAt n := by
        simp [heldAt, h, List.getElem?_append_left hn]
      rw [coreAt, coreAt, hsame]
      exact .refl
    · have hlast : o'.heldAt n = built := by
        rw [h, List.length_append, List.length_singleton] at hlt
        obtain rfl : n = o.held.length := by omega
        simp [heldAt, h]
      obtain ⟨r, hr, hruns⟩ := hbuilt
      rw [coreAt, hlast]
      exact ⟨r, hr, hruns.mono fun a ha => by rw [ha, Bool.or_true]⟩
  unfold createRollout
  dsimp only
  split
  · exact .refl o
  split
  · exact .refl o
  cases plan.validate env.limits with
  | error s => exact .refl o
  | ok plan =>
    dsimp only
    split
    · exact .refl o
    generalize hstart : ({ impl := _, rollout := _ } : World ρ) = w
    have hbuilding : Building w.core := by
      subst hstart
      exact ⟨rfl, .inl rfl, fun s hs => by cases hs⟩
    have hblank : w.rollout.core.Blank := by
      subst hstart
      exact ⟨rfl, rfl, rfl⟩
    -- the new rollout was built from a blank one
    have hruns : Follows env Act.isBuild w.rollout.core ((buildRollout env plan context
        (env.clock o.impl.outside).1).exec w).2.rollout.core :=
      (buildRollout_performs hbuilding).follows rfl
    have hgrown : w.impl.trace <+: ((buildRollout env plan context
        (env.clock o.impl.outside).1).exec w).2.impl.trace :=
      trace_grows (buildRollout_performs hbuilding w rfl).1
    have htrace : w.impl.trace = o.impl.trace := by
      subst hstart
      rfl
    rw [htrace] at hgrown
    generalize Program.exec (buildRollout env plan context _) w = result at hgrown hruns ⊢
    obtain ⟨answer, w'⟩ := result
    cases answer with
    | error s => exact .of_held rfl hgrown
    | ok _ => exact hadded _ _ rfl ⟨_, hblank, hruns⟩ hgrown

theorem reconcile_moved (hs : o.sys.Holds (View.Sound env)) (id : RolloutId) :
    Moved env Act.isSettling o (reconcileOutstanding env o id).2 := by
  unfold reconcileOutstanding
  cases hk : o.index id with
  | none => exact .refl o
  | some k =>
    cases env.execution with
    | none => exact .refl o
    | some execution =>
      have hlt := index_lt hk
      have hsound := hs _ (.inr (List.mem_of_getElem? (rollouts_getElem? hlt)))
      exact put_moved hlt (reconcileRollout_performs hsound.keyed)

end Orchestrator

/-- The orchestrator after these inputs. -/
def Orchestrator.after (o : Orchestrator ρ) (env : Env ρ) (inputs : List Input) : Orchestrator ρ :=
  inputs.foldl (fun o i => o.step env i) o

theorem Node.run_inputs (o : Orchestrator ρ) (inputs : List Input) :
    (Node.running o).run env (inputs.map .input) = .running (o.after env inputs) := by
  induction inputs generalizing o with
  | nil => rfl
  | cons i inputs ih => exact ih (o.step env i)

/-- What an input does to the rollouts that are there. -/
def Input.acts : Input → Act → Bool
  | .regenerate .. => Act.isBuild
  | .abort .. => Act.isAbort
  | .reconcile _ => Act.isSettling
  | .tick => fun a => a.isTick false || a.isSettling
  | .create .. | .setInventory _ | .onEvidence _ | .onAdapterEvent _ | .noteShutdown =>
    fun _ => false
  | _ => Act.isCommand

/-- What an input does to the rollouts that are there is a run of acts. -/
theorem step_moved {o : Orchestrator ρ} (hs : o.sys.Holds (View.Sound env)) (i : Input) :
    o.Moved env i.acts (o.step env i) := by
  have hcommand {id : RolloutId} {context : CommandContext} {body : ChangePlan → Op ρ Bytes}
      (h : ∀ (v : View) plan, v.Sound env → v.failing = none →
        Commands env v.core (body plan) fun _ _ => True) :
      o.Moved env Act.isCommand (o.command id context body).2 := by
    refine Orchestrator.command_moved fun k hk => ?_
    exact h _ _ (hs _ (.inr (List.mem_of_getElem? (rollouts_getElem? hk)))) rfl
  cases i with
  | create plan context => exact Orchestrator.createRollout_moved plan context
  | arm id context => exact hcommand fun _ _ _ _ => armRollout_performs
  | start id context => exact hcommand fun _ _ _ _ => startRollout_performs
  | pause id context reason => exact hcommand fun _ _ _ _ => pauseRollout_performs
  | resume id context => exact hcommand fun _ _ hv _ => resumeRollout_performs hv.tidy
  | abort id context reason =>
    refine Orchestrator.command_moved fun k _ => ?_
    exact (abortRollout_performs (.inr fun _ => trivial) (.inr fun _ => trivial)).weaken
      fun _ _ _ => trivial
  | approveGate id gate context =>
    exact hcommand fun _ _ hv hidle => approvePending_performs hv.tidy hv.placed hidle
  | retire id context => exact hcommand fun _ _ _ _ => retireRollout_performs
  | regenerate id context =>
    exact Orchestrator.command_moved fun k _ => regenerateRollout_performs
  | reconcile id => exact Orchestrator.reconcile_moved hs id
  | tick => exact Orchestrator.tick_moved hs
  | onEvidence record =>
    obtain ⟨-, ht, -⟩ := sink_same o.impl env.limits (.evidence record)
    exact .of_held rfl (ht ▸ List.prefix_rfl)
  | setInventory | onAdapterEvent | noteShutdown => exact .of_held rfl List.prefix_rfl

/-! ## Restarts -/

/-- A recovered rollout, adopted as it was read back. -/
theorem restore_held {o : Orchestrator ρ} {rollout : Rollout} {plan : ChangePlan} {h : Held}
    (hh : h ∈ (restore env o rollout plan).2.held) :
    h ∈ o.held ∨ Follows env Act.isRestoring rollout.core h.rollout.core := by
  have hadopted (w : World ρ) (hw : w.rollout = rollout.adopt o.impl) :
      Follows env Act.isRestoring rollout.core ((restoreTargets env rollout.incarnation
        (rollout.adopt o.impl)).exec w).2.rollout.core := by
    have hcore : w.rollout.core = rollout.core := by rw [hw]; rfl
    have hadopt : (rollout.adopt o.impl).core = w.core.rollout := hcore.symm
    rw [← hcore]
    exact (restoreTargets_performs (e := fun _ => True) hadopt).follows rfl
  revert hh
  unfold restore
  split
  · exact .inl
  cases plan.validate env.limits with
  | error s => exact .inl
  | ok plan =>
    dsimp only
    split
    · exact .inl
    split
    · exact .inl
    rintro hh
    rcases List.mem_append.1 hh with hkept | hnew
    · left
      revert hkept
      cases o.index rollout.id with
      | none => exact id
      | some k => exact fun hkept => List.mem_of_mem_eraseIdx hkept
    · right
      rw [List.mem_singleton.1 hnew]
      exact hadopted _ rfl

theorem adoptAll_held {plans : Map PlanId ChangePlan} {rollouts : List Rollout}
    {o : Orchestrator ρ} {h : Held} (hh : h ∈ (rollouts.foldl (adoptRollout env plans) o).held) :
    h ∈ o.held ∨ ∃ rollout ∈ rollouts, Follows env Act.isRestoring rollout.core h.rollout.core := by
  induction rollouts generalizing o with
  | nil => exact .inl hh
  | cons rollout rollouts ih =>
    rcases ih hh with hh | ⟨other, hmem, hruns⟩
    · unfold adoptRollout at hh
      cases hplan : plans.lookup rollout.planId with
      | none =>
        rw [hplan] at hh
        exact .inl hh
      | some plan =>
        rw [hplan] at hh
        exact (restore_held hh).imp_right fun hruns => ⟨rollout, List.mem_cons_self .., hruns⟩
    · exact .inr ⟨other, List.mem_cons_of_mem _ hmem, hruns⟩

/-- What a restart reads back out of the journal. -/
def ReadsBack (env : Env ρ) (trace : List Event) (rollout : Rollout) : Prop :=
  ∃ found, ((journalRecords trace).map Prod.fst).foldlM (recoverRecord env.limits) {} = .ok found
    ∧ rollout ∈ found.inOrder

/-- What a controller holds once it was opened was read back out of the journal. -/
theorem openController_held {entropy : Entropy} {trace : List Event} {outside : ρ} {h : Held}
    (hh : h ∈ (openController env entropy trace outside).held) :
    ∃ rollout, ReadsBack env trace rollout
      ∧ Follows env Act.isRestoring rollout.core h.rollout.core := by
  revert hh
  unfold openController
  split
  · exact fun hh => absurd hh List.not_mem_nil
  dsimp only
  split
  · next found _ hscan =>
    rintro hh
    rcases adoptAll_held hh with hnone | ⟨rollout, hmem, hruns⟩
    · exact absurd hnone List.not_mem_nil
    · exact ⟨rollout, ⟨found, hscan, hmem⟩, hruns⟩
  · exact fun hh => absurd hh List.not_mem_nil

end RolloutFabric
