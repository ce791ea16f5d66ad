/-
The orchestrator and its controller take the steps of the system: every command, every tick, every
reconciliation, a crash and a restart.
-/
import RolloutFabric.Orchestrator.System
import RolloutFabric.Domain.RoundTrip

namespace RolloutFabric

variable {ρ : Type} {env : Env ρ} {spare restarts : Bool}

/-! ## The system of an orchestrator -/

def Orchestrator.sys (o : Orchestrator ρ) : Sys where
  rollouts := o.held.map fun h => h.rollout.core
  attempts id := o.impl.attempts.lookup id
  trace := o.impl.trace
  storageFailed := o.impl.storageFailed

def Node.sys : Node ρ → Sys
  | running o => o.sys
  | stopped trace _ => .fresh trace

/-- Everything, but for starting a stage past a manual entry gate when that is spared, and for
rebuilding attempts without a restart. -/
def Act.spares (spare restarts : Bool) : Act → Bool
  | pickUp _ entryGate => !spare || entryGate == .automatic
  | rebuild .. => restarts
  | _ => true

theorem Act.spares_of_tick {a : Act} (h : a.isTick spare = true) :
    a.spares spare restarts = true := by
  cases a <;> first | rfl | exact h | cases h

theorem Act.spares_of {allowed : Act → Bool} (hl : ∀ j g, allowed (.pickUp j g) = false)
    (hr : ∀ j i a, allowed (.rebuild j i a) = false) {a : Act} (h : allowed a = true) :
    a.spares spare restarts = true := by
  cases a with
  | pickUp j g => rw [hl] at h; cases h
  | rebuild j i a => rw [hr] at h; cases h
  | _ => rfl

/-- The system gets from one state to the other. -/
abbrev Reaches (env : Env ρ) (spare restarts : Bool) (s s' : Sys) : Prop :=
  Relation.ReflTransGen (SysStep env (Act.spares spare restarts)) s s'

section Orchestrator

variable {o : Orchestrator ρ} {k : Nat}

theorem sys_of_impl {impl : Impl ρ} (ha : impl.attempts = o.impl.attempts)
    (ht : impl.trace = o.impl.trace) (hf : impl.storageFailed = o.impl.storageFailed) :
    Orchestrator.sys { o with impl } = o.sys := by
  simp only [Orchestrator.sys, ha, ht, hf]

theorem sys_count (f : OrchestratorCounters → OrchestratorCounters) : (o.count f).sys = o.sys := rfl

theorem rollouts_getElem? (hk : k < o.held.length) :
    o.sys.rollouts[k]? = some (o.heldAt k).rollout.core := by
  simp [Orchestrator.sys, Orchestrator.heldAt, hk]

theorem world_view (report : TickReport) :
    (o.world k report).view = o.sys.view (o.heldAt k).rollout.core := rfl

theorem put_sys (hk : k < o.held.length) (w : World ρ) : (o.put k w).sys = o.sys.put k w.view := by
  simp only [Orchestrator.put, Orchestrator.setRollout, Orchestrator.sys, Sys.put, Sys.share,
    World.view, Sys.mk.injEq, and_true]
  apply List.ext_getElem?
  intro n
  simp only [List.getElem?_map, List.getElem?_modify, List.getElem?_set, List.length_map]
  by_cases hn : k = n
  · subst hn
    simp [hk]
  · simp [hn]

theorem index_lt {id : RolloutId} (h : o.index id = some k) : k < o.held.length :=
  (List.findIdx?_eq_some_iff_getElem.1 h).1

theorem index_id {id : RolloutId} (h : o.index id = some k) : (o.heldAt k).rollout.id = id := by
  obtain ⟨hk, hid, -⟩ := List.findIdx?_eq_some_iff_getElem.1 h
  simpa [Orchestrator.heldAt, hk] using hid

theorem index_find {id : RolloutId} (h : o.index id = some k) :
    o.find id = some (o.heldAt k).rollout := by
  obtain ⟨hk, hid, hfirst⟩ := List.findIdx?_eq_some_iff_getElem.1 h
  have hfound : o.held.find? (fun h => h.rollout.id == id) = some o.held[k] :=
    List.find?_eq_some_iff_getElem.2 ⟨hid, k, hk, rfl, fun j hj => by simpa using hfirst j hj⟩
  simp only [Orchestrator.find, Orchestrator.heldAt, List.getD_eq_getElem?_getD,
    List.getElem?_eq_getElem hk, Option.getD_some, hfound, Option.map_some]

/-- A function of the state machine, run on one of the rollouts. -/
theorem Performs.works {α : Type} {allowed : Act → Bool} {e : View → Prop} {m : Op ρ α}
    {q : α → Core → Prop} (hl : ∀ a, allowed a = true → a.spares spare restarts = true)
    (hk : k < o.held.length) (report : TickReport)
    (h : Performs env allowed e (o.sys.view (o.heldAt k).rollout.core).core m q) :
    SysStep env (Act.spares spare restarts) o.sys (o.put k (m.exec (o.world k report)).2).sys := by
  rw [put_sys hk]
  refine .work k _ (rollouts_getElem? hk) _ ?_
  exact Relation.ReflTransGen.mono (fun _ _ ⟨a, ha, hg⟩ => ⟨a, hl a ha, hg⟩) _ _
    (h (o.world k report) rfl).1

/-! ## Commands -/

theorem Act.spares_of_command {a : Act} (h : a.isCommand = true) :
    a.spares spare restarts = true :=
  spares_of (fun _ _ => rfl) (fun _ _ _ => rfl) h

theorem Act.spares_of_abort {a : Act} (h : a.isAbort = true) : a.spares spare restarts = true :=
  spares_of (fun _ _ => rfl) (fun _ _ _ => rfl) h

theorem Act.spares_of_build {a : Act} (h : a.isBuild = true) : a.spares spare restarts = true :=
  spares_of (fun _ _ => rfl) (fun _ _ _ => rfl) h

theorem Act.spares_of_settling {a : Act} (h : a.isSettling = true) :
    a.spares spare restarts = true :=
  spares_of (fun _ _ => rfl) (fun _ _ _ => rfl) h

theorem command_reaches {id : RolloutId} {context : CommandContext} {body : ChangePlan → Op ρ Bytes}
    {allowed : Act → Bool} (hl : ∀ a, allowed a = true → a.spares spare restarts = true)
    (h : ∀ k, k < o.held.length → Performs env allowed (fun _ => True)
      (o.sys.view (o.heldAt k).rollout.core).core (body (o.heldAt k).plan) fun _ _ => True) :
    Reaches env spare restarts o.sys (o.command id context body).2.sys := by
  unfold Orchestrator.command
  dsimp only
  split
  · exact .refl
  · cases hk : o.index id with
    | none => exact .refl
    | some k =>
      dsimp only
      split
      · exact .refl
      · exact .single ((h k (index_lt hk)).works hl (index_lt hk) {})

theorem createRollout_reaches {plan : ChangePlan} {context : CommandContext} :
    Reaches env spare restarts o.sys (createRollout env o plan context).2.sys := by
  unfold createRollout
  dsimp only
  split
  · exact .refl
  split
  · exact .refl
  cases plan.validate env.limits with
  | error s => exact .refl
  | ok plan =>
  dsimp only
  split
  · exact .refl
  generalize hstart : ({ impl := _, rollout := _ } : World ρ) = w
  have hblank : w.rollout.core.Blank := by
    subst hstart
    exact ⟨rfl, rfl, rfl⟩
  have hview : w.view = o.sys.view w.rollout.core := by
    subst hstart
    rfl
  have hbuilding : Building w.core := by
    refine ⟨hblank.cursor, .inl hblank.state, fun s hs => ?_⟩
    change s ∈ w.rollout.core.stages at hs
    rw [hblank.stages] at hs
    cases hs
  have hrun : Relation.ReflTransGen (MachineStep env (Act.spares spare restarts)) w.view
      ((buildRollout env plan context (env.clock o.impl.outside).1).exec w).2.view :=
    Relation.ReflTransGen.mono (fun _ _ ⟨a, ha, hg⟩ => ⟨a, Act.spares_of_build ha, hg⟩) _ _
      (buildRollout_performs hbuilding w rfl).1
  rw [hview] at hrun
  cases hexec : (buildRollout env plan context (env.clock o.impl.outside).1).exec w with
  | mk result w' =>
    rw [hexec] at hrun
    cases result with
    | error s => exact .single (.drop _ hblank _ hrun)
    | ok _ =>
      refine .single ?_
      have hpush := SysStep.push _ hblank _ hrun
      simpa [Orchestrator.sys, Sys.push, Sys.share, World.view] using hpush

theorem reconcileOutstanding_reaches {id : RolloutId} (hs : o.sys.Holds (View.Sound env)) :
    Reaches env spare restarts o.sys (reconcileOutstanding env o id).2.sys := by
  unfold reconcileOutstanding
  cases hk : o.index id with
  | none => exact .refl
  | some k =>
    cases env.execution with
    | none => exact .refl
    | some execution =>
      have hlt := index_lt hk
      have hsound := hs _ (.inr (List.mem_of_getElem? (rollouts_getElem? hlt)))
      exact .single ((reconcileRollout_performs hsound.keyed).works
        (fun _ => Act.spares_of_settling) hlt {})

/-! ## Skeletons -/

theorem RolloutCore.skeleton_stageAt (r : RolloutCore) (j : Nat) :
    r.skeleton.stageAt j = { r.stageAt j with targets := [] } := by
  simp only [stageAt, skeleton, List.getD_eq_getElem?_getD, List.getElem?_map]
  cases r.stages[j]? <;> rfl

theorem RolloutCore.skeleton_modifyTarget (r : RolloutCore) (j i : Nat)
    (f : TargetCore → TargetCore) : (r.modifyTarget j i f).skeleton = r.skeleton := by
  simp only [skeleton, modifyTarget, modifyStage, RolloutCore.mk.injEq, true_and]
  refine map_modify_same (h := ?_) ..
  exact fun _ => rfl

/-- Evidence and reconciliation reach the targets only. -/
theorem Act.skeleton_settling {a : Act} {c : Core} (h : a.isSettling = true) :
    (a.after c).rollout.skeleton = c.rollout.skeleton := by
  cases a with
  | assign j i t record => exact RolloutCore.skeleton_modifyTarget ..
  | alter j i t => exact RolloutCore.skeleton_modifyTarget ..
  | observe record now j i => exact RolloutCore.skeleton_modifyTarget ..
  | append => rfl
  | latch => rfl
  | apply => rfl
  | report => rfl
  | lose => rfl
  | _ => cases h

theorem Spares.of_skeleton {c c' : Core} (h : c'.rollout.skeleton = c.rollout.skeleton)
    (hs : Spares c spare) : Spares c' spare := by
  have hstate : c'.rollout.state = c.rollout.state := (congrArg RolloutCore.state h :)
  have hcursor : c'.rollout.cursor = c.rollout.cursor := (congrArg RolloutCore.cursor h :)
  have hstage := RolloutCore.skeleton_stageAt c'.rollout c'.rollout.cursor.toNat
  rw [h, RolloutCore.skeleton_stageAt, hcursor, StageCore.mk.injEq] at hstage
  intro hspare hworking harmed
  rw [hstate] at hworking
  rw [hcursor] at harmed ⊢
  rw [← hstage.2.2.2.1]
  exact hs hspare hworking (hstage.2.1.trans harmed)

/-! ## The tick -/

theorem sink_same (s : Impl ρ) (limits : RuntimeLimits) (call : SinkCall) :
    (s.sink limits call).attempts = s.attempts ∧ (s.sink limits call).trace = s.trace
      ∧ (s.sink limits call).storageFailed = s.storageFailed := by
  cases call with
  | evidence record =>
    dsimp only [Impl.sink, Impl.onEvidence]
    refine ⟨?_, ?_, ?_⟩ <;> split <;> rfl
  | event event => exact ⟨rfl, rfl, rfl⟩

theorem poll_same (s : Impl ρ) (env : Env ρ) :
    (s.poll env).attempts = s.attempts ∧ (s.poll env).trace = s.trace
      ∧ (s.poll env).storageFailed = s.storageFailed := by
  unfold Impl.poll
  cases env.execution with
  | none => exact ⟨rfl, rfl, rfl⟩
  | some execution =>
    have hfold (calls : List SinkCall) (s : Impl ρ) :
        (calls.foldl (fun s call => s.sink env.limits call) s).attempts = s.attempts
          ∧ (calls.foldl (fun s call => s.sink env.limits call) s).trace = s.trace
          ∧ (calls.foldl (fun s call => s.sink env.limits call) s).storageFailed
            = s.storageFailed := by
      induction calls generalizing s with
      | nil => exact ⟨rfl, rfl, rfl⟩
      | cons call calls ih =>
        obtain ⟨ha, ht, hf⟩ := sink_same s env.limits call
        obtain ⟨ha', ht', hf'⟩ := ih (s.sink env.limits call)
        exact ⟨ha'.trans ha, ht'.trans ht, hf'.trans hf⟩
    exact hfold (execution.poll s.outside).1 { s with outside := (execution.poll s.outside).2 }

/-- A rollout by itself. -/
def RolloutCore.alone (r : RolloutCore) : Core := ⟨r, fun _ => none, [], none⟩

/-- What evidence is applied to. -/
structure Drains (env : Env ρ) (spare restarts : Bool) (s : Sys) (o : Orchestrator ρ) : Prop where
  reaches : Reaches env spare restarts s o.sys
  sound : o.sys.Holds (View.Sound env)
  rests : ∀ r ∈ o.sys.rollouts, r.alone.Rests true
  spares : ∀ r ∈ o.sys.rollouts, Spares r.alone spare

section Draining

variable {s : Sys} {report : TickReport}

theorem Drains.count (h : Drains env spare restarts s o) (f : OrchestratorCounters → OrchestratorCounters) :
    Drains env spare restarts s (o.count f) := ⟨h.reaches, h.sound, h.rests, h.spares⟩

/-- What settles targets keeps a rollout at rest. -/
theorem Drains.on {m : Op ρ Unit} {q : Unit → Core → Prop}
    (h : Drains env spare restarts s o) (hk : k < o.held.length)
    (hm : Performs env Act.isSettling (fun _ => True) (o.sys.view (o.heldAt k).rollout.core).core m q) :
    Drains env spare restarts s (o.on k report m).2 := by
  have hwork : SysStep env (Act.spares spare restarts) o.sys (o.on k report m).2.sys :=
    hm.works (fun _ => Act.spares_of_settling) hk report
  have hrun := (hm (o.world k report) rfl).1
  have hmem := List.mem_of_getElem? (rollouts_getElem? hk)
  have hsound := h.sound _ (.inr hmem)
  let I (c : Core) : Prop := (c.Tidy ∧ c.Rests true) ∧ Spares c spare
  have hkeep := invariant_of_acts (I := I) (fun a c ha hw hg ⟨⟨ht, hr⟩, hs⟩ =>
    ⟨⟨tidy_after a c hw hg ht, rests_after hw hg ht (fun _ j id kind hgate => by
      rw [hgate] at ha; cases ha) (fun hstrict => by cases hstrict) hr⟩,
      hs.of_skeleton (Act.skeleton_settling ha)⟩) hrun
    ⟨⟨hsound.tidy, h.rests _ hmem⟩, h.spares _ hmem⟩
  have hrollouts (r : RolloutCore) (hr : r ∈ (o.on k report m).2.sys.rollouts) :
      r = (m.exec (o.world k report)).2.rollout.core ∨ r ∈ o.sys.rollouts := by
    unfold Orchestrator.on at hr
    rw [put_sys hk] at hr
    exact (List.mem_or_eq_of_mem_set hr).symm
  refine ⟨h.reaches.tail hwork, sound_steps (.single hwork) h.sound, fun r hr => ?_, fun r hr => ?_⟩
  · rcases hrollouts r hr with rfl | hr
    · exact fun hu j hj => ⟨(hkeep.1.2 hu j hj).1, (hkeep.1.2 hu j hj).2.1, fun i hi => by cases hi⟩
    · exact h.rests r hr
  · rcases hrollouts r hr with rfl | hr
    · exact hkeep.2
    · exact h.spares r hr

theorem on_length (m : Op ρ Unit) : (o.on k report m).2.held.length = o.held.length :=
  List.length_modify ..

theorem foldl_range {α : Type} {f : α → Nat → α} {n : Nat} {a : α} (P : Nat → α → Prop)
    (h : P 0 a) (hf : ∀ k a, k < n → P k a → P (k + 1) (f a k)) :
    P n ((List.range n).foldl f a) := by
  induction n with
  | zero => exact h
  | succ n ih =>
    rw [List.range_succ, List.foldl_append]
    exact hf n _ (Nat.lt_succ_self n) (ih fun k a hk => hf k a (Nat.lt_succ_of_lt hk))

theorem Drains.telemetry {record : EvidenceRecord} {now : Timestamp} (h : Drains env spare restarts s o) :
    Drains env spare restarts s (applyTelemetry env record now o) := by
  unfold applyTelemetry
  dsimp only
  split
  · exact h.count _
  · next hfresh =>
    refine Drains.count ?_ _
    have hloop := foldl_range (f := fun o k => (o.on k {} (telemetryOn env record now)).2) (a := o)
      (n := o.held.length) (fun _ o' => Drains env spare restarts s o' ∧ o'.held.length = o.held.length)
      ⟨h, rfl⟩ fun k o' hk ⟨hdrains, hlength⟩ =>
        ⟨hdrains.on (hlength.symm ▸ hk) (telemetryOn_performs (by simpa using hfresh)),
          (on_length _).trans hlength⟩
    exact hloop.1

/-- What `drain_pending` does with one record: it is counted, or it settles targets. -/
inductive DrainsRecord (env : Env ρ) (o : Orchestrator ρ) (report : TickReport)
    (record : EvidenceRecord) (now : Timestamp) : TickReport × Orchestrator ρ → Prop
  | telemetry : DrainsRecord env o report record now (report, applyTelemetry env record now o)
  | counted (f : OrchestratorCounters → OrchestratorCounters) :
    DrainsRecord env o report record now (report, o.count f)
  | applied (f : OrchestratorCounters → OrchestratorCounters) (k : Nat) (hk : k < o.held.length)
    (m : Op ρ Unit) (hm : Performs env Act.isSettling (fun _ => True)
      (o.sys.view (o.heldAt k).rollout.core).core m fun _ _ => True) :
    DrainsRecord env o report record now ((o.count f).on k report m)

theorem drainRecord_drains (record : EvidenceRecord) (now : Timestamp) :
    DrainsRecord env o report record now (drainRecord env now (report, o) record) := by
  unfold drainRecord
  dsimp only
  split
  · exact .telemetry
  next htelemetry =>
  split
  · exact .counted fun c => c.refuse _
  next hadmission =>
  have haccepted : (admitRecord env o.impl (o.find record.rollout) (o.planFor record.rollout).isSome
      record now).isAccepted = true := by simpa using hadmission
  obtain ⟨-, r, j, i, live, hfind, hadmitted⟩ := admit_isAccepted.1 haccepted
  cases hk : (o.count fun c => { c with evidenceAccepted := c.evidenceAccepted + 1 }).index
      record.rollout with
  | none => exact .counted _
  | some k =>
    have hheld : r = (o.heldAt k).rollout := Option.some.inj (hfind.symm.trans (index_find hk))
    subst hheld
    have hworld : ((o.count fun c => { c with evidenceAccepted := c.evidenceAccepted + 1 }).world k
        report).core = (o.sys.view (o.heldAt k).rollout.core).core := rfl
    have hadmits : Admits (o.sys.view (o.heldAt k).rollout.core).core record j i live := by
      refine Admitted.admits hworld (⟨hadmitted.valid, hadmitted.generation, hadmitted.stage,
        hadmitted.target, hadmitted.attempt, hadmitted.incarnation, hadmitted.epoch,
        hadmitted.sequence, hadmitted.unfinished, hadmitted.fresh⟩) (by simpa using htelemetry) ?_ ?_
        (.inl ⟨(index_id hk).symm, hadmitted.generation⟩)
      · rw [← hadmitted.stage]
        exact (World.findStage_core hworld _).symm
      · rw [← hadmitted.target]
        exact (World.findTarget_core hworld j _).symm
    have hlt : k < o.held.length := index_lt hk
    exact DrainsRecord.applied (o := o)
      (fun c => { c with evidenceAccepted := c.evidenceAccepted + 1 }) k hlt _
      (.latch_any (applyEvidence_performs hadmits) rfl)

theorem Drains.record {record : EvidenceRecord} {now : Timestamp} (h : Drains env spare restarts s o) :
    Drains env spare restarts s (drainRecord env now (report, o) record).2 := by
  have hcases : DrainsRecord env o report record now (drainRecord env now (report, o) record) :=
    drainRecord_drains record now
  generalize drainRecord env now (report, o) record = result at hcases ⊢
  cases hcases with
  | telemetry => exact h.telemetry
  | counted f => exact h.count f
  | applied f k hk m hm => exact (h.count f).on hk hm

theorem Drains.pending {now : Timestamp} (h : Drains env spare restarts s o) :
    Drains env spare restarts s (drainPending env now report o).2 := by
  unfold drainPending
  generalize o.impl.pendingEvidence = records
  have hstart : Drains env spare restarts s { o with impl := { o.impl with pendingEvidence := [] } } :=
    ⟨h.reaches, h.sound, h.rests, h.spares⟩
  generalize { o with impl := { o.impl with pendingEvidence := [] } } = o' at hstart
  induction records generalizing report o' with
  | nil => exact hstart
  | cons record records ih => exact ih _ hstart.record

end Draining

/-! ### Advancing -/

/-- What the rollouts are advanced in: those from the `k`-th on are as the evidence left them. -/
structure Advancing (env : Env ρ) (spare restarts : Bool) (s : Sys) (o : Orchestrator ρ) (k : Nat)
    (o' : Orchestrator ρ) : Prop where
  reaches : Reaches env spare restarts s o'.sys
  sound : o'.sys.Holds (View.Sound env)
  rests : ∀ r ∈ o'.sys.rollouts, r.alone.Rests false
  length : o'.held.length = o.held.length
  rest : ∀ n, k ≤ n → o'.heldAt n = o.heldAt n

theorem heldAt_put {w : World ρ} {n : Nat} (h : k ≠ n) : (o.put k w).heldAt n = o.heldAt n := by
  simp only [Orchestrator.put, Orchestrator.setRollout, Orchestrator.heldAt,
    List.getD_eq_getElem?_getD, List.getElem?_modify]
  simp [h]

theorem Advancing.advance {s : Sys} {o' : Orchestrator ρ} {report : TickReport} {now : Timestamp}
    (h : Advancing env spare restarts s o k o') (hk : k < o.held.length)
    (hspare : Spares (o.heldAt k).rollout.core.alone spare) :
    Advancing env spare restarts s o (k + 1) (o'.on k report (advance env now)).2 := by
  have hk' : k < o'.held.length := h.length.symm ▸ hk
  have hmem := List.mem_of_getElem? (rollouts_getElem? hk')
  have hsound := h.sound _ (.inr hmem)
  have hready : Ready (o'.sys.view (o'.heldAt k).rollout.core).core :=
    ready_of_rests hsound.tidy hsound.placed (h.rests _ hmem) rfl
  have hspare' : Spares (o'.sys.view (o'.heldAt k).rollout.core).core spare := by
    rw [h.rest k (Nat.le_refl k)]
    exact hspare
  have hm : Performs env (Act.isTick spare) (fun _ => True)
      (o'.sys.view (o'.heldAt k).rollout.core).core (RolloutFabric.advance env now)
      fun _ _ => True := advance_performs hready hspare'
  have hwork : SysStep env (Act.spares spare restarts) o'.sys
      (o'.on k report (RolloutFabric.advance env now)).2.sys :=
    hm.works (fun _ => Act.spares_of_tick) hk' report
  have hrun := (hm (o'.world k report) rfl).1
  have hkeep := invariant_of_acts (I := fun c => c.Tidy ∧ c.Rests false)
    (fun a c ha hw hg ⟨ht, hr⟩ => ⟨tidy_after a c hw hg ht, rests_after hw hg ht
      (fun hstrict => by cases hstrict) (fun _ j i t record heq => by rw [heq] at ha; cases ha) hr⟩)
    hrun ⟨hsound.tidy, h.rests _ hmem⟩
  refine ⟨h.reaches.tail hwork, sound_steps (.single hwork) h.sound, fun r hr => ?_,
    (on_length _).trans h.length, fun n hn => ?_⟩
  · unfold Orchestrator.on at hr
    rw [put_sys hk'] at hr
    rcases List.mem_or_eq_of_mem_set hr with hr | rfl
    · exact h.rests r hr
    · exact fun hu j hj => ⟨(hkeep.2 hu j hj).1, (hkeep.2 hu j hj).2.1, fun i hi => by cases hi⟩
  · exact (heldAt_put (by omega)).trans (h.rest n (by omega))

/-! ### Compaction -/

theorem journalRewrite_fits {limits : RuntimeLimits} {device : JournalDevice ρ}
    {entries : List JournalEntry} {outside : ρ} {n : Nat}
    (h : (journalRewrite limits device entries outside).1.2 = some n) :
    ∀ entry ∈ entries.take n, entry.payload.length ≤ limits.maxJournalRecordBytes.toNat := by
  unfold journalRewrite at h
  dsimp only at h
  let fits (entry : JournalEntry) : Bool :=
    decide (entry.payload.length ≤ limits.maxJournalRecordBytes.toNat)
  have hfits {m : Nat} (hm : m ≤ (entries.takeWhile fits).length) :
      ∀ entry ∈ entries.take m, entry.payload.length ≤ limits.maxJournalRecordBytes.toNat := by
    intro entry hmem
    have htaken := List.takeWhile_prefix (p := fits) (l := entries)
    rw [List.prefix_iff_eq_take] at htaken
    have hin : entry ∈ entries.takeWhile fits := by
      rw [htaken]
      exact (List.take_prefix_take_left hm).subset hmem
    simpa [fits] using List.mem_takeWhile_imp hin
  split at h
  · simp only [Option.map_eq_some_iff] at h
    obtain ⟨m, -, rfl⟩ := h
    exact hfits (Nat.min_le_left ..)
  · next hall =>
    have hlength := Nat.le_of_not_lt hall
    intro entry hmem
    have hm : (entries.take n).length ≤ (entries.takeWhile fits).length :=
      (List.take_prefix n entries).length_le.trans hlength
    refine hfits hm entry ?_
    rwa [List.length_take, ← List.take_eq_take_min]

theorem held_of_compactionEntries {r : Rollout} (h : .rolloutSnapshot r ∈ compactionEntries o) :
    ∃ held ∈ o.held, held.rollout = r := by
  simp only [compactionEntries, List.mem_cons, reduceCtorEq, List.mem_flatten, List.mem_map,
    false_or] at h
  obtain ⟨_, ⟨held, hheld, rfl⟩, hr⟩ := h
  simp only [List.mem_cons, reduceCtorEq, JournalEntry.rolloutSnapshot.injEq, List.not_mem_nil,
    false_or, or_false] at hr
  exact ⟨held, hheld, hr.symm⟩

theorem compactionEntries_held {r : Rollout} (h : .rolloutSnapshot r ∈ compactionEntries o) :
    r.core ∈ o.sys.rollouts := by
  obtain ⟨held, hheld, rfl⟩ := held_of_compactionEntries h
  exact List.mem_map.2 ⟨held, hheld, rfl⟩

/-- What `maybe_compact` does with the answer of the journal. -/
theorem rewritten_reaches (o : Orchestrator ρ) (entries : List JournalEntry) (status : Status)
    (landed : Option Nat) (outside : ρ) (h : Compacts env o.sys entries landed) :
    Reaches env spare restarts o.sys (Orchestrator.sys <|
      let impl := { o.impl with
        outside
        trace := o.impl.trace ++ [Event.rewritten entries o.impl.controllerEpoch status.isOk landed] }
      if status.isOk then { o with impl := { impl with recordsSinceSnapshot := 0 } }
      else { o with impl := { impl with
        storageFailed := true
        storageStatus := makeStatus status.code
          (text "journal compaction failed: " ++ status.message) } }) := by
  have hstep : SysStep env (Act.spares spare restarts) o.sys
      (o.sys.compacted entries o.impl.controllerEpoch status.isOk landed) := .compact _ _ _ _ h
  refine .single ?_
  dsimp only
  split
  · next hok => simpa [Orchestrator.sys, Sys.compacted, hok] using hstep
  · next hok => simpa [Orchestrator.sys, Sys.compacted, hok] using hstep

theorem maybeCompact_reaches (h : ∀ r ∈ o.sys.rollouts, r.alone.Rests false) :
    Reaches env spare restarts o.sys (maybeCompact env o).sys := by
  unfold maybeCompact
  cases env.journal with
  | none => exact .refl
  | some device =>
    dsimp only
    split
    · exact .refl
    split
    · exact .refl
    exact rewritten_reaches (o.count fun c => { c with compactions := c.compactions + 1 })
      (compactionEntries o) (journalRewrite env.limits device (compactionEntries o) o.impl.outside).1.1
      (journalRewrite env.limits device (compactionEntries o) o.impl.outside).1.2
      (journalRewrite env.limits device (compactionEntries o) o.impl.outside).2
      ⟨fun r hr => compactionEntries_held hr, fun n hn => journalRewrite_fits hn, h⟩

theorem tick_reaches (hs : o.sys.Holds (View.Sound env))
    (hspare : o.impl.shuttingDown = false → o.impl.storageFailed = false →
      ∀ r ∈ o.sys.rollouts, Spares r.alone spare) :
    Reaches env spare restarts o.sys (tick env o).2.sys := by
  unfold tick
  split
  · exact .refl
  next hrunning =>
  obtain ⟨hup, hstorage⟩ : o.impl.shuttingDown = false ∧ o.impl.storageFailed = false := by
    simpa using hrunning
  dsimp only
  obtain ⟨ha, ht, hf⟩ := poll_same { o.impl with outside := (env.clock o.impl.outside).2 } env
  have hpolled := sys_of_impl (o := o) ha ht hf
  generalize Orchestrator.mk (Impl.poll { o.impl with outside := (env.clock o.impl.outside).2 } env)
    o.held = o₁ at hpolled ⊢
  have hstart : Drains env spare restarts o.sys o₁ := by
    refine ⟨hpolled ▸ .refl, hpolled ▸ hs, fun r hr => ?_, fun r hr => ?_⟩
    · rw [hpolled] at hr
      refine (hs r (.inr hr)).rests.resolve_left ?_
      change ¬ o.impl.storageFailed = true
      simp [hstorage]
    · rw [hpolled] at hr
      exact hspare hup hstorage r hr
  have hdrained : Drains env spare restarts o.sys
      (drainPending env (env.clock o.impl.outside).1 {} o₁).2 := hstart.pending
  generalize drainPending env (env.clock o.impl.outside).1 {} o₁ = drained at hdrained ⊢
  obtain ⟨report, o₂⟩ := drained
  dsimp only at hdrained ⊢
  have hadvanced := foldl_range (a := (report, o₂)) (n := o₂.held.length)
    (f := fun acc k => acc.2.on k acc.1 (advance env (env.clock o.impl.outside).1))
    (fun k acc => Advancing env spare restarts o.sys o₂ k acc.2)
    ⟨hdrained.reaches, hdrained.sound, fun r hr => (hdrained.rests r hr).weaken, rfl,
      fun _ _ => rfl⟩ fun k acc hk h => h.advance hk
        (hdrained.spares _ (List.mem_of_getElem? (rollouts_getElem? hk)))
  exact hadvanced.reaches.trans (maybeCompact_reaches hadvanced.rests)

end Orchestrator

/-! ## Inputs -/

/-- A tick picks no stage up past a manual entry gate. -/
def Orchestrator.Spares (o : Orchestrator ρ) (spare : Bool) : Prop :=
  o.impl.shuttingDown = false → o.impl.storageFailed = false →
    ∀ r ∈ o.sys.rollouts, RolloutFabric.Spares r.alone spare

theorem spares_false (o : Orchestrator ρ) : o.Spares false := fun _ _ _ _ h => by cases h

/-- Every input of an orchestrator is steps of the system. -/
theorem step_reaches {o : Orchestrator ρ} {i : Input} (hs : o.sys.Holds (View.Sound env))
    (hspare : i = .tick → o.Spares spare) : Reaches env spare restarts o.sys (o.step env i).sys := by
  have hcommand {id : RolloutId} {context : CommandContext} {body : ChangePlan → Op ρ Bytes}
      (h : ∀ (v : View) plan, v.Sound env → v.failing = none →
        Commands env v.core (body plan) fun _ _ => True) :
      Reaches env spare restarts o.sys (o.command id context body).2.sys := by
    refine command_reaches (fun _ => Act.spares_of_command) fun k hk => ?_
    exact h _ _ (hs _ (.inr (List.mem_of_getElem? (rollouts_getElem? hk)))) rfl
  cases i with
  | create plan context => exact createRollout_reaches
  | arm id context => exact hcommand fun _ _ _ _ => armRollout_performs
  | start id context => exact hcommand fun _ _ _ _ => startRollout_performs
  | pause id context reason => exact hcommand fun _ _ _ _ => pauseRollout_performs
  | resume id context => exact hcommand fun _ _ hv _ => resumeRollout_performs hv.tidy
  | abort id context reason =>
    refine command_reaches (fun _ => Act.spares_of_abort) fun k _ => ?_
    exact (abortRollout_performs (.inr fun _ => trivial) (.inr fun _ => trivial)).weaken
      fun _ _ _ => trivial
  | approveGate id gate context =>
    exact hcommand fun _ _ hv hidle => approvePending_performs hv.tidy hv.placed hidle
  | retire id context => exact hcommand fun _ _ _ _ => retireRollout_performs
  | regenerate id context =>
    exact command_reaches (fun _ => Act.spares_of_build) fun k _ => regenerateRollout_performs
  | setInventory inventory => exact .refl
  | onEvidence record =>
    obtain ⟨ha, ht, hf⟩ := sink_same o.impl env.limits (.evidence record)
    exact (sys_of_impl ha ht hf) ▸ .refl
  | onAdapterEvent event => exact .refl
  | reconcile id => exact reconcileOutstanding_reaches hs
  | tick => exact tick_reaches hs (hspare rfl)
  | noteShutdown => exact .refl

/-! ## Restarts -/

theorem journalRecords_lands {trace : List Event} {r : Rollout} {epoch : UInt64}
    (h : (.rolloutSnapshot r, epoch) ∈ journalRecords trace) :
    ∃ t₁ e t₂, trace = t₁ ++ e :: t₂ ∧ e.Lands r := by
  induction trace using List.reverseRecOn with
  | nil => cases h
  | append_singleton trace e ih =>
    rw [journalRecords, List.foldl_append] at h
    have hold (h : (.rolloutSnapshot r, epoch) ∈ journalRecords trace) :
        ∃ t₁ e' t₂, trace ++ [e] = t₁ ++ e' :: t₂ ∧ e'.Lands r := by
      obtain ⟨t₁, e', t₂, rfl, he⟩ := ih h
      exact ⟨t₁, e', t₂ ++ [e], by simp, he⟩
    change _ ∈ landEvent (journalRecords trace) e at h
    unfold landEvent at h
    split at h
    · next entry epoch' _ =>
      rcases List.mem_append.1 h with h | h
      · exact hold h
      · simp only [List.mem_singleton, Prod.mk.injEq] at h
        exact ⟨trace, _, [], rfl, h.1.symm⟩
    · next entries epoch' _ n =>
      obtain ⟨entry, hentry, heq⟩ := List.mem_map.1 h
      simp only [Prod.mk.injEq] at heq
      exact ⟨trace, _, [], rfl, (heq.1 ▸ hentry : _ ∈ entries.take n)⟩
    · exact hold h

theorem recovered_of_record {limits : RuntimeLimits} {entry : JournalEntry}
    {found next : Recovered} (h : recoverRecord limits found entry = .ok next) {r : Rollout}
    (hr : ∃ id, next.rollouts.lookup id = some r) :
    (∃ id, found.rollouts.lookup id = some r)
      ∨ ∃ r₀, entry = .rolloutSnapshot r₀
        ∧ decodeRolloutPayload (encodeRolloutPayload r₀) limits = .ok r := by
  cases entry with
  | rolloutSnapshot r₀ =>
    cases hdecode : decodeRolloutPayload (encodeRolloutPayload r₀) limits with
    | error s =>
      simp [recoverRecord, JournalEntry.payload, hdecode, bind, Except.bind] at h
    | ok r₁ =>
      simp only [recoverRecord, JournalEntry.payload, hdecode, bind, Except.bind, pure,
        Except.pure, Except.ok.injEq] at h
      subst h
      obtain ⟨id, hid⟩ := hr
      by_cases heq : id = r₁.id
      · subst heq
        rw [AList.lookup_insert] at hid
        exact .inr ⟨r₀, rfl, hdecode.trans (congrArg _ (Option.some.inj hid))⟩
      · rw [AList.lookup_insert_ne heq] at hid
        exact .inl ⟨id, hid⟩
  | inventoryStored inventory =>
    simp only [recoverRecord, bind, Except.bind] at h
    split at h <;> cases h
    exact .inl hr
  | planStored plan =>
    simp only [recoverRecord, bind, Except.bind] at h
    split at h <;> cases h
    exact .inl hr
  | _ =>
    cases h
    exact .inl hr

/-- The scan finds nothing but what the snapshots decode to. -/
theorem recovered_of_scan {limits : RuntimeLimits} {entries : List JournalEntry}
    {found found' : Recovered} (h : entries.foldlM (recoverRecord limits) found = .ok found')
    {r : Rollout} (hr : ∃ id, found'.rollouts.lookup id = some r) :
    (∃ id, found.rollouts.lookup id = some r)
      ∨ ∃ r₀, .rolloutSnapshot r₀ ∈ entries
        ∧ decodeRolloutPayload (encodeRolloutPayload r₀) limits = .ok r := by
  induction entries generalizing found with
  | nil =>
    cases h
    exact .inl hr
  | cons entry entries ih =>
    rw [List.foldlM_cons] at h
    cases hentry : recoverRecord limits found entry with
    | error s => rw [hentry] at h; cases h
    | ok next =>
      rw [hentry] at h
      rcases ih h with hnext | ⟨r₀, hmem, hdecode⟩
      · exact (recovered_of_record hentry hnext).imp id fun ⟨r₀, heq, hdecode⟩ =>
          ⟨r₀, heq ▸ List.mem_cons_self .., hdecode⟩
      · exact .inr ⟨r₀, List.mem_cons_of_mem _ hmem, hdecode⟩

theorem inOrder_mem {found : Recovered} {r : Rollout} (h : r ∈ found.inOrder) :
    ∃ id, found.rollouts.lookup id = some r := by
  simp only [Recovered.inOrder, List.mem_map, List.mem_insertionSort] at h
  obtain ⟨_, ⟨entry, hentry, rfl⟩, rfl⟩ := h
  exact ⟨entry.1, AList.mem_lookup_iff.2 hentry⟩

/-- The rollout is what a snapshot of the trace holds. -/
def Stored (trace : List Event) (r : Rollout) : Prop :=
  ∃ r₀ t₁ e t₂, trace = t₁ ++ e :: t₂ ∧ e.Lands r₀ ∧ r.core = r₀.core

theorem Stored.mono {t t' : List Event} {r : Rollout} (h : Stored t r) (ht : t <+: t') :
    Stored t' r := by
  obtain ⟨r₀, t₁, e, t₂, rfl, he, hr⟩ := h
  obtain ⟨l, rfl⟩ := ht
  exact ⟨r₀, t₁, e, t₂ ++ l, by simp, he, hr⟩

theorem Rollout.core_persisted (r : Rollout) : r.persisted.core = r.core := by
  simp only [persisted, core, List.map_map]
  rfl

/-- What a restart finds is what a snapshot kept of a rollout. -/
theorem persisted_of_scan {trace : List Event} {found : Recovered}
    (hl : Each (Lands env) trace) (hlimits : env.limits.validate.isOk = true)
    (h : ((journalRecords trace).map Prod.fst).foldlM (recoverRecord env.limits) {} = .ok found)
    {r : Rollout} (hr : r ∈ found.inOrder) :
    ∃ r₀ t₁ e t₂, trace = t₁ ++ e :: t₂ ∧ e.Lands r₀ ∧ r = r₀.persisted := by
  rcases recovered_of_scan h (inOrder_mem hr) with ⟨id, hid⟩ | ⟨r₀, hmem, hdecode⟩
  · cases hid
  · obtain ⟨⟨_, epoch⟩, hrecord, rfl⟩ := List.mem_map.1 hmem
    obtain ⟨t₁, e, t₂, ht, he⟩ := journalRecords_lands hrecord
    have hsize := (hl t₁ e t₂ ht r₀ he).2
    exact ⟨r₀, t₁, e, t₂, ht, he, decodeRolloutPayload_ok hlimits hsize hdecode⟩

theorem stored_of_scan {trace : List Event} {found : Recovered}
    (hl : Each (Lands env) trace) (hlimits : env.limits.validate.isOk = true)
    (h : ((journalRecords trace).map Prod.fst).foldlM (recoverRecord env.limits) {} = .ok found)
    {r : Rollout} (hr : r ∈ found.inOrder) : Stored trace r := by
  obtain ⟨r₀, t₁, e, t₂, ht, he, rfl⟩ := persisted_of_scan hl hlimits h hr
  exact ⟨r₀, t₁, e, t₂, ht, he, r₀.core_persisted⟩

/-- Restoring writes nothing. -/
theorem storageFailed_restoring {v v' : View}
    (h : Relation.ReflTransGen (MachineStep env Act.isRestoring) v v') :
    v'.storageFailed = v.storageFailed := by
  induction h with
  | refl => rfl
  | @tail v v' _ hstep ih =>
    obtain ⟨a, ha, -, -, rfl⟩ := hstep
    refine Eq.trans ?_ ih
    cases a <;> first | rfl | cases ha

theorem Act.spares_of_restoring {a : Act} (h : a.isRestoring = true) :
    a.spares spare true = true := by
  cases a <;> first | rfl | cases h

/-- The rollouts beside the one a restore replaces. -/
def Orchestrator.without (o : Orchestrator ρ) (id : RolloutId) : List Held :=
  match o.index id with
  | some k => o.held.eraseIdx k
  | none => o.held

theorem Orchestrator.without_sublist (o : Orchestrator ρ) (id : RolloutId) :
    (o.without id).Sublist o.held := by
  unfold without
  split
  · exact List.eraseIdx_sublist ..
  · exact .refl _

/-- What the recovered rollouts are adopted in. -/
structure Adopting (env : Env ρ) (spare : Bool) (s : Sys) (trace : List Event)
    (o : Orchestrator ρ) : Prop where
  reaches : Reaches env spare true s o.sys
  grown : trace <+: o.impl.trace
  opened : o.impl.storageFailed = false

theorem restore_adopting {s : Sys} {trace : List Event} {o : Orchestrator ρ} {r : Rollout}
    {plan : ChangePlan} (h : Adopting env spare s trace o) (hr : Stored trace r) :
    Adopting env spare s trace (restore env o r plan).2 := by
  unfold restore
  split
  · exact h
  cases plan.validate env.limits with
  | error s => exact h
  | ok plan =>
  dsimp only
  split
  · exact h
  split
  · exact h
  have hsub : ((o.without r.id).map fun h => h.rollout.core).Sublist o.sys.rollouts :=
    (o.without_sublist r.id).map _
  let noted : Impl ρ := { o.impl with trace := o.impl.trace ++ [.restored r] }
  obtain ⟨r₀, t₁, e, t₂, ht, he, hcore⟩ := hr.mono (h.grown.trans (List.prefix_append _ [.restored r]))
  have hadopted : (r.adopt o.impl).core = r₀.core := hcore
  let s₁ : Sys := { o.sys with trace := noted.trace }
  have hperforms : Performs env Act.isRestoring (fun _ => False) (s₁.view r₀.core).core
      (restoreTargets env r.incarnation (r.adopt o.impl))
      fun _ c' => ∀ j i, c'.rollout.Released j i := restoreTargets_performs hadopted
  have hrun := hperforms { impl := noted, rollout := r.adopt o.impl }
    (congrArg View.core (congrArg s₁.view hadopted))
  have hview : World.view { impl := noted, rollout := r.adopt o.impl } = s₁.view r₀.core :=
    congrArg s₁.view hadopted
  change Adopting env spare s trace
    { impl := { ((restoreTargets env r.incarnation (r.adopt o.impl)).exec _).2.impl with counters := _ }
      held := o.without r.id ++ [⟨((restoreTargets env r.incarnation (r.adopt o.impl)).exec _).2.rollout, plan⟩] }
  generalize (restoreTargets env r.incarnation (r.adopt o.impl)).exec
    { impl := noted, rollout := r.adopt o.impl } = result at hrun ⊢
  obtain ⟨status, w⟩ := result
  obtain ⟨hsteps, hok, hfail⟩ := hrun
  rw [hview] at hsteps
  have hreleased : ∀ j i, w.view.rollout.Released j i := by
    cases status with
    | ok a => exact hok a rfl
    | error s => exact absurd (hfail s rfl) id
  have hgrown : noted.trace <+: w.impl.trace := trace_grows hsteps
  refine ⟨(h.reaches.tail (.recovered r)).tail ?_,
    (h.grown.trans (List.prefix_append ..)).trans hgrown,
    (storageFailed_restoring hsteps).trans h.opened⟩
  have hadopt : SysStep env (Act.spares spare true) s₁ _ := .adopt (s := s₁) r₀ t₁ t₂ e ht he
    o.impl.trace r rfl hcore h.opened _ hsub _ (fun _ => Act.spares_of_restoring) hsteps hreleased
  simpa [s₁, noted, Orchestrator.sys, Sys.push, Sys.share, World.view] using hadopt

theorem adoptRollout_adopting {s : Sys} {trace : List Event} {o : Orchestrator ρ} {r : Rollout}
    {plans : Map PlanId ChangePlan} (h : Adopting env spare s trace o) (hr : Stored trace r) :
    Adopting env spare s trace (adoptRollout env plans o r) := by
  unfold adoptRollout
  cases plans.lookup r.planId with
  | none => exact h
  | some plan => exact restore_adopting h hr

theorem adoptAll_adopting {s : Sys} {trace : List Event} {o : Orchestrator ρ}
    {plans : Map PlanId ChangePlan} {rs : List Rollout} (h : Adopting env spare s trace o)
    (hr : ∀ r ∈ rs, Stored trace r) :
    Adopting env spare s trace (rs.foldl (adoptRollout env plans) o) := by
  induction rs generalizing o with
  | nil => exact h
  | cons r rs ih =>
    exact ih (adoptRollout_adopting h (hr r (List.mem_cons_self ..)))
      fun r' hr' => hr r' (List.mem_cons_of_mem _ hr')

/-- The claim of the next epoch. -/
theorem appendJournal_open {entry : JournalEntry} {w w' : World ρ} {result : Except Status Unit}
    (h : (appendJournal env entry).exec w = (result, w')) (hw : w.impl.storageFailed = false)
    (hr : result.isOk = true) : w'.impl.storageFailed = false := by
  unfold appendJournal at h
  cases hj : env.journal with
  | none =>
    rw [hj] at h
    obtain ⟨rfl, rfl⟩ := Prod.mk.inj h
    exact hw
  | some device =>
    rw [hj] at h
    obtain ⟨status, w₁, landed, hx, hv, -⟩ := journalAppend_view env.limits device entry w
    have hopen : w₁.impl.storageFailed = false := (congrArg View.storageFailed hv).trans hw
    simp only [Program.exec_bind, Op.exec_read, hw, Bool.false_eq_true, if_false, hx] at h
    split at h
    · obtain ⟨rfl, rfl⟩ := Prod.mk.inj h
      exact hopen
    · obtain ⟨rfl, -⟩ := Prod.mk.inj h
      cases hr

theorem Act.spares_of_write {a : Act} (h : a.isWrite = true) :
    a.spares spare restarts = true :=
  spares_of (fun _ _ => rfl) (fun _ _ _ => rfl) h

theorem claimed_reaches {entry : JournalEntry} {incarnation : IncarnationId} {trace : List Event}
    {w₀ w : World ρ} {claimed : Except Status Unit}
    (hexec : (appendJournal env entry).exec w₀ = (claimed, w)) (hentry : entry.Describes w₀.view.rollout)
    (hw : w₀.view = Sys.view { Sys.fresh trace with trace := trace ++ [.opened incarnation] }
      (default : Rollout).core) :
    Reaches env spare true (.fresh trace)
        (Sys.share { Sys.fresh trace with trace := trace ++ [.opened incarnation] } w.view)
      ∧ trace <+: w.impl.trace := by
  have hperforms : Performs env Act.isWrite WriteFault w₀.core (appendJournal env entry)
      fun _ c' => c' = w₀.core := appendJournal_performs hentry
  have hsteps := (hperforms w₀ rfl).1
  rw [hexec] at hsteps
  have hgrown : w₀.impl.trace <+: w.impl.trace := trace_grows hsteps
  rw [hw] at hsteps
  have hdrop : SysStep env (Act.spares spare true)
      { Sys.fresh trace with trace := trace ++ [.opened incarnation] } _ :=
    .drop (default : Rollout).core ⟨rfl, rfl, rfl⟩ w.view <|
      Relation.ReflTransGen.mono (fun _ _ ⟨a, ha, hg⟩ => ⟨a, Act.spares_of_write ha, hg⟩) _ _ hsteps
  refine ⟨(Relation.ReflTransGen.single (.opened incarnation rfl)).tail hdrop, ?_⟩
  have hstart : w₀.impl.trace = trace ++ [.opened incarnation] := congrArg View.trace hw
  exact (hstart ▸ List.prefix_append trace _).trans hgrown

theorem openController_reaches {entropy : Entropy} {trace : List Event} {outside : ρ}
    (hs : (Sys.fresh trace).Holds (View.Sound env)) :
    Reaches env spare true (.fresh trace) (openController env entropy trace outside).sys := by
  unfold openController
  split
  · exact .refl
  next hlimits =>
  dsimp only
  generalize hexec : Program.exec (appendJournal env _) _ = result
  obtain ⟨claimed, w⟩ := result
  obtain ⟨hreach, hgrown⟩ : Reaches env spare true _ _ ∧ _ := claimed_reaches hexec trivial rfl
  dsimp only
  split
  · next found hscan =>
    have hadopting : Adopting env spare (.fresh trace) trace
        { impl := { w.impl with inventory := found.inventory }, held := [] } :=
      ⟨hreach, hgrown, appendJournal_open hexec rfl rfl⟩
    refine (adoptAll_adopting hadopting fun r hr => ?_).reaches
    exact stored_of_scan hs.blank.landed (by simpa using hlimits) hscan hr
  · exact hreach.tail (.crash w.impl.trace List.prefix_rfl)

/-! ## Steps of a node -/

/-- An input may be cut short. -/
def Step.Spares (spare : Bool) (n : Node ρ) : Step ρ → Prop
  | .input .tick | .crash .tick _ _ => ∀ o, n = .running o → o.Spares spare
  | _ => True

theorem nodeStep_reaches {n : Node ρ} {step : Step ρ} (hs : n.sys.Holds (View.Sound env))
    (hspare : step.Spares spare n) : Reaches env spare true n.sys (n.step env step).sys := by
  cases n with
  | running o =>
    cases step with
    | input i => exact step_reaches hs fun hi => by subst hi; exact hspare o rfl
    | crash during boundary outside =>
      refine (step_reaches (i := during) hs fun hi => by subst hi; exact hspare o rfl).tail ?_
      exact .crash _ (List.take_prefix ..)
    | restart entropy => exact .refl
  | stopped trace outside =>
    cases step with
    | restart entropy => exact openController_reaches hs
    | input i => exact .refl
    | crash during boundary outside => exact .refl

/-- How a node starts: with an empty journal, or as an orchestrator that did nothing yet. -/
inductive Node.Initial : Node ρ → Prop
  | stopped (outside : ρ) : Initial (.stopped [] outside)
  | running (o : Orchestrator ρ) (held : o.held = []) (attempts : o.impl.attempts = ∅)
    (trace : o.impl.trace = []) (storage : o.impl.storageFailed = false) : Initial (.running o)

theorem Node.Initial.sys_eq {n : Node ρ} (h : n.Initial) : n.sys = .fresh [] := by
  cases h with
  | stopped => rfl
  | running o hheld hattempts htrace hstorage =>
    simp only [Node.sys, Orchestrator.sys, hheld, hattempts, htrace, hstorage]
    rfl

theorem Node.run_append (env : Env ρ) (n : Node ρ) (steps : List (Step ρ)) (step : Step ρ) :
    n.run env (steps ++ [step]) = (n.run env steps).step env step := by
  simp [run]

/-- Every step of the run finds the node as it has to be. -/
def StepsFind (env : Env ρ) (Q : Node ρ → Step ρ → Prop) : Node ρ → List (Step ρ) → Prop
  | _, [] => True
  | n, step :: rest => Q n step ∧ StepsFind env Q (n.step env step) rest

instance StepsFind.decidable (env : Env ρ) (Q : Node ρ → Step ρ → Prop)
    [∀ n step, Decidable (Q n step)] :
    ∀ (n : Node ρ) (steps : List (Step ρ)), Decidable (StepsFind env Q n steps)
  | _, [] => inferInstanceAs (Decidable True)
  | n, step :: rest => @instDecidableAnd _ _ inferInstance
    (StepsFind.decidable env Q (n.step env step) rest)

theorem StepsFind.found {Q : Node ρ → Step ρ → Prop} {n : Node ρ} {steps : List (Step ρ)}
    (h : StepsFind env Q n steps) {before after : List (Step ρ)} {step : Step ρ}
    (heq : steps = before ++ step :: after) : Q (n.run env before) step := by
  subst heq
  induction before generalizing n with
  | nil => exact h.1
  | cons first before ih => exact ih h.2

/-- No tick of the run picks a stage up past a manual entry gate. -/
def SparesRun (env : Env ρ) (spare : Bool) (n : Node ρ) (steps : List (Step ρ)) : Prop :=
  ∀ before step after, steps = before ++ step :: after → step.Spares spare (n.run env before)

theorem sparesRun_false (n : Node ρ) (steps : List (Step ρ)) : SparesRun env false n steps :=
  fun before step after _ => by
    unfold Step.Spares
    split
    · exact fun o _ => spares_false o
    · exact fun o _ => spares_false o
    · trivial

theorem SparesRun.init {n : Node ρ} {steps : List (Step ρ)} {step : Step ρ}
    (h : SparesRun env spare n (steps ++ [step])) : SparesRun env spare n steps :=
  fun before s after heq => h before s (after ++ [step]) (by rw [heq]; simp)

/-- The step is a tick, or one that is cut short. -/
def Step.ticks : Step ρ → Bool
  | .input .tick | .crash .tick _ _ => true
  | _ => false

/-- The stage at the cursor is not armed behind a manual gate. -/
def Rollout.gateSpared (r : Rollout) : Bool :=
  !(r.state.working && (r.stageAt r.cursor.toNat).state == .armed
    && (r.stageAt r.cursor.toNat).policy.entryGate == .manual)

theorem sparesRun_of_ticks {n : Node ρ} {steps : List (Step ρ)}
    (h : StepsFind env (fun n step => step.ticks = true → ∀ h ∈ n.held, h.rollout.gateSpared = true)
      n steps) : SparesRun env true n steps := by
  intro before step after heq
  have hfound := h.found heq
  have hspares (hticks : step.ticks = true) (o : Orchestrator ρ)
      (ho : n.run env before = .running o) : o.Spares true := by
    rintro - - r hr - hworking harmed
    obtain ⟨x, hx, rfl⟩ := List.mem_map.1 hr
    have hspared := hfound hticks x (by rw [ho]; exact hx)
    change x.rollout.state.working = true at hworking
    change (x.rollout.core.stageAt x.rollout.cursor.toNat).state = .armed at harmed
    change (x.rollout.core.stageAt x.rollout.cursor.toNat).policy.entryGate = .automatic
    rw [← Rollout.core_stageAt] at harmed ⊢
    have harmed : (x.rollout.stageAt x.rollout.cursor.toNat).state = .armed := harmed
    show (x.rollout.stageAt x.rollout.cursor.toNat).policy.entryGate = .automatic
    rw [Rollout.gateSpared, hworking, harmed] at hspared
    revert hspared
    cases (x.rollout.stageAt x.rollout.cursor.toNat).policy.entryGate <;> simp
  cases step with
  | input i => cases i <;> first | trivial | exact hspares rfl
  | crash i boundary outside => cases i <;> first | trivial | exact hspares rfl
  | restart entropy => trivial

/-- A run of a node is a run of the system, and every invariant that is carried holds after it. -/
theorem run_reaches {n : Node ρ} (hn : n.Initial) {steps : List (Step ρ)}
    (hspare : SparesRun env spare n steps) :
    Reaches env spare true (.fresh []) (n.run env steps).sys := by
  induction steps using List.reverseRecOn with
  | nil => exact hn.sys_eq ▸ .refl
  | append_singleton steps step ih =>
    have hreach := ih hspare.init
    rw [Node.run_append]
    exact hreach.trans (nodeStep_reaches (sound_steps hreach sound_nil) (hspare steps step [] rfl))

theorem Carried.holds {I : View → Prop} (hI : Carried env (Act.spares spare true) I) {n : Node ρ}
    (hn : n.Initial) {steps : List (Step ρ)} (hspare : SparesRun env spare n steps)
    (hstart : (Sys.fresh []).Holds I) : (n.run env steps).sys.Holds I :=
  (hI.steps (run_reaches hn hspare) sound_nil hstart).2

theorem sound_of_run {n : Node ρ} (hn : n.Initial) (steps : List (Step ρ)) :
    (n.run env steps).sys.Holds (View.Sound env) :=
  sound_steps (run_reaches hn (sparesRun_false n steps)) sound_nil

theorem Node.sys_trace (n : Node ρ) : n.sys.trace = n.trace := by
  cases n <;> rfl

theorem Node.mem_held {n : Node ρ} {h : Held} (hh : h ∈ n.held) :
    h.rollout.core ∈ n.sys.rollouts := by
  cases n with
  | running o => exact List.mem_map.2 ⟨h, hh, rfl⟩
  | stopped trace outside => cases hh

/-- What is kept holds of every rollout and every event of a run. -/
theorem Kept.holds {J : List Event → RolloutCore → Prop} {E : List Event → Event → Prop}
    (hk : Kept env (Act.spares spare true) J E) {n : Node ρ} (hn : n.Initial)
    {steps : List (Step ρ)} (hspare : SparesRun env spare n steps) :
    (∀ h ∈ (n.run env steps).held, J (n.run env steps).trace h.rollout.core)
      ∧ Each E (n.run env steps).trace := by
  have hholds := hk.carried.holds hn hspare hk.start
  rw [← Node.sys_trace]
  exact ⟨fun h hh => (hholds _ (.inr (Node.mem_held hh))).1, hholds.blank.2.2⟩

end RolloutFabric
