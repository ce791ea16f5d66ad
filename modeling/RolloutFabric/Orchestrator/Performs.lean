/-
The state machine performs the acts of the machine. First the rules by which a function is shown
to do so, then the functions that write the journal and make the fenced transitions.
-/
import RolloutFabric.Orchestrator.Machine

namespace RolloutFabric

variable {ρ α β : Type}

/-! ## Running the primitive operations -/

namespace Op

@[simp] theorem exec_read (f : World ρ → α) (w : World ρ) :
    (read f).exec w = (.ok (f w), w) := rfl

@[simp] theorem exec_updateImpl (f : Impl ρ → Impl ρ) (w : World ρ) :
    (updateImpl f).exec w = (.ok (), { w with impl := f w.impl }) := rfl

@[simp] theorem exec_updateRollout (f : Rollout → Rollout) (w : World ρ) :
    (updateRollout f).exec w = (.ok (), { w with rollout := f w.rollout }) := rfl

@[simp] theorem exec_updateReport (f : TickReport → TickReport) (w : World ρ) :
    (updateReport f).exec w = (.ok (), { w with report := f w.report }) := rfl

@[simp] theorem exec_updateCounters (f : OrchestratorCounters → OrchestratorCounters)
    (w : World ρ) : (updateCounters f).exec w
      = (.ok (), { w with impl := { w.impl with counters := f w.impl.counters } }) := rfl

@[simp] theorem exec_updateStage (j : Nat) (f : StageRuntime → StageRuntime) (w : World ρ) :
    (updateStage j f).exec w = (.ok (), { w with rollout := w.rollout.modifyStage j f }) := rfl

@[simp] theorem exec_updateTarget (j i : Nat) (f : TargetRuntime → TargetRuntime) (w : World ρ) :
    (updateTarget j i f).exec w
      = (.ok (), { w with rollout := w.rollout.modifyTarget j i f }) := rfl

@[simp] theorem exec_log (e : Event) (w : World ρ) : (log e).exec w
    = (.ok (), { w with impl := { w.impl with trace := w.impl.trace ++ [e] } }) := rfl

@[simp] theorem exec_releaseOutstanding (w : World ρ) : (releaseOutstanding : Op ρ Unit).exec w
    = (.ok (), { w with rollout := { w.rollout with
        outstandingAttempts := if 0 < w.rollout.outstandingAttempts then
          w.rollout.outstandingAttempts - 1 else 0 } }) := rfl

theorem exec_enterTarget (j i : Nat) (state : TargetState) (record : Option EvidenceRecord)
    (f : TargetRuntime → TargetRuntime) (w : World ρ) :
    (enterTarget j i state record f).exec w = (.ok (), { w with
      rollout := w.rollout.modifyTarget j i fun t => { f t with state }
      failing := if state = .failed then some (j, i) else none
      impl := { w.impl with
        trace := w.impl.trace ++ [.entered (w.rollout.place j i) state record] } }) := rfl

@[simp] theorem exec_check (s : Status) (w : World ρ) : (check s).exec w
    = (if s.isOk then .ok () else .error s, w) := by
  unfold check
  split <;> simp

end Op

/-- Writing through a reference into the attempt table. -/
theorem updateAttempt_view {id : AttemptId} {f : Attempt → Attempt} {old : Attempt} (w : World ρ)
    (h : w.impl.attempts.lookup id = some old) :
    ((Op.updateAttempt id f).exec w).2.view = w.view.setAttempt id (some (f old)) := by
  simp only [Op.updateAttempt, Op.exec_updateImpl, h, World.view, View.setAttempt, View.mk.injEq,
    true_and, and_true]
  funext x
  by_cases hx : x = id
  · subst hx
    rw [AList.lookup_insert, Function.update_self]
  · rw [AList.lookup_insert_ne hx, Function.update_of_ne hx]

/-- Only the target itself is looked at when it is changed. -/
theorem modifyTarget_const (r : RolloutCore) (j i : Nat) (g : TargetCore → TargetCore) :
    r.modifyTarget j i (fun _ => g (r.targetAt j i)) = r.modifyTarget j i g := by
  simp only [RolloutCore.modifyTarget, RolloutCore.modifyStage, RolloutCore.mk.injEq, true_and]
  apply List.ext_getElem?
  intro n
  simp only [List.getElem?_modify]
  by_cases hn : j = n
  · subst hn
    cases hs : r.stages[j]? with
    | none => rfl
    | some s =>
      simp only [if_pos, Option.map_eq_map, Option.map_some, Option.some.injEq,
        StageCore.mk.injEq, true_and]
      apply List.ext_getElem?
      intro k
      simp only [List.getElem?_modify]
      by_cases hk : i = k
      · subst hk
        cases ht : s.targets[i]? with
        | none => rfl
        | some t =>
          simp [RolloutCore.targetAt, RolloutCore.stageAt, StageCore.targetAt, hs, ht]
      · simp [hk]
  · simp [hn]

/-! ## Acts on cores -/

namespace Act

/-- The core an act that is no write leaves. -/
def after (c : Core) (a : Act) : Core :=
  let v := a.run ⟨c.rollout, c.attempts, c.history, false, c.failing⟩
  ⟨v.rollout, v.attempts, v.trace, v.failing⟩

theorem core_run {a : Act} (h : a.isWrite = false) (v : View) : (a.run v).core = a.after v.core := by
  cases a with
  | append entry epoch ok landed => simp [isWrite] at h
  | latch => simp [isWrite] at h
  | gate j id kind =>
    by_cases hlegal : (v.rollout.stageAt j).state.legalTransition .gated = true <;>
      simp [after, run, View.core, View.log, View.setRollout, Event.isJournal, hlegal]
  | _ => simp [after, run, View.core, View.log, View.setRollout, View.setAttempt,
      View.setFailing, Event.isJournal]

theorem after_gate (c : Core) (j : Nat) (id : GateId) (kind : GateKind) :
    (gate j id kind).after c =
      if (c.rollout.stageAt j).state.legalTransition .gated then
        { c with
          rollout := c.rollout.modifyStage j fun s =>
            { s with state := .gated, pendingGate := id, pendingGateKind := kind }
          history := c.history ++ [.stageEntered c.rollout.id c.rollout.generation
            (c.rollout.stageAt j).id (c.rollout.stageAt j).policy .gated] }
      else { c with rollout := c.rollout.modifyStage j fun s =>
            { s with pendingGate := id, pendingGateKind := kind } } := by
  by_cases hlegal : (c.rollout.stageAt j).state.legalTransition .gated = true <;>
    simp [after, run, View.log, View.setRollout, hlegal]

theorem core_run_write {a : Act} (h : a.isWrite = true) (v : View) : (a.run v).core = v.core := by
  cases a <;> first
    | (simp [isWrite] at h; done)
    | simp [run, View.core, View.log, Event.isJournal]

end Act

section Reading

variable {w : World ρ} {c : Core} (hw : w.core = c)

include hw

theorem World.rollout_core : w.rollout.core = c.rollout := by subst hw; rfl

theorem World.stageAt_core (j : Nat) : (w.rollout.stageAt j).core = c.rollout.stageAt j := by
  rw [Rollout.core_stageAt, World.rollout_core hw]

theorem World.targetAt_core (j i : Nat) : (w.rollout.targetAt j i).core = c.rollout.targetAt j i := by
  rw [Rollout.core_targetAt, World.rollout_core hw]

theorem World.lookup_core (id : AttemptId) : w.impl.attempts.lookup id = c.attempts id := by
  subst hw; rfl

theorem World.stageState_core (j : Nat) :
    (w.rollout.stageAt j).state = (c.rollout.stageAt j).state :=
  congrArg StageCore.state (World.stageAt_core hw j)

theorem World.targetState_core (j i : Nat) :
    (w.rollout.targetAt j i).state = (c.rollout.targetAt j i).state :=
  congrArg TargetCore.state (World.targetAt_core hw j i)

theorem World.state_core : w.rollout.state = c.rollout.state :=
  congrArg RolloutCore.state (World.rollout_core hw)

theorem World.policy_core (j : Nat) :
    (w.rollout.stageAt j).policy = (c.rollout.stageAt j).policy :=
  congrArg StageCore.policy (World.stageAt_core hw j)

theorem World.generation_core : w.rollout.generation = c.rollout.generation :=
  congrArg RolloutCore.generation (World.rollout_core hw)

theorem World.currentAttempt_core (j i : Nat) :
    (w.rollout.targetAt j i).currentAttempt = (c.rollout.targetAt j i).currentAttempt :=
  congrArg TargetCore.currentAttempt (World.targetAt_core hw j i)

omit hw in
theorem Rollout.findStage_core (r : Rollout) (id : StageId) :
    r.findStage id = r.core.findStage id := by
  simp only [Rollout.findStage, RolloutCore.findStage, Rollout.core, List.findIdx?_map]
  rfl

theorem World.findStage_core (id : StageId) :
    w.rollout.findStage id = c.rollout.findStage id := by
  rw [← World.rollout_core hw, Rollout.findStage_core]

omit hw in
theorem StageRuntime.findTarget_core (s : StageRuntime) (id : TargetId) :
    s.findTarget id = s.core.findTarget id := by
  have hid (t : TargetRuntime) : t.core.target = t.target := rfl
  simp only [StageRuntime.findTarget, StageCore.findTarget, StageRuntime.core, List.takeWhile_map,
    List.length_map, List.getElem?_map, Function.comp_def, hid]
  generalize List.length _ = index
  cases s.targets[index]? <;> rfl

theorem World.findTarget_core (j : Nat) (id : TargetId) :
    (w.rollout.stageAt j).findTarget id = (c.rollout.stageAt j).findTarget id := by
  rw [← World.stageAt_core hw, StageRuntime.findTarget_core]

omit hw in
theorem StageRuntime.changing_core (s : StageRuntime) : s.core.changing = s.changingCount :=
  List.countP_map ..

omit hw in
theorem Rollout.changing_core (r : Rollout) : r.core.changing = r.changingCount := by
  simp only [RolloutCore.changing, Rollout.core, Rollout.changingCount, List.map_map]
  exact congrArg List.sum (List.map_congr_left fun s _ => s.changing_core)

omit hw in
theorem StageRuntime.terminal_core (s : StageRuntime) :
    s.core.Terminal ↔ s.terminalCount = s.targets.length := by
  simp only [StageCore.Terminal, StageRuntime.core, StageRuntime.terminalCount, List.mem_map,
    forall_exists_index, and_imp, forall_apply_eq_imp_iff₂, List.countP_eq_length]
  rfl

omit hw in
theorem StageRuntime.ids_core (s : StageRuntime) :
    s.core.targets.map TargetCore.target = s.targets.map TargetRuntime.target := by
  simp only [StageRuntime.core, List.map_map]
  rfl

end Reading

/-! ## Rules -/

/-- An act that is no write, as a step. -/
theorem MachineStep.act {env : Env ρ} {allowed : Act → Bool} {v v' : View} {a : Act} {c : Core}
    (hl : allowed a = true) (hw : a.isWrite = false) (hc : v.core = c) (hg : a.Guard env c)
    (hv : v' = a.run v) : MachineStep env allowed v v' := by
  subst hc
  exact ⟨a, hl, hg, by cases a <;> trivial, hv⟩

/-- Failures that include those of a write. -/
class Tolerates (e : View → Prop) : Prop where
  write : ∀ v, WriteFault v → e v

instance : Tolerates fun _ => True := ⟨fun _ _ => trivial⟩
instance : Tolerates Fault := ⟨fun _ => .write⟩
instance : Tolerates WriteFault := ⟨fun _ => id⟩

namespace Performs

variable {env : Env ρ} {allowed : Act → Bool} {e e' : View → Prop} {c : Core} {m : Op ρ α}
  {q q' : α → Core → Prop}

theorem pure {a : α} (h : q a c) : Performs env allowed e c (pure a) q :=
  Program.Simulates.pure fun w hw => by rw [hw]; exact h

theorem throw {s : Status} (h : ∀ v : View, v.core = c → e v) :
    Performs env allowed e c (throw s : Op ρ α) q :=
  Program.Simulates.throw fun w hw => h w.view hw

theorem weaken (h : Performs env allowed e c m q) (hq : ∀ a c', q a c' → q' a c') :
    Performs env allowed e c m q' :=
  Program.Simulates.weaken h (fun _ hw => hw) (fun a w => hq a w.core) fun _ _ he => he

/-- A failure may be described more loosely. -/
theorem fails (h : Performs env allowed e c m q) (he : ∀ v, e v → e' v) :
    Performs env allowed e' c m q :=
  Program.Simulates.weaken h (fun _ hw => hw) (fun _ _ hq => hq) fun _ w => he w.view

theorem bind {f : α → Op ρ β} {r : β → Core → Prop} (hm : Performs env allowed e c m q)
    (hf : ∀ a c', q a c' → Performs env allowed e c' (f a) r) :
    Performs env allowed e c (m >>= f) r :=
  Program.Simulates.bind hm fun a w hw => hf a w.core hw w rfl

/-- A part that leaves the core alone, followed by the rest. -/
theorem skip {f : α → Op ρ β} {r : β → Core → Prop}
    (hm : Performs env allowed e c m fun _ c' => c' = c)
    (hf : ∀ a, Performs env allowed e c (f a) r) : Performs env allowed e c (m >>= f) r :=
  bind hm fun a _ h => h ▸ hf a

/-- Two operations that are one act together, followed by the rest. -/
theorem pair {γ : Type} {m₁ : Op ρ γ} {m₂ : Op ρ α} {k : α → Op ρ β} {r : β → Core → Prop}
    (hm : Performs env allowed e c (m₁ >>= fun _ => m₂) q)
    (hf : ∀ a c', q a c' → Performs env allowed e c' (k a) r) :
    Performs env allowed e c (m₁ >>= fun _ => m₂ >>= k) r := by
  rw [← bind_assoc]
  exact bind hm hf

/-- A program that runs as another one does from a state the machine gets to. -/
theorem jump {k : Op ρ α} {p : Core → Prop}
    (h : ∀ w : World ρ, w.core = c → ∃ w', m.exec w = k.exec w'
      ∧ Relation.ReflTransGen (MachineStep env allowed) w.view w'.view ∧ p w'.core)
    (hk : ∀ c', p c' → Performs env allowed e c' k q) : Performs env allowed e c m q :=
  Program.Simulates.jump (J := fun w => p w.core) h fun w hw => hk w.core hw w rfl

theorem ite {p : Prop} [Decidable p] {m' : Op ρ α} (hm : p → Performs env allowed e c m q)
    (hm' : ¬ p → Performs env allowed e c m' q) :
    Performs env allowed e c (if p then m else m') q := by
  split
  · next hp => exact hm hp
  · next hp => exact hm' hp

/-- A part that runs under a condition, followed by the rest. -/
theorem when {p : Prop} [Decidable p] {m : Op ρ PUnit} {k : PUnit → Op ρ β}
    {r : β → Core → Prop} {I : Core → Prop} (hm : p → Performs env allowed e c m fun _ => I)
    (hn : ¬ p → I c) (hk : ∀ c', I c' → Performs env allowed e c' (k ⟨⟩) r) :
    Performs env allowed e c (if p then m >>= k else k ⟨⟩) r := by
  split
  · next hp => exact bind (hm hp) fun _ => hk
  · next hp => exact hk c (hn hp)

theorem get_bind {k : World ρ → Op ρ β} {r : β → Core → Prop}
    (h : ∀ w, w.core = c → Performs env allowed e c (k w) r) :
    Performs env allowed e c (get >>= k) r := fun w hw => h w hw w hw

theorem read_bind {f : World ρ → α} {k : α → Op ρ β} {r : β → Core → Prop}
    (h : ∀ w, w.core = c → Performs env allowed e c (k (f w)) r) :
    Performs env allowed e c (Op.read f >>= k) r := fun w hw => h w hw w hw

theorem mono {more : Act → Bool} (h : Performs env allowed e c m q)
    (hl : ∀ a, allowed a = true → more a = true) : Performs env more e c m q :=
  Program.Simulates.mono h fun _ _ ⟨a, ha, hg⟩ => ⟨a, hl a ha, hg⟩

theorem forM {g : β → Op ρ Unit} {I : Core → Prop} {l : List β} (hc : I c)
    (h : ∀ b ∈ l, ∀ c, I c → Performs env allowed e c (g b) fun _ => I) :
    Performs env allowed e c (l.forM g) fun _ => I := by
  have : (l.forM g).Simulates World.view (MachineStep env allowed) (fun w => I w.core)
      (fun _ w => I w.core) fun _ w => e w.view :=
    Program.Simulates.forM fun b hb w hw => h b hb w.core hw w rfl
  exact Program.Simulates.weaken this (fun w hw => by rw [hw]; exact hc) (fun _ _ h => h)
    fun _ _ h => h

/-- A loop whose turns leave the core alone. -/
theorem forM_same {g : β → Op ρ Unit} {l : List β}
    (h : ∀ b ∈ l, Performs env allowed e c (g b) fun _ c' => c' = c) :
    Performs env allowed e c (l.forM g) fun _ c' => c' = c :=
  forM rfl fun b hb _ hc => hc ▸ h b hb

theorem foldlM {g : α → β → Op ρ α} {I : Core → Prop} {l : List β} {a : α} (hc : I c)
    (h : ∀ a, ∀ b ∈ l, ∀ c, I c → Performs env allowed e c (g a b) fun _ => I) :
    Performs env allowed e c (l.foldlM g a) fun _ => I := by
  have : (l.foldlM g a).Simulates World.view (MachineStep env allowed) (fun w => I w.core)
      (fun _ w => I w.core) fun _ w => e w.view :=
    Program.Simulates.foldlM fun a b hb w hw => h a b hb w.core hw w rfl
  exact Program.Simulates.weaken this (fun w hw => by rw [hw]; exact hc) (fun _ _ h => h)
    fun _ _ h => h

/-! ### Updates -/

/-- An operation that cannot fail and that nothing of the view sees. -/
theorem quiet {m : Op ρ Unit} (h : ∀ w, ∃ w', m.exec w = (.ok (), w') ∧ w'.view = w.view) :
    Performs env allowed e c m fun _ c' => c' = c := by
  intro w hw
  obtain ⟨w', he, hv⟩ := h w
  rw [he]
  refine ⟨hv ▸ .refl, fun _ _ => ?_, fun _ he => by cases he⟩
  change w'.view.core = c
  rw [hv]
  exact hw

theorem updateImpl {f : Impl ρ → Impl ρ} (ha : ∀ s, (f s).attempts = s.attempts)
    (ht : ∀ s, (f s).trace = s.trace) (hs : ∀ s, (f s).storageFailed = s.storageFailed) :
    Performs env allowed e c (Op.updateImpl f) fun _ c' => c' = c :=
  quiet fun w => ⟨_, Op.exec_updateImpl f w, by simp [World.view, ha, ht, hs]⟩

theorem updateRollout {f : Rollout → Rollout} (h : ∀ r, (f r).core = r.core) :
    Performs env allowed e c (Op.updateRollout f) fun _ c' => c' = c :=
  quiet fun w => ⟨_, Op.exec_updateRollout f w, by simp [World.view, h]⟩

theorem updateStage {j : Nat} {f : StageRuntime → StageRuntime} (h : ∀ s, (f s).core = s.core) :
    Performs env allowed e c (Op.updateStage j f) fun _ c' => c' = c :=
  updateRollout fun r => core_modifyStage_same h r j

theorem updateTarget {j i : Nat} {f : TargetRuntime → TargetRuntime}
    (h : ∀ t, (f t).core = t.core) :
    Performs env allowed e c (Op.updateTarget j i f) fun _ c' => c' = c :=
  updateRollout fun r => core_modifyTarget_same h r j i

/-- A stage is replaced by one the core does not tell from it. -/
theorem setStage {j : Nat} {s : StageRuntime} (h : s.core = c.rollout.stageAt j) :
    Performs env allowed e c (Op.updateStage j fun _ => s) fun _ c' => c' = c := by
  intro w hw
  have hcore : (w.rollout.modifyStage j fun _ => s).core = w.rollout.core := by
    rw [Rollout.core_modifyStage (g := fun _ => s.core) (fun _ => rfl), h,
      ← World.rollout_core hw]
    conv_rhs => rw [← modifyStage_self w.rollout.core j]
    simp only [RolloutCore.modifyStage, RolloutCore.mk.injEq, true_and]
    apply List.ext_getElem?
    intro n
    rw [List.getElem?_modify, List.getElem?_modify]
    by_cases hn : j = n
    · subst hn
      cases hs : w.rollout.core.stages[j]? with
      | none => rfl
      | some s => simp [RolloutCore.stageAt, hs]
    · simp [hn]
  have hview : ((Op.updateStage j fun _ => s).exec w).2.view = w.view := by
    rw [Op.exec_updateStage]
    simp only [World.view, hcore]
  rw [Op.exec_updateStage] at hview ⊢
  refine ⟨hview ▸ .refl, fun _ _ => ?_, fun _ he => by cases he⟩
  rw [← hw]
  exact congrArg View.core hview

theorem updateReport {f : TickReport → TickReport} :
    Performs env allowed e c (Op.updateReport f) fun _ c' => c' = c :=
  quiet fun w => ⟨_, Op.exec_updateReport f w, rfl⟩

theorem updateCounters {f : OrchestratorCounters → OrchestratorCounters} :
    Performs env allowed e c (Op.updateCounters f) fun _ c' => c' = c :=
  quiet fun w => ⟨_, Op.exec_updateCounters f w, rfl⟩

theorem releaseOutstanding :
    Performs env allowed e c Op.releaseOutstanding fun _ c' => c' = c :=
  quiet fun w => ⟨_, Op.exec_releaseOutstanding w, rfl⟩

/-- A call whose answers are known to satisfy something. -/
theorem asked {f : ρ → α × ρ} {p : α → Prop} (h : ∀ s, p (f s).1) :
    Performs env allowed e c (Op.ask f) fun a c' => p a ∧ c' = c :=
  read_bind fun w _ => skip (updateImpl (fun _ => rfl) (fun _ => rfl) fun _ => rfl) fun _ =>
    pure ⟨h w.impl.outside, rfl⟩

theorem ask {f : ρ → α × ρ} : Performs env allowed e c (Op.ask f) fun _ c' => c' = c :=
  weaken (asked (p := fun _ => True) fun _ => trivial) fun _ _ h => h.2

/-! ### Acts -/

/-- An operation that is one act. -/
theorem act {m : Op ρ Unit} (a : Act) (hl : allowed a = true) (hw : a.isWrite = false)
    (he : ∀ w : World ρ, w.core = c → ∃ w', m.exec w = (.ok (), w') ∧ w'.view = a.run w.view)
    (hg : a.Guard env c) : Performs env allowed e c m fun _ c' => c' = a.after c := by
  intro w hc
  obtain ⟨w', hm, hv⟩ := he w hc
  rw [hm]
  refine ⟨.single (.act hl hw (show w.view.core = c from hc) hg hv), fun _ _ => ?_,
    fun _ he => by cases he⟩
  change w'.view.core = a.after c
  rw [hv, Act.core_run hw]
  exact congrArg (fun c => a.after c) hc

/-- A latched failure is a write; the core is known afterwards only where failing leaves it. -/
theorem latch {m : Op ρ Unit} {q : Core → Prop} (hm : Performs env allowed Fault c m fun _ => q)
    (hl : allowed .latch = true)
    (hq : ∀ w s, w.core = c → (m.exec w).1 = .error s → q (m.exec w).2.core) :
    Performs env allowed e c (Op.latch m) fun _ => q := by
  intro w hw
  obtain ⟨hreach, hok, hfault⟩ := hm w hw
  have herr := fun s => hq w s hw
  unfold Op.latch
  rw [Program.exec_tryCatch]
  cases hr : m.exec w with
  | mk r t =>
    rw [hr] at hreach hok herr hfault
    cases r with
    | ok a => exact ⟨hreach, fun _ _ => hok a rfl, fun _ he => by cases he⟩
    | error s =>
      refine ⟨hreach.tail ⟨.latch, hl, trivial, hfault s rfl, rfl⟩, fun _ _ => ?_,
        fun _ he => by cases he⟩
      exact herr s rfl

/-- A latched function, where nothing is asked of the core it leaves. -/
theorem latch_any {m : Op ρ Unit} {q : Unit → Core → Prop}
    (hm : Performs env allowed Fault c m q) (hl : allowed .latch = true) :
    Performs env allowed e c (Op.latch m) fun _ _ => True :=
  latch (hm.weaken fun _ _ _ => trivial) hl fun _ _ _ _ => trivial

/-! ### Targets and attempts -/

/-- Every assignment of a target's state is one act. -/
theorem enterTarget {j i : Nat} {state : TargetState} {record : Option EvidenceRecord}
    {f : TargetRuntime → TargetRuntime} (g : TargetCore → TargetCore)
    (hf : ∀ t, TargetRuntime.core { f t with state } = g t.core)
    (hl : allowed (.assign j i (g (c.rollout.targetAt j i)) record) = true)
    (hg : Assigns c j i (g (c.rollout.targetAt j i)) record) :
    Performs env allowed e c (Op.enterTarget j i state record f)
      fun _ c' => c' = (Act.assign j i (g (c.rollout.targetAt j i)) record).after c := by
  refine .act _ hl rfl (fun w hw => ⟨_, Op.exec_enterTarget j i state record f w, ?_⟩) hg
  have hr : c.rollout = w.rollout.core := by subst hw; rfl
  have hstate : (g (w.rollout.core.targetAt j i)).state = state := by
    rw [← Rollout.core_targetAt, ← hf]
    rfl
  rw [hr]
  simp only [World.view, Act.run, View.log, View.setRollout, View.setFailing, View.mk.injEq,
    and_true, Rollout.core_place, hstate]
  rw [Rollout.core_modifyTarget hf, ← modifyTarget_const]

/-- A change of a target that leaves its state alone is one act. -/
theorem alterTarget {j i : Nat} {f : TargetRuntime → TargetRuntime} (g : TargetCore → TargetCore)
    (hf : ∀ t, (f t).core = g t.core)
    (hl : allowed (.alter j i (g (c.rollout.targetAt j i))) = true)
    (hg : Alters c j i (g (c.rollout.targetAt j i))) :
    Performs env allowed e c (Op.updateTarget j i f)
      fun _ c' => c' = (Act.alter j i (g (c.rollout.targetAt j i))).after c := by
  refine .act _ hl rfl (fun w hw => ⟨_, Op.exec_updateTarget j i f w, ?_⟩) hg
  have hr : c.rollout = w.rollout.core := by subst hw; rfl
  rw [hr]
  simp only [World.view, Act.run, View.setRollout, View.mk.injEq, and_true]
  rw [Rollout.core_modifyTarget hf, ← modifyTarget_const]

/-- A write to an entry of the attempt table is one act. -/
theorem updateAttempt {id : AttemptId} {f : Attempt → Attempt} {old : Attempt}
    (hfound : c.attempts id = some old) (hl : allowed (.report id (f old)) = true)
    (hc : Continues old (f old)) (hfin : (f old).finished = true ∨ old.finished = false) :
    Performs env allowed e c (Op.updateAttempt id f)
      fun _ c' => c' = (Act.report id (f old)).after c := by
  refine .act (.report id (f old)) hl rfl (fun w hw => ⟨_, rfl, ?_⟩) ⟨old, hfound, hc, hfin⟩
  have hlook : w.impl.attempts.lookup id = some old := by subst hw; exact hfound
  exact updateAttempt_view w hlook

/-! ### Writes -/

theorem core_eq_of_writes {v v' : View}
    (h : Relation.ReflTransGen (MachineStep env Act.isWrite) v v') : v'.core = v.core := by
  induction h with
  | refl => rfl
  | tail _ hstep ih =>
    obtain ⟨a, ha, -, -, rfl⟩ := hstep
    rw [Act.core_run_write ha, ih]

/-- Whatever it returns, a function that only writes leaves the core alone. -/
theorem same (h : Performs env Act.isWrite e c m q) :
    Performs env Act.isWrite e c m fun _ c' => c' = c := fun w hw =>
  ⟨(h w hw).1, fun _ _ => (core_eq_of_writes (h w hw).1).trans hw, (h w hw).2.2⟩

theorem latch_write {m : Op ρ Unit} {q : Unit → Core → Prop}
    (h : Performs env Act.isWrite WriteFault c m q) :
    Performs env Act.isWrite e c (Op.latch m) fun _ c' => c' = c :=
  same (latch_any (h.fails fun _ => .write) rfl)

end Performs

/-! ## Invariants of the machine -/

/-- What every act preserves holds at every core a run reaches. -/
theorem invariant_of_acts {env : Env ρ} {allowed : Act → Bool} {I : Core → Prop}
    (hI : ∀ a c, allowed a = true → a.isWrite = false → a.Guard env c → I c → I (a.after c))
    {v v' : View} (h : Relation.ReflTransGen (MachineStep env allowed) v v') (hv : I v.core) :
    I v'.core := by
  induction h with
  | refl => exact hv
  | tail _ hstep ih =>
    obtain ⟨a, ha, hg, -, rfl⟩ := hstep
    cases hw : a.isWrite with
    | true => rw [Act.core_run_write hw]; exact ih
    | false => rw [Act.core_run hw]; exact hI a _ ha hw hg ih

theorem Performs.keep {env : Env ρ} {allowed : Act → Bool} {e : View → Prop} {c : Core}
    {m : Op ρ α} {q : α → Core → Prop} {I : Core → Prop}
    (hI : ∀ a c, allowed a = true → a.isWrite = false → a.Guard env c → I c → I (a.after c))
    (hc : I c) (h : Performs env allowed e c m q) :
    Performs env allowed e c m fun a c' => q a c' ∧ I c' := fun w hw =>
  ⟨(h w hw).1, fun a ha => ⟨(h w hw).2.1 a ha,
    invariant_of_acts hI (h w hw).1 (show I w.core from hw ▸ hc)⟩, (h w hw).2.2⟩

/-- The attempt table is keyed by the identifiers of its entries. -/
def Core.Keyed (c : Core) : Prop := ∀ id a, c.attempts id = some a → a.id = id

theorem Core.Keyed.update {c : Core} (h : c.Keyed) {id : AttemptId} {a : Option Attempt}
    (ha : ∀ b, a = some b → b.id = id) {c' : Core}
    (hc : c'.attempts = Function.update c.attempts id a) : c'.Keyed := by
  intro x b hb
  rw [hc] at hb
  by_cases hx : x = id
  · subst hx
    exact ha b (by simpa using hb)
  · rw [Function.update_of_ne hx] at hb
    exact h x b hb

theorem keyed_after {env : Env ρ} (a : Act) (c : Core) (hg : a.Guard env c) (h : c.Keyed) :
    (a.after c).Keyed := by
  cases a with
  | dispatch j i attempt step => exact h.update (by simp) rfl
  | apply record j i attempt =>
    have hid := h _ _ hg.found
    exact h.update (fun b hb => by cases hb; exact hid) rfl
  | report id new =>
    obtain ⟨old, hold, hc, -⟩ := hg
    have hid := hc.id.trans (h _ _ hold)
    exact h.update (fun b hb => by cases hb; exact hid) rfl
  | lose id =>
    refine h.update (fun b hb => ?_) rfl
    obtain ⟨old, hold, rfl⟩ := Option.map_eq_some_iff.1 hb
    have hid := h _ _ hold
    exact hid
  | cancel id =>
    refine h.update (fun b hb => ?_) rfl
    obtain ⟨old, hold, rfl⟩ := Option.map_eq_some_iff.1 hb
    have hid := h _ _ hold
    exact hid
  | evict id => exact h.update (by simp) rfl
  | rebuild j i attempt => exact h.update (by simp) rfl
  | gate j id kind =>
    rw [Act.after_gate]
    split <;> exact h
  | _ => exact h

/-- Acts that take the writes in. -/
class Writes (allowed : Act → Bool) : Prop where
  write : ∀ a, a.isWrite = true → allowed a = true

instance : Writes Act.isSettling := ⟨fun a => by cases a <;> simp [Act.isWrite, Act.isSettling]⟩

/-- What only writes, among other acts. -/
theorem Performs.wrote {env : Env ρ} {allowed : Act → Bool} {e : View → Prop} {c : Core}
    [Writes allowed] [Tolerates e] {m : Op ρ α} {q : α → Core → Prop}
    (h : Performs env Act.isWrite WriteFault c m q) : Performs env allowed e c m q :=
  (h.mono Writes.write).fails Tolerates.write

/-! ## One target at a time -/

/-- Only the target at `j`, `i` may differ, and not in its identity. -/
def Touched (c c' : Core) (j i : Nat) : Prop :=
  ∃ f : TargetCore → TargetCore, (∀ t, (f t).target = t.target)
    ∧ c'.rollout = c.rollout.modifyTarget j i f

theorem Touched.refl (c : Core) (j i : Nat) : Touched c c j i :=
  ⟨fun t => t, fun _ => rfl, (modifyTarget_self c.rollout j i).symm⟩

theorem Touched.of_eq {c c' : Core} {j i : Nat} (h : c'.rollout = c.rollout) : Touched c c' j i :=
  ⟨fun t => t, fun _ => rfl, h.trans (modifyTarget_self c.rollout j i).symm⟩

/-- An act on the target at `j`, `i` that keeps its identity. -/
theorem Touched.modify {c c' : Core} {j i : Nat} (g : TargetCore → TargetCore)
    (hg : ∀ t, (g t).target = t.target)
    (h : c'.rollout = c.rollout.modifyTarget j i fun _ => g (c.rollout.targetAt j i)) :
    Touched c c' j i :=
  ⟨g, hg, h.trans (modifyTarget_const ..)⟩

section Touched

variable {c c' c'' : Core} {j i : Nat}

theorem Touched.trans (h : Touched c c' j i) (h' : Touched c' c'' j i) : Touched c c'' j i := by
  obtain ⟨f, hf, h⟩ := h
  obtain ⟨g, hg, h'⟩ := h'
  refine ⟨fun t => g (f t), fun t => (hg _).trans (hf t), ?_⟩
  rw [h', h, RolloutCore.modifyTarget, RolloutCore.modifyTarget,
    RolloutCore.modifyStage_modifyStage]
  simp only [List.modify_modify_eq]
  rfl

theorem Touched.stageAt (h : Touched c c' j i) {α : Type} (g : StageCore → α)
    (hg : ∀ s targets, g { s with targets } = g s) (k : Nat) :
    g (c'.rollout.stageAt k) = g (c.rollout.stageAt k) := by
  obtain ⟨f, -, h⟩ := h
  rw [h, RolloutCore.modifyTarget, RolloutCore.stageAt_modifyStage]
  split
  · exact hg ..
  · rfl

theorem Touched.cursor (h : Touched c c' j i) : c'.rollout.cursor = c.rollout.cursor := by
  obtain ⟨f, -, h⟩ := h
  rw [h]
  rfl

theorem Touched.state (h : Touched c c' j i) : c'.rollout.state = c.rollout.state := by
  obtain ⟨f, -, h⟩ := h
  rw [h]
  rfl

theorem Touched.length (h : Touched c c' j i) :
    c'.rollout.stages.length = c.rollout.stages.length := by
  obtain ⟨f, -, h⟩ := h
  rw [h]
  exact List.length_modify ..

theorem Touched.ids (h : Touched c c' j i) (k : Nat) :
    (c'.rollout.stageAt k).targets.map TargetCore.target
      = (c.rollout.stageAt k).targets.map TargetCore.target := by
  obtain ⟨f, hf, h⟩ := h
  rw [h, RolloutCore.modifyTarget, RolloutCore.stageAt_modifyStage]
  split
  · exact map_modify_same hf _ i
  · rfl

theorem Touched.sorted (h : Touched c c' j i) {k : Nat} (hs : (c.rollout.stageAt k).Sorted) :
    (c'.rollout.stageAt k).Sorted := by
  rw [StageCore.Sorted, h.ids]
  exact hs

theorem Touched.findTarget (h : Touched c c' j i) (k : Nat) (id : TargetId) :
    (c'.rollout.stageAt k).findTarget id = (c.rollout.stageAt k).findTarget id :=
  StageCore.findTarget_congr (h.ids k) id

theorem Touched.targetAt_of_ne (h : Touched c c' j i) {l : Nat} (hl : l ≠ i) :
    c'.rollout.targetAt j l = c.rollout.targetAt j l := by
  obtain ⟨f, -, h⟩ := h
  rw [h, RolloutCore.targetAt_modifyTarget, if_neg fun hand => hl hand.1.2.symm]

theorem countP_modify_le {α : Type} (p : α → Bool) (f : α → α) (l : List α) (n : Nat) :
    (l.modify n f).countP p ≤ l.countP p + 1 := by
  induction l generalizing n with
  | nil => simp
  | cons a l ih =>
    cases n with
    | zero =>
      simp only [List.modify_zero_cons, List.countP_cons]
      split <;> split <;> omega
    | succ n =>
      simp only [List.modify_succ_cons, List.countP_cons]
      have := ih n
      omega

theorem sum_modify_le {α : Type} {g : α → Nat} {f : α → α} (h : ∀ a, g (f a) ≤ g a + 1)
    (l : List α) (n : Nat) : ((l.modify n f).map g).sum ≤ (l.map g).sum + 1 := by
  induction l generalizing n with
  | nil => simp
  | cons a l ih =>
    cases n with
    | zero =>
      have := h a
      simp only [List.modify_zero_cons, List.map_cons, List.sum_cons]
      omega
    | succ n =>
      have := ih n
      simp only [List.modify_succ_cons, List.map_cons, List.sum_cons]
      omega

/-- One target makes a difference of at most one. -/
theorem Touched.stage_changing (h : Touched c c' j i) (k : Nat) :
    (c'.rollout.stageAt k).changing ≤ (c.rollout.stageAt k).changing + 1 := by
  obtain ⟨f, -, h⟩ := h
  rw [h, RolloutCore.modifyTarget, RolloutCore.stageAt_modifyStage]
  split
  · exact countP_modify_le ..
  · omega

theorem Touched.changing (h : Touched c c' j i) :
    c'.rollout.changing ≤ c.rollout.changing + 1 := by
  obtain ⟨f, -, h⟩ := h
  rw [h]
  exact sum_modify_le (g := StageCore.changing)
    (f := fun s => { s with targets := s.targets.modify i f }) (fun s => countP_modify_le ..)
    c.rollout.stages j

end Touched

/-! ## Journal writes -/

/-- One append is one event, whatever the device answers. -/
theorem journalAppend_view (limits : RuntimeLimits) (device : JournalDevice ρ)
    (entry : JournalEntry) (w : World ρ) : ∃ status w' landed,
    (journalAppend limits device entry).exec w = (.ok status, w')
      ∧ w'.view = w.view.log (.appended entry w.impl.controllerEpoch status.isOk landed)
      ∧ (landed = true → entry.payload.length ≤ limits.maxJournalRecordBytes.toNat) := by
  unfold journalAppend
  simp only [Program.exec_bind, Op.exec_read]
  split
  · exact ⟨_, _, false, rfl, rfl, fun h => by cases h⟩
  · split
    · exact ⟨_, _, false, rfl, rfl, fun h => by cases h⟩
    · next hfits =>
      simp only [Op.ask, Program.exec_bind, Op.exec_read, Op.exec_updateImpl, Op.exec_log,
        Program.exec_pure]
      split <;> exact ⟨_, _, _, rfl, rfl, fun _ => Nat.le_of_not_lt hfits⟩

theorem appendJournal_performs {env : Env ρ} {c : Core} {entry : JournalEntry}
    (h : entry.Describes c.rollout) :
    Performs env Act.isWrite WriteFault c (appendJournal env entry) fun _ c' => c' = c := by
  unfold appendJournal
  cases env.journal with
  | none => exact .pure rfl
  | some device =>
    intro w hw
    rw [Program.exec_bind, Op.exec_read]
    cases hs : w.impl.storageFailed with
    | true => exact ⟨.refl, fun _ he => (by cases he), fun _ _ => .storage hs⟩
    | false =>
      obtain ⟨status, w', landed, hx, hv, hfits⟩ := journalAppend_view env.limits device entry w
      have hc : w'.core = c := by
        change w'.view.core = c
        rw [hv, ← hw]
        exact Act.core_run_write (a := .append entry w.impl.controllerEpoch _ landed) rfl _
      have hstep : MachineStep env Act.isWrite w.view w'.view :=
        ⟨.append entry w.impl.controllerEpoch _ landed, rfl, hfits, ⟨.inl hs, by
          subst hw
          exact h⟩, hv⟩
      simp only [Bool.false_eq_true, if_false, Program.exec_bind, hx]
      split
      · exact ⟨.single hstep, fun _ _ => hc, fun _ he => by cases he⟩
      · next hfailed =>
        have hlogged : WriteFault w'.view := by
          refine .append entry w.impl.controllerEpoch landed ?_
          rw [hv, (Bool.not_eq_true _).mp hfailed]
          exact List.mem_append_right _ (List.mem_singleton_self _)
        refine ⟨(Relation.ReflTransGen.single hstep).tail ⟨.latch, rfl, trivial, .write hlogged,
          rfl⟩, fun _ he => (by cases he), fun _ _ => .storage rfl⟩

theorem persistRollout_performs {env : Env ρ} {c : Core} :
    Performs env Act.isWrite WriteFault c (persistRollout env) fun _ c' => c' = c := by
  unfold persistRollout
  refine .get_bind fun w hw => ?_
  dsimp only
  split
  · intro w' hw'
    refine ⟨.single ⟨.append (.rolloutSnapshot w.rollout) w.impl.controllerEpoch false false,
      rfl, fun h => (by cases h), ⟨.inr ⟨rfl, rfl⟩, ?_⟩, rfl⟩, fun _ he => (by cases he),
      fun _ _ => ?_⟩
    · exact congrArg Core.rollout (hw.trans hw'.symm)
    · exact .append (.rolloutSnapshot w.rollout) w.impl.controllerEpoch false
        (List.mem_append_right _ (List.mem_singleton_self _))
  · refine .when (I := fun c' => c' = c) (fun _ => ?_) (fun _ => rfl) fun c' hc => ?_
    · exact appendJournal_performs (by subst hw; rfl)
    · subst hc
      exact .updateImpl (fun _ => rfl) (fun _ => rfl) fun _ => rfl

theorem countTransition_performs {env : Env ρ} {c : Core} {counted : Bool} :
    Performs env Act.isWrite WriteFault c (countTransition counted) fun _ c' => c' = c := by
  unfold countTransition
  split
  · exact .updateReport
  · exact .pure rfl

theorem countDecision_performs {env : Env ρ} {c : Core} :
    Performs env Act.isWrite WriteFault c countDecision fun _ c' => c' = c := .updateReport

theorem commit_performs {env : Env ρ} {c : Core} {now : Timestamp}
    {fill : World ρ → DecisionBuilder} :
    Performs env Act.isWrite WriteFault c (commit env now fill) fun _ c' => c' = c := by
  unfold commit commitDecision
  refine .read_bind fun w _ => .read_bind fun w _ => ?_
  refine .skip (.updateImpl (fun _ => rfl) (fun _ => rfl) fun _ => rfl) fun _ => ?_
  refine .skip (.updateRollout fun _ => rfl) fun _ => ?_
  exact .latch_write (appendJournal_performs trivial)

theorem noteIdempotencyKey_performs {env : Env ρ} {c : Core} {key : Digest256} :
    Performs env Act.isWrite WriteFault c (noteIdempotencyKey env key) fun _ c' => c' = c := by
  unfold noteIdempotencyKey
  refine .updateImpl (fun s => ?_) (fun s => ?_) fun s => ?_ <;> split <;> rfl

/-! ## Transitions -/

/-- The core a transition of the rollout leaves. -/
def Core.enter (c : Core) (next : RolloutState) : Core :=
  if c.rollout.state = next then c else (Act.enter next).after c

@[simp] theorem Core.enter_state (c : Core) (next : RolloutState) :
    (c.enter next).rollout.state = next := by
  unfold Core.enter
  split
  · assumption
  · rfl

@[simp] theorem Core.enter_stages (c : Core) (next : RolloutState) :
    (c.enter next).rollout.stages = c.rollout.stages := by
  unfold Core.enter
  split <;> rfl

@[simp] theorem Core.enter_failing (c : Core) (next : RolloutState) :
    (c.enter next).failing = c.failing := by
  unfold Core.enter
  split <;> rfl

section Transitions

variable {env : Env ρ} {allowed : Act → Bool} {e : View → Prop} {c : Core} {now : Timestamp}
  {counted : Bool}

theorem transition_performs [Writes allowed] [Tolerates e] {next : RolloutState} {reason : Bytes}
    (hl : allowed (.enter next) = true)
    (h : c.rollout.state = next ∨ c.rollout.state.legalTransition next = true ∨ ∀ v, e v)
    (hp : next = .paused → c.rollout.resumeState.canPause = true := by simp) :
    Performs env allowed e c (transition env next reason now counted)
      fun _ c' => c' = c.enter next := by
  unfold transition
  refine .read_bind fun w hc => ?_
  rw [World.state_core hc]
  split
  · next heq => exact .pure (by rw [Core.enter, if_pos heq])
  next hne =>
    split
    · next hlegal =>
      refine .bind (q := fun _ c' => c' = c.enter next) ?_ fun _ c' h => ?_
      · rw [Core.enter, if_neg hne]
        exact .act (.enter next) hl rfl (fun w _ => ⟨_, rfl, rfl⟩) ⟨hlegal, hp⟩
      · subst h
        exact .skip (countTransition_performs.wrote) fun _ => persistRollout_performs.wrote
    · next hillegal =>
      refine .throw fun v _ => ?_
      rcases h with h | h | h
      · exact absurd h hne
      · exact absurd h hillegal
      · exact h v

/-- The core a transition of a stage leaves. -/
def Core.enterStage (c : Core) (j : Nat) (next : StageState) : Core :=
  if (c.rollout.stageAt j).state = next then c else (Act.stage j next).after c

theorem Core.enterStage_stageAt {j : Nat} (next : StageState) (hj : j < c.rollout.stages.length) :
    (c.enterStage j next).rollout.stageAt j = { c.rollout.stageAt j with state := next } := by
  unfold Core.enterStage
  split
  · next h => rw [← h]
  · exact (RolloutCore.stageAt_modifyStage ..).trans (if_pos ⟨rfl, hj⟩)

@[simp] theorem Core.enterStage_length (j : Nat) (next : StageState) :
    (c.enterStage j next).rollout.stages.length = c.rollout.stages.length := by
  unfold Core.enterStage
  split
  · rfl
  · exact List.length_modify ..

@[simp] theorem Core.enterStage_state (j : Nat) (next : StageState) :
    (c.enterStage j next).rollout.state = c.rollout.state := by
  unfold Core.enterStage
  split <;> rfl

@[simp] theorem Core.enterStage_cursor (j : Nat) (next : StageState) :
    (c.enterStage j next).rollout.cursor = c.rollout.cursor := by
  unfold Core.enterStage
  split <;> rfl

@[simp] theorem Core.enterStage_failing (j : Nat) (next : StageState) :
    (c.enterStage j next).failing = c.failing := by
  unfold Core.enterStage
  split <;> rfl

theorem Core.enterStage_calm (j : Nat) (next : StageState) :
    (c.enterStage j next).Calm ↔ c.Calm := by
  unfold Core.enterStage
  split
  · rfl
  · simp [Core.Calm, Act.after, Act.run, View.log, View.setRollout, RolloutCore.modifyStage]

theorem enterStage_view (j : Nat) (next : StageState) (w : World ρ) :
    ((Op.enterStage j next now).exec w).2.view = (Act.stage j next).run w.view := by
  have hs : (w.rollout.stageAt j).core = w.rollout.core.stageAt j := Rollout.core_stageAt ..
  have hid := congrArg StageCore.id hs
  have hpolicy := congrArg StageCore.policy hs
  have hcore : (w.rollout.modifyStage j fun s => s.enter next now).core
      = w.rollout.core.modifyStage j fun s => { s with state := next } :=
    Rollout.core_modifyStage (fun s => rfl) w.rollout j
  simp only [World.view, Act.run, View.log, View.setRollout, View.mk.injEq, ← hid, ← hpolicy]
  exact ⟨hcore, rfl, rfl, rfl, rfl⟩

theorem stageTransition_performs [Writes allowed] [Tolerates e] {j : Nat} {next : StageState}
    (hl : allowed (.stage j next) = true)
    (h : (c.rollout.stageAt j).state = next
      ∨ (c.rollout.stageAt j).state.legalTransition next = true ∨ ∀ v, e v)
    (hentry : (c.rollout.stageAt j).state.legalTransition next = true → StageEntry env c j next) :
    Performs env allowed e c (stageTransition env j next now counted)
      fun _ c' => c' = c.enterStage j next
        ∧ ((c.rollout.stageAt j).state = next
          ∨ (c.rollout.stageAt j).state.legalTransition next = true) := by
  unfold stageTransition
  refine .read_bind fun w hc => ?_
  rw [World.stageState_core hc]
  split
  · next heq => exact .pure ⟨by rw [Core.enterStage, if_pos heq], .inl heq⟩
  next hne =>
    split
    · next hlegal =>
      refine .bind (q := fun _ c' => c' = c.enterStage j next) ?_ fun _ c' h => ?_
      · rw [Core.enterStage, if_neg hne]
        exact .act (.stage j next) hl rfl (fun w _ => ⟨_, rfl, enterStage_view j next w⟩)
          ⟨hlegal, hentry hlegal⟩
      · subst h
        refine .skip (countTransition_performs.wrote) fun _ => ?_
        exact (persistRollout_performs.wrote).weaken fun _ _ hc => ⟨hc, .inr hlegal⟩
    · next hillegal =>
      refine .throw fun v _ => ?_
      rcases h with h | h | h
      · exact absurd h hne
      · exact absurd h hillegal
      · exact h v

end Transitions

end RolloutFabric
