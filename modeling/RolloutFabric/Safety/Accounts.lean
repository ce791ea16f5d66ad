/-
The accounts of a system of rollouts: what each stage keeps, given the trace, while the state
machine works on one rollout at a time. Only a dispatch counts, and only the canary check clears.
-/
import RolloutFabric.Safety.Tallies

namespace RolloutFabric

open Program

variable {ρ : Type}

/-! ## Steps that count -/

namespace TargetTally

/-- The target an attempt was dispatched for. -/
def dispatch (t : TargetTally) (id : AttemptId) (step : UInt32) : TargetTally :=
  { t with
    state := if step = 0 then .dispatched else .rollingBack
    currentAttempt := id
    attemptsCreated := t.attemptsCreated + 1 }

end TargetTally

namespace StageTally

def dispatch (s : StageTally) (i : Nat) (t : TargetTally) (id : AttemptId) (step : UInt32) :
    StageTally :=
  { s with
    dispatchedTotal := s.dispatchedTotal + 1
    targets := s.targets.set i (t.dispatch id step) }

def clear (s : StageTally) : StageTally := { s with canaryCleared := true }

/-- The targets of the stage that were attempted. -/
def attempted (s : StageTally) : Nat := s.targets.countP fun t => decide (0 < t.attemptsCreated)

/-- The canary of the stage still holds new targets back. -/
def Watched (s : StageTally) : Prop := s.canaryCleared = false ∧ 0 < s.policy.canarySize

/-- A stage nothing was dispatched for. -/
structure Blank (s : StageTally) : Prop where
  sorted : s.Sorted
  uncleared : s.canaryCleared = false
  targets : ∀ t ∈ s.targets, t.state = .pending ∧ t.currentAttempt = .nil ∧ t.attemptsCreated = 0

end StageTally

/-- `run_stage` clears the canary of the stage as it is. -/
def StageRuntime.clears (env : Env ρ) (stage : StageRuntime) (now : Timestamp) : Bool :=
  !stage.canaryCleared && decide (stage.policy.canarySize ≠ 0)
    && !decide (stage.dispatchedTotal < stage.policy.canarySize) && canaryOk env stage now

def Event.isWeighed : Event → Bool
  | .weighed .. => true
  | _ => false

/-- The stage has an attempt left for the target: forward, within the canary, or to compensate it;
the target is as it was in a stage that is `D`. -/
structure Affords (D : StageTally → Prop) (s : StageTally) (i : Nat) (t : TargetTally)
    (step : UInt32) : Prop where
  found : s.targets[i]? = some t
  origin : ∃ s₀, D s₀ ∧ s₀.policy = s.policy ∧ s₀.canaryCleared = s.canaryCleared ∧ t ∈ s₀.targets
  kind : step = 0 ∧ t.state = .pending
      ∧ (t.attemptsCreated = 0 → s.Watched → s.attempted < s.policy.canarySize.toNat)
    ∨ t.state = .rollingBack ∧ (step = 0 → 2 ^ 32 ≤ s.policy.compensationActions.length)

/-- The attempt is dispatched for the target of the stage. -/
structure DispatchFor (D : StageTally → Prop) (r : RolloutId) (g : GenerationId) (s : StageTally)
    (i : Nat) (t : TargetTally) (a : Attempt) (step : UInt32) : Prop extends
    Affords D s i t step where
  rollout : a.rollout = r
  generation : a.generation = g
  stage : a.stage = s.id
  target : a.target = t.target

/-! ## What is kept -/

/-- What every stage keeps, given its rollout, its generation and the trace. -/
abbrev StageLaw := RolloutId → GenerationId → StageTally → List Event → Prop

/-- The law `P` is kept by every step, where the stages are `D` before anything is dispatched, and
every event is `E`; a strict system keeps its rollouts and their stages apart. -/
structure Lawful (env : Env ρ) (strict : Prop) (P : StageLaw) (D : StageTally → Prop)
    (E : Event → Prop) : Prop where
  sorted : ∀ {r g s t}, P r g s t → s.Sorted
  log : ∀ {r g s t e}, P r g s t → e.isDispatched = false → P r g s (t ++ [e])
  other : ∀ {r g s t a step}, P r g s t → (strict → a.rollout ≠ r ∨ a.stage ≠ s.id) →
    P r g s (t ++ [.dispatched a step])
  settle : ∀ {r g s t i x x'}, P r g s t → s.targets[i]? = some x → x.Follows x' →
    (strict → x.Retries s.policy x') → P r g (s.setTarget i x') t
  dispatch : ∀ {r g s t i x a step}, P r g s t → DispatchFor D r g s i x a step →
    P r g (s.dispatch i x a.id step) (t ++ [.dispatched a step])
  clear : ∀ {r g t} {stage : StageRuntime} {now}, P r g stage.tally t → D stage.tally →
    .weighed r g stage now ∈ t → stage.clears env now = true → P r g stage.tally.clear t
  blank : ∀ {r g s t}, s.Blank →
    (strict → ∀ a step, .dispatched a step ∈ t → a.rollout ≠ r ∨ a.generation ≠ g) → P r g s t
  plain : ∀ {e}, e.isWeighed = false → E e
  weighed : ∀ {r g now} {stage : StageRuntime}, D stage.tally → E (.weighed r g stage now)
  nothing : D default
  dSettle : ∀ {s i x x'}, D s → s.targets[i]? = some x → x.Follows x' → D (s.setTarget i x')
  dClear : ∀ {s}, D s → D s.clear

/-- The stages of the rollout keep the law. -/
structure RolloutTally.Accounted (strict : Prop) (P : StageLaw) (r : RolloutTally)
    (t : List Event) : Prop where
  stages : ∀ s ∈ r.stages, P r.id r.generation s t
  ids : strict → (r.stages.map StageTally.id).Nodup

/-- The rollout of a snapshot keeps the law at the time it is written. -/
def Booked (strict : Prop) (P : StageLaw) (E : Event → Prop) (t : List Event) (e : Event) : Prop :=
  (∀ r, e.Lands r → r.tally.Accounted strict P t) ∧ E e

/-- One rollout is worked on, beside the others. -/
structure Books (strict : Prop) (P : StageLaw) (E : Event → Prop) (rest : List RolloutTally)
    (l : Tally) : Prop where
  own : l.rollout.Accounted strict P l.trace
  others : ∀ r ∈ rest, r.Accounted strict P l.trace
  apart : strict → ∀ r ∈ rest, r.id ≠ l.rollout.id
  recorded : Each (Booked strict P E) l.trace

theorem Tally.Logs.plain {l : Tally} {e : Event} (h : l.Logs e) :
    e.isDispatched = false ∧ e.isWeighed = false := by
  cases e <;> first | exact ⟨rfl, rfl⟩ | exact absurd h id

/-- Of what is logged, a snapshot of the rollout lands as it is. -/
theorem Tally.Logs.lands {l : Tally} {e : Event} (h : l.Logs e) {r : Rollout} (he : e.Lands r) :
    r.tally = l.rollout := by
  cases e with
  | appended entry epoch ok landed =>
    cases landed with
    | false => cases he
    | true =>
      change entry = .rolloutSnapshot r at he
      subst he
      exact h
  | rewritten => cases h
  | _ => cases he

/-- The stages of a rollout after one was changed. -/
theorem RolloutTally.mem_modifyStage {r : RolloutTally} {j : Nat} {f : StageTally → StageTally}
    {x : StageTally} (h : x ∈ (r.modifyStage j f).stages) :
    (∃ s, r.stages[j]? = some s ∧ f s = x) ∨ ∃ k, k ≠ j ∧ r.stages[k]? = some x := by
  obtain ⟨k, hk⟩ := List.mem_iff_getElem?.1 h
  simp only [modifyStage, List.getElem?_modify] at hk
  by_cases hkj : j = k
  · subst hkj
    simpa using Or.inl hk
  · simp only [hkj, if_false, Option.map_eq_map, Option.map_id_fun', id_eq] at hk
    exact .inr ⟨k, Ne.symm hkj, hk⟩

section

variable {env : Env ρ} {strict : Prop} {P : StageLaw} {D : StageTally → Prop} {E : Event → Prop}
  {rest : List RolloutTally} {l : Tally} {j i : Nat} {now : Timestamp}

theorem RolloutTally.Accounted.log {r : RolloutTally} {t : List Event} {e : Event}
    (hK : Lawful env strict P D E) (h : r.Accounted strict P t) (he : e.isDispatched = false) :
    r.Accounted strict P (t ++ [e]) :=
  ⟨fun s hs => hK.log (h.stages s hs) he, h.ids⟩

/-- A stage is replaced by one of the same identifier. -/
theorem RolloutTally.Accounted.modify {r : RolloutTally} {t t' : List Event} {s : StageTally}
    {f : StageTally → StageTally} (h : r.Accounted strict P t) (hs : r.stages[j]? = some s)
    (hid : (f s).id = s.id) (hown : P r.id r.generation (f s) t')
    (hrest : ∀ k x, k ≠ j → r.stages[k]? = some x → P r.id r.generation x t') :
    (r.modifyStage j f).Accounted strict P t' where
  stages := by
    intro x hx
    rcases mem_modifyStage hx with ⟨s', hs', rfl⟩ | ⟨k, hk, hx⟩
    · rw [hs] at hs'
      cases hs'
      exact hown
    · exact hrest k x hk hx
  ids := by
    intro hstrict
    have hsame : (r.modifyStage j f).stages.map StageTally.id = r.stages.map StageTally.id := by
      apply List.ext_getElem?
      intro n
      simp only [modifyStage, List.getElem?_map, List.getElem?_modify]
      by_cases hn : j = n
      · subst hn
        simp [hs, hid]
      · simp [hn]
    rw [hsame]
    exact h.ids hstrict

/-- The accounts are kept by whatever dispatches nothing. -/
theorem books_settled (hK : Lawful env strict P D E) : Settled strict (Books strict P E rest) where
  log := by
    intro l e he h
    exact ⟨h.own.log hK he.plain.1, fun r hr => (h.others r hr).log hK he.plain.1, h.apart,
      h.recorded.note ⟨fun r hl => he.lands hl ▸ h.own, hK.plain he.plain.2⟩⟩
  settle := by
    intro l j i p x x' ⟨s, hs, hp, hx⟩ hfollows hretries h
    refine ⟨?_, h.others, h.apart, h.recorded⟩
    subst hp
    refine h.own.modify hs rfl ?_ fun k y _ hy => h.own.stages y (List.mem_of_getElem? hy)
    exact hK.settle (h.own.stages s (List.mem_of_getElem? hs)) hx hfollows hretries

/-- Nothing was dispatched yet. -/
def Early (D : StageTally → Prop) (I : Tally → Prop) (l : Tally) : Prop :=
  I l ∧ ∀ s ∈ l.rollout.stages, D s

theorem early_settled (hK : Lawful env strict P D E) :
    Settled strict (Early D (Books strict P E rest)) where
  log := fun l e he h => ⟨(books_settled hK).log l e he h.1, h.2⟩
  settle := by
    intro l j i p x x' hshows hfollows hretries h
    refine ⟨(books_settled hK).settle l j i p x x' hshows hfollows hretries h.1, fun y hy => ?_⟩
    obtain ⟨s, hs, -, hx⟩ := hshows
    rcases RolloutTally.mem_modifyStage hy with ⟨s', hs', rfl⟩ | ⟨k, -, hy⟩
    · rw [hs] at hs'
      cases hs'
      exact hK.dSettle (h.2 s (List.mem_of_getElem? hs)) hx hfollows
    · exact h.2 y (List.mem_of_getElem? hy)

/-! ## The canary -/

theorem Early.stageAt {I : Tally → Prop} {w : World ρ} (hK : Lawful env strict P D E)
    (h : Early D I w.tally) (j : Nat) : D (w.rollout.stageAt j).tally := by
  by_cases hj : j < w.rollout.stages.length
  · refine h.2 _ (List.mem_map_of_mem ?_)
    simp [Rollout.stageAt, hj]
  · have hnone : w.rollout.stageAt j = default := by
      simp [Rollout.stageAt, Nat.le_of_not_lt hj]
    rw [hnone]
    exact hK.nothing

/-- The look at the gate is logged. -/
theorem weigh_early {w : World ρ} (hK : Lawful env strict P D E)
    (hw : Early D (Books strict P E rest) w.tally) :
    Triple (fun s => s = w) (weigh j now)
      (fun _ w' => Early D (Books strict P E rest) w'.tally ∧ w'.rollout = w.rollout
        ∧ .weighed w.rollout.id w.rollout.generation (w.rollout.stageAt j) now ∈ w'.impl.trace)
      fun _ w => Early D (Books strict P E rest) w.tally := by
  unfold weigh
  refine triple_read_bind fun w' h => .modify fun _ h' => ?_
  subst h h'
  refine ⟨⟨⟨hw.1.own.log hK rfl, fun r hr => (hw.1.others r hr).log hK rfl, hw.1.apart, ?_⟩, hw.2⟩,
    rfl, List.mem_append_right _ (List.mem_singleton_self _)⟩
  exact hw.1.recorded.note ⟨fun _ hl => (by cases hl), hK.weighed (hw.stageAt hK j)⟩

/-- The canary of a stage is cleared as it was found. -/
theorem Early.clear {w : World ρ} (hK : Lawful env strict P D E)
    (h : Early D (Books strict P E rest) w.tally)
    (hlogged : .weighed w.rollout.id w.rollout.generation (w.rollout.stageAt j) now ∈ w.impl.trace)
    (hclears : (w.rollout.stageAt j).clears env now = true) :
    Early D (Books strict P E rest)
      { w.tally with rollout := w.tally.rollout.modifyStage j StageTally.clear } := by
  by_cases hj : j < w.rollout.stages.length
  · have hs : w.tally.rollout.stages[j]? = some (w.rollout.stageAt j).tally :=
      Rollout.tally_stageAt hj
    have hmem := List.mem_of_getElem? hs
    refine ⟨⟨h.1.own.modify hs rfl ?_ fun k x _ hx => h.1.own.stages x (List.mem_of_getElem? hx),
      h.1.others, h.1.apart, h.1.recorded⟩, fun x hx => ?_⟩
    · exact hK.clear (h.1.own.stages _ hmem) (h.2 _ hmem) hlogged hclears
    · rcases RolloutTally.mem_modifyStage hx with ⟨s, hs', rfl⟩ | ⟨k, -, hx⟩
      · exact hK.dClear (h.2 s (List.mem_of_getElem? hs'))
      · exact h.2 x (List.mem_of_getElem? hx)
  · have hsame : w.tally.rollout.modifyStage j StageTally.clear = w.tally.rollout := by
      have hlen : w.tally.rollout.stages.length ≤ j := by
        simpa [World.tally, Rollout.tally] using Nat.le_of_not_lt hj
      rw [RolloutTally.modifyStage, List.modify_eq_self hlen]
    rw [hsame]
    exact h

theorem clearCanary_early (hK : Lawful env strict P D E) :
    Upholds (Early D (Books strict P E rest)) (clearCanary env j now) := by
  have hI := @early_settled _ _ _ _ _ _ rest hK
  unfold clearCanary
  refine Triple.of_each fun w hw => Triple.bind (weigh_early hK hw) fun _ => ?_
  refine Triple.of_each fun w₁ h => triple_read_bind fun w' hw' => ?_
  subst hw'
  obtain ⟨hearly, hroll, hlogged⟩ := h
  rw [← hroll] at hlogged
  split
  · exact Upholds.here (.pure _) hearly
  next hopen =>
  split
  · next hok =>
    refine Triple.bind (Q := fun _ (w : World ρ) => Early D (Books strict P E rest) w.tally)
      (.modify fun w hw => ?_) fun _ => ?_
    · subst hw
      show Early D (Books strict P E rest)
        ⟨(w.rollout.modifyStage j fun s => { s with canaryCleared := true }).tally, w.impl.trace⟩
      rw [Rollout.tally_modifyStage_comm (g := StageTally.clear) fun _ => rfl]
      refine hearly.clear hK hlogged ?_
      rw [not_or, not_or] at hopen
      simp [StageRuntime.clears, hopen, hok]
    · exact .bind (commit_upholds hI.toLogged) fun _ =>
        .bind countDecision_upholds fun _ => .pure fun _ h => h
  split
  · refine Upholds.here (.bind (commit_upholds hI.toLogged) fun _ => ?_) hearly
    refine .bind countDecision_upholds fun _ => .bind (failStage_upholds hI) fun _ => .pure _
  · exact Upholds.here (.pure _) hearly

/-! ## Dispatches -/

def Tally.dispatch (l : Tally) (j i : Nat) (t : TargetTally) (a : Attempt) (step : UInt32) :
    Tally where
  rollout := l.rollout.modifyStage j fun s => s.dispatch i t a.id step
  trace := l.trace ++ [.dispatched a step]

/-- The other stages, and the other rollouts, are not dispatched for. -/
theorem Books.dispatch {s : StageTally} {t : TargetTally} {a : Attempt} {step : UInt32}
    (hK : Lawful env strict P D E) (h : Books strict P E rest l)
    (hs : l.rollout.stages[j]? = some s)
    (ha : DispatchFor D l.rollout.id l.rollout.generation s i t a step) :
    Books strict P E rest (l.dispatch j i t a step) where
  own := by
    have hown := h.own.stages s (List.mem_of_getElem? hs)
    refine h.own.modify hs rfl (hK.dispatch hown ha) fun k x hk hx => ?_
    refine hK.other (h.own.stages x (List.mem_of_getElem? hx)) fun hstrict => .inr fun hsame => ?_
    have hids := h.own.ids hstrict
    have hlt := (List.getElem?_eq_some_iff.1 hs).1
    refine hk ((List.getElem?_inj (j := k) (by simpa using hlt) hids).1 ?_).symm
    simp [hs, hx, ← hsame, ha.stage]
  others := fun r hr => ⟨fun x hx => hK.other ((h.others r hr).stages x hx) fun hstrict =>
    .inl fun hsame => h.apart hstrict r hr (hsame.symm.trans ha.rollout), (h.others r hr).ids⟩
  apart := h.apart
  recorded := h.recorded.note ⟨fun _ hl => (by cases hl), hK.plain rfl⟩

/-- What an accepted attempt does to the tally. -/
theorem accept_exec {w : World ρ} {a : Attempt} {step : UInt32} :
    ((Op.accept env j i a step).exec w).1 = .ok ()
      ∧ ((Op.accept env j i a step).exec w).2.tally
        = (w.tally.dispatch j i (w.rollout.targetAt j i).tally a step).log
          (.entered (w.rollout.place j i) (if step = 0 then .dispatched else .rollingBack) none) := by
  refine ⟨rfl, ?_⟩
  have hroll : ((Op.accept env j i a step).exec w).2.rollout.tally
      = w.rollout.tally.modifyStage j fun s => s.dispatch i (w.rollout.targetAt j i).tally a.id step := by
    show ((w.rollout.modifyTarget j i _).modifyStage j _).tally = _
    rw [Rollout.tally_modifyStage_comm (g := fun s => { s with dispatchedTotal := s.dispatchedTotal + 1 })
      fun _ => rfl, Rollout.tally_modifyTarget]
    simp only [RolloutTally.setTarget, RolloutTally.modifyStage, List.modify_modify_eq]
    rfl
  have htrace : ((Op.accept env j i a step).exec w).2.impl.trace
      = w.impl.trace ++ [.dispatched a step] ++ [.entered (w.rollout.place j i)
        (if step = 0 then .dispatched else .rollingBack) none] := rfl
  simp only [World.tally, hroll, htrace]
  rfl

/-- `create_and_dispatch`: nothing was dispatched, or one attempt for the target. -/
theorem createAndDispatch_books {w : World ρ} {id : TargetId} {action : ActionSpec} {step : UInt32}
    {epoch : UInt64} (hK : Lawful env strict P D E) (hw : Books strict P E rest w.tally)
    (haffords : ∀ i, (w.rollout.stageAt j).findTarget id = some i →
      Affords D (w.rollout.stageAt j).tally i (w.rollout.targetAt j i).tally step) :
    Triple (fun s => s = w) (createAndDispatch env j id action step epoch now)
      (fun _ w' => Books strict P E rest w'.tally ∧ (w'.rollout.tally = w.rollout.tally
        ∨ ∃ i a, (w.rollout.stageAt j).findTarget id = some i
          ∧ w'.rollout.tally = w.rollout.tally.modifyStage j fun s =>
            s.dispatch i (w.rollout.targetAt j i).tally a step))
      fun _ w' => Books strict P E rest w'.tally := by
  have hI := @books_settled _ _ _ _ _ _ rest hK
  unfold createAndDispatch
  refine triple_get_bind fun w' h => ?_
  subst h
  dsimp only
  split
  · exact .throw fun s hs => hs ▸ hw
  next i hfind =>
  split
  · exact .modify fun s hs => (by subst hs; exact ⟨hw, .inl rfl⟩)
  next execution _ =>
  -- until the executor has answered, the tally of the rollout stays what it was
  let Same (l : Tally) : Prop := Books strict P E rest l ∧ l.rollout = w'.rollout.tally
  have hsame : Logged Same := hI.toLogged.with fun r => r = w'.rollout.tally
  have hbooks (l : Tally) (h : Same l) : Books strict P E rest l := h.1
  suffices hbody : Triple (fun s => Same s.tally) (_ : Op ρ Unit) _ _ from
    hbody.weaken (fun s hs => hs ▸ ⟨hw, rfl⟩) (fun _ _ h => h) fun _ _ h => h
  refine Upholds.before (.updateImpl fun _ => rfl) hbooks fun _ => ?_
  refine Upholds.before (.updateTarget fun _ => rfl) hbooks fun _ => ?_
  refine Upholds.before (.log hsame fun _ _ => trivial) hbooks fun _ => ?_
  refine triple_ask_bind (fun _ _ h => h) fun result => ?_
  split
  · exact .modify fun s hs => ⟨hs.1, .inl hs.2⟩
  obtain ⟨hj, hi⟩ := Rollout.lt_of_findTarget hfind
  have hshows := Rollout.shows_tally hj hi
  -- what an accepted attempt leaves, kept by the rest of the run
  let Done (l : Tally) : Prop := Books strict P E rest l
    ∧ l.rollout = w'.rollout.tally.modifyStage j fun s =>
      s.dispatch i (w'.rollout.targetAt j i).tally
        (mintAttempt w' (w'.rollout.stageAt j) (w'.rollout.targetAt j i) action epoch now).id step
  have hdone : Logged Done := hI.toLogged.with fun r => r = _
  refine Triple.bind (Q := fun _ (w : World ρ) => Done w.tally) (fun s hs => ?_) fun _ => ?_
  -- acceptance is the one step that spends, and the target can afford it
  · obtain ⟨hok, htally⟩ := @accept_exec _ env j i s
      (mintAttempt w' (w'.rollout.stageAt j) (w'.rollout.targetAt j i) action epoch now) step
    refine ⟨.refl, fun _ _ => ?_, fun e he => by rw [hok] at he; cases he⟩
    have hroll : s.rollout.tally = w'.rollout.tally := hs.2
    have htarget : (s.rollout.targetAt j i).tally = (w'.rollout.targetAt j i).tally :=
      (Rollout.tally_shows (hroll ▸ hshows)).2
    show Done _
    rw [htally, htarget]
    refine hdone.log _ _ trivial ⟨hs.1.dispatch hK (s := (w'.rollout.stageAt j).tally) ?_ ?_, ?_⟩
    · exact (congrArg (fun r => r.stages[j]?) hroll).trans (Rollout.tally_stageAt hj)
    · exact ⟨haffords i hfind, (congrArg RolloutTally.id hroll).symm,
        (congrArg RolloutTally.generation hroll).symm, rfl, rfl⟩
    · rw [← hroll]
      rfl
  have hkeep (l : Tally) (h : Done l) : Books strict P E rest l := h.1
  refine Upholds.before (.updateImpl fun s => ?_) hkeep fun _ => ?_
  · dsimp only
    split <;> rfl
  refine Upholds.before (.updateRollout fun _ => rfl) hkeep fun _ => ?_
  refine Upholds.before (.modify fun _ => rfl) hkeep fun _ => ?_
  refine Upholds.before (commit_upholds hdone) hkeep fun _ => .modify fun s hs => ?_
  exact ⟨hs.1, .inr ⟨i, _, hfind, hs.2⟩⟩

end

end RolloutFabric
