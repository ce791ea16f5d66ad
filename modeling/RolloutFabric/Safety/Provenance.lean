/-
Where a success comes from: along every run without a restart, the state of a target becomes
succeeded only when an admitted record of the right kind was applied just before, which names the
current attempt of the target and passes all of its fences.
-/
import RolloutFabric.Safety.Attempts
import RolloutFabric.Safety.StageGates

namespace RolloutFabric

variable {ρ : Type} {env : Env ρ} {spare restarts : Bool}

/-! ## Attempts in the trace -/

/-- An attempt under this identifier was dispatched for the target. -/
def Handed (trace : List Event) (place : Place) (id : AttemptId) : Prop :=
  ∃ attempt step, .dispatched attempt step ∈ trace ∧ attempt.id = id ∧ attempt.place = place

/-- One identifier was minted for attempts of two targets: the hash it is cut from collided. -/
def Collides (trace : List Event) : Prop :=
  ∃ a b s t, .dispatched a s ∈ trace ∧ .dispatched b t ∈ trace ∧ a.id = b.id ∧ a.place ≠ b.place

/-- The records applied to the attempt since it was dispatched under its identifier. -/
abbrev AppliedTo (trace : List Event) (id : AttemptId) (record : EvidenceRecord) : Prop :=
  AppliedSince (fun _ _ => True) trace id record

theorem Handed.mono {t l : List Event} {place : Place} {id : AttemptId} (h : Handed t place id) :
    Handed (t ++ l) place id := by
  obtain ⟨a, step, hmem, hid, hplace⟩ := h
  exact ⟨a, step, List.mem_append_left _ hmem, hid, hplace⟩

theorem Collides.mono {t l : List Event} (h : Collides t) : Collides (t ++ l) := by
  obtain ⟨a, b, s, s', ha, hb, hid, hplace⟩ := h
  exact ⟨a, b, s, s', List.mem_append_left _ ha, List.mem_append_left _ hb, hid, hplace⟩

theorem appliedTo_append {t l : List Event} {id : AttemptId} {record : EvidenceRecord}
    (h : AppliedTo (t ++ l) id record) :
    AppliedTo t id record ∧ (∀ a step, .dispatched a step ∈ l → a.id ≠ id)
      ∨ ∃ attempt generation current, .applied record attempt generation current ∈ l
        ∧ record.attempt = id := appliedSince_append h

/-- An entry of the attempt table: it was dispatched, and no record that was applied to it has a
higher sequence than it remembers. -/
structure Tracked (trace : List Event) (id : AttemptId) (a : Attempt) : Prop where
  handed : Handed trace a.place id
  newest : ∀ record, AppliedTo trace id record → record.sequence ≤ a.highestSequence

theorem tracked_tabled : Tabled false Tracked where
  grows h hl := by
    refine ⟨h.handed.mono, fun record happlied => ?_⟩
    rcases appliedTo_append happlied with ⟨hold, -⟩ | ⟨attempt, generation, current, hmem, hid⟩
    · exact h.newest record hold
    · exact absurd hid (hl _ _ _ _ hmem)
  congr h hplace hsequence :=
    ⟨hplace ▸ h.handed, fun record hr => hsequence ▸ h.newest record hr⟩
  applied h hlt hplace hsequence := by
    refine ⟨hplace ▸ h.handed.mono, fun earlier happlied => ?_⟩
    rw [hsequence]
    rcases appliedTo_append happlied with ⟨hold, -⟩ | ⟨_, _, _, hmem, -⟩
    · exact UInt64.le_of_lt (UInt64.lt_of_le_of_lt (h.newest _ hold) hlt)
    · obtain ⟨rfl, -⟩ := Event.applied.inj (List.mem_singleton.1 hmem)
      exact UInt64.le_refl _
  dispatched t attempt step place state := by
    refine ⟨⟨attempt, step, by simp, rfl, rfl⟩, fun earlier happlied => ?_⟩
    rcases appliedTo_append happlied with ⟨-, hlast⟩ | ⟨_, _, _, hmem, -⟩
    · exact absurd rfl (hlast attempt step (List.mem_cons_self ..))
    · simp at hmem
  rebuilt h := by cases h

/-! ## Events -/

/-- A record that was applied had passed the fences of the attempt. -/
structure Fenced (t : List Event) (record : EvidenceRecord) (attempt : Attempt)
    (generation : GenerationId) : Prop where
  unfinished : attempt.finished = false
  epoch : record.attemptEpoch = attempt.epoch
  sequence : ∀ earlier, AppliedTo t record.attempt earlier → earlier.sequence < record.sequence
  generation : record.generation = generation
    ∨ record.generation = attempt.generation ∧ Handed t attempt.place record.attempt

/-- The application of the record is the last thing that happened, and completes the target. -/
structure CompletedBy (t : List Event) (place : Place) (record : EvidenceRecord)
    (attempt : Attempt) : Prop where
  kind : record.kind = .executionCompleted
  outcome : record.outcome = .succeeded
  /-- The attempt was the current one of the target, in the generation of the rollout, and the
  record was newer than all that were applied to it. -/
  recent : ∃ before after,
    t = before ++ .applied record attempt place.generation record.attempt :: after
      ∧ history after = []
      ∧ ∀ earlier, AppliedTo before record.attempt earlier → earlier.sequence < record.sequence
  generation : record.generation = place.generation ∨ Collides t
  handed : Handed t place record.attempt
  unfinished : attempt.finished = false
  uncancelled : attempt.wasCancelled = false
  epoch : record.attemptEpoch = attempt.epoch

/-- What the trace says of its events. -/
def Explained (t : List Event) : Event → Prop
  | .applied record attempt generation _ => Fenced t record attempt generation
  | .entered place .succeeded record =>
      ∃ r attempt, record = some r ∧ CompletedBy t place r attempt
  | _ => True

/-- Where a target has its current attempt and its success from. -/
structure TargetCore.Given (target : TargetCore) (trace : List Event) (place : Place) : Prop where
  handed : target.currentAttempt ≠ .nil → Handed trace place target.currentAttempt
  entered : target.state = .succeeded → ∃ record, .entered place .succeeded record ∈ trace

/-- The targets of a stage of the rollout in this generation. -/
def StageCore.Given (s : StageCore) (trace : List Event) (rollout : RolloutId)
    (generation : GenerationId) : Prop :=
  ∀ i, (s.targetAt i).Given trace ⟨rollout, generation, s.id, (s.targetAt i).target⟩

/-! ## What the acts keep -/

section Given

variable {s : StageCore} {trace : List Event} {rollout : RolloutId} {generation : GenerationId}

theorem TargetCore.Given.mono {target : TargetCore} {place : Place} {l : List Event}
    (h : target.Given trace place) : target.Given (trace ++ l) place where
  handed := fun hn => (h.handed hn).mono
  entered := fun hs => (h.entered hs).imp fun _ => List.mem_append_left _

theorem StageCore.Given.modify (h : s.Given trace rollout generation) {i : Nat}
    {f : TargetCore → TargetCore} (htarget : (f (s.targetAt i)).target = (s.targetAt i).target)
    (hf : (f (s.targetAt i)).Given trace ⟨rollout, generation, s.id, (s.targetAt i).target⟩) :
    StageCore.Given { s with targets := s.targets.modify i f } trace rollout generation := by
  intro k
  rw [targetAt_modify]
  split
  · next hk =>
    obtain ⟨rfl, -⟩ := hk
    rw [htarget]
    exact hf
  · exact h k

theorem StageCore.Fresh.given (h : s.Fresh) : s.Given trace rollout generation := by
  intro i
  have hidle : (s.targetAt i).currentAttempt = .nil ∧ (s.targetAt i).state = .pending := by
    rcases s.targetAt_mem_or i with hmem | hnone
    · exact ⟨(h.targets _ hmem).2.1, (h.targets _ hmem).1⟩
    · rw [hnone]
      exact ⟨rfl, rfl⟩
  exact ⟨fun hn => absurd hidle.1 hn, fun hs => by rw [hidle.2] at hs; cases hs⟩

theorem StageCore.Given.default : StageCore.Given default trace rollout generation :=
  StageCore.Fresh.given ⟨rfl, rfl, rfl, .default, fun _ ht => by cases ht⟩

theorem RolloutCore.given_modifyStage {r : RolloutCore} {j : Nat} {f : StageCore → StageCore}
    (h : ∀ k, (r.stageAt k).Given trace rollout generation)
    (hf : (f (r.stageAt j)).Given trace rollout generation) (k : Nat) :
    ((r.modifyStage j f).stageAt k).Given trace rollout generation :=
  forall_modifyStage (P := fun _ s => s.Given trace rollout generation) h (fun _ => hf) k

end Given

theorem Assigns.currentAttempt {c : Core} {j i : Nat} {t : TargetCore}
    {record : Option EvidenceRecord} (h : Assigns c j i t record) :
    t.currentAttempt = .nil ∨ t.currentAttempt = (c.rollout.targetAt j i).currentAttempt := by
  cases h <;> first | exact .inl rfl | exact .inr rfl

section Acts

variable {v : View} {a : Act}

/-- A target enters the state of success by an assignment only. -/
theorem Act.of_succeeded {place : Place} {record : Option EvidenceRecord}
    (h : .entered place .succeeded record ∈ a.events v) :
    ∃ j i target, a = .assign j i target record ∧ target.state = .succeeded
      ∧ place = v.rollout.place j i := by
  cases a with
  | assign j i target record' =>
    obtain ⟨rfl, hstate, rfl⟩ := Event.entered.inj (List.mem_singleton.1 h)
    exact ⟨j, i, target, rfl, hstate.symm, rfl⟩
  | dispatch j i attempt step =>
    rcases List.mem_pair.1 h with h | h
    · cases h
    · have hstate := (Event.entered.inj h).2.1
      split at hstate <;> cases hstate
  | gate j id kind =>
    simp only [events] at h
    split at h <;> simp at h
  | _ => simp [events] at h

theorem given_run (hg : a.Guard env v.core)
    (h : ∀ k, (v.rollout.stageAt k).Given v.trace v.rollout.id v.rollout.generation) (k : Nat) :
    ((a.run v).rollout.stageAt k).Given (a.run v).trace (a.run v).rollout.id
      (a.run v).rollout.generation := by
  have hgrown (k : Nat) : (v.rollout.stageAt k).Given (a.run v).trace v.rollout.id
      v.rollout.generation := by
    intro i
    rw [Act.trace_run]
    exact (h k i).mono
  have hevent {e : Event} (he : e ∈ a.events v) : e ∈ (a.run v).trace := by
    rw [Act.trace_run]
    exact List.mem_append_right _ he
  -- a target whose state is assigned, or that lets go of its attempt
  have hkept {j i : Nat} {t : TargetCore} (hcurrent : t.currentAttempt = .nil
      ∨ t.currentAttempt = (v.rollout.targetAt j i).currentAttempt)
      (hentered : t.state = .succeeded →
        ∃ record, .entered (v.rollout.place j i) .succeeded record ∈ (a.run v).trace) :
      t.Given (a.run v).trace (v.rollout.place j i) := by
    refine ⟨fun hn => ?_, hentered⟩
    rcases hcurrent with hnil | hsame
    · exact absurd hnil hn
    · rw [hsame] at hn ⊢
      exact (hgrown j i).handed hn
  cases a with
  | stage j next => exact RolloutCore.given_modifyStage hgrown (hgrown j) k
  | pickUp j entryGate => exact RolloutCore.given_modifyStage hgrown (hgrown j) k
  | gate j id kind =>
    rw [Act.run] at hgrown ⊢
    split
    · next hlegal =>
      rw [if_pos hlegal] at hgrown
      exact RolloutCore.given_modifyStage hgrown (hgrown j) k
    · next hillegal =>
      rw [if_neg hillegal] at hgrown
      exact RolloutCore.given_modifyStage hgrown (hgrown j) k
  | approve j => exact RolloutCore.given_modifyStage hgrown (hgrown j) k
  | offer j i id =>
    exact RolloutCore.given_modifyStage hgrown ((hgrown j).modify rfl
      ⟨(hgrown j i).handed, (hgrown j i).entered⟩) k
  | observe record now j i =>
    exact RolloutCore.given_modifyStage hgrown ((hgrown j).modify rfl
      ⟨(hgrown j i).handed, (hgrown j i).entered⟩) k
  | dispatch j i attempt step =>
    refine RolloutCore.given_modifyStage hgrown ((hgrown j).modify rfl ⟨fun _ => ?_, ?_⟩) k
    · obtain ⟨hfor, -⟩ := hg
      refine ⟨attempt, step, hevent (List.mem_cons_self ..), rfl, ?_⟩
      rw [Attempt.place, hfor.rollout, hfor.generation, hfor.stage, hfor.target]
      rfl
    · change (if step = 0 then TargetState.dispatched else .rollingBack) = .succeeded → _
      split <;> exact fun h => by cases h
  | assign j i t record =>
    refine RolloutCore.given_modifyStage hgrown ((hgrown j).modify hg.target_eq
      (hkept hg.currentAttempt fun hs => ⟨record, hevent ?_⟩)) k
    rw [← hs]
    exact List.mem_singleton_self _
  | alter j i t =>
    refine RolloutCore.given_modifyStage hgrown ((hgrown j).modify hg.target_eq
      (hkept hg.currentAttempt fun hs => ?_)) k
    exact (hgrown j i).entered (hg.state_eq.symm.trans hs)
  | regenerate generation => exact .default
  | grow s =>
    exact forall_grow (P := fun _ s => s.Given _ _ _) (fun _ => .default) hgrown
      (fun _ => hg.1.given) k
  | _ => exact hgrown k

theorem explained_events (hg : a.Guard env v.core) (hs : v.Steady env) (htable : v.Table Tracked)
    (hgiven : ∀ j, (v.rollout.stageAt j).Given v.trace v.rollout.id v.rollout.generation)
    (hexplained : Each Explained v.trace) {e : Event} (hmem : e ∈ a.events v) :
    Explained v.trace e := by
  cases e with
  | applied record attempt generation current =>
    obtain ⟨rfl, j, i, rfl⟩ := Act.of_applied hmem
    have hlive := htable _ _ hg.found
    refine ⟨hg.unfinished, hg.epoch, fun earlier happlied => ?_, ?_⟩
    · exact UInt64.lt_of_le_of_lt (hlive.newest _ happlied) hg.sequence
    · rcases hg.current with ⟨-, hgeneration⟩ | ⟨-, hgeneration, -⟩
      · exact .inl hgeneration
      · exact .inr ⟨hgeneration, hlive.handed⟩
  | entered place state record =>
    cases state with
    | succeeded =>
      obtain ⟨j, i, target, rfl, hstate, rfl⟩ := Act.of_succeeded hmem
      have hassigns : Assigns v.core j i target record := hg
      cases hassigns with
      -- the success is for the record just applied, so what was fenced then still holds
      | succeed record attempt happlies hc hcur hk ho hne =>
        obtain ⟨-, -, before, current, hhistory, hcurrent⟩ := happlies
        obtain rfl : record.attempt = current := hcur.symm.trans hcurrent
        obtain ⟨t₁, t₂, ht, -, hnone⟩ := of_history_eq hhistory
        have happlied : .applied record attempt v.rollout.generation record.attempt ∈ v.trace := by
          rw [ht]
          exact List.mem_append_right _ (List.mem_cons_self ..)
        have hfenced : Fenced t₁ record attempt v.rollout.generation := hexplained t₁ _ t₂ ht
        have hnamed : record.attempt ≠ .nil :=
          hs.tidy.named _ _ _ _ (mem_history.2 ⟨happlied, rfl⟩)
        have hhanded : Handed v.trace (v.rollout.place j i) record.attempt := by
          have hcur' : (v.rollout.targetAt j i).currentAttempt = record.attempt := hcur
          rw [← hcur'] at hnamed ⊢
          exact (hgiven j i).handed hnamed
        refine ⟨record, attempt, rfl, hk, ho, ⟨t₁, t₂, ht, hnone, hfenced.sequence⟩, ?_, hhanded,
          hfenced.unfinished, hc, hfenced.epoch⟩
        rcases hfenced.generation with hgeneration | ⟨hgeneration, hother⟩
        · exact .inl hgeneration
        -- the identifier was handed out twice, unless the places are the same
        by_cases hplace : attempt.place = v.rollout.place j i
        · exact .inl (hgeneration.trans (congrArg Place.generation hplace))
        · have hother' : Handed v.trace attempt.place record.attempt := ht ▸ hother.mono
          obtain ⟨b, step, hb, hid, hat⟩ := hother'
          obtain ⟨b', step', hb', hid', hat'⟩ := hhanded
          refine .inr ⟨b, b', step, step', hb, hb', hid.trans hid'.symm, ?_⟩
          rw [hat, hat']
          exact hplace
      | expire state h hs =>
        rcases hs with rfl | rfl <;> cases hstate
      | _ => cases hstate
    | _ => trivial
  | _ => trivial

end Acts

/-! ## Runs without a restart -/

theorem RolloutCore.Blank.given {r : RolloutCore} (h : r.Blank) {trace : List Event} (j : Nat) :
    (r.stageAt j).Given trace r.id r.generation := by
  have hstage : r.stageAt j = default := by simp [stageAt, h.stages]
  exact hstage ▸ .default

theorem explained_recorded : Recorded env false Tracked
    (fun t r => ∀ j, (r.stageAt j).Given t r.id r.generation) Explained where
  toTabled := tracked_tabled
  extended _ _ _ h j i := (h j i).mono
  blank _ _ h j := h.given j
  adopted h := by cases h
  act _ _ hg _ h := given_run hg h
  events _ _ hg hs htable hgiven hexplained _ hmem :=
    explained_events hg hs htable hgiven hexplained hmem
  second _ _ _ _ state h := by
    cases state with
    | succeeded =>
      obtain ⟨r, attempt, hnone, -⟩ := h
      cases hnone
    | _ => trivial
  noted _ _ he := by cases he <;> trivial

/-- In a run without a restart a target becomes succeeded only where terminal evidence completes
it, and a target that is succeeded became so. -/
theorem success_has_cause {n : Node ρ} (hn : n.Initial) (inputs : List Input) :
    let after := n.run env (inputs.map .input)
    (∀ t₁ place record t₂, after.trace = t₁ ++ .entered place .succeeded record :: t₂ →
        ∃ r attempt, record = some r ∧ CompletedBy t₁ place r attempt)
      ∧ ∀ h ∈ after.held, ∀ j i, (h.rollout.targetAt j i).state = .succeeded →
        ∃ record, .entered (h.rollout.place j i) .succeeded record ∈ after.trace := by
  have hrecorded : Recorded env false Tracked _ Explained := explained_recorded
  have hholds := (hrecorded.carried.holds_inputs hn inputs hrecorded.start).2
  refine ⟨fun t₁ place record t₂ ht => ?_, fun h hh j i hstate => ?_⟩
  · exact hholds.blank.events t₁ _ t₂ ((Node.sys_trace _).trans ht)
  · have hgiven := (hholds _ (.inr (Node.mem_held hh))).rollout j i
    have hcore := h.rollout.core_targetAt j i
    rw [← Node.sys_trace, Rollout.core_place]
    refine hgiven.entered ?_
    rw [← hstate]
    exact (congrArg TargetCore.state hcore).symm

/-- The inputs of a run in which the first of two targets succeeds. -/
def succeedTwin : List Input :=
  [.create twinPlan {}, .arm twinRollout {}, .start twinRollout {}, .tick,
    .approveGate twinRollout twinGated.pendingGate {}, .tick,
    .onEvidence (twinDispatched.report 0 .executionCompleted .succeeded), .tick]

def Event.succeeds : Event → Bool
  | .entered _ .succeeded _ => true
  | _ => false

/-- A target of that run is completed by its record. -/
theorem succeedTwin_completed :
    ∃ t₁ place r attempt t₂, (twinNode.run volatileEnv (succeedTwin.map .input)).trace
        = t₁ ++ .entered place .succeeded (some r) :: t₂ ∧ CompletedBy t₁ place r attempt := by
  have hany : (twinNode.run volatileEnv (succeedTwin.map .input)).trace.any Event.succeeds
      = true := by decide +kernel
  obtain ⟨e, hmem, he⟩ := List.any_eq_true.1 hany
  obtain ⟨t₁, t₂, ht⟩ := List.append_of_mem hmem
  cases e with
  | entered place state record =>
    cases state with
    | succeeded =>
      obtain ⟨r, attempt, rfl, hcause⟩ :=
        (success_has_cause twinNode_initial succeedTwin).1 t₁ place record t₂ ht
      exact ⟨t₁, place, r, attempt, t₂, ht, hcause⟩
    | _ => cases he
  | _ => cases he

end RolloutFabric
