/-
The attempt table along a run: what an entry remembers of the trace as the acts dispatch, report,
apply, evict and rebuild attempts, beside what the trace says of its events.
-/
import RolloutFabric.Orchestrator.Runs

namespace RolloutFabric

variable {ρ : Type} {env : Env ρ} {spare restarts : Bool}

/-- The target an attempt was made for. -/
def Attempt.place (a : Attempt) : Place := ⟨a.rollout, a.generation, a.stage, a.target⟩

theorem Act.of_applied {v : View} {a : Act} {record : EvidenceRecord} {attempt : Attempt} {generation : GenerationId}
    {current : AttemptId} (h : .applied record attempt generation current ∈ a.events v) :
    generation = v.rollout.generation ∧ ∃ j i, a = .apply record j i attempt := by
  cases a with
  | apply record' j i attempt' =>
    obtain ⟨rfl, rfl, rfl, -⟩ := Event.applied.inj (List.mem_singleton.1 h)
    exact ⟨rfl, j, i, rfl⟩
  | gate j id kind =>
    simp only [events] at h
    split at h <;> simp at h
  | _ => simp [events] at h

/-- The record was applied to the attempt since it was dispatched under its identifier, and what
happened after that has the property. -/
def AppliedSince (P : EvidenceRecord → List Event → Prop) (trace : List Event) (id : AttemptId)
    (record : EvidenceRecord) : Prop :=
  ∃ t₁ attempt generation current t₂, trace = t₁ ++ .applied record attempt generation current :: t₂
    ∧ record.attempt = id ∧ (∀ a step, .dispatched a step ∈ t₂ → a.id ≠ id) ∧ P record t₂

theorem AppliedSince.weaken {P Q : EvidenceRecord → List Event → Prop} {t : List Event}
    {id : AttemptId} {record : EvidenceRecord} (h : AppliedSince P t id record)
    (hPQ : ∀ t₂, P record t₂ → Q record t₂) : AppliedSince Q t id record := by
  obtain ⟨t₁, attempt, generation, current, t₂, heq, hid, hlast, hP⟩ := h
  exact ⟨t₁, attempt, generation, current, t₂, heq, hid, hlast, hPQ t₂ hP⟩

theorem appliedSince_append {P : EvidenceRecord → List Event → Prop} {t l : List Event}
    {id : AttemptId} {record : EvidenceRecord} (h : AppliedSince P (t ++ l) id record) :
    AppliedSince (fun record t₂ => P record (t₂ ++ l)) t id record
        ∧ (∀ a step, .dispatched a step ∈ l → a.id ≠ id)
      ∨ ∃ attempt generation current, .applied record attempt generation current ∈ l
        ∧ record.attempt = id := by
  obtain ⟨t₁, attempt, generation, current, t₂, heq, hid, hlast, hP⟩ := h
  rcases List.append_eq_append_iff.1 heq with ⟨l₁, rfl, rfl⟩ | ⟨l₁, rfl, hl⟩
  · exact .inr ⟨attempt, generation, current, by simp, hid⟩
  · cases l₁ with
    | nil =>
      obtain rfl : l = _ := hl.symm
      exact .inr ⟨attempt, generation, current, by simp, hid⟩
    | cons e l₁ =>
      obtain ⟨rfl, rfl⟩ := List.cons.inj hl
      refine .inl ⟨⟨t₁, attempt, generation, current, l₁, rfl, hid, fun a step hmem => ?_, hP⟩,
        fun a step hmem => ?_⟩
      · exact hlast a step (List.mem_append_left _ hmem)
      · exact hlast a step (List.mem_append_right _ hmem)

/-! ## Entries -/

/-- A property of the entries of the attempt table under the trace that every act keeps. -/
structure Tabled (restarts : Bool) (T : List Event → AttemptId → Attempt → Prop) : Prop where
  grows : ∀ {t l id a}, T t id a → (∀ record attempt generation current,
    .applied record attempt generation current ∈ l → record.attempt ≠ id) → T (t ++ l) id a
  congr : ∀ {t id a b}, T t id a → b.place = a.place → b.highestSequence = a.highestSequence →
    T t id b
  applied : ∀ {t a record generation current b}, T t record.attempt a →
    a.highestSequence < record.sequence → b.place = a.place →
    b.highestSequence = record.sequence →
    T (t ++ [.applied record a generation current]) record.attempt b
  dispatched : ∀ t attempt step place state,
    T (t ++ [.dispatched attempt step, .entered place state none]) attempt.id attempt
  rebuilt : restarts = true → ∀ t attempt step state,
    T (t ++ [.rebuilt attempt step state]) attempt.id attempt

def View.Table (v : View) (T : List Event → AttemptId → Attempt → Prop) : Prop :=
  ∀ id a, v.attempts id = some a → T v.trace id a

section Tabled

variable {T : List Event → AttemptId → Attempt → Prop} {v : View} {a : Act}

/-- An entry that an act leaves alone. -/
theorem Tabled.kept (hT : Tabled restarts T) {id : AttemptId} {attempt : Attempt}
    (h : T v.trace id attempt)
    (ha : ∀ record j i attempt, a = .apply record j i attempt → record.attempt ≠ id) :
    T (a.run v).trace id attempt := by
  rw [Act.trace_run]
  refine hT.grows h fun record attempt generation current hmem => ?_
  obtain ⟨-, j, i, rfl⟩ := Act.of_applied hmem
  exact ha record j i attempt rfl

/-- One entry is replaced. -/
theorem table_update {t : List Event} {f : AttemptId → Option Attempt} {key : AttemptId}
    {entry : Option Attempt} (hnew : ∀ b, entry = some b → T t key b)
    (hold : ∀ id b, key ≠ id → f id = some b → T t id b) (id : AttemptId) (b : Attempt)
    (hfound : Function.update f key entry id = some b) : T t id b := by
  by_cases hid : id = key
  · subst hid
    rw [Function.update_self] at hfound
    exact hnew b hfound
  · rw [Function.update_of_ne hid] at hfound
    exact hold id b (fun h => hid h.symm) hfound

theorem Tabled.run (hT : Tabled restarts T) (ha : a.spares spare restarts = true)
    (hg : a.Guard env v.core) (h : v.Table T) : (a.run v).Table T := by
  have hkept (hn : ∀ record j i attempt, a ≠ .apply record j i attempt) (id : AttemptId)
      (b : Attempt) (hb : v.attempts id = some b) : T (a.run v).trace id b :=
    hT.kept (h id b hb) fun record j i attempt heq => absurd heq (hn record j i attempt)
  cases a with
  -- the attempt that the record names has seen it, and the others are kept
  | apply record j i live =>
    refine table_update (fun b hb => ?_) fun id b hid hb => ?_
    · obtain rfl := Option.some.inj hb
      rw [Act.trace_run]
      exact hT.applied (h _ _ hg.found) hg.sequence rfl rfl
    · refine hT.kept (h id b hb) fun record' j' i' attempt' heq => ?_
      obtain ⟨rfl, -⟩ := Act.apply.inj heq
      exact hid
  | dispatch j i fresh step =>
    refine table_update (fun b hb => ?_) fun id b _ => hkept (fun _ _ _ _ h => by cases h) id b
    obtain rfl := Option.some.inj hb
    rw [Act.trace_run]
    exact hT.dispatched ..
  | rebuild j i rebuilt =>
    refine table_update (fun b hb => ?_) fun id b _ => hkept (fun _ _ _ _ h => by cases h) id b
    obtain rfl := Option.some.inj hb
    rw [Act.trace_run]
    exact hT.rebuilt ha ..
  -- what is reported continues the attempt, at the place it was handed
  | report key new =>
    refine table_update (fun b hb => ?_) fun id b _ => hkept (fun _ _ _ _ h => by cases h) id b
    obtain rfl := Option.some.inj hb
    obtain ⟨old, hold, hcontinues, -⟩ := hg
    refine hT.congr (hkept (fun _ _ _ _ h => by cases h) key old hold) ?_
      hcontinues.highestSequence
    rw [Attempt.place, hcontinues.rollout, hcontinues.generation, hcontinues.stage,
      hcontinues.target]
    rfl
  | lose key | cancel key =>
    refine table_update (fun b hb => ?_) fun id b _ => hkept (fun _ _ _ _ h => by cases h) id b
    obtain ⟨old, hold, rfl⟩ := Option.map_eq_some_iff.1 hb
    exact hT.congr (hkept (fun _ _ _ _ h => by cases h) key old hold) rfl rfl
  | evict key =>
    exact table_update (fun b hb => by cases hb) fun id b _ =>
      hkept (fun _ _ _ _ h => by cases h) id b
  | gate j key kind =>
    intro id b hb
    refine hkept (fun _ _ _ _ h => by cases h) id b ?_
    rw [Act.run] at hb
    split at hb <;> exact hb
  | _ => exact hkept fun _ _ _ _ h => by cases h

end Tabled

/-! ## Entries, rollouts and events -/

/-- The events of a system that no act on a rollout logs. -/
inductive Event.IsNote : Event → Prop
  | rewritten (entries : List JournalEntry) (epoch : UInt64) (ok : Bool) (landed : Option Nat) :
    IsNote (.rewritten entries epoch ok landed)
  | opened (incarnation : IncarnationId) : IsNote (.opened incarnation)
  | restored (r : Rollout) : IsNote (.restored r)

/-- Properties of the attempt table, of a rollout and of the events, each under the trace, that the
acts keep. -/
structure Recorded (env : Env ρ) (restarts : Bool) (T : List Event → AttemptId → Attempt → Prop)
    (J : List Event → RolloutCore → Prop) (E : List Event → Event → Prop) : Prop
    extends Tabled restarts T where
  extended : ∀ t l r, J t r → J (t ++ l) r
  blank : ∀ t r, r.Blank → J t r
  adopted : restarts = true → ∀ t r, J t r
  act : ∀ v (a : Act), a.Guard env v.core → v.Steady env → J v.trace v.rollout →
    J (a.run v).trace (a.run v).rollout
  events : ∀ v (a : Act), a.Guard env v.core → v.Steady env → v.Table T → J v.trace v.rollout →
    Each E v.trace → ∀ e ∈ a.events v, E v.trace e
  /-- The only act that logs two events is a dispatch. -/
  second : ∀ t attempt step place state, E t (.entered place state none) →
    E (t ++ [.dispatched attempt step]) (.entered place state none)
  noted : ∀ t e, e.IsNote → E t e

section Recorded

variable {T : List Event → AttemptId → Attempt → Prop} {J : List Event → RolloutCore → Prop}
  {E : List Event → Event → Prop}

theorem Recorded.each_run (hR : Recorded env restarts T J E) {v : View} {a : Act}
    (hg : a.Guard env v.core) (hs : v.Steady env) (hT : v.Table T) (hJ : J v.trace v.rollout)
    (hE : Each E v.trace) : Each E (a.run v).trace := by
  rw [Act.trace_run]
  refine hE.append fun l₁ e l₂ heq => ?_
  have he := hR.events v a hg hs hT hJ hE e (heq ▸ List.mem_append_right _ (List.mem_cons_self ..))
  rcases Act.events_split heq with rfl | ⟨attempt, step, place, state, rfl, rfl⟩
  · rw [List.append_nil]
    exact he
  · exact hR.second _ _ _ _ _ he

/-- What is recorded, of one view. -/
structure View.Records (v : View) (T : List Event → AttemptId → Attempt → Prop)
    (J : List Event → RolloutCore → Prop) (E : List Event → Event → Prop) : Prop where
  table : v.Table T
  rollout : J v.trace v.rollout
  events : Each E v.trace

/-- An event that no act logs. -/
theorem Recorded.note (hR : Recorded env restarts T J E) {s : Sys} {e : Event} {failed : Bool}
    (h : s.Holds fun v => v.Records T J E) (he : e.IsNote) :
    Sys.Holds { s with trace := s.trace ++ [e], storageFailed := failed }
      fun v => v.Records T J E := by
  intro r hr
  obtain ⟨htable, hroll, hevents⟩ := h r hr
  refine ⟨fun id a ha => hR.grows (htable id a ha) fun record attempt generation current hmem => ?_,
    hR.extended _ _ _ hroll, hevents.note (hR.noted _ _ he)⟩
  rw [← List.mem_singleton.1 hmem] at he
  cases he

theorem Recorded.carried (hR : Recorded env restarts T J E) :
    Carried env (Act.spares spare restarts) fun v => v.Records T J E where
  act _ _ ha hg _ hs h := ⟨hR.toTabled.run ha hg h.table, hR.act _ _ hg hs h.rollout,
    hR.each_run hg hs h.table h.rollout h.events⟩
  others v a r ha hg _ hs _ h h' := by
    refine ⟨hR.toTabled.run ha hg h.table, ?_, hR.each_run hg hs h.table h.rollout h.events⟩
    show J (a.run v).trace r
    rw [Act.trace_run]
    exact hR.extended _ _ _ h'.rollout
  idle _ h := ⟨h.table, h.rollout, h.events⟩
  compact _ _ _ _ _ _ _ h := hR.note h (.rewritten ..)
  opened _ _ _ h := hR.note h (.opened _)
  recovered _ _ h := hR.note h (.restored _)
  crash s trace ht _ h := by
    rintro r (hr | hr)
    · exact ⟨fun id a ha => (by cases ha), hR.blank _ r hr, h.blank.events.initial ht⟩
    · cases hr
  adopt hl s r _ _ _ _ _ _ _ _ _ _ _ h :=
    ⟨h.blank.table, hR.adopted (hl (.rebuild 0 0 {}) rfl) _ _, h.blank.events⟩

theorem Recorded.start (hR : Recorded env restarts T J E) :
    (Sys.fresh []).Holds fun v => v.Records T J E := by
  rintro r (hr | hr)
  · exact ⟨fun id a ha => (by cases ha), hR.blank _ r hr, .nil⟩
  · cases hr

end Recorded

/-! ## Runs without a restart -/

/-- Without a restart, what is carried holds after every input. -/
theorem Carried.holds_inputs {I : View → Prop} (hI : Carried env (Act.spares false restarts) I)
    {n : Node ρ} (hn : n.Initial) (inputs : List Input) (hstart : (Sys.fresh []).Holds I) :
    (n.run env (inputs.map .input)).sys.Holds (View.Sound env)
      ∧ (n.run env (inputs.map .input)).sys.Holds I := by
  induction inputs using List.reverseRecOn with
  | nil => exact hn.sys_eq ▸ ⟨sound_nil, hstart⟩
  | append_singleton inputs i ih =>
    rw [List.map_append, List.map_singleton, Node.run_append]
    cases hnode : n.run env (inputs.map .input) with
    | running o =>
      rw [hnode] at ih
      exact hI.steps (step_reaches ih.1 fun _ => spares_false o) ih.1 ih.2
    | stopped trace outside =>
      rw [hnode] at ih
      exact ih

end RolloutFabric
