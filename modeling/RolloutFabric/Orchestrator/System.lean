/-
The rollouts of an orchestrator over the attempts, the trace and the storage they share: what can
happen to them, a crash and a restart included, and what is carried along all of it.
-/
import RolloutFabric.Orchestrator.Restores

namespace RolloutFabric

variable {ρ : Type} {env : Env ρ} {allowed : Act → Bool}

/-! ## Traces -/

/-- Every event of the trace, given those before it. -/
def Each (E : List Event → Event → Prop) (trace : List Event) : Prop :=
  ∀ t₁ e t₂, trace = t₁ ++ e :: t₂ → E t₁ e

namespace Each

variable {E : List Event → Event → Prop} {t l : List Event}

theorem nil : Each E [] := fun t₁ e t₂ h => by simp at h

theorem append (h : Each E t) (hl : ∀ l₁ e l₂, l = l₁ ++ e :: l₂ → E (t ++ l₁) e) :
    Each E (t ++ l) := by
  intro t₁ e t₂ heq
  rcases List.append_eq_append_iff.1 heq with ⟨l₁, rfl, hl₁⟩ | ⟨l₁, ht, hl₁⟩
  · exact hl l₁ e t₂ hl₁
  · cases l₁ with
    | nil =>
      rw [List.append_nil] at ht
      exact ht ▸ (List.append_nil t).symm ▸ hl [] e t₂ hl₁.symm
    | cons x l₁ =>
      obtain ⟨rfl, -⟩ := List.cons.inj hl₁
      exact h t₁ e l₁ ht

theorem initial (h : Each E t) {t' : List Event} (ht : t' <+: t) : Each E t' := by
  obtain ⟨l, rfl⟩ := ht
  intro t₁ e t₂ heq
  exact h t₁ e (t₂ ++ l) (by rw [heq]; simp)

end Each

def Event.isDispatched : Event → Bool
  | .dispatched .. => true
  | _ => false

/-- The event leaves a snapshot of the rollout in the journal. -/
def Event.Lands (r : Rollout) : Event → Prop
  | .appended entry _ _ true => entry = .rolloutSnapshot r
  | .rewritten entries _ _ (some n) => .rolloutSnapshot r ∈ entries.take n
  | _ => False

/-- The events an act logs. -/
def Act.events (v : View) : Act → List Event
  | append entry epoch ok landed => [.appended entry epoch ok landed]
  | enter next => [.rolloutEntered v.rollout.id v.rollout.generation next]
  | stage j next => [.stageEntered v.rollout.id v.rollout.generation (v.rollout.stageAt j).id
      (v.rollout.stageAt j).policy next]
  | pickUp j _ => [.stageEntered v.rollout.id v.rollout.generation (v.rollout.stageAt j).id
      (v.rollout.stageAt j).policy .running]
  | gate j _ _ =>
    if (v.rollout.stageAt j).state.legalTransition .gated then
      [.stageEntered v.rollout.id v.rollout.generation (v.rollout.stageAt j).id
        (v.rollout.stageAt j).policy .gated]
    else []
  | approve j => [.approved v.rollout.id v.rollout.generation (v.rollout.stageAt j).id
      (v.rollout.stageAt j).pendingGateKind]
  | completing _ s now approved => [.completing v.rollout.id v.rollout.generation s now approved]
  | weigh _ s now => [.weighed v.rollout.id v.rollout.generation s now]
  | finishing stages => [.finishing v.rollout.id v.rollout.generation stages]
  | offer j i id => [.offered (v.rollout.place j i) id]
  | dispatch j i attempt step => [.dispatched attempt step,
      .entered (v.rollout.place j i) (if step = 0 then .dispatched else .rollingBack) none]
  | assign j i target record => [.entered (v.rollout.place j i) target.state record]
  | apply record j i attempt => [.applied record attempt v.rollout.generation
      (v.rollout.targetAt j i).currentAttempt]
  | observe record now j i => [.observed (v.rollout.place j i)
      (v.rollout.stageAt j).policy.healthGate record now]
  | cancel id => [.cancelled id]
  | rebuild j i attempt => [.rebuilt attempt (v.rollout.targetAt j i).rollbackStep
      (v.rollout.targetAt j i).state]
  | _ => []

theorem Act.trace_run (a : Act) (v : View) : (a.run v).trace = v.trace ++ a.events v := by
  cases a with
  | gate j id kind =>
    simp only [run, events]
    split
    · rfl
    · exact (List.append_nil _).symm
  | dispatch j i attempt step => exact List.append_assoc ..
  | _ => first | rfl | exact (List.append_nil _).symm

section Events

variable {a : Act} {v : View}

theorem Act.of_completing {rollout : RolloutId} {generation : GenerationId} {stage : StageRuntime}
    {now : Timestamp} {approved : Bool}
    (h : .completing rollout generation stage now approved ∈ a.events v) :
    rollout = v.rollout.id ∧ generation = v.rollout.generation
      ∧ ∃ j, a = .completing j stage now approved := by
  cases a with
  | completing j s now' approved' =>
    obtain ⟨rfl, rfl, rfl, rfl, rfl⟩ := Event.completing.inj (List.mem_singleton.1 h)
    exact ⟨rfl, rfl, j, rfl⟩
  | gate j id kind =>
    simp only [events] at h
    split at h <;> simp at h
  | _ => simp [events] at h

theorem Act.of_stageEntered {rollout : RolloutId} {generation : GenerationId} {stage : StageId}
    {policy : StagePolicy} {state : StageState}
    (h : .stageEntered rollout generation stage policy state ∈ a.events v) :
    rollout = v.rollout.id ∧ generation = v.rollout.generation
      ∧ ∃ j, stage = (v.rollout.stageAt j).id ∧ policy = (v.rollout.stageAt j).policy
        ∧ (a = .stage j state ∨ (∃ g, a = .pickUp j g) ∧ state = .running
          ∨ (∃ id kind, a = .gate j id kind) ∧ state = .gated) := by
  cases a with
  | stage j next =>
    obtain ⟨rfl, rfl, rfl, rfl, rfl⟩ := Event.stageEntered.inj (List.mem_singleton.1 h)
    exact ⟨rfl, rfl, j, rfl, rfl, .inl rfl⟩
  | pickUp j g =>
    obtain ⟨rfl, rfl, rfl, rfl, rfl⟩ := Event.stageEntered.inj (List.mem_singleton.1 h)
    exact ⟨rfl, rfl, j, rfl, rfl, .inr (.inl ⟨⟨g, rfl⟩, rfl⟩)⟩
  | gate j id kind =>
    simp only [events] at h
    split at h
    · obtain ⟨rfl, rfl, rfl, rfl, rfl⟩ := Event.stageEntered.inj (List.mem_singleton.1 h)
      exact ⟨rfl, rfl, j, rfl, rfl, .inr (.inr ⟨⟨id, kind, rfl⟩, rfl⟩)⟩
    · simp at h
  | _ => simp [events] at h

theorem Act.of_dispatched {attempt : Attempt} {step : UInt32}
    (h : .dispatched attempt step ∈ a.events v) : ∃ j i, a = .dispatch j i attempt step := by
  cases a with
  | dispatch j i attempt' step' =>
    rcases List.mem_pair.1 h with h | h
    · obtain ⟨rfl, rfl⟩ := Event.dispatched.inj h
      exact ⟨j, i, rfl⟩
    · cases h
  | gate j id kind =>
    simp only [events] at h
    split at h <;> simp at h
  | _ => simp [events] at h

end Events

theorem trace_grows {v v' : View} (h : Relation.ReflTransGen (MachineStep env allowed) v v') :
    v.trace <+: v'.trace := by
  induction h with
  | refl => exact List.prefix_rfl
  | @tail v v' _ hstep ih =>
    obtain ⟨a, -, -, -, rfl⟩ := hstep
    rw [Act.trace_run]
    exact ih.trans (List.prefix_append ..)

theorem Act.isJournal_events {a : Act} {v : View} {e : Event} (hw : a.isWrite = false)
    (h : e ∈ a.events v) : e.isJournal = false := by
  cases a with
  | append => cases hw
  | gate j id kind =>
    simp only [events] at h
    split at h <;> simp_all [Event.isJournal]
  | dispatch j i attempt step =>
    rcases List.mem_pair.1 h with rfl | rfl <;> rfl
  | _ => simp_all [events, Event.isJournal]

/-! ## Systems -/

/-- The rollouts of an orchestrator and what they share. -/
structure Sys where
  rollouts : List RolloutCore
  attempts : AttemptId → Option Attempt
  trace : List Event
  storageFailed : Bool

/-- Another rollout in the same surroundings. -/
def View.of (v : View) (r : RolloutCore) : View := { v with rollout := r, failing := none }

namespace Sys

/-- What the acts on a rollout work on, before the first of them. -/
def view (s : Sys) (r : RolloutCore) : View := ⟨r, s.attempts, s.trace, s.storageFailed, none⟩

/-- What the acts on a rollout leave to all of them. -/
def share (s : Sys) (v : View) : Sys :=
  { s with attempts := v.attempts, trace := v.trace, storageFailed := v.storageFailed }

def put (s : Sys) (k : Nat) (v : View) : Sys :=
  { s.share v with rollouts := s.rollouts.set k v.rollout }

def push (s : Sys) (v : View) : Sys := { s.share v with rollouts := s.rollouts ++ [v.rollout] }

def compacted (s : Sys) (entries : List JournalEntry) (epoch : UInt64) (ok : Bool)
    (landed : Option Nat) : Sys :=
  { s with
    trace := s.trace ++ [.rewritten entries epoch ok landed]
    storageFailed := s.storageFailed || !ok }

/-- A controller that holds nothing yet, over the journal of this trace. -/
def fresh (trace : List Event) : Sys := ⟨[], fun _ => none, trace, false⟩

end Sys

/-- A rollout that was just created. -/
structure RolloutCore.Blank (r : RolloutCore) : Prop where
  state : r.state = .created
  cursor : r.cursor = 0
  stages : r.stages = []

theorem RolloutCore.Blank.ordered {r : RolloutCore} (h : r.Blank) : r.Ordered :=
  ordered_of_fresh (fun s hs => by rw [h.stages] at hs; cases hs) h.cursor

/-- The records of a compaction: snapshots of the rollouts as they are, whose gates do not wait
for work. -/
structure Compacts (env : Env ρ) (s : Sys) (entries : List JournalEntry) (landed : Option Nat) :
    Prop where
  held : ∀ r, .rolloutSnapshot r ∈ entries → r.core ∈ s.rollouts
  fits : ∀ n, landed = some n → ∀ entry ∈ entries.take n,
    entry.payload.length ≤ env.limits.maxJournalRecordBytes.toNat
  rests : ∀ r ∈ s.rollouts, (s.view r).core.Rests false

/-- One step of an orchestrator and its journal. -/
inductive SysStep (env : Env ρ) (allowed : Act → Bool) (s : Sys) : Sys → Prop
  | work (k : Nat) (r : RolloutCore) (hr : s.rollouts[k]? = some r) (v : View)
    (h : Relation.ReflTransGen (MachineStep env allowed) (s.view r) v) :
    SysStep env allowed s (s.put k v)
  | drop (r : RolloutCore) (hr : r.Blank) (v : View)
    (h : Relation.ReflTransGen (MachineStep env allowed) (s.view r) v) :
    SysStep env allowed s (s.share v)
  | push (r : RolloutCore) (hr : r.Blank) (v : View)
    (h : Relation.ReflTransGen (MachineStep env allowed) (s.view r) v) :
    SysStep env allowed s (s.push v)
  | compact (entries : List JournalEntry) (epoch : UInt64) (ok : Bool) (landed : Option Nat)
    (h : Compacts env s entries landed) :
    SysStep env allowed s (s.compacted entries epoch ok landed)
  /-- What was in memory is lost, and the last of what was done since some point. -/
  | crash (trace : List Event) (h : trace <+: s.trace) : SysStep env allowed s (.fresh trace)
  | opened (incarnation : IncarnationId) (hs : s.rollouts = []) :
    SysStep env allowed s { s with trace := s.trace ++ [.opened incarnation] }
  | recovered (r : Rollout) :
    SysStep env allowed s { s with trace := s.trace ++ [.restored r] }
  /-- A snapshot of the journal is adopted, as it was read back; the other rollouts may be given up
  for it. -/
  | adopt (r : Rollout) (t₁ t₂ : List Event) (e : Event) (ht : s.trace = t₁ ++ e :: t₂)
    (he : e.Lands r) (t : List Event) (r' : Rollout) (hr : s.trace = t ++ [.restored r'])
    (hcore : r'.core = r.core) (hs : s.storageFailed = false) (kept : List RolloutCore)
    (hk : kept.Sublist s.rollouts) (v : View) (hl : ∀ a, Act.isRestoring a = true → allowed a = true)
    (h : Relation.ReflTransGen (MachineStep env Act.isRestoring) (s.view r.core) v)
    (hv : ∀ j i, v.rollout.Released j i) :
    SysStep env allowed s ({ s with rollouts := kept }.push v)

/-! ## What is sound -/

/-- The core of a snapshot, under the history of the trace it was written in. -/
def Core.saved (trace : List Event) (r : RolloutCore) : Core :=
  ⟨r, fun _ => none, RolloutFabric.history trace, none⟩

/-- A snapshot that can be adopted. -/
structure Restorable (trace : List Event) (r : RolloutCore) : Prop where
  stages : ∀ j, (r.stageAt j).Tidy
  ordered : r.Ordered
  resumes : r.state = .paused → r.resumeState.canPause = true
  begun : r.state = .rollingBack → .rolloutEntered r.id r.generation .rollingBack ∈ history trace
  placed : (Core.saved trace r).Calm → r.Placed
  rests : (Core.saved trace r).Rests false

/-- What the trace says of every snapshot that was written. -/
def Lands (env : Env ρ) (trace : List Event) (e : Event) : Prop :=
  ∀ r : Rollout, e.Lands r → Restorable trace r.core
    ∧ (encodeRolloutPayload r).length ≤ env.limits.maxJournalRecordBytes.toNat

/-- What holds of a rollout and its surroundings, a restore included. -/
structure View.Steady (env : Env ρ) (v : View) : Prop where
  tidy : v.core.Tidy
  placed : v.core.Calm → v.rollout.Placed
  keyed : v.core.Keyed
  landed : Each (Lands env) v.trace

/-- What holds of a rollout and its surroundings. -/
structure View.Sound (env : Env ρ) (v : View) : Prop extends v.Steady env where
  rests : v.storageFailed = true ∨ v.core.Rests true

theorem View.Sound.orderly {v : View} (h : v.Sound env) : v.Orderly := ⟨h.tidy, h.placed, h.rests⟩

theorem Restorable.mono {t t' : List Event} {r : RolloutCore} (h : Restorable t r)
    (ht : history t ⊆ history t') : Restorable t' r where
  stages := h.stages
  ordered := h.ordered
  resumes := h.resumes
  begun := fun hr => ht (h.begun hr)
  placed := fun hc => h.placed (Or.imp_right (fun hn hm => hn (ht hm)) hc)
  rests := h.rests

theorem View.Steady.restorable {v : View} (h : v.Steady env) (hr : v.core.Rests false) :
    Restorable v.trace v.rollout where
  stages := h.tidy.stages
  ordered := h.tidy.ordered
  resumes := h.tidy.resumes
  begun := h.tidy.begun
  placed := h.placed
  rests := fun hu j hj => ⟨(hr hu j hj).1, fun hs => (by cases hs), fun i hi => by cases hi⟩

theorem history_grown {t l : List Event} : history t ⊆ history (t ++ l) := by
  rw [history_append]
  exact List.subset_append_left ..

/-! ## What the acts keep -/

section Acts

variable {v : View} {a : Act}

theorem keyed_run (hg : a.Guard env v.core) (h : v.core.Keyed) : (a.run v).core.Keyed := by
  cases hw : a.isWrite with
  | true => rw [Act.core_run_write hw]; exact h
  | false => rw [Act.core_run hw]; exact keyed_after a v.core hg h

theorem landed_run (hg : a.Guard env v.core) (hw : a.Writable v) (h : v.Steady env)
    (hrests : v.storageFailed = true ∨ v.core.Rests false) :
    Each (Lands env) (a.run v).trace := by
  rw [Act.trace_run]
  refine h.landed.append fun l₁ e l₂ heq r he => ?_
  have hmem : e ∈ a.events v := heq ▸ List.mem_append_right _ (List.mem_cons_self ..)
  cases hwrite : a.isWrite with
  | false =>
    have := Act.isJournal_events hwrite hmem
    cases e <;> simp_all [Event.isJournal, Event.Lands]
  | true =>
    cases a with
    | append entry epoch ok landed =>
      obtain rfl : e = .appended entry epoch ok landed := List.mem_singleton.1 hmem
      cases landed with
      | false => cases he
      | true =>
        obtain rfl : entry = .rolloutSnapshot r := he
        obtain ⟨hopen, hdescribes⟩ := hw
        have hrollout : r.core = v.rollout := hdescribes
        refine ⟨?_, hg rfl⟩
        rw [hrollout]
        refine (h.restorable ?_).mono history_grown
        refine hrests.resolve_left fun hfailed => ?_
        rcases hopen with hopen | ⟨-, hopen⟩
        · rw [hfailed] at hopen
          cases hopen
        · cases hopen
    | _ => simp_all [Act.events, Act.isWrite]

theorem steady_run (hg : a.Guard env v.core) (hw : a.Writable v) (h : v.Steady env)
    (hrests : v.storageFailed = true ∨ v.core.Rests false) : (a.run v).Steady env := by
  have hlanded := landed_run hg hw h hrests
  cases hwrite : a.isWrite with
  | true =>
    have hcore := Act.core_run_write hwrite v
    refine ⟨hcore ▸ h.tidy, fun hcalm => ?_, keyed_run hg h.keyed, hlanded⟩
    have hroll : (a.run v).rollout = v.rollout := congrArg Core.rollout hcore
    rw [hcore] at hcalm
    exact hroll ▸ h.placed hcalm
  | false =>
    have hcore := Act.core_run hwrite v
    refine ⟨hcore ▸ tidy_after a v.core hwrite hg h.tidy, fun hcalm => ?_, keyed_run hg h.keyed,
      hlanded⟩
    have hroll : (a.run v).rollout = (a.after v.core).rollout := congrArg Core.rollout hcore
    rw [hcore] at hcalm
    exact hroll ▸ placed_after hwrite hg h.tidy h.placed hcalm

theorem sound_run (hg : a.Guard env v.core) (hw : a.Writable v) (h : v.Sound env) :
    (a.run v).Sound env where
  toSteady := steady_run hg hw h.toSteady (h.rests.imp_right Core.Rests.weaken)
  rests := (orderly_run hg h.orderly).rests

end Acts

/-! ## What the others keep -/

/-- The surroundings grew: events were added, and the storage may have failed. -/
structure View.Grows (v v' : View) : Prop where
  history : RolloutFabric.history v.trace ⊆ RolloutFabric.history v'.trace
  failed : v.storageFailed = true → v'.storageFailed = true

theorem grows_run (a : Act) (v : View) : v.Grows (a.run v) where
  history := by
    rw [Act.trace_run]
    exact history_grown
  failed := storageFailed_run

theorem View.Sound.of {v v' : View} (hv' : v'.Steady env) {r : RolloutCore}
    (hr : (v.of r).Sound env) (hg : v.Grows v') : (v'.of r).Sound env where
  tidy := ⟨hr.tidy.stages, hr.tidy.ordered, hr.tidy.resumes,
    fun h => hg.history (hr.tidy.begun h), hv'.tidy.named⟩
  placed := fun hc => hr.placed (Or.imp_right (fun hn hm => hn (hg.history hm)) hc)
  keyed := hv'.keyed
  landed := hv'.landed
  rests := hr.rests.imp hg.failed fun h hu j hj => h hu j hj

/-! ## Invariants of a system -/

/-- Every rollout of the system has the property, and every one that could be created. -/
def Sys.Holds (s : Sys) (I : View → Prop) : Prop := ∀ r, r.Blank ∨ r ∈ s.rollouts → I (s.view r)

/-- A property of the views of a system that its steps keep. -/
structure Carried (env : Env ρ) (allowed : Act → Bool) (I : View → Prop) : Prop where
  act : ∀ v (a : Act), allowed a = true → a.Guard env v.core → a.Writable v → v.Steady env → I v →
    I (a.run v)
  /-- The acts on one rollout keep the property of another. -/
  others : ∀ v (a : Act) r, allowed a = true → a.Guard env v.core → a.Writable v → v.Steady env →
    (v.of r).Sound env → I v → I (v.of r) → I ((a.run v).of r)
  idle : ∀ v, I v → I (v.setFailing none)
  compact : ∀ (s : Sys) entries epoch ok landed, Compacts env s entries landed →
    s.Holds (View.Sound env) → s.Holds I → (s.compacted entries epoch ok landed).Holds I
  opened : ∀ (s : Sys) incarnation, s.rollouts = [] → s.Holds I →
    Sys.Holds { s with trace := s.trace ++ [.opened incarnation] } I
  recovered : ∀ (s : Sys) r, s.Holds I → Sys.Holds { s with trace := s.trace ++ [.restored r] } I
  crash : ∀ (s : Sys) trace, trace <+: s.trace → s.Holds (View.Sound env) → s.Holds I →
    (Sys.fresh trace).Holds I
  adopt : (∀ a, Act.isRestoring a = true → allowed a = true) → ∀ (s : Sys) (r : Rollout) t₁ t₂ e,
    s.trace = t₁ ++ e :: t₂ → e.Lands r → ∀ t r', s.trace = t ++ [.restored r'] → r'.core = r.core →
    s.storageFailed = false → s.Holds (View.Sound env) → s.Holds I → I (s.view r.core)

section Carried

variable {I : View → Prop} {s s' : Sys}

/-- The run of one rollout, beside the others. -/
structure Beside (env : Env ρ) (I : View → Prop) (s : Sys) (v : View) : Prop where
  sound : v.Sound env
  holds : I v
  others : ∀ r, r.Blank ∨ r ∈ s.rollouts → (v.of r).Sound env ∧ I (v.of r)

theorem Carried.run (hI : Carried env allowed I) {v v' : View}
    (h : Relation.ReflTransGen (MachineStep env allowed) v v') (hv : Beside env I s v) :
    Beside env I s v' := by
  induction h with
  | refl => exact hv
  | @tail v v' _ hstep ih =>
    obtain ⟨a, ha, hg, hw, rfl⟩ := hstep
    have hsound := sound_run hg hw ih.sound
    refine ⟨hsound, hI.act _ a ha hg hw ih.sound.toSteady ih.holds, fun r hr => ?_⟩
    obtain ⟨hr₁, hr₂⟩ := ih.others r hr
    exact ⟨.of hsound.toSteady hr₁ (grows_run a v),
      hI.others v a r ha hg hw ih.sound.toSteady hr₁ ih.holds hr₂⟩

theorem View.Sound.idle {v : View} (h : v.Sound env) : (v.of v.rollout).Sound env where
  tidy := ⟨h.tidy.stages, h.tidy.ordered, h.tidy.resumes, h.tidy.begun, h.tidy.named⟩
  placed := h.placed
  keyed := h.keyed
  landed := h.landed
  rests := h.rests.imp_right fun h hu j hj =>
    ⟨(h hu j hj).1, (h hu j hj).2.1, fun i hi => by cases hi⟩

theorem Beside.start (hs : s.Holds (View.Sound env)) (hI : s.Holds I) {r : RolloutCore}
    (hr : r.Blank ∨ r ∈ s.rollouts) : Beside env I s (s.view r) :=
  ⟨hs r hr, hI r hr, fun r hr => ⟨hs r hr, hI r hr⟩⟩

/-- What a run leaves is found again in the system, beside some of the others. -/
theorem Beside.finish (hI : Carried env allowed I) {v : View} (hv : Beside env I s v)
    (hlength : s'.share v = s')
    (hmem : ∀ r ∈ s'.rollouts, r = v.rollout ∨ r ∈ s.rollouts) :
    s'.Holds (View.Sound env) ∧ s'.Holds I := by
  have hview (r : RolloutCore) : s'.view r = v.of r := by
    rw [← hlength]
    rfl
  have hown : (v.of v.rollout).Sound env ∧ I (v.of v.rollout) :=
    ⟨hv.sound.idle, hI.idle v hv.holds⟩
  have hall (r : RolloutCore) (hr : r.Blank ∨ r ∈ s'.rollouts) :
      (v.of r).Sound env ∧ I (v.of r) := by
    rcases hr with hr | hr
    · exact hv.others r (.inl hr)
    · rcases hmem r hr with rfl | hr
      · exact hown
      · exact hv.others r (.inr hr)
  exact ⟨fun r hr => hview r ▸ (hall r hr).1, fun r hr => hview r ▸ (hall r hr).2⟩

/-! ### A restore -/

theorem StageCore.exists_targetAt {s : StageCore} {t : TargetCore} (h : t ∈ s.targets) :
    ∃ i, s.targetAt i = t := by
  obtain ⟨i, hi, rfl⟩ := List.mem_iff_getElem.1 h
  exact ⟨i, by simp [StageCore.targetAt, hi]⟩

/-- Nothing is in flight on a stage that is done, once the rollout was restored. -/
theorem Core.Rests.released {c : Core} (h : c.Rests false)
    (hr : ∀ j i, c.rollout.Released j i) : c.Rests true := by
  intro hu j hj
  obtain ⟨hterminal, -, hidle⟩ := h hu j hj
  refine ⟨hterminal, fun _ t ht => ?_, hidle⟩
  obtain ⟨i, rfl⟩ := StageCore.exists_targetAt ht
  exact hr j i (hterminal _ ht)

/-- The run of a rollout that is being restored, beside the others. -/
structure BesideRestored (env : Env ρ) (I : View → Prop) (s : Sys) (v : View) : Prop where
  steady : v.Steady env
  rests : v.core.Rests false
  holds : I v
  others : ∀ r, r.Blank ∨ r ∈ s.rollouts → (v.of r).Sound env ∧ I (v.of r)

theorem Carried.restore (hI : Carried env allowed I)
    (hl : ∀ a, Act.isRestoring a = true → allowed a = true) {v v' : View}
    (h : Relation.ReflTransGen (MachineStep env Act.isRestoring) v v')
    (hv : BesideRestored env I s v) : BesideRestored env I s v' := by
  induction h with
  | refl => exact hv
  | @tail v v' _ hstep ih =>
    obtain ⟨a, ha, hg, hw, rfl⟩ := hstep
    have hsteady := steady_run hg hw ih.steady (.inr ih.rests)
    refine ⟨hsteady, ?_, hI.act _ a (hl a ha) hg hw ih.steady ih.holds, fun r hr => ?_⟩
    · have hwrite : a.isWrite = false := by cases a <;> simp_all [Act.isRestoring, Act.isWrite]
      rw [Act.core_run hwrite]
      refine rests_after hwrite hg ih.steady.tidy (fun h => by cases h) (fun _ j i t record h => ?_)
        ih.rests
      rw [h] at ha
      cases ha
    · obtain ⟨hr₁, hr₂⟩ := ih.others r hr
      exact ⟨.of hsteady hr₁ (grows_run a v),
        hI.others v a r (hl a ha) hg hw ih.steady hr₁ ih.holds hr₂⟩

theorem Restorable.steady {trace : List Event} {v : View} (h : Restorable trace v.rollout)
    (ht : history trace ⊆ history v.trace) (hn : ∀ record attempt generation current,
      .applied record attempt generation current ∈ history v.trace → record.attempt ≠ .nil)
    (hk : v.core.Keyed) (hl : Each (Lands env) v.trace) : v.Steady env where
  tidy := ⟨h.stages, h.ordered, h.resumes, fun hr => ht (h.begun hr), hn⟩
  placed := (h.mono ht).placed
  keyed := hk
  landed := hl

/-! ### One step -/

theorem Sys.Holds.blank (h : s.Holds I) : I (s.view { state := .created }) :=
  h _ (.inl ⟨rfl, rfl, rfl⟩)

/-- Adding events that no act logs. -/
theorem Sys.Holds.sound_note (hs : s.Holds (View.Sound env)) {e : Event} {failed : Bool}
    (hn : ∀ record attempt generation current, e ≠ .applied record attempt generation current)
    (hf : s.storageFailed = true → failed = true) (hl : Lands env s.trace e) :
    Sys.Holds { s with trace := s.trace ++ [e], storageFailed := failed } (View.Sound env) := by
  intro r hr
  have h := hs r hr
  refine ⟨⟨⟨h.tidy.stages, h.tidy.ordered, h.tidy.resumes,
    fun hb => history_grown (h.tidy.begun hb),
    fun record attempt generation current hmem => ?_⟩,
    fun hc => h.placed (Or.imp_right (fun hn hm => hn (history_grown hm)) hc), h.keyed, ?_⟩,
    h.rests.imp hf fun h => h⟩
  · change _ ∈ history (s.trace ++ [e]) at hmem
    rw [history_append] at hmem
    rcases List.mem_append.1 hmem with hmem | hmem
    · exact h.tidy.named record attempt generation current hmem
    · have := List.mem_singleton.1 (mem_history.1 hmem).1
      exact absurd this.symm (hn record attempt generation current)
  · exact h.landed.append fun l₁ e' l₂ heq => by
      cases l₁ with
      | nil =>
        obtain ⟨rfl, -⟩ := List.cons.inj heq
        rw [List.append_nil]
        exact hl
      | cons x l₁ => simp at heq

theorem sound_compact {entries : List JournalEntry} {epoch : UInt64} {ok : Bool}
    {landed : Option Nat} (h : Compacts env s entries landed) (hs : s.Holds (View.Sound env)) :
    (s.compacted entries epoch ok landed).Holds (View.Sound env) := by
  refine hs.sound_note (fun _ _ _ _ h => by cases h) (fun h => by rw [h]; rfl) fun r hr => ?_
  cases landed with
  | none => cases hr
  | some n =>
    have hmem := List.mem_of_mem_take hr
    refine ⟨?_, h.fits n rfl _ hr⟩
    exact (hs _ (.inr (h.held r hmem))).restorable (h.rests _ (h.held r hmem))

theorem sound_fresh {trace : List Event} (hl : Each (Lands env) trace)
    (hn : ∀ record attempt generation current,
      .applied record attempt generation current ∈ history trace → record.attempt ≠ .nil) :
    (Sys.fresh trace).Holds (View.Sound env) := by
  rintro r (hr | hr)
  · have hstages (j : Nat) : r.stageAt j = default := by
      simp [RolloutCore.stageAt, hr.stages]
    refine ⟨⟨⟨fun j => hstages j ▸ .default, hr.ordered, fun hpaused => ?_, fun hback => ?_, hn⟩,
      fun _ j => hstages j ▸ .default _, fun id a ha => (by cases ha), hl⟩, .inr fun _ j hj => ?_⟩
    · change r.state = .paused at hpaused
      rw [hr.state] at hpaused
      cases hpaused
    · change r.state = .rollingBack at hback
      rw [hr.state] at hback
      cases hback
    · exact absurd (congrArg StageCore.pendingGate (hstages j)) hj.2
  · cases hr

theorem sound_crash {trace : List Event} (h : trace <+: s.trace) (hs : s.Holds (View.Sound env)) :
    (Sys.fresh trace).Holds (View.Sound env) := by
  have hb := hs.blank
  refine sound_fresh (hb.landed.initial h) fun record attempt generation current hmem => ?_
  obtain ⟨hmem, hhistory⟩ := mem_history.1 hmem
  exact hb.tidy.named _ _ _ _ (mem_history.2 ⟨h.subset hmem, hhistory⟩)

/-- Every step keeps what is sound, and what is carried. -/
theorem Carried.step (hI : Carried env allowed I) (h : SysStep env allowed s s')
    (hs : s.Holds (View.Sound env)) (hh : s.Holds I) :
    s'.Holds (View.Sound env) ∧ s'.Holds I := by
  cases h with
  | work k r hr v h =>
    refine Beside.finish hI (hI.run h (.start hs hh (.inr (List.mem_of_getElem? hr)))) rfl
      fun r hr => ?_
    exact (List.mem_or_eq_of_mem_set hr).symm
  | drop r hr v h =>
    exact Beside.finish hI (hI.run h (.start hs hh (.inl hr))) rfl fun r hr => .inr hr
  | push r hr v h =>
    refine Beside.finish hI (hI.run h (.start hs hh (.inl hr))) rfl fun r hr => ?_
    exact (List.mem_append.1 hr).symm.imp_left List.mem_singleton.1
  | compact entries epoch ok landed h =>
    exact ⟨sound_compact h hs, hI.compact s entries epoch ok landed h hs hh⟩
  | crash trace h => exact ⟨sound_crash h hs, hI.crash s trace h hs hh⟩
  | opened incarnation hnone =>
    refine ⟨hs.sound_note (e := .opened incarnation) (fun _ _ _ _ h => ?_) id fun r hr => ?_,
      hI.opened s incarnation hnone hh⟩
    · cases h
    · cases hr
  | recovered r =>
    refine ⟨hs.sound_note (e := .restored r) (fun _ _ _ _ h => ?_) id fun r hr => ?_,
      hI.recovered s r hh⟩
    · cases h
    · cases hr
  | adopt r t₁ t₂ e ht he t r' hr hcore hopen kept hk v hl h hv =>
    have hb := hs.blank
    have hrestorable := (hb.landed t₁ e t₂ ht r he).1
    have hsub : history t₁ ⊆ history s.trace := by
      rw [ht]
      exact history_grown
    have hstart : BesideRestored env I s (s.view r.core) :=
      ⟨hrestorable.steady hsub hb.tidy.named hb.keyed hb.landed,
        fun hu j hj => ⟨(hrestorable.rests hu j hj).1, fun h => (by cases h), fun _ h => by cases h⟩,
        hI.adopt hl s r t₁ t₂ e ht he t r' hr hcore hopen hs hh, fun r hr => ⟨hs r hr, hh r hr⟩⟩
    have hend := hI.restore hl h hstart
    refine Beside.finish (s := s) hI ⟨⟨hend.steady, .inr (hend.rests.released hv)⟩, hend.holds,
      hend.others⟩ rfl fun r hr => ?_
    exact (List.mem_append.1 hr).symm.imp List.mem_singleton.1 fun hr => hk.subset hr

theorem Carried.steps (hI : Carried env allowed I)
    (h : Relation.ReflTransGen (SysStep env allowed) s s') (hs : s.Holds (View.Sound env))
    (hh : s.Holds I) : s'.Holds (View.Sound env) ∧ s'.Holds I := by
  induction h with
  | refl => exact ⟨hs, hh⟩
  | tail _ hstep ih => exact hI.step hstep ih.1 ih.2

end Carried

theorem carried_true : Carried env allowed fun _ => True where
  act _ _ _ _ _ _ _ := trivial
  others _ _ _ _ _ _ _ _ _ _ := trivial
  idle _ _ := trivial
  compact _ _ _ _ _ _ _ _ _ _ := trivial
  opened _ _ _ _ _ _ := trivial
  recovered _ _ _ _ _ := trivial
  crash _ _ _ _ _ _ _ := trivial
  adopt _ _ _ _ _ _ _ _ _ _ _ _ _ _ _ := trivial

/-- What is sound stays so. -/
theorem sound_steps {s s' : Sys} (h : Relation.ReflTransGen (SysStep env allowed) s s')
    (hs : s.Holds (View.Sound env)) : s'.Holds (View.Sound env) :=
  (carried_true.steps h hs fun _ _ => trivial).1

theorem sound_nil : (Sys.fresh []).Holds (View.Sound env) :=
  sound_fresh .nil fun _ _ _ _ h => by cases h

/-! ## What a rollout and the trace are known to satisfy -/

/-- Every snapshot of the journal had the property when it was written. -/
def Saves (J : List Event → RolloutCore → Prop) (t : List Event) (e : Event) : Prop :=
  ∀ r : Rollout, e.Lands r → J t r.core

/-- A property of a rollout under its trace that only the acts on it can break, and one of the
events, given those before them. -/
structure Kept (env : Env ρ) (allowed : Act → Bool) (J : List Event → RolloutCore → Prop)
    (E : List Event → Event → Prop) : Prop where
  grows : ∀ t l r, J t r → J (t ++ l) r
  blank : ∀ t r, r.Blank → J t r
  act : ∀ v (a : Act), allowed a = true → a.Guard env v.core → a.Writable v → v.Steady env →
    J v.trace v.rollout → J (a.run v).trace (a.run v).rollout
  events : ∀ v (a : Act), allowed a = true → a.Guard env v.core → a.Writable v → v.Steady env →
    J v.trace v.rollout → ∀ e ∈ a.events v, E v.trace e
  /-- The only act that logs two events is a dispatch. -/
  second : ∀ t attempt step place state, E t (.entered place state none) →
    E (t ++ [.dispatched attempt step]) (.entered place state none)
  rewritten : ∀ t entries epoch ok landed, E t (.rewritten entries epoch ok landed)
  opened : ∀ t incarnation, E t (.opened incarnation)
  recovered : ∀ t r, E t (.restored r)

section Kept

variable {J : List Event → RolloutCore → Prop} {E : List Event → Event → Prop}

theorem saves_run (hgrows : ∀ t l r, J t r → J (t ++ l) r) {v : View} {a : Act}
    (hw : a.Writable v) (hJ : J v.trace v.rollout) (h : Each (Saves J) v.trace) :
    Each (Saves J) (a.run v).trace := by
  rw [Act.trace_run]
  refine h.append fun l₁ e l₂ heq r he => hgrows _ _ _ ?_
  have hmem : e ∈ a.events v := heq ▸ List.mem_append_right _ (List.mem_cons_self ..)
  cases hwrite : a.isWrite with
  | false =>
    have := Act.isJournal_events hwrite hmem
    cases e <;> simp_all [Event.isJournal, Event.Lands]
  | true =>
    cases a with
    | append entry epoch ok landed =>
      obtain rfl : e = .appended entry epoch ok landed := List.mem_singleton.1 hmem
      cases landed with
      | false => cases he
      | true =>
        obtain rfl : entry = .rolloutSnapshot r := he
        obtain ⟨-, hdescribes⟩ := hw
        have hrollout : r.core = v.rollout := hdescribes
        exact hrollout ▸ hJ
    | _ => simp_all [Act.events, Act.isWrite]

/-- An act logs at most one event, or a dispatch and the state it leaves. -/
theorem Act.events_split {a : Act} {v : View} {l₁ l₂ : List Event} {e : Event}
    (h : a.events v = l₁ ++ e :: l₂) :
    l₁ = [] ∨ ∃ attempt step place state, l₁ = [.dispatched attempt step]
      ∧ e = .entered place state none := by
  cases l₁ with
  | nil => exact .inl rfl
  | cons x l =>
    cases a with
    | dispatch j i attempt step =>
      obtain ⟨rfl, hrest⟩ := List.cons.inj h
      cases l with
      | nil => exact .inr ⟨attempt, step, _, _, rfl, (List.cons.inj hrest).1.symm⟩
      | cons y l => simp at hrest
    | gate j id kind =>
      simp only [events] at h
      split at h <;> simp at h
    | _ => simp [events] at h

theorem Kept.each_run (hk : Kept env allowed J E) {v : View} {a : Act} (ha : allowed a = true)
    (hg : a.Guard env v.core) (hw : a.Writable v) (hs : v.Steady env) (hJ : J v.trace v.rollout)
    (hE : Each E v.trace) : Each E (a.run v).trace := by
  rw [Act.trace_run]
  refine hE.append fun l₁ e l₂ heq => ?_
  have he := hk.events v a ha hg hw hs hJ e (heq ▸ List.mem_append_right _ (List.mem_cons_self ..))
  rcases Act.events_split heq with rfl | ⟨attempt, step, place, state, rfl, rfl⟩
  · rw [List.append_nil]
    exact he
  · exact hk.second _ _ _ _ _ he

theorem Each.note {t : List Event} {e : Event} (h : Each E t) (he : E t e) : Each E (t ++ [e]) := by
  refine h.append fun l₁ e' l₂ heq => ?_
  cases l₁ with
  | nil =>
    obtain ⟨rfl, -⟩ := List.cons.inj heq
    rw [List.append_nil]
    exact he
  | cons x l₁ => simp at heq

theorem Kept.carried (hk : Kept env allowed J E) : Carried env allowed fun v =>
    J v.trace v.rollout ∧ Each (Saves J) v.trace ∧ Each E v.trace where
  act v a ha hg hw hs h := by
    obtain ⟨hJ, hsaves, hE⟩ := h
    exact ⟨hk.act v a ha hg hw hs hJ, saves_run hk.grows hw hJ hsaves,
      hk.each_run ha hg hw hs hJ hE⟩
  others v a r ha hg hw hs _ h h' := by
    obtain ⟨hJ, hsaves, hE⟩ := h
    refine ⟨?_, saves_run hk.grows hw hJ hsaves, hk.each_run ha hg hw hs hJ hE⟩
    show J (a.run v).trace r
    rw [Act.trace_run]
    exact hk.grows _ _ _ h'.1
  idle _ h := h
  compact s entries epoch ok landed hc _ h := by
    intro r hr
    obtain ⟨hJ, hsaves, hE⟩ := h r hr
    refine ⟨hk.grows _ _ _ hJ, hsaves.note fun r' he => ?_, hE.note (hk.rewritten ..)⟩
    cases landed with
    | none => cases he
    | some n => exact (h _ (.inr (hc.held r' (List.mem_of_mem_take he)))).1
  opened s incarnation _ h := by
    intro r hr
    obtain ⟨hJ, hsaves, hE⟩ := h r hr
    exact ⟨hk.grows _ _ _ hJ, hsaves.note fun r' he => (by cases he), hE.note (hk.opened ..)⟩
  recovered s rollout h := by
    intro r hr
    obtain ⟨hJ, hsaves, hE⟩ := h r hr
    exact ⟨hk.grows _ _ _ hJ, hsaves.note fun r' he => (by cases he), hE.note (hk.recovered ..)⟩
  crash s trace ht _ h := by
    obtain ⟨-, hsaves, hE⟩ := h.blank
    rintro r (hr | hr)
    · exact ⟨hk.blank _ r hr, hsaves.initial ht, hE.initial ht⟩
    · cases hr
  adopt _ s r t₁ t₂ e ht he _ _ _ _ _ _ h := by
    obtain ⟨-, hsaves, hE⟩ := h.blank
    refine ⟨?_, hsaves, hE⟩
    have hJ := hsaves t₁ e t₂ ht r he
    change J s.trace r.core
    rw [ht]
    exact hk.grows _ _ _ hJ

theorem Kept.start (hk : Kept env allowed J E) : (Sys.fresh []).Holds fun v =>
    J v.trace v.rollout ∧ Each (Saves J) v.trace ∧ Each E v.trace := by
  rintro r (hr | hr)
  · exact ⟨hk.blank _ r hr, .nil, .nil⟩
  · cases hr

end Kept

end RolloutFabric
