/-
The accounts along a run of a controller: a crash keeps a part of the journal, and a restart reads
the rollouts back from their snapshots, whose accounts were right when they were written.
-/
import RolloutFabric.Safety.Audits

namespace RolloutFabric

open Program

variable {ρ : Type} {env : Env ρ} {strict : Prop} {P : StageLaw} {D : StageTally → Prop}
  {E : Event → Prop}

/-! ## Inputs -/

namespace Orchestrator

variable {o : Orchestrator ρ}

/-- What an input has to find, so that the accounts are right after it. -/
def Ready (env : Env ρ) (strict : Prop) (D : StageTally → Prop) (o : Orchestrator ρ) :
    Input → Prop
  | .create .. => strict → o.NewRollout
  | .regenerate id _ => strict → ∀ k, o.index id = some k → (o.world k {}).NewGeneration
  | .reconcile id => strict → o.Reconcilable env id
  | .tick => ∀ x ∈ o.held, ∀ s ∈ x.rollout.stages, D s.tally
  | _ => True

/-- Whatever is put in, the accounts stay right. -/
theorem Audited.step (hK : Lawful env strict P D E) (h : o.Audited strict P E)
    (hs : o.sys.Holds (View.Sound env)) {i : Input} (hi : o.Ready env strict D i) :
    (o.step env i).Audited strict P E := by
  have hcommand {id : RolloutId} {context : CommandContext} {body : ChangePlan → Op ρ Bytes}
      (hbody : ∀ rest plan, Upholds (Books strict P E rest) (body plan)) :
      (o.command id context body).2.Audited strict P E :=
    h.command fun k hk => Upholds.here (hbody _ _) (h.books (index_lt hk))
  have hI (rest : List RolloutTally) := @books_settled _ _ _ _ _ _ rest hK
  cases i with
  | create plan context => exact h.create hK hi
  | arm id context => exact hcommand fun rest _ => armRollout_upholds (hI rest).toLogged
  | start id context => exact hcommand fun rest _ => startRollout_upholds (hI rest).toLogged
  | pause id context reason => exact hcommand fun rest _ => pauseRollout_upholds (hI rest).toLogged
  | resume id context => exact hcommand fun rest _ => resumeRollout_upholds (hI rest).toLogged
  | abort id context reason => exact hcommand fun rest _ => abortRollout_upholds (hI rest)
  | approveGate id gate context => exact hcommand fun rest _ => approvePending_upholds (hI rest)
  | retire id context => exact hcommand fun rest _ => retireRollout_upholds (hI rest).toLogged
  | regenerate id context =>
    refine h.command fun k hk => ?_
    have hlt := index_lt hk
    have hmem : o.heldAt k ∈ o.held := (held_perm hlt).mem_iff.2 (List.mem_cons_self ..)
    exact regenerateRollout_books hK (h.orders _ hmem) (h.books hlt) fun hstrict =>
      hi hstrict k hk
  | setInventory inventory => exact h.of_held rfl rfl
  | onEvidence record =>
    refine h.of_held rfl ?_
    show (o.impl.onEvidence env.limits record).trace = o.impl.trace
    unfold Impl.onEvidence
    split <;> rfl
  | onAdapterEvent event => exact h.of_held rfl rfl
  | reconcile id => exact h.reconcile hK hs hi
  | tick => exact h.tick hK hi
  | noteShutdown => exact h.of_held rfl rfl

end Orchestrator

/-! ## A restart -/

/-- What a law says of a trace it says of every longer one. -/
def StageLaw.Grows (P : StageLaw) : Prop := ∀ r g s t l, P r g s t → P r g s (t ++ l)

/-- The rollout counts its attempts as a snapshot of the trace does. -/
def Recounted (trace : List Event) (r : Rollout) : Prop :=
  ∃ r₀ t₁ e t₂, trace = t₁ ++ e :: t₂ ∧ e.Lands r₀ ∧ r.tally = r₀.tally

theorem Recounted.mono {t t' : List Event} {r : Rollout} (h : Recounted t r) (ht : t <+: t') :
    Recounted t' r := by
  obtain ⟨r₀, t₁, e, t₂, rfl, he, hr⟩ := h
  obtain ⟨l, rfl⟩ := ht
  exact ⟨r₀, t₁, e, t₂ ++ l, by simp, he, hr⟩

theorem Rollout.tally_persisted (r : Rollout) : r.persisted.tally = r.tally := by
  simp only [persisted, tally, List.map_map]
  rfl

/-- The accounts of a snapshot are right for whoever reads it back. -/
theorem Recounted.accounted {t : List Event} {r : Rollout} (h : Recounted t r)
    (hP : P.Grows) (ht : Each (Booked strict P E) t) : r.tally.Accounted strict P t := by
  obtain ⟨r₀, t₁, e, t₂, rfl, he, hr⟩ := h
  have hbooked := (ht t₁ e t₂ rfl).1 r₀ he
  rw [hr]
  exact ⟨fun s hs => hP _ _ _ _ _ (hbooked.stages s hs), hbooked.ids⟩

theorem Orchestrator.without_apart {o : Orchestrator ρ} (id : RolloutId)
    (h : (o.held.map fun h => h.rollout.id).Nodup) : ∀ x ∈ o.without id, x.rollout.id ≠ id := by
  intro x hx
  unfold without at hx
  split at hx
  · next k hk =>
    have hperm := (held_perm (index_lt hk)).map fun h => h.rollout.id
    have hnodup := hperm.nodup_iff.1 h
    rw [List.map_cons, List.nodup_cons, index_id hk] at hnodup
    rintro rfl
    exact hnodup.1 (List.mem_map_of_mem hx)
  · next hnone =>
    have := List.findIdx?_eq_none_iff.1 hnone x hx
    simpa using this

/-- The accounts are right, and the trace goes on from this part. -/
def Continued (strict : Prop) (P : StageLaw) (E : Event → Prop) (rest : List RolloutTally)
    (trace : List Event) (l : Tally) : Prop :=
  Books strict P E rest l ∧ trace <+: l.trace

theorem continued_settled {rest : List RolloutTally} {trace : List Event}
    (hK : Lawful env strict P D E) : Settled strict (Continued strict P E rest trace) where
  log := fun l e he h =>
    ⟨(books_settled hK).log l e he h.1, h.2.trans (List.prefix_append ..)⟩
  settle := fun l j i p t t' hshows hfollows hretries h =>
    ⟨(books_settled hK).settle l j i p t t' hshows hfollows hretries h.1, h.2⟩

theorem restoreTargets_upholds {I : Tally → Prop} {previous : IncarnationId} {r : Rollout}
    (hI : Settled strict I) : Upholds I (restoreTargets env previous r) :=
  .forM fun _ _ => .forM fun _ _ => restoreTarget_upholds hI

theorem restore_audited {o : Orchestrator ρ} {r : Rollout} {plan : ChangePlan}
    {trace : List Event} (hK : Lawful env strict P D E) (hP : P.Grows)
    (h : o.Audited strict P E ∧ trace <+: o.impl.trace) (hr : Recounted o.impl.trace r) :
    (restore env o r plan).2.Audited strict P E
      ∧ trace <+: (restore env o r plan).2.impl.trace := by
  unfold restore
  split
  · exact h
  cases hplan : plan.validate env.limits with
  | error s => exact h
  | ok plan =>
  dsimp only
  split
  · exact h
  split
  · exact h
  obtain ⟨h, hgrown⟩ := h
  have hsub := o.without_sublist r.id
  -- the snapshot adopted is one that was recounted, so its accounts are in the trace
  have hstart : Continued strict P E ((o.without r.id).map fun h => h.rollout.tally) trace
      (World.tally ⟨{ o.impl with trace := o.impl.trace ++ [.restored r] }, r.adopt o.impl, {},
        none⟩) := by
    refine ⟨?_, hgrown.trans (List.prefix_append ..)⟩
    refine ⟨(hr.accounted hP h.recorded).log hK rfl, fun x hx => ?_, fun hs x hx => ?_, ?_⟩
    · obtain ⟨y, hy, rfl⟩ := List.mem_map.1 hx
      exact (h.accounts y (hsub.subset hy)).log hK rfl
    · obtain ⟨y, hy, rfl⟩ := List.mem_map.1 hx
      exact o.without_apart r.id (h.apart hs) y hy
    · exact h.recorded.note ⟨fun _ hl => (by cases hl), hK.plain rfl⟩
  -- releasing what was in flight settles targets and nothing more
  have hbooks := Triple.after (@restoreTargets_upholds _ env _ _ r.incarnation (r.adopt o.impl)
    (continued_settled hK)) hstart
  change Orchestrator.Audited strict P E
      { impl := { ((restoreTargets env r.incarnation (r.adopt o.impl)).exec _).2.impl with counters := _ }
        held := o.without r.id
          ++ [⟨((restoreTargets env r.incarnation (r.adopt o.impl)).exec _).2.rollout, plan⟩] }
    ∧ trace <+: ((restoreTargets env r.incarnation (r.adopt o.impl)).exec _).2.impl.trace
  generalize (restoreTargets env r.incarnation (r.adopt o.impl)).exec _ = result at hbooks ⊢
  obtain ⟨_, w⟩ := result
  obtain ⟨hbooks, hgrown⟩ := hbooks
  refine ⟨?_, hgrown⟩
  exact
    { accounts := by
        intro x hx
        rcases List.mem_append.1 hx with hx | hx
        · exact hbooks.others _ (List.mem_map_of_mem hx)
        · rw [List.mem_singleton.1 hx]
          exact hbooks.own
      apart := by
        intro hs
        rw [List.map_append, List.map_singleton, List.nodup_append]
        refine ⟨(hsub.map _).nodup (h.apart hs), by simp, fun id hmem id' hmem' => ?_⟩
        obtain ⟨x, hx, rfl⟩ := List.mem_map.1 hmem
        rw [List.mem_singleton.1 hmem']
        exact hbooks.apart hs _ (List.mem_map_of_mem hx)
      orders := by
        intro x hx
        rcases List.mem_append.1 hx with hx | hx
        · exact h.orders x (hsub.subset hx)
        · rw [List.mem_singleton.1 hx]
          exact ChangePlan.order_nodup hplan
      recorded := hbooks.recorded }

theorem adoptAll_audited {o : Orchestrator ρ} {plans : Map PlanId ChangePlan} {rs : List Rollout}
    {trace : List Event} (hK : Lawful env strict P D E) (hP : P.Grows)
    (h : o.Audited strict P E ∧ trace <+: o.impl.trace) (hr : ∀ r ∈ rs, Recounted trace r) :
    (rs.foldl (adoptRollout env plans) o).Audited strict P E := by
  induction rs generalizing o with
  | nil => exact h.1
  | cons r rs ih =>
    have hadopted : (adoptRollout env plans o r).Audited strict P E
        ∧ trace <+: (adoptRollout env plans o r).impl.trace := by
      unfold adoptRollout
      cases plans.lookup r.planId with
      | none => exact h
      | some plan => exact restore_audited hK hP h ((hr r (List.mem_cons_self ..)).mono h.2)
    exact ih hadopted fun r' hr' => hr r' (List.mem_cons_of_mem _ hr')

/-! ## Runs -/

/-- The accounts of a controller, and of the journal one that stopped leaves. -/
def Node.Audited (strict : Prop) (P : StageLaw) (E : Event → Prop) : Node ρ → Prop
  | .running o => o.Audited strict P E
  | .stopped trace _ => Each (Booked strict P E) trace

/-- The claim of the next epoch is written on behalf of no rollout. -/
theorem claimed_continued {entry : JournalEntry} {incarnation : IncarnationId} {trace : List Event}
    {w w' : World ρ} {claimed : Except Status Unit} (hK : Lawful env strict P D E)
    (hexec : (appendJournal env entry).exec w = (claimed, w'))
    (hentry : ∀ (l : Tally) epoch ok landed, l.Logs (.appended entry epoch ok landed))
    (h : Each (Booked strict P E) trace) (hw : w.rollout.stages = [])
    (htrace : w.impl.trace = trace ++ [.opened incarnation]) :
    Each (Booked strict P E) w'.impl.trace ∧ trace <+: w'.impl.trace := by
  have hstart : Continued strict P E [] trace w.tally := by
    have hstages : w.tally.rollout.stages = [] := congrArg (List.map StageRuntime.tally) hw
    refine ⟨⟨accounted_nil hstages, nofun, fun _ => nofun, ?_⟩, ?_⟩
    · show Each (Booked strict P E) w.impl.trace
      rw [htrace]
      exact h.note ⟨fun _ hl => (by cases hl), hK.plain rfl⟩
    · exact ⟨_, htrace.symm⟩
  have hkeeps : Upholds (Continued strict P E [] trace) (appendJournal env entry) :=
    appendJournal_upholds (continued_settled hK).toLogged fun l epoch ok landed _ =>
      hentry l epoch ok landed
  have hclaimed := Triple.after hkeeps hstart
  rw [hexec] at hclaimed
  exact ⟨hclaimed.1.recorded, hclaimed.2⟩

theorem audited_nil {t : List Event} (h : Each (Booked strict P E) t) : Audited strict P E [] t where
  accounts := List.forall_mem_nil _
  apart := fun _ => List.nodup_nil
  orders := List.forall_mem_nil _
  recorded := h

theorem openController_audited {entropy : Entropy} {trace : List Event} {outside : ρ}
    (hK : Lawful env strict P D E) (hP : P.Grows) (h : Each (Booked strict P E) trace)
    (hs : (Sys.fresh trace).Holds (View.Sound env)) :
    (openController env entropy trace outside).Audited strict P E := by
  unfold openController
  split
  · exact h
  next hlimits =>
  dsimp only
  generalize hexec : Program.exec (appendJournal env _) _ = result
  obtain ⟨claimed, w⟩ := result
  obtain ⟨hrecorded, hgrown⟩ : Each (Booked strict P E) w.impl.trace ∧ trace <+: w.impl.trace :=
    claimed_continued hK hexec (fun _ _ _ _ => trivial) h rfl rfl
  dsimp only
  split
  · next found hscan =>
    refine adoptAll_audited hK hP ⟨audited_nil hrecorded, hgrown⟩ fun r hr => ?_
    obtain ⟨r₀, t₁, e, t₂, ht, he, rfl⟩ :=
      persisted_of_scan hs.blank.landed (by simpa using hlimits) hscan hr
    exact ⟨r₀, t₁, e, t₂, ht, he, r₀.tally_persisted⟩
  · exact hrecorded

/-- What a step has to find, a crash as the input it interrupts. -/
def Step.Ready (env : Env ρ) (strict : Prop) (D : StageTally → Prop) (n : Node ρ) : Step ρ → Prop
  | .input i | .crash i _ _ => ∀ o, n = .running o → o.Ready env strict D i
  | .restart _ => True

theorem Node.Audited.step {n : Node ρ} {step : Step ρ} (hK : Lawful env strict P D E)
    (hP : P.Grows) (h : n.Audited strict P E) (hs : n.sys.Holds (View.Sound env))
    (hready : step.Ready env strict D n) : (n.step env step).Audited strict P E := by
  cases n with
  | running o =>
    cases step with
    | input i => exact Orchestrator.Audited.step hK h hs (hready o rfl)
    | crash during boundary outside =>
      have hstep := Orchestrator.Audited.step hK h hs (hready o rfl)
      exact hstep.recorded.initial (List.take_prefix ..)
    | restart entropy => exact h
  | stopped trace outside =>
    cases step with
    | restart entropy => exact openController_audited hK hP h hs
    | input i => exact h
    | crash during boundary outside => exact h

/-- Every step of the run finds what it has to. -/
def ReadyRun (env : Env ρ) (strict : Prop) (D : StageTally → Prop) (n : Node ρ)
    (steps : List (Step ρ)) : Prop :=
  ∀ before step after, steps = before ++ step :: after → step.Ready env strict D (n.run env before)

theorem Node.Initial.audited {n : Node ρ} (hn : n.Initial) : n.Audited strict P E := by
  cases hn with
  | stopped outside => exact .nil
  | running o held attempts trace storage =>
    show RolloutFabric.Audited strict P E o.held o.impl.trace
    rw [held, trace]
    exact audited_nil .nil

/-- In every state a run reaches, crashes and restarts included, the accounts are right. -/
theorem audited_of_run (hK : Lawful env strict P D E) (hP : P.Grows) {n : Node ρ} (hn : n.Initial)
    {steps : List (Step ρ)} (hready : ReadyRun env strict D n steps) :
    (n.run env steps).Audited strict P E := by
  induction steps using List.reverseRecOn with
  | nil => exact hn.audited
  | append_singleton steps step ih =>
    rw [Node.run_append]
    refine (ih fun before s after heq => ?_).step hK hP (sound_of_run hn steps)
      (hready steps step [] rfl)
    exact hready before s (after ++ [step]) (by rw [heq]; simp)

theorem Node.Audited.recorded {n : Node ρ} (h : n.Audited strict P E) :
    Each (Booked strict P E) n.trace := by
  cases n with
  | running o => exact RolloutFabric.Audited.recorded h
  | stopped trace outside => exact h

theorem Node.Audited.stages {n : Node ρ} (h : n.Audited strict P E) {x : Held} (hx : x ∈ n.held) :
    ∀ s ∈ x.rollout.stages, P x.rollout.id x.rollout.generation s.tally n.trace := by
  cases n with
  | running o => exact fun s hs => (h.accounts x hx).stages _ (List.mem_map_of_mem hs)
  | stopped trace outside => cases hx

/-! ## Runs that are known by what their ticks find -/

/-- Every tick of the run finds the stages of what is held as they have to be. -/
abbrev TicksFind (env : Env ρ) (D : StageTally → Prop) : Node ρ → List (Step ρ) → Prop :=
  StepsFind env fun n step =>
    step.ticks = true → ∀ h ∈ n.held, ∀ s ∈ h.rollout.stages, D s.tally

/-- Nothing else is asked of a run whose rollouts are not told apart. -/
theorem TicksFind.ready {n : Node ρ} {steps : List (Step ρ)} (h : TicksFind env D n steps) :
    ReadyRun env False D n steps := by
  intro before step after heq
  have hfound := StepsFind.found h heq
  have hinput {i : Input} (hi : i = .tick → step.ticks = true) (o : Orchestrator ρ)
      (ho : n.run env before = .running o) : o.Ready env False D i := by
    rw [ho] at hfound
    cases i with
    | tick => exact hfound (hi rfl)
    | create | regenerate | reconcile => exact False.elim
    | _ => trivial
  cases step with
  | input i => exact hinput fun hi => by subst hi; rfl
  | crash i boundary outside => exact hinput fun hi => by subst hi; rfl
  | restart entropy => trivial

end RolloutFabric
