/-
The accounts of a whole controller: of every rollout it holds and of every snapshot it wrote.
They are right after every step of a run that leaves the stages as they have to be before a tick.
-/
import RolloutFabric.Domain.Order
import RolloutFabric.Safety.Batches
import RolloutFabric.Safety.Cohorts
import RolloutFabric.Safety.Releases

namespace RolloutFabric

open Program

variable {ρ : Type} {env : Env ρ} {strict : Prop} {P : StageLaw} {D : StageTally → Prop}
  {E : Event → Prop} {rest : List RolloutTally} {now : Timestamp}

/-! ## Building a rollout -/

/-- The rollout and its generation are not dispatched for yet. -/
def Tally.Unused (l : Tally) : Prop :=
  ∀ a step, .dispatched a step ∈ l.trace →
    a.rollout ≠ l.rollout.id ∨ a.generation ≠ l.rollout.generation

/-- While a rollout is built: its stages are those of the order so far. -/
structure Founding (strict : Prop) (P : StageLaw) (E : Event → Prop) (rest : List RolloutTally)
    (done : List StageId) (l : Tally) : Prop where
  books : Books strict P E rest l
  unused : strict → l.Unused
  ids : l.rollout.stages.map StageTally.id = done

theorem Founding.logged (hK : Lawful env strict P D E) {done : List StageId} :
    Logged (Founding strict P E rest done) where
  log := by
    intro l e he h
    refine ⟨(books_settled hK).log l e he h.books, fun hs a step hmem => ?_, h.ids⟩
    rcases List.mem_append.1 hmem with hmem | hmem
    · exact h.unused hs a step hmem
    · have hplain := he.plain.1
      rw [← List.mem_singleton.1 hmem] at hplain
      cases hplain

theorem StageSpec.begin_blank {spec : StageSpec} {membership : CohortMembership}
    (h : membership.members.Pairwise (· < ·)) : (spec.begin membership).tally.Blank where
  sorted := by
    simpa [StageTally.Sorted, StageRuntime.tally, StageSpec.begin, TargetRuntime.tally,
      Function.comp_def] using h
  uncleared := rfl
  targets := by
    intro t ht
    simp only [StageRuntime.tally, StageSpec.begin, List.map_map, List.mem_map] at ht
    obtain ⟨member, -, rfl⟩ := ht
    exact ⟨rfl, rfl, rfl⟩

theorem ChangePlan.findStage_id {plan : ChangePlan} {id : StageId} {spec : StageSpec}
    (h : plan.findStage id = some spec) : spec.id = id := by
  have := List.find?_some h
  simpa using this

/-- A stage is added behind the others. -/
theorem Founding.push {l : Tally} {done : List StageId} {s : StageTally}
    (hK : Lawful env strict P D E) (h : Founding strict P E rest done l) (hs : s.Blank)
    (hnew : strict → s.id ∉ done) :
    Founding strict P E rest (done ++ [s.id])
      { l with rollout := { l.rollout with stages := l.rollout.stages ++ [s] } } where
  books := by
    refine ⟨⟨fun x hx => ?_, fun hstrict => ?_⟩, h.books.others, h.books.apart, h.books.recorded⟩
    · rcases List.mem_append.1 hx with hx | hx
      · exact h.books.own.stages x hx
      · rw [List.mem_singleton.1 hx]
        exact hK.blank hs h.unused
    · rw [List.map_append, List.nodup_append]
      refine ⟨h.books.own.ids hstrict, by simp, fun x hx y hy hxy => ?_⟩
      rw [h.ids] at hx
      rw [List.map_singleton, List.mem_singleton] at hy
      exact hnew hstrict (hy ▸ hxy ▸ hx)
  unused := h.unused
  ids := by simp [h.ids]

theorem addStage_founding {plan : ChangePlan} {failed : StageSpec → Status → Status}
    {truncated : StageSpec → CohortMaterialization → Status} {refuseEmpty : Bool} {id : StageId}
    {done : List StageId} (hK : Lawful env strict P D E) (hnew : strict → id ∉ done) :
    Triple (fun w => Founding strict P E rest done w.tally)
      (addStage env plan now failed truncated refuseEmpty id)
      (fun _ w => Founding strict P E rest (done ++ [id]) w.tally)
      fun _ w => Books strict P E rest w.tally := by
  have hbooks (l : Tally) (h : Founding strict P E rest done l) : Books strict P E rest l := h.books
  unfold addStage
  split
  · exact .throw fun w hw => hw.books
  next spec hspec =>
  refine triple_get_bind fun w _ => ?_
  dsimp only
  split
  · exact .throw fun w hw => hw.books
  next cohort hcohort =>
  split
  · exact .throw_bind fun w hw => hw.books
  refine triple_read_bind fun minted _ => ?_
  refine Upholds.before (.updateImpl fun _ => rfl) hbooks fun _ => ?_
  split
  · exact .throw_bind fun w hw => hw.books
  refine .modify fun w hw => ?_
  have hblank : (spec.begin { cohort.membership with
      id := (minted.impl.ids.next .cohort .cohort).1 }).tally.Blank :=
    StageSpec.begin_blank (materializeCohort_sorted hcohort)
  have hid := ChangePlan.findStage_id hspec
  have hpush := hw.push hK hblank fun hs => (by rw [← hid] at hnew; exact hnew hs)
  rw [show StageTally.id _ = id from hid] at hpush
  refine (congrArg (Founding strict P E rest (done ++ [id])) ?_).mpr hpush
  simp [World.tally, Rollout.tally]

/-- The loop over the order of the plan. -/
theorem addStages_founding {plan : ChangePlan} {failed : StageSpec → Status → Status}
    {truncated : StageSpec → CohortMaterialization → Status} {refuseEmpty : Bool}
    (hK : Lawful env strict P D E) (hnodup : plan.order.Nodup) :
    Triple (fun w => Founding strict P E rest [] w.tally)
      (plan.order.forM (addStage env plan now failed truncated refuseEmpty))
      (fun _ w => Founding strict P E rest plan.order w.tally)
      fun _ w => Books strict P E rest w.tally := by
  refine Triple.forM_upTo (I := fun done (w : World ρ) => Founding strict P E rest done w.tally)
    fun done id hdone => addStage_founding hK fun _ => ?_
  have hnew := hdone.sublist.nodup hnodup
  rw [List.nodup_append] at hnew
  exact fun hmem => hnew.2.2 id hmem id (List.mem_singleton_self id) rfl

theorem Rollout.tally_linkSuccessors (r : Rollout) : r.linkSuccessors.tally = r.tally := by
  have hstages := linkSuccessors_stages (g := StageRuntime.tally) (fun _ _ => rfl) r
  rw [linkSuccessors_rest r]
  simp only [tally, hstages]

theorem buildRollout_books {plan : ChangePlan} {context : CommandContext}
    (hK : Lawful env strict P D E) (hnodup : plan.order.Nodup) :
    Triple (fun w => Founding strict P E rest [] w.tally) (buildRollout env plan context now)
      (fun _ w => Books strict P E rest w.tally) fun _ w => Books strict P E rest w.tally := by
  have hI := (@books_settled _ _ _ _ _ _ rest hK).toLogged
  unfold buildRollout
  refine Triple.bind (addStages_founding hK hnodup) fun _ => ?_
  refine Triple.weaken (P := fun w => Books strict P E rest w.tally) ?_ (fun _ h => h.books)
    (fun _ _ h => h) fun _ _ h => h
  refine Upholds.bind (.updateRollout Rollout.tally_linkSuccessors) fun _ => ?_
  refine .bind (commit_upholds hI) fun _ => .bind (transition_upholds hI) fun _ => ?_
  refine .read_bind fun inventory => ?_
  refine .bind (appendJournal_upholds hI fun _ _ _ _ _ => trivial) fun _ => ?_
  exact appendJournal_upholds hI fun _ _ _ _ _ => trivial

/-- A rollout without stages keeps every law. -/
theorem accounted_nil {r : RolloutTally} {t : List Event} (h : r.stages = []) :
    r.Accounted strict P t where
  stages := fun s hs => (by rw [h] at hs; cases hs)
  ids := fun _ => (by rw [h]; exact List.nodup_nil)

/-- The generation that is minted next for the rollout is new. -/
def World.NewGeneration (w : World ρ) : Prop :=
  ∀ a step, .dispatched a step ∈ w.impl.trace →
    a.rollout ≠ w.rollout.id ∨ a.generation ≠ (w.impl.ids.next .generation .generation).1

theorem regenerateRollout_books {plan : ChangePlan} {context : CommandContext} {w : World ρ}
    (hK : Lawful env strict P D E) (hnodup : plan.order.Nodup)
    (hw : Books strict P E rest w.tally) (hnew : strict → w.NewGeneration) :
    Triple (fun s => s = w) (regenerateRollout env context plan)
      (fun _ w => Books strict P E rest w.tally) fun _ w => Books strict P E rest w.tally := by
  have hI := (@books_settled _ _ _ _ _ _ rest hK).toLogged
  let Kept (w' : World ρ) : Prop := w'.tally = w.tally ∧ w'.impl.ids = w.impl.ids
  suffices hbody : Triple Kept (_ : Op ρ Bytes) (fun _ w => Books strict P E rest w.tally)
      fun _ w => Books strict P E rest w.tally from
    hbody.weaken (fun s hs => hs ▸ ⟨rfl, rfl⟩) (fun _ _ h => h) fun _ _ h => h
  unfold regenerateRollout
  refine Triple.bind (Q := fun _ => Kept) ?_ fun _ => ?_
  · unfold requireState
    refine triple_read_bind fun w' _ => ?_
    split
    · exact .throw fun s hs => hs.1 ▸ hw
    · exact .pure fun s hs => hs
  refine triple_ask_bind (fun _ _ h => h) fun now => triple_read_bind fun w' hw' => ?_
  obtain ⟨htally, hids⟩ := hw'
  refine Triple.bind (Q := fun _ (w : World ρ) => w.tally = w'.tally) (.modify fun s hs => ?_)
    fun _ => ?_
  · exact hs.1.trans htally.symm
  refine Triple.bind (Q := fun _ (w : World ρ) => Founding strict P E rest [] w.tally)
    (.modify fun s hs => ?_) fun _ => ?_
  · have hs : s.tally = w.tally := hs.trans htally
    have hid : s.rollout.id = w.rollout.id := congrArg (fun l => l.rollout.id) hs
    have htrace : s.impl.trace = w.impl.trace := congrArg Tally.trace hs
    show Founding strict P E rest []
      ⟨⟨s.rollout.id, (w'.impl.ids.next .generation .generation).1, []⟩, s.impl.trace⟩
    rw [hid, htrace, hids]
    exact ⟨⟨accounted_nil rfl, hw.others, hw.apart, hw.recorded⟩, hnew, rfl⟩
  refine Triple.bind (addStages_founding hK hnodup) fun _ => ?_
  refine Triple.weaken (P := fun w => Books strict P E rest w.tally) ?_ (fun _ h => h.books)
    (fun _ _ h => h) fun _ _ h => h
  refine Upholds.bind (.updateRollout Rollout.tally_linkSuccessors) fun _ => ?_
  refine .bind (commit_upholds hI) fun _ => .bind (.updateRollout fun _ => rfl) fun _ => ?_
  exact .bind (persistRollout_upholds hI) fun _ => .read_bind fun r => .pure _

/-! ## A controller -/

/-- The accounts of everything that is held, and of everything that was written. -/
structure Audited (strict : Prop) (P : StageLaw) (E : Event → Prop) (held : List Held)
    (t : List Event) : Prop where
  accounts : ∀ h ∈ held, h.rollout.tally.Accounted strict P t
  apart : strict → (held.map fun h => h.rollout.id).Nodup
  orders : ∀ h ∈ held, h.plan.order.Nodup
  recorded : Each (Booked strict P E) t

namespace Orchestrator

variable {o : Orchestrator ρ} {k : Nat} {report : TickReport}

def Audited (strict : Prop) (P : StageLaw) (E : Event → Prop) (o : Orchestrator ρ) : Prop :=
  RolloutFabric.Audited strict P E o.held o.impl.trace

/-- The rollouts beside the one that is worked on. -/
def others (o : Orchestrator ρ) (k : Nat) : List RolloutTally :=
  (o.held.eraseIdx k).map fun h => h.rollout.tally

theorem held_perm (hk : k < o.held.length) :
    o.held.Perm (o.heldAt k :: o.held.eraseIdx k) := by
  have hat : o.heldAt k = o.held[k] := by simp [heldAt, hk]
  rw [hat]
  exact (List.getElem_cons_eraseIdx_perm hk).symm

theorem put_perm (hk : k < o.held.length) (w : World ρ) :
    (o.put k w).held.Perm ({ o.heldAt k with rollout := w.rollout } :: o.held.eraseIdx k) := by
  have hat : o.heldAt k = o.held[k] := by simp [heldAt, hk]
  rw [hat, List.eraseIdx_eq_take_drop_succ]
  show (o.held.modify k fun h => { h with rollout := w.rollout }).Perm _
  rw [List.modify_eq_take_cons_drop hk]
  exact List.perm_middle

theorem Audited.books (h : o.Audited strict P E) (hk : k < o.held.length) :
    Books strict P E (o.others k) (o.world k report).tally := by
  have hperm := held_perm hk
  refine ⟨h.accounts _ (hperm.mem_iff.2 (List.mem_cons_self ..)), fun r hr => ?_,
    fun hs r hr => ?_, h.recorded⟩
  · obtain ⟨x, hx, rfl⟩ := List.mem_map.1 hr
    exact h.accounts x (hperm.mem_iff.2 (List.mem_cons_of_mem _ hx))
  · obtain ⟨x, hx, rfl⟩ := List.mem_map.1 hr
    have hnodup := (hperm.map fun h => h.rollout.id).nodup_iff.1 (h.apart hs)
    rw [List.map_cons, List.nodup_cons] at hnodup
    intro hsame
    exact hnodup.1 (List.mem_map.2 ⟨x, hx, hsame⟩)

theorem Audited.put {w : World ρ} (h : o.Audited strict P E) (hk : k < o.held.length)
    (hw : Books strict P E (o.others k) w.tally) : (o.put k w).Audited strict P E where
  accounts := by
    intro x hx
    rcases List.mem_cons.1 ((put_perm hk w).mem_iff.1 hx) with rfl | hx
    · exact hw.own
    · exact hw.others _ (List.mem_map.2 ⟨x, hx, rfl⟩)
  apart := by
    intro hs
    have hnodup := ((held_perm hk).map fun h => h.rollout.id).nodup_iff.1 (h.apart hs)
    rw [List.map_cons, List.nodup_cons] at hnodup
    rw [((put_perm hk w).map fun h => h.rollout.id).nodup_iff, List.map_cons, List.nodup_cons]
    refine ⟨fun hmem => ?_, hnodup.2⟩
    obtain ⟨x, hx, hid⟩ := List.mem_map.1 hmem
    exact hw.apart hs _ (List.mem_map.2 ⟨x, hx, rfl⟩) hid
  orders := by
    intro x hx
    rcases List.mem_cons.1 ((put_perm hk w).mem_iff.1 hx) with rfl | hx
    · exact h.orders (o.heldAt k) ((held_perm hk).mem_iff.2 (List.mem_cons_self ..))
    · exact h.orders x ((held_perm hk).mem_iff.2 (List.mem_cons_of_mem _ hx))
  recorded := hw.recorded

/-- A program is run on one of the rollouts. -/
theorem Audited.on {α : Type} {m : Op ρ α} (h : o.Audited strict P E) (hk : k < o.held.length)
    (hm : Upholds (Books strict P E (o.others k)) m) :
    (o.put k (m.exec (o.world k report)).2).Audited strict P E :=
  h.put hk (Triple.after hm (h.books hk))

/-- The trace and what is held are all that counts. -/
theorem Audited.of_held {o' : Orchestrator ρ} (h : o.Audited strict P E) (hheld : o'.held = o.held)
    (htrace : o'.impl.trace = o.impl.trace) : o'.Audited strict P E := by
  unfold Audited
  rw [hheld, htrace]
  exact h

theorem Audited.command {id : RolloutId} {context : CommandContext} {body : ChangePlan → Op ρ Bytes}
    (h : o.Audited strict P E)
    (hbody : ∀ k, o.index id = some k → Triple (fun s => s = o.world k {})
      (body (o.heldAt k).plan) (fun _ w => Books strict P E (o.others k) w.tally)
      fun _ w => Books strict P E (o.others k) w.tally) :
    (o.command id context body).2.Audited strict P E := by
  unfold Orchestrator.command
  dsimp only
  split
  · exact h
  split
  · exact h
  next k hk =>
  split
  · exact h
  · exact h.put (index_lt hk) (Triple.after (hbody k hk) rfl)

/-- The rollout that is minted next is new. -/
def NewRollout (o : Orchestrator ρ) : Prop :=
  (∀ h ∈ o.held, h.rollout.id ≠ (o.impl.ids.next .rollout .rollout).1)
    ∧ ∀ a step, .dispatched a step ∈ o.impl.trace →
      a.rollout ≠ (o.impl.ids.next .rollout .rollout).1

theorem Audited.create {plan : ChangePlan} {context : CommandContext}
    (hK : Lawful env strict P D E) (h : o.Audited strict P E) (hnew : strict → o.NewRollout) :
    (createRollout env o plan context).2.Audited strict P E := by
  unfold createRollout
  dsimp only
  split
  · exact h
  split
  · exact h
  cases hplan : plan.validate env.limits with
  | error s => exact h
  | ok plan =>
  dsimp only
  split
  · exact h
  have hnodup := ChangePlan.order_nodup hplan
  -- nothing of the new identifier is in the trace yet
  have hstart : Founding strict P E (o.held.map fun h => h.rollout.tally) []
      (World.tally ⟨{ o.impl with
          outside := (env.clock o.impl.outside).2
          ids := (freshRollout o.impl plan context (env.clock o.impl.outside).1).2 },
        (freshRollout o.impl plan context (env.clock o.impl.outside).1).1, {}, none⟩) := by
    refine ⟨⟨accounted_nil rfl, fun r hr => ?_, fun hs r hr => ?_, h.recorded⟩, fun hs a step ha => ?_,
      rfl⟩
    · obtain ⟨x, hx, rfl⟩ := List.mem_map.1 hr
      exact h.accounts x hx
    · obtain ⟨x, hx, rfl⟩ := List.mem_map.1 hr
      exact (hnew hs).1 x hx
    · exact .inl ((hnew hs).2 a step ha)
  have hbooks := Triple.after (@buildRollout_books _ env _ _ _ _ _
    (env.clock o.impl.outside).1 _ context hK hnodup) hstart
  generalize Program.exec (buildRollout env plan context _) _ = result at hbooks ⊢
  obtain ⟨result, w⟩ := result
  cases result with
  -- a rollout that was not created leaves its decisions in the trace, and no account
  | error s => exact ⟨fun x hx => hbooks.others _ (List.mem_map.2 ⟨x, hx, rfl⟩), h.apart, h.orders,
      hbooks.recorded⟩
  | ok _ =>
    refine ⟨fun x hx => ?_, fun hs => ?_, fun x hx => ?_, hbooks.recorded⟩
    · rcases List.mem_append.1 hx with hx | hx
      · exact hbooks.others _ (List.mem_map.2 ⟨x, hx, rfl⟩)
      · rw [List.mem_singleton.1 hx]
        exact hbooks.own
    · rw [List.map_append, List.nodup_append]
      refine ⟨h.apart hs, by simp, fun id hid id' hid' => ?_⟩
      obtain ⟨x, hx, rfl⟩ := List.mem_map.1 hid
      rw [List.map_singleton, List.mem_singleton] at hid'
      subst hid'
      exact hbooks.apart hs _ (List.mem_map.2 ⟨x, hx, rfl⟩)
    · rcases List.mem_append.1 hx with hx | hx
      · exact h.orders x hx
      · rw [List.mem_singleton.1 hx]
        exact hnodup

/-- The answers to a reconciliation of this rollout release no target without attempts left. -/
def Reconcilable (env : Env ρ) (o : Orchestrator ρ) (id : RolloutId) : Prop :=
  ∀ k execution, o.index id = some k → env.execution = some execution →
    (o.world k {}).Reconcilable execution

theorem Audited.reconcile {id : RolloutId} (hK : Lawful env strict P D E)
    (h : o.Audited strict P E) (hs : o.sys.Holds (View.Sound env))
    (hleft : strict → o.Reconcilable env id) :
    (reconcileOutstanding env o id).2.Audited strict P E := by
  unfold reconcileOutstanding
  split
  · exact h
  next k hk =>
  split
  · exact h
  next execution hexecution =>
  have hlt := index_lt hk
  have hsound := hs _ (.inr (List.mem_of_getElem? (rollouts_getElem? hlt)))
  refine h.put hlt (Triple.after (reconcileRollout_upholds (books_settled hK)
    (h.books hlt) ?_ fun hstrict => hleft hstrict k execution hk hexecution) rfl)
  exact hsound.keyed

/-! ## A tick -/

/-- The rollouts from the `n`-th on are as they have to be before their turn. -/
def Due (D : StageTally → Prop) (n : Nat) (o : Orchestrator ρ) : Prop :=
  ∀ k, n ≤ k → k < o.held.length → ∀ s ∈ (o.heldAt k).rollout.tally.stages, D s

/-- While the evidence is drained. -/
structure Draining (strict : Prop) (P : StageLaw) (D : StageTally → Prop) (E : Event → Prop)
    (length n : Nat) (o : Orchestrator ρ) : Prop where
  audited : o.Audited strict P E
  due : o.Due D n
  length : o.held.length = length

variable {n length : Nat}

theorem Draining.early (h : o.Draining strict P D E length n) (hn : n ≤ k) (hk : k < o.held.length)
    (report : TickReport) : Early D (Books strict P E (o.others k)) (o.world k report).tally :=
  ⟨h.audited.books hk, h.due k hn hk⟩

/-- What settles targets leaves the rollouts due. -/
theorem Draining.on {m : Op ρ Unit} (h : o.Draining strict P D E length 0) (hk : k < o.held.length)
    (hm : Upholds (Early D (Books strict P E (o.others k))) m) :
    (o.on k report m).2.Draining strict P D E length 0 := by
  have hearly := Triple.after hm (h.early (Nat.zero_le k) hk report)
  refine ⟨h.audited.put hk hearly.1, fun n _ hn => ?_, (on_length _).trans h.length⟩
  by_cases hkn : k = n
  · subst hkn
    rw [Orchestrator.on, heldAt_put_self hk]
    exact hearly.2
  · rw [Orchestrator.on, heldAt_put hkn]
    rw [on_length] at hn
    exact h.due n (Nat.zero_le n) hn

theorem Draining.count (h : o.Draining strict P D E length n)
    (f : OrchestratorCounters → OrchestratorCounters) : (o.count f).Draining strict P D E length n :=
  ⟨h.audited, h.due, h.length⟩

theorem Draining.telemetry {record : EvidenceRecord} (hK : Lawful env strict P D E)
    (h : o.Draining strict P D E length 0) :
    (applyTelemetry env record now o).Draining strict P D E length 0 := by
  unfold applyTelemetry
  dsimp only
  split
  · exact h.count _
  · refine Draining.count ?_ _
    refine foldl_range (f := fun o k => (o.on k {} (telemetryOn env record now)).2) (a := o)
      (fun _ o' => o'.Draining strict P D E length 0) h fun k o' hk h' => ?_
    refine h'.on ?_ (telemetryOn_upholds (early_settled hK).toLogged)
    rw [h'.length, ← h.length]
    exact hk

theorem Draining.record {record : EvidenceRecord} (hK : Lawful env strict P D E)
    (h : o.Draining strict P D E length 0) :
    (drainRecord env now (report, o) record).2.Draining strict P D E length 0 := by
  unfold drainRecord
  dsimp only
  split
  · exact h.telemetry hK
  next htelemetry =>
  split
  · exact ⟨h.audited, h.due, h.length⟩
  next hadmission =>
  have haccepted : (admitRecord env o.impl (o.find record.rollout) (o.planFor record.rollout).isSome
      record now).isAccepted = true := by simpa using hadmission
  obtain ⟨-, r, j, i, live, hfind, hadmitted⟩ := admit_isAccepted.1 haccepted
  have hnamed := EvidenceRecord.attempt_ne_nil_of_validate hadmitted.valid (by simpa using htelemetry)
  split
  · exact ⟨h.audited, h.due, h.length⟩
  next k hk =>
  exact (h.count _).on (index_lt hk) (.latch (applyEvidence_upholds (early_settled hK) hnamed))

theorem Draining.pending {records : List EvidenceRecord} {acc : TickReport × Orchestrator ρ}
    (hK : Lawful env strict P D E) (h : acc.2.Draining strict P D E length 0) :
    (records.foldl (drainRecord env now) acc).2.Draining strict P D E length 0 := by
  induction records generalizing acc with
  | nil => exact h
  | cons record records ih => exact ih (h.record hK)

/-- A rollout has its turn. -/
theorem Draining.turn (hK : Lawful env strict P D E) (h : o.Draining strict P D E length k)
    (hk : k < length) : (o.on k report (advance env now)).2.Draining strict P D E length (k + 1) := by
  have hlt : k < o.held.length := h.length.symm ▸ hk
  have hbooks := Triple.after (@advance_books _ _ _ _ _ _ _ now hK)
    (h.early (Nat.le_refl k) hlt report)
  refine ⟨h.audited.put hlt hbooks, fun n hn hlen => ?_, (on_length _).trans h.length⟩
  rw [Orchestrator.on, heldAt_put (by omega)]
  rw [on_length] at hlen
  exact h.due n (by omega) hlen

theorem Audited.compact (hK : Lawful env strict P D E) (h : o.Audited strict P E) :
    (maybeCompact env o).Audited strict P E := by
  have hlogged (t : List Event) (entries : List JournalEntry) (ok : Bool) (landed : Option Nat)
      (ht : t = o.impl.trace) (hentries : entries = compactionEntries o) (held : List Held)
      (hheld : held = o.held) : RolloutFabric.Audited strict P E held
        (t ++ [.rewritten entries o.impl.controllerEpoch ok landed]) := by
    subst ht hentries hheld
    refine ⟨fun x hx => (h.accounts x hx).log hK rfl, h.apart, h.orders,
      h.recorded.note ⟨fun r hr => ?_, hK.plain rfl⟩⟩
    cases landed with
    | none => cases hr
    | some n =>
      obtain ⟨x, hx, rfl⟩ := held_of_compactionEntries (List.mem_of_mem_take hr)
      exact h.accounts x hx
  unfold maybeCompact
  split
  · exact h
  split
  · exact h
  split
  · exact h
  dsimp only
  split
  · exact hlogged _ _ _ _ rfl rfl _ rfl
  · exact hlogged _ _ _ _ rfl rfl _ rfl

/-- A tick keeps the accounts, when the stages are as they have to be before it. -/
theorem Audited.tick (hK : Lawful env strict P D E) (h : o.Audited strict P E)
    (hdue : ∀ x ∈ o.held, ∀ s ∈ x.rollout.stages, D s.tally) :
    (RolloutFabric.tick env o).2.Audited strict P E := by
  unfold RolloutFabric.tick
  split
  · exact h
  dsimp only
  obtain ⟨-, htrace, -⟩ := poll_same { o.impl with outside := (env.clock o.impl.outside).2 } env
  have hstart : Draining strict P D E o.held.length 0 { o with
      impl := { (Impl.poll { o.impl with outside := (env.clock o.impl.outside).2 } env) with
        pendingEvidence := [] } } := by
    refine ⟨h.of_held rfl htrace, fun k _ hk s hs => ?_, rfl⟩
    obtain ⟨stage, hstage, rfl⟩ := List.mem_map.1 hs
    refine hdue (o.heldAt k) ?_ stage hstage
    exact (held_perm hk).mem_iff.2 (List.mem_cons_self ..)
  have hdrained := @Draining.pending _ env _ _ _ _ (env.clock o.impl.outside).1 _
    (Impl.poll { o.impl with outside := (env.clock o.impl.outside).2 } env).pendingEvidence
    ({}, _) hK hstart
  unfold drainPending
  dsimp only
  generalize List.foldl (drainRecord env (env.clock o.impl.outside).1) ({}, _) _ = acc at hdrained ⊢
  refine Audited.compact hK ?_
  obtain ⟨report, o'⟩ := acc
  have hturns := foldl_range (n := o'.held.length)
    (fun n (acc : TickReport × Orchestrator ρ) => acc.2.Draining strict P D E o.held.length n)
    (f := fun acc k => acc.2.on k acc.1 (advance env (env.clock o.impl.outside).1)) hdrained
    fun k acc hk h => h.turn hK (hdrained.length ▸ hk)
  exact hturns.audited

end Orchestrator

end RolloutFabric
