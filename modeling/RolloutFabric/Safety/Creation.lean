/-
Creating a rollout: four records go to the journal one after the other, and that the last two fit
is only found out when the first two are there.
-/
import RolloutFabric.Domain.Sizes
import RolloutFabric.Safety.Cohorts
import RolloutFabric.Safety.Concurrency

namespace RolloutFabric

open Program

variable {ρ : Type}

/-! ## Snapshots of the same size -/

theorem StageRuntime.length_encode_blank (s : StageRuntime) :
    s.blank.encode.length = s.encode.length := by
  simp [encode, blank, CohortMembership.encode]

/-- The two rollouts take the same room in a snapshot, but for the reason of their state. -/
structure Rollout.Alike (r r' : Rollout) : Prop where
  changeId : r.changeId = r'.changeId
  stages : r.stages.map StageRuntime.blank = r'.stages.map StageRuntime.blank
  decisions : (r.decisions.map fun d => d.encode.length)
    = r'.decisions.map fun d => d.encode.length

namespace Rollout

variable {r r' : Rollout}

theorem Alike.length (h : r.Alike r') (hreason : r.stateReason = r'.stateReason) :
    (encodeRolloutPayload r).length = (encodeRolloutPayload r').length := by
  have hstages (l : List StageRuntime) : (l.map fun s => s.encode.length)
      = (l.map StageRuntime.blank).map fun s => s.encode.length := by
    simp [StageRuntime.length_encode_blank]
  rw [length_encodeRolloutPayload, length_encodeRolloutPayload, length_encode, length_encode,
    h.changeId, hreason, h.decisions, hstages r.stages, hstages r'.stages, h.stages]

theorem Alike.record {d d' : Decision} {limits : RuntimeLimits} (h : r.Alike r')
    (hd : d.encode.length = d'.encode.length) :
    (r.recordDecision d limits).Alike (r'.recordDecision d' limits) where
  changeId := h.changeId
  stages := h.stages
  decisions := by
    have hlength := congrArg List.length h.decisions
    simp only [List.length_map] at hlength
    simp only [recordDecision, List.map_drop, List.map_append, List.map_cons, List.map_nil,
      List.length_append, List.length_cons, List.length_nil, h.decisions, hd, hlength]

theorem Alike.length_enter {next : RolloutState} {reason : Bytes} {now now' : Timestamp}
    (h : r.Alike r') : (encodeRolloutPayload (r.enter next reason now)).length
      = (encodeRolloutPayload (r'.enter next reason now')).length := by
  have henter : (r.enter next reason now).Alike (r'.enter next reason now') :=
    ⟨h.changeId, h.stages, h.decisions⟩
  exact henter.length rfl

theorem map_modify_comm {α β : Type} {g : α → β} {f : α → α} {f' : β → β}
    (h : ∀ a, g (f a) = f' (g a)) (l : List α) (i : Nat) :
    (l.modify i f).map g = (l.map g).modify i f' := by
  apply List.ext_getElem?
  intro n
  simp only [List.getElem?_map, List.getElem?_modify]
  by_cases hn : i = n <;> cases l[n]? <;> simp [hn, h]

def blank (r : Rollout) : Rollout := { r with stages := r.stages.map StageRuntime.blank }

/-- The successors go by the identifiers of the stages. -/
theorem link_blank (r : Rollout) (l : StageId × StageId) : r.blank.link l = (r.link l).blank := by
  have hfind : r.blank.findStage l.1 = r.findStage l.1 := by
    rw [findStage, findStage, blank, List.findIdx?_map]
    rfl
  rw [link, link, hfind]
  cases r.findStage l.1 with
  | none => rfl
  | some p =>
    let follow (s : StageRuntime) : StageRuntime := { s with successors := s.successors ++ [l.2] }
    have hcomm : ∀ s, (follow s).blank = follow s.blank := fun _ => rfl
    show r.blank.modifyStage p follow = (r.modifyStage p follow).blank
    simp only [modifyStage, blank, map_modify_comm hcomm]

theorem linkSuccessors_blank (r : Rollout) : r.blank.linkSuccessors = r.linkSuccessors.blank := by
  have hlinks : r.blank.links = r.links := by
    simp [links, blank, StageRuntime.blank, Function.comp_def]
  rw [linkSuccessors_eq, linkSuccessors_eq, hlinks]
  generalize r.links = ls
  clear hlinks
  induction ls generalizing r with
  | nil => rfl
  | cons l ls ih => rw [List.foldl_cons, List.foldl_cons, link_blank, ih]

theorem linkSuccessors_congr (h : r.stages = r'.stages) :
    r.linkSuccessors.stages = r'.linkSuccessors.stages := by
  have hlinks : r.links = r'.links := by rw [links, links, h]
  have hlink (l : StageId × StageId) (r r' : Rollout) (h : r.stages = r'.stages) :
      (r.link l).stages = (r'.link l).stages := by
    have hfind : r.findStage l.1 = r'.findStage l.1 := by rw [findStage, findStage, h]
    rw [link, link, hfind]
    cases r'.findStage l.1 with
    | none => exact h
    | some p => simp only [modifyStage, h]
  rw [linkSuccessors_eq, linkSuccessors_eq, hlinks]
  generalize r'.links = ls
  clear hlinks
  induction ls generalizing r r' with
  | nil => exact h
  | cons l ls ih => exact ih (hlink l r r' h)

theorem Alike.link (h : r.Alike r') : r.linkSuccessors.Alike r'.linkSuccessors := by
  have hstages : r.linkSuccessors.blank.stages = r'.linkSuccessors.blank.stages := by
    rw [← linkSuccessors_blank, ← linkSuccessors_blank]
    exact linkSuccessors_congr h.stages
  refine ⟨?_, hstages, ?_⟩
  · rw [linkSuccessors_rest r, linkSuccessors_rest r']
    exact h.changeId
  · rw [linkSuccessors_rest r, linkSuccessors_rest r']
    exact h.decisions

end Rollout

/-! ## What is written -/

/-- An entry fits into a journal record. -/
def JournalEntry.Fits (entry : JournalEntry) (limits : RuntimeLimits) : Prop :=
  entry.payload.length ≤ limits.maxJournalRecordBytes.toNat

/-- Since the trace had this length, an entry that fits was not written. -/
def Unwritten (limits : RuntimeLimits) (since : Nat) (w : World ρ) : Prop :=
  ∃ entry epoch landed, Event.appended entry epoch false landed ∈ w.impl.trace.drop since
    ∧ entry.Fits limits

/-- The storage is as it was in `s`, and the trace has grown by what `p` allows. -/
structure Journaled (s : Impl ρ) (r : Rollout → Prop) (p : List Event → Prop) (w : World ρ) :
    Prop where
  running : w.impl.storageFailed = s.storageFailed
  persisted : w.impl.lastPersisted = s.lastPersisted
  inventory : w.impl.inventory = s.inventory
  rollout : r w.rollout
  trace : ∃ events, w.impl.trace = s.trace ++ events ∧ p events

section

variable {env : Env ρ} {s : Impl ρ} {r : Rollout → Prop} {p : List Event → Prop}
  {entry : JournalEntry} {since : Nat} {E : Status → World ρ → Prop}

theorem unwritten_log {w : World ρ} (h : Unwritten env.limits since w) (e : Event) :
    Unwritten env.limits since { w with impl := { w.impl with trace := w.impl.trace ++ [e] } } := by
  obtain ⟨entry, epoch, landed, hmem, hfits⟩ := h
  refine ⟨entry, epoch, landed, ?_, hfits⟩
  show _ ∈ (w.impl.trace ++ [e]).drop since
  rw [List.drop_append]
  exact List.mem_append_left _ hmem

theorem unwritten_last {w : World ρ} {epoch : UInt64} {landed : Bool}
    (h : since ≤ w.impl.trace.length) (hfits : entry.Fits env.limits) :
    Unwritten env.limits since { w with impl := { w.impl with
      trace := w.impl.trace ++ [.appended entry epoch false landed] } } := by
  refine ⟨entry, epoch, landed, ?_, hfits⟩
  show _ ∈ (w.impl.trace ++ [_]).drop since
  rw [List.drop_append_of_le_length h]
  exact List.mem_append_right _ List.mem_cons_self

/-- An append either wrote its entry, or the entry was too long, or the device failed. -/
theorem journalAppend_spec (device : JournalDevice ρ)
    (hp : ∀ events epoch, p events → p (events ++ [.appended entry epoch true true])) :
    Triple (Journaled s r p) (journalAppend env.limits device entry)
      (fun status w => w.impl.storageFailed = s.storageFailed
        ∧ (if status.isOk then entry.Fits env.limits ∧ Journaled s r p w
          else ¬ entry.Fits env.limits ∨ Unwritten env.limits s.trace.length w)) E := by
  have hlength {w : World ρ} (hw : Journaled s r p w) : s.trace.length ≤ w.impl.trace.length := by
    obtain ⟨events, htrace, -⟩ := hw.trace
    rw [htrace, List.length_append]
    omega
  -- a refusal is put on record, and is the last thing written when the entry would have fitted
  have hrefused {w : World ρ} (hw : Journaled s r p w) (epoch : UInt64) (landed : Bool) :
      ¬ entry.Fits env.limits ∨ Unwritten env.limits s.trace.length
        { w with impl := { w.impl with
          trace := w.impl.trace ++ [.appended entry epoch false landed] } } := by
    by_cases hfits : entry.Fits env.limits
    · exact .inr (unwritten_last (hlength hw) hfits)
    · exact .inl hfits
  unfold journalAppend
  refine triple_read_bind fun _ _ => triple_read_bind fun reader _ => ?_
  split
  · refine .bind (.modify (Q := fun _ w => w.impl.storageFailed = s.storageFailed
      ∧ (¬ entry.Fits env.limits ∨ Unwritten env.limits s.trace.length w))
      fun w hw => ⟨hw.running, hrefused hw _ _⟩) fun _ => .pure fun _ h => h
  split
  · next hlong =>
    refine .bind (.modify (Q := fun _ w => w.impl.storageFailed = s.storageFailed)
      fun w hw => hw.running) fun _ => .pure fun _ h => ⟨h, .inl ?_⟩
    exact Nat.not_le_of_lt hlong
  next hfits =>
  refine triple_ask_bind (fun _ _ h => ⟨h.1, h.2, h.3, h.4, h.5⟩) fun answer => ?_
  obtain ⟨status, landed⟩ := answer
  dsimp only
  cases hok : status.isOk with
  -- what was written extends the events that are allowed
  | true =>
    refine .bind (.modify (Q := fun _ w => Journaled s r p w) fun w hw => ?_) fun _ => ?_
    · obtain ⟨events, htrace, hevents⟩ := hw.trace
      refine ⟨hw.running, hw.persisted, hw.inventory, hw.rollout,
        events ++ [.appended entry reader.impl.controllerEpoch true true], ?_, hp _ _ hevents⟩
      show w.impl.trace ++ _ = _
      rw [htrace, List.append_assoc]
      rfl
    · refine .skip (.modify fun w hw => ⟨hw.1, hw.2, hw.3, hw.4, hw.5⟩) fun _ => ?_
      refine .pure fun w hw => ⟨hw.running, ?_⟩
      rw [hok]
      exact ⟨Nat.le_of_not_lt hfits, hw⟩
  | false =>
    refine .bind (.modify (Q := fun _ w => w.impl.storageFailed = s.storageFailed
      ∧ (¬ entry.Fits env.limits ∨ Unwritten env.limits s.trace.length w))
      fun w hw => ⟨hw.running, hrefused hw _ _⟩) fun _ => .pure fun _ h => ⟨h.1, ?_⟩
    rw [hok]
    exact h.2

/-- How an append fails. -/
structure AppendFailure (env : Env ρ) (s : Impl ρ) (entry : JournalEntry) (w : World ρ) : Prop where
  journal : env.journal.isSome = true
  failed : w.impl.storageFailed = true
  why : ¬ entry.Fits env.limits ∨ Unwritten env.limits s.trace.length w

theorem appendJournal_spec (hs : s.storageFailed = false)
    (hp : ∀ events epoch, p events → p (events ++ [.appended entry epoch true true])) :
    Triple (Journaled s r p) (appendJournal env entry)
      (fun _ w => (env.journal.isSome = true → entry.Fits env.limits) ∧ Journaled s r p w)
      fun _ => AppendFailure env s entry := by
  unfold appendJournal
  cases hjournal : env.journal with
  | none => exact .pure fun _ h => ⟨nofun, h⟩
  | some device =>
  dsimp only
  refine triple_read_bind fun w hw => ?_
  rw [if_neg (by simp [hw.running, hs])]
  refine .bind (journalAppend_spec device hp) fun status => ?_
  cases hok : status.isOk with
  | true =>
    rw [if_pos rfl]
    refine .modify fun w hw => ⟨fun _ => hw.2.1, ?_⟩
    exact ⟨hw.2.2.1, hw.2.2.2, hw.2.2.3, hw.2.2.4, hw.2.2.5⟩
  | false =>
    rw [if_neg (by simp)]
    refine .bind (.modify (Q := fun _ => AppendFailure env s entry) fun w hw => ?_)
      fun _ => .throw fun _ h => h
    exact ⟨by rw [hjournal]; rfl, rfl, hw.2⟩

/-! ### What was not written stays so -/

theorem journalAppend_unwritten (device : JournalDevice ρ) :
    Triple (Unwritten env.limits since) (journalAppend env.limits device entry)
      (fun _ => Unwritten env.limits since) E := by
  unfold journalAppend
  refine triple_read_bind fun _ _ => triple_read_bind fun _ _ => ?_
  split
  · exact .skip (.modify fun _ h => unwritten_log h _) fun _ => .pure fun _ h => h
  split
  · exact .skip (.modify fun _ h => unwritten_log h _) fun _ => .pure fun _ h => h
  · refine triple_ask_bind (fun _ _ h => h) fun answer =>
      .skip (.modify fun _ h => unwritten_log h _) fun _ => ?_
    split
    · exact .skip (.modify fun _ h => h) fun _ => .pure fun _ h => h
    · exact .pure fun _ h => h

theorem appendJournal_unwritten :
    Triple (Unwritten env.limits since) (appendJournal env entry)
      (fun _ => Unwritten env.limits since) fun _ => Unwritten env.limits since := by
  unfold appendJournal
  split
  · exact .pure fun _ h => h
  next device _ =>
  refine triple_read_bind fun _ _ => ?_
  split
  · exact triple_read_bind fun _ _ => .throw fun _ h => h
  · refine .skip (journalAppend_unwritten device) fun _ => ?_
    split
    · exact .modify fun _ h => h
    · exact .skip (.modify fun _ h => h) fun _ => .throw fun _ h => h

theorem persistRollout_unwritten :
    Triple (Unwritten env.limits since) (persistRollout env)
      (fun _ => Unwritten env.limits since) fun _ => Unwritten env.limits since := by
  unfold persistRollout
  refine triple_get_bind fun w _ => ?_
  dsimp only
  split
  · exact .skip (.modify fun _ h => unwritten_log h _) fun _ => .throw fun _ h => h
  split
  · exact .skip appendJournal_unwritten fun _ => .modify fun _ h => h
  · exact .modify fun _ h => h

theorem transition_unwritten {next : RolloutState} {reason : Bytes} {now : Timestamp}
    {counted : Bool} :
    Triple (Unwritten env.limits since) (transition env next reason now counted)
      (fun _ => Unwritten env.limits since) fun _ => Unwritten env.limits since := by
  unfold transition
  refine triple_read_bind fun _ _ => ?_
  split
  · exact .pure fun _ h => h
  split
  · refine .skip (.skip (.modify fun _ h => h) fun _ => triple_read_bind fun _ _ =>
      .modify fun _ h => unwritten_log h _) fun _ => ?_
    exact .skip (countTransition_spec fun _ _ h => h) fun _ => persistRollout_unwritten
  · exact .throw fun _ h => h

end

/-! ## The draft of a rollout -/

namespace ChangePlan

theorem drafts_blank (plan : ChangePlan) (inventory : TargetInventory) (ids : List StageId) :
    (plan.drafts inventory ids).map StageRuntime.blank = plan.drafts inventory ids := by
  unfold drafts
  rw [List.map_filterMap]
  congr 1
  funext id
  cases plan.findStage id <;> rfl

/-- The decision to accept a plan, but for its identifiers, its time and its digests. -/
def acceptance : Decision where
  kind := .validatePlan
  selected := text "rollout created and plan validated"
  rationale := text "the plan parsed, its dependency graph is acyclic, every stage selector matched at least one target and no cohort was truncated"

/-- The rollout that is created for the plan over the inventory, but for its identifiers, its time
and its digests. -/
def draft (plan : ChangePlan) (limits : RuntimeLimits) (inventory : TargetInventory) : Rollout :=
  let r : Rollout := { changeId := plan.changeId, stages := plan.drafts inventory plan.order }
  (r.linkSuccessors.recordDecision (DecisionBuilder.boundDecision limits acceptance) limits).enter
    .validated (text "plan validated and cohorts materialised") {}

/-- The length of its snapshot. -/
def snapshotBytes (plan : ChangePlan) (limits : RuntimeLimits) (inventory : TargetInventory) : Nat :=
  (encodeRolloutPayload (plan.draft limits inventory)).length

end ChangePlan

theorem length_finish {b : DecisionBuilder} {d : Decision} {ids : IdFactory} {now : Timestamp}
    {limits : RuntimeLimits} (hselected : b.decision.selected = d.selected)
    (hrejected : b.decision.rejected = d.rejected) (hrationale : b.decision.rationale = d.rationale) :
    (b.finish ids now limits).1.encode.length
      = (DecisionBuilder.boundDecision limits d).encode.length := by
  simp only [Decision.length_encode, DecisionBuilder.finish, DecisionBuilder.boundDecision,
    hselected, hrejected, hrationale]

/-- The acceptance of a plan fits into a record under any limits that are accepted. -/
theorem length_acceptance {limits : RuntimeLimits} (hlimits : limits.validate.isOk = true) :
    (DecisionBuilder.boundDecision limits ChangePlan.acceptance).encode.length
      ≤ limits.maxJournalRecordBytes.toNat := by
  have hselected : ChangePlan.acceptance.selected.length ≤ 64 := by decide +kernel
  have hrationale : ChangePlan.acceptance.rationale.length ≤ 256 := by decide +kernel
  have hchecks := RuntimeLimits.checks_of_validate hlimits
  simp only [RuntimeLimits.checks, List.forall_mem_cons] at hchecks
  have hrecord := of_decide_eq_true hchecks.2.2.2.2.2.2.2.2.2.1
  have hleast : 4096 ≤ limits.maxJournalRecordBytes.toNat := UInt64.le_iff_toNat_le.1 hrecord.1
  rw [Decision.length_encode]
  simp only [DecisionBuilder.boundDecision, DecisionBuilder.bounded, List.length_take,
    show ChangePlan.acceptance.rejected = [] from rfl, List.take_nil, List.map_nil, List.sum_nil]
  omega

/-! ## What a replay adopts -/

/-- What the scan of the journal of a trace reconstructs. -/
def scanBack (limits : RuntimeLimits) (trace : List Event) : Result Recovered :=
  ((journalRecords trace).map Prod.fst).foldlM (recoverRecord limits) {}

/-- The rollouts a controller that holds none so far adopts from the journal of a trace. -/
def adopted (env : Env ρ) (fresh : Impl ρ) (trace : List Event) : List Rollout :=
  match scanBack env.limits trace with
  | .error _ => []
  | .ok found => (found.inOrder.foldl (adoptRollout env found.plans)
      { impl := { fresh with inventory := found.inventory } }).held.map Held.rollout

/-- A scan passes over the event. -/
def Event.Quiet : Event → Prop
  | .appended (.decisionRecorded _) _ _ _ => True
  | .appended _ _ _ landed => landed = false
  | .rewritten .. => False
  | _ => True

def AllQuiet (events : List Event) : Prop := ∀ e ∈ events, e.Quiet

theorem allQuiet_nil : AllQuiet [] := fun _ h => by cases h

theorem AllQuiet.concat {events : List Event} {e : Event} (h : AllQuiet events) (he : e.Quiet) :
    AllQuiet (events ++ [e]) := by
  intro e' hmem
  rcases List.mem_append.1 hmem with hmem | hmem
  · exact h e' hmem
  · cases List.mem_singleton.1 hmem
    exact he

theorem recover_landEvent {limits : RuntimeLimits} {e : Event} (h : e.Quiet)
    (records : List (JournalEntry × UInt64)) :
    ((landEvent records e).map Prod.fst).foldlM (recoverRecord limits) {}
      = (records.map Prod.fst).foldlM (recoverRecord limits) {} := by
  cases e with
  | appended entry epoch ok landed =>
    cases landed with
    | false => rfl
    | true =>
      cases entry with
      | decisionRecorded d =>
        show ((records ++ [_]).map Prod.fst).foldlM _ _ = _
        rw [List.map_append, List.foldlM_append]
        cases (records.map Prod.fst).foldlM (recoverRecord limits) {} <;> rfl
      | _ => cases h
  | rewritten => cases h
  | _ => rfl

/-- A replay does not notice quiet events. -/
theorem scanBack_append {limits : RuntimeLimits} {trace events : List Event} (h : AllQuiet events) :
    scanBack limits (trace ++ events) = scanBack limits trace := by
  unfold scanBack journalRecords
  rw [List.foldl_append]
  generalize trace.foldl landEvent [] = records
  induction events generalizing records with
  | nil => rfl
  | cons e events ih =>
    rw [List.foldl_cons, ih fun e' he' => h e' (List.mem_cons_of_mem _ he')]
    exact recover_landEvent (h e List.mem_cons_self) records

/-! ## The steps of a creation -/

section

variable {env : Env ρ} {s : Impl ρ} {r : Rollout} {now : Timestamp}

theorem Journaled.log {r : Rollout → Prop} {p : List Event → Prop} {w : World ρ} {e : Event}
    (h : Journaled s r p w) (hp : ∀ events, p events → p (events ++ [e])) :
    Journaled s r p { w with impl := { w.impl with trace := w.impl.trace ++ [e] } } := by
  obtain ⟨events, htrace, hevents⟩ := h.trace
  refine ⟨h.running, h.persisted, h.inventory, h.rollout, events ++ [e], ?_, hp events hevents⟩
  show w.impl.trace ++ [e] = _
  rw [htrace, List.append_assoc]

theorem Journaled.write {p : List Event → Prop} {w : World ρ}
    (h : Journaled s (fun r' => r' = r) p w) (f : Rollout → Rollout) :
    Journaled s (fun r' => r' = f r) p { w with rollout := f w.rollout } :=
  ⟨h.running, h.persisted, h.inventory, congrArg f h.rollout, h.trace⟩

/-- The decision of a creation is recorded, or the device failed. -/
theorem commit_journaled {d : Decision} {fill : World ρ → DecisionBuilder}
    (hs : s.storageFailed = false)
    (hfits : (DecisionBuilder.boundDecision env.limits d).encode.length
      ≤ env.limits.maxJournalRecordBytes.toNat)
    (hselected : ∀ w, (fill w).decision.selected = d.selected)
    (hrejected : ∀ w, (fill w).decision.rejected = d.rejected)
    (hrationale : ∀ w, (fill w).decision.rationale = d.rationale)
    {E : Status → World ρ → Prop} :
    Triple (Journaled s (fun r' => r' = r) AllQuiet) (commit env now fill)
      (fun _ w => Unwritten env.limits s.trace.length w ∨ Journaled s (fun r' => ∃ d',
        d'.encode.length = (DecisionBuilder.boundDecision env.limits d).encode.length
          ∧ r' = r.recordDecision d' env.limits) AllQuiet w) E := by
  unfold commit commitDecision
  refine triple_read_bind fun w _ => triple_read_bind fun w' _ => ?_
  have hlength := @length_finish _ _ w'.impl.ids now env.limits
    (hselected w) (hrejected w) (hrationale w)
  generalize (fill w).finish w'.impl.ids now env.limits = finished at hlength ⊢
  refine .skip (.modify fun _ h => ⟨h.1, h.2, h.3, h.4, h.5⟩) fun _ => ?_
  refine .bind (Q := fun _ => Journaled s (fun r' => r' = r.recordDecision finished.1 env.limits)
    AllQuiet) (.modify fun w h => h.write fun r => r.recordDecision finished.1 env.limits) fun _ => ?_
  unfold Op.latch
  refine .tryCatch (.weaken (appendJournal_spec hs fun events epoch h => h.concat trivial)
    (fun _ h => h) (fun _ w h => .inr ⟨h.2.1, h.2.2, h.2.3, ⟨finished.1, hlength, h.2.4⟩, h.2.5⟩)
    fun _ _ h => h) fun _ => .modify fun w h => .inl ?_
  rcases h.why with hlong | hunwritten
  · refine absurd ?_ hlong
    show finished.1.encode.length ≤ _
    rw [hlength]
    exact hfits
  · exact hunwritten

/-- How the snapshot of a rollout is not written. -/
inductive SnapshotFailure (env : Env ρ) (s : Impl ρ) (bytes : Nat) (w : World ρ) : Prop
  | tooLarge (h : env.limits.maxJournalRecordBytes.toNat < bytes)
      (kept : Journaled s (fun _ => True) AllQuiet w)
  | unwritten (h : Unwritten env.limits s.trace.length w)

theorem persistRollout_journaled (hs : s.storageFailed = false)
    (hfresh : s.lastPersisted.lookup r.id = none) {bytes : Nat}
    (hbytes : (encodeRolloutPayload r).length = bytes) :
    Triple (Journaled s (fun r' => r' = r) AllQuiet) (persistRollout env)
      (fun _ w => bytes ≤ env.limits.maxJournalRecordBytes.toNat
        ∧ ∃ persisted, Journaled { s with lastPersisted := persisted } (fun r' => r' = r)
          (fun _ => True) w)
      fun _ => SnapshotFailure env s bytes := by
  have hentry : (JournalEntry.rolloutSnapshot r).payload.length = bytes := hbytes
  unfold persistRollout
  refine triple_get_bind fun reader hr => ?_
  -- nothing was persisted under the identifier, so the snapshot is not skipped
  have hnew : ¬ reader.impl.lastPersisted.lookup reader.rollout.id
      = some (rolloutDigest reader.rollout) := by
    rw [hr.persisted, hr.rollout, hfresh]
    exact nofun
  simp only [hnew, not_false_eq_true, and_true, if_false]
  rw [hr.rollout, hentry]
  split
  · next hlong =>
    refine .bind (.modify (Q := fun _ => SnapshotFailure env s bytes) fun w h => ?_)
      fun _ => .throw fun _ h => h
    -- the snapshot does not fit a record, and nothing else was written
    have hlogged := h.log (e := .appended (.rolloutSnapshot r) reader.impl.controllerEpoch false
      false) fun _ hquiet => hquiet.concat rfl
    exact .tooLarge hlong ⟨hlogged.1, hlogged.2, hlogged.3, trivial, hlogged.5⟩
  next hshort =>
  have hfits : bytes ≤ env.limits.maxJournalRecordBytes.toNat := Nat.le_of_not_lt hshort
  have hwritten : Triple (Journaled s (fun r' => r' = r) fun _ => True)
      (Op.updateImpl fun i => { i with
        lastPersisted := i.lastPersisted.insert r.id (rolloutDigest r) })
      (fun _ w => bytes ≤ env.limits.maxJournalRecordBytes.toNat
        ∧ ∃ persisted, Journaled { s with lastPersisted := persisted } (fun r' => r' = r)
          (fun _ => True) w)
      fun _ => SnapshotFailure env s bytes :=
    .modify fun w h => ⟨hfits, w.impl.lastPersisted.insert r.id (rolloutDigest r),
      h.1, rfl, h.3, h.4, h.5⟩
  split
  · refine .bind (.weaken (appendJournal_spec (p := fun _ => True) hs fun _ _ _ => trivial)
      (fun _ h => ⟨h.1, h.2, h.3, h.4, h.5.imp fun _ h => ⟨h.1, trivial⟩⟩) (fun _ _ h => h.2)
      fun _ _ h => .unwritten (h.why.resolve_left fun hlong => hlong ?_)) fun _ => hwritten
    show (JournalEntry.rolloutSnapshot r).payload.length ≤ _
    rw [hentry]
    exact hfits
  · exact .weaken hwritten
      (fun _ h => ⟨h.1, h.2, h.3, h.4, h.5.imp fun _ h => ⟨h.1, trivial⟩⟩) (fun _ _ h => h)
      fun _ _ h => h

/-- A created rollout becomes a validated one when its snapshot is written. -/
theorem validate_journaled (hs : s.storageFailed = false) (hstate : r.state = .created)
    (hfresh : s.lastPersisted.lookup r.id = none) {reason : Bytes} {bytes : Nat}
    (hbytes : (encodeRolloutPayload (r.enter .validated reason now)).length = bytes) :
    Triple (Journaled s (fun r' => r' = r) AllQuiet) (transition env .validated reason now false)
      (fun _ w => bytes ≤ env.limits.maxJournalRecordBytes.toNat
        ∧ ∃ persisted, Journaled { s with lastPersisted := persisted } (fun _ => True)
          (fun _ => True) w)
      fun _ => SnapshotFailure env s bytes := by
  unfold transition
  refine triple_read_bind fun w hw => ?_
  rw [hw.rollout, hstate, if_neg (by decide), if_pos (by decide)]
  refine .bind (Q := fun _ => Journaled s (fun r' => r' = r.enter .validated reason now) AllQuiet)
    ?_ fun _ => .skip (countTransition_spec fun _ _ h => ⟨h.1, h.2, h.3, h.4, h.5⟩) fun _ => ?_
  · refine .bind (Q := fun _ => Journaled s (fun r' => r' = r.enter .validated reason now) AllQuiet)
      (.modify fun w h => h.write fun r => r.enter .validated reason now) fun _ => ?_
    exact triple_read_bind fun _ _ => .modify fun w h => h.log fun _ hquiet => hquiet.concat trivial
  · exact .weaken (persistRollout_journaled (r := r.enter .validated reason now) hs hfresh hbytes)
      (fun _ h => h) (fun _ _ h => ⟨h.1, h.2.imp fun _ h => ⟨h.1, h.2, h.3, trivial, h.5⟩⟩) fun _ _ h => h

/-! ## The body of a creation -/

/-- How a creation fails. -/
inductive CreationFailure (env : Env ρ) (s : Impl ρ) (plan : ChangePlan) (w : World ρ) : Prop
  | undrafted (impl : w.impl = { s with ids := w.impl.ids })
      (h : ¬ plan.Populates env.limits s.inventory)
  | unwritten (h : Unwritten env.limits s.trace.length w)
  | tooLarge (h : env.limits.maxJournalRecordBytes.toNat < plan.snapshotBytes env.limits s.inventory)
      (kept : Journaled s (fun _ => True) AllQuiet w)
  | oversize (populated : plan.Populates env.limits s.inventory)
      (journal : env.journal.isSome = true) (failed : w.impl.storageFailed = true)
      (fits : plan.snapshotBytes env.limits s.inventory ≤ env.limits.maxJournalRecordBytes.toNat)
      (h : ¬ (JournalEntry.planStored plan).Fits env.limits
        ∨ ¬ (JournalEntry.inventoryStored s.inventory).Fits env.limits)

/-- What a creation that returns has written. -/
def Written (env : Env ρ) (s : Impl ρ) (plan : ChangePlan) : Prop :=
  env.journal.isSome = true → (JournalEntry.planStored plan).Fits env.limits
    ∧ (JournalEntry.inventoryStored s.inventory).Fits env.limits

/-- The plan and the inventory are stored after the snapshot. -/
theorem storePlan_spec {plan : ChangePlan} {persisted : Map RolloutId Digest256}
    (hs : ({ s with lastPersisted := persisted } : Impl ρ).storageFailed = false)
    (hpopulated : plan.Populates env.limits s.inventory)
    (hfits : plan.snapshotBytes env.limits s.inventory ≤ env.limits.maxJournalRecordBytes.toNat) :
    Triple (Journaled { s with lastPersisted := persisted } (fun _ => True) fun _ => True)
      (do
        let inventory ← Op.read fun w => w.impl.inventory
        appendJournal env (.planStored plan)
        appendJournal env (.inventoryStored inventory))
      (fun _ _ => Written env s plan) fun _ => CreationFailure env s plan := by
  refine triple_read_bind fun w hw => ?_
  rw [hw.inventory]
  have hfail {entry : JournalEntry} (hentry : entry = .planStored plan
      ∨ entry = .inventoryStored s.inventory) {w : World ρ}
      (h : AppendFailure env { s with lastPersisted := persisted } entry w) :
      CreationFailure env s plan w := by
    rcases h.why with hlong | hunwritten
    · refine .oversize hpopulated h.journal h.failed hfits ?_
      rcases hentry with rfl | rfl
      · exact .inl hlong
      · exact .inr hlong
    · exact .unwritten hunwritten
  refine .bind (.weaken (appendJournal_spec (p := fun _ => True) hs fun _ _ _ => trivial)
    (fun _ h => h) (fun _ _ h => h) fun _ _ h => hfail (.inl rfl) h) fun _ => ?_
  refine .extract fun hplan => .weaken (appendJournal_spec (p := fun _ => True) hs
    fun _ _ _ => trivial) (fun _ h => h) (fun _ _ h hjournal => ⟨hplan hjournal, h.1 hjournal⟩)
    fun _ _ h => hfail (.inr rfl) h

theorem buildRollout_spec {plan : ChangePlan} {context : CommandContext}
    (hlimits : env.limits.validate.isOk = true) (hs : s.storageFailed = false)
    (hstate : r.state = .created) (hstages : r.stages = []) (hdecisions : r.decisions = [])
    (hchange : r.changeId = plan.changeId) (hfresh : s.lastPersisted.lookup r.id = none) :
    Triple (fun w => w.impl = s ∧ w.rollout = r) (buildRollout env plan context now)
      (fun _ w => Unwritten env.limits s.trace.length w ∨ Written env s plan)
      fun _ => CreationFailure env s plan := by
  unfold buildRollout
  -- the stages of the plan are drafted, or one of them has no cohort to draw from
  refine .bind (Q := fun _ => Drafted env plan true s r plan.order)
    (.weaken addStages_spec ?_ (fun _ _ h => h) fun _ w h => ?_) fun _ => ?_
  · rintro w ⟨hs, hr⟩
    exact ⟨⟨by rw [hs], by rw [hr]⟩, by rw [hr, hstages]; rfl, nofun⟩
  · obtain ⟨id, hid, hnot⟩ := h.unsupplied
    exact .undrafted h.impl fun hall => hnot (hall id hid)
  refine .of_each fun w hw => ?_
  have hpopulated : plan.Populates env.limits s.inventory := hw.supplied
  -- the size of the snapshot is decided: its stages are the drafts of the plan
  have halike : w.rollout.linkSuccessors.Alike
      ({ changeId := plan.changeId, stages := plan.drafts s.inventory plan.order }
        : Rollout).linkSuccessors := by
    refine Rollout.Alike.link ?_
    rw [hw.rollout]
    refine ⟨hchange, ?_, by rw [hdecisions]⟩
    show w.rollout.stages.map StageRuntime.blank = _
    rw [hw.stages]
    exact (plan.drafts_blank ..).symm
  have hlinked (limits : RuntimeLimits) (d : Decision) :
      (w.rollout.linkSuccessors.recordDecision d limits).state = .created
        ∧ (w.rollout.linkSuccessors.recordDecision d limits).id = r.id := by
    rw [Rollout.linkSuccessors_rest, hw.rollout]
    exact ⟨hstate, rfl⟩
  refine .bind (Q := fun _ => Journaled s (fun r' => r' = w.rollout.linkSuccessors) AllQuiet)
    (.modify fun w' hw' => ?_) fun _ => ?_
  · subst hw'
    have htrace : w'.impl.trace = s.trace ++ [] :=
      (congrArg Impl.trace hw.impl).trans (List.append_nil _).symm
    exact ⟨(congrArg Impl.storageFailed hw.impl :), (congrArg Impl.lastPersisted hw.impl :),
      (congrArg Impl.inventory hw.impl :), rfl, [], htrace, allQuiet_nil⟩
  refine .bind (commit_journaled (d := ChangePlan.acceptance) hs (length_acceptance hlimits)
    (fun _ => by simp only [DecisionBuilder.select, DecisionBuilder.rationale, ChangePlan.acceptance])
    (fun _ => rfl)
    fun _ => by simp only [DecisionBuilder.rationale, ChangePlan.acceptance]) fun _ => .or ?_ ?_
  -- the decision was not journaled, and the rest of the run writes nothing
  · exact .weaken (P := Unwritten env.limits s.trace.length)
      (.skip transition_unwritten fun _ => triple_read_bind fun _ _ =>
        .skip appendJournal_unwritten fun _ => appendJournal_unwritten)
      (fun _ h => h) (fun _ _ h => .inl h) fun _ _ h => .unwritten h
  refine .of_each fun w' hw' => ?_
  obtain ⟨d, hd, hrecorded⟩ := hw'.rollout
  have hbytes : (encodeRolloutPayload (w'.rollout.enter .validated
      (text "plan validated and cohorts materialised") now)).length
        = plan.snapshotBytes env.limits s.inventory := by
    rw [hrecorded]
    exact (halike.record hd).length_enter
  have hnew : s.lastPersisted.lookup w'.rollout.id = none := by
    rw [hrecorded, (hlinked _ d).2, hfresh]
  have hcreated : w'.rollout.state = .created := by
    rw [hrecorded, (hlinked _ d).1]
  -- the first snapshot is the validated rollout
  refine .bind (.weaken (validate_journaled hs hcreated hnew hbytes) ?_ (fun _ _ h => h)
    fun _ _ h => ?_) fun _ => .extract fun hfits => .of_each fun w'' h => ?_
  · rintro _ rfl
    exact ⟨hw'.1, hw'.2, hw'.3, rfl, hw'.5⟩
  · rcases h with ⟨hlong, hkept⟩ | hunwritten
    · exact .tooLarge hlong hkept
    · exact .unwritten hunwritten
  · obtain ⟨persisted, hstored⟩ := h
    refine .weaken (@storePlan_spec _ _ _ _ persisted hs hpopulated hfits) ?_
      (fun _ _ h => .inr h) fun _ _ h => h
    rintro _ rfl
    exact hstored

end

/-! ## All or nothing -/

namespace Orchestrator

/-- The rollouts that are held, those a replay of the journal adopts and the latch of the storage
are as they were. -/
structure SameRollouts (env : Env ρ) (o o' : Orchestrator ρ) : Prop where
  held : o'.held = o.held
  adopted : ∀ fresh, adopted env fresh o'.impl.trace = adopted env fresh o.impl.trace
  storageFailed : o'.impl.storageFailed = o.impl.storageFailed

/-- A creation that fails changes nothing. -/
def CreatesWhole (env : Env ρ) (o : Orchestrator ρ) (plan : ChangePlan) (context : CommandContext) :
    Prop :=
  ∀ s, (createRollout env o plan context).1 = .error s →
    o.SameRollouts env (createRollout env o plan context).2

/-- The creation fails before the plan is stored, or the plan and the inventory fit. -/
def CreationFits (env : Env ρ) (o : Orchestrator ρ) (plan : ChangePlan) (context : CommandContext) :
    Prop :=
  env.journal = none ∨ (checkAuthority o.impl context).isOk = false
    ∨ o.impl.storageFailed = true
    ∨ ∀ checked, plan.validate env.limits = .ok checked → checked.id.isNil = true
      ∨ ¬ checked.Populates env.limits o.impl.inventory
      ∨ env.limits.maxJournalRecordBytes.toNat < checked.snapshotBytes env.limits o.impl.inventory
      ∨ (JournalEntry.planStored checked).Fits env.limits
        ∧ (JournalEntry.inventoryStored o.impl.inventory).Fits env.limits

/-- No stage becomes frozen by an arming that fails. -/
def ArmsWhole (env : Env ρ) (o : Orchestrator ρ) (id : RolloutId) (context : CommandContext)
    (k : Nat) : Prop :=
  ∀ s, (arm env o id context).1 = .error s → ∀ j,
    (((arm env o id context).2.heldAt k).rollout.stageAt j).cohort.frozen
      = ((o.heldAt k).rollout.stageAt j).cohort.frozen

/-- The arming is refused before it freezes a cohort, or it is not refused at all. -/
def ArmsCleanly (o : Orchestrator ρ) (id : RolloutId) (context : CommandContext) (k : Nat) : Prop :=
  let r := (o.heldAt k).rollout
  ¬ o.Passes id context k ∨ (r.state ≠ .validated ∧ r.state ≠ .created)
    ∨ ¬ (r.stageAt 0).Freezable
    ∨ r.state = .validated ∧ ∀ j < r.stages.length, (r.stageAt j).Freezable

variable {env : Env ρ} {o : Orchestrator ρ} {plan : ChangePlan} {id : RolloutId}
  {context : CommandContext} {k : Nat}

/-- What a creation leaves, when it fails after its first checks. -/
theorem sameRollouts_iff {s : Impl ρ} {checked : ChangePlan} {w : World ρ}
    (h : CreationFailure env s checked w) (hs : s.storageFailed = false)
    (htrace : s.trace = o.impl.trace) (hfailed : s.storageFailed = o.impl.storageFailed)
    (hwritten : ¬ Unwritten env.limits s.trace.length w) :
    o.SameRollouts env { o with impl := w.impl } ↔ env.journal = none
      ∨ ¬ checked.Populates env.limits s.inventory
      ∨ env.limits.maxJournalRecordBytes.toNat < checked.snapshotBytes env.limits s.inventory
      ∨ (JournalEntry.planStored checked).Fits env.limits
        ∧ (JournalEntry.inventoryStored s.inventory).Fits env.limits := by
  cases h with
  | undrafted impl hnot =>
    refine iff_of_true ⟨rfl, fun fresh => ?_, ?_⟩ (.inr (.inl hnot))
    · show adopted env fresh w.impl.trace = _
      rw [impl, htrace]
    · show w.impl.storageFailed = _
      rw [impl, hfailed]
  | unwritten h => exact absurd h hwritten
  | tooLarge hlong kept =>
    refine iff_of_true ⟨rfl, fun fresh => ?_, kept.running.trans hfailed⟩ (.inr (.inr (.inl hlong)))
    obtain ⟨events, hevents, hquiet⟩ := kept.trace
    show adopted env fresh w.impl.trace = _
    rw [adopted, hevents, scanBack_append hquiet, htrace]
    rfl
  | oversize populated journal failed fits hlong =>
    refine iff_of_false (fun hsame => ?_) ?_
    · have hkept := hsame.storageFailed
      rw [← hfailed, hs] at hkept
      exact absurd (failed.symm.trans hkept) (by simp)
    · rintro (hnone | hnot | hlong' | ⟨hplan, hinventory⟩)
      · rw [hnone] at journal
        cases journal
      · exact hnot populated
      · omega
      · rcases hlong with hlong | hlong
        · exact hlong hplan
        · exact hlong hinventory

/-- A creation is all or nothing exactly when it does not get to a record that does not fit,
device failures apart. -/
theorem creates_whole_iff (hlimits : env.limits.validate.isOk = true)
    (hfresh : o.impl.lastPersisted.lookup (o.impl.ids.next .rollout .rollout).1 = none)
    (hwritten : ∀ entry epoch landed, .appended entry epoch false landed
      ∈ (createRollout env o plan context).2.impl.trace.drop o.impl.trace.length →
      ¬ entry.Fits env.limits) :
    o.CreatesWhole env plan context ↔ o.CreationFits env plan context := by
  unfold CreatesWhole
  have hsame : o.SameRollouts env o := ⟨rfl, fun _ => rfl, rfl⟩
  unfold createRollout at hwritten ⊢
  dsimp only at hwritten ⊢
  split
  · next hauthority =>
    -- what is refused before the build leaves the rollouts alone
    exact iff_of_true (fun _ _ => hsame) (Or.inr (.inl (by simpa using hauthority)))
  next hauthority =>
  rw [if_neg hauthority] at hwritten
  split
  · next hfailed => exact iff_of_true (fun _ _ => hsame) (Or.inr (.inr (.inl hfailed)))
  next hrunning =>
  rw [if_neg hrunning] at hwritten
  cases hplan : plan.validate env.limits with
  | error s =>
    refine iff_of_true (fun _ _ => hsame) (Or.inr (.inr (.inr fun checked hok => ?_)))
    rw [hplan] at hok
    cases hok
  | ok checked =>
  rw [hplan] at hwritten
  dsimp only at hwritten ⊢
  split
  · next hnil =>
    refine iff_of_true (fun _ _ => hsame) (Or.inr (.inr (.inr fun _ hok => ?_)))
    cases hplan.symm.trans hok
    exact .inl hnil
  next hid =>
  rw [if_neg hid] at hwritten
  have hrunning' : o.impl.storageFailed = false := by simpa using hrunning
  have hauthority' : (checkAuthority o.impl context).isOk = true := by simpa using hauthority
  -- past these checks only the journal, the cohorts and the sizes decide
  have hcond : o.CreationFits env plan context ↔ env.journal = none
      ∨ ¬ checked.Populates env.limits o.impl.inventory
      ∨ env.limits.maxJournalRecordBytes.toNat < checked.snapshotBytes env.limits o.impl.inventory
      ∨ (JournalEntry.planStored checked).Fits env.limits
        ∧ (JournalEntry.inventoryStored o.impl.inventory).Fits env.limits := by
    unfold CreationFits
    simp only [hplan, hauthority', hrunning', hid, Except.ok.injEq, forall_eq', Bool.false_eq_true,
      Bool.true_eq_false, false_or]
  rw [hcond]
  have hspec := @buildRollout_spec _ env { o.impl with
      outside := (env.clock o.impl.outside).2
      ids := (freshRollout o.impl checked context (env.clock o.impl.outside).1).2 }
    (freshRollout o.impl checked context (env.clock o.impl.outside).1).1
    (env.clock o.impl.outside).1 checked context
    hlimits hrunning' rfl rfl rfl rfl hfresh
  generalize hrun : (buildRollout env checked context _).exec _ = run at hwritten ⊢
  obtain ⟨result, w⟩ := run
  cases result with
  -- the build failed, and what it wrote says whether the rollouts are the same
  | error s =>
    have hfailure := hspec.of_error ⟨rfl, rfl⟩ hrun
    have hiff := sameRollouts_iff (o := o) hfailure hrunning' rfl rfl fun hnot => ?_
    · exact ⟨fun h => hiff.1 (h s rfl), fun h _ _ => hiff.2 h⟩
    · obtain ⟨entry, epoch, landed, hmem, hfits⟩ := hnot
      exact hwritten entry epoch landed hmem hfits
  | ok _ =>
    refine iff_of_true (fun s hs => by cases hs) ?_
    rcases hspec.of_ok ⟨rfl, rfl⟩ hrun with hnot | hfit
    · obtain ⟨entry, epoch, landed, hmem, hfits⟩ := hnot
      exact absurd hfits (hwritten entry epoch landed hmem)
    · cases hjournal : env.journal with
      | none => exact .inl rfl
      | some device => exact .inr (.inr (.inr (hfit (by rw [hjournal]; rfl))))

/-- What an arming that fails has frozen. -/
theorem sameFrozen_iff {r : Rollout} {s : Status} {w : World ρ} (h : ArmFailure env r s w)
    (hs : ¬ StorageFailure env.limits w.impl s) :
    (∀ j, (w.rollout.stageAt j).cohort.frozen = (r.stageAt j).cohort.frozen)
      ↔ (r.state ≠ .validated ∧ r.state ≠ .created) ∨ ¬ (r.stageAt 0).Freezable
        ∨ r.state = .validated ∧ ∀ j < r.stages.length, (r.stageAt j).Freezable := by
  have hfirst (now : Timestamp) (n : Nat) (hn : 0 < n) (hlength : 0 < r.stages.length) :
      ((r.freezeFirst n now).stageAt 0).cohort.frozen = true := by
    rw [Rollout.stageAt_freezeFirst_lt hn hlength]
    rfl
  cases h with
  | storage h => exact absurd h hs
  | state h same => exact iff_of_true (fun j => by rw [same]) (.inl h)
  | stage now h state =>
    obtain ⟨j, hj, hnot, hbefore, hw⟩ := h.stopped
    rcases Nat.eq_zero_or_pos j with rfl | hpos
    · rw [Rollout.freezeFirst_zero] at hw
      exact iff_of_true (fun j => by rw [hw]) (.inr (.inl hnot))
    · refine iff_of_false (fun hsame => ?_) ?_
      · have hfrozen := hsame 0
        rw [hw, hfirst now j hpos (by omega), (hbefore 0 hpos).1] at hfrozen
        cases hfrozen
      · rintro (⟨hvalidated, hcreated⟩ | hfirst | ⟨-, hall⟩)
        · exact state.elim hvalidated hcreated
        · exact hfirst (hbefore 0 hpos)
        · exact hnot (hall j hj)
  | illegal now hall state frozen =>
    have hw (j : Nat) : w.rollout.stageAt j = (r.freezeFirst r.stages.length now).stageAt j := by
      rw [Rollout.stageAt, Rollout.stageAt, frozen]
    rcases Nat.eq_zero_or_pos r.stages.length with hnone | hpos
    · have hempty : r.stages = [] := List.eq_nil_of_length_eq_zero hnone
      refine iff_of_true (fun j => ?_) (.inr (.inl ?_))
      · rw [hw, hnone, Rollout.freezeFirst_zero]
      · rw [Rollout.stageAt, hempty]
        exact fun hfreezable => hfreezable.2 rfl
    · refine iff_of_false (fun hsame => ?_) ?_
      · have hfrozen := hsame 0
        rw [hw, hfirst now _ hpos hpos, (hall 0 hpos).1] at hfrozen
        cases hfrozen
      · rintro (⟨-, hcreated⟩ | hfirst | ⟨hvalidated, -⟩)
        · exact hcreated state
        · exact hfirst (hall 0 hpos)
        · rw [state] at hvalidated
          cases hvalidated

/-- An arming is all or nothing exactly when it does not stop after the first cohort, storage
failures apart. -/
theorem arms_whole_iff (hk : o.index id = some k)
    (hstorage : ∀ s, (arm env o id context).1 = .error s →
      ¬ StorageFailure env.limits (arm env o id context).2.impl s) :
    o.ArmsWhole env id context k ↔ o.ArmsCleanly id context k := by
  unfold ArmsWhole ArmsCleanly
  dsimp only
  unfold arm at hstorage ⊢
  by_cases hpasses : o.Passes id context k
  · rw [command_of_passes hpasses] at hstorage ⊢
    rw [or_iff_right (not_not.2 hpasses)]
    have hspec := @armRollout_spec _ env (o.heldAt k).rollout context
    obtain ⟨result, w, hrun⟩ : ∃ result w, (armRollout env context).exec (o.world k {})
        = (result, w) := ⟨_, _, rfl⟩
    rw [hrun] at hstorage ⊢
    have hheld : ((o.put k w).heldAt k).rollout = w.rollout := by
      rw [heldAt_put_self (index_lt hk) w]
    dsimp only
    rw [hheld]
    cases result with
    | ok answer =>
      obtain ⟨hall, hvalidated⟩ := hspec.of_ok (s := o.world k {}) rfl hrun
      exact iff_of_true (fun s hs => by cases hs) (.inr (.inr ⟨hvalidated, hall⟩))
    | error s =>
      have hiff := sameFrozen_iff (hspec.of_error (s := o.world k {}) rfl hrun) (hstorage s rfl)
      exact ⟨fun h => hiff.1 (h s rfl), fun h _ _ => hiff.2 h⟩
  · obtain ⟨s, hrefused⟩ := @command_of_not_passes _ _ _ _ _ (fun _ => armRollout env context) hk
      hpasses
    rw [hrefused]
    exact iff_of_true (fun _ _ _ => rfl) (.inl hpasses)

/-- Creating and arming are all or nothing, device and storage failures apart, exactly when neither
is refused halfway. -/
theorem create_and_arm_whole_iff (hlimits : env.limits.validate.isOk = true)
    (hfresh : o.impl.lastPersisted.lookup (o.impl.ids.next .rollout .rollout).1 = none)
    (hwritten : ∀ entry epoch landed, .appended entry epoch false landed
      ∈ (createRollout env o plan context).2.impl.trace.drop o.impl.trace.length →
      ¬ entry.Fits env.limits)
    (hk : o.index id = some k)
    (hstorage : ∀ s, (arm env o id context).1 = .error s →
      ¬ StorageFailure env.limits (arm env o id context).2.impl s) :
    (o.CreatesWhole env plan context ↔ o.CreationFits env plan context)
      ∧ (o.ArmsWhole env id context k ↔ o.ArmsCleanly id context k) :=
  ⟨creates_whole_iff hlimits hfresh hwritten, arms_whole_iff hk hstorage⟩

/-- An arming that is refused with a stage frozen that was not. -/
theorem not_armsWhole {code : StatusCode} {j : Nat}
    (hcode : refusedWith code (arm env o id context).1 = true)
    (hfrozen : (((arm env o id context).2.heldAt k).rollout.stageAt j).cohort.frozen
      ≠ ((o.heldAt k).rollout.stageAt j).cohort.frozen) : ¬ o.ArmsWhole env id context k := by
  intro hwhole
  cases hresult : (arm env o id context).1 with
  | ok answer =>
    rw [hresult] at hcode
    cases hcode
  | error s => exact hfrozen (hwhole s hresult j)

end Orchestrator

/-! ### A stage that lost its targets -/

def secondOnly : SelectorTerm := .mk .byIds [idOf 2] [] [] [] [] [] [] [] false []

/-- A second stage for the second target alone. -/
def pairPlan : ChangePlan := { rerunPlan with
  stages := rerunPlan.stages ++ rerunPlan.stages.map fun stage => { stage with
    id := idOf 6
    name := text "t"
    predecessors := [idOf 5]
    selector := secondOnly } }

/-- The rollout was armed over two targets and aborted; its new generation finds one of them. -/
def thinned : Orchestrator Unit := twinOrchestrator.after volatileEnv
  [.create pairPlan {}, .arm twinRollout {}, .abort twinRollout {} [],
    .setInventory loneInventory, .regenerate twinRollout {}]

theorem thinned_refused :
    refusedWith .preconditionFailed (arm volatileEnv thinned twinRollout {}).1 = true
      ∧ (arm volatileEnv thinned twinRollout {}).2.impl.storageFailed = false
      ∧ (((arm volatileEnv thinned twinRollout {}).2.heldAt 0).rollout.stageAt 0).cohort.frozen
        = true
      ∧ ((thinned.heldAt 0).rollout.stageAt 0).cohort.frozen = false := by decide +kernel

/-- The arming that was refused for the second stage has frozen the first. -/
theorem refused_arming_freezes :
    (∀ s, (arm volatileEnv thinned twinRollout {}).1 = .error s →
        ¬ StorageFailure volatileEnv.limits (arm volatileEnv thinned twinRollout {}).2.impl s)
      ∧ ¬ thinned.ArmsWhole volatileEnv twinRollout {} 0 := by
  obtain ⟨hcode, hopen, hfrozen, hthawed⟩ := thinned_refused
  refine ⟨not_storageFailure_of_refusedWith hcode (by decide) hopen,
    Orchestrator.not_armsWhole (j := 0) hcode ?_⟩
  rw [hfrozen, hthawed]
  exact nofun

/-- An append that did not succeed. -/
def Event.isRefused : Event → Bool
  | .appended _ _ ok _ => !ok
  | _ => false

/-- The rollout in a controller that has written no snapshot yet. -/
def rethinned : Orchestrator Unit := { twinOrchestrator with held := thinned.held }

theorem rethinned_created :
    rethinned.impl.lastPersisted.lookup (rethinned.impl.ids.next .rollout .rollout).1 = none
      ∧ ((createRollout volatileEnv rethinned rerunPlan {}).2.impl.trace.drop
        rethinned.impl.trace.length).all (fun e => !e.isRefused) = true := by decide +kernel

theorem rethinned_written (entry : JournalEntry) (epoch : UInt64) (landed : Bool)
    (h : .appended entry epoch false landed ∈ (createRollout volatileEnv rethinned rerunPlan
      {}).2.impl.trace.drop rethinned.impl.trace.length) : ¬ entry.Fits volatileEnv.limits := by
  have hall := List.all_eq_true.1 rethinned_created.2 _ h
  cases hall

theorem rethinned_refused :
    rethinned.index twinRollout = some 0
      ∧ refusedWith .preconditionFailed (arm volatileEnv rethinned twinRollout {}).1 = true
      ∧ (arm volatileEnv rethinned twinRollout {}).2.impl.storageFailed = false := by decide +kernel

theorem create_and_arm_whole_iff_rethinned :
    (rethinned.CreatesWhole volatileEnv rerunPlan {}
        ↔ rethinned.CreationFits volatileEnv rerunPlan {})
      ∧ (rethinned.ArmsWhole volatileEnv twinRollout {} 0
        ↔ rethinned.ArmsCleanly twinRollout {} 0) :=
  Orchestrator.create_and_arm_whole_iff (by decide +kernel) rethinned_created.1 rethinned_written
    rethinned_refused.1
    (not_storageFailure_of_refusedWith rethinned_refused.2.1 (by decide) rethinned_refused.2.2)

end RolloutFabric
