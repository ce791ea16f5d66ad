/-
What the digests of a plan pin. Each digest is the hash of a message that tells its fields apart,
as long as every list and text is within its 32-bit count; so, short of a collision, one plan
digest means one execution.
-/
import RolloutFabric.Codec.Splits
import RolloutFabric.Domain.CanonicalOrder
import RolloutFabric.Domain.PlanRoundTrip

namespace RolloutFabric

open Coding

/-- The count that stands before the list is exact. -/
def isShort {α : Type} (xs : List α) : Bool := decide (xs.length < kLengthBound)

theorem isShort_iff {α : Type} {xs : List α} : isShort xs = true ↔ xs.length < kLengthBound :=
  decide_eq_true_iff

/-! ## Messages -/

/-- What `action_digest` hashes. -/
def ActionSpec.message (a : ActionSpec) : Bytes :=
  ByteWriter.string (text "rollout-fabric/action/v1") ++ a.encode

/-- What `policy_digest` hashes. -/
def StagePolicy.message (p : StagePolicy) : Bytes :=
  ByteWriter.string (text "rollout-fabric/stage-policy/v1") ++ p.encode

/-- What `selector_digest` hashes. -/
def SelectorTerm.message (term : SelectorTerm) : Bytes :=
  ByteWriter.string (text "rollout-fabric/selector/v1") ++ term.encode

/-- What `stage_digest` hashes. -/
def StageSpec.message (s : StageSpec) : Bytes := [
  ByteWriter.string (text "rollout-fabric/stage/v1"), ByteWriter.id s.id,
  ByteWriter.string s.name, ByteWriter.u32 s.ordinal,
  ByteWriter.vector ByteWriter.digest ((s.predecessors.map StageSpec.widen).insertionSort (· ≤ ·)),
  s.selector.selectorDigest.data, s.policy.policyDigest.data, s.evidenceRule.encode,
  ByteWriter.vector (fun action : ActionSpec => action.actionDigest.data) s.actions].flatten

/-- What `plan_digest` hashes. -/
def ChangePlan.message (p : ChangePlan) : Bytes := [
  ByteWriter.string (text "rollout-fabric/change-plan/v1"), ByteWriter.id p.id,
  ByteWriter.digest p.sourceDigest, ByteWriter.string p.changeId,
  ByteWriter.string p.approvedBy, ByteWriter.timestamp p.approvedAt,
  ByteWriter.vector (fun id => match p.findStage id with
    | none => ByteWriter.id id
    | some spec => spec.stageDigest.data) p.order].flatten

theorem ActionSpec.actionDigest_eq (a : ActionSpec) : a.actionDigest = sha256 a.message := rfl
theorem StagePolicy.policyDigest_eq (p : StagePolicy) : p.policyDigest = sha256 p.message := rfl
theorem SelectorTerm.selectorDigest_eq (term : SelectorTerm) :
    term.selectorDigest = sha256 term.message := rfl
theorem StageSpec.stageDigest_eq (s : StageSpec) : s.stageDigest = sha256 s.message := rfl
theorem ChangePlan.planDigest_eq (p : ChangePlan) : p.planDigest = sha256 p.message := rfl

/-! ## Actions, rules and policies -/

/-- The texts of an action are within their counts. -/
def ActionSpec.isShort (a : ActionSpec) : Bool :=
  RolloutFabric.isShort a.name && RolloutFabric.isShort a.parameters

theorem action_splits {a b : ActionSpec} (ha : a.isShort = true) (hb : b.isShort = true) :
    Splits a.encode b.encode (a = b) := by
  simp only [ActionSpec.isShort, Bool.and_eq_true, isShort_iff] at ha hb
  unfold ActionSpec.encode
  refine Splits.imp (id_splits.next <| (string_splits ha.1 hb.1).next <|
    enum_splits.next <| digest_splits.next <| id_splits.next <|
    enum_splits.next <| (bytes_splits ha.2 hb.2).last) ?_
  rintro ⟨hid, hname, hkind, hdigest, hartifact, hrollback, hparameters⟩
  cases a
  cases b
  simp_all

theorem evidenceRule_splits {a b : TargetEvidenceRule} : Splits a.encode b.encode (a = b) := by
  unfold TargetEvidenceRule.encode
  refine Splits.imp (enum_splits.next <| enum_splits.next <| boolean_splits.next <|
    id_splits.next <| duration_splits.next <| boolean_splits.last) ?_
  rintro ⟨hsuccess, hfailure, hverification, hverifier, hsettle, hhealth⟩
  cases a
  cases b
  simp_all

theorem Ratio.encode_splits {a b : Ratio} : Splits a.encode b.encode (a = b) :=
  (u32_splits.append fun _ => u32_splits).imp fun ⟨hnum, hden⟩ => by
    cases a
    cases b
    simp_all

theorem policy_splits {a b : StagePolicy} (ha : isShort a.compensationActions = true)
    (hb : isShort b.compensationActions = true) : Splits a.encode b.encode (a = b) := by
  rw [isShort_iff] at ha hb
  unfold StagePolicy.encode
  refine Splits.imp (u32_splits.next <| Ratio.encode_splits.next <| u32_splits.next <|
    Ratio.encode_splits.next <| u32_splits.next <| boolean_splits.next <|
    -- the health gate
    boolean_splits.next <| duration_splits.next <| id_splits.next <| u32_splits.next <|
    Ratio.encode_splits.next <| u32_splits.next <| Ratio.encode_splits.next <|
    -- the evidence gate
    enum_splits.next <| duration_splits.next <| duration_splits.next <| id_splits.next <|
    u32_splits.next <| Ratio.encode_splits.next <| boolean_splits.next <|
    enum_splits.next <| enum_splits.next <|
    -- the blast radius
    u32_splits.next <| u32_splits.next <| u32_splits.next <| u32_splits.next <|
    u32_splits.next <| u32_splits.next <| u32_splits.next <|
    duration_splits.next <| u32_splits.next <| duration_splits.next <| enum_splits.next <|
    boolean_splits.next <| (vector_splits ha hb fun _ _ _ _ => id_splits).next <|
    boolean_splits.next <| u32_splits.last) ?_
  intro h
  obtain ⟨_, _, _, _, _, _, ⟨_, _, _, _, _, _, _⟩, ⟨_, _, _, _, _, _, _⟩, _, _,
    ⟨_, _, _, _, _, _, _⟩, _, _, _, _, _, _, _, _⟩ := a
  obtain ⟨_, _, _, _, _, _, ⟨_, _, _, _, _, _, _⟩, ⟨_, _, _, _, _, _, _⟩, _, _,
    ⟨_, _, _, _, _, _, _⟩, _, _, _, _, _, _, _, _⟩ := b
  simp_all

/-! ## Selectors -/

/-- The list and its texts are within their counts. -/
def textsShort (xs : List Bytes) : Bool := isShort xs && xs.all isShort

theorem texts_splits {a b : List Bytes} (ha : textsShort a = true) (hb : textsShort b = true) :
    Splits (ByteWriter.vector ByteWriter.string a) (ByteWriter.vector ByteWriter.string b)
      (a = b) := by
  simp only [textsShort, Bool.and_eq_true, isShort_iff, List.all_eq_true] at ha hb
  exact vector_splits ha.1 hb.1 fun x hx y hy => string_splits (ha.2 x hx) (hb.2 y hy)

mutual

/-- The lists and texts of the term, down to its last child, are within their counts. -/
def SelectorTerm.isShort : SelectorTerm → Bool
  | .mk _ ids kinds sites pods racks failureDomains labelKey labelValue _ children =>
    RolloutFabric.isShort ids && RolloutFabric.isShort kinds && textsShort sites
      && textsShort pods && textsShort racks && RolloutFabric.isShort failureDomains
      && RolloutFabric.isShort labelKey && RolloutFabric.isShort labelValue
      && RolloutFabric.isShort children && selectorsShort children

def selectorsShort : List SelectorTerm → Bool
  | [] => true
  | child :: rest => child.isShort && selectorsShort rest

end

mutual

theorem selector_splits : ∀ a b : SelectorTerm, a.isShort = true → b.isShort = true →
    Splits a.encode b.encode (a = b)
  | .mk op ids kinds sites pods racks failureDomains labelKey labelValue isSet children,
    .mk op' ids' kinds' sites' pods' racks' failureDomains' labelKey' labelValue' isSet'
      children', ha, hb => by
    simp only [SelectorTerm.isShort, Bool.and_eq_true, isShort_iff] at ha hb
    obtain ⟨⟨⟨⟨⟨⟨⟨⟨⟨hids, hkinds⟩, hsites⟩, hpods⟩, hracks⟩, hdomains⟩, hkey⟩, hvalue⟩, hcount⟩,
      hchildren⟩ := ha
    obtain ⟨⟨⟨⟨⟨⟨⟨⟨⟨hids', hkinds'⟩, hsites'⟩, hpods'⟩, hracks'⟩, hdomains'⟩, hkey'⟩, hvalue'⟩,
      hcount'⟩, hchildren'⟩ := hb
    have hlast : Splits (ByteWriter.count children.length ++ encodeSelectors children)
        (ByteWriter.count children'.length ++ encodeSelectors children') (children = children') :=
      ((count_splits hcount hcount').append fun hlength =>
        selectors_splits children children' hlength hchildren hchildren').imp And.right
    unfold SelectorTerm.encode
    refine Splits.imp (enum_splits.next <|
      (vector_splits hids hids' fun _ _ _ _ => id_splits).next <|
      (vector_splits hkinds hkinds' fun _ _ _ _ => enum_splits).next <|
      (texts_splits hsites hsites').next <| (texts_splits hpods hpods').next <|
      (texts_splits hracks hracks').next <|
      (vector_splits hdomains hdomains' fun _ _ _ _ => id_splits).next <|
      (string_splits hkey hkey').next <| (string_splits hvalue hvalue').next <|
      boolean_splits.next <| hlast.last) ?_
    rintro ⟨rfl, rfl, rfl, rfl, rfl, rfl, rfl, rfl, rfl, rfl, rfl⟩
    rfl

theorem selectors_splits : ∀ as bs : List SelectorTerm, as.length = bs.length →
    selectorsShort as = true → selectorsShort bs = true →
    Splits (encodeSelectors as) (encodeSelectors bs) (as = bs)
  | [], [], _, _, _ => fun _ _ heq => ⟨rfl, heq⟩
  | a :: as, b :: bs, hlength, ha, hb => by
    simp only [selectorsShort, Bool.and_eq_true] at ha hb
    have hrest := selectors_splits as bs (Nat.succ.inj hlength) ha.2 hb.2
    refine ((selector_splits a b ha.1 hb.1).append fun _ => hrest).imp ?_
    rintro ⟨rfl, rfl⟩
    rfl

end

/-! ## Stages -/

namespace StageSpec

/-- The lists and texts of a stage are within their counts. -/
def isShort (s : StageSpec) : Bool :=
  RolloutFabric.isShort s.name && RolloutFabric.isShort s.predecessors && s.selector.isShort
    && RolloutFabric.isShort s.policy.compensationActions && RolloutFabric.isShort s.actions
    && s.actions.all ActionSpec.isShort

/-- The two stages do the same: only the order of the predecessors may differ. -/
structure SameWork (s t : StageSpec) : Prop where
  id : s.id = t.id
  name : s.name = t.name
  ordinal : s.ordinal = t.ordinal
  predecessors : s.predecessors.Perm t.predecessors
  selector : s.selector = t.selector
  policy : s.policy = t.policy
  evidenceRule : s.evidenceRule = t.evidenceRule
  actions : s.actions = t.actions

/-- Among what the digests of the two stages hash there is no collision. -/
structure CollisionFree (s t : StageSpec) : Prop where
  selector : s.selector.selectorDigest = t.selector.selectorDigest →
    s.selector.message = t.selector.message
  policy : s.policy.policyDigest = t.policy.policyDigest → s.policy.message = t.policy.message
  actions : ∀ a ∈ s.actions, ∀ b ∈ t.actions, a.actionDigest = b.actionDigest →
    a.message = b.message

theorem widen_injective : Function.Injective widen := by
  intro a b h
  have htake (id : StageId) : (widen id).data.take 16 = id.bytes.data := by
    have hlen := id.bytes.size_eq
    show ((id.bytes.data ++ List.replicate 32 0).take 32).take 16 = _
    rw [List.take_take, List.take_append_of_le_length (by rw [hlen]; decide),
      List.take_of_length_le (by rw [hlen]; decide)]
  have hdata : a.bytes.data = b.bytes.data := by rw [← htake a, h, htake b]
  cases a
  cases b
  exact congrArg _ (FixedBytes.ext hdata)

theorem perm_of_sorted {l l' : List StageId}
    (h : (l.map widen).insertionSort (· ≤ ·) = (l'.map widen).insertionSort (· ≤ ·)) :
    l.Perm l' := by
  refine (List.map_perm_map_iff widen_injective).1 ?_
  have hsorted := List.perm_insertionSort (· ≤ ·) (l.map widen)
  rw [h] at hsorted
  exact hsorted.symm.trans (List.perm_insertionSort (· ≤ ·) (l'.map widen))

/-- Stages with one message do the same, short of a collision below them. -/
theorem sameWork_of_message {s t : StageSpec} (hs : s.isShort = true) (ht : t.isShort = true)
    (hfree : s.CollisionFree t) (h : s.message = t.message) : s.SameWork t := by
  simp only [isShort, Bool.and_eq_true, isShort_iff, List.all_eq_true] at hs ht
  obtain ⟨⟨⟨⟨⟨hname, hpred⟩, hselector⟩, hcompensation⟩, hcount⟩, hactions⟩ := hs
  obtain ⟨⟨⟨⟨⟨hname', hpred'⟩, hselector'⟩, hcompensation'⟩, hcount'⟩, hactions'⟩ := ht
  have hsorted (l : List StageId) (hl : l.length < kLengthBound) :
      ((l.map widen).insertionSort (· ≤ ·)).length < kLengthBound := by
    rwa [List.length_insertionSort, List.length_map]
  have hsplits : Splits s.message t.message (_ ∧ _) :=
    (Splits.of_length rfl).next <| id_splits.next <| (string_splits hname hname').next <|
      u32_splits.next <|
      (vector_splits (hsorted _ hpred) (hsorted _ hpred') fun _ _ _ _ => digest_splits).next <|
      fixedBytes_splits.next <| fixedBytes_splits.next <| evidenceRule_splits.next <|
      (vector_splits_map (f := ActionSpec.actionDigest) hcount hcount' fun _ _ _ _ =>
        fixedBytes_splits).last
  obtain ⟨-, hid, hname, hordinal, hpredecessors, hselectors, hpolicies, hrule, hdigests⟩ :=
    hsplits.eq h
  refine ⟨hid, hname, hordinal, perm_of_sorted hpredecessors, ?_, ?_, hrule, ?_⟩
  · have hmessage := List.append_cancel_left (hfree.selector hselectors)
    exact (selector_splits _ _ hselector hselector').eq hmessage
  · have hmessage := List.append_cancel_left (hfree.policy hpolicies)
    exact (policy_splits (isShort_iff.2 hcompensation) (isShort_iff.2 hcompensation')).eq hmessage
  · refine eq_of_map_eq hdigests fun a ha b hb hab => ?_
    have hmessage := List.append_cancel_left (hfree.actions a ha b hb hab)
    exact (action_splits (hactions a ha) (hactions' b hb)).eq hmessage

end StageSpec

/-! ## Plans -/

namespace ChangePlan

/-- The lists and texts of a plan are within their counts. -/
def isShort (p : ChangePlan) : Bool :=
  RolloutFabric.isShort p.changeId && RolloutFabric.isShort p.approvedBy
    && RolloutFabric.isShort p.stages && p.stages.all StageSpec.isShort

/-- Among what the digests of the two plans hash there is no collision. -/
structure CollisionFree (p q : ChangePlan) : Prop where
  plan : p.planDigest = q.planDigest → p.message = q.message
  stage : ∀ s ∈ p.stages, ∀ t ∈ q.stages, s.stageDigest = t.stageDigest → s.message = t.message
  below : ∀ s ∈ p.stages, ∀ t ∈ q.stages, s.CollisionFree t

/-- The stages in the order of their execution. -/
def executed (p : ChangePlan) : List StageSpec := p.order.filterMap p.findStage

/-- The two plans execute the same for the same change. -/
structure SameExecution (p q : ChangePlan) : Prop where
  id : p.id = q.id
  sourceDigest : p.sourceDigest = q.sourceDigest
  changeId : p.changeId = q.changeId
  order : p.order = q.order
  stages : List.Forall₂ StageSpec.SameWork p.executed q.executed

theorem findStage_spec {p : ChangePlan} {id : StageId} {s : StageSpec}
    (h : p.findStage id = some s) : s ∈ p.stages ∧ s.id = id :=
  ⟨List.mem_of_find?_eq_some h, by simpa using List.find?_some h⟩

/-- Every stage of an order that lists declared stages is executed, under its own digest. -/
theorem executed_spec {p : ChangePlan} {ids : List StageId}
    (h : ∀ id ∈ ids, id ∈ p.stages.map StageSpec.id) :
    (ids.filterMap p.findStage).map StageSpec.id = ids
      ∧ (ids.map fun id => match p.findStage id with
          | none => ByteWriter.id id
          | some spec => spec.stageDigest.data)
        = (ids.filterMap p.findStage).map fun s => s.stageDigest.data := by
  induction ids with
  | nil => exact ⟨rfl, rfl⟩
  | cons id ids ih =>
    obtain ⟨hids, hdigests⟩ := ih fun x hx => h x (List.mem_cons_of_mem _ hx)
    cases hfind : p.findStage id with
    | none =>
      obtain ⟨s, hs, rfl⟩ := List.mem_map.1 (h id (List.mem_cons_self ..))
      have := List.find?_eq_none.1 hfind s hs
      simp at this
    | some s =>
      rw [List.filterMap_cons_some hfind, List.map_cons, List.map_cons, List.map_cons, hids,
        hdigests, (findStage_spec hfind).2, hfind]
      exact ⟨rfl, rfl⟩

/-- What a plan that passed validation executes: all of its stages, once. -/
theorem executed_of_validate {limits : RuntimeLimits} {p q : ChangePlan}
    (h : p.validate limits = .ok q) :
    q.executed.map StageSpec.id = q.order ∧ q.executed.length = q.stages.length
      ∧ q.message = [
        ByteWriter.string (text "rollout-fabric/change-plan/v1"), ByteWriter.id q.id,
        ByteWriter.digest q.sourceDigest, ByteWriter.string q.changeId,
        ByteWriter.string q.approvedBy, ByteWriter.timestamp q.approvedAt,
        ByteWriter.vector (fun s : StageSpec => s.stageDigest.data) q.executed].flatten := by
  have hcanonical := (orderable_of_validate h).canonical
  have hq := eq_of_validate h
  have hperm : q.order.Perm (q.stages.map StageSpec.id) := by
    rw [hq]
    exact hcanonical.perm
  obtain ⟨hids, hdigests⟩ := @executed_spec q q.order fun id hid => hperm.mem_iff.1 hid
  have hlength : q.executed.length = q.order.length := by
    rw [← List.length_map (f := StageSpec.id)]
    exact congrArg List.length hids
  refine ⟨hids, by rw [hlength, hperm.length_eq, List.length_map], ?_⟩
  unfold message ByteWriter.vector
  rw [hdigests, hlength]
  rfl

theorem mem_executed {p : ChangePlan} {s : StageSpec} (h : s ∈ p.executed) : s ∈ p.stages := by
  obtain ⟨id, -, hfind⟩ := List.mem_filterMap.1 h
  exact (findStage_spec hfind).1

theorem forall₂_of_map_eq {α β : Type} {f : α → β} {R : α → α → Prop} {as bs : List α}
    (h : as.map f = bs.map f) (hf : ∀ a ∈ as, ∀ b ∈ bs, f a = f b → R a b) :
    List.Forall₂ R as bs := by
  induction as generalizing bs with
  | nil =>
    cases bs with
    | nil => exact .nil
    | cons => cases h
  | cons a as ih =>
    cases bs with
    | nil => cases h
    | cons b bs =>
      obtain ⟨hab, hrest⟩ := List.cons.inj h
      exact .cons (hf a (List.mem_cons_self ..) b (List.mem_cons_self ..) hab)
        (ih hrest fun x hx y hy => hf x (List.mem_cons_of_mem _ hx) y (List.mem_cons_of_mem _ hy))

theorem ids_of_sameWork {as bs : List StageSpec} (h : List.Forall₂ StageSpec.SameWork as bs) :
    as.map StageSpec.id = bs.map StageSpec.id := by
  induction h with
  | nil => rfl
  | cons hst _ ih => rw [List.map_cons, List.map_cons, hst.id, ih]

/-- Plans with one digest execute the same, short of a collision. -/
theorem sameExecution_of_planDigest {limits limits' : RuntimeLimits} {p p' q q' : ChangePlan}
    (hp : p.validate limits = .ok p') (hq : q.validate limits' = .ok q')
    (hps : p'.isShort = true) (hqs : q'.isShort = true) (hfree : p'.CollisionFree q')
    (h : p'.planDigest = q'.planDigest) : p'.SameExecution q' := by
  simp only [isShort, Bool.and_eq_true, isShort_iff, List.all_eq_true] at hps hqs
  obtain ⟨⟨⟨hchange, hby⟩, hcount⟩, hstages⟩ := hps
  obtain ⟨⟨⟨hchange', hby'⟩, hcount'⟩, hstages'⟩ := hqs
  obtain ⟨hids, hlength, hmessage⟩ := executed_of_validate hp
  obtain ⟨hids', hlength', hmessage'⟩ := executed_of_validate hq
  have heq := hfree.plan h
  rw [hmessage, hmessage'] at heq
  rw [← hlength] at hcount
  rw [← hlength'] at hcount'
  obtain ⟨-, hid, hsource, hchange, -, -, hdigests⟩ :=
    ((Splits.of_length rfl).next <| id_splits.next <| digest_splits.next <|
      (string_splits hchange hchange').next <| (string_splits hby hby').next <|
      timestamp_splits.next <|
      (vector_splits_map (f := StageSpec.stageDigest) hcount hcount' fun _ _ _ _ =>
        fixedBytes_splits).last).eq heq
  have hwork : List.Forall₂ StageSpec.SameWork p'.executed q'.executed := by
    refine forall₂_of_map_eq hdigests fun s hs t ht hst => ?_
    have hs := mem_executed hs
    have ht := mem_executed ht
    exact StageSpec.sameWork_of_message (hstages s hs) (hstages' t ht) (hfree.below s hs t ht)
      (hfree.stage s hs t ht hst)
  refine ⟨hid, hsource, hchange, ?_, hwork⟩
  rw [← hids, ← hids']
  exact ids_of_sameWork hwork

/-! ## Declaring the stages in another order -/

/-- The stage with its predecessors in another order. -/
structure Reorders (s t : StageSpec) : Prop where
  predecessors : t.predecessors.Perm s.predecessors
  same : { t with predecessors := s.predecessors } = s

/-- The same stages in another order, each with its predecessors in any order. -/
def Reordered (stages stages' : List StageSpec) : Prop :=
  ∃ l, List.Forall₂ Reorders stages l ∧ l.Perm stages'

theorem Reorders.redeclares {s t : StageSpec} (h : Reorders s t) : Redeclares s t := by
  refine ⟨?_, ?_, fun p => h.predecessors.mem_iff⟩
  · rw [← h.same]
  · rw [← h.same]

theorem Reordered.redeclared {stages stages' : List StageSpec} (h : Reordered stages stages') :
    Redeclared stages stages' := by
  obtain ⟨l, hall, hperm⟩ := h
  exact ⟨l, hall.imp fun _ _ => Reorders.redeclares, hperm⟩

/-- The digest of a stage does not see the order of its predecessors. -/
theorem Reorders.stageDigest {s t : StageSpec} (h : Reorders s t) :
    t.stageDigest = s.stageDigest := by
  have hsorted : (t.predecessors.map StageSpec.widen).insertionSort (· ≤ ·)
      = (s.predecessors.map StageSpec.widen).insertionSort (· ≤ ·) := by
    have hperm := (List.perm_insertionSort (· ≤ ·) (t.predecessors.map StageSpec.widen)).trans
      ((h.predecessors.map StageSpec.widen).trans
        (List.perm_insertionSort (· ≤ ·) (s.predecessors.map StageSpec.widen)).symm)
    exact hperm.eq_of_pairwise' (List.pairwise_insertionSort ..) (List.pairwise_insertionSort ..)
  have hsame := h.same
  obtain ⟨tid, tname, tordinal, tpred, tselector, tpolicy, trule, tactions⟩ := t
  obtain ⟨sid, sname, sordinal, spred, sselector, spolicy, srule, sactions⟩ := s
  cases hsame
  unfold StageSpec.stageDigest
  dsimp only at hsorted ⊢
  rw [hsorted]

theorem Reordered.mem {stages stages' : List StageSpec} (h : Reordered stages stages') :
    ∀ s ∈ stages, ∃ t ∈ stages', Reorders s t := by
  obtain ⟨l, hall, hperm⟩ := h
  intro s hs
  have hex : ∃ t ∈ l, Reorders s t := by
    clear hperm
    induction hall with
    | nil => cases hs
    | @cons a b _ _ hab _ ih =>
      rcases List.mem_cons.1 hs with rfl | hs
      · exact ⟨b, List.mem_cons_self .., hab⟩
      · obtain ⟨t, ht, hst⟩ := ih hs
        exact ⟨t, List.mem_cons_of_mem _ ht, hst⟩
  obtain ⟨t, ht, hst⟩ := hex
  exact ⟨t, hperm.mem_iff.1 ht, hst⟩

theorem findStage_of_mem {p : ChangePlan} (hids : (p.stages.map StageSpec.id).Nodup) {s : StageSpec}
    (hs : s ∈ p.stages) : p.findStage s.id = some s := by
  cases hfind : p.findStage s.id with
  | none =>
    have := List.find?_eq_none.1 hfind s hs
    simp at this
  | some t =>
    obtain ⟨ht, hid⟩ := findStage_spec hfind
    rw [List.inj_on_of_nodup_map hids ht hs hid]

/-- Plans that differ in the order of declaration only have one digest. -/
theorem planDigest_of_reordered {limits limits' : RuntimeLimits} {p p' q q' : ChangePlan}
    (hp : p.validate limits = .ok p') (hq : q.validate limits' = .ok q')
    (hsame : { q with stages := p.stages } = p) (hstages : Reordered p.stages q.stages) :
    p'.planDigest = q'.planDigest := by
  have hordered := orderable_of_validate hp
  have hordered' := orderable_of_validate hq
  have hp' := eq_of_validate hp
  have hq' := eq_of_validate hq
  have horder : q'.order = p'.order := by
    rw [hp', hq']
    exact hstages.redeclared.computeOrder hordered
  have hentries : ∀ id ∈ p'.order, (match q'.findStage id with
        | none => ByteWriter.id id
        | some spec => spec.stageDigest.data) = match p'.findStage id with
        | none => ByteWriter.id id
        | some spec => spec.stageDigest.data := by
    intro id hid
    have hid : id ∈ computeOrder p.stages := by
      rw [hp'] at hid
      exact hid
    obtain ⟨s, hs, rfl⟩ := List.mem_map.1 (hordered.canonical.perm.mem_iff.1 hid)
    obtain ⟨t, ht, hst⟩ := hstages.mem s hs
    have hfind : p'.findStage s.id = some s := by
      rw [hp']
      exact findStage_of_mem hordered.distinct hs
    have hfind' : q'.findStage s.id = some t := by
      rw [hq', ← hst.redeclares.1]
      exact findStage_of_mem hordered'.distinct ht
    rw [hfind, hfind']
    show t.stageDigest.data = s.stageDigest.data
    rw [hst.stageDigest]
  have hfields : q'.id = p'.id ∧ q'.sourceDigest = p'.sourceDigest ∧ q'.changeId = p'.changeId
      ∧ q'.approvedBy = p'.approvedBy ∧ q'.approvedAt = p'.approvedAt := by
    rw [hp', hq', ← hsame]
    exact ⟨rfl, rfl, rfl, rfl, rfl⟩
  obtain ⟨hid, hsource, hchange, hby, hat⟩ := hfields
  have hmessage : q'.message = p'.message := by
    unfold message ByteWriter.vector
    rw [hid, hsource, hchange, hby, hat, horder, List.map_congr_left hentries]
  rw [planDigest_eq, planDigest_eq, hmessage]

/-! ## What the digest pins -/

/-- Of two validated plans whose lists and texts are within their counts, one digest means one
execution, short of a collision; and the order of declaration does not change the digest. -/
theorem plan_digest_pins {limits limits' : RuntimeLimits} {p p' q q' : ChangePlan}
    (hp : p.validate limits = .ok p') (hq : q.validate limits' = .ok q') :
    (p'.isShort = true → q'.isShort = true → p'.CollisionFree q' →
      p'.planDigest = q'.planDigest → p'.SameExecution q')
    ∧ ({ q with stages := p.stages } = p → Reordered p.stages q.stages →
      p'.planDigest = q'.planDigest) :=
  ⟨sameExecution_of_planDigest hp hq, planDigest_of_reordered hp hq⟩

theorem plainPlan_below : ∀ s ∈ (plainPlan (text "c")).stages, ∀ t ∈ (plainPlan (text "c")).stages,
    s.CollisionFree t := by
  rintro s (_ | ⟨_, ⟨⟩⟩) t (_ | ⟨_, ⟨⟩⟩)
  refine ⟨fun _ => rfl, fun _ => rfl, ?_⟩
  rintro a (_ | ⟨_, ⟨⟩⟩) b (_ | ⟨_, ⟨⟩⟩) -
  rfl

theorem plan_digest_pins_plain :
    (plainPlan (text "c")).SameExecution (plainPlan (text "c")) :=
  (plan_digest_pins (plainPlan_valid (by decide)) (plainPlan_valid (by decide))).1
    (by decide +kernel) (by decide +kernel)
    ⟨fun _ => rfl, by simp [plainPlan], plainPlan_below⟩ rfl

/-- The plan of one stage, approved by someone. -/
def approvedPlan (changeId approvedBy : Bytes) : ChangePlan :=
  { plainPlan changeId with approvedBy := approvedBy }

theorem approvedPlan_valid {changeId : Bytes} (h : changeId.isEmpty = false) (approvedBy : Bytes) :
    (approvedPlan changeId approvedBy).validate {} = .ok (approvedPlan changeId approvedBy) := by
  have hname : (approvedPlan changeId approvedBy).changeId.isEmpty = false := h
  unfold ChangePlan.validate
  rw [hname]
  rfl

/-- A count that wraps lets a text run into the next one. -/
theorem wrapped_texts {n : Nat} (h : n.toUInt32 = 0) (rest : Bytes) :
    ByteWriter.string (List.replicate (n + 1) 0) ++ (ByteWriter.string [] ++ rest)
      = ByteWriter.string [0] ++ (ByteWriter.string (List.replicate n 0) ++ rest) := by
  have hone : (n + 1).toUInt32 = 1 := by
    have hadd : (n + 1).toUInt32 = n.toUInt32 + 1 := by simp
    rw [hadd, h]
    rfl
  have hzero : ByteWriter.u32 0 = List.replicate 4 0 := rfl
  simp only [ByteWriter.string, ByteWriter.count, List.length_replicate, hone, h, List.length_nil,
    List.length_singleton, Nat.toUInt32_eq, List.append_nil]
  show ByteWriter.u32 1 ++ List.replicate (n + 1) 0 ++ (ByteWriter.u32 0 ++ rest)
    = ByteWriter.u32 1 ++ List.replicate 1 0 ++ (ByteWriter.u32 0 ++ List.replicate n 0 ++ rest)
  rw [hzero]
  simp only [List.append_assoc, ← List.append_assoc (List.replicate _ _) (List.replicate _ _),
    List.replicate_append_replicate]
  rw [show n + 1 + 4 = 1 + (4 + n) by omega]

theorem message_approvedPlan :
    ∃ before after, ∀ changeId approvedBy, (approvedPlan changeId approvedBy).message
      = before ++ (ByteWriter.string changeId ++ (ByteWriter.string approvedBy ++ after)) := by
  let p := plainPlan []
  refine ⟨ByteWriter.string (text "rollout-fabric/change-plan/v1") ++ (ByteWriter.id p.id
    ++ ByteWriter.digest p.sourceDigest), ByteWriter.timestamp p.approvedAt
    ++ ByteWriter.vector (fun id => match p.findStage id with
      | none => ByteWriter.id id
      | some spec => spec.stageDigest.data) p.order, fun changeId approvedBy => ?_⟩
  unfold message
  simp only [List.flatten_cons, List.flatten_nil, List.append_nil, List.append_assoc]
  rfl

/-- Two validated plans for different changes with one digest: a text of 2^32 bytes has the
count of an empty one. -/
theorem long_texts_collide :
    ∃ p q : ChangePlan, p.validate {} = .ok p ∧ q.validate {} = .ok q ∧ p.CollisionFree q
      ∧ p.planDigest = q.planDigest ∧ p.changeId ≠ q.changeId := by
  obtain ⟨n, hpos, hcount⟩ : ∃ n : Nat, 0 < n ∧ n.toUInt32 = 0 := ⟨2 ^ 32, by decide, by decide⟩
  obtain ⟨before, after, hmessage⟩ := message_approvedPlan
  have heq : (approvedPlan (List.replicate (n + 1) 0) []).message
      = (approvedPlan [0] (List.replicate n 0)).message := by
    rw [hmessage, hmessage, wrapped_texts hcount]
  refine ⟨_, _, approvedPlan_valid (List.isEmpty_replicate ..) [],
    approvedPlan_valid rfl (List.replicate n 0), ⟨fun _ => heq, ?_, plainPlan_below⟩, ?_, ?_⟩
  · rintro s (_ | ⟨_, ⟨⟩⟩) t (_ | ⟨_, ⟨⟩⟩) -
    rfl
  · rw [planDigest_eq, planDigest_eq, heq]
  · intro hsame
    have hlength : (List.replicate (n + 1) (0 : UInt8)).length = [(0 : UInt8)].length :=
      congrArg List.length hsame
    rw [List.length_replicate, List.length_singleton] at hlength
    omega

end ChangePlan

end RolloutFabric
