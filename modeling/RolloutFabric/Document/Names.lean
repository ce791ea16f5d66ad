/-
What the names in a plan document come to: the stages that a stage names are the ones the execution
order runs before it, and the actions it compensates with are its own.
-/
import RolloutFabric.Document.PlanSurvival
import RolloutFabric.Domain.CanonicalOrder

namespace RolloutFabric

open Decoding

variable {limits : RuntimeLimits} {v : JsonValue} {key path t : Bytes}

/-! ## Lists of names -/

def JsonValue.asString : JsonValue → Option Bytes
  | .string s => some s
  | _ => none

/-- The strings that are listed under the key. -/
def JsonValue.listed (v : JsonValue) (key : Bytes) : List Bytes :=
  match v.find key with
  | some (.array items) => items.filterMap JsonValue.asString
  | _ => []

theorem listed_of_entries {maxBytes : Nat} {items : List JsonValue} {l : List Bytes}
    (h : List.Forall₂ (fun item s => ∃ path, readEntry maxBytes item path = .ok s) items l) :
    items.filterMap JsonValue.asString = l := by
  induction h with
  | nil => rfl
  | cons hread _ ih =>
    obtain ⟨itemPath, hread⟩ := hread
    obtain ⟨rfl, -⟩ := readEntry_ok.1 hread
    rw [List.filterMap_cons_some (f := JsonValue.asString) rfl, ih]

theorem readOptionalStringList_listed {maxCount maxBytes : Nat} {l : List Bytes}
    (h : readOptionalStringList v key path maxCount maxBytes = .ok l) : v.listed key = l := by
  unfold JsonValue.listed
  rcases readOptional_ok.1 h with ⟨hnone, rfl⟩ | ⟨member, hmember, hread⟩
  · rw [hnone]
  · obtain ⟨items, rfl, -, hall⟩ := readList_ok hread
    rw [hmember]
    exact listed_of_entries hall

/-! ## Stages -/

/-- The names of the compensation actions in the policy of a stage. -/
def JsonValue.compensationNames (item : JsonValue) : List Bytes :=
  ((item.find (text "policy")).getD .null).listed (text "compensation_actions")

theorem parseStagePolicy_listed {out policy : StagePolicy} {names : List Bytes}
    (h : parseStagePolicy limits out v path = .ok (policy, names)) :
    v.listed (text "compensation_actions") = names := by
  unfold parseStagePolicy at h
  obtain ⟨object, hobject, hbody⟩ := except_bind_eq_ok.1 h
  obtain ⟨rfl, -⟩ := JsonValue.requireObject_ok.1 hobject
  obtain ⟨_, -, h⟩ := except_bind_eq_ok.1 hbody
  iterate 12 obtain ⟨_, -, h⟩ := except_bind_eq_ok.1 h
  obtain ⟨compensationNames, hnames, h⟩ := except_bind_eq_ok.1 h
  iterate 5 obtain ⟨_, -, h⟩ := except_bind_eq_ok.1 h
  cases h
  exact readOptionalStringList_listed hnames

theorem parseAction_id {stage : StageId} {action : ActionSpec}
    (h : parseAction stage limits v path = .ok action) :
    action.id = deriveActionId stage action.name := by
  unfold parseAction at h
  iterate 6 obtain ⟨_, -, h⟩ := except_bind_eq_ok.1 h
  cases h
  rfl

/-- What a stage takes from its object before the names are resolved. -/
structure ParsedStage.ReadFrom (plan : PlanId) (item : JsonValue) (stage : ParsedStage) : Prop where
  name : item.find (text "name") = some (.string stage.spec.name)
  id : stage.spec.id = deriveStageId plan stage.spec.name
  actions : ∀ action ∈ stage.spec.actions,
    action.id = deriveActionId stage.spec.id action.name
  predecessors : item.listed (text "predecessors") = stage.predecessorNames
  compensation : item.compensationNames = stage.compensationNames

theorem parseStage_readFrom {plan : PlanId} {stage : ParsedStage}
    (h : parseStage plan limits v path = .ok stage) : stage.ReadFrom plan v := by
  unfold parseStage at h
  obtain ⟨object, hobject, hbody⟩ := except_bind_eq_ok.1 h
  obtain ⟨rfl, -⟩ := JsonValue.requireObject_ok.1 hobject
  obtain ⟨name, hname, h⟩ := except_bind_eq_ok.1 hbody
  obtain ⟨ordinal, -, h⟩ := except_bind_eq_ok.1 h
  obtain ⟨predecessorNames, hpredecessors, h⟩ := except_bind_eq_ok.1 h
  obtain ⟨selectorObject, -, h⟩ := except_bind_eq_ok.1 h
  obtain ⟨selector, -, h⟩ := except_bind_eq_ok.1 h
  obtain ⟨⟨policy, compensationNames⟩, hpolicy, h⟩ := except_bind_eq_ok.1 h
  obtain ⟨evidenceRule, -, h⟩ := except_bind_eq_ok.1 h
  obtain ⟨actions, hactions, h⟩ := except_bind_eq_ok.1 h
  cases h
  constructor
  · exact (readName_ok.1 hname).1
  · rfl
  · intro action haction
    obtain ⟨member, -, hread⟩ := readRequired_ok.1 hactions
    obtain ⟨items, -, -, hall⟩ := readList_ok hread
    obtain ⟨index, hindex, rfl⟩ := List.mem_iff_getElem.1 haction
    obtain ⟨_, haction⟩ := hall.get (hall.length_eq ▸ hindex) hindex
    exact parseAction_id haction
  · exact readOptionalStringList_listed hpredecessors
  · unfold JsonValue.compensationNames
    rcases readOptional_ok.1 hpolicy with ⟨hnone, hdefault⟩ | ⟨member, hmember, hread⟩
    · cases hdefault
      rw [hnone]
      rfl
    · rw [hmember]
      exact parseStagePolicy_listed hread

/-! ## Resolving -/

/-- Every name of a predecessor is that of a stage of the document. -/
theorem resolvePredecessors_ok {parsed : List ParsedStage} {stage : StageSpec} {position : Nat}
    {names : List Bytes} {ids : List StageId}
    (h : resolvePredecessors parsed stage path position names = .ok ids) :
    List.Forall₂ (fun name id => ∃ other ∈ parsed, other.spec.name = name ∧ other.spec.id = id)
      names ids := by
  induction names generalizing position ids with
  | nil =>
    cases h
    exact .nil
  | cons name rest ih =>
    unfold resolvePredecessors at h
    split at h
    · cases h
    · next other hfound =>
      obtain ⟨more, hmore, h⟩ := except_bind_eq_ok.1 h
      cases h
      refine .cons ⟨other, List.mem_of_find?_eq_some hfound, ?_, rfl⟩ (ih hmore)
      simpa using List.find?_some hfound

theorem resolveCompensation_ok {stage : StageSpec} {position : Nat} {names : List Bytes}
    {ids : List ActionId} (h : resolveCompensation stage path position names = .ok ids) :
    ids = names.map (deriveActionId stage.id) ∧ ∀ id ∈ ids, ∃ a ∈ stage.actions, a.id = id := by
  induction names generalizing position ids with
  | nil =>
    cases h
    exact ⟨rfl, by simp⟩
  | cons name rest ih =>
    unfold resolveCompensation at h
    dsimp only at h
    split at h
    · next hown =>
      obtain ⟨more, hmore, h⟩ := except_bind_eq_ok.1 h
      cases h
      obtain ⟨rfl, hall⟩ := ih hmore
      refine ⟨rfl, List.forall_mem_cons.2 ⟨?_, hall⟩⟩
      simpa using hown
    · cases h

/-! ## The loaded plan -/

/-- What the object of a stage says of the stage in the plan: its identifier and those of its
actions are derived from names, the stages it names run before it, and it compensates with actions
of its own. -/
structure StageSpec.DeclaredBy (p : ChangePlan) (item : JsonValue) (s : StageSpec) : Prop where
  name : item.find (text "name") = some (.string s.name)
  id : s.id = deriveStageId p.id s.name
  actions : ∀ a ∈ s.actions, a.id = deriveActionId s.id a.name
  predecessors : List.Forall₂ (fun name id => ∃ q ∈ p.stages, q.name = name ∧ q.id = id
    ∧ p.order.idxOf id < p.order.idxOf s.id) (item.listed (text "predecessors")) s.predecessors
  compensation : s.policy.compensationActions = item.compensationNames.map (deriveActionId s.id)
    ∧ ∀ id ∈ s.policy.compensationActions, ∃ a ∈ s.actions, a.id = id

theorem resolveStage_ok {parsed : List ParsedStage} {index : Nat} {stage : ParsedStage}
    {spec : StageSpec} (h : resolveStage parsed index stage = .ok spec) :
    ∃ predecessors compensationActions, spec = { stage.spec with
        predecessors, policy := { stage.spec.policy with compensationActions } }
      ∧ List.Forall₂ (fun name id => ∃ other ∈ parsed, other.spec.name = name ∧ other.spec.id = id)
        stage.predecessorNames predecessors
      ∧ compensationActions = stage.compensationNames.map (deriveActionId stage.spec.id)
      ∧ ∀ id ∈ compensationActions, ∃ a ∈ stage.spec.actions, a.id = id := by
  unfold resolveStage at h
  obtain ⟨predecessors, hpredecessors, h⟩ := except_bind_eq_ok.1 h
  obtain ⟨compensationActions, hcompensation, h⟩ := except_bind_eq_ok.1 h
  cases h
  exact ⟨predecessors, compensationActions, rfl, resolvePredecessors_ok hpredecessors,
    resolveCompensation_ok hcompensation⟩

/-- Every stage that was read is in the plan, under its name and identifier. -/
theorem ChangePlan.LoadedFrom.exists_stage {p : ChangePlan} {parsed : List ParsedStage}
    (h : p.LoadedFrom limits v parsed) {stage : ParsedStage} (hstage : stage ∈ parsed) :
    ∃ q ∈ p.stages, q.name = stage.spec.name ∧ q.id = stage.spec.id := by
  have hstages := resolveStages_ok h.resolved
  obtain ⟨index, hindex, rfl⟩ := List.mem_iff_getElem.1 hstage
  have hlt : index < p.stages.length := hstages.length_eq ▸ hindex
  obtain ⟨_, hresolved⟩ := hstages.get hindex hlt
  obtain ⟨_, _, hspec, -⟩ := resolveStage_ok hresolved
  refine ⟨p.stages[index], List.getElem_mem hlt, ?_, ?_⟩
  · show p.stages[index].name = _
    simp only [List.get_eq_getElem] at hspec
    rw [hspec]
  · simp only [List.get_eq_getElem] at hspec
    rw [hspec]

theorem ChangePlan.LoadedFrom.declaredBy {p : ChangePlan} {parsed : List ParsedStage}
    (h : p.LoadedFrom limits v parsed) {item : JsonValue} {stage : ParsedStage} {spec : StageSpec}
    {index : Nat} (hread : ∃ path, parseStage p.id limits item path = .ok stage)
    (hresolved : resolveStage parsed index stage = .ok spec) (hspec : spec ∈ p.stages) :
    StageSpec.DeclaredBy p item spec := by
  obtain ⟨itemPath, hread⟩ := hread
  have hstage := parseStage_readFrom hread
  have hcanonical := (ChangePlan.orderable_of_validate h.valid).canonical
  have horder : p.order = ChangePlan.computeOrder p.stages :=
    congrArg ChangePlan.order (ChangePlan.eq_of_validate h.valid)
  obtain ⟨predecessors, compensationActions, rfl, hpredecessors, hcompensation⟩ :=
    resolveStage_ok hresolved
  constructor
  · exact hstage.name
  · exact hstage.id
  · exact hstage.actions
  · rw [hstage.predecessors, List.forall₂_iff_get]
    refine ⟨hpredecessors.length_eq, fun i hi hi' => ?_⟩
    obtain ⟨other, hother, hname, hid⟩ := hpredecessors.get hi hi'
    obtain ⟨q, hq, hqname, hqid⟩ := h.exists_stage hother
    refine ⟨q, hq, hqname.trans hname, hqid.trans hid, ?_⟩
    rw [horder]
    exact hcanonical.follows _ hspec _ (List.getElem_mem hi')
  · rw [hstage.compensation]
    exact hcompensation

/-- What the names of an accepted document come to. Names of stages are distinct, and the order is
one of all stages. -/
theorem parseChangePlan_names {p : ChangePlan} (h : parseChangePlan t limits = .ok p) :
    p.id = derivePlanId p.sourceDigest ∧ (p.stages.map StageSpec.name).Nodup
      ∧ p.order.Perm (p.stages.map StageSpec.id)
      ∧ ∃ v items, JsonDocumentOfBytes limits t v ∧ v.find (text "stages") = some (.array items)
        ∧ List.Forall₂ (StageSpec.DeclaredBy p) items p.stages := by
  unfold parseChangePlan at h
  obtain ⟨v, hjson, h⟩ := except_bind_eq_ok.1 h
  obtain ⟨parsed, hloaded⟩ := changePlanFromJson_ok h
  obtain ⟨items, hitems, hread⟩ := hloaded.read
  have hresolved := resolveStages_ok hloaded.resolved
  have hdeclared : List.Forall₂ (StageSpec.DeclaredBy p) items p.stages := by
    rw [List.forall₂_iff_get]
    refine ⟨hread.length_eq.trans hresolved.length_eq, fun i hi hi' => ?_⟩
    have hlt : i < parsed.length := hread.length_eq ▸ hi
    obtain ⟨_, hspec⟩ := hresolved.get hlt hi'
    exact hloaded.declaredBy (hread.get hi hlt) hspec (List.getElem_mem hi')
  have hids := ChangePlan.ids_nodup hloaded.valid
  have hderived : p.stages.map StageSpec.id
      = (p.stages.map StageSpec.name).map (deriveStageId p.id) := by
    rw [List.map_map]
    refine List.map_congr_left fun s hs => ?_
    obtain ⟨i, hi, rfl⟩ := List.mem_iff_getElem.1 hs
    exact (hdeclared.get (hdeclared.length_eq ▸ hi) hi).id
  have horder : p.order = ChangePlan.computeOrder p.stages :=
    congrArg ChangePlan.order (ChangePlan.eq_of_validate hloaded.valid)
  refine ⟨hloaded.id, ?_, ?_, v, items, (parseJson_iff t limits v).1 hjson, hitems, hdeclared⟩
  · rw [hderived] at hids
    exact hids.of_map
  · rw [horder]
    exact (ChangePlan.orderable_of_validate hloaded.valid).canonical.perm

/-! Two stages, declared against their order. -/

def chainStage (name predecessors : Bytes) : Bytes :=
  text "\x7b\"name\":\"" ++ name ++ text "\",\"ordinal\":0,\"predecessors\":[" ++ predecessors
    ++ text "],\"selector\":" ++ soloSelector
    ++ text ",\"actions\":[\x7b\"name\":\"a\",\"kind\":\"restart\",\"artifact_digest\":\""
    ++ soloDigest ++ text "\"\x7d]\x7d"

def chainDocument : Bytes :=
  text "\x7b" ++ soloKind ++ text "," ++ soloVersion ++ text ",\"source_digest\":\"" ++ soloDigest
    ++ text "\",\"change_id\":\"c\",\"approved_by\":\"b\","
    ++ text "\"approved_at\":\"2026-01-01T00:00:00Z\",\"stages\":["
    ++ chainStage (text "rest") (text "\"first\"") ++ text "," ++ chainStage (text "first") []
    ++ text "]\x7d"

theorem chainDocument_names : ∃ p, parseChangePlan chainDocument {} = .ok p
    ∧ ∃ v items, JsonDocumentOfBytes {} chainDocument v
      ∧ v.find (text "stages") = some (.array items)
      ∧ List.Forall₂ (StageSpec.DeclaredBy p) items p.stages := by
  have haccepted : (parseChangePlan chainDocument {}).isOk = true := by decide +kernel
  cases h : parseChangePlan chainDocument {} with
  | error e =>
    rw [h] at haccepted
    cases haccepted
  | ok p => exact ⟨p, rfl, (parseChangePlan_names h).2.2.2⟩

end RolloutFabric
