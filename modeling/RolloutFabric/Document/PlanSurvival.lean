/-
Which plan documents survive the journal. The loader and the decoder of the plan payload have bounds
of their own: in a text of UTF-8, an accepted plan is read back exactly when its selectors keep within
four bounds that only the decoder has.
-/
import RolloutFabric.Document.MemberOrder
import RolloutFabric.Document.Parts
import RolloutFabric.Domain.PlanRoundTrip

namespace RolloutFabric

open Decoding

variable {limits : RuntimeLimits} {v : JsonValue} {key path t : Bytes}

/-- Every string inside the value is UTF-8. -/
def JsonValue.Utf8 (v : JsonValue) : Prop := ∀ s, (JsonValue.string s).Part v → isValidUtf8 s = true

theorem JsonValue.Utf8.part {w : JsonValue} (h : v.Utf8) (hw : w.Part v) : w.Utf8 :=
  fun s hs => h s (hs.trans hw)

theorem JsonValue.Utf8.find {s : Bytes} (h : v.Utf8) (hfind : v.find key = some (.string s)) :
    isValidUtf8 s = true :=
  h s (.of_find hfind)

/-! ## Lists -/

/-- The entries of a list that was read, each of them a part of the document. -/
theorem readOptionalList_ok {α : Type} {read : JsonValue → Bytes → Result α} {maxCount : Nat}
    {what : Bytes} {as : List α}
    (h : readOptional (readList read maxCount what) v key path [] = .ok as) :
    as.length ≤ maxCount ∧ ∀ a ∈ as, ∃ item path, item.Part v ∧ read item path = .ok a := by
  rcases readOptional_ok.1 h with ⟨-, rfl⟩ | ⟨member, hmember, hread⟩
  · exact ⟨Nat.zero_le _, by simp⟩
  · obtain ⟨items, rfl, hcount, hall⟩ := readList_ok hread
    refine ⟨hall.length_eq ▸ hcount, fun a ha => ?_⟩
    obtain ⟨index, hindex, rfl⟩ := List.mem_iff_getElem.1 ha
    have hlt : index < items.length := hall.length_eq ▸ hindex
    obtain ⟨itemPath, hitem⟩ := hall.get hlt hindex
    exact ⟨items[index], itemPath, .trans (.item (List.getElem_mem hlt) .refl) (.of_find hmember),
      hitem⟩

theorem readOptionalStringList_fits {maxCount : Nat} {bound : UInt32} {l : List Bytes}
    (h : readOptionalStringList v key path maxCount bound.toNat = .ok l) (hutf8 : v.Utf8) :
    l.length ≤ maxCount ∧ l.all (fitsText bound) = true := by
  obtain ⟨hcount, hall⟩ := readOptionalList_ok h
  refine ⟨hcount, List.all_eq_true.2 fun s hs => ?_⟩
  obtain ⟨item, itemPath, hpart, hread⟩ := hall s hs
  obtain ⟨rfl, hlength⟩ := readEntry_ok.1 hread
  simp [fitsText, hlength, hutf8 s hpart]

/-! ## Selectors -/

mutual

/-- The bounds of the decoder that neither the loader nor the validation checks. -/
def SelectorTerm.storable (limits : RuntimeLimits) : SelectorTerm → Bool
  | .mk _ ids kinds _ _ _ _ labelKey labelValue _ children =>
    decide (ids.length ≤ limits.maxTargetsPerCohort.toNat) && decide (kinds.length ≤ 16)
      && decide (labelKey.length ≤ limits.maxLabelKeyBytes.toNat)
      && decide (labelValue.length ≤ limits.maxLabelValueBytes.toNat)
      && selectorsStorable limits children

def selectorsStorable (limits : RuntimeLimits) : List SelectorTerm → Bool
  | [] => true
  | child :: rest => child.storable limits && selectorsStorable limits rest

end

theorem selectorsStorable_iff (terms : List SelectorTerm) :
    selectorsStorable limits terms = true ↔ ∀ term ∈ terms, term.storable limits = true := by
  induction terms with
  | nil => simp [selectorsStorable]
  | cons child rest ih => simp [selectorsStorable, ih]

theorem says_utf8 {s : Bytes} (h : v.Says key s) (hutf8 : v.Utf8) : isValidUtf8 s = true := by
  rcases h with hfind | ⟨-, rfl⟩
  · exact hutf8.find hfind
  · rfl

/-- What is left of the bounds of the decoder for a selector that was read. -/
theorem parseSelectorTerm_fits {room : Nat} {term : SelectorTerm}
    (h : parseSelectorTerm limits room v path = .ok term) (hutf8 : v.Utf8) :
    term.fits limits room = true ↔ term.storable limits = true := by
  induction room generalizing v path term with
  | zero => cases h
  | succ room ih =>
    unfold parseSelectorTerm at h
    obtain ⟨object, hobject, hbody⟩ := except_bind_eq_ok.1 h
    obtain ⟨rfl, -⟩ := JsonValue.requireObject_ok.1 hobject
    obtain ⟨op, -, h⟩ := except_bind_eq_ok.1 hbody
    obtain ⟨ids, -, h⟩ := except_bind_eq_ok.1 h
    obtain ⟨kinds, -, h⟩ := except_bind_eq_ok.1 h
    obtain ⟨failureDomains, hdomains, h⟩ := except_bind_eq_ok.1 h
    obtain ⟨sites, hsites, h⟩ := except_bind_eq_ok.1 h
    obtain ⟨pods, hpods, h⟩ := except_bind_eq_ok.1 h
    obtain ⟨racks, hracks, h⟩ := except_bind_eq_ok.1 h
    obtain ⟨labelKey, hkey, h⟩ := except_bind_eq_ok.1 h
    obtain ⟨labelValue, hvalue, h⟩ := except_bind_eq_ok.1 h
    obtain ⟨children, hchildren, h⟩ := except_bind_eq_ok.1 h
    cases h
    obtain ⟨hsiteCount, hsiteText⟩ := readOptionalStringList_fits hsites hutf8
    obtain ⟨hpodCount, hpodText⟩ := readOptionalStringList_fits hpods hutf8
    obtain ⟨hrackCount, hrackText⟩ := readOptionalStringList_fits hracks hutf8
    obtain ⟨hdomainCount, -⟩ := readOptionalList_ok hdomains
    obtain ⟨hchildCount, hchildRead⟩ := readOptionalList_ok hchildren
    have hkeyText := says_utf8 (readOptionalString_ok.1 hkey) hutf8
    -- a text of the document is UTF-8, so it fits whenever its length does
    have hvalueText : isValidUtf8 (labelValue.getD []) = true := by
      rcases readOptional_ok.1 hvalue with ⟨-, rfl⟩ | ⟨member, hmember, hread⟩
      · rfl
      · cases member with
        | string s =>
          cases hread
          exact hutf8.find hmember
        | _ => cases hread
    -- the children are read one level below
    have hchildren' : (∀ term ∈ children, term.fits limits room = true)
        ↔ ∀ term ∈ children, term.storable limits = true := by
      refine forall₂_congr fun term hterm => ?_
      obtain ⟨item, itemPath, hpart, hread⟩ := hchildRead term hterm
      exact ih hread (hutf8.part hpart)
    simp only [SelectorTerm.fits, SelectorTerm.storable, selectorsFit_iff, selectorsStorable_iff,
      hchildren', fitsText, hsiteCount, hsiteText, hpodCount, hpodText, hrackCount, hrackText,
      hdomainCount, hchildCount, hkeyText, hvalueText, Bool.and_true, decide_true, Bool.and_eq_true]

/-! ## Stages -/

theorem parseStagePolicy_names {out policy : StagePolicy} {names : List Bytes}
    (h : parseStagePolicy limits out v path = .ok (policy, names)) :
    names.length ≤ limits.maxActionsPerStage.toNat := by
  unfold parseStagePolicy at h
  -- the names of the compensation actions are the fourteenth value that is read
  iterate 14 obtain ⟨_, -, h⟩ := except_bind_eq_ok.1 h
  obtain ⟨compensationNames, hnames, h⟩ := except_bind_eq_ok.1 h
  iterate 5 obtain ⟨_, -, h⟩ := except_bind_eq_ok.1 h
  cases h
  exact (readOptionalList_ok hnames).1

/-- What the loader makes sure of for a stage, before its names are resolved. -/
structure ParsedStage.Bounded (limits : RuntimeLimits) (stage : ParsedStage) : Prop where
  name : isValidUtf8 stage.spec.name = true
  predecessors : stage.predecessorNames.length ≤ limits.maxStagesPerPlan.toNat
  compensation : stage.compensationNames.length ≤ limits.maxActionsPerStage.toNat
  selector : stage.spec.selector.fits limits (kMaxSelectorDepth + 1) = true
    ↔ stage.spec.selector.storable limits = true

theorem parseStage_bounded {plan : PlanId} {stage : ParsedStage}
    (h : parseStage plan limits v path = .ok stage) (hutf8 : v.Utf8) : stage.Bounded limits := by
  unfold parseStage at h
  obtain ⟨object, hobject, hbody⟩ := except_bind_eq_ok.1 h
  obtain ⟨rfl, -⟩ := JsonValue.requireObject_ok.1 hobject
  obtain ⟨name, hname, h⟩ := except_bind_eq_ok.1 hbody
  obtain ⟨ordinal, -, h⟩ := except_bind_eq_ok.1 h
  obtain ⟨predecessorNames, hpredecessors, h⟩ := except_bind_eq_ok.1 h
  obtain ⟨selectorObject, hselectorObject, h⟩ := except_bind_eq_ok.1 h
  obtain ⟨selector, hselector, h⟩ := except_bind_eq_ok.1 h
  obtain ⟨⟨policy, compensationNames⟩, hpolicy, h⟩ := except_bind_eq_ok.1 h
  obtain ⟨evidenceRule, -, h⟩ := except_bind_eq_ok.1 h
  obtain ⟨actions, -, h⟩ := except_bind_eq_ok.1 h
  cases h
  constructor
  · exact hutf8.find (readName_ok.1 hname).1
  · exact (readOptionalList_ok hpredecessors).1
  · rcases readOptional_ok.1 hpolicy with ⟨-, hdefault⟩ | ⟨member, -, hread⟩
    · cases hdefault
      exact Nat.zero_le _
    · exact parseStagePolicy_names hread
  · obtain ⟨member, hmember, hread⟩ := readRequired_ok.1 hselectorObject
    obtain ⟨rfl, -⟩ := JsonValue.requireObject_ok.1 hread
    exact parseSelectorTerm_fits hselector (hutf8.part (.of_find hmember))

theorem resolvePredecessors_length {parsed : List ParsedStage} {stage : StageSpec} {position : Nat}
    {names : List Bytes} {ids : List StageId}
    (h : resolvePredecessors parsed stage path position names = .ok ids) :
    ids.length = names.length := by
  induction names generalizing position ids with
  | nil =>
    cases h
    rfl
  | cons name rest ih =>
    unfold resolvePredecessors at h
    split at h
    · cases h
    · obtain ⟨more, hmore, h⟩ := except_bind_eq_ok.1 h
      cases h
      rw [List.length_cons, List.length_cons, ih hmore]

theorem resolveCompensation_length {stage : StageSpec} {position : Nat} {names : List Bytes}
    {ids : List ActionId} (h : resolveCompensation stage path position names = .ok ids) :
    ids.length = names.length := by
  induction names generalizing position ids with
  | nil =>
    cases h
    rfl
  | cons name rest ih =>
    unfold resolveCompensation at h
    dsimp only at h
    split at h
    · obtain ⟨more, hmore, h⟩ := except_bind_eq_ok.1 h
      cases h
      rw [List.length_cons, List.length_cons, ih hmore]
    · cases h

/-- The stages keep their order and everything but the two lists that the names resolve to. -/
theorem resolveStages_ok {parsed stages : List ParsedStage} {index : Nat} {specs : List StageSpec}
    (h : resolveStages parsed index stages = .ok specs) :
    List.Forall₂ (fun stage spec => ∃ index, resolveStage parsed index stage = .ok spec)
      stages specs := by
  induction stages generalizing index specs with
  | nil =>
    cases h
    exact .nil
  | cons stage rest ih =>
    unfold resolveStages at h
    obtain ⟨spec, hspec, h⟩ := except_bind_eq_ok.1 h
    obtain ⟨more, hmore, h⟩ := except_bind_eq_ok.1 h
    cases h
    exact .cons ⟨index, hspec⟩ (ih hmore)

theorem resolveStage_fits {parsed : List ParsedStage} {index : Nat} {stage : ParsedStage}
    {spec : StageSpec} (h : resolveStage parsed index stage = .ok spec)
    (hstage : stage.Bounded limits) :
    spec.fits limits = true ↔ spec.selector.storable limits = true := by
  unfold resolveStage at h
  obtain ⟨predecessors, hpredecessors, h⟩ := except_bind_eq_ok.1 h
  obtain ⟨compensationActions, hcompensation, h⟩ := except_bind_eq_ok.1 h
  cases h
  have hpredecessorCount := resolvePredecessors_length hpredecessors ▸ hstage.predecessors
  have hcompensationCount := resolveCompensation_length hcompensation ▸ hstage.compensation
  simp only [StageSpec.fits, hstage.name, hstage.selector, hpredecessorCount, hcompensationCount,
    Bool.and_eq_true, decide_true, and_true, true_and]

/-! ## Plans -/

/-- What an accepted document says about the plan it is loaded as; `parsed` are its stages before
their names were resolved. -/
structure ChangePlan.LoadedFrom (limits : RuntimeLimits) (v : JsonValue) (parsed : List ParsedStage)
    (p : ChangePlan) : Prop where
  id : p.id = derivePlanId p.sourceDigest
  changeId : v.find (text "change_id") = some (.string p.changeId)
  changeIdBounded : p.changeId.length ≤ limits.maxNameBytes.toNat
  approvedBy : v.find (text "approved_by") = some (.string p.approvedBy)
  approvedByBounded : p.approvedBy.length ≤ limits.maxNameBytes.toNat
  summary : v.Says (text "summary") p.summary
  summaryBounded : p.summary.length ≤ limits.maxDescriptionBytes.toNat
  read : ∃ items, v.find (text "stages") = some (.array items)
    ∧ List.Forall₂ (fun item stage => ∃ path, parseStage p.id limits item path = .ok stage) items parsed
  resolved : resolveStages parsed 0 parsed = .ok p.stages
  valid : p.declared.validate limits = .ok p

theorem readSummary_ok {summary : Bytes} (h : readSummary v limits = .ok summary) :
    v.Says (text "summary") summary ∧ summary.length ≤ limits.maxDescriptionBytes.toNat := by
  unfold readSummary at h
  obtain ⟨s, hs, h⟩ := except_bind_eq_ok.1 h
  by_cases hlong : limits.maxDescriptionBytes.toNat < s.length
  · rw [if_pos hlong] at h
    cases h
  rw [if_neg hlong] at h
  cases h
  exact ⟨readOptionalString_ok.1 hs, Nat.not_lt.1 hlong⟩

/-- An accepted document, taken apart. -/
theorem changePlanFromJson_ok {p : ChangePlan} (h : changePlanFromJson v limits = .ok p) :
    ∃ parsed, p.LoadedFrom limits v parsed := by
  unfold changePlanFromJson at h
  obtain ⟨document, hdocument, hbody⟩ := except_bind_eq_ok.1 h
  obtain ⟨rfl, -⟩ := JsonValue.requireObject_ok.1 hdocument
  obtain ⟨_, -, h⟩ := except_bind_eq_ok.1 hbody
  obtain ⟨_, -, h⟩ := except_bind_eq_ok.1 h
  obtain ⟨sourceDigest, -, h⟩ := except_bind_eq_ok.1 h
  obtain ⟨changeId, hchange, h⟩ := except_bind_eq_ok.1 h
  obtain ⟨approvedBy, hby, h⟩ := except_bind_eq_ok.1 h
  obtain ⟨approvedAt, -, h⟩ := except_bind_eq_ok.1 h
  obtain ⟨summary, hsummary, h⟩ := except_bind_eq_ok.1 h
  obtain ⟨parsed, hparsed, h⟩ := except_bind_eq_ok.1 h
  obtain ⟨stages, hstages, hvalid⟩ := except_bind_eq_ok.1 h
  -- `validate` adds nothing but the order
  obtain ⟨order, rfl⟩ : ∃ order, p = ⟨derivePlanId sourceDigest, sourceDigest, changeId, approvedBy,
      approvedAt, summary, stages, order⟩ := by
    refine ⟨p.order, ?_⟩
    have hdeclared := (ChangePlan.of_validate hvalid).1
    cases p
    simp only [ChangePlan.declared, ChangePlan.mk.injEq] at hdeclared
    simp [hdeclared]
  obtain ⟨hchange, -, hchangeBound⟩ := readName_ok.1 hchange
  obtain ⟨hby, -, hbyBound⟩ := readName_ok.1 hby
  obtain ⟨hsummary, hsummaryBound⟩ := readSummary_ok hsummary
  obtain ⟨member, hmember, hread⟩ := readRequired_ok.1 hparsed
  obtain ⟨items, rfl, -, hitems⟩ := readList_ok hread
  exact ⟨parsed, {
    id := rfl
    changeId := hchange
    changeIdBounded := hchangeBound
    approvedBy := hby
    approvedByBounded := hbyBound
    summary := hsummary
    summaryBounded := hsummaryBound
    read := ⟨items, hmember, hitems⟩
    resolved := hstages
    valid := hvalid }⟩

theorem ChangePlan.LoadedFrom.fits_iff {parsed : List ParsedStage} {p : ChangePlan}
    (h : p.LoadedFrom limits v parsed) (hutf8 : v.Utf8) :
    p.fits limits = true ↔ ∀ s ∈ p.stages, s.selector.storable limits = true := by
  have hall : (∀ s ∈ p.stages, s.fits limits = true)
      ↔ ∀ s ∈ p.stages, s.selector.storable limits = true := by
    refine forall₂_congr fun spec hspec => ?_
    obtain ⟨items, hitems, hread⟩ := h.read
    have hstages := resolveStages_ok h.resolved
    obtain ⟨index, hindex, rfl⟩ := List.mem_iff_getElem.1 hspec
    have hlt : index < parsed.length := hstages.length_eq ▸ hindex
    have hitem : index < items.length := hread.length_eq ▸ hlt
    obtain ⟨_, hresolved⟩ := hstages.get hlt hindex
    obtain ⟨itemPath, hparsed⟩ := hread.get hitem hlt
    have hpart : items[index].Part v := .trans (.item (List.getElem_mem hitem) .refl) (.of_find hitems)
    exact resolveStage_fits hresolved (parseStage_bounded hparsed (hutf8.part hpart))
  simp only [ChangePlan.fits, fitsText, h.changeIdBounded, hutf8.find h.changeId,
    h.approvedByBounded, hutf8.find h.approvedBy, h.summaryBounded, says_utf8 h.summary hutf8,
    decide_true, Bool.and_self, Bool.true_and, List.all_eq_true, hall]

/-- A plan document in UTF-8 that is accepted is read back from its payload exactly when its selectors
keep within the bounds of the decoder and the payload fits a record. -/
theorem parseChangePlan_survives_iff {p : ChangePlan} (hlimits : limits.validate.isOk = true)
    (hutf8 : isValidUtf8 t = true) (h : parseChangePlan t limits = .ok p) :
    decodePlanPayload (encodePlanPayload p) limits = .ok p
      ↔ (∀ s ∈ p.stages, s.selector.storable limits = true)
        ∧ p.record.length ≤ limits.maxJournalRecordBytes.toNat := by
  unfold parseChangePlan at h
  obtain ⟨v, hjson, h⟩ := except_bind_eq_ok.1 h
  obtain ⟨parsed, hloaded⟩ := changePlanFromJson_ok h
  have hv : v.Utf8 := fun s hs => utf8_of_parseJson hjson hutf8 hs
  rw [plan_survives_iff hlimits hloaded.valid, hloaded.fits_iff hv]

/-- A selector by kind that names this many kinds after the first. -/
def kindsSelector (more : Nat) : Bytes :=
  text "\x7b\"op\":\"by_kind\",\"kinds\":[\"switch\"" ++ (List.replicate more (text ",\"rack\"")).flatten
    ++ text "]\x7d"

theorem kindsDocument_survives : ∃ p,
    parseChangePlan (soloDocument soloKind soloVersion (kindsSelector 0)) {} = .ok p
      ∧ decodePlanPayload (encodePlanPayload p) {} = .ok p := by
  have haccepted : (parseChangePlan (soloDocument soloKind soloVersion (kindsSelector 0))
      {}).toOption.any (fun p => p.stages.all (fun s => s.selector.storable {})
        && decide (p.record.length ≤ ({} : RuntimeLimits).maxJournalRecordBytes.toNat)) = true := by
    decide +kernel
  cases h : parseChangePlan (soloDocument soloKind soloVersion (kindsSelector 0)) {} with
  | error e =>
    rw [h] at haccepted
    cases haccepted
  | ok p =>
    rw [h] at haccepted
    obtain ⟨hselectors, hsize⟩ := Bool.and_eq_true_iff.1 haccepted
    exact ⟨p, rfl, (parseChangePlan_survives_iff (by decide) (by decide +kernel) h).2
      ⟨List.all_eq_true.1 hselectors, of_decide_eq_true hsize⟩⟩

/-- Seventeen kinds pass the loader and the validation, and the journal cannot give the plan back. -/
theorem kindsDocument_unreadable : ∃ p,
    parseChangePlan (soloDocument soloKind soloVersion (kindsSelector 16)) {} = .ok p
      ∧ ∃ e, decodePlanPayload (encodePlanPayload p) {} = .error e := by
  have hfails : (parseChangePlan (soloDocument soloKind soloVersion (kindsSelector 16))
      {}).toOption.any (fun p => (decodePlanPayload (encodePlanPayload p) {}).toOption.isNone)
      = true := by
    decide +kernel
  cases h : parseChangePlan (soloDocument soloKind soloVersion (kindsSelector 16)) {} with
  | error e =>
    rw [h] at hfails
    cases hfails
  | ok p =>
    rw [h] at hfails
    refine ⟨p, rfl, ?_⟩
    change (decodePlanPayload (encodePlanPayload p) {}).toOption.isNone = true at hfails
    cases hdecode : decodePlanPayload (encodePlanPayload p) {} with
    | error e => exact ⟨e, rfl⟩
    | ok back =>
      rw [hdecode] at hfails
      cases hfails

end RolloutFabric
