/-
The order in which a document lists the members of an object is not observable: the loader of plans
answers the same, errors included.
-/
import RolloutFabric.Document.Inventory
import RolloutFabric.Json.RoundTrip

namespace RolloutFabric

/-! ## Values up to the order of members -/

mutual

/-- The same value, but for the order of the members of its objects. -/
inductive JsonValue.Alike : JsonValue → JsonValue → Prop
  | refl (value : JsonValue) : JsonValue.Alike value value
  | array {items items' : List JsonValue} :
    ItemsAlike items items' → JsonValue.Alike (.array items) (.array items')
  | object {members shuffled members' : List (Bytes × JsonValue)} :
    (members.map Prod.fst).Nodup → members.Perm shuffled → MembersAlike shuffled members' →
    JsonValue.Alike (.object members) (.object members')

inductive ItemsAlike : List JsonValue → List JsonValue → Prop
  | nil : ItemsAlike [] []
  | cons {item item' : JsonValue} {rest rest' : List JsonValue} :
    item.Alike item' → ItemsAlike rest rest' → ItemsAlike (item :: rest) (item' :: rest')

inductive MembersAlike : List (Bytes × JsonValue) → List (Bytes × JsonValue) → Prop
  | nil : MembersAlike [] []
  | cons {key : Bytes} {value value' : JsonValue} {rest rest' : List (Bytes × JsonValue)} :
    value.Alike value' → MembersAlike rest rest' →
    MembersAlike ((key, value) :: rest) ((key, value') :: rest')

end

theorem ItemsAlike.refl : ∀ items : List JsonValue, ItemsAlike items items
  | [] => .nil
  | item :: rest => .cons (.refl item) (refl rest)

theorem MembersAlike.refl : ∀ members : List (Bytes × JsonValue), MembersAlike members members
  | [] => .nil
  | (_, value) :: rest => .cons (.refl value) (refl rest)

theorem ItemsAlike.length_eq {items items' : List JsonValue} (h : ItemsAlike items items') :
    items.length = items'.length := by
  induction items generalizing items' with
  | nil =>
    cases h
    rfl
  | cons item rest ih =>
    cases h with
    | cons _ hrest => rw [List.length_cons, List.length_cons, ih hrest]

/-- The first member of a key. -/
theorem find_object (members : List (Bytes × JsonValue)) (key : Bytes) :
    (JsonValue.object members).find key
      = (members.find? fun member => member.1 == key).map Prod.snd := rfl

theorem MembersAlike.find {members members' : List (Bytes × JsonValue)}
    (h : MembersAlike members members') (key : Bytes) :
    Option.Rel JsonValue.Alike ((JsonValue.object members).find key)
      ((JsonValue.object members').find key) := by
  induction members generalizing members' with
  | nil =>
    cases h
    exact .none
  | cons member rest ih =>
    cases h with
    | @cons k value value' _ rest' hvalue hrest =>
      rw [find_object, find_object, List.find?_cons, List.find?_cons]
      cases hk : k == key with
      | true => exact .some hvalue
      | false => exact ih hrest

/-- Where keys are unique, a lookup does not depend on the order. -/
theorem find_perm {members shuffled : List (Bytes × JsonValue)}
    (hkeys : (members.map Prod.fst).Nodup) (hperm : members.Perm shuffled) (key : Bytes) :
    (JsonValue.object members).find key = (JsonValue.object shuffled).find key := by
  rw [find_object, find_object]
  have hkeys' : (shuffled.map Prod.fst).Nodup := (hperm.map Prod.fst).nodup_iff.1 hkeys
  congr 1
  cases hfind : members.find? fun member => member.1 == key with
  | none =>
    symm
    rw [List.find?_eq_none] at hfind ⊢
    exact fun member hmember => hfind member (hperm.mem_iff.2 hmember)
  | some member =>
    have hmem := hperm.mem_iff.1 (List.mem_of_find?_eq_some hfind)
    have hkey := List.find?_some hfind
    cases hfind' : shuffled.find? fun member => member.1 == key with
    | none => exact absurd hkey (by simpa using List.find?_eq_none.1 hfind' member hmem)
    | some member' =>
      have hkey' := List.find?_some hfind'
      have hsame : member.1 = member'.1 := by
        rw [beq_iff_eq] at hkey hkey'
        rw [hkey, hkey']
      rw [List.inj_on_of_nodup_map hkeys' hmem (List.mem_of_find?_eq_some hfind') hsame]

namespace JsonValue

variable {v w : JsonValue}

theorem Alike.find (h : v.Alike w) (key : Bytes) :
    Option.Rel JsonValue.Alike (v.find key) (w.find key) := by
  cases h with
  | refl =>
    cases v.find key with
    | none => exact .none
    | some member => exact .some (.refl member)
  | array => exact .none
  | object hkeys hperm hmembers =>
    rw [find_perm hkeys hperm]
    exact hmembers.find key

theorem Alike.requireString (h : v.Alike w) (path : Bytes) :
    v.requireString path = w.requireString path := by
  cases h <;> rfl

theorem Alike.requireBool (h : v.Alike w) (path : Bytes) :
    v.requireBool path = w.requireBool path := by
  cases h <;> rfl

theorem Alike.requireInteger (h : v.Alike w) (path : Bytes) :
    v.requireInteger path = w.requireInteger path := by
  cases h <;> rfl

theorem Alike.optionalString (h : v.Alike w) (path fallback : Bytes) :
    v.optionalString path fallback = w.optionalString path fallback := by
  cases h <;> rfl

/-- Both are objects, which look alike, or neither is one. -/
theorem Alike.requireObject (h : v.Alike w) (path : Bytes) :
    (v.requireObject path = .ok v ∧ w.requireObject path = .ok w)
      ∨ ∃ s, v.requireObject path = .error s ∧ w.requireObject path = .error s := by
  cases h with
  | refl =>
    cases v with
    | object members => exact .inl ⟨rfl, rfl⟩
    | _ => exact .inr ⟨_, rfl, rfl⟩
  | array => exact .inr ⟨_, rfl, rfl⟩
  | object => exact .inl ⟨rfl, rfl⟩

theorem Alike.requireArray (h : v.Alike w) (path : Bytes) :
    (∃ items items', v.requireArray path = .ok items ∧ w.requireArray path = .ok items'
        ∧ ItemsAlike items items')
      ∨ ∃ s, v.requireArray path = .error s ∧ w.requireArray path = .error s := by
  cases h with
  | refl =>
    cases v with
    | array items => exact .inl ⟨items, items, rfl, rfl, .refl items⟩
    | _ => exact .inr ⟨_, rfl, rfl⟩
  | array hitems => exact .inl ⟨_, _, rfl, rfl, hitems⟩
  | object => exact .inr ⟨_, rfl, rfl⟩

end JsonValue

/-! ## Reads that see no order -/

/-- The read answers the same on values that are alike. -/
def Blind {α : Type} (read : JsonValue → Bytes → Result α) : Prop :=
  ∀ v w path, v.Alike w → read v path = read w path

namespace Blind

variable {α β : Type} {read : JsonValue → Bytes → Result α} {v w : JsonValue}

theorem required (h : Blind read) (hvw : v.Alike w) (key parent : Bytes) :
    readRequired read v key parent = readRequired read w key parent := by
  unfold readRequired requireMember
  have hfind := hvw.find key
  revert hfind
  generalize v.find key = m
  generalize w.find key = m'
  rintro (hmember | _)
  · exact h _ _ _ hmember
  · rfl

theorem optional (h : Blind read) (hvw : v.Alike w) (key parent : Bytes) (out : α) :
    readOptional read v key parent out = readOptional read w key parent out := by
  unfold readOptional
  have hfind := hvw.find key
  revert hfind
  generalize v.find key = m
  generalize w.find key = m'
  rintro (hmember | _)
  · exact h _ _ _ hmember
  · rfl

theorem items (h : Blind read) {items items' : List JsonValue} (hitems : ItemsAlike items items')
    (path : Bytes) (index : Nat) : readItems read path index items = readItems read path index items' := by
  induction items generalizing items' index with
  | nil =>
    cases hitems
    rfl
  | cons item rest ih =>
    cases hitems with
    | cons hitem hrest =>
      unfold readItems
      rw [h _ _ _ hitem, ih hrest]

/-- What is read of an object. -/
theorem object {f : JsonValue → Bytes → Result α}
    (h : ∀ v w path, v.Alike w → f v path = f w path) :
    Blind fun value path => value.requireObject path >>= fun object => f object path := by
  intro v w path hvw
  rcases hvw.requireObject path with ⟨hv, hw⟩ | ⟨s, hv, hw⟩
  · show v.requireObject path >>= _ = w.requireObject path >>= _
    rw [hv, hw]
    exact h v w path hvw
  · show v.requireObject path >>= _ = w.requireObject path >>= _
    rw [hv, hw]

theorem list (h : Blind read) (maxCount : Nat) (what : Bytes) :
    Blind (readList read maxCount what) := by
  intro v w path hvw
  unfold readList
  rcases hvw.requireArray path with ⟨items, items', hv, hw, hitems⟩ | ⟨s, hv, hw⟩
  · rw [hv, hw]
    show (checkCount items.length _ _ _).toResult >>= _ = (checkCount items'.length _ _ _).toResult >>= _
    rw [hitems.length_eq, h.items hitems]
  · rw [hv, hw]

/-- The object of a member, and what is read of it. -/
theorem requiredObject {f : JsonValue → Result α} (hvw : v.Alike w) (key parent : Bytes)
    (h : ∀ v w, v.Alike w → f v = f w) :
    (readRequiredObject v key parent >>= f) = (readRequiredObject w key parent >>= f) := by
  unfold readRequiredObject readRequired requireMember
  have hfind := hvw.find key
  revert hfind
  generalize v.find key = m
  generalize w.find key = m'
  rintro (hmember | _)
  · rcases hmember.requireObject (joinPath parent key) with ⟨hv, hw⟩ | ⟨s, hv, hw⟩
    · show (JsonValue.requireObject _ _ >>= f) = (JsonValue.requireObject _ _ >>= f)
      rw [hv, hw]
      exact h _ _ hmember
    · show (JsonValue.requireObject _ _ >>= f) = (JsonValue.requireObject _ _ >>= f)
      rw [hv, hw]
  · rfl

end Blind

/-! ## The loader of plans -/

section Leaves

theorem requireString_blind : Blind fun value path => value.requireString path :=
  fun _ _ path h => h.requireString path

theorem assignU32_blind : Blind assignU32 := by
  intro v w path h
  unfold assignU32
  rw [h.requireInteger]

theorem assignMillis_blind : Blind assignMillis := by
  intro v w path h
  unfold assignMillis
  rw [h.requireInteger]

theorem assignId_blind {tag : IdTag} : Blind (@assignId tag) := by
  intro v w path h
  unfold assignId
  rw [h.requireString]

theorem assignDigest_blind : Blind assignDigest := by
  intro v w path h
  unfold assignDigest
  rw [h.requireString]

theorem assignEnum_blind {α : Type} (expected : Bytes) (parse : Bytes → Option α) :
    Blind (assignEnum expected parse) := by
  intro v w path h
  unfold assignEnum
  rw [h.requireString]

theorem readEntry_blind (maxBytes : Nat) : Blind (readEntry maxBytes) := by
  intro v w path h
  unfold readEntry
  rw [h.requireString]

theorem parseRatio_blind : Blind parseRatio := by
  intro v w path h
  cases h with
  | refl => rfl
  | array => rfl
  | object hkeys hperm hmembers =>
    have h := JsonValue.Alike.object hkeys hperm hmembers
    unfold parseRatio
    simp only [readRequiredU32, assignU32_blind.required h]

end Leaves

section Members

variable {v w : JsonValue}

theorem readRequiredString_alike (h : v.Alike w) (key parent : Bytes) :
    readRequiredString v key parent = readRequiredString w key parent :=
  requireString_blind.required h key parent

theorem readOptionalString_alike (h : v.Alike w) (key parent : Bytes) (fallback : Bytes) :
    readOptionalString v key parent fallback = readOptionalString w key parent fallback :=
  Blind.optional (fun _ _ path hm => hm.optionalString path fallback) h key parent fallback

theorem readOptionalBool_alike (h : v.Alike w) (key parent : Bytes) (out : Bool) :
    readOptionalBool v key parent out = readOptionalBool w key parent out :=
  Blind.optional (fun _ _ path hm => hm.requireBool path) h key parent out

theorem readOptionalU32_alike (h : v.Alike w) (key parent : Bytes) (out : UInt32) :
    readOptionalU32 v key parent out = readOptionalU32 w key parent out :=
  assignU32_blind.optional h key parent out

theorem readOptionalMillis_alike (h : v.Alike w) (key parent : Bytes) (out : Duration) :
    readOptionalMillis v key parent out = readOptionalMillis w key parent out :=
  assignMillis_blind.optional h key parent out

theorem readOptionalRatio_alike (h : v.Alike w) (key parent : Bytes) (out : Ratio) :
    readOptionalRatio v key parent out = readOptionalRatio w key parent out :=
  parseRatio_blind.optional h key parent out

theorem readOptionalId_alike {tag : IdTag} (h : v.Alike w) (key parent : Bytes) (out : StrongId tag) :
    readOptionalId v key parent out = readOptionalId w key parent out :=
  assignId_blind.optional h key parent out

theorem readOptionalIdList_alike {tag : IdTag} (h : v.Alike w) (key parent : Bytes)
    (limits : RuntimeLimits) :
    (readOptionalIdList v key parent limits : Result (List (StrongId tag)))
      = readOptionalIdList w key parent limits :=
  (assignId_blind.list _ _).optional h key parent []

theorem readOptionalStringList_alike (h : v.Alike w) (key parent : Bytes) (maxCount maxBytes : Nat) :
    readOptionalStringList v key parent maxCount maxBytes
      = readOptionalStringList w key parent maxCount maxBytes :=
  ((readEntry_blind maxBytes).list _ _).optional h key parent []

theorem readRequiredEnum_alike {α : Type} (h : v.Alike w) (key parent expected : Bytes)
    (parse : Bytes → Option α) :
    readRequiredEnum v key parent expected parse = readRequiredEnum w key parent expected parse :=
  (assignEnum_blind expected parse).required h key parent

theorem readOptionalEnum_alike {α : Type} (h : v.Alike w) (key parent expected : Bytes)
    (parse : Bytes → Option α) (out : α) :
    readOptionalEnum v key parent expected parse out
      = readOptionalEnum w key parent expected parse out :=
  (assignEnum_blind expected parse).optional h key parent out

theorem readName_alike (h : v.Alike w) (key parent : Bytes) (limits : RuntimeLimits) :
    readName limits v key parent = readName limits w key parent := by
  unfold readName
  rw [readRequiredString_alike h]

end Members

theorem parseSelectorTerm_blind (limits : RuntimeLimits) (room : Nat) :
    Blind (parseSelectorTerm limits room) := by
  induction room with
  | zero => exact fun _ _ _ _ => rfl
  | succ room ih =>
    refine Blind.object fun v w path h => ?_
    have hlabel : Blind fun (member : JsonValue) path => (member.requireString path).map some :=
      fun v w path hm => by
        dsimp only
        rw [hm.requireString]
    simp only [readRequiredEnum_alike h, readOptionalIdList_alike h,
      ((assignEnum_blind _ parseTargetKind).list _ _).optional h, readOptionalStringList_alike h,
      readOptionalString_alike h, hlabel.optional h, (ih.list _ _).optional h]

theorem parseHealthGate_blind (out : HealthGatePolicy) : Blind (parseHealthGate out) := by
  refine Blind.object fun v w path h => ?_
  simp only [readOptionalBool_alike h, readOptionalMillis_alike h, readOptionalId_alike h,
    readOptionalU32_alike h, readOptionalRatio_alike h]

theorem parseEvidenceGate_blind (out : EvidenceGatePolicy) : Blind (parseEvidenceGate out) := by
  refine Blind.object fun v w path h => ?_
  simp only [readOptionalEnum_alike h, readOptionalMillis_alike h, readOptionalId_alike h,
    readOptionalU32_alike h, readOptionalRatio_alike h, readOptionalBool_alike h]

theorem parseBlastRadius_blind (out : BlastRadiusPolicy) : Blind (parseBlastRadius out) := by
  refine Blind.object fun v w path h => ?_
  simp only [readOptionalU32_alike h]

theorem parseStagePolicy_blind (limits : RuntimeLimits) (out : StagePolicy) :
    Blind (parseStagePolicy limits out) := by
  refine Blind.object fun v w path h => ?_
  simp only [readOptionalU32_alike h, readOptionalRatio_alike h, readOptionalBool_alike h,
    readOptionalEnum_alike h, readOptionalMillis_alike h, readOptionalStringList_alike h,
    (parseHealthGate_blind out.healthGate).optional h,
    (parseEvidenceGate_blind out.evidenceGate).optional h,
    (parseBlastRadius_blind out.blastRadius).optional h]

theorem parseEvidenceRule_blind (out : TargetEvidenceRule) : Blind (parseEvidenceRule out) := by
  refine Blind.object fun v w path h => ?_
  simp only [readOptionalEnum_alike h, readOptionalBool_alike h, readOptionalId_alike h,
    readOptionalMillis_alike h]

theorem parseAction_blind (stage : StageId) (limits : RuntimeLimits) :
    Blind (parseAction stage limits) := by
  refine Blind.object fun v w path h => ?_
  have hparameters : Blind fun (member : JsonValue) path => member.requireString path >>= fun t =>
      decodeBase64 t path limits.maxMessageBytes.toNat := fun v w path hm => by
    dsimp only
    rw [hm.requireString]
  simp only [readName_alike h, readRequiredEnum_alike h, readRequiredDigest,
    assignDigest_blind.required h, readOptionalEnum_alike h, hparameters.optional h]

theorem parseStage_blind (plan : PlanId) (limits : RuntimeLimits) :
    Blind (parseStage plan limits) := by
  refine Blind.object fun v w path h => ?_
  have hselector {α : Type} (f : SelectorTerm → Result α) (v w : JsonValue) (hvw : v.Alike w) :
      (parseSelectorTerm limits (kMaxSelectorDepth + 1) v (joinPath path (text "selector")) >>= f)
        = parseSelectorTerm limits (kMaxSelectorDepth + 1) w (joinPath path (text "selector")) >>= f := by
    rw [parseSelectorTerm_blind limits _ v w _ hvw]
  simp only [readName_alike h, readRequiredU32, assignU32_blind.required h,
    readOptionalStringList_alike h, (parseStagePolicy_blind limits {}).optional h,
    (parseEvidenceRule_blind {}).optional h, ((parseAction_blind _ limits).list _ _).required h,
    Blind.requiredObject h _ _ (hselector _)]

/-- Two documents that are alike load to the same plan, or are refused with the same diagnostic. -/
theorem changePlanFromJson_alike {v w : JsonValue} (h : v.Alike w) (limits : RuntimeLimits) :
    changePlanFromJson v limits = changePlanFromJson w limits := by
  have hkind : requireDocumentKind v kChangePlanKind = requireDocumentKind w kChangePlanKind := by
    unfold requireDocumentKind
    rw [readRequiredString_alike h]
  have hversion : requireSchemaVersion v = requireSchemaVersion w := by
    unfold requireSchemaVersion readRequiredInteger
    rw [Blind.required (fun _ _ path hm => hm.requireInteger path) h]
  have happroved : readApprovedAt v = readApprovedAt w := by
    unfold readApprovedAt
    rw [readRequiredString_alike h]
  have hsummary : readSummary v limits = readSummary w limits := by
    unfold readSummary
    rw [readOptionalString_alike h]
  unfold changePlanFromJson
  rcases h.requireObject [] with ⟨hv, hw⟩ | ⟨s, hv, hw⟩
  · rw [hv, hw]
    show (requireDocumentKind v _ >>= _) = (requireDocumentKind w _ >>= _)
    simp only [hkind, hversion, readRequiredDigest, assignDigest_blind.required h, readName_alike h,
      happroved, hsummary, ((parseStage_blind _ limits).list _ _).required h]
  · rw [hv, hw]

/-- The order in which a plan document lists the members of its objects is not observable. -/
theorem parseChangePlan_memberOrder {t t' : Bytes} {limits : RuntimeLimits} {v v' : JsonValue}
    (h : parseJson t limits = .ok v) (h' : parseJson t' limits = .ok v') (halike : v.Alike v') :
    parseChangePlan t limits = parseChangePlan t' limits := by
  unfold parseChangePlan
  rw [h, h']
  exact changePlanFromJson_alike halike limits

/-! A plan document of one stage. -/

def soloDigest : Bytes := List.replicate 64 97

/-- The document with these first members and this selector. -/
def soloDocument (first second selector : Bytes) : Bytes :=
  text "\x7b" ++ first ++ text "," ++ second ++ text ",\"source_digest\":\"" ++ soloDigest
    ++ text "\",\"change_id\":\"c\",\"approved_by\":\"b\","
    ++ text "\"approved_at\":\"2026-01-01T00:00:00Z\",\"stages\":[\x7b\"name\":\"s\","
    ++ text "\"ordinal\":0,\"selector\":" ++ selector
    ++ text ",\"actions\":[\x7b\"name\":\"a\",\"kind\":\"restart\",\"artifact_digest\":\""
    ++ soloDigest ++ text "\"\x7d]\x7d]\x7d"

def soloKind : Bytes := text "\"kind\":\"rollout_fabric.change_plan\""

def soloVersion : Bytes := text "\"schema_version\":1"

def soloSelector : Bytes := text "\x7b\"op\":\"all\"\x7d"

/-- The members that follow the first two. -/
def soloMembers : List (Bytes × JsonValue) :=
  [(text "source_digest", .string soloDigest), (text "change_id", .string (text "c")),
   (text "approved_by", .string (text "b")),
   (text "approved_at", .string (text "2026-01-01T00:00:00Z")),
   (text "stages", .array [.object [
      (text "name", .string (text "s")), (text "ordinal", .number 0),
      (text "selector", .object [(text "op", .string (text "all"))]),
      (text "actions", .array [.object [
        (text "name", .string (text "a")), (text "kind", .string (text "restart")),
        (text "artifact_digest", .string soloDigest)]])]])]

set_option maxRecDepth 8000 in
theorem soloDocument_memberOrder :
    parseChangePlan (soloDocument soloKind soloVersion soloSelector) {}
      = parseChangePlan (soloDocument soloVersion soloKind soloSelector) {} := by
  have hfirst : parseJson (soloDocument soloKind soloVersion soloSelector) {} = .ok (.object
      ((text "kind", .string kChangePlanKind) :: (text "schema_version", .number 1)
        :: soloMembers)) := rfl
  have hsecond : parseJson (soloDocument soloVersion soloKind soloSelector) {} = .ok (.object
      ((text "schema_version", .number 1) :: (text "kind", .string kChangePlanKind)
        :: soloMembers)) := rfl
  exact parseChangePlan_memberOrder hfirst hsecond
    (.object (by decide) (.swap _ _ _) (MembersAlike.refl _))

end RolloutFabric
