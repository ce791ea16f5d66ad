/-
Identifiers. Sixteen opaque bytes tagged with the kind of object they name, ordered byte by
byte; the factory derives fresh ones from a seed and a counter.
-/
import RolloutFabric.Base.Sha256

namespace RolloutFabric

inductive IdTag
  | rollout | stage | cohort | target | attempt | generation | plan | action | artifact
  | evidence | decision | incarnation | authority | operator | worker | healthSource
  | gate | failureDomain | verifier | journal
deriving DecidableEq

/-- `StrongId<Tag>`: identifiers of different kinds have different types. -/
structure StrongId (tag : IdTag) where
  bytes : FixedBytes 16
deriving DecidableEq

namespace StrongId

variable {tag : IdTag}

/-- The all-zero identifier. -/
def nil : StrongId tag := ⟨.zero 16⟩

instance : Inhabited (StrongId tag) := ⟨nil⟩

def isNil (id : StrongId tag) : Bool := id == nil

@[simp] theorem isNil_nil : (nil : StrongId tag).isNil = true := by simp [isNil]

theorem isNil_iff {id : StrongId tag} : id.isNil = true ↔ id = nil := by simp [isNil]

theorem isNil_eq_false_iff {id : StrongId tag} : id.isNil = false ↔ id ≠ nil := by simp [isNil]

instance : LinearOrder (StrongId tag) :=
  LinearOrder.lift' StrongId.bytes fun a b h => by cases a; cases b; simp_all

def toHex (id : StrongId tag) : Bytes := RolloutFabric.toHex id.bytes.data

/-- `id.to_hex().substr(0, 12)`, the form every diagnostic uses. -/
def shortHex (id : StrongId tag) : Bytes := id.toHex.take 12

end StrongId

abbrev RolloutId := StrongId .rollout
abbrev StageId := StrongId .stage
abbrev CohortId := StrongId .cohort
abbrev TargetId := StrongId .target
abbrev AttemptId := StrongId .attempt
abbrev GenerationId := StrongId .generation
abbrev PlanId := StrongId .plan
abbrev ActionId := StrongId .action
abbrev ArtifactId := StrongId .artifact
abbrev EvidenceId := StrongId .evidence
abbrev DecisionId := StrongId .decision
abbrev IncarnationId := StrongId .incarnation
abbrev AuthorityId := StrongId .authority
abbrev OperatorId := StrongId .operator
abbrev WorkerId := StrongId .worker
abbrev HealthSourceId := StrongId .healthSource
abbrev GateId := StrongId .gate
abbrev FailureDomainId := StrongId .failureDomain
abbrev VerifierId := StrongId .verifier
abbrev JournalId := StrongId .journal

/-! ## The factory -/

/-- The domain separator hashed into a derived identifier. -/
inductive IdDomain
  | rollout | stage | cohort | attempt | generation | plan | action | artifact | evidence
  | decision | incarnation | authority | operator | worker | healthSource | gate | snapshot
  | journal | failureDomain | verifier
deriving DecidableEq

def IdDomain.code : IdDomain → UInt16
  | .rollout => 1 | .stage => 2 | .cohort => 3 | .attempt => 4 | .generation => 5 | .plan => 6
  | .action => 7 | .artifact => 8 | .evidence => 9 | .decision => 10 | .incarnation => 11
  | .authority => 12 | .operator => 13 | .worker => 14 | .healthSource => 15 | .gate => 16
  | .snapshot => 17 | .journal => 18 | .failureDomain => 19 | .verifier => 20

end RolloutFabric
