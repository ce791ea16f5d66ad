/-
What a controller does with a command request: it puts one input to its orchestrator, under its own
authority, or answers out of what the orchestrator holds.
-/
import RolloutFabric.Document.Plan
import RolloutFabric.Orchestrator.Recovery
import RolloutFabric.Protocol.Messages

namespace RolloutFabric

variable {ρ : Type}

/-! ## Observing an orchestrator -/

namespace Orchestrator

def stageView (o : Orchestrator ρ) (rolloutId : RolloutId) (stageId : StageId) :
    Result StageRuntime :=
  match o.find rolloutId with
  | none => .error (makeStatus .notFound (text "no such rollout"))
  | some rollout => match rollout.findStage stageId with
    | none => .error (makeStatus .notFound (text "no such stage in this rollout"))
    | some j => .ok (rollout.stageAt j)

def cohortView (o : Orchestrator ρ) (rolloutId : RolloutId) (stageId : StageId) :
    Result CohortMembership :=
  (o.stageView rolloutId stageId).map StageRuntime.cohort

/-- `explain`, over `Decision::render`. -/
def explain (o : Orchestrator ρ) (render : Decision → Bytes) (rolloutId : RolloutId)
    (decision : Option DecisionId) : Result Bytes :=
  match o.find rolloutId with
  | none => .error (makeStatus .notFound (text "no such rollout"))
  | some rollout => match decision with
    | some id => match rollout.decisions.find? fun entry => entry.id == id with
      | some entry => .ok (render entry)
      | none => .error (makeStatus .notFound (text "decision " ++ id.shortHex
          ++ text " is not in the retained history of this rollout"))
    | none => match rollout.decisions.getLast? with
      | none => .error (makeStatus .notFound
          (text "the rollout has recorded no decision that this controller still retains"))
      | some latest => .ok (text "rollout " ++ rollout.id.shortHex ++ text " state="
          ++ rollout.state.toText ++ text " generation=" ++ rollout.generation.shortHex
          ++ text " revision=" ++ toStringNat rollout.revision.toNat ++ text "\n"
          ++ text "reason: " ++ rollout.stateReason ++ text "\n\n" ++ render latest)

end Orchestrator

/-! ## The controller -/

/-- The renderings that answers carry: those of `report.hpp`, `render_adapter_event` and
`Decision::render`. -/
structure Renderings where
  status : Rollout → TargetInventory → RuntimeLimits → Bytes
  stage : StageRuntime → TargetInventory → Bytes
  cohortMembership : CohortMembership → TargetInventory → Bytes
  adapterEvent : AdapterEvent → Bytes
  decision : Decision → Bytes

/-- What a controller that is open never changes. -/
structure ControllerEnv (ρ : Type) where
  env : Env ρ
  authority : AuthorityId
  incarnation : IncarnationId
  controllerEpoch : UInt64
  /-- `read_text_file` up to `kMaxDocumentBytes`. -/
  readTextFile : Bytes → Result Bytes
  reports : Renderings

/-- What execute_command works on. -/
structure Controller (ρ : Type) where
  orchestrator : Orchestrator ρ
  commands : UInt64 := 0

def deriveOperatorId (name : Bytes) : OperatorId :=
  .ofDigest (((Sha256.update {} (text "rollout-fabric/operator/v1")).update name).finish)

namespace ControllerEnv

variable (e : ControllerEnv ρ)

def commandContext (request : CommandRequestMessage) : CommandContext where
  authority := e.authority
  operatorId := deriveOperatorId request.operatorName
  operatorName := request.operatorName
  incarnation := e.incarnation
  controllerEpoch := e.controllerEpoch
  expectedGeneration := request.generation
  expectedRevision := request.revision
  checkedGeneration := request.checkedGeneration
  checkedRevision := request.checkedRevision

def renderStatus (o : Orchestrator ρ) (rollout : Rollout) : Bytes :=
  e.reports.status rollout o.impl.inventory e.env.limits

end ControllerEnv

/-! ## Answers -/

namespace CommandRequestMessage

variable (request : CommandRequestMessage)

/-- The answer every command starts from. -/
def answer : CommandResponseMessage := { rollout := request.rollout, gate := request.gate }

def refuse (status : Status) : CommandResponseMessage :=
  { request.answer with code := status.code, detail := status.message }

def missingRollout : CommandResponseMessage := request.refuse
  (makeStatus .invalidArgument (text "this command must name the rollout it applies to"))

def unknownRollout : CommandResponseMessage := request.refuse (makeStatus .notFound
  (text "no rollout " ++ request.rollout.shortHex ++ text " is known to this controller"))

end CommandRequestMessage

section Commands

variable (e : ControllerEnv ρ) (request : CommandRequestMessage)

/-- `report`: the state machine was asked, and the state that resulted is rendered. -/
def report (result : Result Bytes) (o : Orchestrator ρ) : CommandResponseMessage :=
  match result with
  | .error status => request.refuse status
  | .ok detail => { request.answer with
      code := .ok
      detail
      payload := if request.rollout.isNil then [] else
        match o.find request.rollout with
        | some rollout => e.renderStatus o rollout
        | none => [] }

/-- The shape of a command on a rollout. -/
def onRollout (c : Controller ρ)
    (command : RolloutId → CommandContext → Result Bytes × Orchestrator ρ) :
    CommandResponseMessage × Controller ρ :=
  if request.rollout.isNil then (request.missingRollout, c)
  else
    let (result, o) := command request.rollout (e.commandContext request)
    (report e request result o, { c with orchestrator := o })

def createCommand (c : Controller ρ) : CommandResponseMessage × Controller ρ :=
  if request.planPath.isEmpty then
    (request.refuse (makeStatus .invalidArgument
      (text "kCreate must name the plan document to load")), c)
  else match e.readTextFile request.planPath with
  | .error status => (request.refuse status, c)
  | .ok t => match parseChangePlan t e.env.limits with
    | .error status => (request.refuse status, c)
    | .ok plan =>
      let (created, o) := createRollout e.env c.orchestrator plan (e.commandContext request)
      let c := { c with orchestrator := o }
      match created with
      | .error status => (request.refuse status, c)
      | .ok (id, detail) => ({ request.answer with
          rollout := id
          code := .ok
          detail
          payload := match o.find id with
            | some rollout => e.renderStatus o rollout
            | none => [] }, c)

/-! ## Read-only commands -/

def validateCommand (o : Orchestrator ρ) : CommandResponseMessage :=
  if request.rollout.isNil then request.missingRollout
  else match o.find request.rollout with
  | none => request.unknownRollout
  | some rollout => { request.answer with
      code := .ok
      detail := text "the plan of rollout " ++ rollout.id.shortHex
        ++ text " was validated when the rollout was created; the rollout is "
        ++ rollout.state.toText
      payload := e.renderStatus o rollout }

def listRollouts (o : Orchestrator ρ) : Bytes :=
  let listing := (o.held.map fun h => h.rollout.id.toHex ++ text " state=" ++ h.rollout.state.toText
    ++ text " plan=" ++ h.rollout.planId.shortHex ++ text " revision="
    ++ toStringNat h.rollout.revision.toNat ++ text "\n").flatten
  if listing.isEmpty then text "no rollout is known to this controller\n" else listing

def statusCommand (o : Orchestrator ρ) : CommandResponseMessage :=
  if request.rollout.isNil then { request.answer with
    code := .ok
    detail := toStringNat o.held.length ++ text " rollout(s)"
    payload := listRollouts o }
  else match o.find request.rollout with
  | none => request.unknownRollout
  | some rollout => { request.answer with
      code := .ok
      detail := text "rollout " ++ rollout.id.shortHex ++ text " is " ++ rollout.state.toText
      payload := e.renderStatus o rollout }

/-- The gate field carries the identifier of a decision. -/
def explainCommand (o : Orchestrator ρ) : CommandResponseMessage :=
  if request.rollout.isNil then request.missingRollout
  else
    let decision := if request.gate.isNil then none else some ⟨request.gate.bytes⟩
    match o.explain e.reports.decision request.rollout decision with
    | .error status => request.refuse status
    | .ok explained => { request.answer with
        code := .ok
        detail := if decision.isSome then text "the requested decision" else text "the latest decision"
        payload := explained }

/-- A command whose gate field carries the identifier of a stage. -/
def inspectCommand {α : Type} (name : Bytes) (view : RolloutId → StageId → Result α)
    (detail payload : α → Bytes) : CommandResponseMessage :=
  if request.rollout.isNil then request.missingRollout
  else if request.gate.isNil then request.refuse (makeStatus .invalidArgument
    (name ++ text " carries the stage identifier in the gate field"))
  else match view request.rollout ⟨request.gate.bytes⟩ with
  | .error status => request.refuse status
  | .ok seen => { request.answer with code := .ok, detail := detail seen, payload := payload seen }

def inspectStageCommand (o : Orchestrator ρ) : CommandResponseMessage :=
  inspectCommand request (text "kInspectStage") o.stageView
    (fun stage => text "stage " ++ stage.id.shortHex ++ text " is " ++ stage.state.toText)
    fun stage => e.reports.stage stage o.impl.inventory

def inspectCohortCommand (o : Orchestrator ρ) : CommandResponseMessage :=
  inspectCommand request (text "kInspectCohort") o.cohortView
    (fun cohort => toStringNat cohort.members.length ++ text " cohort member(s)")
    fun cohort => e.reports.cohortMembership cohort o.impl.inventory

def listEventsCommand (o : Orchestrator ρ) : CommandResponseMessage :=
  let listing := (o.impl.adapterEvents.map fun event =>
    e.reports.adapterEvent event ++ text "\n").flatten
  { request.answer with
    code := .ok
    detail := toStringNat o.impl.adapterEvents.length ++ text " event(s)"
    payload := if listing.isEmpty then
      text "no adapter event has been observed by this controller\n" else listing }

/-! ## Executing -/

def executeCommand (c : Controller ρ) : CommandResponseMessage × Controller ρ :=
  let o := c.orchestrator
  let c := { c with commands := c.commands + 1 }
  match request.kind with
  | .create => createCommand e request c
  | .validate => (validateCommand e request o, c)
  | .arm => onRollout e request c (arm e.env o)
  | .start => onRollout e request c (start e.env o)
  | .pause => onRollout e request c fun id context => pause e.env o id context request.reason
  | .resume => onRollout e request c (resume e.env o)
  | .abort => onRollout e request c fun id context => abort e.env o id context request.reason
  | .approveGate =>
    if !request.rollout.isNil && request.gate.isNil then
      (request.refuse (makeStatus .invalidArgument
        (text "kApproveGate must name the gate being approved")), c)
    else onRollout e request c fun id context => approveGate e.env o id request.gate context
  | .retire => onRollout e request c (retire e.env o)
  | .regenerate => onRollout e request c (regenerate e.env o)
  | .status => (statusCommand e request o, c)
  | .explain => (explainCommand e request o, c)
  | .inspectStage => (inspectStageCommand e request o, c)
  | .inspectCohort => (inspectCohortCommand e request o, c)
  | .listEvents => (listEventsCommand e request o, c)

/-! ## Commands as inputs -/

/-- The input a request is put to the orchestrator as, if it is one. -/
def CommandRequestMessage.input? : Option Input :=
  let context := e.commandContext request
  let named (i : RolloutId → Input) : Option Input :=
    if request.rollout.isNil then none else some (i request.rollout)
  match request.kind with
  | .create =>
    if request.planPath.isEmpty then none
    else match e.readTextFile request.planPath with
    | .error _ => none
    | .ok t => match parseChangePlan t e.env.limits with
      | .error _ => none
      | .ok plan => some (.create plan context)
  | .arm => named (.arm · context)
  | .start => named (.start · context)
  | .pause => named (.pause · context request.reason)
  | .resume => named (.resume · context)
  | .abort => named (.abort · context request.reason)
  | .approveGate => if request.gate.isNil then none else named (.approveGate · request.gate context)
  | .retire => named (.retire · context)
  | .regenerate => named (.regenerate · context)
  | _ => none

variable {e request} {c : Controller ρ}

theorem onRollout_orchestrator
    (command : RolloutId → CommandContext → Result Bytes × Orchestrator ρ) :
    (onRollout e request c command).2.orchestrator
      = if request.rollout.isNil then c.orchestrator
        else (command request.rollout (e.commandContext request)).2 := by
  unfold onRollout
  split <;> rfl

theorem createCommand_orchestrator (hkind : request.kind = .create) :
    (createCommand e request c).2.orchestrator
      = (request.input? e).elim c.orchestrator (c.orchestrator.step e.env) := by
  unfold createCommand CommandRequestMessage.input?
  rw [hkind]
  dsimp only
  split
  · rfl
  cases e.readTextFile request.planPath with
  | error status => rfl
  | ok t =>
    dsimp only
    cases parseChangePlan t e.env.limits with
    | error status => rfl
    | ok plan =>
      dsimp only [Option.elim_some, Orchestrator.step]
      rcases createRollout e.env c.orchestrator plan (e.commandContext request) with
        ⟨status | ⟨id, detail⟩, o⟩
      · rfl
      · rfl

/-- Executing a request is one input of the orchestrator at most. -/
theorem executeCommand_orchestrator :
    (executeCommand e request c).2.orchestrator
      = (request.input? e).elim c.orchestrator (c.orchestrator.step e.env) := by
  unfold executeCommand
  dsimp only
  split
  case h_1 hkind => exact createCommand_orchestrator hkind
  case h_8 hkind =>
    unfold CommandRequestMessage.input?
    rw [hkind]
    by_cases hrollout : request.rollout.isNil = true <;> by_cases hgate : request.gate.isNil = true
      <;> simp [onRollout_orchestrator, hrollout, hgate, Orchestrator.step]
  all_goals
    next hkind =>
      unfold CommandRequestMessage.input?
      rw [hkind]
      first
        | rfl
        | rw [onRollout_orchestrator]
          dsimp only
          split <;> rfl

theorem onRollout_commands
    (command : RolloutId → CommandContext → Result Bytes × Orchestrator ρ) :
    (onRollout e request c command).2.commands = c.commands := by
  unfold onRollout
  split <;> rfl

theorem executeCommand_commands : (executeCommand e request c).2.commands = c.commands + 1 := by
  unfold executeCommand
  dsimp only
  split
  case h_1 =>
    unfold createCommand
    split
    · rfl
    cases e.readTextFile request.planPath with
    | error status => rfl
    | ok t =>
      dsimp only
      cases parseChangePlan t e.env.limits with
      | error status => rfl
      | ok plan =>
        dsimp only
        rcases createRollout e.env c.orchestrator plan (e.commandContext request) with
          ⟨status | ⟨id, detail⟩, o⟩ <;> rfl
  case h_8 =>
    split
    · rfl
    · exact onRollout_commands _
  all_goals first | rfl | exact onRollout_commands _

end Commands

end RolloutFabric
