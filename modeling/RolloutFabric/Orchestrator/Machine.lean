/-
The machine under the orchestrator: the parts of a rollout that decide what may happen next, the
attempt table and the trace, and the acts that change them, each with the condition it is
performed under.
-/
import RolloutFabric.Orchestrator.Recovery

namespace RolloutFabric

/-! ## Cores -/

/-- What the last health sample that was applied says about a target. -/
structure Health where
  healthy : Bool := false
  lastHealthyAt : Timestamp := {}
  originLive : Bool := false
  source : HealthSourceId := .nil
deriving DecidableEq, Inhabited

/-- What a sample says. -/
def EvidenceRecord.health (record : EvidenceRecord) : Health where
  healthy := decide (record.outcome = .succeeded)
  lastHealthyAt := record.observedAt
  originLive := record.origin == .live
  source := record.healthSource

structure TargetCore where
  target : TargetId := .nil
  state : TargetState := .pending
  currentAttempt : AttemptId := .nil
  lastAttempt : AttemptId := .nil
  epoch : UInt64 := 0
  rollbackStep : UInt32 := 0
  health : Health := {}
deriving DecidableEq, Inhabited

structure StageCore where
  id : StageId := .nil
  state : StageState := .pending
  predecessors : List StageId := []
  policy : StagePolicy := {}
  actions : List ActionSpec := []
  pendingGate : GateId := .nil
  pendingGateKind : GateKind := .stageEntry
  targets : List TargetCore := []
deriving Inhabited

structure RolloutCore where
  id : RolloutId := .nil
  generation : GenerationId := .nil
  state : RolloutState := .created
  resumeState : RolloutState := .created
  cursor : UInt32 := 0
  stages : List StageCore := []
deriving Inhabited

def TargetRuntime.core (t : TargetRuntime) : TargetCore where
  target := t.target
  state := t.state
  currentAttempt := t.currentAttempt
  lastAttempt := t.lastAttempt
  epoch := t.epoch
  rollbackStep := t.rollbackStep
  health := {
    healthy := t.healthy
    lastHealthyAt := t.lastHealthyAt
    originLive := t.lastHealthOriginLive
    source := t.lastHealthSource }

def StageRuntime.core (s : StageRuntime) : StageCore where
  id := s.id
  state := s.state
  predecessors := s.predecessors
  policy := s.policy
  actions := s.actions
  pendingGate := s.pendingGate
  pendingGateKind := s.pendingGateKind
  targets := s.targets.map TargetRuntime.core

def Rollout.core (r : Rollout) : RolloutCore where
  id := r.id
  generation := r.generation
  state := r.state
  resumeState := r.resumeState
  cursor := r.cursor
  stages := r.stages.map StageRuntime.core

namespace StageCore

def targetAt (s : StageCore) (i : Nat) : TargetCore := s.targets.getD i default

/-- `StageRuntime.findTarget`. -/
def findTarget (s : StageCore) (id : TargetId) : Option Nat :=
  let index := (s.targets.takeWhile fun entry => entry.target < id).length
  match s.targets[index]? with
  | some entry => if entry.target = id then some index else none
  | none => none

/-- How many targets of the stage are changing. -/
def changing (s : StageCore) : Nat := s.targets.countP fun t => t.state.countsAsChanging

/-- How many of them are changing forward. -/
def busy (s : StageCore) : Nat :=
  s.targets.countP fun t => t.state == .dispatched || t.state == .unknown

/-- The targets are in the order of their identifiers. -/
def Sorted (s : StageCore) : Prop := (s.targets.map TargetCore.target).Pairwise (· < ·)

/-- Every target reached a terminal state. -/
def Terminal (s : StageCore) : Prop := ∀ t ∈ s.targets, t.state.isTerminal = true

end StageCore

namespace RolloutCore

def stageAt (r : RolloutCore) (j : Nat) : StageCore := r.stages.getD j default

def targetAt (r : RolloutCore) (j i : Nat) : TargetCore := (r.stageAt j).targetAt i

def modifyStage (r : RolloutCore) (j : Nat) (f : StageCore → StageCore) : RolloutCore :=
  { r with stages := r.stages.modify j f }

def modifyTarget (r : RolloutCore) (j i : Nat) (f : TargetCore → TargetCore) : RolloutCore :=
  r.modifyStage j fun stage => { stage with targets := stage.targets.modify i f }

def place (r : RolloutCore) (j i : Nat) : Place :=
  ⟨r.id, r.generation, (r.stageAt j).id, (r.targetAt j i).target⟩

def findStage (r : RolloutCore) (id : StageId) : Option Nat :=
  r.stages.findIdx? fun stage => stage.id == id

def changing (r : RolloutCore) : Nat := (r.stages.map StageCore.changing).sum

end RolloutCore

/-- A rollout without its targets. -/
def RolloutCore.skeleton (r : RolloutCore) : RolloutCore :=
  { r with stages := r.stages.map fun s => { s with targets := [] } }

/-! ## Views -/

/-- An event of the journal, as opposed to one of the history of the rollouts. -/
def Event.isJournal : Event → Bool
  | .appended .. | .rewritten .. => true
  | _ => false

def history (trace : List Event) : List Event := trace.filter fun e => !e.isJournal

/-- What the acts work on. -/
structure View where
  rollout : RolloutCore
  attempts : AttemptId → Option Attempt
  trace : List Event
  storageFailed : Bool
  failing : Option (Nat × Nat)

/-- A view without the journal: what no write changes. -/
structure Core where
  rollout : RolloutCore
  attempts : AttemptId → Option Attempt
  history : List Event
  failing : Option (Nat × Nat)

namespace View

def core (v : View) : Core := ⟨v.rollout, v.attempts, history v.trace, v.failing⟩

def log (v : View) (e : Event) : View := { v with trace := v.trace ++ [e] }

def setRollout (v : View) (r : RolloutCore) : View := { v with rollout := r }

def setAttempt (v : View) (id : AttemptId) (a : Option Attempt) : View :=
  { v with attempts := Function.update v.attempts id a }

def setFailing (v : View) (failing : Option (Nat × Nat)) : View := { v with failing }

end View

variable {ρ : Type}

def World.view (w : World ρ) : View where
  rollout := w.rollout.core
  attempts id := w.impl.attempts.lookup id
  trace := w.impl.trace
  storageFailed := w.impl.storageFailed
  failing := w.failing

def World.core (w : World ρ) : Core := w.view.core

/-! ## What the acts require -/

/-- The record of a snapshot is the rollout as it is. -/
def JournalEntry.Describes (r : RolloutCore) : JournalEntry → Prop
  | .rolloutSnapshot rollout => rollout.core = r
  | _ => True

/-- A rollout whose stages are worked on. -/
def RolloutState.working : RolloutState → Bool
  | .running | .soaking | .advancing => true
  | _ => false

/-- A stage whose targets are worked on. -/
def StageState.active : StageState → Bool
  | .running | .soaking => true
  | _ => false

/-- A rollout that is undone, or over: nothing but a new generation leads back. -/
def RolloutState.undone : RolloutState → Bool
  | .rollingBack | .failed | .completed | .retired => true
  | _ => false

/-- No rollback has begun in the current generation, or so much the state tells. -/
def Core.Calm (c : Core) : Prop :=
  c.rollout.state.undone = false
    ∨ .rolloutEntered c.rollout.id c.rollout.generation .rollingBack ∉ c.history

/-- The gates the runtime opens. -/
def GateKind.opened : GateKind → Bool
  | .stageEntry | .evidence | .advance => true
  | _ => false

/-- `complete_stage` was entered on the stage just now, and lets it pass. -/
structure Completes (env : Env ρ) (c : Core) (j : Nat) (stage : StageRuntime) (now : Timestamp)
    (approved : Bool) : Prop where
  id_eq : stage.id = (c.rollout.stageAt j).id
  policy_eq : stage.policy = (c.rollout.stageAt j).policy
  passes : approved = true
    ∨ (evaluateEvidenceGate stage stage.policy.evidenceGate stage.evidenceRule now
        env.limits).satisfied = true
      ∧ (evaluateAdvanceGate stage now env.limits).satisfied = true
  recent : ∃ h,
    c.history = h ++ [.completing c.rollout.id c.rollout.generation stage now approved]
    ∨ c.history = h ++ [.completing c.rollout.id c.rollout.generation stage now approved,
        .stageEntered c.rollout.id c.rollout.generation stage.id stage.policy .advancing]

/-- `complete_stage` was entered on the stage just now, and stops at a manual gate. -/
structure StopsAt (env : Env ρ) (c : Core) (j : Nat) (kind : GateKind) (stage : StageRuntime)
    (now : Timestamp) : Prop where
  core_eq : stage.core = c.rollout.stageAt j
  manual : kind = .evidence ∧ stage.policy.evidenceGate.mode = .manual
      ∧ (evaluateEvidenceGate stage stage.policy.evidenceGate stage.evidenceRule now
          env.limits).satisfied = false
    ∨ kind = .advance ∧ stage.policy.advanceGate = .manual
      ∧ (evaluateAdvanceGate stage now env.limits).satisfied = false
  recent : ∃ h, c.history = h ++ [.completing c.rollout.id c.rollout.generation stage now false]

/-- A write that failed, now or before. -/
inductive WriteFault (v : View) : Prop
  | storage (h : v.storageFailed = true)
  | append (entry : JournalEntry) (epoch : UInt64) (landed : Bool)
    (h : .appended entry epoch false landed ∈ v.trace)

/-- What a tick gives the storage up for. -/
inductive Fault (v : View) : Prop
  | write (h : WriteFault v)
  /-- `finish_rollback` meets a stage that never ran. -/
  | neverRan (generation : GenerationId) (stages : List StageState)
    (h : .finishing v.rollout.id generation stages ∈ v.trace) (state : StageState)
    (hm : state ∈ stages) (hs : state.neverRan = true)
  /-- `begin_stage` meets a predecessor the rollout does not hold. -/
  | missing (j : Nat) (hw : v.rollout.state.working = true) (hj : j < v.rollout.stages.length)
    (id : StageId) (hp : id ∈ (v.rollout.stageAt j).predecessors)
    (hm : v.rollout.findStage id = none)

/-- Why a stage may enter a state, beyond the table of legal transitions. -/
def StageEntry (env : Env ρ) (c : Core) (j : Nat) : StageState → Prop
  -- only as the current stage, once every predecessor is over
  | .armed => c.rollout.cursor.toNat = j ∧ c.rollout.state.working = true
      ∧ ∀ id ∈ (c.rollout.stageAt j).predecessors, ∃ p, c.rollout.findStage id = some p
        ∧ (c.rollout.stageAt p).state.isTerminal = true
  | .running => (c.rollout.stageAt j).pendingGate = .nil
      ∧ ((c.rollout.stageAt j).policy.entryGate = .automatic
        ∨ .approved c.rollout.id c.rollout.generation (c.rollout.stageAt j).id .stageEntry
          ∈ c.history)
  -- only with a gate
  | .gated => False
  | .advancing | .succeeded =>
      (c.Calm → (c.rollout.stageAt j).busy = 0 ∧ c.rollout.cursor.toNat = j)
        ∧ ∃ stage now approved, Completes env c j stage now approved
  | .rolledBack => c.rollout.state = .rollingBack
  | .aborted | .skipped => c.rollout.state = .aborting
  | _ => True

/-- The record names an attempt it passes every fence of. -/
structure Admits (c : Core) (record : EvidenceRecord) (j i : Nat) (attempt : Attempt) : Prop where
  named : record.attempt ≠ .nil
  found : c.attempts record.attempt = some attempt
  stage : c.rollout.findStage record.stage = some j
  target : (c.rollout.stageAt j).findTarget record.target = some i
  epoch : record.attemptEpoch = attempt.epoch
  sequence : attempt.highestSequence < record.sequence
  unfinished : attempt.finished = false
  /-- The record came through the rollout it names, or was made from the attempt. -/
  current : record.rollout = c.rollout.id ∧ record.generation = c.rollout.generation
    ∨ record.rollout = attempt.rollout ∧ record.generation = attempt.generation
      ∧ record.stage = attempt.stage ∧ record.target = attempt.target

/-- The record was applied just now. -/
def Applies (c : Core) (record : EvidenceRecord) (j i : Nat) (attempt : Attempt) : Prop :=
  c.rollout.findStage record.stage = some j
    ∧ (c.rollout.stageAt j).findTarget record.target = some i
    ∧ ∃ h current, c.history = h ++ [.applied record attempt c.rollout.generation current]
      ∧ (c.rollout.targetAt j i).currentAttempt = current

/-- The record is one of a compensation step. -/
def EvidenceRecord.Compensates (record : EvidenceRecord) (state : TargetState) : Prop :=
  evidenceClass record.kind = .compensation ∨ state = .rollingBack

/-- The adapter never started the attempt, which names the target. -/
structure Released (c : Core) (j i : Nat) (id : AttemptId) (attempt : Attempt) : Prop where
  found : c.attempts id = some attempt
  finished : attempt.finished = true
  stage : c.rollout.findStage attempt.stage = some j
  target : (c.rollout.stageAt j).findTarget attempt.target = some i

/-- The assignments of a target's state, each with the record that caused it. -/
inductive Assigns (c : Core) (j i : Nat) : TargetCore → Option EvidenceRecord → Prop
  | retry (h : (c.rollout.targetAt j i).state = .failed) (hf : c.failing = some (j, i)) :
    Assigns c j i { c.rollout.targetAt j i with state := .pending, currentAttempt := .nil } none
  | exhaust (h : (c.rollout.targetAt j i).state = .failed) (hf : c.failing = some (j, i)) :
    Assigns c j i { c.rollout.targetAt j i with state := .exhausted } none
  | expire (state : TargetState) (h : (c.rollout.targetAt j i).state = .dispatched)
      (hs : state = .cancelled ∨ state = .failed) :
    Assigns c j i { c.rollout.targetAt j i with state, currentAttempt := .nil } none
  | cancelled (record : EvidenceRecord) (attempt : Attempt) (h : Applies c record j i attempt)
      (hc : attempt.wasCancelled = true) :
    Assigns c j i { c.rollout.targetAt j i with state := .cancelled } (some record)
  | acknowledged (record : EvidenceRecord) (attempt : Attempt) (h : Applies c record j i attempt)
      (hs : (c.rollout.targetAt j i).state = .dispatched
        ∨ (c.rollout.targetAt j i).state = .unknown) :
    Assigns c j i { c.rollout.targetAt j i with state := .cancelled } (some record)
  | succeed (record : EvidenceRecord) (attempt : Attempt) (h : Applies c record j i attempt)
      (hc : attempt.wasCancelled = false)
      (hcur : (c.rollout.targetAt j i).currentAttempt = record.attempt)
      (hk : record.kind = .executionCompleted) (ho : record.outcome = .succeeded)
      (hs : (c.rollout.targetAt j i).state ≠ .rollingBack) :
    Assigns c j i { c.rollout.targetAt j i with state := .succeeded } (some record)
  | fail (record : EvidenceRecord) (attempt : Attempt) (h : Applies c record j i attempt)
      (hc : attempt.wasCancelled = false)
      (hcur : (c.rollout.targetAt j i).currentAttempt = record.attempt)
      (hs : (c.rollout.targetAt j i).state ≠ .rollingBack) :
    Assigns c j i { c.rollout.targetAt j i with state := .failed } (some record)
  | rolledBack (record : EvidenceRecord) (attempt : Attempt) (h : Applies c record j i attempt)
      (ho : record.outcome = .succeeded)
      (hs : record.Compensates (c.rollout.targetAt j i).state)
      (hl : (c.rollout.stageAt j).policy.compensationActions.length
        ≤ (c.rollout.targetAt j i).rollbackStep.toNat) :
    Assigns c j i { c.rollout.targetAt j i with state := .rolledBack, currentAttempt := .nil }
      (some record)
  | rollbackFailed (record : EvidenceRecord) (attempt : Attempt)
      (h : Applies c record j i attempt) (ho : record.outcome ≠ .succeeded)
      (hs : record.Compensates (c.rollout.targetAt j i).state) :
    Assigns c j i { c.rollout.targetAt j i with state := .rollbackFailed, currentAttempt := .nil }
      (some record)
  | mark (h : (c.rollout.targetAt j i).state = .succeeded
        ∨ (c.rollout.targetAt j i).state = .failed) (hr : c.rollout.state = .rollingBack)
      (hn : (c.rollout.stageAt j).state.notEntered = false)
      (hp : (c.rollout.stageAt j).policy.rollbackSupported = true) :
    Assigns c j i { c.rollout.targetAt j i with
      state := .rollingBack, rollbackStep := 0, currentAttempt := .nil } none
  | abandon (h : (c.rollout.targetAt j i).state = .rollingBack)
      (hr : c.rollout.state = .rollingBack) :
    Assigns c j i { c.rollout.targetAt j i with state := .rollbackFailed, currentAttempt := .nil }
      none
  | release (id : AttemptId) (attempt : Attempt) (hr : Released c j i id attempt)
      (h : (c.rollout.targetAt j i).state = .dispatched
        ∨ (c.rollout.targetAt j i).state = .unknown) :
    Assigns c j i { c.rollout.targetAt j i with state := .pending } none
  | lose (h : (c.rollout.targetAt j i).state = .dispatched) :
    Assigns c j i { c.rollout.targetAt j i with state := .unknown } none

/-- The changes of a target that leave its state alone. -/
inductive Alters (c : Core) (j i : Nat) : TargetCore → Prop
  | acknowledged (id : AttemptId) (attempt : Attempt) (h : c.attempts id = some attempt)
      (hf : attempt.finished = true) :
    Alters c j i { c.rollout.targetAt j i with currentAttempt := .nil }
  | released (id : AttemptId) (attempt : Attempt) (h : Released c j i id attempt) :
    Alters c j i { c.rollout.targetAt j i with currentAttempt := .nil }
  | settled (h : (c.rollout.targetAt j i).state.countsAsChanging = false
      ∨ ∀ action ∈ (c.rollout.stageAt j).actions, (c.rollout.targetAt j i).state = .rollingBack →
        (c.rollout.stageAt j).policy.compensationActions[
          (c.rollout.targetAt j i).rollbackStep.toNat]? ≠ some action.id) :
    Alters c j i { c.rollout.targetAt j i with currentAttempt := .nil }
  | step (record : EvidenceRecord) (attempt : Attempt) (h : Applies c record j i attempt)
      (ho : record.outcome = .succeeded)
      (hs : record.Compensates (c.rollout.targetAt j i).state) :
    Alters c j i { c.rollout.targetAt j i with
      rollbackStep := (c.rollout.targetAt j i).rollbackStep + 1 }

/-- Room for one more forward attempt, of the target at `j`, `i`. -/
structure Room (c : Core) (j i : Nat) : Prop where
  current : c.rollout.cursor.toNat = j
  working : c.rollout.state.working = true
  stage : (c.rollout.stageAt j).state.active = true
  noGate : (c.rollout.stageAt j).pendingGate = .nil
  idle : (c.rollout.targetAt j i).state = .pending
  concurrency : (c.rollout.stageAt j).changing < (c.rollout.stageAt j).policy.maxConcurrency.toNat
  perStage : (c.rollout.stageAt j).changing
    < (c.rollout.stageAt j).policy.blastRadius.maxTargetsChangingPerStage.toNat
  overall : c.rollout.changing
    < (c.rollout.stageAt j).policy.blastRadius.maxTargetsChangingGlobal.toNat

/-- The next compensation step of a target is due. -/
structure Due (c : Core) (j i : Nat) (attempt : Attempt) (step : UInt32) : Prop where
  rolling : c.rollout.state = .rollingBack
  target : (c.rollout.targetAt j i).state = .rollingBack
  idle : ∀ a, c.attempts (c.rollout.targetAt j i).currentAttempt = some a →
    (c.rollout.targetAt j i).currentAttempt ≠ .nil → a.finished = true
  step_eq : step = (c.rollout.targetAt j i).rollbackStep + 1
  action : (c.rollout.stageAt j).policy.compensationActions[
    (c.rollout.targetAt j i).rollbackStep.toNat]? = some attempt.action

/-- A fresh attempt for the target at `j`, `i`. -/
structure AttemptFor (c : Core) (j i : Nat) (attempt : Attempt) : Prop where
  rollout : attempt.rollout = c.rollout.id
  generation : attempt.generation = c.rollout.generation
  stage : attempt.stage = (c.rollout.stageAt j).id
  target : attempt.target = (c.rollout.targetAt j i).target
  deadline : attempt.deadline
    = attempt.createdAt.add (c.rollout.stageAt j).policy.attemptDeadline

/-- An attempt as it is minted. -/
structure Minted (attempt : Attempt) : Prop where
  state : attempt.state = .dispatched
  completed : attempt.completed = false
  cancelledEpoch : attempt.cancelledEpoch = 0
  highestSequence : attempt.highestSequence = 0

/-- Two attempts that differ in what was reported about them only. -/
structure Continues (a b : Attempt) : Prop where
  id : b.id = a.id
  rollout : b.rollout = a.rollout
  generation : b.generation = a.generation
  stage : b.stage = a.stage
  target : b.target = a.target
  action : b.action = a.action
  epoch : b.epoch = a.epoch
  cancelledEpoch : b.cancelledEpoch = a.cancelledEpoch
  highestSequence : b.highestSequence = a.highestSequence
  deadline : b.deadline = a.deadline

/-- A stage as a plan declares it, before anything happened to it. -/
structure StageCore.Fresh (s : StageCore) : Prop where
  state : s.state = .pending
  noGate : s.pendingGate = .nil
  kind : s.pendingGateKind.opened = true
  sorted : s.Sorted
  targets : ∀ t ∈ s.targets, t.state = .pending ∧ t.currentAttempt = .nil ∧ t.lastAttempt = .nil
    ∧ t.health = {}

/-- A rollout that may be given a new generation. -/
def RolloutState.over : RolloutState → Bool
  | .failed | .completed => true
  | _ => false

/-! ## Acts -/

inductive Act
  | append (entry : JournalEntry) (epoch : UInt64) (ok landed : Bool)
  | latch
  | enter (next : RolloutState)
  /-- The state a pause is to be resumed into is noted. -/
  | park (previous : RolloutState)
  | stage (j : Nat) (next : StageState)
  /-- A stage found armed by a tick: it is started without looking at its entry gate. -/
  | pickUp (j : Nat) (entryGate : GateMode)
  /-- A gate is opened: the stage is gated, or the storage is given up when it may not be. -/
  | gate (j : Nat) (id : GateId) (kind : GateKind)
  | approve (j : Nat)
  | completing (j : Nat) (stage : StageRuntime) (now : Timestamp) (approved : Bool)
  | weigh (j : Nat) (stage : StageRuntime) (now : Timestamp)
  | finishing (stages : List StageState)
  | skip
  | offer (j i : Nat) (id : AttemptId)
  | dispatch (j i : Nat) (attempt : Attempt) (step : UInt32)
  | assign (j i : Nat) (target : TargetCore) (record : Option EvidenceRecord)
  | alter (j i : Nat) (target : TargetCore)
  | apply (record : EvidenceRecord) (j i : Nat) (attempt : Attempt)
  /-- A health sample. -/
  | observe (record : EvidenceRecord) (now : Timestamp) (j i : Nat)
  | report (id : AttemptId) (new : Attempt)
  | lose (id : AttemptId)
  | cancel (id : AttemptId)
  | evict (id : AttemptId)
  | rebuild (j i : Nat) (attempt : Attempt)
  | regenerate (generation : GenerationId)
  | grow (stage : StageCore)
  | revalidate

namespace Act

/-- What has to hold where an act that is no write is performed. -/
def Guard (env : Env ρ) (c : Core) : Act → Prop
  | append entry _ _ landed => landed = true →
      entry.payload.length ≤ env.limits.maxJournalRecordBytes.toNat
  | latch => True
  | enter next => c.rollout.state.legalTransition next = true
      ∧ (next = .paused → c.rollout.resumeState.canPause = true)
  | park previous => previous.canPause = true
  | stage j next => (c.rollout.stageAt j).state.legalTransition next = true
      ∧ StageEntry env c j next
  | pickUp j entryGate => (c.rollout.stageAt j).state = .armed ∧ c.rollout.cursor.toNat = j
      ∧ c.rollout.state.working = true ∧ (c.rollout.stageAt j).policy.entryGate = entryGate
  | gate j _ kind => c.rollout.cursor.toNat = j ∧ c.failing = none
      ∧ (kind = .stageEntry ∧ (c.rollout.stageAt j).state = .armed
        ∨ (c.rollout.stageAt j).state.active = true ∧ (c.rollout.stageAt j).Terminal
          ∧ ∃ stage now, StopsAt env c j kind stage now)
  | approve j => (c.rollout.stageAt j).pendingGate ≠ .nil
  | completing j s _ approved => s.core = c.rollout.stageAt j
      ∧ (approved = false
        ∨ s.state = .advancing
        ∨ (s.pendingGateKind = .evidence ∨ s.pendingGateKind = .advance)
          ∧ ∃ h, c.history
            = h ++ [.approved c.rollout.id c.rollout.generation s.id s.pendingGateKind])
  | weigh j s _ => s.core = c.rollout.stageAt j
  | finishing stages => c.rollout.state = .rollingBack
      ∧ stages = c.rollout.stages.map StageCore.state
  | skip => (c.rollout.stageAt c.rollout.cursor.toNat).state = .succeeded
      ∨ c.rollout.state.working = true
        ∧ ((c.rollout.stageAt c.rollout.cursor.toNat).state = .rolledBack
          ∨ (c.rollout.stageAt c.rollout.cursor.toNat).state = .skipped)
  | offer .. => True
  | dispatch j i attempt step => AttemptFor c j i attempt ∧ Minted attempt
      ∧ (c.rollout.stageAt j).findTarget attempt.target = some i
      ∧ (c.rollout.targetAt j i).lastAttempt = attempt.id
      ∧ (∃ h, c.history = h ++ [.offered (c.rollout.place j i) attempt.id])
      ∧ (step = 0 ∧ Room c j i ∨ Due c j i attempt step)
  | assign j i target record => Assigns c j i target record
  | alter j i target => Alters c j i target
  | apply record j i attempt => Admits c record j i attempt
  | observe record now j i => (c.rollout.stageAt j).findTarget record.target = some i
      ∧ (admissionFreshness env.limits record now).fresh = true
  | report id new => ∃ old, c.attempts id = some old ∧ Continues old new
      ∧ (new.finished = true ∨ old.finished = false)
  | lose id => (c.attempts id).isSome
  | cancel id => ∃ old, c.attempts id = some old ∧ old.finished = false
  | evict id => ∃ old, c.attempts id = some old ∧ old.finished = true
  | rebuild j i attempt => AttemptFor c j i attempt ∧ Minted attempt
      ∧ (c.rollout.targetAt j i).currentAttempt = attempt.id ∧ attempt.id ≠ .nil
      ∧ (c.rollout.targetAt j i).state.countsAsChanging = true
      ∧ ((c.rollout.targetAt j i).state = .rollingBack →
        (c.rollout.stageAt j).policy.compensationActions[
          (c.rollout.targetAt j i).rollbackStep.toNat]? = some attempt.action)
  | regenerate _ => c.rollout.state.over = true
  | grow s => s.Fresh ∧ c.rollout.cursor = 0
      ∧ (c.rollout.state = .created ∨ c.rollout.state.over = true)
      ∧ ∀ s ∈ c.rollout.stages, s.Fresh
  | revalidate => c.rollout.state.over = true ∧ c.rollout.cursor = 0
      ∧ ∀ s ∈ c.rollout.stages, s.Fresh

/-- What has to hold where a write is performed: nothing is appended once the storage failed, and
the storage is given up for a fault only. -/
def Writable (v : View) : Act → Prop
  | append entry _ ok landed => (v.storageFailed = false ∨ ok = false ∧ landed = false) ∧ entry.Describes v.rollout
  | latch => Fault v
  | _ => True

/-- What the act does. -/
def run (v : View) : Act → View
  | append entry epoch ok landed => v.log (.appended entry epoch ok landed)
  | latch => { v with storageFailed := true }
  | enter next => (v.setRollout { v.rollout with state := next }).log
      (.rolloutEntered v.rollout.id v.rollout.generation next)
  | park previous => v.setRollout { v.rollout with resumeState := previous }
  | stage j next => (v.setRollout (v.rollout.modifyStage j fun s => { s with state := next })).log
      (.stageEntered v.rollout.id v.rollout.generation (v.rollout.stageAt j).id
        (v.rollout.stageAt j).policy next)
  | pickUp j _ => (v.setRollout (v.rollout.modifyStage j fun s => { s with state := .running })).log
      (.stageEntered v.rollout.id v.rollout.generation (v.rollout.stageAt j).id
        (v.rollout.stageAt j).policy .running)
  | gate j id kind =>
    if (v.rollout.stageAt j).state.legalTransition .gated then
      (v.setRollout (v.rollout.modifyStage j fun s =>
        { s with state := .gated, pendingGate := id, pendingGateKind := kind })).log
        (.stageEntered v.rollout.id v.rollout.generation (v.rollout.stageAt j).id
          (v.rollout.stageAt j).policy .gated)
    else { v.setRollout (v.rollout.modifyStage j fun s =>
        { s with pendingGate := id, pendingGateKind := kind }) with storageFailed := true }
  | approve j => (v.setRollout (v.rollout.modifyStage j fun s => { s with pendingGate := .nil })).log
      (.approved v.rollout.id v.rollout.generation (v.rollout.stageAt j).id
        (v.rollout.stageAt j).pendingGateKind)
  | completing _ s now approved => v.log
      (.completing v.rollout.id v.rollout.generation s now approved)
  | weigh _ s now => v.log (.weighed v.rollout.id v.rollout.generation s now)
  | finishing stages => v.log (.finishing v.rollout.id v.rollout.generation stages)
  | skip => v.setRollout { v.rollout with cursor := v.rollout.cursor + 1 }
  | offer j i id => (v.setRollout (v.rollout.modifyTarget j i fun t => { t with
      lastAttempt := id })).log (.offered (v.rollout.place j i) id)
  | dispatch j i attempt step =>
      (((v.setRollout (v.rollout.modifyTarget j i fun t => { t with
        state := if step = 0 then .dispatched else .rollingBack
        epoch := attempt.epoch
        currentAttempt := attempt.id })).log (.dispatched attempt step)).log
        (.entered (v.rollout.place j i) (if step = 0 then .dispatched else .rollingBack) none)
      ).setAttempt attempt.id (some attempt) |>.setFailing none
  | assign j i target record => (v.setRollout (v.rollout.modifyTarget j i fun _ => target)).log
      (.entered (v.rollout.place j i) target.state record)
      |>.setFailing (if target.state = .failed then some (j, i) else none)
  | alter j i target => v.setRollout (v.rollout.modifyTarget j i fun _ => target)
  | apply record j i attempt => (v.log (.applied record attempt v.rollout.generation
      (v.rollout.targetAt j i).currentAttempt)).setAttempt record.attempt (some { attempt with
        highestSequence := record.sequence
        lastEvidenceAt := record.recordedAt
        acceptedEvidence := attempt.acceptedEvidence + 1 })
  | observe record now j i => (v.setRollout (v.rollout.modifyTarget j i fun t => { t with
      health := record.health })).log (.observed (v.rollout.place j i)
      (v.rollout.stageAt j).policy.healthGate record now)
  | report id new => v.setAttempt id (some new)
  | lose id => v.setAttempt id ((v.attempts id).map fun a => { a with state := .unknown })
  | cancel id => (v.setAttempt id ((v.attempts id).map fun a => { a with
      cancelledEpoch := a.epoch })).log (.cancelled id)
  | evict id => v.setAttempt id none
  | rebuild j i attempt => (v.log (.rebuilt attempt (v.rollout.targetAt j i).rollbackStep
      (v.rollout.targetAt j i).state)).setAttempt attempt.id (some attempt)
  | regenerate generation => v.setRollout { v.rollout with generation, cursor := 0, stages := [] }
  | grow s => v.setRollout { v.rollout with stages := v.rollout.stages ++ [s] }
  | revalidate => v.setRollout { v.rollout with state := .validated, resumeState := .validated }

/-- Journal writes, and failing to make them. -/
def isWrite : Act → Bool
  | append .. | latch => true
  | _ => false

/-- What the functions do that the commands share with the tick. -/
def isShared : Act → Bool
  | append .. | latch | stage .. | gate .. | completing .. | skip => true
  | enter next => next != .aborting && next != .paused
  | assign _ _ target none => target.state == .rollingBack
  | _ => false

/-- What a command on a rollout does. -/
def isCommand : Act → Bool
  | approve .. | cancel .. | park .. => true
  | enter next => next != .aborting
  | a => a.isShared

/-- What an abort does: no other command leads to aborting. -/
def isAbort : Act → Bool
  | enter .. => true
  | a => a.isCommand

/-- What a tick does; it may spare the stages whose entry gate is manual from being picked up. -/
def isTick (spare : Bool) : Act → Bool
  | pickUp _ entryGate => !spare || entryGate == .automatic
  | assign _ _ _ record => record.isNone
  | weigh .. | finishing .. | offer .. | dispatch .. | evict .. | report .. => true
  | a => a.isShared

/-- What a tick at this time does to a rollout whose stages are worked on. -/
def isWork (spare : Bool) (now : Timestamp) : Act → Bool
  | dispatch _ _ attempt step => step == 0 && attempt.createdAt == now
  | finishing .. => false
  | a => a.isTick spare

/-- What a tick at this time does to a rollout that is rolled back. -/
def isUndo (now : Timestamp) : Act → Bool
  | append .. | latch | finishing .. | offer .. | evict .. => true
  | dispatch _ _ attempt _ => attempt.createdAt == now
  | enter next => next == .failed
  | stage _ next => next == .rolledBack
  | assign _ _ target none => target.state == .rollbackFailed
  | _ => false

/-- What creates a rollout or gives it a new generation. -/
def isBuild : Act → Bool
  | append .. | latch | regenerate .. | grow .. | revalidate => true
  | enter next => next == .validated
  | _ => false

/-- What evidence and reconciliation do: they never reach a stage or the rollout. -/
def isSettling : Act → Bool
  | append .. | latch | assign .. | alter .. | apply .. | observe .. | report .. | lose .. => true
  | _ => false

end Act

/-- One act of the machine, among those `allowed`. -/
def MachineStep (env : Env ρ) (allowed : Act → Bool) (v v' : View) : Prop :=
  ∃ a : Act, allowed a = true ∧ a.Guard env v.core ∧ a.Writable v ∧ v' = a.run v

/-- From a core, the program performs acts of the machine, leaves a core in `q` when it returns
and a view in `e` when it fails. -/
def Performs {α : Type} (env : Env ρ) (allowed : Act → Bool) (e : View → Prop) (c : Core)
    (m : Op ρ α) (q : α → Core → Prop) : Prop :=
  m.Simulates World.view (MachineStep env allowed) (fun w => w.core = c) (fun a w => q a w.core)
    fun _ w => e w.view

/-! ## Cores under updates -/

@[simp] theorem history_nil : history [] = [] := rfl

@[simp] theorem history_append (s t : List Event) : history (s ++ t) = history s ++ history t :=
  List.filter_append ..

@[simp] theorem history_cons (e : Event) (t : List Event) :
    history (e :: t) = if e.isJournal then history t else e :: history t := by
  cases h : e.isJournal <;> simp [history, h]

@[simp] theorem history_history (t : List Event) : history (history t) = history t := by
  simp [history, List.filter_filter]

theorem mem_history {e : Event} {t : List Event} :
    e ∈ history t ↔ e ∈ t ∧ e.isJournal = false := by simp [history]

namespace Rollout

@[simp] theorem core_stageAt (r : Rollout) (j : Nat) : (r.stageAt j).core = r.core.stageAt j := by
  simp only [stageAt, core, RolloutCore.stageAt, List.getD_eq_getElem?_getD, List.getElem?_map]
  cases r.stages[j]? <;> rfl

@[simp] theorem core_targetAt (r : Rollout) (j i : Nat) :
    (r.targetAt j i).core = r.core.targetAt j i := by
  rw [RolloutCore.targetAt, ← core_stageAt]
  simp only [targetAt, StageRuntime.core, StageCore.targetAt, List.getD_eq_getElem?_getD,
    List.getElem?_map]
  cases (r.stageAt j).targets[i]? <;> rfl

theorem core_modifyStage {f : StageRuntime → StageRuntime} {g : StageCore → StageCore}
    (h : ∀ s, (f s).core = g s.core) (r : Rollout) (j : Nat) :
    (r.modifyStage j f).core = r.core.modifyStage j g := by
  simp only [modifyStage, core, RolloutCore.modifyStage, RolloutCore.mk.injEq, true_and]
  apply List.ext_getElem?
  intro n
  simp only [List.getElem?_map, List.getElem?_modify]
  cases r.stages[n]? with
  | none => simp
  | some s => by_cases hn : j = n <;> simp [hn, h]

theorem core_modifyTarget {f : TargetRuntime → TargetRuntime} {g : TargetCore → TargetCore}
    (h : ∀ t, (f t).core = g t.core) (r : Rollout) (j i : Nat) :
    (r.modifyTarget j i f).core = r.core.modifyTarget j i g := by
  refine core_modifyStage (fun s => ?_) r j
  simp only [StageRuntime.core, StageCore.mk.injEq, true_and]
  apply List.ext_getElem?
  intro n
  simp only [List.getElem?_map, List.getElem?_modify]
  cases s.targets[n]? with
  | none => simp
  | some t => by_cases hn : i = n <;> simp [hn, h]

end Rollout

@[simp] theorem modify_self {α : Type} (l : List α) (i : Nat) : l.modify i (fun a => a) = l :=
  List.modify_id i l

@[simp] theorem modifyStage_self (r : RolloutCore) (j : Nat) :
    r.modifyStage j (fun s => s) = r := by
  simp [RolloutCore.modifyStage]

@[simp] theorem modifyTarget_self (r : RolloutCore) (j i : Nat) :
    r.modifyTarget j i (fun t => t) = r := by
  simp [RolloutCore.modifyTarget]

theorem core_modifyStage_same {f : StageRuntime → StageRuntime} (h : ∀ s, (f s).core = s.core)
    (r : Rollout) (j : Nat) : (r.modifyStage j f).core = r.core := by
  rw [Rollout.core_modifyStage (g := fun s => s) h, modifyStage_self]

theorem core_modifyTarget_same {f : TargetRuntime → TargetRuntime} (h : ∀ t, (f t).core = t.core)
    (r : Rollout) (j i : Nat) : (r.modifyTarget j i f).core = r.core := by
  rw [Rollout.core_modifyTarget (g := fun t => t) h, modifyTarget_self]

@[simp] theorem Rollout.core_place (r : Rollout) (j i : Nat) : r.place j i = r.core.place j i := by
  have hs := core_stageAt r j
  have ht := core_targetAt r j i
  simp only [place, RolloutCore.place, ← hs, ← ht]
  rfl

/-! ## Looking up stages and targets -/

theorem map_modify_same {α β : Type} {g : α → β} {f : α → α} (h : ∀ a, g (f a) = g a)
    (l : List α) (i : Nat) : (l.modify i f).map g = l.map g := by
  apply List.ext_getElem?
  intro n
  simp only [List.getElem?_map, List.getElem?_modify]
  by_cases hn : i = n <;> cases l[n]? <;> simp [hn, h]

theorem StageCore.findTarget_congr {s s' : StageCore}
    (h : s'.targets.map TargetCore.target = s.targets.map TargetCore.target) (id : TargetId) :
    s'.findTarget id = s.findTarget id := by
  have key (s : StageCore) : s.findTarget id =
      let ids := s.targets.map TargetCore.target
      let index := (ids.takeWhile fun t => t < id).length
      match ids[index]? with
      | some t => if t = id then some index else none
      | none => none := by
    simp only [findTarget, List.takeWhile_map, List.length_map, List.getElem?_map,
      Function.comp_def]
    generalize (s.targets.takeWhile fun t => t.target < id).length = index
    cases s.targets[index]? <;> rfl
  rw [key, key, h]

theorem StageCore.findTarget_lt {s : StageCore} {id : TargetId} {i : Nat}
    (h : s.findTarget id = some i) : i < s.targets.length ∧ (s.targetAt i).target = id := by
  simp only [findTarget] at h
  split at h
  · next entry he =>
    split at h
    · next ht =>
      cases h
      refine ⟨(List.getElem?_eq_some_iff.mp he).1, ?_⟩
      simp only [targetAt, List.getD_eq_getElem?_getD, he, Option.getD_some, ht]
    · cases h
  · cases h

/-- `std::lower_bound` finds what is there. -/
theorem StageCore.Sorted.findTarget {s : StageCore} (h : s.Sorted) {i : Nat}
    (hi : i < s.targets.length) : s.findTarget (s.targetAt i).target = some i := by
  have hwalk (targets : List TargetCore) (hs : (targets.map TargetCore.target).Pairwise (· < ·))
      (i : Nat) (hi : i < targets.length) :
      (targets.takeWhile fun t => t.target < targets[i].target).length = i := by
    induction targets generalizing i with
    | nil => exact absurd hi (Nat.not_lt_zero i)
    | cons t rest ih =>
      obtain ⟨hhead, hrest⟩ := List.pairwise_cons.1 hs
      cases i with
      | zero => simp
      | succ i =>
        have hlt : i < rest.length := Nat.lt_of_succ_lt_succ hi
        have := hhead _ (List.mem_map_of_mem (List.getElem_mem hlt))
        simp [this, ih hrest i hlt]
  have hat : s.targetAt i = s.targets[i] := by
    simp [targetAt, hi]
  unfold StageCore.findTarget
  simp only [hat, hwalk s.targets h i hi, List.getElem?_eq_getElem hi, if_true]

theorem StageCore.Sorted.nodup {s : StageCore} (h : s.Sorted) :
    (s.targets.map TargetCore.target).Nodup := h.imp fun hlt => ne_of_lt hlt

theorem StageCore.targetAt_modify (s : StageCore) (i k : Nat) (f : TargetCore → TargetCore) :
    StageCore.targetAt { s with targets := s.targets.modify i f } k
      = if i = k ∧ i < s.targets.length then f (s.targetAt k) else s.targetAt k := by
  simp only [targetAt, List.getD_eq_getElem?_getD, List.getElem?_modify]
  by_cases hk : i = k
  · subst hk
    by_cases hi : i < s.targets.length <;> simp [hi]
  · simp [hk]

theorem RolloutCore.findStage_congr {r r' : RolloutCore}
    (h : r'.stages.map StageCore.id = r.stages.map StageCore.id) (id : StageId) :
    r'.findStage id = r.findStage id := by
  have key (r : RolloutCore) : r.findStage id = (r.stages.map StageCore.id).findIdx? (· == id) := by
    rw [List.findIdx?_map]
    rfl
  rw [key, key, h]

theorem RolloutCore.findStage_lt {r : RolloutCore} {id : StageId} {j : Nat}
    (h : r.findStage id = some j) : j < r.stages.length ∧ (r.stageAt j).id = id := by
  unfold findStage at h
  obtain ⟨hj, hid, -⟩ := List.findIdx?_eq_some_iff_getElem.mp h
  refine ⟨hj, ?_⟩
  simpa [stageAt, hj] using hid

theorem RolloutCore.stageAt_of_le {r : RolloutCore} {j : Nat} (h : r.stages.length ≤ j) :
    r.stageAt j = default := by
  simp [stageAt, h]

theorem RolloutCore.lt_of_findTarget {r : RolloutCore} {id : TargetId} {j i : Nat}
    (h : (r.stageAt j).findTarget id = some i) : j < r.stages.length := by
  by_contra hj
  rw [stageAt_of_le (Nat.le_of_not_lt hj)] at h
  exact absurd (StageCore.findTarget_lt h).1 (Nat.not_lt_zero i)

/-- What is not pending is there. -/
theorem RolloutCore.range_of_state {r : RolloutCore} {j i : Nat}
    (h : (r.targetAt j i).state ≠ .pending) :
    j < r.stages.length ∧ i < (r.stageAt j).targets.length := by
  have hi : i < (r.stageAt j).targets.length := by
    by_contra hi
    refine h ?_
    simp only [targetAt, StageCore.targetAt, List.getD_eq_getElem?_getD,
      List.getElem?_eq_none (Nat.le_of_not_lt hi)]
    rfl
  refine ⟨?_, hi⟩
  by_contra hj
  rw [stageAt_of_le (Nat.le_of_not_lt hj)] at hi
  exact absurd hi (Nat.not_lt_zero i)

namespace RolloutCore

variable (r : RolloutCore) (j i : Nat)

theorem stageAt_modifyStage (f : StageCore → StageCore) (k : Nat) :
    (r.modifyStage j f).stageAt k
      = if j = k ∧ j < r.stages.length then f (r.stageAt k) else r.stageAt k := by
  simp only [stageAt, modifyStage, List.getD_eq_getElem?_getD, List.getElem?_modify]
  by_cases hk : j = k
  · subst hk
    by_cases hj : j < r.stages.length <;> simp [hj]
  · simp [hk]

theorem modifyStage_modifyStage (f g : StageCore → StageCore) :
    (r.modifyStage j f).modifyStage j g = r.modifyStage j fun s => g (f s) := by
  simp only [modifyStage, List.modify_modify_eq]
  rfl

theorem targetAt_modifyTarget (f : TargetCore → TargetCore) (k l : Nat) :
    (r.modifyTarget j i f).targetAt k l
      = if (j = k ∧ i = l) ∧ j < r.stages.length ∧ i < (r.stageAt j).targets.length
        then f (r.targetAt k l) else r.targetAt k l := by
  rw [targetAt, modifyTarget, stageAt_modifyStage, targetAt]
  by_cases hk : j = k
  · subst hk
    by_cases hj : j < r.stages.length
    · simp only [hj, and_self, if_true, true_and, StageCore.targetAt, List.getD_eq_getElem?_getD,
        List.getElem?_modify]
      by_cases hl : i = l
      · subst hl
        by_cases hi : i < (r.stageAt j).targets.length <;> simp [hi]
      · simp [hl]
    · simp [hj]
  · simp [hk]

theorem findStage_modifyStage {f : StageCore → StageCore} (h : ∀ s, (f s).id = s.id)
    (id : StageId) : (r.modifyStage j f).findStage id = r.findStage id :=
  findStage_congr (map_modify_same h r.stages j) id

theorem findStage_modifyTarget (f : TargetCore → TargetCore) (id : StageId) :
    (r.modifyTarget j i f).findStage id = r.findStage id := by
  refine findStage_modifyStage (h := ?_) ..
  exact fun _ => rfl

theorem findTarget_modifyTarget {f : TargetCore → TargetCore} (h : ∀ t, (f t).target = t.target)
    (k : Nat) (id : TargetId) :
    ((r.modifyTarget j i f).stageAt k).findTarget id = (r.stageAt k).findTarget id := by
  refine StageCore.findTarget_congr ?_ id
  rw [modifyTarget, stageAt_modifyStage]
  split
  · exact map_modify_same h _ i
  · rfl

end RolloutCore

end RolloutFabric
