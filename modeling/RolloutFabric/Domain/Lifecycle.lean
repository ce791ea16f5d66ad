/-
The lifecycle tables of rollouts, stages and targets: which states are terminal, which
transitions are legal, and the names the diagnostics print.
-/
import RolloutFabric.Codec.Wire

namespace RolloutFabric

inductive RolloutState
  | created | validated | armed | running | gated | soaking | advancing | paused
  | aborting | rollingBack | failed | completed | retired
deriving DecidableEq, Repr, Inhabited

inductive StageState
  | pending | blocked | armed | running | gated | soaking | advancing | succeeded
  | failed | aborted | rolledBack | skipped
deriving DecidableEq, Repr, Inhabited

inductive TargetState
  | pending | dispatched | succeeded | failed | cancelled | rollingBack | rolledBack
  | rollbackFailed | exhausted | unknown
deriving DecidableEq, Repr, Inhabited

/-! ## Names and codes -/

def RolloutState.toText : RolloutState → Bytes
  | .created => text "created" | .validated => text "validated" | .armed => text "armed"
  | .running => text "running" | .gated => text "gated" | .soaking => text "soaking"
  | .advancing => text "advancing" | .paused => text "paused" | .aborting => text "aborting"
  | .rollingBack => text "rolling_back" | .failed => text "failed"
  | .completed => text "completed" | .retired => text "retired"

def StageState.toText : StageState → Bytes
  | .pending => text "pending" | .blocked => text "blocked" | .armed => text "armed"
  | .running => text "running" | .gated => text "gated" | .soaking => text "soaking"
  | .advancing => text "advancing" | .succeeded => text "succeeded" | .failed => text "failed"
  | .aborted => text "aborted" | .rolledBack => text "rolled_back" | .skipped => text "skipped"

instance : ByteCoded RolloutState where
  code
    | .created => 0 | .validated => 1 | .armed => 2 | .running => 3 | .gated => 4
    | .soaking => 5 | .advancing => 6 | .paused => 7 | .aborting => 8 | .rollingBack => 9
    | .failed => 10 | .completed => 11 | .retired => 12
  ofCode?
    | 0 => some .created | 1 => some .validated | 2 => some .armed | 3 => some .running
    | 4 => some .gated | 5 => some .soaking | 6 => some .advancing | 7 => some .paused
    | 8 => some .aborting | 9 => some .rollingBack | 10 => some .failed
    | 11 => some .completed | 12 => some .retired | _ => none
  ofCode?_code a := by cases a <;> rfl

instance : ByteCoded StageState where
  code
    | .pending => 0 | .blocked => 1 | .armed => 2 | .running => 3 | .gated => 4
    | .soaking => 5 | .advancing => 6 | .succeeded => 7 | .failed => 8 | .aborted => 9
    | .rolledBack => 10 | .skipped => 11
  ofCode?
    | 0 => some .pending | 1 => some .blocked | 2 => some .armed | 3 => some .running
    | 4 => some .gated | 5 => some .soaking | 6 => some .advancing | 7 => some .succeeded
    | 8 => some .failed | 9 => some .aborted | 10 => some .rolledBack | 11 => some .skipped
    | _ => none
  ofCode?_code a := by cases a <;> rfl

instance : ByteCoded TargetState where
  code
    | .pending => 0 | .dispatched => 1 | .succeeded => 2 | .failed => 3 | .cancelled => 4
    | .rollingBack => 5 | .rolledBack => 6 | .rollbackFailed => 7 | .exhausted => 8
    | .unknown => 9
  ofCode?
    | 0 => some .pending | 1 => some .dispatched | 2 => some .succeeded | 3 => some .failed
    | 4 => some .cancelled | 5 => some .rollingBack | 6 => some .rolledBack
    | 7 => some .rollbackFailed | 8 => some .exhausted | 9 => some .unknown | _ => none
  ofCode?_code a := by cases a <;> rfl

/-! ## Terminal states -/

def RolloutState.isTerminal : RolloutState → Bool
  | .failed | .completed | .retired => true
  | _ => false

def StageState.isTerminal : StageState → Bool
  | .succeeded | .failed | .aborted | .rolledBack | .skipped => true
  | _ => false

def TargetState.isTerminal : TargetState → Bool
  | .succeeded | .failed | .cancelled | .rolledBack | .rollbackFailed | .exhausted => true
  | _ => false

def RolloutState.canPause : RolloutState → Bool
  | .armed | .running | .gated | .soaking | .advancing => true
  | _ => false

/-! ## Legal transitions -/

def RolloutState.legalTransition : RolloutState → RolloutState → Bool
  | .created, .validated | .created, .retired => true
  | .validated, .armed | .validated, .retired => true
  | .armed, .running | .armed, .gated | .armed, .paused | .armed, .aborting
  | .armed, .failed | .armed, .retired => true
  | .running, .gated | .running, .soaking | .running, .advancing | .running, .paused
  | .running, .aborting | .running, .rollingBack | .running, .failed
  | .running, .completed => true
  | .gated, .running | .gated, .advancing | .gated, .paused | .gated, .aborting
  | .gated, .rollingBack | .gated, .failed | .gated, .completed => true
  | .soaking, .running | .soaking, .advancing | .soaking, .gated | .soaking, .paused
  | .soaking, .aborting | .soaking, .rollingBack | .soaking, .failed
  | .soaking, .completed => true
  | .advancing, .running | .advancing, .gated | .advancing, .paused | .advancing, .aborting
  | .advancing, .rollingBack | .advancing, .failed | .advancing, .completed => true
  | .paused, .armed | .paused, .running | .paused, .gated | .paused, .soaking
  | .paused, .advancing | .paused, .aborting | .paused, .rollingBack | .paused, .failed
  | .paused, .retired => true
  | .aborting, .rollingBack | .aborting, .failed | .aborting, .completed
  | .aborting, .retired => true
  | .rollingBack, .failed | .rollingBack, .completed | .rollingBack, .retired => true
  | .failed, .retired => true
  | .completed, .retired => true
  | _, _ => false

def StageState.legalTransition : StageState → StageState → Bool
  | .pending, .blocked | .pending, .armed | .pending, .gated | .pending, .skipped => true
  | .blocked, .armed | .blocked, .aborted | .blocked, .skipped => true
  | .armed, .running | .armed, .gated | .armed, .aborted | .armed, .rolledBack
  | .armed, .skipped => true
  | .running, .gated | .running, .soaking | .running, .advancing | .running, .succeeded
  | .running, .failed | .running, .aborted | .running, .rolledBack => true
  | .gated, .running | .gated, .advancing | .gated, .failed | .gated, .aborted
  | .gated, .rolledBack => true
  | .soaking, .running | .soaking, .advancing | .soaking, .failed | .soaking, .aborted
  | .soaking, .rolledBack => true
  | .advancing, .running | .advancing, .succeeded | .advancing, .failed
  | .advancing, .aborted | .advancing, .rolledBack => true
  | .succeeded, .rolledBack => true
  | .failed, .rolledBack => true
  | .aborted, .rolledBack => true
  | _, _ => false

def TargetState.legalTransition : TargetState → TargetState → Bool
  | .pending, .dispatched | .pending, .cancelled | .pending, .exhausted
  | .pending, .unknown => true
  | .dispatched, .pending | .dispatched, .succeeded | .dispatched, .failed
  | .dispatched, .cancelled | .dispatched, .unknown | .dispatched, .exhausted => true
  | .unknown, .pending | .unknown, .dispatched | .unknown, .succeeded | .unknown, .failed
  | .unknown, .cancelled | .unknown, .exhausted => true
  | .succeeded, .rollingBack => true
  | .failed, .rollingBack | .failed, .exhausted => true
  | .cancelled, .rollingBack | .cancelled, .exhausted => true
  | .rollingBack, .rolledBack | .rollingBack, .rollbackFailed => true
  | _, _ => false

/-- The stages that no legal transition leads from to `rolledBack`: those that never ran. -/
def StageState.neverRan : StageState → Bool
  | .pending | .blocked | .skipped => true
  | _ => false

theorem StageState.legalTransition_rolledBack_iff (s : StageState) :
    (s = .rolledBack ∨ s.legalTransition .rolledBack = true) ↔ s.neverRan = false := by
  cases s <;> simp [legalTransition, neverRan]

end RolloutFabric
