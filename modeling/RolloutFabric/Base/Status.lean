/-
Status codes and results. A `Status` is a code and a diagnostic text; a fallible function
returns the text as well, so that two failures with the same code can be told apart.
-/
import RolloutFabric.Base.Bytes

namespace RolloutFabric

inductive StatusCode
  | ok | invalidArgument | notFound | alreadyExists | conflict | preconditionFailed
  | permissionDenied | resourceExhausted | unavailable | internal | corrupt
  | staleEpoch | staleGeneration | staleAttempt | staleEvidence | staleRevision
  | fenced | notSupported | cancelled | shuttingDown | limitExceeded | policyViolation
  | deadlineExceeded | ioError | locked | immutable | unsupportedGate
deriving DecidableEq, Repr, Inhabited

structure Status where
  code : StatusCode := .ok
  message : Bytes := []
deriving DecidableEq, Repr, Inhabited

namespace Status

def success : Status := {}

def isOk (s : Status) : Bool := s.code == .ok

@[simp] theorem isOk_success : success.isOk = true := rfl

end Status

def makeStatus (code : StatusCode) (message : Bytes) : Status := ⟨code, message⟩

@[simp] theorem makeStatus_isOk (code : StatusCode) (message : Bytes) :
    (makeStatus code message).isOk = (code == .ok) := rfl

/-- `Result<T>`: a value, or the status that explains its absence. -/
abbrev Result (α : Type) := Except Status α

/-- `RF_TRY` of a `Status`: continue on success, return the status otherwise. -/
def Status.toResult (s : Status) : Result Unit := if s.isOk then .ok () else .error s

theorem Status.toResult_of_isOk {s : Status} (h : s.isOk = true) : s.toResult = .ok () := by
  simp [toResult, h]

/-- What is known after `RF_TRY` let the function continue. -/
theorem Status.toResult_bind_ok {α : Type} {s : Status} {f : Unit → Result α} {a : α}
    (h : (s.toResult >>= f) = .ok a) : s.isOk = true ∧ f () = .ok a := by
  unfold toResult at h
  split at h
  · next hs => exact ⟨hs, h⟩
  · cases h

/-- `if (failed) return status`. -/
def failIf (failed : Bool) (s : Status) : Status := if failed then s else .success

@[simp] theorem failIf_false (s : Status) : failIf false s = .success := rfl

/-- The first status that is not a success, the shape of every `validate`. -/
def firstFailure : List Status → Status
  | [] => .success
  | s :: rest => if s.isOk then firstFailure rest else s

theorem firstFailure_isOk (l : List Status) :
    (firstFailure l).isOk = true ↔ ∀ s ∈ l, s.isOk = true := by
  induction l with
  | nil => simp [firstFailure]
  | cons s rest ih =>
    by_cases h : s.isOk = true
    · simp [firstFailure, h, ih]
    · simp [firstFailure, h]

end RolloutFabric
