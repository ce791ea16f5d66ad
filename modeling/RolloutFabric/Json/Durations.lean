/-
Durations in plan documents: a member in milliseconds is scaled to nanoseconds, and refused where
that has no 64-bit value.
-/
import RolloutFabric.Base.Instants
import RolloutFabric.Json.Text

namespace RolloutFabric

/-! ## Members -/

namespace JsonValue

/-- `find`: only an object has members. -/
def find (key : Bytes) : JsonValue → Option JsonValue
  | .object members => (members.find? fun member => member.1 == key).map Prod.snd
  | _ => none

def typeError (path expected : Bytes) : Bytes :=
  (if path.isEmpty then [] else path ++ text ": ") ++ text "expected " ++ expected

def requireInteger (path : Bytes) : JsonValue → Result Int64
  | .number value => .ok value
  | _ => .error (makeStatus .invalidArgument (typeError path (text "an integer")))

end JsonValue

def joinPath (parent key : Bytes) : Bytes :=
  if parent.isEmpty then key else parent ++ text "." ++ key

/-! ## Milliseconds -/

def kMaxMillis : Int64 := Int64.maxValue / 1000000

def assignMillis (value : JsonValue) (path : Bytes) : Result Duration := do
  let number ← value.requireInteger path
  if kMaxMillis < number ∨ number < -kMaxMillis then
    throw (makeStatus .invalidArgument
      (path ++ text ": duration is out of range at millisecond precision"))
  return .fromMillis number

/-- What was there before stays where the document says nothing. -/
def readOptionalMillis (object : JsonValue) (key parent : Bytes) (out : Duration) :
    Result Duration :=
  match object.find key with
  | none => .ok out
  | some member => assignMillis member (joinPath parent key)

/-- The nanoseconds that a document asks for in a member, over the integers. -/
def JsonValue.askedNanos (object : JsonValue) (key : Bytes) (out : Duration) : Int :=
  match object.find key with
  | some (.number millis) => millis.toInt * 1000000
  | _ => out.nanos.toInt

variable {object value : JsonValue} {key parent path : Bytes} {out d : Duration}

/-- An accepted number of milliseconds is scaled without an overflow. -/
theorem assignMillis_exact (h : assignMillis value path = .ok d) :
    ∃ millis : Int64, value = .number millis ∧ d.nanos.toInt = millis.toInt * 1000000
      ∧ -9223372036854 ≤ millis.toInt ∧ millis.toInt ≤ 9223372036854 := by
  cases value with
  | number millis =>
    change (if kMaxMillis < millis ∨ millis < -kMaxMillis then _ else _) = _ at h
    split at h
    · cases h
    next hrange =>
    rw [not_or, Int64.not_lt, Int64.not_lt, Int64.le_iff_toInt_le, Int64.le_iff_toInt_le] at hrange
    have hmax : kMaxMillis.toInt = 9223372036854 := by decide
    have hmin : (-kMaxMillis).toInt = -9223372036854 := by decide
    rw [hmax, hmin] at hrange
    cases h
    refine ⟨millis, rfl, ?_, hrange.2, hrange.1⟩
    show (millis * 1000000).toInt = _
    rw [Int64.toInt_mul]
    exact Int.bmod_eq_of_le (by show -(2 ^ 64 / 2) ≤ millis.toInt * 1000000; omega)
      (by show millis.toInt * 1000000 < (2 ^ 64 + 1) / 2; omega)
  | _ => cases h

theorem readOptionalMillis_exact (h : readOptionalMillis object key parent out = .ok d) :
    d.nanos.toInt = object.askedNanos key out := by
  unfold readOptionalMillis at h
  unfold JsonValue.askedNanos
  split at h
  · next hnone =>
    cases h
    rw [hnone]
  · next member hsome =>
    obtain ⟨millis, rfl, hexact, -⟩ := assignMillis_exact h
    rw [hsome, hexact]

end RolloutFabric
