/-
The bounded reads of the document loaders: every value is range checked where it is read, and a
refusal names the path it was found at.
-/
import RolloutFabric.Document.Words
import RolloutFabric.Json.Durations

namespace RolloutFabric

/-! ## Typed accessors -/

namespace JsonValue

def members : JsonValue → List (Bytes × JsonValue)
  | .object members => members
  | _ => []

def requireString (path : Bytes) : JsonValue → Result Bytes
  | .string value => .ok value
  | _ => .error (makeStatus .invalidArgument (typeError path (text "a string")))

def requireBool (path : Bytes) : JsonValue → Result Bool
  | .bool value => .ok value
  | _ => .error (makeStatus .invalidArgument (typeError path (text "a boolean")))

/-- The object itself. -/
def requireObject (path : Bytes) : JsonValue → Result JsonValue
  | .object members => .ok (.object members)
  | _ => .error (makeStatus .invalidArgument (typeError path (text "an object")))

/-- The items of the array. -/
def requireArray (path : Bytes) : JsonValue → Result (List JsonValue)
  | .array items => .ok items
  | _ => .error (makeStatus .invalidArgument (typeError path (text "an array")))

def optionalString (path fallback : Bytes) : JsonValue → Result Bytes
  | .null => .ok fallback
  | value => value.requireString path

end JsonValue

def indexPath (parent : Bytes) (index : Nat) : Bytes :=
  parent ++ text "[" ++ toStringNat index ++ text "]"

/-! ## Members -/

def checkCount (count maxCount : Nat) (path what : Bytes) : Status :=
  if maxCount < count then
    makeStatus .limitExceeded (path ++ text " declares " ++ toStringNat count ++ text " " ++ what
      ++ text ", above the maximum of " ++ toStringNat maxCount)
  else .success

def requireMember (object : JsonValue) (key parent : Bytes) : Result JsonValue :=
  match object.find key with
  | none => .error (makeStatus .invalidArgument (joinPath parent key ++ text " is required"))
  | some member => .ok member

section
variable {α : Type} (read : JsonValue → Bytes → Result α)

/-- A member that must be there. -/
def readRequired (object : JsonValue) (key parent : Bytes) : Result α := do
  let member ← requireMember object key parent
  read member (joinPath parent key)

/-- A member that may be missing; what was there before stays then. -/
def readOptional (object : JsonValue) (key parent : Bytes) (out : α) : Result α :=
  match object.find key with
  | none => .ok out
  | some member => read member (joinPath parent key)

/-- The loop over the items of an array, from `index` on. -/
def readItems (path : Bytes) : Nat → List JsonValue → Result (List α)
  | _, [] => .ok []
  | index, item :: rest => do
    let value ← read item (indexPath path index)
    let values ← readItems path (index + 1) rest
    return value :: values

/-- An array of at most that many items, each of them read under its index. -/
def readList (maxCount : Nat) (what : Bytes) (value : JsonValue) (path : Bytes) :
    Result (List α) := do
  let items ← value.requireArray path
  (checkCount items.length maxCount path what).toResult
  readItems read path 0 items

end

def readRequiredString : JsonValue → Bytes → Bytes → Result Bytes :=
  readRequired fun value path => value.requireString path

def readRequiredInteger : JsonValue → Bytes → Bytes → Result Int64 :=
  readRequired fun value path => value.requireInteger path

def readOptionalString (object : JsonValue) (key parent fallback : Bytes) : Result Bytes :=
  readOptional (fun value path => value.optionalString path fallback) object key parent fallback

def readOptionalBool : JsonValue → Bytes → Bytes → Bool → Result Bool :=
  readOptional fun value path => value.requireBool path

def readRequiredObject : JsonValue → Bytes → Bytes → Result JsonValue :=
  readRequired fun value path => value.requireObject path

/-! ## Numbers -/

def assignU32 (value : JsonValue) (path : Bytes) : Result UInt32 := do
  let number ← value.requireInteger path
  if number < 0 ∨ 4294967295 < number then
    throw (makeStatus .invalidArgument (path ++ text ": value " ++ toStringInt number.toInt
      ++ text " is outside the range of an unsigned 32-bit integer"))
  return UInt32.ofNat number.toInt.toNat

def readRequiredU32 : JsonValue → Bytes → Bytes → Result UInt32 := readRequired assignU32

def readOptionalU32 : JsonValue → Bytes → Bytes → UInt32 → Result UInt32 := readOptional assignU32

/-! ## Identifiers, digests and enumerations -/

def assignId {tag : IdTag} (value : JsonValue) (path : Bytes) : Result (StrongId tag) := do
  let t ← value.requireString path
  match StrongId.parse t with
  | none => throw (makeStatus .invalidArgument
      (path ++ text ": expected 32 hexadecimal characters"))
  | some id => return id

def readOptionalId {tag : IdTag} :
    JsonValue → Bytes → Bytes → StrongId tag → Result (StrongId tag) :=
  readOptional assignId

def assignDigest (value : JsonValue) (path : Bytes) : Result Digest256 := do
  let t ← value.requireString path
  match parseHex 32 t with
  | none => throw (makeStatus .invalidArgument
      (path ++ text ": expected 64 hexadecimal characters naming a SHA-256 digest"))
  | some digest => return digest

def readRequiredDigest : JsonValue → Bytes → Bytes → Result Digest256 := readRequired assignDigest

def assignEnum {α : Type} (expected : Bytes) (parse : Bytes → Option α) (value : JsonValue)
    (path : Bytes) : Result α := do
  let t ← value.requireString path
  match parse t with
  | none => throw (makeStatus .invalidArgument
      (path ++ text ": expected " ++ expected ++ text ", found " ++ jsonQuoted t))
  | some parsed => return parsed

def readRequiredEnum {α : Type} (object : JsonValue) (key parent expected : Bytes)
    (parse : Bytes → Option α) : Result α :=
  readRequired (assignEnum expected parse) object key parent

def readOptionalEnum {α : Type} (object : JsonValue) (key parent expected : Bytes)
    (parse : Bytes → Option α) (out : α) : Result α :=
  readOptional (assignEnum expected parse) object key parent out

/-! ## Ratios -/

/-- The loop of `parse_u32_text` over the characters of `whole`. -/
def parseU32Digits (whole path : Bytes) : Nat → Bytes → Result UInt32
  | value, [] => .ok (UInt32.ofNat value)
  | value, character :: rest =>
    if isDigit character then
      let value := value * 10 + digitValue character
      if 4294967295 < value then
        .error (makeStatus .invalidArgument
          (path ++ text ": value is outside the range of an unsigned 32-bit integer"))
      else parseU32Digits whole path value rest
    else .error (makeStatus .invalidArgument
      (path ++ text ": expected a decimal integer, found " ++ jsonQuoted whole))

def parseU32Text (t path : Bytes) : Result UInt32 :=
  if t.isEmpty then
    .error (makeStatus .invalidArgument (path ++ text ": expected a decimal integer"))
  else parseU32Digits t path 0 t

/-- Either `"2/3"` or an object with the two numbers. -/
def parseRatio (value : JsonValue) (path : Bytes) : Result Ratio :=
  match value with
  | .string t =>
    let notRatio := makeStatus .invalidArgument
      (path ++ text ": expected a ratio written as \"numerator/denominator\"")
    match t.findIdx? fun c => c == 47 with
    | none => .error notRatio
    | some slash => do
      let behind := t.drop (slash + 1)
      if behind.contains 47 then throw notRatio
      let numerator ← parseU32Text (t.take slash) (path ++ text ".numerator")
      let denominator ← parseU32Text behind (path ++ text ".denominator")
      return ratio numerator denominator
  | .object members => do
    let numerator ← readRequiredU32 (.object members) (text "numerator") path
    let denominator ← readRequiredU32 (.object members) (text "denominator") path
    return ratio numerator denominator
  | _ => .error (makeStatus .invalidArgument (path
      ++ text ": expected a ratio such as \"2/3\" or an object with numerator and denominator"))

def readOptionalRatio : JsonValue → Bytes → Bytes → Ratio → Result Ratio := readOptional parseRatio

/-! ## Lists -/

/-- An entry of a list of strings. -/
def readEntry (maxBytes : Nat) (value : JsonValue) (path : Bytes) : Result Bytes := do
  let entry ← value.requireString path
  if maxBytes < entry.length then
    throw (makeStatus .limitExceeded (path ++ text " is " ++ toStringNat entry.length
      ++ text " bytes, above the maximum of " ++ toStringNat maxBytes))
  return entry

def readOptionalStringList (object : JsonValue) (key parent : Bytes) (maxCount maxBytes : Nat) :
    Result (List Bytes) :=
  readOptional (readList (readEntry maxBytes) maxCount (text "entries")) object key parent []

def readOptionalIdList {tag : IdTag} (object : JsonValue) (key parent : Bytes)
    (limits : RuntimeLimits) : Result (List (StrongId tag)) :=
  readOptional (readList assignId limits.maxSelectorTerms.toNat (text "entries")) object key parent []

end RolloutFabric
