/-
The byte codec. A `ByteWriter` method is the bytes it appends, a `ByteReader` method is a
decoder: a state transformer on the bytes that remain, failing with a status. Multi-byte
integers are little endian; strings and byte vectors carry a 32-bit length.
-/
import RolloutFabric.Base.Status
import RolloutFabric.Base.Time
import RolloutFabric.Base.Ids
import RolloutFabric.Lib.Decoding

namespace RolloutFabric

/-! ## Wide products -/

structure U128 where
  high : UInt64
  low : UInt64
deriving DecidableEq

/-- The full 128-bit product, from 32-bit limbs. -/
def multiplyWide (lhs rhs : UInt64) : U128 :=
  let mask : UInt64 := 0xFFFFFFFF
  let lhsLow := lhs &&& mask
  let lhsHigh := lhs >>> 32
  let rhsLow := rhs &&& mask
  let rhsHigh := rhs >>> 32
  let p0 := lhsLow * rhsLow
  let p1 := lhsLow * rhsHigh
  let p2 := lhsHigh * rhsLow
  let p3 := lhsHigh * rhsHigh
  let middle := (p0 >>> 32) + (p1 &&& mask) + (p2 &&& mask)
  { low := (p0 &&& mask) ||| (middle <<< 32)
    high := p3 + (p1 >>> 32) + (p2 >>> 32) + (middle >>> 32) }

def compareWide (lhs rhs : U128) : Ordering :=
  if lhs.high ≠ rhs.high then (if lhs.high < rhs.high then .lt else .gt)
  else if lhs.low ≠ rhs.low then (if lhs.low < rhs.low then .lt else .gt)
  else .eq

/-- The sign of `lhsA * lhsB - rhsA * rhsB`. -/
def compareProducts (lhsA lhsB rhsA rhsB : UInt64) : Ordering :=
  compareWide (multiplyWide lhsA lhsB) (multiplyWide rhsA rhsB)

/-- `checked_add`: `none` where the sum does not fit. -/
def checkedAdd (lhs rhs : UInt64) : Option UInt64 :=
  if 0xFFFFFFFFFFFFFFFF - rhs < lhs then none else some (lhs + rhs)

/-! ## UTF-8 -/

/-- The class of a lead byte: continuation count, initial code point bits, least code point. -/
def utf8Lead (lead : UInt8) : Option (Nat × UInt32 × UInt32) :=
  if lead &&& 0xE0 = 0xC0 then some (1, (lead &&& 0x1F).toUInt32, 0x80)
  else if lead &&& 0xF0 = 0xE0 then some (2, (lead &&& 0x0F).toUInt32, 0x800)
  else if lead &&& 0xF8 = 0xF0 then some (3, (lead &&& 0x07).toUInt32, 0x10000)
  else none

/-- Folds the continuation bytes into the code point; `none` on a byte that is not one. -/
def utf8Continue (codepoint : UInt32) : Bytes → Option UInt32
  | [] => some codepoint
  | next :: rest =>
    if next &&& 0xC0 ≠ 0x80 then none
    else utf8Continue ((codepoint <<< 6) ||| (next &&& 0x3F).toUInt32) rest

/-- The scan of `is_valid_utf8`; every step consumes at least one byte. -/
def utf8Scan : Nat → Bytes → Bool
  | _, [] => true
  | 0, _ :: _ => false
  | fuel + 1, lead :: rest =>
    if lead < 0x80 then utf8Scan fuel rest
    else match utf8Lead lead with
      | none => false
      | some (continuation, bits, minimum) =>
        if rest.length < continuation then false
        else match utf8Continue bits (rest.take continuation) with
          | none => false
          | some codepoint =>
            if codepoint < minimum then false
            else if 0x10FFFF < codepoint then false
            else if 0xD800 ≤ codepoint ∧ codepoint ≤ 0xDFFF then false
            else utf8Scan fuel (rest.drop continuation)

def isValidUtf8 (t : Bytes) : Bool := utf8Scan t.length t

/-! ## Writing -/

namespace ByteWriter

def u8 (v : UInt8) : Bytes := [v]
def u16 (v : UInt16) : Bytes := [v.toUInt8, (v >>> 8).toUInt8]
def u32 (v : UInt32) : Bytes :=
  [v.toUInt8, (v >>> 8).toUInt8, (v >>> 16).toUInt8, (v >>> 24).toUInt8]
def u64 (v : UInt64) : Bytes :=
  [v.toUInt8, (v >>> 8).toUInt8, (v >>> 16).toUInt8, (v >>> 24).toUInt8,
    (v >>> 32).toUInt8, (v >>> 40).toUInt8, (v >>> 48).toUInt8, (v >>> 56).toUInt8]
def i64 (v : Int64) : Bytes := u64 v.toUInt64
def boolean (v : Bool) : Bytes := u8 (if v then 1 else 0)
def count (n : Nat) : Bytes := u32 n.toUInt32
def bytes (payload : Bytes) : Bytes := count payload.length ++ payload
def string (t : Bytes) : Bytes := count t.length ++ t
def id {tag : IdTag} (v : StrongId tag) : Bytes := v.bytes.data
def digest (v : Digest256) : Bytes := v.data
def timestamp (v : Timestamp) : Bytes := i64 v.nanos
def duration (v : Duration) : Bytes := i64 v.nanos

/-- A count followed by the elements, the encoding of every vector. -/
def vector {α : Type} (encode : α → Bytes) (values : List α) : Bytes :=
  count values.length ++ (values.map encode).flatten

end ByteWriter

/-! ## Reading -/

/-- A `ByteReader` method: the bytes that remain, and a result. -/
abbrev Decoder (α : Type) := StateT Bytes (Except Status) α

namespace ByteReader

def fail {α : Type} (s : Status) : Decoder α := fun _ => .error s

def take (count : Nat) : Decoder Bytes := fun input =>
  if input.length < count then
    .error (makeStatus .corrupt (text "truncated input: requested " ++ toStringNat count
      ++ text " bytes with " ++ toStringNat input.length ++ text " remaining"))
  else .ok (input.take count, input.drop count)

def u8 : Decoder UInt8 := do
  let slice ← take 1
  pure (slice.getD 0 0)

def u16 : Decoder UInt16 := do
  let slice ← take 2
  pure ((slice.getD 0 0).toUInt16 ||| ((slice.getD 1 0).toUInt16 <<< 8))

/-- Little-endian fold of the first four bytes of a slice. -/
def load32 (slice : Bytes) : UInt32 :=
  (slice.getD 0 0).toUInt32 ||| ((slice.getD 1 0).toUInt32 <<< 8)
    ||| ((slice.getD 2 0).toUInt32 <<< 16) ||| ((slice.getD 3 0).toUInt32 <<< 24)

def load64 (slice : Bytes) : UInt64 :=
  (slice.getD 0 0).toUInt64 ||| ((slice.getD 1 0).toUInt64 <<< 8)
    ||| ((slice.getD 2 0).toUInt64 <<< 16) ||| ((slice.getD 3 0).toUInt64 <<< 24)
    ||| ((slice.getD 4 0).toUInt64 <<< 32) ||| ((slice.getD 5 0).toUInt64 <<< 40)
    ||| ((slice.getD 6 0).toUInt64 <<< 48) ||| ((slice.getD 7 0).toUInt64 <<< 56)

def u32 : Decoder UInt32 := do
  let slice ← take 4
  pure (load32 slice)

def u64 : Decoder UInt64 := do
  let slice ← take 8
  pure (load64 slice)

def i64 : Decoder Int64 := do
  let value ← u64
  pure value.toInt64

/-- Stops with `s` unless `condition` holds. -/
def require (condition : Bool) (s : Status) : Decoder Unit :=
  if condition then pure () else fail s

/-- Stops the decoder with the status unless it is a success. -/
def check (s : Status) : Decoder Unit := require s.isOk s

def boolean : Decoder Bool := do
  let value ← u8
  require (value ≤ 1) (makeStatus .corrupt
    (text "invalid boolean encoding: " ++ toStringNat value.toNat))
  pure (value == 1)

def bytes (maxLength : Nat) : Decoder Bytes := do
  let length ← u32
  require (length.toNat ≤ maxLength) (makeStatus .limitExceeded
    (text "declared length " ++ toStringNat length.toNat
      ++ text " exceeds the configured maximum " ++ toStringNat maxLength))
  take length.toNat

def string (maxLength : Nat) : Decoder Bytes := do
  let slice ← bytes maxLength
  require (isValidUtf8 slice) (makeStatus .corrupt (text "string field is not valid UTF-8"))
  pure slice

def id (tag : IdTag) : Decoder (StrongId tag) := do
  let slice ← take 16
  pure ⟨.ofBytes 16 slice⟩

def digest : Decoder Digest256 := do
  let slice ← take 32
  pure (.ofBytes 32 slice)

def expectEnd : Decoder Unit := fun input =>
  if input.isEmpty then .ok ((), input)
  else .error (makeStatus .corrupt
    (toStringNat input.length ++ text " trailing byte(s) after the final field"))

end ByteReader

/-! ## Decoding helpers -/

/-- Every `dc_*` helper: the failure of `d` is reported under the name of the field. -/
def dcField {α : Type} (field : Bytes) (d : Decoder α) : Decoder α := fun input =>
  match d input with
  | .ok r => .ok r
  | .error s => .error (makeStatus s.code (field ++ text ": " ++ s.message))

def dcU8 (field : Bytes) : Decoder UInt8 := dcField field ByteReader.u8
def dcU32 (field : Bytes) : Decoder UInt32 := dcField field ByteReader.u32
def dcU64 (field : Bytes) : Decoder UInt64 := dcField field ByteReader.u64
def dcI64 (field : Bytes) : Decoder Int64 := dcField field ByteReader.i64
def dcBool (field : Bytes) : Decoder Bool := dcField field ByteReader.boolean
def dcString (field : Bytes) (maxLength : Nat) : Decoder Bytes :=
  dcField field (ByteReader.string maxLength)
def dcBytes (field : Bytes) (maxLength : Nat) : Decoder Bytes :=
  dcField field (ByteReader.bytes maxLength)
def dcDigest (field : Bytes) : Decoder Digest256 := dcField field ByteReader.digest
def dcId (tag : IdTag) (field : Bytes) : Decoder (StrongId tag) :=
  dcField field (ByteReader.id tag)
def dcTimestamp (field : Bytes) : Decoder Timestamp := do
  let nanos ← dcI64 field
  pure ⟨nanos⟩
def dcDuration (field : Bytes) : Decoder Duration := do
  let nanos ← dcI64 field
  pure ⟨nanos⟩

/-- Runs `d` `n` times, the loop of every vector decoder. -/
def readN {α : Type} (n : Nat) (d : Decoder α) : Decoder (List α) := Decoding.repeatN n d

/-- The status of a count above its bound in `dc_id_vector` and `dc_string_vector`. -/
def countExceeded (field : Bytes) (count maxCount : Nat) : Status :=
  makeStatus .limitExceeded (field ++ text ": declared count " ++ toStringNat count
    ++ text " exceeds the maximum " ++ toStringNat maxCount)

/-- A count no larger than `maxCount`, then that many elements. -/
def dcVector {α : Type} (field : Bytes) (maxCount : Nat) (tooMany : Nat → Status)
    (element : Decoder α) : Decoder (List α) := do
  let count ← dcU32 field
  ByteReader.require (count.toNat ≤ maxCount) (tooMany count.toNat)
  readN count.toNat element

def dcIdVector (tag : IdTag) (field : Bytes) (maxCount : Nat) : Decoder (List (StrongId tag)) :=
  dcVector field maxCount (fun n => countExceeded field n maxCount) (dcId tag field)

def dcStringVector (field : Bytes) (maxCount maxLength : Nat) : Decoder (List Bytes) :=
  dcVector field maxCount (fun n => countExceeded field n maxCount) (dcString field maxLength)

/-! ## Enumerations -/

/-- An enumeration stored as one byte. -/
class ByteCoded (α : Type) where
  code : α → UInt8
  ofCode? : UInt8 → Option α
  ofCode?_code : ∀ a : α, ofCode? (code a) = some a

/-- One byte that must name an enumerator; any other byte is answered with `unknown`. -/
def dcEnum {α : Type} [ByteCoded α] (byte : Decoder UInt8) (unknown : UInt8 → Status) :
    Decoder α := do
  let value ← byte
  match ByteCoded.ofCode? value with
  | some a => pure a
  | none => ByteReader.fail (unknown value)

end RolloutFabric
