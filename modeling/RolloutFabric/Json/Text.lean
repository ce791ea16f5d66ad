/-
JSON values and their text: the bounded reader of upstream documents and the writer.
-/
import RolloutFabric.Base.Digits
import RolloutFabric.Domain.Limits

namespace RolloutFabric

/-! ## Values -/

inductive JsonValue
  | null
  | bool (value : Bool)
  | number (value : Int64)
  | string (value : Bytes)
  | array (items : List JsonValue)
  | object (members : List (Bytes × JsonValue))

instance : Inhabited JsonValue := ⟨.null⟩

def kMaxJsonDepth : Nat := 32
def kMaxJsonMembers : Nat := 4096
def kMaxJsonElements : Nat := 65536
def kMaxJsonStringBytes : Nat := 8192

namespace JsonValue

/-- A member of that key gets the value, or there is a new one behind the others. -/
def setMember (members : List (Bytes × JsonValue)) (key : Bytes) (value : JsonValue) :
    List (Bytes × JsonValue) :=
  match members with
  | [] => [(key, value)]
  | (k, v) :: rest => if k = key then (k, value) :: rest else (k, v) :: setMember rest key value

/-- `push_back`: what was not an array becomes one. -/
def pushBack : JsonValue → JsonValue → JsonValue
  | .array items, value => .array (items ++ [value])
  | _, value => .array [value]

/-- `set`: what was not an object becomes one. -/
def set : JsonValue → Bytes → JsonValue → JsonValue
  | .object members, key, value => .object (setMember members key value)
  | _, key, value => .object [(key, value)]

/-- The values that the constructors and the two mutators build. -/
inductive Built : JsonValue → Prop
  | null : Built .null
  | bool (value : Bool) : Built (.bool value)
  | number (value : Int64) : Built (.number value)
  | string (value : Bytes) : Built (.string value)
  | array : Built (.array [])
  | object : Built (.object [])
  | pushBack {v value : JsonValue} (hv : Built v) (hvalue : Built value) : Built (v.pushBack value)
  | set {v value : JsonValue} (hv : Built v) (key : Bytes) (hvalue : Built value) :
      Built (v.set key value)

end JsonValue

/-! ## Reading

Every function takes what is left of the text; `size` is the length of the whole text, so that
an error can name its position. -/

def jsonSyntaxError (size : Nat) (rest message : Bytes) : Status :=
  makeStatus .invalidArgument
    (message ++ text " at byte " ++ toStringNat (size - rest.length))

def jsonQuoted (t : Bytes) : Bytes := text "'" ++ t ++ text "'"

def isJsonSpace (c : UInt8) : Bool := c == 32 || c == 9 || c == 10 || c == 13

def skipWhitespace (rest : Bytes) : Bytes := rest.dropWhile isJsonSpace

def hexValue (c : UInt8) : Option Nat :=
  if 48 ≤ c ∧ c ≤ 57 then some (c.toNat - 48)
  else if 97 ≤ c ∧ c ≤ 102 then some (10 + (c.toNat - 97))
  else if 65 ≤ c ∧ c ≤ 70 then some (10 + (c.toNat - 65))
  else none

/-- `append_utf8`: the bytes of one code point. -/
def utf8Bytes (codepoint : Nat) : Bytes :=
  if codepoint ≤ 0x7F then [codepoint.toUInt8]
  else if codepoint ≤ 0x7FF then
    [(0xC0 ||| codepoint >>> 6).toUInt8, (0x80 ||| codepoint &&& 0x3F).toUInt8]
  else if codepoint ≤ 0xFFFF then
    [(0xE0 ||| codepoint >>> 12).toUInt8, (0x80 ||| (codepoint >>> 6) &&& 0x3F).toUInt8,
      (0x80 ||| codepoint &&& 0x3F).toUInt8]
  else [(0xF0 ||| codepoint >>> 18).toUInt8, (0x80 ||| (codepoint >>> 12) &&& 0x3F).toUInt8,
    (0x80 ||| (codepoint >>> 6) &&& 0x3F).toUInt8, (0x80 ||| codepoint &&& 0x3F).toUInt8]

section
variable (size : Nat)

def parseLiteral (literal : Bytes) (value : JsonValue) (rest : Bytes) :
    Result (JsonValue × Bytes) :=
  if rest.length < literal.length ∨ rest.take literal.length ≠ literal then
    .error (jsonSyntaxError size rest (text "expected " ++ jsonQuoted literal))
  else .ok (value, rest.drop literal.length)

/-- The loop over the digits; the guard keeps the magnitude below 2^64. -/
def parseMagnitude : Nat → Bytes → Result (Nat × Bytes)
  | magnitude, [] => .ok (magnitude, [])
  | magnitude, c :: rest =>
    if isDigit c then
      if (0xFFFFFFFFFFFFFFFF - digitValue c) / 10 < magnitude then
        .error (jsonSyntaxError size (c :: rest) (text "number does not fit in a 64-bit integer"))
      else parseMagnitude (magnitude * 10 + digitValue c) rest
    else .ok (magnitude, c :: rest)

def parseNumber (rest : Bytes) : Result (JsonValue × Bytes) := do
  let negative := rest.head? == some 45
  let digits := if negative then rest.tail else rest
  if negative && !(digits.head?.any isDigit) then
    throw (jsonSyntaxError size digits (text "a '-' sign must be followed by a digit"))
  let (magnitude, after) ← parseMagnitude size 0 digits
  if 1 < digits.length - after.length ∧ digits.head? = some 48 then
    throw (jsonSyntaxError size after (text "leading zeros are not allowed in a JSON number"))
  if after.head?.any fun c => c == 46 || c == 101 || c == 69 then
    throw (jsonSyntaxError size after
      (text "a number must be an integer; fractions and exponents are not accepted"))
  let limit := if negative then 9223372036854775808 else 9223372036854775807
  if limit < magnitude then
    throw (jsonSyntaxError size after (text "number does not fit in a signed 64-bit integer"))
  if !negative then return (.number (Int64.ofNat magnitude), after)
  if magnitude = 9223372036854775808 then return (.number Int64.minValue, after)
  return (.number (-(Int64.ofNat magnitude)), after)

def parseHex4 (rest : Bytes) : Result (Nat × Bytes) :=
  if rest.length < 4 then
    .error (jsonSyntaxError size rest (text "a \\u escape requires four hexadecimal digits"))
  else match (rest.take 4).foldlM
      (fun value c => (hexValue c).map fun digit => value * 16 + digit) 0 with
    | none =>
      .error (jsonSyntaxError size rest (text "a \\u escape requires four hexadecimal digits"))
    | some value => .ok (value, rest.drop 4)

/-- The escape `\u`: one unit, or the two of a surrogate pair. -/
def parseUnicode (rest : Bytes) : Result (Bytes × Bytes) := do
  let (unit, rest) ← parseHex4 size rest
  if 0xD800 ≤ unit ∧ unit ≤ 0xDBFF then
    if rest.take 2 ≠ [92, 117] then
      throw (jsonSyntaxError size rest
        (text "a high surrogate escape must be followed by a low surrogate escape"))
    let (low, rest) ← parseHex4 size (rest.drop 2)
    if low < 0xDC00 ∨ 0xDFFF < low then
      throw (jsonSyntaxError size rest
        (text "a high surrogate escape is not followed by a low surrogate escape"))
    return (utf8Bytes (0x10000 + (unit - 0xD800) <<< 10 + (low - 0xDC00)), rest)
  if 0xDC00 ≤ unit ∧ unit ≤ 0xDFFF then
    throw (jsonSyntaxError size rest
      (text "a lone low surrogate escape does not encode a character"))
  return (utf8Bytes unit, rest)

/-- What follows a backslash. -/
def parseEscape : Bytes → Result (Bytes × Bytes)
  | [] => .error (jsonSyntaxError size [] (text "unterminated escape sequence"))
  | 34 :: rest => .ok ([34], rest)
  | 92 :: rest => .ok ([92], rest)
  | 47 :: rest => .ok ([47], rest)
  | 98 :: rest => .ok ([8], rest)
  | 102 :: rest => .ok ([12], rest)
  | 110 :: rest => .ok ([10], rest)
  | 114 :: rest => .ok ([13], rest)
  | 116 :: rest => .ok ([9], rest)
  | 117 :: rest => parseUnicode size rest
  | escape :: rest => .error (jsonSyntaxError size rest
      (text "invalid escape sequence " ++ jsonQuoted [92, escape]))

/-- The loop of `parse_string`; every iteration reads a byte, so the length of the text is fuel
enough. -/
def parseChars : Nat → Bytes → Bytes → Result (Bytes × Bytes)
  | _, _, [] => .error (jsonSyntaxError size [] (text "unterminated string"))
  | 0, _, rest => .error (jsonSyntaxError size rest (text "unterminated string"))
  | fuel + 1, out, c :: rest => do
    if c = 34 then return (out, rest)
    if c < 0x20 then
      throw (jsonSyntaxError size (c :: rest)
        (text "a string contains an unescaped control character"))
    let (piece, rest) ← if c ≠ 92 then pure ([c], rest) else parseEscape size rest
    let out := out ++ piece
    if kMaxJsonStringBytes < out.length then
      throw (makeStatus .limitExceeded (text "a string exceeds the maximum of "
        ++ toStringNat kMaxJsonStringBytes ++ text " bytes"))
    parseChars fuel out rest

/-- `parse_string`, from the opening quote on. -/
def parseString (rest : Bytes) : Result (Bytes × Bytes) := parseChars size rest.length [] rest.tail

/-- A key with its colon, which is new to the object. -/
def parseKey (members : List (Bytes × JsonValue)) (rest : Bytes) : Result (Bytes × Bytes) := do
  let rest := skipWhitespace rest
  if rest.isEmpty then throw (jsonSyntaxError size rest (text "unterminated object"))
  if rest.head? ≠ some 34 then
    throw (jsonSyntaxError size rest (text "expected a string key inside an object"))
  let (key, rest) ← parseString size rest
  let rest := skipWhitespace rest
  if rest.head? ≠ some 58 then
    throw (jsonSyntaxError size rest
      (text "expected ':' after the object key " ++ jsonQuoted key))
  let rest := rest.tail
  if members.any fun member => member.1 == key then
    throw (jsonSyntaxError size rest (text "duplicate object key " ++ jsonQuoted key))
  return (key, rest)

variable (parseNested : Bytes → Result (JsonValue × Bytes))

/-- The loop of `parse_object`, with room for that many more members. -/
def parseMembers : Nat → List (Bytes × JsonValue) → Bytes → Result (JsonValue × Bytes)
  | 0, members, rest => do
    let _ ← parseKey size members rest
    throw (makeStatus .limitExceeded (text "an object exceeds the maximum of "
      ++ toStringNat kMaxJsonMembers ++ text " members"))
  | room + 1, members, rest => do
    let (key, rest) ← parseKey size members rest
    let (value, rest) ← parseNested (skipWhitespace rest)
    let members := JsonValue.setMember members key value
    match skipWhitespace rest with
    | [] => throw (jsonSyntaxError size [] (text "unterminated object"))
    | 44 :: rest => parseMembers room members rest
    | 125 :: rest => return (.object members, rest)
    | rest => throw (jsonSyntaxError size rest (text "expected ',' or '\x7d' inside an object"))

/-- `parse_object`, from behind the brace on. -/
def parseObject (rest : Bytes) : Result (JsonValue × Bytes) :=
  match skipWhitespace rest with
  | 125 :: rest => .ok (.object [], rest)
  | rest => parseMembers size parseNested kMaxJsonMembers [] rest

/-- The loop of `parse_array`, with room for that many more elements. -/
def parseElements : Nat → List JsonValue → Bytes → Result (JsonValue × Bytes)
  | 0, _, _ => .error (makeStatus .limitExceeded (text "an array exceeds the maximum of "
      ++ toStringNat kMaxJsonElements ++ text " elements"))
  | room + 1, items, rest => do
    let (value, rest) ← parseNested (skipWhitespace rest)
    let items := items ++ [value]
    match skipWhitespace rest with
    | [] => throw (jsonSyntaxError size [] (text "unterminated array"))
    | 44 :: rest => parseElements room items rest
    | 93 :: rest => return (.array items, rest)
    | rest => throw (jsonSyntaxError size rest (text "expected ',' or ']' inside an array"))

/-- `parse_array`, from behind the bracket on. -/
def parseArray (rest : Bytes) : Result (JsonValue × Bytes) :=
  match skipWhitespace rest with
  | 93 :: rest => .ok (.array [], rest)
  | rest => parseElements size parseNested kMaxJsonElements [] rest

/-- `parse_value` with that many levels of nesting left. -/
def parseValue : Nat → Bytes → Result (JsonValue × Bytes)
  | 0, _ => .error (makeStatus .limitExceeded
      (text "nesting exceeds the maximum depth of " ++ toStringNat kMaxJsonDepth))
  | _ + 1, [] =>
    .error (jsonSyntaxError size [] (text "unexpected end of input where a value was expected"))
  | levels + 1, c :: rest =>
    if c = 123 then parseObject size (parseValue levels) rest
    else if c = 91 then parseArray size (parseValue levels) rest
    else if c = 34 then (parseString size (c :: rest)).map fun read => (.string read.1, read.2)
    else if c = 116 then parseLiteral size (text "true") (.bool true) (c :: rest)
    else if c = 102 then parseLiteral size (text "false") (.bool false) (c :: rest)
    else if c = 110 then parseLiteral size (text "null") .null (c :: rest)
    else if c = 78 then .error (jsonSyntaxError size (c :: rest) (text "NaN is not a JSON number"))
    else if c = 73 then
      .error (jsonSyntaxError size (c :: rest) (text "Infinity is not a JSON number"))
    else if c = 43 then .error (jsonSyntaxError size (c :: rest)
      (text "a leading '+' is not valid JSON; a number carries a leading '-' only"))
    else if c = 46 then
      .error (jsonSyntaxError size (c :: rest) (text "a bare '.' is not a JSON number"))
    else if c = 45 ∨ isDigit c then parseNumber size (c :: rest)
    else .error (jsonSyntaxError size (c :: rest)
      (text "unexpected character " ++ jsonQuoted [c] ++ text " where a value was expected"))

end

/-- `parse_json`. -/
def parseJson (t : Bytes) (limits : RuntimeLimits) : Result JsonValue := do
  if limits.maxDocumentBytes.toNat < t.length then
    throw (makeStatus .limitExceeded (text "the document is " ++ toStringNat t.length
      ++ text " bytes, above the configured maximum of "
      ++ toStringNat limits.maxDocumentBytes.toNat))
  -- the top-level value is at depth zero
  let (value, rest) ← parseValue t.length (kMaxJsonDepth + 1) (skipWhitespace t)
  let rest := skipWhitespace rest
  if !rest.isEmpty then
    throw (jsonSyntaxError t.length rest (text "trailing content after the top-level value"))
  return value

/-! ## Writing -/

def escapeChar (c : UInt8) : Bytes :=
  if c = 34 then [92, 34]
  else if c = 92 then [92, 92]
  else if c = 8 then [92, 98]
  else if c = 12 then [92, 102]
  else if c = 10 then [92, 110]
  else if c = 13 then [92, 114]
  else if c = 9 then [92, 116]
  else if c < 0x20 then [92, 117, 48, 48, hexDigit (c >>> 4), hexDigit (c &&& 0x0F)]
  else [c]

/-- `write_escaped_string`. -/
def writeString (t : Bytes) : Bytes := 34 :: t.flatMap escapeChar ++ [34]

/-- A new line and `append_indent`, in the pretty layout. -/
def lineBreak (pretty : Bool) (depth : Nat) : Bytes :=
  if pretty then 10 :: List.replicate (depth * 2) 32 else []

mutual

/-- `write_value`. -/
def writeValue (pretty : Bool) (depth : Nat) : JsonValue → Bytes
  | .null => text "null"
  | .bool value => if value then text "true" else text "false"
  | .number value => toStringInt value.toInt
  | .string value => writeString value
  | .array items =>
    if items.isEmpty then [91, 93]
    else 91 :: writeItems pretty (depth + 1) true items ++ lineBreak pretty depth ++ [93]
  | .object members =>
    if members.isEmpty then [123, 125]
    else 123 :: writeMembers pretty (depth + 1) true members ++ lineBreak pretty depth ++ [125]

def writeItems (pretty : Bool) (depth : Nat) (first : Bool) : List JsonValue → Bytes
  | [] => []
  | item :: rest => (if first then [] else [44]) ++ lineBreak pretty depth
      ++ writeValue pretty depth item ++ writeItems pretty depth false rest

def writeMembers (pretty : Bool) (depth : Nat) (first : Bool) :
    List (Bytes × JsonValue) → Bytes
  | [] => []
  | (key, value) :: rest => (if first then [] else [44]) ++ lineBreak pretty depth
      ++ writeString key ++ [58] ++ (if pretty then [32] else [])
      ++ writeValue pretty depth value ++ writeMembers pretty depth false rest

end

/-- `to_json`. -/
def toJson (value : JsonValue) (pretty : Bool) : Bytes := writeValue pretty 0 value

end RolloutFabric
