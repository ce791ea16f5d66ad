/-
The framed transport: the header every frame is written under, and the decoder that reads frames
off a byte stream in whatever chunks it arrives.
-/
import RolloutFabric.Journal.Record

namespace RolloutFabric

/-! ## Frames -/

inductive MessageType
  | invalid | hello | helloAck | dispatch | dispatchAck | cancel | cancelAck | evidence | heartbeat
  | heartbeatAck | reconcileRequest | reconcileResponse | shutdown | error | commandRequest
  | commandResponse | healthRequest | healthResponse
deriving DecidableEq, Repr, Inhabited

namespace MessageType

def code : MessageType → UInt16
  | .invalid => 0 | .hello => 1 | .helloAck => 2 | .dispatch => 3 | .dispatchAck => 4
  | .cancel => 5 | .cancelAck => 6 | .evidence => 7 | .heartbeat => 8 | .heartbeatAck => 9
  | .reconcileRequest => 10 | .reconcileResponse => 11 | .shutdown => 12 | .error => 13
  | .commandRequest => 14 | .commandResponse => 15 | .healthRequest => 16 | .healthResponse => 17

/-- The types a header may name; the code of `invalid` is refused. -/
def ofCode? : UInt16 → Option MessageType
  | 1 => some .hello | 2 => some .helloAck | 3 => some .dispatch | 4 => some .dispatchAck
  | 5 => some .cancel | 6 => some .cancelAck | 7 => some .evidence | 8 => some .heartbeat
  | 9 => some .heartbeatAck | 10 => some .reconcileRequest | 11 => some .reconcileResponse
  | 12 => some .shutdown | 13 => some .error | 14 => some .commandRequest
  | 15 => some .commandResponse | 16 => some .healthRequest | 17 => some .healthResponse
  | _ => none

theorem ofCode?_eq_some {raw : UInt16} {t : MessageType} :
    ofCode? raw = some t ↔ t ≠ .invalid ∧ raw = t.code := by
  constructor
  · intro h
    unfold ofCode? at h
    split at h <;> cases h <;> exact ⟨by simp, rfl⟩
  · rintro ⟨hne, rfl⟩
    cases t <;> first | rfl | exact absurd rfl hne

end MessageType

structure Frame where
  type : MessageType := .invalid
  flags : UInt32 := 0
  sequence : UInt64 := 0
  body : Bytes := []
deriving DecidableEq, Inhabited

def kFrameVersion : UInt16 := 1
def kFrameMagic : UInt32 := 0x31424652
def kFrameHeaderBytes : Nat := 48

abbrev Digest128 := FixedBytes 16

def truncate128 (digest : Digest256) : Digest128 := .ofBytes 16 (digest.data.take 16)

/-- The forty bytes of a header that its checksum covers. -/
def Frame.headerFields (frame : Frame) : Bytes := [
  ByteWriter.u32 kFrameMagic, ByteWriter.u16 kFrameVersion, ByteWriter.u16 frame.type.code,
  ByteWriter.u32 frame.flags, ByteWriter.u64 frame.sequence, ByteWriter.count frame.body.length,
  (truncate128 (sha256 frame.body)).data].flatten

/-- `encode_frame`: the frame is appended to `out`. -/
def encodeFrame (frame : Frame) (limits : RuntimeLimits) (out : Bytes) : Result Bytes := do
  (failIf (limits.maxFrameBytes.toNat < frame.body.length)
    (makeStatus .limitExceeded (text "frame body of " ++ toStringNat frame.body.length
      ++ text " byte(s) exceeds the configured ceiling of "
      ++ toStringNat limits.maxFrameBytes.toNat ++ text " byte(s)"))).toResult
  let header := frame.headerFields ++ ByteWriter.u32 (crc32 frame.headerFields) ++ ByteWriter.u32 0
  pure (out ++ header ++ frame.body)

/-- Frames appended one after the other. -/
def encodeFrames (frames : List Frame) (limits : RuntimeLimits) : Result Bytes :=
  frames.foldlM (fun out frame => encodeFrame frame limits out) []

/-- The header fields as they stand in the bytes. -/
@[ext] structure FrameHeader where
  magic : UInt32
  version : UInt16
  rawType : UInt16
  flags : UInt32
  sequence : UInt64
  bodyLength : UInt32
  bodyDigest : Digest128
  headerCrc : UInt32
  reserved : UInt32

def readDigest128 : Decoder Digest128 := do
  let slice ← ByteReader.take 16
  pure (.ofBytes 16 slice)

def readFrameHeader : Decoder FrameHeader := do
  let magic ← ByteReader.u32
  let version ← ByteReader.u16
  let rawType ← ByteReader.u16
  let flags ← ByteReader.u32
  let sequence ← ByteReader.u64
  let bodyLength ← ByteReader.u32
  let bodyDigest ← readDigest128
  let headerCrc ← ByteReader.u32
  let reserved ← ByteReader.u32
  pure { magic, version, rawType, flags, sequence, bodyLength, bodyDigest, headerCrc, reserved }

/-- The checks on a header, given the forty bytes its checksum covers. -/
def FrameHeader.check (header : FrameHeader) (covered : Bytes) (limits : RuntimeLimits) : Status :=
  firstFailure [
    failIf (header.magic ≠ kFrameMagic) (makeStatus .corrupt
      (text "frame magic mismatch: this stream is not Rollout Fabric framing")),
    failIf (header.version ≠ kFrameVersion) (makeStatus .corrupt
      (text "unsupported frame version " ++ toStringNat header.version.toNat
        ++ text " (this build speaks version " ++ toStringNat kFrameVersion.toNat ++ text ")")),
    failIf (MessageType.ofCode? header.rawType).isNone (makeStatus .corrupt
      (text "unknown message type " ++ toStringNat header.rawType.toNat)),
    failIf (limits.maxFrameBytes < header.bodyLength) (makeStatus .corrupt
      (text "declared frame body of " ++ toStringNat header.bodyLength.toNat
        ++ text " byte(s) exceeds the configured ceiling of "
        ++ toStringNat limits.maxFrameBytes.toNat ++ text " byte(s)")),
    failIf (header.headerCrc ≠ crc32 covered) (makeStatus .corrupt
      (text "frame header CRC mismatch")),
    failIf (header.reserved ≠ 0) (makeStatus .corrupt
      (text "frame header reserved field is " ++ toStringNat header.reserved.toNat
        ++ text ", this build requires zero"))]

/-- The frame a header and its body make, unless the body is not the one the header was written
for. -/
def FrameHeader.frame (header : FrameHeader) (body : Bytes) : Result Frame := do
  (failIf (header.bodyDigest ≠ truncate128 (sha256 body))
    (makeStatus .corrupt (text "frame body digest mismatch"))).toResult
  pure { type := (MessageType.ofCode? header.rawType).getD .invalid, flags := header.flags
         sequence := header.sequence, body }

/-! ## The decoder -/

structure FrameDecoder where
  limits : RuntimeLimits
  buffer : Bytes := []
  failed : Bool := false
  failure : Status := .success
  framesDecoded : UInt64 := 0
  declaredTotal : Nat := 0

namespace FrameDecoder

variable (d : FrameDecoder)

def fail (status : Status) : FrameDecoder :=
  if d.failed then d
  else { d with failed := true, failure := status, declaredTotal := 0, buffer := [] }

/-- `parse_header`, on a buffer that holds a whole header. -/
def parseHeader : Result FrameDecoder := do
  let (header, _) ← readFrameHeader d.buffer
  (header.check (d.buffer.take 40) d.limits).toResult
  pure { d with declaredTotal := kFrameHeaderBytes + header.bodyLength.toNat }

/-- `emit_frame`, on a buffer that holds a whole frame. -/
def emitFrame : Result (Frame × FrameDecoder) := do
  let (header, rest) ← readFrameHeader d.buffer
  let frame ← header.frame (rest.take (d.declaredTotal - kFrameHeaderBytes))
  pure (frame, { d with
    buffer := d.buffer.drop d.declaredTotal
    declaredTotal := 0
    framesDecoded := d.framesDecoded + 1 })

/-- What one pass of the loop of `feed` does. -/
inductive Pass
  | failed (status : Status)
  | emitted (frame : Frame) (d : FrameDecoder)
  | took (d : FrameDecoder) (rest : Bytes)
  | drained (d : FrameDecoder)

/-- How many bytes the buffer lacks of a header, or of the frame that was declared. -/
def want : Nat :=
  if d.buffer.length < kFrameHeaderBytes then kFrameHeaderBytes - d.buffer.length
  else d.declaredTotal - d.buffer.length

/-- The pass after the header, if there is one, was parsed. -/
def passParsed (data : Bytes) : Pass :=
  if d.declaredTotal ≠ 0 ∧ d.declaredTotal ≤ d.buffer.length then
    match d.emitFrame with
    | .error status => .failed status
    | .ok (frame, d) => .emitted frame d
  else if data.isEmpty then .drained d
  else .took { d with buffer := d.buffer ++ data.take d.want } (data.drop d.want)

def pass (data : Bytes) : Pass :=
  if d.declaredTotal = 0 ∧ kFrameHeaderBytes ≤ d.buffer.length then
    match d.parseHeader with
    | .error status => .failed status
    | .ok d => d.passParsed data
  else d.passParsed data

/-! ## A pass makes progress -/

section

variable {d : FrameDecoder} {d' : FrameDecoder} {data rest : Bytes} {frame : Frame}

theorem parseHeader_ok (h : d.parseHeader = .ok d') :
    d'.buffer = d.buffer ∧ d'.declaredTotal ≠ 0 := by
  unfold parseHeader at h
  cases hread : readFrameHeader d.buffer with
  | error e =>
    rw [hread] at h
    cases h
  | ok r =>
    rw [hread] at h
    obtain ⟨-, hpure⟩ := Status.toResult_bind_ok h
    cases hpure
    simp [kFrameHeaderBytes]

theorem emitFrame_ok (h : d.emitFrame = .ok (frame, d')) :
    d'.buffer = d.buffer.drop d.declaredTotal := by
  unfold emitFrame at h
  cases hread : readFrameHeader d.buffer with
  | error e =>
    rw [hread] at h
    cases h
  | ok r =>
    rw [hread] at h
    cases hframe : r.1.frame (r.2.take (d.declaredTotal - kFrameHeaderBytes)) with
    | error e =>
      simp [bind, Except.bind, hframe] at h
    | ok f =>
      simp [bind, Except.bind, hframe, pure, Except.pure] at h
      rw [← h.2]

/-- A frame leaves a shorter buffer. -/
theorem passParsed_emitted (h : d.passParsed data = .emitted frame d') :
    d'.buffer.length < d.buffer.length := by
  unfold passParsed at h
  split at h
  · next htotal =>
    cases hemit : d.emitFrame with
    | error e =>
      rw [hemit] at h
      cases h
    | ok r =>
      rw [hemit] at h
      cases h
      rw [emitFrame_ok hemit, List.length_drop]
      omega
  · split at h <;> cases h

/-- What is taken moves from the input to the buffer, and it is something unless a header or a
frame was already complete. -/
theorem passParsed_took (h : d.passParsed data = .took d' rest)
    (hparsed : d.declaredTotal ≠ 0 ∨ d.buffer.length < kFrameHeaderBytes) :
    d'.buffer.length + 2 * rest.length < d.buffer.length + 2 * data.length := by
  unfold passParsed at h
  split at h
  · cases hemit : d.emitFrame with
    | error e =>
      rw [hemit] at h
      cases h
    | ok r =>
      rw [hemit] at h
      cases h
  · next htotal =>
    split at h
    · cases h
    · next hsome =>
      cases h
      have hdata : 0 < data.length := List.length_pos_iff.2 (by simpa using hsome)
      have hwant : 0 < d.want := by
        unfold want
        split <;> omega
      simp only [List.length_append, List.length_take, List.length_drop]
      omega

theorem pass_emitted (h : d.pass data = .emitted frame d') :
    d'.buffer.length < d.buffer.length := by
  unfold pass at h
  split at h
  · cases hparse : d.parseHeader with
    | error e =>
      rw [hparse] at h
      cases h
    | ok parsed =>
      rw [hparse] at h
      rw [← (parseHeader_ok hparse).1]
      exact passParsed_emitted h
  · exact passParsed_emitted h

theorem pass_took (h : d.pass data = .took d' rest) :
    d'.buffer.length + 2 * rest.length < d.buffer.length + 2 * data.length := by
  unfold pass at h
  split at h
  · cases hparse : d.parseHeader with
    | error e =>
      rw [hparse] at h
      cases h
    | ok parsed =>
      rw [hparse] at h
      obtain ⟨hbuffer, htotal⟩ := parseHeader_ok hparse
      rw [← hbuffer]
      exact passParsed_took h (.inl htotal)
  · next hnone => exact passParsed_took h (by omega)

end

/-! ## Feeding -/

/-- The loop of `feed`: passes until the input is used up or the decoder fails. -/
def feedLoop (d : FrameDecoder) (data : Bytes) (out : List Frame) :
    Status × FrameDecoder × List Frame :=
  match _hpass : d.pass data with
  | .failed status => (status, d.fail status, out)
  | .emitted frame d' => feedLoop d' data (out ++ [frame])
  | .took d' rest => feedLoop d' rest out
  | .drained d' => (.success, d', out)
termination_by d.buffer.length + 2 * data.length
decreasing_by
  · have := pass_emitted _hpass
    omega
  · exact pass_took _hpass

/-- `feed`: the frames that become complete are appended to `out`. -/
def feed (data : Bytes) (out : List Frame) : Status × FrameDecoder × List Frame :=
  if d.failed then (d.failure, d, out) else d.feedLoop data out

def expectCleanEnd : Status :=
  if d.failed then d.failure
  else if d.buffer.isEmpty then .success
  else makeStatus .corrupt (text "the stream ended with " ++ toStringNat d.buffer.length
    ++ text " byte(s) of an incomplete frame buffered")

/-- The chunks of a stream, one after the other: the last status, the decoder and all frames. -/
def feedAll (chunks : List Bytes) : Status × FrameDecoder × List Frame :=
  chunks.foldl (fun state data => state.2.1.feed data state.2.2) (.success, d, [])

end FrameDecoder

end RolloutFabric
