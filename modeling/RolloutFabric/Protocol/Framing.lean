/-
Frames survive any chunking: whatever the chunks a stream arrives in, the decoder emits the
frames that stand in it and ends as it would have on the whole stream.
-/
import RolloutFabric.Codec.Exact
import RolloutFabric.Lib.Stream
import RolloutFabric.Protocol.Transport

namespace RolloutFabric

open Decoding Stream

/-! ## The header -/

theorem readDigest128_exact : Exact readDigest128 FixedBytes.data (fun _ => True) :=
  word_exact (fun v => by simp) (fun v => v.size_eq) fun _ h => FixedBytes.ofBytes_of_length h

/-- The bytes of a header that its checksum covers. -/
def FrameHeader.covered (h : FrameHeader) : Bytes := [
  ByteWriter.u32 h.magic, ByteWriter.u16 h.version, ByteWriter.u16 h.rawType,
  ByteWriter.u32 h.flags, ByteWriter.u64 h.sequence, ByteWriter.u32 h.bodyLength,
  h.bodyDigest.data].flatten

/-- The bytes a header was read from. -/
def FrameHeader.encode (h : FrameHeader) : Bytes :=
  h.covered ++ ByteWriter.u32 h.headerCrc ++ ByteWriter.u32 h.reserved

theorem FrameHeader.covered_length (h : FrameHeader) : h.covered.length = 40 := by
  simp [covered, ByteWriter.u32, ByteWriter.u64, ByteWriter.u16, FixedBytes.size_eq]

theorem FrameHeader.encode_length (h : FrameHeader) : h.encode.length = 48 := by
  simp [encode, covered_length, ByteWriter.u32]

theorem readFrameHeader_exact : Exact readFrameHeader FrameHeader.encode (fun _ => True) := by
  have hbytes : FrameHeader.encode = fun h => [
      ByteWriter.u32 h.magic, ByteWriter.u16 h.version, ByteWriter.u16 h.rawType,
      ByteWriter.u32 h.flags, ByteWriter.u64 h.sequence, ByteWriter.u32 h.bodyLength,
      h.bodyDigest.data, ByteWriter.u32 h.headerCrc, ByteWriter.u32 h.reserved].flatten := by
    funext h
    simp [FrameHeader.encode, FrameHeader.covered]
  rw [hbytes]
  unfold readFrameHeader
  apply Exact.record
  · exact .field FrameHeader.magic u32_exact fun _ =>
      .field FrameHeader.version u16_exact fun _ =>
      .field FrameHeader.rawType u16_exact fun _ =>
      .field FrameHeader.flags u32_exact fun _ =>
      .field FrameHeader.sequence u64_exact fun _ =>
      .field FrameHeader.bodyLength u32_exact fun _ =>
      .field FrameHeader.bodyDigest readDigest128_exact fun _ =>
      .field FrameHeader.headerCrc u32_exact fun _ =>
      .field FrameHeader.reserved u32_exact fun _ =>
      .done (R := fun _ => True) fun h => by
        cases h
        simp [and_assoc]
  · simp

theorem readFrameHeader_fixedSize : FixedSize 48 readFrameHeader :=
  u32_fixedSize.bind fun _ => u16_fixedSize.bind fun _ => u16_fixedSize.bind fun _ =>
    u32_fixedSize.bind fun _ => u64_fixedSize.bind fun _ => u32_fixedSize.bind fun _ =>
    (fixedSize_map _ (take_fixedSize 16)).bind fun _ => u32_fixedSize.bind fun _ =>
    fixedSize_map _ u32_fixedSize

/-- Forty-eight bytes hold a header. -/
theorem exists_header {bs : Bytes} (h : kFrameHeaderBytes ≤ bs.length) :
    ∃ header : FrameHeader, ∃ rest, bs = header.encode ++ rest := by
  obtain ⟨header, hread⟩ := readFrameHeader_fixedSize.append h
  have hbytes := (readFrameHeader_exact.canonical (hread [])).2
  rw [List.append_nil, List.append_nil] at hbytes
  exact ⟨header, _, hbytes⟩

/-! ## What stands at the front of a stream -/

/-- The frame at the front of some bytes. -/
def frameFront (limits : RuntimeLimits) (bs : Bytes) : Front UInt8 Frame Status :=
  match readFrameHeader bs with
  | .error _ => .incomplete
  | .ok (header, rest) =>
    if (header.check header.covered limits).isOk then
      if rest.length < header.bodyLength.toNat then .incomplete
      else match header.frame (rest.take header.bodyLength.toNat) with
        | .error status => .failed status
        | .ok frame => .item frame (rest.drop header.bodyLength.toNat)
    else .failed (header.check header.covered limits)

section

variable {limits : RuntimeLimits} {header : FrameHeader} {bs rest more : Bytes} {frame : Frame}
  {status : Status}

theorem frameFront_encode (limits : RuntimeLimits) (header : FrameHeader) (rest : Bytes) :
    frameFront limits (header.encode ++ rest) =
      if (header.check header.covered limits).isOk then
        if rest.length < header.bodyLength.toNat then .incomplete
        else match header.frame (rest.take header.bodyLength.toNat) with
          | .error status => .failed status
          | .ok frame => .item frame (rest.drop header.bodyLength.toNat)
      else .failed (header.check header.covered limits) := by
  unfold frameFront
  rw [readFrameHeader_exact.decode trivial rest]

theorem readFrameHeader_short (h : bs.length < kFrameHeaderBytes) :
    ∃ e, readFrameHeader bs = .error e := by
  cases hread : readFrameHeader bs with
  | error e => exact ⟨e, rfl⟩
  | ok r =>
    obtain ⟨-, rfl⟩ := readFrameHeader_exact.canonical hread
    rw [List.length_append, r.1.encode_length] at h
    simp only [kFrameHeaderBytes] at h
    omega

theorem frameFront_short (h : bs.length < kFrameHeaderBytes) :
    frameFront limits bs = .incomplete := by
  obtain ⟨e, he⟩ := readFrameHeader_short h
  simp only [frameFront, he]

theorem frameFront_failed_append (h : frameFront limits bs = .failed status) (more : Bytes) :
    frameFront limits (bs ++ more) = .failed status := by
  by_cases hshort : bs.length < kFrameHeaderBytes
  · rw [frameFront_short hshort] at h
    cases h
  · obtain ⟨header, rest, rfl⟩ := exists_header (Nat.not_lt.1 hshort)
    rw [frameFront_encode] at h
    rw [List.append_assoc, frameFront_encode]
    split at h
    · split at h
      · cases h
      · next hlong =>
        have hmore : ¬ (rest ++ more).length < header.bodyLength.toNat := by
          rw [List.length_append]
          omega
        rw [if_pos (by assumption), if_neg hmore, List.take_append_of_le_length (Nat.not_lt.1 hlong)]
        split at h
        · exact h
        · cases h
    · rw [if_neg (by assumption)]
      exact h

/-- What the checks on a header establish. -/
structure FrameHeader.Checked (header : FrameHeader) (limits : RuntimeLimits) : Prop where
  magic : header.magic = kFrameMagic
  version : header.version = kFrameVersion
  type : ∃ t, MessageType.ofCode? header.rawType = some t
  bodyLength : header.bodyLength ≤ limits.maxFrameBytes
  headerCrc : header.headerCrc = crc32 header.covered
  reserved : header.reserved = 0

theorem FrameHeader.check_isOk :
    (header.check header.covered limits).isOk = true ↔ header.Checked limits := by
  unfold FrameHeader.check
  rw [firstFailure_isOk]
  simp only [List.mem_cons, List.not_mem_nil, or_false, forall_eq_or_imp, forall_eq]
  simp [failIf_isOk, Option.isSome_iff_exists]
  constructor
  · rintro ⟨hmagic, hversion, htype, hlength, hcrc, hreserved⟩
    exact ⟨hmagic, hversion, htype, hlength, hcrc, hreserved⟩
  · rintro ⟨hmagic, hversion, htype, hlength, hcrc, hreserved⟩
    exact ⟨hmagic, hversion, htype, hlength, hcrc, hreserved⟩

theorem FrameHeader.frame_eq_ok {body : Bytes} : header.frame body = .ok frame
    ↔ header.bodyDigest = truncate128 (sha256 body)
      ∧ { type := (MessageType.ofCode? header.rawType).getD .invalid, flags := header.flags
          sequence := header.sequence, body } = frame := by
  unfold FrameHeader.frame
  rw [except_bind_eq_ok]
  simp [toResult_eq_ok, failIf_isOk, pure, Except.pure]

/-! ## Frames that can be sent -/

/-- A frame of a valid type whose body is within its bound. -/
structure Frame.Sendable (frame : Frame) (limits : RuntimeLimits) : Prop where
  type_ne : frame.type ≠ .invalid
  body_le : frame.body.length ≤ limits.maxFrameBytes.toNat

/-- The header a frame is written under. -/
def FrameHeader.of (frame : Frame) : FrameHeader where
  magic := kFrameMagic
  version := kFrameVersion
  rawType := frame.type.code
  flags := frame.flags
  sequence := frame.sequence
  bodyLength := frame.body.length.toUInt32
  bodyDigest := truncate128 (sha256 frame.body)
  headerCrc := crc32 frame.headerFields
  reserved := 0

/-- The bytes of a frame. -/
def Frame.encode (frame : Frame) : Bytes := (FrameHeader.of frame).encode ++ frame.body

theorem encodeFrame_eq (h : frame.Sendable limits) (out : Bytes) :
    encodeFrame frame limits out = .ok (out ++ frame.encode) := by
  have hbound : ¬ limits.maxFrameBytes.toNat < frame.body.length := Nat.not_lt.2 h.body_le
  simp [encodeFrame, hbound, Status.toResult, bind, Except.bind, pure, Except.pure, Frame.encode,
    FrameHeader.encode, FrameHeader.covered, FrameHeader.of, Frame.headerFields, ByteWriter.count]

theorem bodyLength_of (h : frame.Sendable limits) :
    (FrameHeader.of frame).bodyLength.toNat = frame.body.length :=
  count_toNat limits.maxFrameBytes.toNat_lt h.body_le

theorem FrameHeader.of_checked (h : frame.Sendable limits) :
    (FrameHeader.of frame).Checked limits where
  magic := rfl
  version := rfl
  type := ⟨frame.type, MessageType.ofCode?_eq_some.2 ⟨h.type_ne, rfl⟩⟩
  bodyLength := by
    rw [UInt32.le_iff_toNat_le, bodyLength_of h]
    exact h.body_le
  headerCrc := rfl
  reserved := rfl

/-- A header that passes its checks is the header of the frame it makes with its body. -/
theorem FrameHeader.Checked.of_frame {body : Bytes} (h : header.Checked limits)
    (hlength : body.length = header.bodyLength.toNat) (hframe : header.frame body = .ok frame) :
    frame.Sendable limits ∧ FrameHeader.of frame = header ∧ frame.body = body := by
  obtain ⟨hmagic, hversion, ⟨t, htype⟩, hbound, hcrc, hreserved⟩ := h
  obtain ⟨hvalid, hraw⟩ := MessageType.ofCode?_eq_some.1 htype
  obtain ⟨hdigest, rfl⟩ := FrameHeader.frame_eq_ok.1 hframe
  rw [htype, Option.getD_some]
  refine ⟨⟨hvalid, ?_⟩, ?_, rfl⟩
  · show body.length ≤ limits.maxFrameBytes.toNat
    rw [hlength]
    exact UInt32.le_iff_toNat_le.1 hbound
  · have hcount : body.length.toUInt32 = header.bodyLength := by rw [hlength]; simp
    have hcovered : Frame.headerFields { type := t, flags := header.flags
                                         sequence := header.sequence, body } = header.covered := by
      simp only [Frame.headerFields, FrameHeader.covered, ByteWriter.count, hcount, hmagic,
        hversion, hraw, hdigest]
    exact FrameHeader.ext hmagic.symm hversion.symm hraw.symm rfl rfl hcount hdigest.symm
      ((congrArg crc32 hcovered).trans hcrc.symm) hreserved.symm

/-- A frame stands at the front of a stream exactly when its bytes do. -/
theorem frameFront_eq_item : frameFront limits bs = .item frame rest
    ↔ frame.Sendable limits ∧ bs = frame.encode ++ rest := by
  constructor
  · intro h
    by_cases hshort : bs.length < kFrameHeaderBytes
    · rw [frameFront_short hshort] at h
      cases h
    obtain ⟨header, after, rfl⟩ := exists_header (Nat.not_lt.1 hshort)
    rw [frameFront_encode] at h
    split at h
    case isFalse => cases h
    case isTrue hcheck =>
    split at h
    case isTrue => cases h
    case isFalse hlong =>
    split at h
    case h_1 => cases h
    case h_2 frame' hframe =>
    cases h
    have hlength : (after.take header.bodyLength.toNat).length = header.bodyLength.toNat := by
      rw [List.length_take]
      omega
    obtain ⟨hsend, hheader, hbody⟩ := (FrameHeader.check_isOk.1 hcheck).of_frame hlength hframe
    refine ⟨hsend, ?_⟩
    rw [Frame.encode, hheader, hbody, List.append_assoc, List.take_append_drop]
  · rintro ⟨h, rfl⟩
    have hlength := bodyLength_of h
    have hframe : (FrameHeader.of frame).frame frame.body = .ok frame := by
      refine FrameHeader.frame_eq_ok.2 ⟨rfl, ?_⟩
      have htype : MessageType.ofCode? frame.type.code = some frame.type :=
        MessageType.ofCode?_eq_some.2 ⟨h.type_ne, rfl⟩
      simp [FrameHeader.of, htype]
    rw [Frame.encode, List.append_assoc, frameFront_encode,
      if_pos (FrameHeader.check_isOk.2 (FrameHeader.of_checked h)),
      if_neg (by rw [hlength, List.length_append]; omega), hlength]
    simp [hframe]

theorem Frame.encode_length (frame : Frame) : frame.encode.length = 48 + frame.body.length := by
  rw [Frame.encode, List.length_append, FrameHeader.encode_length]

/-- What stands at the front of a stream does not depend on what follows it. -/
theorem frameFront_prefixed (limits : RuntimeLimits) : Prefixed (frameFront limits) where
  item_append h more := by
    obtain ⟨hsend, rfl⟩ := frameFront_eq_item.1 h
    exact frameFront_eq_item.2 ⟨hsend, List.append_assoc ..⟩
  failed_append h more := frameFront_failed_append h more
  shorter h := by
    obtain ⟨-, rfl⟩ := frameFront_eq_item.1 h
    rw [List.length_append, Frame.encode_length]
    omega

end

/-! ## What a pass does -/

/-- The length a header at the front of the bytes declares for its frame. -/
def declaredOf (bs : Bytes) : Nat :=
  match readFrameHeader bs with
  | .error _ => 0
  | .ok (header, _) => kFrameHeaderBytes + header.bodyLength.toNat

theorem declaredOf_short {bs : Bytes} (h : bs.length < kFrameHeaderBytes) : declaredOf bs = 0 := by
  obtain ⟨e, he⟩ := readFrameHeader_short h
  simp only [declaredOf, he]

theorem declaredOf_encode (header : FrameHeader) (rest : Bytes) :
    declaredOf (header.encode ++ rest) = kFrameHeaderBytes + header.bodyLength.toNat := by
  unfold declaredOf
  rw [readFrameHeader_exact.decode trivial rest]

/-- A decoder that ended a stream so, having emitted `n` frames of it. -/
def FrameDecoder.ended (limits : RuntimeLimits) (n : UInt64) : Ending UInt8 Status → FrameDecoder
  | .pending bs => { limits, buffer := bs, framesDecoded := n, declaredTotal := declaredOf bs }
  | .failed status => { limits, failed := true, failure := status, framesDecoded := n }

/-- A decoder that has not failed; if a length is declared, it is that of the header in the
buffer, which has passed its checks. -/
structure FrameDecoder.Steady (d : FrameDecoder) (limits : RuntimeLimits) : Prop where
  limits_eq : d.limits = limits
  healthy : d.failed = false
  clean : d.failure = .success
  declared : d.declaredTotal ≠ 0 → ∃ (header : FrameHeader) (rest : Bytes),
    d.buffer = header.encode ++ rest ∧ header.Checked limits
      ∧ d.declaredTotal = kFrameHeaderBytes + header.bodyLength.toNat

/-- What a pass does, given what stands at the front of the buffer. -/
inductive FrameDecoder.PassSpec (limits : RuntimeLimits) (d : FrameDecoder) (data : Bytes) :
    FrameDecoder.Pass → Prop
  | failed {status : Status} (h : frameFront limits d.buffer = .failed status) :
    PassSpec limits d data (.failed status)
  | emitted {frame : Frame} {d' : FrameDecoder} (h : frameFront limits d.buffer = .item frame d'.buffer)
    (hsteady : d'.Steady limits) (hcount : d'.framesDecoded = d.framesDecoded + 1) :
    PassSpec limits d data (.emitted frame d')
  | took {d' : FrameDecoder} {rest : Bytes} (h : d'.buffer ++ rest = d.buffer ++ data)
    (hsteady : d'.Steady limits) (hcount : d'.framesDecoded = d.framesDecoded)
    (hsize : d'.buffer.length ≤ kFrameHeaderBytes + limits.maxFrameBytes.toNat) :
    PassSpec limits d data (.took d' rest)
  | drained (hdata : data = []) (h : frameFront limits d.buffer = .incomplete) :
    PassSpec limits d data (.drained (.ended limits d.framesDecoded (.pending d.buffer)))

section

variable {limits : RuntimeLimits} {d d' : FrameDecoder} {data : Bytes}

theorem FrameHeader.take_encode (header : FrameHeader) (rest : Bytes) :
    (header.encode ++ rest).take 40 = header.covered := by
  rw [FrameHeader.encode, List.append_assoc, List.append_assoc,
    List.take_append_of_le_length (by rw [header.covered_length]),
    List.take_of_length_le (by rw [header.covered_length])]

theorem FrameDecoder.parseHeader_encode {header : FrameHeader} {rest : Bytes}
    (hbuffer : d.buffer = header.encode ++ rest) :
    d.parseHeader = (header.check header.covered d.limits).toResult.map fun _ =>
      { d with declaredTotal := kFrameHeaderBytes + header.bodyLength.toNat } := by
  have hread : readFrameHeader d.buffer = .ok (header, rest) := by
    rw [hbuffer]
    exact readFrameHeader_exact.decode trivial rest
  have htake : d.buffer.take 40 = header.covered := by rw [hbuffer, header.take_encode]
  unfold FrameDecoder.parseHeader
  rw [hread, htake]
  show ((header.check header.covered d.limits).toResult >>= fun _ => _) = _
  cases (header.check header.covered d.limits).toResult <;> rfl

theorem FrameDecoder.emitFrame_encode {header : FrameHeader} {rest : Bytes}
    (hbuffer : d.buffer = header.encode ++ rest)
    (htotal : d.declaredTotal = kFrameHeaderBytes + header.bodyLength.toNat) :
    d.emitFrame = (header.frame (rest.take header.bodyLength.toNat)).map fun frame =>
      (frame, { d with
        buffer := rest.drop header.bodyLength.toNat
        declaredTotal := 0
        framesDecoded := d.framesDecoded + 1 }) := by
  have hdrop : d.buffer.drop d.declaredTotal = rest.drop header.bodyLength.toNat := by
    rw [hbuffer, htotal, kFrameHeaderBytes, ← List.drop_drop, ← header.encode_length,
      List.drop_left]
  unfold FrameDecoder.emitFrame
  rw [hdrop, hbuffer, readFrameHeader_exact.decode trivial rest, htotal, Nat.add_sub_cancel_left]
  cases hframe : header.frame (rest.take header.bodyLength.toNat) <;>
    simp [bind, Except.bind, Except.map, hframe, pure, Except.pure]

/-- A decoder that waits for more input holds no whole frame. -/
theorem FrameDecoder.Steady.waits (h : d.Steady limits)
    (hparsed : d.declaredTotal ≠ 0 ∨ d.buffer.length < kFrameHeaderBytes)
    (htotal : ¬ (d.declaredTotal ≠ 0 ∧ d.declaredTotal ≤ d.buffer.length)) :
    frameFront limits d.buffer = .incomplete
      ∧ d = .ended limits d.framesDecoded (.pending d.buffer) := by
  have hended : declaredOf d.buffer = d.declaredTotal →
      d = .ended limits d.framesDecoded (.pending d.buffer) := by
    intro hdeclared
    obtain ⟨hlimits, hhealthy, hclean, -⟩ := h
    cases d
    simp_all [FrameDecoder.ended]
  by_cases hne : d.declaredTotal = 0
  · have hshort : d.buffer.length < kFrameHeaderBytes := by omega
    exact ⟨frameFront_short hshort, hended (by rw [declaredOf_short hshort, hne])⟩
  · obtain ⟨header, rest, hbuffer, hchecked, hdeclared⟩ := h.declared hne
    have hshort : rest.length < header.bodyLength.toNat := by
      rw [hdeclared, hbuffer, List.length_append, header.encode_length, kFrameHeaderBytes] at htotal
      omega
    constructor
    · rw [hbuffer, frameFront_encode, if_pos (FrameHeader.check_isOk.2 hchecked), if_pos hshort]
    · refine hended ?_
      rw [hbuffer, declaredOf_encode, hdeclared]

theorem FrameDecoder.passParsed_spec (h : d.Steady limits)
    (hparsed : d.declaredTotal ≠ 0 ∨ d.buffer.length < kFrameHeaderBytes) :
    PassSpec limits d data (d.passParsed data) := by
  unfold FrameDecoder.passParsed
  split
  · next htotal =>
    obtain ⟨header, rest, hbuffer, hchecked, hdeclared⟩ := h.declared htotal.1
    have hlong : ¬ rest.length < header.bodyLength.toNat := by
      have hle := htotal.2
      rw [hdeclared, hbuffer, List.length_append, header.encode_length, kFrameHeaderBytes] at hle
      omega
    have hfront := frameFront_encode limits header rest
    rw [if_pos (FrameHeader.check_isOk.2 hchecked), if_neg hlong, ← hbuffer] at hfront
    rw [emitFrame_encode hbuffer hdeclared]
    cases hframe : header.frame (rest.take header.bodyLength.toNat) with
    | error status =>
      rw [hframe] at hfront
      exact .failed hfront
    | ok frame =>
      rw [hframe] at hfront
      exact .emitted hfront ⟨h.limits_eq, h.healthy, h.clean, fun hne => absurd rfl hne⟩ rfl
  · next htotal =>
    obtain ⟨hfront, hended⟩ := h.waits hparsed htotal
    split
    · next hempty =>
      rw [hended]
      exact .drained (List.isEmpty_iff.1 hempty) hfront
    · refine .took ?_ ⟨h.limits_eq, h.healthy, h.clean, fun hne => ?_⟩ rfl ?_
      · rw [List.append_assoc, List.take_append_drop]
      · obtain ⟨header, rest, hbuffer, hchecked, hdeclared⟩ := h.declared hne
        refine ⟨header, rest ++ data.take d.want, ?_, hchecked, hdeclared⟩
        show d.buffer ++ _ = _
        rw [hbuffer, List.append_assoc]
      · -- as much is taken as completes the header, or the frame it declares
        have hwant : d.buffer.length + d.want ≤ kFrameHeaderBytes + limits.maxFrameBytes.toNat := by
          unfold want
          split
          · omega
          · obtain ⟨header, rest, -, hchecked, hdeclared⟩ := h.declared (by omega)
            have hbody := UInt32.le_iff_toNat_le.1 hchecked.bodyLength
            omega
        rw [List.length_append, List.length_take]
        omega

theorem FrameDecoder.PassSpec.of_buffer {p : FrameDecoder.Pass} (h : PassSpec limits d' data p)
    (hbuffer : d'.buffer = d.buffer) (hcount : d'.framesDecoded = d.framesDecoded) :
    PassSpec limits d data p := by
  cases h with
  | failed h => exact .failed (hbuffer ▸ h)
  | emitted h hsteady hframes => exact .emitted (hbuffer ▸ h) hsteady (hcount ▸ hframes)
  | took h hsteady hframes hsize => exact .took (hbuffer ▸ h) hsteady (hcount ▸ hframes) hsize
  | drained hdata h =>
    rw [hbuffer] at h
    rw [hbuffer, hcount]
    exact .drained hdata h

theorem FrameDecoder.pass_spec (h : d.Steady limits) : PassSpec limits d data (d.pass data) := by
  unfold FrameDecoder.pass
  split
  · next hheader =>
    obtain ⟨header, rest, hbuffer⟩ := exists_header hheader.2
    rw [parseHeader_encode hbuffer]
    unfold Status.toResult
    by_cases hcheck : (header.check header.covered d.limits).isOk = true
    · rw [if_pos hcheck]
      have hsteady : FrameDecoder.Steady
          { d with declaredTotal := kFrameHeaderBytes + header.bodyLength.toNat } limits :=
        ⟨h.limits_eq, h.healthy, h.clean,
          fun _ => ⟨header, rest, hbuffer, FrameHeader.check_isOk.1 (h.limits_eq ▸ hcheck), rfl⟩⟩
      refine PassSpec.of_buffer (passParsed_spec hsteady (.inl ?_)) rfl rfl
      simp [kFrameHeaderBytes]
    · rw [if_neg hcheck]
      rw [h.limits_eq] at hcheck ⊢
      refine .failed ?_
      rw [hbuffer, frameFront_encode, if_neg hcheck]
  · next hnone => exact passParsed_spec h (by omega)

/-! ## Feeding -/

/-- The verdict on a stream: a stream that may go on is in order. -/
def verdict : Ending UInt8 Status → Status
  | .pending _ => .success
  | .failed status => status

theorem FrameDecoder.feedLoop_failed {status : Status} (h : d.pass data = .failed status)
    (out : List Frame) : d.feedLoop data out = (status, d.fail status, out) := by
  rw [feedLoop]
  split <;> simp_all

theorem FrameDecoder.feedLoop_emitted {frame : Frame} (h : d.pass data = .emitted frame d')
    (out : List Frame) : d.feedLoop data out = d'.feedLoop data (out ++ [frame]) := by
  rw [feedLoop]
  split <;> simp_all

theorem FrameDecoder.feedLoop_took {rest : Bytes} (h : d.pass data = .took d' rest)
    (out : List Frame) : d.feedLoop data out = d'.feedLoop rest out := by
  rw [feedLoop]
  split <;> simp_all

theorem FrameDecoder.feedLoop_drained (h : d.pass data = .drained d') (out : List Frame) :
    d.feedLoop data out = (.success, d', out) := by
  rw [feedLoop]
  split <;> simp_all

/-- The loop emits the frames that stand in the buffer and the input together, and leaves the
decoder as they end. -/
theorem FrameDecoder.feedLoop_parses (h : d.Steady limits) {frames : List Frame}
    {v : Ending UInt8 Status} (hparses : Parses (frameFront limits) (d.buffer ++ data) frames v)
    (out : List Frame) : d.feedLoop data out
      = (verdict v, .ended limits (d.framesDecoded + frames.length.toUInt64) v, out ++ frames) := by
  induction d, data, out using FrameDecoder.feedLoop.induct generalizing frames with
  | case1 d data out status hpass =>
    have hspec : PassSpec limits d data (d.pass data) := pass_spec h
    rw [hpass] at hspec
    cases hspec with
    | failed hfront =>
      obtain ⟨rfl, rfl⟩ := hparses.unique
        (.failed ((frameFront_prefixed limits).failed_append hfront data))
      rw [feedLoop_failed hpass]
      simp [FrameDecoder.fail, h.healthy, FrameDecoder.ended, h.limits_eq, verdict]
  | case2 d data out frame d' hpass ih =>
    have hspec : PassSpec limits d data (d.pass data) := pass_spec h
    rw [hpass] at hspec
    cases hspec with
    | emitted hfront hsteady hcount =>
      have hitem := (frameFront_prefixed limits).item_append hfront data
      obtain ⟨rest, v', htail⟩ :=
        Parses.exists_parses (frameFront_prefixed limits) (d'.buffer ++ data)
      obtain ⟨rfl, rfl⟩ := hparses.unique (.item hitem htail)
      rw [feedLoop_emitted hpass, ih hsteady htail, hcount, UInt64.add_assoc]
      simp [UInt64.add_comm]
  | case3 d data out d' rest hpass ih =>
    have hspec : PassSpec limits d data (d.pass data) := pass_spec h
    rw [hpass] at hspec
    cases hspec with
    | took hbytes hsteady hcount =>
      rw [← hbytes] at hparses
      rw [feedLoop_took hpass, ih hsteady hparses, hcount]
  | case4 d data out d' hpass =>
    have hspec : PassSpec limits d data (d.pass data) := pass_spec h
    rw [hpass] at hspec
    cases hspec with
    | drained hdata hfront =>
      subst hdata
      rw [List.append_nil] at hparses
      obtain ⟨rfl, rfl⟩ := hparses.unique (.pending hfront)
      rw [feedLoop_drained hpass]
      simp [verdict]

/-- A decoder that waits for more input may be fed. -/
theorem FrameDecoder.ended_steady {bs : Bytes} (h : frameFront limits bs = .incomplete)
    (n : UInt64) : (FrameDecoder.ended limits n (.pending bs)).Steady limits := by
  refine ⟨rfl, rfl, rfl, fun hne => ?_⟩
  have hlong : kFrameHeaderBytes ≤ bs.length := by
    rw [← Nat.not_lt]
    intro hshort
    exact hne (declaredOf_short hshort)
  obtain ⟨header, rest, rfl⟩ := exists_header hlong
  refine ⟨header, rest, rfl, ?_, declaredOf_encode header rest⟩
  rw [frameFront_encode] at h
  split at h
  · next hcheck => exact FrameHeader.check_isOk.1 hcheck
  · cases h

theorem FrameDecoder.feed_pending {bs : Bytes} (h : frameFront limits bs = .incomplete)
    {frames : List Frame} {v : Ending UInt8 Status}
    (hparses : Parses (frameFront limits) (bs ++ data) frames v) (n : UInt64) (out : List Frame) :
    (FrameDecoder.ended limits n (.pending bs)).feed data out
      = (verdict v, .ended limits (n + frames.length.toUInt64) v, out ++ frames) :=
  feedLoop_parses (ended_steady h n) hparses out

theorem FrameDecoder.feed_failed (n : UInt64) (status : Status) (data : Bytes) (out : List Frame) :
    (FrameDecoder.ended limits n (.failed status)).feed data out
      = (status, .ended limits n (.failed status), out) := rfl

/-- What the decoder is after the stream `bs`: its verdict, its state and its frames. -/
def FrameDecoder.read (limits : RuntimeLimits) (frames : List Frame) (v : Ending UInt8 Status) :
    Status × FrameDecoder × List Frame :=
  (verdict v, .ended limits frames.length.toUInt64 v, frames)

theorem FrameDecoder.feed_read {bs : Bytes} {frames more : List Frame} {v w : Ending UInt8 Status}
    (h : Parses (frameFront limits) bs frames v)
    (hmore : Parses (frameFront limits) (bs ++ data) more w) :
    (FrameDecoder.ended limits frames.length.toUInt64 v).feed data frames = read limits more w := by
  cases v with
  | pending rest =>
    obtain ⟨next, w', hnext⟩ := Parses.exists_parses (frameFront_prefixed limits) (rest ++ data)
    obtain ⟨rfl, rfl⟩ := hmore.unique (h.append_pending (frameFront_prefixed limits) hnext)
    rw [feed_pending h.pending_incomplete hnext]
    simp [read]
  | failed status =>
    obtain ⟨rfl, rfl⟩ := hmore.unique (h.append_failed (frameFront_prefixed limits) data)
    exact feed_failed ..

theorem FrameDecoder.foldl_read (chunks : List Bytes) {bs : Bytes} {frames more : List Frame}
    {v w : Ending UInt8 Status} (h : Parses (frameFront limits) bs frames v)
    (hmore : Parses (frameFront limits) (bs ++ chunks.flatten) more w) :
    chunks.foldl (fun state data => state.2.1.feed data state.2.2) (read limits frames v)
      = read limits more w := by
  induction chunks generalizing bs frames v with
  | nil =>
    rw [List.flatten_nil, List.append_nil] at hmore
    obtain ⟨rfl, rfl⟩ := h.unique hmore
    rfl
  | cons data chunks ih =>
    obtain ⟨next, w', hnext⟩ := Parses.exists_parses (frameFront_prefixed limits) (bs ++ data)
    rw [List.flatten_cons, ← List.append_assoc] at hmore
    rw [List.foldl_cons]
    have hstep : (read limits frames v).2.1.feed data (read limits frames v).2.2
        = read limits next w' := feed_read h hnext
    rw [hstep]
    exact ih hnext hmore

theorem FrameDecoder.fresh_read (limits : RuntimeLimits) :
    ((.success, { limits }, []) : Status × FrameDecoder × List Frame)
      = read limits [] (.pending []) := by
  have hdeclared : declaredOf [] = 0 := declaredOf_short (by decide)
  simp only [read, FrameDecoder.ended, hdeclared]
  rfl

theorem FrameDecoder.feedAll_parses {chunks : List Bytes} {frames : List Frame}
    {v : Ending UInt8 Status} (h : Parses (frameFront limits) chunks.flatten frames v) :
    FrameDecoder.feedAll { limits } chunks = read limits frames v := by
  unfold FrameDecoder.feedAll
  rw [fresh_read]
  exact foldl_read chunks (.pending (frameFront_short (by decide))) h

theorem FrameDecoder.feed_parses {bs : Bytes} {frames : List Frame} {v : Ending UInt8 Status}
    (h : Parses (frameFront limits) bs frames v) :
    FrameDecoder.feed { limits } bs [] = read limits frames v := by
  have hall : FrameDecoder.feedAll { limits } [bs] = read limits frames v :=
    feedAll_parses (by simpa using h)
  exact hall

end

/-! ## The buffer -/

/-- The states a decoder goes through: what a pass of the loop leaves. -/
inductive FrameDecoder.Reached (limits : RuntimeLimits) : FrameDecoder → Prop
  | fresh : Reached limits { limits }
  | failed {d : FrameDecoder} {data : Bytes} {status : Status} (h : Reached limits d)
    (hhealthy : d.failed = false) (hpass : d.pass data = .failed status) :
    Reached limits (d.fail status)
  | emitted {d d' : FrameDecoder} {data : Bytes} {frame : Frame} (h : Reached limits d)
    (hhealthy : d.failed = false) (hpass : d.pass data = .emitted frame d') : Reached limits d'
  | took {d d' : FrameDecoder} {data rest : Bytes} (h : Reached limits d)
    (hhealthy : d.failed = false) (hpass : d.pass data = .took d' rest) : Reached limits d'
  | drained {d d' : FrameDecoder} {data : Bytes} (h : Reached limits d)
    (hhealthy : d.failed = false) (hpass : d.pass data = .drained d') : Reached limits d'

section

variable {limits : RuntimeLimits} {d : FrameDecoder}

theorem FrameDecoder.Reached.bounded (h : d.Reached limits) :
    (d.failed = false → d.Steady limits)
      ∧ d.buffer.length ≤ kFrameHeaderBytes + limits.maxFrameBytes.toNat := by
  induction h with
  | fresh => exact ⟨fun _ => ⟨rfl, rfl, rfl, fun hne => absurd rfl hne⟩, Nat.zero_le _⟩
  | @failed d data status _ hhealthy _ ih =>
    have hfail : d.fail status = { d with
        failed := true, failure := status, declaredTotal := 0, buffer := [] } := by
      simp [FrameDecoder.fail, hhealthy]
    rw [hfail]
    exact ⟨fun hfalse => (by cases hfalse), Nat.zero_le _⟩
  | @emitted d d' data frame _ hhealthy hpass ih =>
    have hspec : PassSpec limits d data (d.pass data) := pass_spec (ih.1 hhealthy)
    rw [hpass] at hspec
    cases hspec with
    | emitted _ hsteady =>
      have hshorter := pass_emitted hpass
      exact ⟨fun _ => hsteady, by omega⟩
  | @took d d' data rest _ hhealthy hpass ih =>
    have hspec : PassSpec limits d data (d.pass data) := pass_spec (ih.1 hhealthy)
    rw [hpass] at hspec
    cases hspec with
    | took _ hsteady _ hsize => exact ⟨fun _ => hsteady, hsize⟩
  | @drained d d' data _ hhealthy hpass ih =>
    have hspec : PassSpec limits d data (d.pass data) := pass_spec (ih.1 hhealthy)
    rw [hpass] at hspec
    cases hspec with
    | drained _ hfront => exact ⟨fun _ => ended_steady hfront _, ih.2⟩

theorem FrameDecoder.Reached.pass_healthy {data : Bytes} {d' : FrameDecoder}
    (h : d.Reached limits) (hhealthy : d.failed = false)
    (hpass : (∃ frame, d.pass data = .emitted frame d') ∨ ∃ rest, d.pass data = .took d' rest) :
    d'.failed = false := by
  have hspec : PassSpec limits d data (d.pass data) := pass_spec (h.bounded.1 hhealthy)
  rcases hpass with ⟨frame, hpass⟩ | ⟨rest, hpass⟩
  · rw [hpass] at hspec
    cases hspec with
    | emitted _ hsteady => exact hsteady.healthy
  · rw [hpass] at hspec
    cases hspec with
    | took _ hsteady => exact hsteady.healthy

theorem FrameDecoder.feedLoop_reached (data : Bytes) (out : List Frame) (h : d.Reached limits)
    (hhealthy : d.failed = false) : (d.feedLoop data out).2.1.Reached limits := by
  induction d, data, out using FrameDecoder.feedLoop.induct with
  | case1 d data out status hpass =>
    rw [feedLoop_failed hpass]
    exact .failed h hhealthy hpass
  | case2 d data out frame d' hpass ih =>
    rw [feedLoop_emitted hpass]
    exact ih (.emitted h hhealthy hpass) (h.pass_healthy hhealthy (.inl ⟨_, hpass⟩))
  | case3 d data out d' rest hpass ih =>
    rw [feedLoop_took hpass]
    exact ih (.took h hhealthy hpass) (h.pass_healthy hhealthy (.inr ⟨_, hpass⟩))
  | case4 d data out d' hpass =>
    rw [feedLoop_drained hpass]
    exact .drained h hhealthy hpass

theorem FrameDecoder.feed_reached (data : Bytes) (out : List Frame) (h : d.Reached limits) :
    (d.feed data out).2.1.Reached limits := by
  unfold FrameDecoder.feed
  split
  · exact h
  · next hhealthy => exact feedLoop_reached data out h (by simpa using hhealthy)

theorem FrameDecoder.feedAll_reached (chunks : List Bytes) :
    (FrameDecoder.feedAll { limits } chunks).2.1.Reached limits := by
  suffices h : ∀ state : Status × FrameDecoder × List Frame, state.2.1.Reached limits →
      (chunks.foldl (fun state data => state.2.1.feed data state.2.2) state).2.1.Reached limits
    from h _ .fresh
  induction chunks with
  | nil => exact fun _ h => h
  | cons data chunks ih => exact fun state h => ih _ (feed_reached data state.2.2 h)

/-! ## Whole streams -/

/-- A stream does not fail with success. -/
theorem frameFront_failed_isOk {bs : Bytes} {status : Status}
    (h : frameFront limits bs = .failed status) : status.isOk = false := by
  unfold frameFront at h
  split at h
  · cases h
  · split at h
    · split at h
      · cases h
      · split at h
        · next hframe =>
          cases h
          unfold FrameHeader.frame failIf at hframe
          split at hframe
          · cases hframe
            rfl
          · cases hframe
        · cases h
    · next hcheck =>
      cases h
      simpa using hcheck

theorem parses_failed_isOk {bs : Bytes} {frames : List Frame} {status : Status}
    (h : Parses (frameFront limits) bs frames (.failed status)) : status.isOk = false := by
  generalize hv : (Ending.failed status : Ending UInt8 Status) = v at h
  induction h with
  | pending => cases hv
  | failed hfront =>
    cases hv
    exact frameFront_failed_isOk hfront
  | item _ _ ih => exact ih hv

theorem foldlM_encodeFrame (frames : List Frame) (h : ∀ frame ∈ frames, frame.Sendable limits)
    (out : Bytes) : frames.foldlM (fun out frame => encodeFrame frame limits out) out
      = .ok (out ++ (frames.map Frame.encode).flatten) := by
  induction frames generalizing out with
  | nil => simp [pure, Except.pure]
  | cons frame frames ih =>
    obtain ⟨hframe, hframes⟩ := List.forall_mem_cons.1 h
    rw [List.foldlM_cons, encodeFrame_eq hframe]
    show frames.foldlM _ (out ++ frame.encode) = _
    rw [ih hframes]
    simp

theorem encodeFrames_eq {frames : List Frame} (h : ∀ frame ∈ frames, frame.Sendable limits) :
    encodeFrames frames limits = .ok (frames.map Frame.encode).flatten :=
  foldlM_encodeFrame frames h []

/-- Whatever the chunks a stream arrives in, the decoder emits the same frames and reaches the
same verdict as when it is fed at once; frames that were encoded come back before anything else;
a stream that ends cleanly is what its frames encode to; and the buffer stays within one header
and the largest body. -/
theorem frames_survive_chunking (limits : RuntimeLimits) :
    (∀ chunks : List Bytes, FrameDecoder.feedAll { limits } chunks
      = FrameDecoder.feed { limits } chunks.flatten [])
    ∧ (∀ frames : List Frame, (∀ frame ∈ frames, frame.Sendable limits) →
      ∃ stream, encodeFrames frames limits = .ok stream
        ∧ ∀ (more : Bytes) (chunks : List Bytes), chunks.flatten = stream ++ more →
          frames <+: (FrameDecoder.feedAll { limits } chunks).2.2)
    ∧ (∀ chunks : List Bytes,
      (FrameDecoder.feedAll { limits } chunks).2.1.expectCleanEnd.isOk = true →
        encodeFrames (FrameDecoder.feedAll { limits } chunks).2.2 limits = .ok chunks.flatten)
    ∧ (∀ d : FrameDecoder, d.Reached limits →
      d.buffer.length ≤ kFrameHeaderBytes + limits.maxFrameBytes.toNat)
    ∧ (∀ chunks : List Bytes, (FrameDecoder.feedAll { limits } chunks).2.1.Reached limits) := by
  refine ⟨fun chunks => ?_, fun frames hframes => ?_, fun chunks hclean => ?_,
    fun d h => h.bounded.2, fun chunks => FrameDecoder.feedAll_reached chunks⟩
  · obtain ⟨frames, v, h⟩ := Parses.exists_parses (frameFront_prefixed limits) chunks.flatten
    rw [FrameDecoder.feedAll_parses h, FrameDecoder.feed_parses h]
  · refine ⟨_, encodeFrames_eq hframes, fun more chunks hchunks => ?_⟩
    obtain ⟨rest, v, hmore⟩ := Parses.exists_parses (frameFront_prefixed limits) more
    have hparses : Parses (frameFront limits) chunks.flatten (frames ++ rest) v := by
      rw [hchunks]
      exact hmore.encoded (fun x hx after => frameFront_eq_item.2 ⟨hx, rfl⟩) frames hframes
    rw [FrameDecoder.feedAll_parses hparses]
    exact List.prefix_append ..
  · obtain ⟨frames, v, h⟩ := Parses.exists_parses (frameFront_prefixed limits) chunks.flatten
    rw [FrameDecoder.feedAll_parses h] at hclean ⊢
    cases v with
    | failed status =>
      have hfailed : status.isOk = true := hclean
      rw [parses_failed_isOk h] at hfailed
      cases hfailed
    | pending rest =>
      have hempty : rest = [] := by
        cases rest with
        | nil => rfl
        | cons b rest => cases hclean
      subst hempty
      obtain ⟨hsend, hbytes⟩ := h.reencoded fun _ _ _ hitem => frameFront_eq_item.1 hitem
      rw [List.append_nil] at hbytes
      rw [hbytes]
      exact encodeFrames_eq hsend

end

end RolloutFabric
