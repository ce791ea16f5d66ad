/-
A framed connection: frames are queued up to a ceiling and written as the socket takes their bytes,
and the bytes the socket gives are decoded into a backlog with the same ceiling.
-/
import RolloutFabric.Protocol.Framing

namespace RolloutFabric

open Stream

/-! ## The socket -/

def kReadChunkBytes : Nat := 16 * 1024

/-- What `Socket::send` answers: the bytes it took, that it would block, or the loss of the
connection. -/
inductive Sent
  | wrote (count : Nat)
  | full
  | failed (status : Status)

/-- What `Socket::recv` answers: some bytes, that there are none yet, or the loss of the
connection. -/
inductive Received
  | bytes (data : Bytes)
  | nothing
  | failed (status : Status)

/-! ## The channel -/

structure FrameChannel where
  limits : RuntimeLimits
  decoder : FrameDecoder
  socketValid : Bool := true
  inbound : List Frame := []
  outbound : List Frame := []
  outboundBytes : Bytes := []
  outboundOffset : Nat := 0
  closed : Bool := false
  failure : Status := .success
  framesSent : UInt64 := 0
  framesReceived : UInt64 := 0

namespace FrameChannel

variable (c : FrameChannel)

/-- The first failure stays, and closes the socket. -/
def fail (status : Status) : FrameChannel :=
  if c.failure.isOk then { c with failure := status, socketValid := false } else c

/-- The constructor, with what `set_nonblocking` answers for the socket. -/
def ofSocket (limits : RuntimeLimits) (socketValid : Bool) (nonBlocking : Status) : FrameChannel :=
  let c : FrameChannel := { limits, decoder := { limits }, socketValid }
  if ¬ socketValid then
    c.fail (makeStatus .unavailable (text "the channel socket is not open"))
  else if ¬ nonBlocking.isOk then c.fail nonBlocking
  else c

/-- Neither failed nor closed. -/
def usable : Bool := c.failure.isOk && !c.closed && c.socketValid

def queue (frame : Frame) : Status × FrameChannel :=
  if ¬ c.failure.isOk then (c.failure, c)
  else if c.closed ∨ ¬ c.socketValid then
    (makeStatus .unavailable (text "queue: the channel is closed"), c)
  else if c.limits.maxQueuedFramesPerConnection.toNat ≤ c.outbound.length then
    (makeStatus .resourceExhausted (text "queue: the outbound queue already holds "
      ++ toStringNat c.outbound.length ++ text " frame(s), the configured ceiling"), c)
  else (.success, { c with outbound := c.outbound ++ [frame] })

/-- What the head of the loop of `pump_out` finds: nothing to write, a frame it cannot encode, or
bytes of the frame at the front. -/
inductive Staged
  | drained (c : FrameChannel)
  | refused (c : FrameChannel)
  | ready (c : FrameChannel)

def stage : Staged :=
  if c.outboundBytes.length = c.outboundOffset then
    match c.outbound with
    | [] => .drained { c with outboundBytes := [], outboundOffset := 0 }
    | frame :: _ =>
      match encodeFrame frame c.limits [] with
      | .error status => .refused ({ c with outboundBytes := [], outboundOffset := 0 }.fail status)
      | .ok bytes => .ready { c with outboundBytes := bytes, outboundOffset := 0 }
  else .ready c

/-- The socket took that many bytes; with the last of them the frame leaves the queue. -/
def advance (count : Nat) : FrameChannel :=
  if c.outboundOffset + count < c.outboundBytes.length then
    { c with outboundOffset := c.outboundOffset + count }
  else { c with
    outboundBytes := []
    outboundOffset := 0
    outbound := c.outbound.tail
    framesSent := c.framesSent + 1 }

/-- The loop of `pump_out`, with what every call of `send` answers: the channel, the bytes that were
written, and whether nothing is left. -/
def pumpLoop (c : FrameChannel) (sents : List Sent) : FrameChannel × Bytes × Bool :=
  match c.stage with
  | .drained c => (c, [], true)
  | .refused c => (c, [], false)
  | .ready c =>
    match sents with
    | .wrote (count + 1) :: rest =>
      let chunk := (c.outboundBytes.drop c.outboundOffset).take (count + 1)
      let (c', more, drained) := pumpLoop (c.advance chunk.length) rest
      (c', chunk ++ more, drained)
    | .failed status :: _ => (c.fail status, [], false)
    | _ => (c, [], false)

def pumpOut (sents : List Sent) : FrameChannel × Bytes × Bool :=
  if c.usable then c.pumpLoop sents
  else (c, [], c.outbound.isEmpty && c.outboundBytes.length == c.outboundOffset)

/-- The frames of the bytes that were read, and whether there may be more to read. -/
def pumpData (data : Bytes) : FrameChannel × Bool :=
  let (fed, decoder, inbound) := c.decoder.feed data c.inbound
  let c' := { c with decoder, inbound }
  if ¬ fed.isOk then (c'.fail fed, false)
  else
    let c' := { c' with
      framesReceived := c.framesReceived + (inbound.length - c.inbound.length).toUInt64 }
    if c.limits.maxQueuedFramesPerConnection.toNat < inbound.length then
      (c'.fail (makeStatus .resourceExhausted
        (text "the inbound frame backlog exceeded the configured ceiling of "
          ++ toStringNat c.limits.maxQueuedFramesPerConnection.toNat ++ text " frame(s)")), false)
    else (c', true)

def pumpIn (received : Received) : FrameChannel × Bool :=
  if ¬ c.usable then (c, false)
  else match received with
    | .nothing => (c, false)
    | .failed status => (c.fail status, false)
    | .bytes data => if data.isEmpty then (c, false) else c.pumpData data

def takeInbound : List Frame × FrameChannel := (c.inbound, { c with inbound := [] })

def close : FrameChannel := { c with closed := true, socketValid := false }

/-! ## Writing -/

variable {c c' : FrameChannel} {queued : List Frame} {written bytes : Bytes} {limits : RuntimeLimits}

theorem encodeFrame_ok {frame : Frame} {out : Bytes}
    (h : encodeFrame frame limits out = .ok bytes) :
    frame.body.length ≤ limits.maxFrameBytes.toNat ∧ bytes = out ++ frame.encode := by
  unfold encodeFrame at h
  obtain ⟨hbound, h⟩ := Status.toResult_bind_ok h
  cases h
  refine ⟨?_, ?_⟩
  · by_contra hlong
    simp [failIf, Nat.not_le.1 hlong] at hbound
  · simp [Frame.encode, FrameHeader.encode, FrameHeader.covered, FrameHeader.of, Frame.headerFields,
      ByteWriter.count]

/-- What the channel has written of the frames that were queued: those that left the queue, and the
first bytes of the one at the front. -/
structure Sending (c : FrameChannel) (queued : List Frame) (written : Bytes) : Prop where
  split : ∃ sent, queued = sent ++ c.outbound
    ∧ (∀ frame ∈ sent, frame.body.length ≤ c.limits.maxFrameBytes.toNat)
    ∧ written = (sent.map Frame.encode).flatten ++ c.outboundBytes.take c.outboundOffset
  staged : (c.outboundBytes = [] ∧ c.outboundOffset = 0)
    ∨ ∃ frame rest, c.outbound = frame :: rest ∧ c.outboundBytes = frame.encode
      ∧ frame.body.length ≤ c.limits.maxFrameBytes.toNat
      ∧ c.outboundOffset < c.outboundBytes.length

/-- What the channel has of its connection as a reader. -/
def reading (c : FrameChannel) : RuntimeLimits × FrameDecoder × List Frame :=
  (c.limits, c.decoder, c.inbound)

/-- What the channel has of its connection as a writer. -/
def writing (c : FrameChannel) : RuntimeLimits × List Frame × Bytes × Nat :=
  (c.limits, c.outbound, c.outboundBytes, c.outboundOffset)

theorem limits_of_reading (h : c'.reading = c.reading) : c'.limits = c.limits :=
  congrArg Prod.fst h

theorem limits_of_writing (h : c'.writing = c.writing) : c'.limits = c.limits :=
  congrArg Prod.fst h

theorem Sending.congr (h : c.Sending queued written) (hwriting : c'.writing = c.writing) :
    c'.Sending queued written := by
  simp only [writing, Prod.mk.injEq] at hwriting
  obtain ⟨hlimits, houtbound, hbytes, hoffset⟩ := hwriting
  constructor
  · rw [hlimits, houtbound, hbytes, hoffset]
    exact h.split
  · rw [hlimits, houtbound, hbytes, hoffset]
    exact h.staged

@[simp] theorem fail_writing (c : FrameChannel) (status : Status) :
    (c.fail status).writing = c.writing := by
  unfold fail
  split <;> rfl

@[simp] theorem fail_reading (c : FrameChannel) (status : Status) :
    (c.fail status).reading = c.reading := by
  unfold fail
  split <;> rfl

/-- Between two frames nothing is staged. -/
theorem Sending.idle (h : c.Sending queued written)
    (hoffset : c.outboundBytes.length = c.outboundOffset) :
    c.outboundBytes = [] ∧ c.outboundOffset = 0 := by
  rcases h.staged with hidle | ⟨_, _, -, -, -, hlt⟩
  · exact hidle
  · omega

theorem stage_drained (h : c.Sending queued written) (hstage : c.stage = .drained c') :
    c'.Sending queued written ∧ c'.reading = c.reading ∧ c'.outbound = []
      ∧ c'.outboundBytes = [] := by
  unfold stage at hstage
  split at hstage
  · next hoffset =>
    obtain ⟨hbytes, hzero⟩ := h.idle hoffset
    split at hstage
    · next hempty =>
      cases hstage
      refine ⟨h.congr ?_, rfl, hempty, rfl⟩
      simp [writing, hbytes, hzero]
    · split at hstage <;> cases hstage
  · cases hstage

theorem stage_refused (h : c.Sending queued written) (hstage : c.stage = .refused c') :
    c'.Sending queued written ∧ c'.reading = c.reading := by
  unfold stage at hstage
  split at hstage
  · next hoffset =>
    obtain ⟨hbytes, hzero⟩ := h.idle hoffset
    split at hstage
    · cases hstage
    · split at hstage
      · cases hstage
        refine ⟨h.congr ?_, fail_reading _ _⟩
        rw [fail_writing]
        simp [writing, hbytes, hzero]
      · cases hstage
  · cases hstage

theorem stage_ready (h : c.Sending queued written) (hstage : c.stage = .ready c') :
    c'.Sending queued written ∧ c'.reading = c.reading
      ∧ c'.outboundOffset < c'.outboundBytes.length := by
  unfold stage at hstage
  split at hstage
  · next hoffset =>
    obtain ⟨hbytes, hzero⟩ := h.idle hoffset
    split at hstage
    · cases hstage
    · next frame rest hfront =>
      split at hstage
      · cases hstage
      · next encoded hencoded =>
        cases hstage
        obtain ⟨hbody, rfl⟩ := encodeFrame_ok hencoded
        have hpos : 0 < frame.encode.length := by
          rw [Frame.encode_length]
          omega
        rw [List.nil_append]
        refine ⟨⟨?_, .inr ⟨frame, rest, hfront, rfl, hbody, hpos⟩⟩, rfl, hpos⟩
        obtain ⟨sent, hqueued, hsent, hwritten⟩ := h.split
        refine ⟨sent, hqueued, hsent, ?_⟩
        rw [hwritten, hbytes]
        simp
  · next hoffset =>
    cases hstage
    refine ⟨h, rfl, ?_⟩
    rcases h.staged with ⟨hbytes, hzero⟩ | ⟨_, _, -, -, -, hlt⟩
    · rw [hbytes, hzero] at hoffset
      exact absurd rfl hoffset
    · exact hlt

/-- The socket takes some of the staged bytes. -/
theorem Sending.advance (h : c.Sending queued written)
    (hstaged : c.outboundOffset < c.outboundBytes.length) (count : Nat) :
    (c.advance ((c.outboundBytes.drop c.outboundOffset).take count).length).Sending queued
        (written ++ (c.outboundBytes.drop c.outboundOffset).take count)
      ∧ (c.advance ((c.outboundBytes.drop c.outboundOffset).take count).length).reading
        = c.reading := by
  obtain ⟨sent, hqueued, hsent, hwritten⟩ := h.split
  obtain ⟨frame, rest, hfront, hencoded, hbody, -⟩ := h.staged.resolve_left (by
    rintro ⟨hbytes, hzero⟩
    rw [hbytes, hzero] at hstaged
    exact absurd hstaged (Nat.lt_irrefl 0))
  have hcount : ((c.outboundBytes.drop c.outboundOffset).take count).length
      = min count (c.outboundBytes.length - c.outboundOffset) := by
    rw [List.length_take, List.length_drop]
  unfold FrameChannel.advance
  split
  · next hmore =>
    have htaken : ((c.outboundBytes.drop c.outboundOffset).take count).length = count := by omega
    refine ⟨⟨⟨sent, hqueued, hsent, ?_⟩, .inr ⟨frame, rest, hfront, hencoded, hbody, hmore⟩⟩, rfl⟩
    rw [hwritten, List.append_assoc, htaken, List.take_add]
  · next hdone =>
    -- the last byte of the frame is written
    have hall : (c.outboundBytes.drop c.outboundOffset).take count
        = c.outboundBytes.drop c.outboundOffset := by
      rw [List.take_of_length_le]
      rw [List.length_drop]
      omega
    refine ⟨⟨⟨sent ++ [frame], ?_, ?_, ?_⟩, .inl ⟨rfl, rfl⟩⟩, rfl⟩
    · simp [hqueued, hfront]
    · exact List.forall_mem_append.2 ⟨hsent, by simpa using hbody⟩
    · rw [hwritten, hall, List.append_assoc, List.take_append_drop, hencoded]
      simp

/-- Bytes that the socket took were the next ones of the stream. -/
theorem Sending.pumpLoop {sents : List Sent} {drained : Bool} (h : c.Sending queued written)
    (hpump : c.pumpLoop sents = (c', bytes, drained)) :
    c'.Sending queued (written ++ bytes) ∧ c'.reading = c.reading
      ∧ (drained = true → c'.outbound = [] ∧ c'.outboundBytes = []) := by
  induction c, sents using FrameChannel.pumpLoop.induct generalizing written bytes with
  -- nothing is left to send
  | case1 sents c c1 hstage =>
    unfold FrameChannel.pumpLoop at hpump
    rw [hstage] at hpump
    cases hpump
    obtain ⟨hsending, hreading, hempty⟩ := stage_drained h hstage
    rw [List.append_nil]
    exact ⟨hsending, hreading, fun _ => hempty⟩
  -- the next message cannot be staged
  | case2 sents c c1 hstage =>
    unfold FrameChannel.pumpLoop at hpump
    rw [hstage] at hpump
    cases hpump
    obtain ⟨hsending, hreading⟩ := stage_refused h hstage
    rw [List.append_nil]
    exact ⟨hsending, hreading, fun hfalse => by cases hfalse⟩
  -- the socket takes some bytes, and the rest stays staged
  | case3 c c1 hstage count rest chunk c2 more drained' hrest =>
    rename_i ih
    unfold FrameChannel.pumpLoop at hpump
    simp only [hstage] at hpump
    rw [hrest] at hpump
    cases hpump
    obtain ⟨hsending, hreading, hstaged⟩ := stage_ready h hstage
    obtain ⟨hadvanced, hkept⟩ := hsending.advance hstaged (count + 1)
    obtain ⟨hsent, hsame, hdrained⟩ := ih hadvanced hrest
    rw [List.append_assoc] at hsent
    exact ⟨hsent, (hsame.trans hkept).trans hreading, hdrained⟩
  -- the socket fails
  | case4 c c1 hstage status rest =>
    unfold FrameChannel.pumpLoop at hpump
    rw [hstage] at hpump
    cases hpump
    obtain ⟨hsending, hreading, -⟩ := stage_ready h hstage
    rw [List.append_nil]
    exact ⟨hsending.congr (fail_writing _ _), (fail_reading _ _).trans hreading,
      fun hfalse => by cases hfalse⟩
  -- the socket takes nothing for now
  | case5 sents c c1 hstage hwrote hfailed =>
    unfold FrameChannel.pumpLoop at hpump
    rw [hstage] at hpump
    obtain ⟨hsending, hreading, -⟩ := stage_ready h hstage
    dsimp only at hpump
    split at hpump
    · next count rest => exact (hwrote count rest rfl).elim
    · next status rest => exact (hfailed status rest rfl).elim
    · cases hpump
      rw [List.append_nil]
      exact ⟨hsending, hreading, fun hfalse => by cases hfalse⟩

theorem Sending.pumpOut {sents : List Sent} {drained : Bool} (h : c.Sending queued written)
    (hpump : c.pumpOut sents = (c', bytes, drained)) :
    c'.Sending queued (written ++ bytes) ∧ c'.reading = c.reading
      ∧ (drained = true → c'.outbound = [] ∧ c'.outboundBytes = []) := by
  unfold FrameChannel.pumpOut at hpump
  split at hpump
  · exact h.pumpLoop hpump
  · cases hpump
    rw [List.append_nil]
    refine ⟨h, rfl, fun hdrained => ?_⟩
    simp only [Bool.and_eq_true, List.isEmpty_iff, beq_iff_eq] at hdrained
    exact ⟨hdrained.1, (h.idle hdrained.2).1⟩

theorem Sending.queue {frame : Frame} {status : Status} (h : c.Sending queued written)
    (hqueue : c.queue frame = (status, c')) :
    c'.Sending (if status.isOk then queued ++ [frame] else queued) written
      ∧ c'.reading = c.reading := by
  unfold FrameChannel.queue at hqueue
  split at hqueue
  · next hfailed =>
    cases hqueue
    rw [if_neg hfailed]
    exact ⟨h, rfl⟩
  · split at hqueue
    · cases hqueue
      exact ⟨h, rfl⟩
    · split at hqueue
      · cases hqueue
        exact ⟨h, rfl⟩
      · cases hqueue
        obtain ⟨sent, hqueued, hsent, hwritten⟩ := h.split
        refine ⟨⟨⟨sent, ?_, hsent, hwritten⟩, ?_⟩, rfl⟩
        · show queued ++ [frame] = sent ++ (c.outbound ++ [frame])
          rw [hqueued, List.append_assoc]
        · rcases h.staged with hidle | ⟨front, rest, hfront, hstaged⟩
          · exact .inl hidle
          · exact .inr ⟨front, rest ++ [frame], by simp [hfront], hstaged⟩

/-- All that was written belongs to the first of the frames that were queued. -/
theorem Sending.prefix (h : c.Sending queued written) : ∃ sent, sent <+: queued
    ∧ (∀ frame ∈ sent, frame.body.length ≤ c.limits.maxFrameBytes.toNat)
    ∧ written <+: (sent.map Frame.encode).flatten := by
  obtain ⟨sent, hqueued, hsent, hwritten⟩ := h.split
  rcases h.staged with ⟨hbytes, -⟩ | ⟨frame, rest, hfront, hencoded, hbody, -⟩
  · refine ⟨sent, ⟨c.outbound, hqueued.symm⟩, hsent, ?_⟩
    rw [hwritten, hbytes]
    simp
  · refine ⟨sent ++ [frame], ⟨rest, by simp [hqueued, hfront]⟩,
      List.forall_mem_append.2 ⟨hsent, by simpa using hbody⟩, ?_⟩
    rw [hwritten, hencoded, List.map_append, List.flatten_append]
    simp only [List.map_cons, List.map_nil, List.flatten_cons, List.flatten_nil, List.append_nil]
    exact (List.prefix_append_right_inj _).2 (List.take_prefix _ _)

/-- With an empty queue everything was written. -/
theorem Sending.flushed (h : c.Sending queued written) (hempty : c.outbound = []) :
    written = (queued.map Frame.encode).flatten := by
  obtain ⟨sent, hqueued, -, hwritten⟩ := h.split
  rcases h.staged with ⟨hbytes, -⟩ | ⟨_, _, hfront, -⟩
  · rw [hwritten, hqueued, hempty, hbytes]
    simp
  · rw [hempty] at hfront
    cases hfront

/-! ## Reading -/

/-- A stream that waits for more holds less than the largest frame. -/
theorem length_incomplete {bs : Bytes} (h : frameFront limits bs = .incomplete) :
    bs.length < kFrameHeaderBytes + limits.maxFrameBytes.toNat := by
  by_cases hshort : bs.length < kFrameHeaderBytes
  · omega
  · obtain ⟨header, rest, rfl⟩ := exists_header (Nat.not_lt.1 hshort)
    rw [frameFront_encode] at h
    split at h
    · next hcheck =>
      have hbody := UInt32.le_iff_toNat_le.1 (FrameHeader.check_isOk.1 hcheck).bodyLength
      split at h
      · next hlt =>
        rw [List.length_append, FrameHeader.encode_length, kFrameHeaderBytes]
        omega
      · split at h <;> cases h
    · cases h

theorem length_encoded (frames : List Frame) :
    48 * frames.length ≤ (frames.map Frame.encode).flatten.length := by
  induction frames with
  | nil => simp
  | cons frame frames ih =>
    rw [List.map_cons, List.flatten_cons, List.length_append, Frame.encode_length, List.length_cons]
    omega

/-- A chunk completes one frame, and brings others of at least a header each. -/
theorem length_frames {rest data : Bytes} {frames : List Frame} {w : Ending UInt8 Status}
    (hrest : frameFront limits rest = .incomplete)
    (h : Parses (frameFront limits) (rest ++ data) frames w) :
    48 * frames.length < 48 + data.length := by
  cases h with
  | pending => exact Nat.lt_of_lt_of_le (by decide : 48 * 0 < 48) (Nat.le_add_right ..)
  | failed => exact Nat.lt_of_lt_of_le (by decide : 48 * 0 < 48) (Nat.le_add_right ..)
  | @item _ after frame frames _ hitem htail =>
    obtain ⟨hsendable, hbytes⟩ := frameFront_eq_item.1 hitem
    have hafter := (htail.items_prefix fun _ _ _ h => (frameFront_eq_item.1 h).2).length_le
    have hmany := length_encoded frames
    -- the first frame does not stand in what was there before
    have hfirst : rest.length < frame.encode.length := by
      by_contra hle
      obtain ⟨more, rfl⟩ : frame.encode <+: rest := by
        refine List.prefix_of_prefix_length_le ?_ (List.prefix_append rest data) (Nat.not_lt.1 hle)
        rw [hbytes]
        exact List.prefix_append _ _
      rw [frameFront_eq_item.2 ⟨hsendable, rfl⟩] at hrest
      cases hrest
    have hlength := congrArg List.length hbytes
    rw [List.length_append, List.length_append] at hlength
    rw [List.length_cons]
    omega

variable {taken : List Frame} {read : Bytes}

/-- What the channel has made of the bytes it has read: these frames, of which some were taken. -/
def Receiving (c : FrameChannel) (taken : List Frame) (read : Bytes) : Prop :=
  ∃ v, Parses (frameFront c.limits) read (taken ++ c.inbound) v
    ∧ c.decoder = .ended c.limits (taken ++ c.inbound).length.toUInt64 v

theorem Receiving.congr (h : c.Receiving taken read) (hreading : c'.reading = c.reading) :
    c'.Receiving taken read := by
  simp only [reading, Prod.mk.injEq] at hreading
  obtain ⟨hlimits, hdecoder, hinbound⟩ := hreading
  unfold Receiving
  rw [hlimits, hdecoder, hinbound]
  exact h

/-- The decoder goes on where it stopped. -/
theorem Receiving.feed (h : c.Receiving taken read) (data : Bytes) : ∃ frames w,
    c.decoder.feed data c.inbound = (verdict w,
        .ended c.limits (taken ++ (c.inbound ++ frames)).length.toUInt64 w, c.inbound ++ frames)
      ∧ Parses (frameFront c.limits) (read ++ data) (taken ++ (c.inbound ++ frames)) w
      ∧ 48 * frames.length < 48 + data.length := by
  obtain ⟨v, hparses, hdecoder⟩ := h
  rw [hdecoder]
  cases v with
  | failed status =>
    refine ⟨[], .failed status, ?_, ?_,
      Nat.lt_of_lt_of_le (by decide : 48 * 0 < 48) (Nat.le_add_right ..)⟩
    · rw [FrameDecoder.feed_failed, List.append_nil]
      rfl
    · rw [List.append_nil]
      exact hparses.append_failed (frameFront_prefixed c.limits) data
  | pending rest =>
    obtain ⟨frames, w, hframes⟩ :=
      Parses.exists_parses (frameFront_prefixed c.limits) (rest ++ data)
    refine ⟨frames, w, ?_, ?_, length_frames hparses.pending_incomplete hframes⟩
    · rw [FrameDecoder.feed_pending hparses.pending_incomplete hframes]
      simp [UInt64.add_assoc]
    · rw [← List.append_assoc]
      exact hparses.append_pending (frameFront_prefixed c.limits) hframes

theorem Receiving.pumpData (h : c.Receiving taken read) (data : Bytes) :
    (c.pumpData data).1.Receiving taken (read ++ data)
      ∧ (c.pumpData data).1.writing = c.writing := by
  obtain ⟨frames, w, hfeed, hparses, -⟩ := h.feed data
  have hreceiving : ({ c with
      decoder := .ended c.limits (taken ++ (c.inbound ++ frames)).length.toUInt64 w
      inbound := c.inbound ++ frames } : FrameChannel).Receiving taken (read ++ data) :=
    ⟨w, hparses, rfl⟩
  unfold FrameChannel.pumpData
  simp only [hfeed]
  split
  · exact ⟨hreceiving.congr (fail_reading _ _), fail_writing _ _⟩
  · split
    · exact ⟨hreceiving.congr (fail_reading _ _), fail_writing _ _⟩
    · exact ⟨hreceiving.congr rfl, rfl⟩

theorem Receiving.pumpIn (h : c.Receiving taken read) (husable : c.usable = true) (data : Bytes) :
    (c.pumpIn (.bytes data)).1.Receiving taken (read ++ data)
      ∧ (c.pumpIn (.bytes data)).1.writing = c.writing := by
  unfold FrameChannel.pumpIn
  rw [if_neg (not_not.2 husable)]
  dsimp only
  split
  · next hempty =>
    rw [List.isEmpty_iff.1 hempty, List.append_nil]
    exact ⟨h, rfl⟩
  · exact h.pumpData data

theorem pumpIn_failed (c : FrameChannel) (status : Status) :
    (c.pumpIn (.failed status)).1.reading = c.reading
      ∧ (c.pumpIn (.failed status)).1.writing = c.writing := by
  unfold FrameChannel.pumpIn
  split
  · exact ⟨rfl, rfl⟩
  · exact ⟨fail_reading _ _, fail_writing _ _⟩

theorem Receiving.takeInbound (h : c.Receiving taken read) :
    c.takeInbound.2.Receiving (taken ++ c.takeInbound.1) read := by
  obtain ⟨v, hparses, hdecoder⟩ := h
  refine ⟨v, ?_, ?_⟩
  · simpa [FrameChannel.takeInbound] using hparses
  · simpa [FrameChannel.takeInbound] using hdecoder

/-! ## Bounds -/

/-- How many frames a chunk completes at most. -/
def kFramesPerChunk : Nat := 342

/-- The queues keep to their ceiling; the chunk that breaks it for the backlog is the last one. -/
structure Backlogged (c : FrameChannel) : Prop where
  outbound : c.outbound.length ≤ c.limits.maxQueuedFramesPerConnection.toNat
  inbound : c.inbound.length ≤ c.limits.maxQueuedFramesPerConnection.toNat + kFramesPerChunk
  healthy : c.failure.isOk = true → c.inbound.length ≤ c.limits.maxQueuedFramesPerConnection.toNat

theorem fail_fields (c : FrameChannel) (status : Status) :
    (c.fail status).limits = c.limits ∧ (c.fail status).outbound = c.outbound
      ∧ (c.fail status).inbound = c.inbound := by
  unfold fail
  split <;> exact ⟨rfl, rfl, rfl⟩

theorem Backlogged.fail (h : c.Backlogged) (status : Status) : (c.fail status).Backlogged := by
  obtain ⟨hlimits, houtbound, hinbound⟩ := fail_fields c status
  constructor
  · rw [houtbound, hlimits]
    exact h.outbound
  · rw [hinbound, hlimits]
    exact h.inbound
  · intro hok
    rw [hinbound, hlimits]
    refine h.healthy ?_
    unfold FrameChannel.fail at hok
    split at hok
    · assumption
    · exact hok

/-- A channel that fails need not keep to the ceiling any more. -/
theorem Backlogged.of_fail {status : Status}
    (houtbound : c.outbound.length ≤ c.limits.maxQueuedFramesPerConnection.toNat)
    (hinbound : c.inbound.length ≤ c.limits.maxQueuedFramesPerConnection.toNat + kFramesPerChunk)
    (hstatus : status.isOk = false) : (c.fail status).Backlogged := by
  obtain ⟨hlimits, hsameOutbound, hsameInbound⟩ := fail_fields c status
  constructor
  · rwa [hsameOutbound, hlimits]
  · rwa [hsameInbound, hlimits]
  · intro hok
    unfold FrameChannel.fail at hok
    split at hok
    · exact absurd hok (by simp [hstatus])
    · exact absurd hok (by assumption)

theorem Backlogged.queue (h : c.Backlogged) (frame : Frame) : (c.queue frame).2.Backlogged := by
  unfold FrameChannel.queue
  split
  · exact h
  · split
    · exact h
    · split
      · exact h
      · next hroom =>
        refine ⟨?_, h.inbound, h.healthy⟩
        rw [List.length_append]
        exact Nat.lt_of_not_le hroom

theorem Backlogged.stage (h : c.Backlogged) (hstage : c.stage = .drained c' ∨ c.stage = .refused c'
    ∨ c.stage = .ready c') : c'.Backlogged := by
  unfold FrameChannel.stage at hstage
  split at hstage
  · split at hstage
    · rcases hstage with h1 | h1 | h1 <;> cases h1
      exact ⟨h.outbound, h.inbound, h.healthy⟩
    · split at hstage
      · rcases hstage with h1 | h1 | h1 <;> cases h1
        have hcleared : ({ c with outboundBytes := [], outboundOffset := 0 } : FrameChannel).Backlogged :=
          ⟨h.outbound, h.inbound, h.healthy⟩
        exact hcleared.fail _
      · rcases hstage with h1 | h1 | h1 <;> cases h1
        exact ⟨h.outbound, h.inbound, h.healthy⟩
  · rcases hstage with h1 | h1 | h1 <;> cases h1
    exact h

theorem Backlogged.advance (h : c.Backlogged) (count : Nat) : (c.advance count).Backlogged := by
  unfold FrameChannel.advance
  split
  · exact ⟨h.outbound, h.inbound, h.healthy⟩
  · refine ⟨?_, h.inbound, h.healthy⟩
    have houtbound := h.outbound
    simp only [List.length_tail]
    omega

theorem Backlogged.pumpLoop (h : c.Backlogged) (sents : List Sent) :
    (c.pumpLoop sents).1.Backlogged := by
  induction c, sents using FrameChannel.pumpLoop.induct with
  | case1 sents c c1 hstage =>
    unfold FrameChannel.pumpLoop
    rw [hstage]
    exact h.stage (.inl hstage)
  | case2 sents c c1 hstage =>
    unfold FrameChannel.pumpLoop
    rw [hstage]
    exact h.stage (.inr (.inl hstage))
  | case3 c c1 hstage count rest chunk c2 more drained hrest =>
    rename_i ih
    have hnext := ih ((h.stage (.inr (.inr hstage))).advance _)
    rw [hrest] at hnext
    unfold FrameChannel.pumpLoop
    simp only [hstage]
    rw [hrest]
    exact hnext
  | case4 c c1 hstage status rest =>
    unfold FrameChannel.pumpLoop
    rw [hstage]
    exact (h.stage (.inr (.inr hstage))).fail status
  | case5 sents c c1 hstage hwrote hfailed =>
    unfold FrameChannel.pumpLoop
    rw [hstage]
    dsimp only
    split
    · next count rest => exact (hwrote count rest rfl).elim
    · next status rest => exact (hfailed status rest rfl).elim
    · exact h.stage (.inr (.inr hstage))

theorem Backlogged.pumpOut (h : c.Backlogged) (sents : List Sent) :
    (c.pumpOut sents).1.Backlogged := by
  unfold FrameChannel.pumpOut
  split
  · exact h.pumpLoop sents
  · exact h

theorem Backlogged.lose (h : c.Backlogged) (status : Status) :
    (c.pumpIn (.failed status)).1.Backlogged := by
  unfold FrameChannel.pumpIn
  split
  · exact h
  · exact h.fail status

theorem Backlogged.pumpData (h : c.Backlogged) (hreceiving : c.Receiving taken read)
    (husable : c.usable = true) {data : Bytes} (hdata : data.length ≤ kReadChunkBytes) :
    (c.pumpData data).1.Backlogged := by
  have hbefore : c.inbound.length ≤ c.limits.maxQueuedFramesPerConnection.toNat := by
    simp only [usable, Bool.and_eq_true] at husable
    exact h.healthy husable.1.1
  obtain ⟨frames, w, hfeed, -, hcount⟩ := hreceiving.feed data
  have hmany : frames.length ≤ kFramesPerChunk := by
    simp only [kReadChunkBytes, kFramesPerChunk] at *
    omega
  have hinbound : (c.inbound ++ frames).length
      ≤ c.limits.maxQueuedFramesPerConnection.toNat + kFramesPerChunk := by
    rw [List.length_append]
    omega
  unfold FrameChannel.pumpData
  simp only [hfeed]
  split
  · next hfailed => exact Backlogged.of_fail h.outbound hinbound (by simpa using hfailed)
  · split
    · exact Backlogged.of_fail h.outbound hinbound rfl
    · next hroom => exact ⟨h.outbound, hinbound, fun _ => Nat.not_lt.1 hroom⟩

theorem Backlogged.pumpIn (h : c.Backlogged) (hreceiving : c.Receiving taken read)
    {data : Bytes} (hdata : data.length ≤ kReadChunkBytes) :
    (c.pumpIn (.bytes data)).1.Backlogged := by
  unfold FrameChannel.pumpIn
  split
  · exact h
  · next husable =>
    dsimp only
    split
    · exact h
    · exact h.pumpData hreceiving (not_not.1 husable) hdata

theorem Sending.staged_le (h : c.Sending queued written) :
    c.outboundBytes.length ≤ kFrameHeaderBytes + c.limits.maxFrameBytes.toNat := by
  rcases h.staged with ⟨hbytes, -⟩ | ⟨frame, _, -, hencoded, hbody, -⟩
  · rw [hbytes]
    exact Nat.zero_le _
  · rw [hencoded, Frame.encode_length, kFrameHeaderBytes]
    omega

theorem Receiving.buffer_lt (h : c.Receiving taken read) :
    c.decoder.buffer.length < kFrameHeaderBytes + c.limits.maxFrameBytes.toNat := by
  obtain ⟨v, hparses, hdecoder⟩ := h
  rw [hdecoder]
  cases v with
  | pending rest => exact length_incomplete hparses.pending_incomplete
  | failed status =>
    show 0 < _
    simp only [kFrameHeaderBytes]
    omega

end FrameChannel

end RolloutFabric
