/-
Two channels over one connection: however their owners queue, write and read, and however the socket
splits the bytes, each side is handed the frames of its peer in order, each of them once.
-/
import RolloutFabric.Protocol.Channel

namespace RolloutFabric

open Stream

inductive Side
  | left | right
deriving DecidableEq

def Side.peer : Side → Side
  | .left => .right
  | .right => .left

@[simp] theorem Side.peer_peer (s : Side) : s.peer.peer = s := by
  cases s <;> rfl

theorem Side.peer_ne (s : Side) : s.peer ≠ s := by
  cases s <;> simp [peer]

theorem Side.eq_or_eq_peer (s d : Side) : d = s ∨ d = s.peer := by
  cases s <;> cases d <;> simp [peer]

/-- A connection: the two channels, the bytes under way from each side, and as a record the frames
that each side was allowed to queue and those it has taken. -/
structure Link where
  ends : Side → FrameChannel
  wire : Side → Bytes
  queued : Side → List Frame
  taken : Side → List Frame

namespace Link

/-- A new connection of two open sockets. -/
def fresh (limits : Side → RuntimeLimits) : Link where
  ends s := .ofSocket (limits s) true .success
  wire _ := []
  queued _ := []
  taken _ := []

/-- What can happen to a connection. The socket reads the oldest bytes under way, as many as it
likes, up to the size of a chunk. -/
inductive Move
  | queue (s : Side) (frame : Frame)
  | pumpOut (s : Side) (sents : List Sent)
  | pumpIn (s : Side) (count : Nat)
  | lose (s : Side) (status : Status)
  | takeInbound (s : Side)
  | close (s : Side)

def setEnd (l : Link) (s : Side) (c : FrameChannel) : Link :=
  { l with ends := Function.update l.ends s c }

def step (l : Link) : Move → Link
  | .queue s frame =>
    let (status, c) := (l.ends s).queue frame
    let accepted := if status.isOk then l.queued s ++ [frame] else l.queued s
    { l.setEnd s c with queued := Function.update l.queued s accepted }
  | .pumpOut s sents =>
    let (c, bytes, _) := (l.ends s).pumpOut sents
    { l.setEnd s c with wire := Function.update l.wire s (l.wire s ++ bytes) }
  | .pumpIn s count =>
    if (l.ends s).usable then
      let data := (l.wire s.peer).take (min count kReadChunkBytes)
      { l.setEnd s ((l.ends s).pumpIn (.bytes data)).1 with
        wire := Function.update l.wire s.peer ((l.wire s.peer).drop data.length) }
    else l
  | .lose s status => l.setEnd s ((l.ends s).pumpIn (.failed status)).1
  | .takeInbound s =>
    let (frames, c) := (l.ends s).takeInbound
    { l.setEnd s c with taken := Function.update l.taken s (l.taken s ++ frames) }
  | .close s => l.setEnd s (l.ends s).close

def run (l : Link) (moves : List Move) : Link := moves.foldl step l

/-- The frames a side was handed: those its owner took, and those that wait for it. -/
def handed (l : Link) (s : Side) : List Frame := l.taken s ++ (l.ends s).inbound

/-! ## One direction -/

variable {limits : Side → RuntimeLimits} {l : Link} {s d : Side}

/-- The bytes a side has written are those its peer has read and those under way. -/
structure Carries (limits : Side → RuntimeLimits) (l : Link) (d : Side) : Prop where
  limits_eq : (l.ends d).limits = limits d
  bytes : ∃ read, (l.ends d).Sending (l.queued d) (read ++ l.wire d)
    ∧ (l.ends d.peer).Receiving (l.taken d.peer) read

theorem Carries.congr {l' : Link} (h : l.Carries limits d)
    (hwriting : (l'.ends d).writing = (l.ends d).writing)
    (hreading : (l'.ends d.peer).reading = (l.ends d.peer).reading)
    (hwire : l'.wire d = l.wire d) (hqueued : l'.queued d = l.queued d)
    (htaken : l'.taken d.peer = l.taken d.peer) : l'.Carries limits d := by
  obtain ⟨hlimits, read, hsending, hreceiving⟩ := h
  refine ⟨(FrameChannel.limits_of_writing hwriting).trans hlimits, read, ?_, ?_⟩
  · rw [hwire, hqueued]
    exact hsending.congr hwriting
  · rw [htaken]
    exact hreceiving.congr hreading

/-- An end of which neither half changes leaves both directions as they were. -/
theorem Carries.setEnd {c : FrameChannel} (h : l.Carries limits d)
    (hwriting : c.writing = (l.ends s).writing) (hreading : c.reading = (l.ends s).reading) :
    (l.setEnd s c).Carries limits d := by
  refine h.congr ?_ ?_ rfl rfl rfl
  · by_cases hds : d = s
    · subst hds
      simpa [Link.setEnd] using hwriting
    · simp [Link.setEnd, hds]
  · by_cases hds : d.peer = s
    · subst hds
      simpa [Link.setEnd] using hreading
    · simp [Link.setEnd, hds]

theorem step_queue (h : ∀ d, l.Carries limits d) (frame : Frame) :
    (l.step (.queue s frame)).Carries limits d := by
  obtain ⟨status, c, hqueue⟩ : ∃ status c, (l.ends s).queue frame = (status, c) := ⟨_, _, rfl⟩
  simp only [step, hqueue]
  obtain ⟨hlimits, read, hsending, hreceiving⟩ := h s
  obtain ⟨hqueued, hreading⟩ := hsending.queue hqueue
  rcases Side.eq_or_eq_peer s d with rfl | rfl
  · refine ⟨?_, read, ?_, ?_⟩
    · simpa [Link.setEnd] using (FrameChannel.limits_of_reading hreading).trans hlimits
    · simpa [Link.setEnd] using hqueued
    · simpa [Link.setEnd, Side.peer_ne] using hreceiving
  · refine (h s.peer).congr ?_ ?_ rfl ?_ rfl
    · simp [Link.setEnd, Side.peer_ne]
    · simpa [Link.setEnd] using hreading
    · simp [Side.peer_ne]

theorem step_pumpOut (h : ∀ d, l.Carries limits d) (sents : List Sent) :
    (l.step (.pumpOut s sents)).Carries limits d := by
  obtain ⟨c, bytes, drained, hpump⟩ :
    ∃ c bytes drained, (l.ends s).pumpOut sents = (c, bytes, drained) := ⟨_, _, _, rfl⟩
  simp only [step, hpump]
  obtain ⟨hlimits, read, hsending, hreceiving⟩ := h s
  obtain ⟨hsent, hreading, -⟩ := hsending.pumpOut hpump
  rcases Side.eq_or_eq_peer s d with rfl | rfl
  · refine ⟨?_, read, ?_, ?_⟩
    · simpa [Link.setEnd] using (FrameChannel.limits_of_reading hreading).trans hlimits
    · simpa [Link.setEnd, List.append_assoc] using hsent
    · simpa [Link.setEnd, Side.peer_ne] using hreceiving
  · refine (h s.peer).congr ?_ ?_ ?_ rfl rfl
    · simp [Link.setEnd, Side.peer_ne]
    · simpa [Link.setEnd] using hreading
    · simp [Side.peer_ne]

theorem step_pumpIn (h : ∀ d, l.Carries limits d) (count : Nat) :
    (l.step (.pumpIn s count)).Carries limits d := by
  simp only [step]
  split
  case isFalse => exact h d
  case isTrue husable =>
  generalize hdata : (l.wire s.peer).take (min count kReadChunkBytes) = data
  have hwire : l.wire s.peer = data ++ (l.wire s.peer).drop data.length := by
    obtain ⟨rest, hrest⟩ := List.take_prefix (min count kReadChunkBytes) (l.wire s.peer)
    rw [hdata] at hrest
    rw [← hrest, List.drop_left]
  rcases Side.eq_or_eq_peer s d with rfl | rfl
  · obtain ⟨-, read, -, hreceiving⟩ := h d.peer
    rw [Side.peer_peer] at hreceiving
    obtain ⟨-, hwriting⟩ := hreceiving.pumpIn husable data
    refine (h d).congr ?_ ?_ ?_ rfl rfl
    · simpa [Link.setEnd] using hwriting
    · simp [Link.setEnd, Side.peer_ne]
    · simp [Ne.symm (Side.peer_ne d)]
  · obtain ⟨hlimits, read, hsending, hreceiving⟩ := h s.peer
    rw [Side.peer_peer] at hreceiving
    obtain ⟨hread, -⟩ := hreceiving.pumpIn husable data
    refine ⟨by simpa [Link.setEnd, Side.peer_ne] using hlimits, read ++ data, ?_, ?_⟩
    · rw [hwire, ← List.append_assoc] at hsending
      simpa [Link.setEnd, Side.peer_ne] using hsending
    · simpa [Link.setEnd] using hread

theorem step_takeInbound (h : ∀ d, l.Carries limits d) : (l.step (.takeInbound s)).Carries limits d := by
  rcases Side.eq_or_eq_peer s d with rfl | rfl
  · refine (h d).congr ?_ ?_ rfl rfl ?_
    · simp [step, Link.setEnd, FrameChannel.takeInbound, FrameChannel.writing]
    · simp [step, Link.setEnd, Side.peer_ne]
    · simp [step, Link.setEnd, Side.peer_ne]
  · obtain ⟨hlimits, read, hsending, hreceiving⟩ := h s.peer
    rw [Side.peer_peer] at hreceiving
    refine ⟨by simpa [step, Link.setEnd, Side.peer_ne] using hlimits, read, ?_, ?_⟩
    · simpa [step, Link.setEnd, Side.peer_ne] using hsending
    · simpa [step, Link.setEnd] using hreceiving.takeInbound

/-- Whatever happens, no byte is lost on the way or read twice. -/
theorem step_carries (h : ∀ d, l.Carries limits d) (m : Move) (d : Side) : (l.step m).Carries limits d := by
  cases m with
  | queue s frame => exact step_queue h frame
  | pumpOut s sents => exact step_pumpOut h sents
  | pumpIn s count => exact step_pumpIn h count
  | lose s status =>
    obtain ⟨hreading, hwriting⟩ := FrameChannel.pumpIn_failed (l.ends s) status
    exact (h d).setEnd hwriting hreading
  | takeInbound s => exact step_takeInbound h
  | close s => exact (h d).setEnd rfl rfl

theorem fresh_carries (limits : Side → RuntimeLimits) (d : Side) : (fresh limits).Carries limits d := by
  refine ⟨rfl, [], ⟨⟨[], rfl, by simp, rfl⟩, .inl ⟨rfl, rfl⟩⟩, .pending [], .pending ?_, ?_⟩
  · exact frameFront_short (by decide)
  · show ({ limits := limits d.peer } : FrameDecoder) = _
    have hdeclared : declaredOf [] = 0 := declaredOf_short (by decide)
    simp only [FrameDecoder.ended, hdeclared]
    rfl

theorem run_carries (limits : Side → RuntimeLimits) (moves : List Move) (d : Side) :
    ((fresh limits).run moves).Carries limits d := by
  have hrun (l : Link) (h : ∀ d, l.Carries limits d) : ∀ d, (l.run moves).Carries limits d := by
    induction moves generalizing l with
    | nil => exact h
    | cons m moves ih => exact ih (l.step m) fun d => step_carries h m d
  exact hrun _ (fresh_carries limits) d

/-! ## Delivery -/

/-- A frame whose body is within its bound is read as it was written when the reader accepts it, and
fails the reader when it does not. -/
theorem frameFront_written {limits : RuntimeLimits} {frame : Frame} {bound : UInt32}
    (hbody : frame.body.length ≤ bound.toNat) (more : Bytes) :
    (frame.Sendable limits → frameFront limits (frame.encode ++ more) = .item frame more)
      ∧ (¬ frame.Sendable limits → ∃ e, frameFront limits (frame.encode ++ more) = .failed e) := by
  refine ⟨fun h => frameFront_eq_item.2 ⟨h, rfl⟩, fun h => ?_⟩
  rw [Frame.encode, List.append_assoc, frameFront_encode]
  refine ⟨_, if_neg fun hcheck => h ?_⟩
  have hchecked := FrameHeader.check_isOk.1 hcheck
  constructor
  · obtain ⟨t, ht⟩ := hchecked.type
    obtain ⟨hne, hcode⟩ := MessageType.ofCode?_eq_some.1 ht
    rintro hinvalid
    change frame.type.code = t.code at hcode
    rw [hinvalid] at hcode
    cases t <;> first | exact hne rfl | cases hcode
  · have hcount : (FrameHeader.of frame).bodyLength.toNat = frame.body.length :=
      count_toNat bound.toNat_lt hbody
    rw [← hcount]
    exact UInt32.le_iff_toNat_le.1 hchecked.bodyLength

/-- The frames handed over are the first that were queued. -/
theorem Carries.handed_first (h : l.Carries limits s) : l.handed s.peer <+: l.queued s := by
  obtain ⟨-, read, hsending, v, hparses, -⟩ := h
  obtain ⟨sent, hqueued, hbounded, hwritten⟩ := hsending.prefix
  refine (hparses.prefix_of_written (frameFront_prefixed _) (fun frame hframe more => ?_)
    ((List.prefix_append ..).trans hwritten)).trans hqueued
  obtain ⟨hitem, hfailed⟩ := @frameFront_written (l.ends s.peer).limits frame _
    (hbounded frame hframe) more
  by_cases hsendable : frame.Sendable (l.ends s.peer).limits
  · exact .inl (hitem hsendable)
  · exact .inr (hfailed hsendable)

/-- A decoder fails at nothing but a frame that its side does not accept. -/
theorem Carries.decoder_healthy (h : l.Carries limits s)
    (hall : ∀ frame ∈ l.queued s, frame.Sendable (l.ends s.peer).limits) :
    (l.ends s.peer).decoder.failed = false := by
  obtain ⟨-, read, hsending, v, hparses, hdecoder⟩ := h
  obtain ⟨sent, hqueued, -, hwritten⟩ := hsending.prefix
  rw [hdecoder]
  cases v with
  | pending rest => rfl
  | failed status =>
    refine absurd rfl (hparses.not_failed_of_written (e := status) (frameFront_prefixed _)
      (frameFront_short (by decide)) (fun frame hframe more => ?_)
      ((List.prefix_append ..).trans hwritten))
    exact frameFront_eq_item.2 ⟨hall frame (hqueued.subset hframe), rfl⟩

/-- Once everything is written and read, every frame is handed over. -/
theorem Carries.handed_all (h : l.Carries limits s)
    (hall : ∀ frame ∈ l.queued s, frame.Sendable (l.ends s.peer).limits)
    (hempty : (l.ends s).outbound = []) (hwire : l.wire s = []) :
    l.handed s.peer = l.queued s := by
  obtain ⟨-, read, hsending, v, hparses, -⟩ := h
  have hwritten := hsending.flushed hempty
  rw [hwire, List.append_nil] at hwritten
  subst hwritten
  exact (hparses.unique (Parses.of_written (frameFront_short (by decide)) fun frame hframe more =>
    frameFront_eq_item.2 ⟨hall frame hframe, rfl⟩)).1

/-- In every run of a connection, whatever the owners do and however the socket splits or loses the
bytes, a side is handed a first part of the frames its peer was allowed to queue, in order and each
of them once. Where the side accepts all of them its decoder never fails, and once all of them are
written and read it has all of them. -/
theorem run_delivers (limits : Side → RuntimeLimits) (moves : List Move) (s : Side) :
    ((fresh limits).run moves).handed s.peer <+: ((fresh limits).run moves).queued s
      ∧ ((∀ frame ∈ ((fresh limits).run moves).queued s, frame.Sendable (limits s.peer)) →
        (((fresh limits).run moves).ends s.peer).decoder.failed = false
          ∧ ((((fresh limits).run moves).ends s).outbound = [] →
            ((fresh limits).run moves).wire s = [] →
            ((fresh limits).run moves).handed s.peer = ((fresh limits).run moves).queued s)) := by
  have h := run_carries limits moves s
  have hlimits := (run_carries limits moves s.peer).limits_eq
  refine ⟨h.handed_first, fun hall => ?_⟩
  rw [← hlimits] at hall
  exact ⟨h.decoder_healthy hall, fun hempty hwire => h.handed_all hall hempty hwire⟩

/-- A hello that is written in two parts and read in two others. -/
def helloMoves : List Move :=
  [.queue .left { type := .hello, sequence := 1, body := [7] }, .pumpOut .left [.wrote 20, .wrote 40],
    .pumpIn .right 7, .pumpIn .right 60]

theorem run_delivers_hello :
    ((fresh fun _ => {}).run helloMoves).handed .right = [{ type := .hello, sequence := 1, body := [7] }] := by
  have hqueued : ((fresh fun _ => {}).run helloMoves).queued .left
      = [{ type := .hello, sequence := 1, body := [7] }] := by decide +kernel
  have hall : ∀ frame ∈ ((fresh fun _ => {}).run helloMoves).queued .left,
      frame.Sendable ({} : RuntimeLimits) := by
    rw [hqueued]
    simp only [List.forall_mem_singleton]
    exact ⟨by decide, by decide⟩
  rw [← hqueued]
  exact ((run_delivers (fun _ => {}) helloMoves .left).2 hall).2 (by decide +kernel)
    (by decide +kernel)

/-! ## Bounds -/

theorem step_backlogged (h : ∀ d, l.Carries limits d) (hback : ∀ d, (l.ends d).Backlogged) (m : Move)
    (d : Side) : ((l.step m).ends d).Backlogged := by
  have hset (s : Side) {c : FrameChannel} (hc : c.Backlogged) :
      ((l.setEnd s c).ends d).Backlogged := by
    by_cases hds : d = s
    · subst hds
      simpa [Link.setEnd] using hc
    · simpa [Link.setEnd, hds] using hback d
  cases m with
  | queue s frame => exact hset s ((hback s).queue frame)
  | pumpOut s sents => exact hset s ((hback s).pumpOut sents)
  | pumpIn s count =>
    obtain ⟨-, read, -, hreceiving⟩ := h s.peer
    rw [Side.peer_peer] at hreceiving
    simp only [step]
    split
    · refine hset s ((hback s).pumpIn hreceiving ?_)
      rw [List.length_take]
      omega
    · exact hback d
  | lose s status => exact hset s ((hback s).lose status)
  | takeInbound s => exact hset s ⟨(hback s).outbound, Nat.zero_le _, fun _ => Nat.zero_le _⟩
  | close s => exact hset s ⟨(hback s).outbound, (hback s).inbound, (hback s).healthy⟩

/-- In every run of a connection each channel keeps its queues and its buffers within bounds: only
the chunk that makes it fail takes its backlog over the ceiling, by the frames of one chunk. -/
theorem run_bounded (limits : Side → RuntimeLimits) (moves : List Move) (s : Side) :
    (((fresh limits).run moves).ends s).Backlogged
      ∧ (((fresh limits).run moves).ends s).outboundBytes.length
        ≤ kFrameHeaderBytes + (limits s).maxFrameBytes.toNat
      ∧ (((fresh limits).run moves).ends s).decoder.buffer.length
        < kFrameHeaderBytes + (limits s).maxFrameBytes.toNat := by
  have hrun (l : Link) (h : ∀ d, l.Carries limits d) (hback : ∀ d, (l.ends d).Backlogged) :
      ∀ d, ((l.run moves).ends d).Backlogged := by
    induction moves generalizing l with
    | nil => exact hback
    | cons m moves ih =>
      exact ih (l.step m) (fun d => step_carries h m d) fun d => step_backlogged h hback m d
  have hfresh (d : Side) : ((fresh limits).ends d).Backlogged :=
    ⟨Nat.zero_le _, Nat.zero_le _, fun _ => Nat.zero_le _⟩
  obtain ⟨hlimits, read, hsending, -⟩ := run_carries limits moves s
  obtain ⟨-, read', -, hreceiving⟩ := run_carries limits moves s.peer
  rw [Side.peer_peer] at hreceiving
  rw [← hlimits]
  exact ⟨hrun _ (fresh_carries limits) hfresh s, hsending.staged_le, hreceiving.buffer_lt⟩

end Link

end RolloutFabric
