/-
What a client learns from an answer: in every run of a controller the first request of a connection
is executed once at most, and no answer is given but the one that execution made.
-/
import RolloutFabric.Codec.Splits
import RolloutFabric.Controller.Sessions
import RolloutFabric.Protocol.Canonical
import RolloutFabric.Safety.StageOrder

namespace RolloutFabric

open Coding Decoding

variable {ρ : Type} {e : ControllerEnv ρ}

/-! ## Messages that are told apart -/

theorem statusCode_splits {a b : StatusCode} :
    Splits (ByteWriter.u16 a.code) (ByteWriter.u16 b.code) (a = b) := by
  intro r r' heq
  have ha := (decodeStatusCode_exact [] (ByteWriter.u16 a.code ++ r) a r).2 ⟨trivial, rfl⟩
  have hb := (decodeStatusCode_exact [] (ByteWriter.u16 a.code ++ r) b r').2 ⟨trivial, heq⟩
  rw [ha] at hb
  obtain ⟨rfl, rfl⟩ := Prod.mk.inj (Except.ok.inj hb)
  exact ⟨rfl, rfl⟩

theorem length_le_of_mem_flatten {l : Bytes} {ls : List Bytes} (h : ByteWriter.string l ∈ ls) :
    l.length ≤ ls.flatten.length := by
  have hlength := (List.sublist_flatten_of_mem h).length_le
  unfold ByteWriter.string at hlength
  rw [List.length_append] at hlength
  exact (Nat.le_add_left ..).trans hlength

/-- Requests of one encoding, short enough for a frame, are one request. -/
theorem CommandRequestMessage.encode_inj {a b : CommandRequestMessage}
    (hshort : a.encode.length < kLengthBound) (h : a.encode = b.encode) : a = b := by
  have hlength (m : CommandRequestMessage) (hm : m.encode.length < kLengthBound) :
      m.reason.length < kLengthBound ∧ m.operatorName.length < kLengthBound
        ∧ m.planPath.length < kLengthBound := by
    refine ⟨?_, ?_, ?_⟩
    all_goals exact Nat.lt_of_le_of_lt (length_le_of_mem_flatten (by simp)) hm
  obtain ⟨hreason, hoperator, hpath⟩ := hlength a hshort
  obtain ⟨hreason', hoperator', hpath'⟩ := hlength b (h ▸ hshort)
  have hsplits : Splits a.encode b.encode _ := enum_splits.next <| id_splits.next <|
    id_splits.next <| id_splits.next <| u64_splits.next <| boolean_splits.next <|
    boolean_splits.next <| (string_splits hreason hreason').next <|
    (string_splits hoperator hoperator').next <| (string_splits hpath hpath').last
  obtain ⟨hkind, hrollout, hgate, hgeneration, hrevision, hchecked, hchecked', hreasons, hoperators,
    hpaths⟩ := hsplits.eq h
  cases a
  cases b
  simp_all

/-- Answers of one encoding, short enough for a frame, are one answer. -/
theorem CommandResponseMessage.encode_inj {a b : CommandResponseMessage}
    (hshort : a.encode.length < kLengthBound) (h : a.encode = b.encode) : a = b := by
  have hlength (m : CommandResponseMessage) (hm : m.encode.length < kLengthBound) :
      m.detail.length < kLengthBound ∧ m.payload.length < kLengthBound := by
    refine ⟨?_, ?_⟩
    all_goals exact Nat.lt_of_le_of_lt (length_le_of_mem_flatten (by simp)) hm
  obtain ⟨hdetail, hpayload⟩ := hlength a hshort
  obtain ⟨hdetail', hpayload'⟩ := hlength b (h ▸ hshort)
  have hsplits : Splits a.encode b.encode _ := statusCode_splits.next <|
    (string_splits hdetail hdetail').next <| (string_splits hpayload hpayload').next <|
    id_splits.next <| id_splits.last
  obtain ⟨hcode, hdetails, hpayloads, hrollout, hgate⟩ := hsplits.eq h
  cases a
  cases b
  simp_all

/-! ## Moving bytes -/

namespace Link

variable {l l' l'' : Link} {s : Side}

/-- Bytes were written or read, or a channel was lost or closed: no frame was queued or taken. -/
structure Pumped (l l' : Link) : Prop where
  runs : ∃ moves, l' = l.run moves
  queued : l'.queued = l.queued
  taken : l'.taken = l.taken

theorem Pumped.refl (l : Link) : l.Pumped l := ⟨⟨[], rfl⟩, rfl, rfl⟩

theorem Pumped.trans (h : l.Pumped l') (h' : l'.Pumped l'') : l.Pumped l'' := by
  obtain ⟨⟨moves, rfl⟩, hqueued, htaken⟩ := h
  obtain ⟨⟨moves', rfl⟩, hqueued', htaken'⟩ := h'
  exact ⟨⟨moves ++ moves', (List.foldl_append ..).symm⟩, hqueued'.trans hqueued,
    htaken'.trans htaken⟩

theorem pumped_step {m : Move} (hqueue : ∀ s frame, m ≠ .queue s frame)
    (htake : ∀ s, m ≠ .takeInbound s) : l.Pumped (l.step m) := by
  refine ⟨⟨[m], rfl⟩, ?_, ?_⟩
  · cases m with
    | queue s frame => exact absurd rfl (hqueue s frame)
    | pumpIn s count =>
      simp only [step]
      split <;> rfl
    | _ => rfl
  · cases m with
    | takeInbound s => exact absurd rfl (htake s)
    | pumpIn s count =>
      simp only [step]
      split <;> rfl
    | _ => rfl

theorem pumpOut_pumped (sents : List Sent) : l.Pumped (l.step (.pumpOut s sents)) :=
  pumped_step (by simp) (by simp)

theorem lose_pumped (status : Status) : l.Pumped (l.step (.lose s status)) :=
  pumped_step (by simp) (by simp)

theorem close_pumped : l.Pumped (l.step (.close s)) := pumped_step (by simp) (by simp)

theorem receive_pumped (read : Reading) : l.Pumped (l.receive s read) := by
  cases read with
  | bytes count => exact pumped_step (m := .pumpIn s count) (by simp) (by simp)
  | lost status => exact lose_pumped status

theorem flushLoop_pumped (waits : List Wait) (sents : List Sent) :
    l.Pumped (l.flushLoop s sents waits).2 := by
  induction waits generalizing l sents with
  | nil =>
    unfold flushLoop
    dsimp only
    split
    · exact pumpOut_pumped sents
    split <;> exact pumpOut_pumped sents
  | cons wait waits ih =>
    unfold flushLoop
    dsimp only
    split
    · exact pumpOut_pumped sents
    split
    · exact pumpOut_pumped sents
    cases wait with
    | writable sents' => exact (pumpOut_pumped sents).trans (ih sents')
    | failed status => exact pumpOut_pumped sents
    | broken => exact (pumpOut_pumped sents).trans (lose_pumped _)

theorem flushOut_pumped (sents : List Sent) (waits : List Wait) :
    l.Pumped (l.flushOut s sents waits).2 := by
  unfold flushOut
  split
  · exact .refl l
  split
  · exact .refl l
  · exact flushLoop_pumped waits sents

/-! ## Queueing and taking -/

theorem step_queue_taken (frame : Frame) : (l.step (.queue s frame)).taken = l.taken := rfl

/-- A frame is queued behind the others, or it is refused. -/
theorem step_queue_queued (frame : Frame) :
    (l.step (.queue s frame)).queued = Function.update l.queued s
      (if ((l.ends s).queue frame).1.isOk then l.queued s ++ [frame] else l.queued s) := rfl

theorem step_take_queued : (l.step (.takeInbound s)).queued = l.queued := rfl

theorem step_take_taken :
    (l.step (.takeInbound s)).taken = Function.update l.taken s (l.taken s ++ (l.ends s).inbound) :=
  rfl

end Link

/-! ## A connection -/

def requestFrame (asked : UInt64 × CommandRequestMessage) : Frame :=
  makeFrame .commandRequest asked.1 asked.2.encode

/-- The answer that the execution of a request made. -/
def Frame.Replies (e : ControllerEnv ρ) (frame : Frame)
    (execution : Option (CommandRequestMessage × Controller ρ)) : Prop :=
  ∃ q c, execution = some (q, c) ∧ frame.body = (executeCommand e q c).1.encode
    ∧ frame.body.length ≤ e.env.limits.maxFrameBytes.toNat

/-- What a connection has been through. -/
structure ControlSession.Sound (e : ControllerEnv ρ) (conn : ControlSession ρ) : Prop where
  reached : ∃ moves, conn.link = (Link.fresh conn.limits).run moves
  asked : conn.link.queued .left = conn.sent.map requestFrame
  short : ∀ r ∈ conn.sent, r.2.encode.length ≤ (conn.limits .left).maxFrameBytes.toNat
  /-- Nothing was read of a connection that is still served. -/
  waiting : conn.held = true → conn.execution = none ∧ conn.link.queued .right = []
    ∧ conn.link.taken .right = []
  executed : ∀ q c, conn.execution = some (q, c) → ∃ frame rest,
    conn.link.taken .right = frame :: rest ∧ frame.request? e = some q
  once : (conn.link.queued .right).length ≤ 1
  replied : ∀ frame ∈ conn.link.queued .right, frame.type = .commandResponse →
    frame.Replies e conn.execution
  /-- Every answer was read off a frame of its own. -/
  answered : ∀ r a, (r, .ok a) ∈ conn.answers → ∃ frame ∈ conn.link.taken .left,
    frame.type = .commandResponse ∧ decodeCommandResponse frame.body (conn.limits .left) = .ok a
  few : (conn.answers.filter fun answer => answer.2.isOk).length ≤ (conn.link.taken .left).length

namespace ControlSession

variable {conn : ControlSession ρ}

theorem Sound.run {l : Link} (h : conn.Sound e) (hl : ∃ moves, l = conn.link.run moves) :
    ∃ moves, l = (Link.fresh conn.limits).run moves := by
  obtain ⟨moves, hmoves⟩ := h.reached
  obtain ⟨more, rfl⟩ := hl
  exact ⟨moves ++ more, by rw [hmoves]; exact (List.foldl_append ..).symm⟩

/-- Bytes that move change nothing. -/
theorem Sound.pumped {l : Link} (h : conn.Sound e) (hl : conn.link.Pumped l) :
    Sound e { conn with link := l } where
  reached := h.run hl.runs
  asked := by rw [hl.queued]; exact h.asked
  short := h.short
  waiting := by rw [hl.queued, hl.taken]; exact h.waiting
  executed := by rw [hl.taken]; exact h.executed
  once := by rw [hl.queued]; exact h.once
  replied := by rw [hl.queued]; exact h.replied
  answered := by rw [hl.taken]; exact h.answered
  few := by rw [hl.taken]; exact h.few

theorem Sound.client (h : conn.Sound e) (client : ControlClient) :
    Sound e { conn with client } :=
  ⟨h.reached, h.asked, h.short, h.waiting, h.executed, h.once, h.replied, h.answered, h.few⟩

/-- The controller gives the connection up. -/
theorem Sound.erased (h : conn.Sound e) : Sound e { conn with held := false } :=
  ⟨h.reached, h.asked, h.short, fun hheld => (by cases hheld), h.executed, h.once, h.replied,
    h.answered, h.few⟩

/-! ### The client -/

/-- `send` returns a status. -/
theorem Sound.finish (h : conn.Sound e) (request : CommandRequestMessage) (status : Status) :
    (conn.finish request (.error status)).Sound e where
  reached := h.reached
  asked := h.asked
  short := h.short
  waiting := h.waiting
  executed := h.executed
  once := h.once
  replied := h.replied
  answered r a hmem := by
    refine h.answered r a ?_
    simpa [ControlSession.finish] using hmem
  few := by
    simpa [ControlSession.finish, Except.isOk, Except.toBool] using h.few

theorem Sound.send (h : conn.Sound e) (request : CommandRequestMessage) :
    (conn.send request).Sound e := by
  unfold ControlSession.send
  dsimp only
  split
  · exact h.finish _ _
  split
  · exact h.finish _ _
  split
  · exact h.finish _ _
  next hlong =>
  obtain ⟨moves, hmoves⟩ := h.reached
  generalize hframe : makeFrame .commandRequest (conn.client.sequence + 1) request.encode = frame
  have hqueued := Link.step_queue_queued (l := conn.link) (s := .left) frame
  have hreached := h.run ⟨[.queue .left frame], rfl⟩
  by_cases hok : ((conn.link.ends .left).queue frame).1.isOk = true
  -- the request is queued behind those asked before
  · rw [if_pos hok] at hqueued
    rw [if_neg (by simp [hok])]
    constructor
    · exact hreached
    · rw [hqueued, Function.update_self, h.asked, List.map_append, ← hframe]
      rfl
    · intro r hr
      rcases List.mem_append.1 hr with hr | hr
      · exact h.short r hr
      · rw [List.mem_singleton.1 hr]
        exact Nat.not_lt.1 hlong
    · rw [hqueued, Function.update_of_ne (by decide)]
      exact h.waiting
    · exact h.executed
    · rw [hqueued, Function.update_of_ne (by decide)]
      exact h.once
    · rw [hqueued, Function.update_of_ne (by decide)]
      exact h.replied
    · exact h.answered
    · exact h.few
  -- a full channel takes nothing, and the client is told so
  · rw [if_neg hok, Function.update_eq_self] at hqueued
    rw [if_pos (by simp [hok])]
    exact ((h.pumped ⟨⟨[.queue .left frame], rfl⟩, hqueued, rfl⟩).client _).finish _ _

theorem Sound.flush (h : conn.Sound e) (request : CommandRequestMessage) (sents : List Sent) :
    (conn.flush request sents).Sound e := by
  have hpumped := h.pumped (Link.pumpOut_pumped (s := .left) sents)
  unfold ControlSession.flush
  dsimp only
  split
  · exact hpumped.client _
  split
  · exact hpumped.finish _ _
  · exact hpumped

/-- `send` returns what the first of the frames it took says. -/
theorem Sound.answer (h : conn.Sound e) (request : CommandRequestMessage) {frame : Frame}
    {rest : List Frame} (hframes : (conn.link.ends .left).inbound = frame :: rest) :
    Sound e (ControlSession.finish { conn with link := conn.link.step (.takeInbound .left) } request
      (frame.answer (conn.limits .left))) where
  reached := h.run ⟨[.takeInbound .left], rfl⟩
  asked := h.asked
  short := h.short
  waiting := h.waiting
  executed := h.executed
  once := h.once
  replied := h.replied
  answered r a hmem := by
    have htaken := Link.step_take_taken (l := conn.link) (s := .left)
    simp only [ControlSession.finish, List.mem_append, List.mem_singleton, Prod.mk.injEq] at hmem
    rcases hmem with hmem | ⟨-, hanswer⟩
    -- the answers given before are among the frames taken before
    · obtain ⟨f, hf, hread⟩ := h.answered r a hmem
      refine ⟨f, ?_, hread⟩
      change f ∈ (conn.link.step (.takeInbound .left)).taken .left
      rw [htaken, Function.update_self]
      exact List.mem_append_left _ hf
    -- the new answer is read off the first frame taken now
    · refine ⟨frame, ?_, ?_⟩
      · change frame ∈ (conn.link.step (.takeInbound .left)).taken .left
        rw [htaken, Function.update_self, hframes]
        exact List.mem_append_right _ (List.mem_cons_self ..)
      · unfold Frame.answer at hanswer
        by_cases htype : frame.type = .commandResponse
        · rw [if_pos htype] at hanswer
          exact ⟨htype, hanswer.symm⟩
        · rw [if_neg htype] at hanswer
          split at hanswer
          · split at hanswer <;> cases hanswer
          · cases hanswer
  few := by
    have htaken := Link.step_take_taken (l := conn.link) (s := .left)
    change _ ≤ ((conn.link.step (.takeInbound .left)).taken .left).length
    rw [htaken, Function.update_self, hframes]
    simp only [ControlSession.finish, List.filter_append, List.length_append, List.length_cons]
    -- one call took at least one frame
    refine Nat.add_le_add h.few ((List.length_filter_le ..).trans ?_)
    simp

theorem Sound.take (h : conn.Sound e) (hframes : (conn.link.ends .left).inbound = []) :
    Sound e { conn with link := conn.link.step (.takeInbound .left) } := by
  refine h.pumped ⟨⟨[.takeInbound .left], rfl⟩, rfl, ?_⟩
  rw [Link.step_take_taken, hframes, List.append_nil, Function.update_eq_self]

theorem Sound.await (h : conn.Sound e) (request : CommandRequestMessage) (read : Reading) :
    (conn.await request read).Sound e := by
  have hreceived := h.pumped (Link.receive_pumped (s := .left) read)
  unfold ControlSession.await
  dsimp only
  split
  · exact hreceived.finish _ _
  cases hframes : ((conn.link.receive .left read).ends .left).inbound with
  | nil => exact hreceived.take hframes
  | cons frame rest => exact hreceived.answer request hframes

theorem Sound.move (h : conn.Sound e) (m : ClientMove) : (conn.move m).Sound e := by
  unfold ControlSession.move
  split
  · exact h.send _
  · exact h.flush _ _
  · exact h.finish _ _
  · exact (h.pumped (Link.lose_pumped _)).finish _ _
  · exact h.await _ _
  · exact h.finish _ _
  · exact (h.pumped ((Link.flushOut_pumped _ _).trans Link.close_pumped)).client _
  · exact h

/-! ### The controller -/

/-- The command of a frame that carries one is executed, and nothing else is. -/
theorem answerFrame_controller (frame : Frame) (c : Controller ρ) :
    (answerFrame e frame c).2
      = (frame.request? e).elim c fun request => (executeCommand e request c).2 := by
  unfold answerFrame Frame.request?
  split
  · cases decodeCommandRequest frame.body e.env.limits <;> rfl
  · rfl

theorem reply_some {type : MessageType} {body : Bytes} {frame : Frame}
    (h : reply e type body = some frame) :
    frame.type = type ∧ frame.body = body
      ∧ frame.body.length ≤ e.env.limits.maxFrameBytes.toNat := by
  unfold reply at h
  split at h
  · next hshort =>
    cases h
    exact ⟨rfl, rfl, hshort⟩
  · cases h

theorem answerFrame_replies {frame answer : Frame} {c : Controller ρ}
    (h : (answerFrame e frame c).1 = some answer) (htype : answer.type = .commandResponse) :
    answer.Replies e ((frame.request? e).map fun request => (request, c)) := by
  have herror (status : Status) (h : replyError e status = some answer) : False := by
    rw [(reply_some h).1] at htype
    cases htype
  unfold answerFrame at h
  unfold Frame.request?
  split at h
  · next hrequest =>
    rw [if_pos hrequest]
    cases hread : decodeCommandRequest frame.body e.env.limits with
    | error status =>
      rw [hread] at h
      exact (herror _ h).elim
    | ok request =>
      rw [hread] at h
      obtain ⟨-, hbody, hshort⟩ := reply_some h
      exact ⟨request, c, rfl, hbody, hshort⟩
  · exact (herror _ h).elim

/-- The first frame of a connection was read, and its answer queued. -/
theorem Sound.execute (h : conn.Sound e) (hheld : conn.held = true) {frame : Frame}
    {rest : List Frame} (hframes : (conn.link.ends .right).inbound = frame :: rest)
    (c : Controller ρ) {l : Link}
    (hl : l = match (answerFrame e frame c).1 with
      | some answer => (conn.link.step (.takeInbound .right)).step (.queue .right answer)
      | none => conn.link.step (.takeInbound .right)) :
    Sound e { conn with
      link := l
      held := false
      execution := (frame.request? e).map fun request => (request, c) } := by
  obtain ⟨-, hqueued, htaken⟩ := h.waiting hheld
  have htook : (conn.link.step (.takeInbound .right)).taken
      = Function.update conn.link.taken .right (frame :: rest) := by
    rw [Link.step_take_taken, htaken, hframes, List.nil_append]
  -- what the answer adds to the frames of the right side
  obtain ⟨hruns, hleft, hright, htaken'⟩ : (∃ moves, l = conn.link.run moves)
      ∧ l.queued .left = conn.link.queued .left
      ∧ (l.queued .right = []
        ∨ ∃ answer, (answerFrame e frame c).1 = some answer ∧ l.queued .right = [answer])
      ∧ l.taken = Function.update conn.link.taken .right (frame :: rest) := by
    subst hl
    cases hanswer : (answerFrame e frame c).1 with
    | none => exact ⟨⟨[.takeInbound .right], rfl⟩, rfl, .inl hqueued, htook⟩
    | some answer =>
      refine ⟨⟨[.takeInbound .right, .queue .right answer], rfl⟩, ?_, ?_, htook⟩
      · rw [Link.step_queue_queued, Function.update_of_ne (by decide), Link.step_take_queued]
      · rw [Link.step_queue_queued, Function.update_self, Link.step_take_queued, hqueued]
        split
        · exact .inr ⟨answer, rfl, rfl⟩
        · exact .inl rfl
  have hothers : l.taken .left = conn.link.taken .left := by
    rw [htaken', Function.update_of_ne (by decide)]
  constructor
  · exact h.run hruns
  · exact hleft.trans h.asked
  · exact h.short
  · rintro ⟨⟩
  · intro q c' hexecution
    refine ⟨frame, rest, by rw [htaken', Function.update_self], ?_⟩
    obtain ⟨q', hrequest, hq⟩ := Option.map_eq_some_iff.1 hexecution
    rw [hrequest, (Prod.mk.inj hq).1]
  · rcases hright with hright | ⟨answer, -, hright⟩
    · rw [hright]
      exact Nat.zero_le 1
    · rw [hright]
      exact Nat.le_refl 1
  · intro f hf htype
    rcases hright with hright | ⟨answer, hanswer, hright⟩
    · rw [hright] at hf
      cases hf
    · rw [hright] at hf
      rw [List.mem_singleton.1 hf] at htype ⊢
      exact answerFrame_replies hanswer htype
  · intro r a hmem
    rw [hothers]
    exact h.answered r a hmem
  · rw [hothers]
    exact h.few

theorem Sound.serve (h : conn.Sound e) (t : SessionTurn) (c : Controller ρ) :
    (conn.serve e t c).1.Sound e := by
  unfold ControlSession.serve
  split
  · exact h
  next hheld =>
  split
  · exact h.erased
  dsimp only
  have hpumped := h.pumped (Link.pumpOut_pumped (s := .right) t.written)
  split
  · exact hpumped.erased
  have hreceived := hpumped.pumped (Link.receive_pumped (s := .right) t.read)
  split
  · exact hreceived.erased
  generalize (conn.link.step (.pumpOut .right t.written)).receive .right t.read = l at hreceived ⊢
  cases hframes : (l.ends .right).inbound with
  | nil =>
    have htaken : Sound e { conn with link := l.step (.takeInbound .right) } := by
      refine hreceived.pumped ⟨⟨[.takeInbound .right], rfl⟩, rfl, ?_⟩
      rw [Link.step_take_taken, hframes, List.append_nil, Function.update_eq_self]
    dsimp only
    split
    · exact (htaken.pumped Link.close_pumped).erased
    · exact htaken
  | cons frame rest =>
    have hexecuted := hreceived.execute (by simpa using hheld) hframes c rfl
    exact hexecuted.pumped ((Link.flushOut_pumped _ _).trans Link.close_pumped)

/-- What a turn does to the controller: nothing, or the execution of the first request of the
connection. -/
inductive Serves (e : ControllerEnv ρ) (conn conn' : ControlSession ρ) (c : Controller ρ) :
    Controller ρ → Prop
  | idle (h : conn'.execution = conn.execution) : Serves e conn conn' c c
  | executed (request : CommandRequestMessage) (h : conn.execution = none)
    (h' : conn'.execution = some (request, c)) :
    Serves e conn conn' c (executeCommand e request c).2

theorem Sound.serves (h : conn.Sound e) (t : SessionTurn) (c : Controller ρ) :
    Serves e conn (conn.serve e t c).1 c (conn.serve e t c).2 := by
  unfold ControlSession.serve
  split
  · exact .idle rfl
  next hheld =>
  split
  · exact .idle rfl
  dsimp only
  split
  · exact .idle rfl
  split
  · exact .idle rfl
  split
  · split <;> exact .idle rfl
  next frame _ _ =>
  obtain ⟨hnone, -⟩ := h.waiting (by simpa using hheld)
  dsimp only
  rw [answerFrame_controller]
  cases frame.request? e with
  | none => exact .idle hnone.symm
  | some request => exact .executed request hnone rfl

end ControlSession

/-! ## Runs of a controller -/

namespace Daemon

variable {d : Daemon ρ}

theorem fresh_sound (limits : Side → RuntimeLimits) (now : Timestamp) :
    ControlSession.Sound e { limits, link := .fresh limits, acceptedAt := now } where
  reached := ⟨[], rfl⟩
  asked := rfl
  short r hr := by cases hr
  waiting _ := ⟨rfl, rfl, rfl⟩
  executed q c h := by cases h
  once := Nat.zero_le 1
  replied frame h := by cases h
  answered r a h := by cases h
  few := Nat.le_refl 0

/-- A connection that is refused carries one error. -/
theorem refused_sound {limits : Side → RuntimeLimits} {frame : Frame} (htype : frame.type = .error)
    (now : Timestamp) {l : Link}
    (hl : ((Link.fresh limits).step (.queue .right frame)).Pumped l) :
    ControlSession.Sound e { limits, link := l, acceptedAt := now, held := false } := by
  have hqueued := (Link.fresh limits).step_queue_queued (s := .right) frame
  have hright : l.queued .right = [] ∨ l.queued .right = [frame] := by
    rw [hl.queued, hqueued, Function.update_self]
    split
    · exact .inr rfl
    · exact .inl rfl
  constructor
  · obtain ⟨moves, hmoves⟩ := hl.runs
    exact ⟨.queue .right frame :: moves, hmoves⟩
  · rw [hl.queued, hqueued, Function.update_of_ne (by decide)]
    rfl
  · exact fun r hr => by cases hr
  · rintro ⟨⟩
  · exact fun q c h => by cases h
  · rcases hright with h | h <;> simp [h]
  · intro f hf hresponse
    rcases hright with h | h <;> rw [h] at hf
    · cases hf
    · rw [List.mem_singleton.1 hf, htype] at hresponse
      cases hresponse
  · exact fun r a h => by cases h
  · exact Nat.zero_le _

theorem accept_sound (limits : RuntimeLimits) (now : Timestamp) (sents : List Sent)
    (waits : List Wait) : (d.accept e limits now sents waits).Sound e := by
  unfold accept
  dsimp only
  split
  · exact refused_sound rfl now ((Link.flushOut_pumped sents waits).trans Link.close_pumped)
  · exact fresh_sound _ now

/-- The orchestrator of the one is driven to that of the other. -/
def Leads (e : ControllerEnv ρ) (c c' : Controller ρ) : Prop :=
  ∃ drives, c'.orchestrator = c.orchestrator.driven e.env drives

variable {c c' c'' : Controller ρ}

theorem Leads.refl (c : Controller ρ) : Leads e c c := ⟨[], rfl⟩

theorem Leads.trans (h : Leads e c c') (h' : Leads e c' c'') : Leads e c c'' := by
  obtain ⟨drives, h⟩ := h
  obtain ⟨drives', h'⟩ := h'
  refine ⟨drives ++ drives', h'.trans ?_⟩
  rw [h]
  exact (List.foldl_append ..).symm

theorem leads_executeCommand (request : CommandRequestMessage) (c : Controller ρ) :
    Leads e c (executeCommand e request c).2 := by
  unfold Leads
  rw [executeCommand_orchestrator]
  cases request.input? e with
  | none => exact ⟨[], rfl⟩
  | some i => exact ⟨[.input i], rfl⟩

/-- The connection whose request was executed stands on the way from one controller to another. -/
def Executed (e : ControllerEnv ρ) (c c' : Controller ρ) (conn : ControlSession ρ) : Prop :=
  ∀ q cq, conn.execution = some (q, cq) → Leads e c cq ∧ Leads e (executeCommand e q cq).2 c'

theorem Executed.later {conn : ControlSession ρ} (h : Executed e c c' conn) (h' : Leads e c' c'') :
    Executed e c c'' conn :=
  fun q cq hq => ⟨(h q cq hq).1, (h q cq hq).2.trans h'⟩

def executions (conns : List (ControlSession ρ)) : Nat :=
  conns.countP fun conn => conn.execution.isSome

/-- What holds of a controller that was `c` when it had no connection yet. -/
structure Sound (e : ControllerEnv ρ) (c : Controller ρ) (d : Daemon ρ) : Prop where
  connections : ∀ conn ∈ d.connections, conn.Sound e
  bounded : d.controlClients ≤ maxControlClients e
  leads : Leads e c d.controller
  executed : ∀ conn ∈ d.connections, Executed e c d.controller conn
  counted : d.controller.commands = c.commands + (executions d.connections).toUInt64

/-! ### Serving every session -/

theorem serve_held {conn : ControlSession ρ} (t : SessionTurn) (c : Controller ρ)
    (h : (conn.serve e t c).1.held = true) : conn.held = true := by
  unfold ControlSession.serve at h
  split at h
  · exact h
  · next hheld => simpa using hheld

/-- A pass over the sessions. -/
structure Pass (e : ControllerEnv ρ) (conns conns' : List (ControlSession ρ)) (c c' : Controller ρ) :
    Prop where
  sound : ∀ conn ∈ conns', conn.Sound e
  held : conns'.countP ControlSession.held ≤ conns.countP ControlSession.held
  leads : Leads e c c'
  executed : ∀ conn ∈ conns',
    (∃ old ∈ conns, conn.execution = old.execution) ∨ Executed e c c' conn
  counted : ∃ n, executions conns' = executions conns + n ∧ c'.commands = c.commands + n.toUInt64

theorem Pass.cons {conn conn' : ControlSession ρ} {conns conns' : List (ControlSession ρ)}
    (hserves : ControlSession.Serves e conn conn' c c') (hsound : conn'.Sound e)
    (hheld : conn'.held = true → conn.held = true) (h : Pass e conns conns' c' c'') :
    Pass e (conn :: conns) (conn' :: conns') c c'' := by
  -- serving a connection executes at most its one request
  have hleads : Leads e c c' := by
    cases hserves with
    | idle => exact .refl c
    | executed request => exact leads_executeCommand request c
  constructor
  · intro x hx
    rcases List.mem_cons.1 hx with rfl | hx
    · exact hsound
    · exact h.sound x hx
  · simp only [List.countP_cons]
    refine Nat.add_le_add h.held ?_
    split
    · next hh => rw [if_pos (hheld hh)]
    · exact Nat.zero_le _
  · exact hleads.trans h.leads
  · intro x hx
    rcases List.mem_cons.1 hx with rfl | hx
    · cases hserves with
      | idle hsame => exact .inl ⟨conn, List.mem_cons_self .., hsame⟩
      | executed request _ hnow =>
        -- this request ran first, and the controller goes on from where it left it
        refine .inr fun q cq hq => ?_
        obtain ⟨rfl, rfl⟩ := Prod.mk.inj (Option.some.inj (hnow.symm.trans hq))
        exact ⟨.refl _, h.leads⟩
    · rcases h.executed x hx with ⟨old, hold, hsame⟩ | hexecuted
      · exact .inl ⟨old, List.mem_cons_of_mem _ hold, hsame⟩
      · exact .inr fun q cq hq =>
          ⟨hleads.trans (hexecuted q cq hq).1, (hexecuted q cq hq).2⟩
  -- a session counts once, when it executes
  · obtain ⟨n, hn, hcommands⟩ := h.counted
    cases hserves with
    | idle hsame =>
      refine ⟨n, ?_, hcommands⟩
      simp only [executions, List.countP_cons, hsame] at hn ⊢
      omega
    | executed request hnone hnow =>
      refine ⟨n + 1, ?_, ?_⟩
      · simp only [executions, List.countP_cons, hnone, hnow] at hn ⊢
        simp
        omega
      · rw [hcommands, executeCommand_commands]
        simp [UInt64.add_assoc, UInt64.add_comm]

theorem serveFrom_pass (turns : Nat → SessionTurn) {conns : List (ControlSession ρ)}
    (h : ∀ conn ∈ conns, conn.Sound e) (k : Nat) (c : Controller ρ) :
    Pass e conns (serveFrom e turns k conns c).1 c (serveFrom e turns k conns c).2 := by
  induction conns generalizing k c with
  | nil => exact ⟨h, Nat.le_refl _, .refl c, fun x hx => (by cases hx), 0, rfl, by simp [serveFrom]⟩
  | cons conn conns ih =>
    have hconn := h conn (List.mem_cons_self ..)
    exact Pass.cons (hconn.serves _ _) (hconn.serve _ _) (serve_held _ _)
      (ih (fun x hx => h x (List.mem_cons_of_mem _ hx)) (k + 1) _)

/-! ### Every step -/

/-- A connection changes in what the controller does not see of it. -/
structure Changes (f : ControlSession ρ → ControlSession ρ) : Prop where
  held : ∀ conn, (f conn).held = conn.held
  execution : ∀ conn, (f conn).execution = conn.execution

theorem move_changes (m : ClientMove) : Changes fun conn : ControlSession ρ => conn.move m := by
  have hsend (conn : ControlSession ρ) (request : CommandRequestMessage) :
      (conn.send request).held = conn.held ∧ (conn.send request).execution = conn.execution := by
    unfold ControlSession.send
    dsimp only
    split
    · exact ⟨rfl, rfl⟩
    split
    · exact ⟨rfl, rfl⟩
    split
    · exact ⟨rfl, rfl⟩
    split <;> exact ⟨rfl, rfl⟩
  have hflush (conn : ControlSession ρ) (request : CommandRequestMessage) (sents : List Sent) :
      (conn.flush request sents).held = conn.held
        ∧ (conn.flush request sents).execution = conn.execution := by
    unfold ControlSession.flush
    dsimp only
    split
    · exact ⟨rfl, rfl⟩
    split <;> exact ⟨rfl, rfl⟩
  have hawait (conn : ControlSession ρ) (request : CommandRequestMessage) (read : Reading) :
      (conn.await request read).held = conn.held
        ∧ (conn.await request read).execution = conn.execution := by
    unfold ControlSession.await
    dsimp only
    split
    · exact ⟨rfl, rfl⟩
    split <;> exact ⟨rfl, rfl⟩
  have hmove (conn : ControlSession ρ) : (conn.move m).held = conn.held
      ∧ (conn.move m).execution = conn.execution := by
    unfold ControlSession.move
    split
    · exact hsend _ _
    · exact hflush _ _ _
    · exact ⟨rfl, rfl⟩
    · exact ⟨rfl, rfl⟩
    · exact hawait _ _ _
    · exact ⟨rfl, rfl⟩
    · exact ⟨rfl, rfl⟩
    · exact ⟨rfl, rfl⟩
  exact ⟨fun conn => (hmove conn).1, fun conn => (hmove conn).2⟩

theorem countP_modify {α : Type} {p : α → Bool} {f : α → α} (h : ∀ a, p (f a) = p a) (l : List α)
    (k : Nat) : (l.modify k f).countP p = l.countP p := by
  have hsame := map_modify_same h l k
  have hcount (l : List α) : l.countP p = (l.map p).countP id := by
    rw [List.countP_map]
    rfl
  rw [hcount, hsame, ← hcount]

theorem Sound.modify (h : d.Sound e c) {f : ControlSession ρ → ControlSession ρ} (hf : Changes f)
    (hsound : ∀ conn : ControlSession ρ, conn.Sound e → (f conn).Sound e) (k : Nat) :
    Sound e c { d with connections := d.connections.modify k f } := by
  have hmem (x : ControlSession ρ) (hx : x ∈ d.connections.modify k f) :
      ∃ y ∈ d.connections, x = y ∨ x = f y := by
    obtain ⟨i, hi, rfl⟩ := List.mem_iff_getElem.1 hx
    rw [List.getElem_modify]
    have hi' : i < d.connections.length := by simpa using hi
    refine ⟨d.connections[i], List.getElem_mem hi', ?_⟩
    split
    · exact .inr rfl
    · exact .inl rfl
  constructor
  · intro x hx
    obtain ⟨y, hy, rfl | rfl⟩ := hmem x hx
    · exact h.connections x hy
    · exact hsound y (h.connections y hy)
  · exact (countP_modify hf.held _ k).trans_le h.bounded
  · exact h.leads
  · intro x hx q cq hq
    obtain ⟨y, hy, rfl | rfl⟩ := hmem x hx
    · exact h.executed x hy q cq hq
    · exact h.executed y hy q cq ((hf.execution y).symm.trans hq)
  · have hcount : executions (d.connections.modify k f) = executions d.connections :=
      countP_modify (fun conn => by rw [hf.execution]) _ k
    rw [hcount]
    exact h.counted

theorem Sound.connect (h : d.Sound e c) (limits : RuntimeLimits) (now : Timestamp)
    (sents : List Sent) (waits : List Wait) :
    (d.step e (.connect limits now sents waits)).Sound e c := by
  have hnone : (d.accept e limits now sents waits).execution = none := by
    unfold accept
    dsimp only
    split <;> rfl
  -- a session is held only while the clients are below their limit
  have hheld (hh : (d.accept e limits now sents waits).held = true) :
      d.controlClients < maxControlClients e := by
    unfold accept at hh
    dsimp only at hh
    split at hh
    · cases hh
    · next hroom => exact Nat.not_le.1 hroom
  constructor
  · intro x hx
    rcases List.mem_append.1 hx with hx | hx
    · exact h.connections x hx
    · rw [List.mem_singleton.1 hx]
      exact accept_sound limits now sents waits
  · show (d.connections ++ [_]).countP ControlSession.held ≤ _
    rw [List.countP_append, List.countP_singleton]
    split
    · next hh => exact hheld hh
    · exact h.bounded
  · exact h.leads
  · intro x hx q cq hq
    rcases List.mem_append.1 hx with hx | hx
    · exact h.executed x hx q cq hq
    · rw [List.mem_singleton.1 hx, hnone] at hq
      cases hq
  · show d.controller.commands = _ + (executions (d.connections ++ [_])).toUInt64
    rw [executions, List.countP_append, List.countP_singleton, hnone]
    exact h.counted

theorem Sound.serve (h : d.Sound e c) (turns : Nat → SessionTurn) :
    (d.step e (.serve turns)).Sound e c := by
  have hpass := serveFrom_pass turns h.connections 0 d.controller
  constructor
  · exact hpass.sound
  · exact hpass.held.trans h.bounded
  · exact h.leads.trans hpass.leads
  · intro x hx q cq hq
    rcases hpass.executed x hx with ⟨old, hold, hsame⟩ | hexecuted
    · obtain ⟨hbefore, hafter⟩ := h.executed old hold q cq (hsame.symm.trans hq)
      exact ⟨hbefore, hafter.trans hpass.leads⟩
    · exact ⟨h.leads.trans (hexecuted q cq hq).1, (hexecuted q cq hq).2⟩
  · obtain ⟨n, hn, hcommands⟩ := hpass.counted
    show _ = _ + (executions (serveFrom e turns 0 d.connections d.controller).1).toUInt64
    refine hcommands.trans ?_
    rw [hn, h.counted]
    simp [UInt64.add_assoc]

theorem Sound.step (h : d.Sound e c) (happening : Happening ρ) : (d.step e happening).Sound e c := by
  cases happening with
  | connect limits now sents waits => exact h.connect limits now sents waits
  | client k m => exact h.modify (move_changes m) (fun conn hconn => hconn.move m) k
  | lose k s status =>
    exact h.modify (f := fun conn => { conn with link := conn.link.step (.lose s status) })
      ⟨fun _ => rfl, fun _ => rfl⟩ (fun conn hconn => hconn.pumped (Link.lose_pumped status)) k
  | serve turns => exact h.serve turns
  | drive x =>
    have hlater : Leads e d.controller (d.step e (.drive x)).controller := ⟨[x], rfl⟩
    exact ⟨h.connections, h.bounded, h.leads.trans hlater,
      fun x hx => (h.executed x hx).later hlater, h.counted⟩

theorem run_sound (e : ControllerEnv ρ) (c : Controller ρ) (happenings : List (Happening ρ)) :
    (run e { controller := c } happenings).Sound e c := by
  have hrun (d : Daemon ρ) (h : d.Sound e c) : (run e d happenings).Sound e c := by
    induction happenings generalizing d with
    | nil => exact h
    | cons happening happenings ih => exact ih (d.step e happening) (h.step happening)
  refine hrun _ ⟨fun x hx => (by cases hx), Nat.zero_le _, .refl c, fun x hx => (by cases hx), ?_⟩
  simp [executions]

end Daemon

/-! ## Answers -/

namespace ControlSession

variable {conn : ControlSession ρ}

theorem Sound.delivered (h : conn.Sound e) (s : Side) :
    conn.link.taken s.peer <+: conn.link.queued s := by
  obtain ⟨moves, hmoves⟩ := h.reached
  rw [hmoves]
  exact (List.prefix_append ..).trans (Link.run_carries conn.limits moves s).handed_first

theorem maxFrameBytes_lt (limits : RuntimeLimits) {n : Nat} (h : n ≤ limits.maxFrameBytes.toNat) :
    n < kLengthBound :=
  Nat.lt_of_le_of_lt h limits.maxFrameBytes.toNat_lt

/-- What is executed is the request that was sent first. -/
theorem Sound.executes_first (h : conn.Sound e) {q : CommandRequestMessage} {c : Controller ρ}
    (hq : conn.execution = some (q, c)) : ∃ n rest, conn.sent = (n, q) :: rest := by
  obtain ⟨frame, rest, htaken, hrequest⟩ := h.executed q c hq
  have hprefix := h.delivered .left
  rw [h.asked, Side.peer, htaken] at hprefix
  cases hsent : conn.sent with
  | nil =>
    rw [hsent] at hprefix
    cases List.prefix_nil.1 hprefix
  | cons asked more =>
    rw [hsent, List.map_cons] at hprefix
    obtain ⟨rfl, -⟩ := List.cons_prefix_cons.1 hprefix
    have hread : decodeCommandRequest asked.2.encode e.env.limits = .ok q := by
      change (decodeCommandRequest asked.2.encode e.env.limits).toOption = some q at hrequest
      cases hdecoded : decodeCommandRequest asked.2.encode e.env.limits with
      | error status =>
        rw [hdecoded] at hrequest
        cases hrequest
      | ok request =>
        rw [hdecoded] at hrequest
        exact congrArg Except.ok (Option.some.inj hrequest)
    obtain ⟨-, hencode⟩ := (Decoder.whole_eq_ok (commandRequestFields_exact _)).1 hread
    have hshort := h.short asked (by rw [hsent]; exact List.mem_cons_self ..)
    have hsame : asked.2 = q := CommandRequestMessage.encode_inj (maxFrameBytes_lt _ hshort) hencode
    exact ⟨asked.1, more, by rw [← hsame]⟩

/-- What is answered is what the execution of that request made. -/
theorem Sound.answers_executed (h : conn.Sound e) {r : CommandRequestMessage}
    {a : CommandResponseMessage} (ha : (r, .ok a) ∈ conn.answers) :
    ∃ q c, conn.execution = some (q, c) ∧ a = (executeCommand e q c).1 := by
  obtain ⟨frame, hframe, htype, hread⟩ := h.answered r a ha
  have hqueued := (h.delivered .right).subset hframe
  obtain ⟨q, c, hexecution, hbody, hshort⟩ := h.replied frame hqueued htype
  obtain ⟨-, hencode⟩ := (Decoder.whole_eq_ok (commandResponseFields_exact _)).1 hread
  refine ⟨q, c, hexecution, CommandResponseMessage.encode_inj ?_ (hencode.symm.trans hbody)⟩
  exact maxFrameBytes_lt _ (hencode ▸ hshort)

theorem Sound.answers_once (h : conn.Sound e) :
    (conn.answers.filter fun answer => answer.2.isOk).length ≤ 1 :=
  h.few.trans ((h.delivered .right).length_le.trans h.once)

end ControlSession

/-- In every run of a controller, whatever its clients and its sockets do: of the requests that are
sent over a connection the first is executed, once at most, on its way from one input to the next;
`send` returns no answer but the one that this execution made, and returns it once at most. -/
theorem Daemon.answers_its_execution (e : ControllerEnv ρ) (c : Controller ρ)
    (happenings : List (Happening ρ)) :
    ∀ conn ∈ (Daemon.run e { controller := c } happenings).connections,
      (∀ q cq, conn.execution = some (q, cq) → ∃ n rest, conn.sent = (n, q) :: rest)
        ∧ (∀ r a, (r, .ok a) ∈ conn.answers →
          ∃ q cq, conn.execution = some (q, cq) ∧ a = (executeCommand e q cq).1)
        ∧ (conn.answers.filter fun answer => answer.2.isOk).length ≤ 1 := by
  intro conn hconn
  have h := (Daemon.run_sound e c happenings).connections conn hconn
  exact ⟨fun q cq hq => h.executes_first hq, fun r a ha => h.answers_executed ha, h.answers_once⟩

/-! A client that asks a controller without rollouts what it holds. -/

def quietEnv : ControllerEnv Unit where
  env := {
    limits := {}
    clock := fun _ => ({}, ())
    execution := none
    health := none
    journal := none }
  authority := .nil
  incarnation := .nil
  controllerEpoch := 1
  readTextFile _ := .error (makeStatus .notFound [])
  reports := ⟨fun _ _ _ => [], fun _ _ => [], fun _ _ => [], fun _ => [], fun _ => []⟩

def quietController : Controller Unit where
  orchestrator := {
    impl := { incarnation := .nil, controllerEpoch := 1, ids := { seed := default }, outside := () } }

def statusRun : List (Happening Unit) := [
  .connect {} {} [] [],
  .client 0 (.send { kind := .status }),
  .client 0 (.flush [.wrote 60, .wrote 60]),
  .serve fun _ => { read := .bytes 500, flushed := [.wrote 500] },
  .client 0 (.await (.bytes 500))]

theorem Daemon.statusRun_answered :
    ∃ conn ∈ (Daemon.run quietEnv { controller := quietController } statusRun).connections,
      ∃ r a q cq, (r, .ok a) ∈ conn.answers ∧ conn.execution = some (q, cq)
        ∧ a = (executeCommand quietEnv q cq).1 := by
  have hanswered : ((Daemon.run quietEnv { controller := quietController }
      statusRun).connections.any fun conn => conn.answers.any fun answer => answer.2.isOk) = true := by
    decide +kernel
  obtain ⟨conn, hconn, hanswer⟩ := List.any_eq_true.1 hanswered
  obtain ⟨⟨r, result⟩, hr, hok⟩ := List.any_eq_true.1 hanswer
  cases result with
  | error status => cases hok
  | ok a =>
    obtain ⟨-, hexecuted, -⟩ :=
      Daemon.answers_its_execution quietEnv quietController statusRun conn hconn
    obtain ⟨q, cq, hq, ha⟩ := hexecuted r a hr
    exact ⟨conn, hconn, r, a, q, cq, hr, hq, ha⟩

/-! A `send` that gives up does not take its request back: the answer to it is what the next `send` on
the connection returns. -/

def lateRun : List (Happening Unit) := [
  .connect {} {} [] [],
  .client 0 (.send { kind := .status }),
  .client 0 (.flush [.wrote 120]),
  .client 0 (.awaitFailed (makeStatus .deadlineExceeded [])),
  .client 0 (.send { kind := .listEvents }),
  .client 0 (.flush [.wrote 120]),
  .serve fun _ => { read := .bytes 500, flushed := [.wrote 500] },
  .client 0 (.await (.bytes 500))]

example : ((Daemon.run quietEnv { controller := quietController } lateRun).connections.any fun conn =>
    conn.answers.any fun answer => answer.1.kind == .listEvents
      && answer.2.toOption.any fun a => a.detail == text "0 rollout(s)") = true := by
  decide +kernel

/-- In every run a controller serves no more connections than it may, its orchestrator does nothing
but take inputs one after the other while the adapters move, each executed request stands among these
inputs where its execution says, and the commands are counted. -/
theorem Daemon.run_is_driven (e : ControllerEnv ρ) (c : Controller ρ)
    (happenings : List (Happening ρ)) :
    (Daemon.run e { controller := c } happenings).controlClients ≤ Daemon.maxControlClients e
      ∧ (∃ drives, (Daemon.run e { controller := c } happenings).controller.orchestrator
        = c.orchestrator.driven e.env drives)
      ∧ (∀ conn ∈ (Daemon.run e { controller := c } happenings).connections, ∀ q cq,
        conn.execution = some (q, cq) → ∃ before after,
          cq.orchestrator = c.orchestrator.driven e.env before
            ∧ (Daemon.run e { controller := c } happenings).controller.orchestrator
              = ((q.input? e).elim cq.orchestrator (cq.orchestrator.step e.env)).driven e.env after)
      ∧ (Daemon.run e { controller := c } happenings).controller.commands
        = c.commands + (Daemon.executions
          (Daemon.run e { controller := c } happenings).connections).toUInt64 := by
  have h := Daemon.run_sound e c happenings
  refine ⟨h.bounded, h.leads, fun conn hconn q cq hq => ?_, h.counted⟩
  obtain ⟨⟨before, hbefore⟩, after, hafter⟩ := h.executed conn hconn q cq hq
  refine ⟨before, after, hbefore, ?_⟩
  rw [hafter, executeCommand_orchestrator]

theorem Daemon.driven_sound {o : Orchestrator ρ} (ho : o.sys.Holds (View.Sound e.env))
    (drives : List (Drive ρ)) : (o.driven e.env drives).sys.Holds (View.Sound e.env) := by
  induction drives generalizing o with
  | nil => exact ho
  | cons x drives ih =>
    refine ih (o := o.drive e.env x) ?_
    cases x with
    | input i =>
      have hreaches : Reaches e.env false false o.sys (o.step e.env i).sys :=
        step_reaches ho fun _ => spares_false o
      exact sound_steps hreaches ho
    | outside x => exact ho

/-- What every run of inputs keeps of the rollouts, every run of their controller keeps: the stages
of each are gone through one at a time. -/
theorem Daemon.run_one_at_a_time {n : Node ρ} (hn : n.Initial) (steps : List (Step ρ))
    (c : Controller ρ) (hc : n.run e.env steps = .running c.orchestrator)
    (happenings : List (Happening ρ)) :
    ∀ h ∈ (Daemon.run e { controller := c } happenings).controller.orchestrator.held,
      h.rollout.OneAtATime := by
  have hstart : (n.run e.env steps).sys.Holds (View.Sound e.env) := sound_of_run hn steps
  rw [hc] at hstart
  obtain ⟨drives, hdrives⟩ := (Daemon.run_sound e c happenings).leads
  rw [hdrives]
  intro h hh
  have hsound := Daemon.driven_sound (o := c.orchestrator) hstart drives
  exact Rollout.oneAtATime_of_ordered
    (hsound _ (.inr (List.mem_map.2 ⟨h, hh, rfl⟩))).tidy.ordered

end RolloutFabric
