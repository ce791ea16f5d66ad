/-
What the frames of a worker change of the posts: who stands at an index, with which capacity and
how many attempts in flight, and which attempts are routed there.
-/
import RolloutFabric.Adapter.System

namespace RolloutFabric

/-- A connection without the state of its channel and its statistics. -/
structure Post where
  worker : WorkerId
  incarnation : IncarnationId
  capacity : UInt32
  inFlight : UInt32
  index : Nat
  serial : Nat
deriving DecidableEq

def Connection.post (c : Connection) : Post :=
  ⟨c.worker, c.incarnation, c.capacity, c.inFlight, c.index, c.serial⟩

@[simp] theorem Connection.sendTo_post (c : Connection) (sending : Sending) :
    (c.sendTo sending).2.post = c.post := by
  unfold sendTo
  split
  · rfl
  split
  · rfl
  split <;> rfl

namespace ProcessAdapter

variable {a b : ProcessAdapter} {c : Connection} {context : FrameContext} {frame : Frame} {i j : Nat}

def posts (a : ProcessAdapter) : List Post := a.connections.map Connection.post

theorem posts_getElem? (a : ProcessAdapter) (i : Nat) :
    a.posts[i]? = a.connections[i]?.map Connection.post := List.getElem?_map

theorem post_connectionAt (h : b.posts = a.posts) (i : Nat) :
    (b.connectionAt i).post = (a.connectionAt i).post := by
  have hi := congrArg (·[i]?) h
  simp only [posts_getElem?] at hi
  unfold connectionAt
  rw [List.getD_eq_getElem?_getD, List.getD_eq_getElem?_getD]
  cases hb : b.connections[i]? <;> cases ha : a.connections[i]? <;> simp_all

theorem length_of_posts (h : b.posts = a.posts) : b.connections.length = a.connections.length := by
  simpa [posts] using congrArg List.length h

theorem connectionAt_setConnection (hi : i < a.connections.length) :
    (a.setConnection i c).connectionAt j = if j = i then c else a.connectionAt j := by
  unfold connectionAt setConnection
  rw [List.getD_eq_getElem?_getD, List.getElem?_set]
  by_cases h : i = j
  · subst h
    simp [hi]
  · simp [h, Ne.symm h, List.getD_eq_getElem?_getD]

@[simp] theorem length_setConnection : (a.setConnection i c).connections.length
    = a.connections.length := List.length_set

/-! ## The frames -/

/-- A hello that is in order. -/
structure Announces (context : FrameContext) (frame : Frame) (message : HelloMessage) : Prop where
  type : frame.type = .hello
  decoded : decodeHello frame.body context.limits = .ok message
  abiVersion : message.abiVersion = kRuntimeAbiVersion
  worker : message.worker.isNil = false
  incarnation : message.incarnation.isNil = false

/-- What a frame may change: nothing of the posts; or the connection it came on gives up an attempt
routed to it; or it announces itself, with nothing in flight. -/
inductive Handles (a : ProcessAdapter) (c : Connection) (context : FrameContext) (frame : Frame) :
    Handled → Prop
  | same {calls : List SinkCall} {b : ProcessAdapter} {d : Connection} (posts : b.posts = a.posts)
    (routes : b.attemptRoutes = a.attemptRoutes) (post : d.post = c.post) :
    Handles a c context frame (calls, b, d)
  | released {calls : List SinkCall} {b : ProcessAdapter} {d : Connection} {attempt : AttemptId}
    (route : a.attemptRoutes.lookup attempt = some c.index) (posts : b.posts = a.posts)
    (routes : b.attemptRoutes = a.attemptRoutes.erase attempt)
    (post : d.post = (release c).post) : Handles a c context frame (calls, b, d)
  | welcomed {calls : List SinkCall} {b : ProcessAdapter} {d : Connection} {message : HelloMessage}
    (announces : Announces context frame message) (posts : b.posts = a.posts)
    (routes : b.attemptRoutes = a.attemptRoutes)
    (post : d.post = (announced c context message).post) : Handles a c context frame (calls, b, d)

theorem Handles.of_fail (what : Bytes) (status : Status) :
    Handles a c context frame (a.fail c context what status) := .same rfl rfl rfl

theorem endRoute_handles (record : EvidenceRecord) (calls : List SinkCall) :
    Handles a c context frame (calls, a.endRoute c record) := by
  unfold endRoute
  split
  · next h => exact .released h.1 rfl rfl rfl
  · exact .same rfl rfl rfl

/-- Counting what was delivered changes nothing of the posts. -/
theorem Handles.count {calls : List SinkCall} {b b' : ProcessAdapter} {d : Connection}
    (h : Handles a c context frame (calls, b, d)) (hposts : b'.posts = b.posts)
    (hroutes : b'.attemptRoutes = b.attemptRoutes) (calls' : List SinkCall) :
    Handles a c context frame (calls', b', d) := by
  cases h with
  | same posts routes post => exact .same (hposts.trans posts) (hroutes.trans routes) post
  | released route posts routes post =>
    exact .released route (hposts.trans posts) (hroutes.trans routes) post
  | welcomed announces posts routes post =>
    exact .welcomed announces (hposts.trans posts) (hroutes.trans routes) post

theorem handleEvidence_handles (body : Bytes) :
    Handles a c context frame (a.handleEvidence c context.limits context.now body) := by
  unfold handleEvidence
  split
  · exact .same rfl rfl rfl
  · next record _ =>
    have h : Handles a c context frame ([], a.endRoute c record.attest) := endRoute_handles _ _
    dsimp only
    generalize a.endRoute c record.attest = ended at h ⊢
    obtain ⟨b, d⟩ := ended
    refine h.count ?_ ?_ _ <;> rfl

theorem handleDispatchAck_handles (body : Bytes) :
    Handles a c context frame (a.handleDispatchAck c context body) := by
  unfold handleDispatchAck
  split
  · exact .of_fail _ _
  next ack _ =>
  by_cases h : a.attemptRoutes.lookup ack.fence.attempt = some c.index
  · rw [if_neg (not_not.2 h)]
    split
    · exact .same rfl rfl rfl
    · exact .released h rfl rfl rfl
  · rw [if_pos h]
    exact .same rfl rfl rfl

theorem handleCancelAck_handles (body : Bytes) :
    Handles a c context frame (a.handleCancelAck c context body) := by
  unfold handleCancelAck
  split
  · exact .of_fail _ _
  next ack _ =>
  by_cases h : a.attemptRoutes.lookup ack.fence.attempt = some c.index
  · rw [if_neg (not_not.2 h)]
    split
    · exact .same rfl rfl rfl
    · exact .released h rfl rfl rfl
  · rw [if_pos h]
    exact .same rfl rfl rfl

/-- Believing an entry changes nothing of the connections and the routes. -/
theorem believe_posts (context : FrameContext) (acc : List SinkCall × ProcessAdapter)
    (entries : List ReconcileEntry) :
    (entries.foldl (believe context) acc).2.connections = acc.2.connections
      ∧ (entries.foldl (believe context) acc).2.attemptRoutes = acc.2.attemptRoutes := by
  induction entries generalizing acc with
  | nil => exact ⟨rfl, rfl⟩
  | cons entry entries ih =>
    rw [List.foldl_cons, (ih _).1, (ih _).2]
    unfold believe
    split <;> exact ⟨rfl, rfl⟩

theorem handleReconcileResponse_handles (body : Bytes) :
    Handles a c context frame (a.handleReconcileResponse c context body) := by
  unfold handleReconcileResponse
  split
  · exact .of_fail _ _
  next message _ =>
  split
  · exact .same rfl rfl rfl
  · next k _ =>
    obtain ⟨hconnections, hroutes⟩ := believe_posts context ([], { a with
      pendingReconciles := a.pendingReconciles.modify k fun pending =>
        pending.answer message c }) message.entries
    exact .same (congrArg (List.map Connection.post) hconnections) hroutes rfl

theorem handleHealthResponse_handles (body : Bytes) :
    Handles a c context frame (a.handleHealthResponse c context body) := by
  unfold handleHealthResponse
  split
  · exact .of_fail _ _
  · next message _ =>
    dsimp only
    generalize (if context.healthSource.isNil then message.source else context.healthSource) = source
    suffices h : ∀ (samples : List HealthSample) (acc : List SinkCall × ProcessAdapter),
        (samples.foldl (fun acc sample =>
          (acc.1 ++ [.evidence (acc.2.healthRecord context source sample)], { acc.2 with
            ids := (acc.2.ids.next .evidence .evidence).2
            frameSequence := acc.2.frameSequence + 1
            evidenceDelivered := acc.2.evidenceDelivered + 1 })) acc).2.connections
          = acc.2.connections
        ∧ (samples.foldl (fun acc sample =>
          (acc.1 ++ [.evidence (acc.2.healthRecord context source sample)], { acc.2 with
            ids := (acc.2.ids.next .evidence .evidence).2
            frameSequence := acc.2.frameSequence + 1
            evidenceDelivered := acc.2.evidenceDelivered + 1 })) acc).2.attemptRoutes
          = acc.2.attemptRoutes by
      obtain ⟨hconnections, hroutes⟩ := h message.samples ([], a)
      exact .same (congrArg (List.map Connection.post) hconnections) hroutes rfl
    intro samples
    induction samples with
    | nil => exact fun _ => ⟨rfl, rfl⟩
    | cons sample samples ih => exact fun acc => ih _

theorem welcome_handles {message : HelloMessage} (h : Announces context frame message) :
    Handles a c context frame (a.welcome c context message) := by
  have hclosed : (a.connections.map fun candidate =>
      if superseded c message candidate then { candidate with closed := true }
      else candidate).map Connection.post = a.connections.map Connection.post := by
    rw [List.map_map]
    refine List.map_congr_left fun candidate _ => ?_
    show Connection.post (if _ then _ else _) = _
    split <;> rfl
  have hpost := (announced c context message).sendTo_post context.sending
  unfold welcome
  dsimp only
  split
  · exact .welcomed h hclosed rfl hpost
  · exact .welcomed h hclosed rfl hpost

theorem handleHello_handles (htype : frame.type = .hello) :
    Handles a c context frame (a.handleHello c context frame.body) := by
  unfold handleHello
  split
  · exact .of_fail _ _
  next message hdecoded =>
  split
  · exact .of_fail _ _
  next habi =>
  split
  · exact .of_fail _ _
  next hnil =>
  rw [not_or, Bool.not_eq_true, Bool.not_eq_true] at hnil
  exact welcome_handles ⟨htype, hdecoded, not_not.1 habi, hnil.1, hnil.2⟩

/-- Every frame. -/
theorem handle_handles : Handles a c context frame (a.handle c context frame) := by
  unfold handle
  split
  · next htype => exact handleHello_handles htype
  · exact handleDispatchAck_handles _
  · exact handleEvidence_handles _
  · exact handleCancelAck_handles _
  · exact handleReconcileResponse_handles _
  · exact handleHealthResponse_handles _
  · unfold handleHeartbeat
    split
    · exact .of_fail _ _
    · exact .same rfl rfl (c.sendTo_post _)
  · unfold handleError
    split
    · exact .of_fail _ _
    · exact .of_fail _ _
  · exact .of_fail _ _

end ProcessAdapter

end RolloutFabric
