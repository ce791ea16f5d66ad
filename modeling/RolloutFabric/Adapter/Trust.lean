/-
What the adapter attests: that a record comes from the worker its attempt is routed to, and that
an answer to a reconcile request comes from the worker that was asked.
-/
import RolloutFabric.Adapter.System
import RolloutFabric.Orchestrator.BlastRadius

namespace RolloutFabric

/-- The connection whose frame a step handles. -/
def AdapterStep.cameOn : AdapterStep → Option Nat
  | .frame i _ _ => some i
  | _ => none

/-- An accepted answer is of the connection that was asked, and about what it was asked. -/
def PendingReconcile.Sound (pending : PendingReconcile) : Prop :=
  ∀ serial, pending.answeredBy = some serial →
    serial = pending.sentTo ∧ ∀ entry ∈ pending.result.entries, entry.fence ∈ pending.fences

/-- Losing a connection adds no entry that was not asked about. -/
theorem PendingReconcile.Sound.afterDrop {pending : PendingReconcile} (h : pending.Sound)
    (index : Nat) : (pending.afterDrop index).Sound := by
  unfold PendingReconcile.afterDrop
  split
  · split
    · exact h
    · intro serial hserial
      refine ⟨(h serial hserial).1, fun entry hentry => ?_⟩
      rcases List.mem_append.1 hentry with hold | hnew
      · exact (h serial hserial).2 entry hold
      · obtain ⟨fence, hfence, rfl⟩ := List.mem_map.1 hnew
        exact hfence
  · split
    · exact h
    · exact h

namespace ProcessAdapter

variable {a : ProcessAdapter} {c : Connection} {context : FrameContext} {frame : Frame} {i : Nat}

/-! ## What the sink is told -/

/-- Nothing is attested of an executor, and no request is answered. -/
structure Discreet (a : ProcessAdapter) (handled : Handled) : Prop where
  calls : ∀ record, .evidence record ∈ handled.1 → record.authority = .healthSourceAttested
  pending : handled.2.1.pendingReconciles = a.pendingReconciles

theorem Discreet.of_event {event : AdapterEvent} {b : ProcessAdapter} {d : Connection}
    (h : b.pendingReconciles = a.pendingReconciles) : Discreet a ([.event event], b, d) :=
  ⟨fun _ hrecord => (nomatch List.mem_singleton.1 hrecord), h⟩

theorem Discreet.of_nothing {b : ProcessAdapter} {d : Connection}
    (h : b.pendingReconciles = a.pendingReconciles) : Discreet a ([], b, d) :=
  ⟨fun _ hrecord => (nomatch hrecord), h⟩

theorem welcome_discreet (message : HelloMessage) :
    Discreet a (a.welcome c context message) := by
  have hevents : ∀ record, .evidence record ∉
      (a.connections.filter (superseded c message)).map (supersededEvent context message) := by
    intro record hmem
    obtain ⟨candidate, -, hevent⟩ := List.mem_map.1 hmem
    unfold supersededEvent at hevent
    split at hevent <;> cases hevent
  unfold welcome
  dsimp only
  split
  · refine ⟨fun record hmem => ?_, rfl⟩
    rcases List.mem_append.1 hmem with hold | hnew
    · exact absurd hold (hevents record)
    · exact nomatch List.mem_singleton.1 hnew
  · refine ⟨fun record hmem => ?_, rfl⟩
    rcases List.mem_append.1 hmem with hold | hnew
    · exact absurd hold (hevents record)
    · exact nomatch List.mem_singleton.1 hnew

theorem handleHello_discreet (body : Bytes) : Discreet a (a.handleHello c context body) := by
  unfold handleHello
  split
  · exact .of_event rfl
  split
  · exact .of_event rfl
  split
  · exact .of_event rfl
  · exact welcome_discreet _

theorem handleDispatchAck_discreet (body : Bytes) :
    Discreet a (a.handleDispatchAck c context body) := by
  unfold handleDispatchAck
  split
  · exact .of_event rfl
  split
  · exact .of_nothing rfl
  split
  · exact .of_nothing rfl
  · exact .of_event rfl

theorem handleCancelAck_discreet (body : Bytes) :
    Discreet a (a.handleCancelAck c context body) := by
  unfold handleCancelAck
  split
  · exact .of_event rfl
  split
  · exact .of_nothing rfl
  split
  · exact .of_nothing rfl
  · exact .of_nothing rfl

theorem handleHealthResponse_discreet (body : Bytes) :
    Discreet a (a.handleHealthResponse c context body) := by
  unfold handleHealthResponse
  split
  · exact .of_event rfl
  next message _ =>
  dsimp only
  generalize (if context.healthSource.isNil then message.source else context.healthSource) = source
  suffices h : ∀ (samples : List HealthSample) (acc : List SinkCall × ProcessAdapter),
      (∀ record, .evidence record ∈ acc.1 → record.authority = .healthSourceAttested) →
      let result := samples.foldl (fun acc sample =>
        (acc.1 ++ [.evidence (acc.2.healthRecord context source sample)], { acc.2 with
          ids := (acc.2.ids.next .evidence .evidence).2
          frameSequence := acc.2.frameSequence + 1
          evidenceDelivered := acc.2.evidenceDelivered + 1 })) acc
      Discreet acc.2 (result.1, result.2, c) from
    h message.samples ([], a) fun _ hrecord => absurd hrecord List.not_mem_nil
  intro samples
  induction samples with
  | nil => exact fun acc hacc => ⟨hacc, rfl⟩
  | cons sample samples ih =>
    intro acc hacc
    obtain ⟨hcalls, hpending⟩ := ih (acc.1 ++ [.evidence (acc.2.healthRecord context source sample)],
      { acc.2 with
        ids := (acc.2.ids.next .evidence .evidence).2
        frameSequence := acc.2.frameSequence + 1
        evidenceDelivered := acc.2.evidenceDelivered + 1 }) fun record hmem => by
      rcases List.mem_append.1 hmem with hold | hnew
      · exact hacc record hold
      · cases List.mem_singleton.1 hnew
        rfl
    exact ⟨hcalls, hpending⟩

/-- Only evidence and answers to reconcile requests are attested. -/
theorem handle_discreet (hevidence : frame.type ≠ .evidence)
    (hresponse : frame.type ≠ .reconcileResponse) : Discreet a (a.handle c context frame) := by
  unfold handle
  split
  · exact handleHello_discreet _
  · exact handleDispatchAck_discreet _
  · next htype => exact absurd htype hevidence
  · exact handleCancelAck_discreet _
  · next htype => exact absurd htype hresponse
  · exact handleHealthResponse_discreet _
  · unfold handleHeartbeat
    split
    · exact .of_event rfl
    · exact .of_nothing rfl
  · unfold handleError
    split
    · exact .of_event rfl
    · exact .of_event rfl
  · exact .of_event rfl

/-! ## Believing an answer -/

/-- Every record made of the entries has the fence of one that attests something. -/
theorem believe_record {entries : List ReconcileEntry} {acc : List SinkCall × ProcessAdapter}
    {record : EvidenceRecord} (h : .evidence record ∈ (entries.foldl (believe context) acc).1) :
    .evidence record ∈ acc.1 ∨ ∃ entry ∈ entries, entry.disposition.attests.isSome
      ∧ record.fence = entry.fence := by
  induction entries generalizing acc with
  | nil => exact .inl h
  | cons entry entries ih =>
    rcases ih h with hacc | ⟨other, hother, hattests⟩
    · unfold believe at hacc
      split at hacc
      · exact .inl hacc
      · next kind outcome hdisposition =>
        rcases List.mem_append.1 hacc with hold | hnew
        · exact .inl hold
        · cases List.mem_singleton.1 hnew
          refine .inr ⟨entry, List.mem_cons_self, ?_, rfl⟩
          rw [hdisposition]
          rfl
    · exact .inr ⟨other, List.mem_cons_of_mem _ hother, hattests⟩

/-- What was told stays told. -/
theorem believe_mono (entries : List ReconcileEntry) {acc : List SinkCall × ProcessAdapter}
    {call : SinkCall} (h : call ∈ acc.1) : call ∈ (entries.foldl (believe context) acc).1 := by
  induction entries generalizing acc with
  | nil => exact h
  | cons entry entries ih =>
    refine ih ?_
    unfold believe
    split
    · exact h
    · exact List.mem_append_left _ h

/-- An entry that attests something becomes a record. -/
theorem believe_entry {entries : List ReconcileEntry} {entry : ReconcileEntry}
    (hentry : entry ∈ entries) (hattests : entry.disposition.attests.isSome)
    (acc : List SinkCall × ProcessAdapter) :
    ∃ record, .evidence record ∈ (entries.foldl (believe context) acc).1
      ∧ record.authority = .executionAdapterAttested ∧ record.fence = entry.fence := by
  induction entries generalizing acc with
  | nil => cases hentry
  | cons first entries ih =>
    rcases List.mem_cons.1 hentry with rfl | hrest
    · obtain ⟨⟨kind, outcome⟩, hdisposition⟩ := Option.isSome_iff_exists.1 hattests
      refine ⟨acc.2.reconciledRecord context entry kind outcome, believe_mono entries ?_, rfl, rfl⟩
      unfold believe
      rw [hdisposition]
      exact List.mem_append_right _ (List.mem_singleton_self _)
    · exact ih hrest _

theorem believe_pending (entries : List ReconcileEntry) (acc : List SinkCall × ProcessAdapter) :
    (entries.foldl (believe context) acc).2.pendingReconciles = acc.2.pendingReconciles := by
  induction entries generalizing acc with
  | nil => rfl
  | cons entry entries ih =>
    rw [List.foldl_cons, ih]
    unfold believe
    split <;> rfl

/-! ## Whom the adapter trusts -/

/-- The request of this number that is outstanding. -/
def asked (a : ProcessAdapter) (requestId : UInt64) : Option PendingReconcile :=
  (a.pendingAt requestId).bind (a.pendingReconciles[·]?)

/-- What a step hands to the sink as attested by the executor came on the connection the attempt is
routed to, and an answer is accepted only from the connection that was asked, and believed only
about what it was asked. -/
structure Trusts (options : ProcessAdapterOptions) (a : ProcessAdapter) (s : AdapterStep) :
    Prop where
  owner : ∀ record, .evidence record ∈ (a.step options s).1 →
    record.authority = .executionAdapterAttested →
    ∀ i, a.attemptRoutes.lookup record.attempt = some i → s.cameOn = some i
  answers : ∀ pending ∈ (a.step options s).2.pendingReconciles, pending.Sound
  believed : ∀ i frame context, s = .frame i frame context → frame.type = .reconcileResponse →
    ∀ record, .evidence record ∈ (a.step options s).1 →
      ∃ pending ∈ (a.step options s).2.pendingReconciles,
        pending.answeredBy = some (a.connectionAt i).serial ∧ record.fence ∈ pending.fences

/-- Evidence about a routed attempt comes on the connection it is routed to; an answer to an
outstanding request comes on the connection that was asked, and has entries only for what it was
asked about, none of them attesting an attempt that is routed elsewhere. -/
structure Vouched (options : ProcessAdapterOptions) (a : ProcessAdapter) (i : Nat)
    (frame : Frame) : Prop where
  evidence : frame.type = .evidence → ∀ record, decodeEvidence frame.body options.limits = .ok record →
    ∀ j, a.attemptRoutes.lookup record.attempt = some j → j = i
  response : frame.type = .reconcileResponse → ∀ message pending,
    decodeReconcileResponse frame.body options.limits = .ok message →
    a.asked message.requestId = some pending →
    (a.connectionAt i).serial = pending.sentTo
      ∧ ∀ entry ∈ message.entries, entry.fence ∈ pending.fences
        ∧ (entry.disposition.attests.isSome →
          ∀ j, a.attemptRoutes.lookup entry.fence.attempt = some j → j = i)

/-- The frame of a step that is handled is vouched for. -/
def Vouches (options : ProcessAdapterOptions) (a : ProcessAdapter) (s : AdapterStep) : Prop :=
  ∀ i frame context, s = .frame i frame context →
    i < a.connections.length ∧ (a.connectionAt i).isOpen → a.Vouched options i frame

variable {options : ProcessAdapterOptions}

/-- A step that tells the sink of no execution and answers no request. -/
theorem Trusts.of_discreet {s : AdapterStep}
    (hcalls : ∀ record, .evidence record ∈ (a.step options s).1 →
      record.authority = .healthSourceAttested)
    (hsound : ∀ pending ∈ (a.step options s).2.pendingReconciles, pending.Sound)
    (hresponse : ∀ i frame context, s = .frame i frame context →
      frame.type = .reconcileResponse → ∀ record, .evidence record ∉ (a.step options s).1) :
    a.Trusts options s where
  owner record hrecord hauthority := by
    rw [hcalls record hrecord] at hauthority
    cases hauthority
  answers := hsound
  believed i frame context hs htype record hrecord :=
    absurd hrecord (hresponse i frame context hs htype record)

/-- The sink is told of no execution, and every request is sound. -/
structure Silent (result : List SinkCall × ProcessAdapter) : Prop where
  calls : ∀ record, .evidence record ∉ result.1
  sound : ∀ pending ∈ result.2.pendingReconciles, pending.Sound

theorem Silent.of_nothing (h : ∀ pending ∈ a.pendingReconciles, pending.Sound) :
    Silent ([], a) := ⟨fun _ => List.not_mem_nil, h⟩

theorem Silent.drop (h : ∀ pending ∈ a.pendingReconciles, pending.Sound) (index : Nat)
    (detail : Bytes) (told : Bool) (now : Timestamp) :
    Silent (a.dropConnection index detail told now) := by
  unfold dropConnection
  split
  · exact .of_nothing h
  · constructor
    · intro record hmem
      dsimp only at hmem
      split at hmem
      · exact nomatch List.mem_singleton.1 hmem
      · exact List.not_mem_nil hmem
    · intro pending hmem
      obtain ⟨old, hold, rfl⟩ := List.mem_map.1 hmem
      exact (h old hold).afterDrop index

/-- Whatever is not a frame is silent. -/
theorem step_silent (h : ∀ pending ∈ a.pendingReconciles, pending.Sound) {s : AdapterStep}
    (hs : s.cameOn = none) : Silent (a.step options s) := by
  cases s with
  | attach prepared now =>
    show Silent (a.attach options.maxWorkers prepared now).2
    unfold attach
    split
    · exact .of_nothing h
    dsimp only
    split
    · exact .of_nothing h
    · refine .drop ?_ _ _ _ _
      exact h
  | dispatch request sending now =>
    show Silent (a.dispatch request sending now).2
    unfold dispatch
    dsimp only
    split
    · exact .of_nothing h
    split
    · exact .of_nothing h
    unfold dispatchTo
    dsimp only
    split
    · exact .of_nothing h
    split
    · exact .of_nothing h
    · refine .drop ?_ _ _ _ _
      exact h
  | cancel fence sending =>
    refine .of_nothing ?_
    show ∀ pending ∈ (a.cancel fence sending).2.pendingReconciles, _
    unfold cancel
    dsimp only
    split
    · exact h
    split
    · exact h
    · exact h
  | frame i frame context => cases hs
  | fail i failure =>
    show Silent (if _ then _ else _)
    split
    · exact .of_nothing h
    · exact .of_nothing h
  | drop i detail now =>
    refine Silent.drop ?_ _ _ _ _
    exact h
  | ask i fences sending now =>
    show Silent ((ask sending now ([], a, {}) (i, fences)).1,
      (ask sending now ([], a, {}) (i, fences)).2.1)
    unfold ask
    dsimp only
    split
    · exact .of_nothing h
    split
    -- the request is remembered without an answer
    · refine .of_nothing fun pending hmem => ?_
      rcases List.mem_append.1 hmem with hold | hnew
      · exact h pending hold
      · cases List.mem_singleton.1 hnew
        intro serial hserial
        cases hserial
    · refine Silent.drop ?_ _ _ _ _
      exact h
  | collect call =>
    exact .of_nothing fun pending hmem => h pending (List.mem_of_mem_filter hmem)
  | closeAll => exact .of_nothing fun _ hmem => absurd hmem List.not_mem_nil

theorem Silent.trusts {s : AdapterStep} (h : Silent (a.step options s)) : a.Trusts options s :=
  .of_discreet (fun record hmem => absurd hmem (h.calls record)) h.sound fun _ _ _ _ _ => h.calls

/-! ## Frames -/

/-- What the handler of a frame answers, in the context of the adapter. -/
def handled (options : ProcessAdapterOptions) (a : ProcessAdapter) (i : Nat) (frame : Frame)
    (context : FrameContext) : Handled :=
  { a with sinkHint := true : ProcessAdapter }.handle (a.connectionAt i)
    { context with limits := options.limits } frame

theorem step_frame (options : ProcessAdapterOptions)
    (hopen : i < a.connections.length ∧ (a.connectionAt i).isOpen)
    (frame : Frame) (context : FrameContext) :
    (a.step options (.frame i frame context)).1 = (handled options a i frame context).1
      ∧ (a.step options (.frame i frame context)).2.pendingReconciles
        = (handled options a i frame context).2.1.pendingReconciles := by
  have hstep : a.step options (.frame i frame context)
      = a.handleFrame { context with limits := options.limits } i frame := if_pos hopen
  rw [hstep]
  exact ⟨rfl, rfl⟩

/-- Evidence is trusted exactly when it comes on the connection its attempt is routed to. -/
theorem evidence_trusts_iff (h : ∀ pending ∈ a.pendingReconciles, pending.Sound)
    (hopen : i < a.connections.length ∧ (a.connectionAt i).isOpen)
    (htype : frame.type = .evidence) (context : FrameContext) :
    a.Trusts options (.frame i frame context) ↔ a.Vouched options i frame := by
  obtain ⟨hcalls, hpending⟩ := step_frame options hopen frame context
  have hhandled : handled options a i frame context
      = { a with sinkHint := true : ProcessAdapter }.handleEvidence (a.connectionAt i)
        options.limits context.now frame.body := by
    unfold handled handle
    rw [htype]
  rw [hhandled] at hcalls hpending
  unfold handleEvidence at hcalls hpending
  cases hdecoded : decodeEvidence frame.body options.limits with
  | error status =>
    rw [hdecoded] at hcalls hpending
    -- a body that does not decode reaches nobody, and vouches for nothing
    have hsilent : Silent (a.step options (.frame i frame context)) := by
      constructor
      · rw [hcalls]
        exact fun record hmem => nomatch List.mem_singleton.1 hmem
      · rw [hpending]
        exact h
    constructor
    · intro _
      refine ⟨fun _ record hrecord => ?_, fun hresponse => ?_⟩
      · rw [hdecoded] at hrecord
        cases hrecord
      · rw [htype] at hresponse
        cases hresponse
    · exact fun _ => hsilent.trusts
  | ok record =>
    rw [hdecoded] at hcalls hpending
    dsimp only at hcalls hpending
    have hattempt : record.attest.attempt = record.attempt := rfl
    constructor
    -- the record is attested, so its attempt was routed to this connection
    · intro htrusts
      refine ⟨fun _ other hother j hroute => ?_, fun hresponse => ?_⟩
      · rw [hdecoded] at hother
        cases hother
        have := htrusts.owner record.attest (by rw [hcalls]; exact List.mem_singleton_self _) rfl j
          hroute
        exact (Option.some.inj this).symm
      · rw [htype] at hresponse
        cases hresponse
    · intro hvouched
      refine ⟨fun other hmem _ j hroute => ?_, ?_, fun k other _ hs hresponse => ?_⟩
      · rw [hcalls] at hmem
        cases List.mem_singleton.1 hmem
        exact congrArg some (hvouched.evidence htype record hdecoded j hroute).symm
      · rw [hpending]
        show ∀ pending ∈ ({ a with sinkHint := true : ProcessAdapter }.endRoute _ _).1.pendingReconciles, _
        unfold endRoute
        split
        · exact h
        · exact h
      · cases hs
        rw [htype] at hresponse
        cases hresponse

/-- The requests after the one at `k` was answered. -/
theorem mem_answered {message : ReconcileResponseMessage} {k : Nat} {pending : PendingReconcile}
    (h : pending ∈ a.pendingReconciles.modify k fun pending => pending.answer message c) :
    pending ∈ a.pendingReconciles
      ∨ ∃ old, a.pendingReconciles[k]? = some old ∧ pending = old.answer message c := by
  obtain ⟨n, hn⟩ := List.mem_iff_getElem?.1 h
  rw [List.getElem?_modify] at hn
  split at hn
  · next hk =>
    obtain ⟨old, hold, rfl⟩ := Option.map_eq_some_iff.1 hn
    exact .inr ⟨old, hk ▸ hold, rfl⟩
  · rw [Option.map_eq_map, Option.map_id'] at hn
    exact .inl (List.mem_iff_getElem?.2 ⟨n, hn⟩)

/-- An answer to a request that is outstanding: the request is answered and the entries are
believed. -/
structure Answered (a : ProcessAdapter) (c : Connection) (context : FrameContext)
    (message : ReconcileResponseMessage) (pending : PendingReconcile) (handled : Handled) :
    Prop where
  mem : ∀ other ∈ handled.2.1.pendingReconciles,
    other ∈ a.pendingReconciles ∨ other = pending.answer message c
  answer : pending.answer message c ∈ handled.2.1.pendingReconciles
  calls : ∃ acc : ProcessAdapter, handled.1 = (message.entries.foldl (believe context) ([], acc)).1

/-- Whatever else is said to be an answer is left alone. -/
theorem handleReconcileResponse_cases (context : FrameContext) (body : Bytes) :
    ((∀ message, decodeReconcileResponse body context.limits = .ok message →
        a.asked message.requestId = none)
      ∧ Discreet a (a.handleReconcileResponse c context body)
      ∧ ∀ record, .evidence record ∉ (a.handleReconcileResponse c context body).1)
    ∨ ∃ message pending, decodeReconcileResponse body context.limits = .ok message
      ∧ a.asked message.requestId = some pending
      ∧ Answered a c context message pending (a.handleReconcileResponse c context body) := by
  unfold handleReconcileResponse
  split
  · next hdecoded =>
    refine .inl ⟨fun message hmessage => ?_, .of_event rfl,
      fun _ hmem => nomatch List.mem_singleton.1 hmem⟩
    rw [hdecoded] at hmessage
    cases hmessage
  next message hdecoded =>
  split
  · next hnone =>
    refine .inl ⟨fun other hother => ?_, .of_event rfl,
      fun _ hmem => nomatch List.mem_singleton.1 hmem⟩
    rw [hdecoded] at hother
    cases hother
    rw [asked, hnone, Option.bind_none]
  · next k hk =>
    obtain ⟨hlt, -⟩ := List.findIdx?_eq_some_iff_getElem.1 hk
    have hold : a.pendingReconciles[k]? = some a.pendingReconciles[k] :=
      List.getElem?_eq_getElem hlt
    refine .inr ⟨message, a.pendingReconciles[k], hdecoded, ?_, ?_, ?_, ⟨_, rfl⟩⟩
    · rw [asked, hk, Option.bind_some, hold]
    · intro other hother
      dsimp only at hother
      rw [believe_pending] at hother
      rcases mem_answered hother with hmem | ⟨old, hat, rfl⟩
      · exact .inl hmem
      · rw [hold] at hat
        exact .inr (by rw [Option.some.inj hat])
    · dsimp only
      rw [believe_pending]
      refine List.mem_iff_getElem?.2 ⟨k, ?_⟩
      rw [List.getElem?_modify, hold]
      exact congrArg some (if_pos rfl)

/-- An answer is trusted exactly when it is vouched for. -/
theorem response_trusts_iff (h : ∀ pending ∈ a.pendingReconciles, pending.Sound)
    (hopen : i < a.connections.length ∧ (a.connectionAt i).isOpen)
    (htype : frame.type = .reconcileResponse) (context : FrameContext) :
    a.Trusts options (.frame i frame context) ↔ a.Vouched options i frame := by
  obtain ⟨hcalls, hpending⟩ := step_frame options hopen frame context
  have hhandled : handled options a i frame context
      = { a with sinkHint := true : ProcessAdapter }.handleReconcileResponse (a.connectionAt i)
        { context with limits := options.limits } frame.body := by
    unfold handled handle
    rw [htype]
  have hevidence : frame.type ≠ .evidence := by rw [htype]; exact nofun
  rcases handleReconcileResponse_cases { context with limits := options.limits } frame.body with
    ⟨hunasked, hdiscreet, hsilent⟩ | ⟨message, pending, hdecoded, hasked, hanswered⟩
  -- nobody asked, or the body does not decode: the answer says nothing
  · rw [← hhandled] at hdiscreet hsilent
    constructor
    · intro _
      refine ⟨fun hother => absurd hother hevidence, fun _ message pending hmessage hpending => ?_⟩
      have := (hunasked message hmessage).symm.trans hpending
      cases this
    · intro _
      refine Silent.trusts ⟨?_, ?_⟩
      · rwa [hcalls]
      · rw [hpending, hdiscreet.pending]
        exact h
  -- what was asked is answered: the records are those of the entries it believes
  · rw [← hhandled] at hanswered
    obtain ⟨acc, hrecords⟩ := hanswered.calls
    rw [← hcalls] at hrecords
    constructor
    · intro htrusts
      refine ⟨fun hother => absurd hother hevidence, fun _ other old hother hold => ?_⟩
      rw [hdecoded] at hother
      cases hother
      cases hasked.symm.trans hold
      obtain ⟨hserial, hfences⟩ := htrusts.answers _ (by rw [hpending]; exact hanswered.answer) _ rfl
      refine ⟨hserial, fun entry hentry => ⟨hfences entry hentry, fun hattests j hroute => ?_⟩⟩
      obtain ⟨record, hmem, hauthority, hfence⟩ := believe_entry hentry hattests ([], acc)
      rw [← hrecords] at hmem
      have hattempt : record.attempt = entry.fence.attempt := congrArg AttemptFence.attempt hfence
      exact (Option.some.inj (htrusts.owner record hmem hauthority j (hattempt ▸ hroute))).symm
    · intro hvouched
      obtain ⟨hserial, hentries⟩ := hvouched.response htype message pending hdecoded hasked
      constructor
      · intro record hmem _ j hroute
        rw [hrecords] at hmem
        rcases believe_record hmem with hnil | ⟨entry, hentry, hattests, hfence⟩
        · cases hnil
        · have hattempt : record.attempt = entry.fence.attempt := congrArg AttemptFence.attempt hfence
          exact congrArg some ((hentries entry hentry).2 hattests j (hattempt ▸ hroute)).symm
      · intro other hother
        rw [hpending] at hother
        rcases hanswered.mem other hother with hmem | rfl
        · exact h other hmem
        · intro serial hs
          cases hs
          exact ⟨hserial, fun entry hentry => (hentries entry hentry).1⟩
      · intro k other _ hs _ record hmem
        cases hs
        rw [hrecords] at hmem
        rcases believe_record hmem with hnil | ⟨entry, hentry, -, hfence⟩
        · cases hnil
        · refine ⟨_, by rw [hpending]; exact hanswered.answer, rfl, ?_⟩
          rw [hfence]
          exact (hentries entry hentry).1

/-- Other frames are always trusted. -/
theorem other_trusts (h : ∀ pending ∈ a.pendingReconciles, pending.Sound)
    (hopen : i < a.connections.length ∧ (a.connectionAt i).isOpen)
    (hevidence : frame.type ≠ .evidence) (hresponse : frame.type ≠ .reconcileResponse)
    (context : FrameContext) : a.Trusts options (.frame i frame context) := by
  obtain ⟨hcalls, hpending⟩ := step_frame options hopen frame context
  have hdiscreet : Discreet { a with sinkHint := true } (handled options a i frame context) :=
    handle_discreet hevidence hresponse
  refine .of_discreet ?_ ?_ fun k other _ hs htype => ?_
  · rw [hcalls]
    exact hdiscreet.calls
  · rw [hpending, hdiscreet.pending]
    exact h
  · cases hs
    exact absurd htype hresponse

/-- A step is trusted exactly when the frame it handles is vouched for. -/
theorem trusts_iff (h : ∀ pending ∈ a.pendingReconciles, pending.Sound) (s : AdapterStep) :
    a.Trusts options s ↔ a.Vouches options s := by
  by_cases hs : ∃ i frame context, s = .frame i frame context
  · obtain ⟨i, frame, context, rfl⟩ := hs
    have hvouches : a.Vouches options (.frame i frame context) ↔
        (i < a.connections.length ∧ (a.connectionAt i).isOpen → a.Vouched options i frame) := by
      constructor
      · exact fun hall => hall i frame context rfl
      · intro hvouched _ _ _ hother
        cases hother
        exact hvouched
    rw [hvouches]
    by_cases hopen : i < a.connections.length ∧ (a.connectionAt i).isOpen
    · rw [forall_prop_of_true hopen]
      by_cases hevidence : frame.type = .evidence
      · exact evidence_trusts_iff h hopen hevidence context
      by_cases hresponse : frame.type = .reconcileResponse
      · exact response_trusts_iff h hopen hresponse context
      · exact iff_of_true (other_trusts h hopen hevidence hresponse context)
          ⟨fun htype => absurd htype hevidence, fun htype => absurd htype hresponse⟩
    · have hstep : a.step options (.frame i frame context) = ([], a) := if_neg hopen
      refine iff_of_true (Silent.trusts ?_) fun h => absurd h hopen
      rw [hstep]
      exact .of_nothing h
  · refine iff_of_true (step_silent h ?_).trusts fun i frame context hframe =>
      absurd ⟨i, frame, context, hframe⟩ hs
    cases s with
    | frame i frame context => exact absurd ⟨i, frame, context, rfl⟩ hs
    | _ => rfl

/-! ## Runs -/

theorem along_trusts_iff (h : ∀ pending ∈ a.pendingReconciles, pending.Sound)
    (steps : List AdapterStep) :
    a.Along options (Trusts options) steps ↔ a.Along options (Vouches options) steps := by
  induction steps generalizing a with
  | nil => exact Iff.rfl
  | cons s steps ih =>
    constructor
    · rintro ⟨hs, hsteps⟩
      exact ⟨(trusts_iff h s).1 hs, (ih hs.answers).1 hsteps⟩
    · rintro ⟨hs, hsteps⟩
      have htrusts := (trusts_iff h s).2 hs
      exact ⟨htrusts, (ih htrusts.answers).2 hsteps⟩

/-- In a run the adapter attests only the executors it dispatched to exactly when every frame that
it handles is vouched for: nothing in the adapter looks at where a frame comes from. -/
theorem attests_owner_iff (options : ProcessAdapterOptions) (steps : List AdapterStep) :
    ({} : ProcessAdapter).Along options (Trusts options) steps
      ↔ ({} : ProcessAdapter).Along options (Vouches options) steps :=
  along_trusts_iff (fun _ hmem => absurd hmem List.not_mem_nil) steps

theorem along_last {P : ProcessAdapter → AdapterStep → Prop} {steps : List AdapterStep}
    {s : AdapterStep} (h : a.Along options P (steps ++ [s])) : P (a.run options steps) s := by
  induction steps generalizing a with
  | nil => exact h.1
  | cons first steps ih => exact ih h.2

def workerHello (i : Nat) (worker : UInt8) : AdapterStep :=
  .frame i { type := .hello
             body := HelloMessage.encode { abiVersion := kRuntimeAbiVersion, worker := idOf worker
                                           incarnation := idOf worker, capacity := 1 } }
    { limits := {} }

/-- Two workers; the second one is sent an attempt, and asked about it. -/
def askedRun : List AdapterStep :=
  [.attach .success {}, .attach .success {}, workerHello 0 1, workerHello 1 2,
    .dispatch { fence := { attempt := idOf 3 } } {} {}, .ask 1 [{ attempt := idOf 3 }] {} {}]

/-- The first worker answers in the place of the second. -/
def strangerAnswer : AdapterStep :=
  .frame 0 { type := .reconcileResponse
             body := ReconcileResponseMessage.encode { requestId := 1, entries := [
               { fence := { attempt := idOf 3 }, disposition := .completed }] } } { limits := {} }

/-- The sink is told of an attested record of an attempt routed to that connection. -/
def SinkCall.attestsRouted (a : ProcessAdapter) (i : Nat) : SinkCall → Bool
  | .evidence record => record.authority == .executionAdapterAttested
    && a.attemptRoutes.lookup record.attempt == some i
  | .event _ => false

/-- The answer is accepted, and becomes an attested record of an attempt routed to the other. -/
theorem stranger_is_attested : ¬ ∀ options steps,
    ({} : ProcessAdapter).Along options (Trusts options) steps := by
  intro hall
  have htrusts := along_last (hall {} (askedRun ++ [strangerAnswer]))
  have h : let a := ({} : ProcessAdapter).run {} askedRun
      (a.step {} strangerAnswer).1.length = 1
        ∧ (a.step {} strangerAnswer).1.all (SinkCall.attestsRouted a 1) = true := by decide +kernel
  obtain ⟨hlength, hevery⟩ := h
  obtain ⟨call, hcall⟩ := List.length_eq_one_iff.1 hlength
  rw [hcall, List.all_cons, List.all_nil, Bool.and_true] at hevery
  cases call with
  | event event => cases hevery
  | evidence record =>
    rw [SinkCall.attestsRouted, Bool.and_eq_true, beq_iff_eq, beq_iff_eq] at hevery
    have := htrusts.owner record (by rw [hcall]; exact List.mem_singleton_self _) hevery.1 1 hevery.2
    cases this

end ProcessAdapter

end RolloutFabric
