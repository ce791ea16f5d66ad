/-
The handlers of the reactor, as the moves they make on the ledger.
-/
import RolloutFabric.Worker.Ledger

namespace RolloutFabric

namespace Worker

variable {named : AttemptId → Digest256 → Prop} {calm : Prop} {l : Ledger} {w : Worker}
  {attempt : AttemptId} {e : EffectState} {fence : AttemptFence}

/-! ## Sending -/

theorem queueMessage_ledger (body : Bytes) : (w.queueMessage body).2.ledger = w.ledger := by
  unfold queueMessage
  dsimp only
  split
  · rfl
  split
  · rfl
  · rfl

theorem send_ledger (body : Bytes) (event : WorkerEvent) :
    (w.send body event).2.ledger
      = if (w.send body event).1.isOk then w.ledger.notes [event] else w.ledger := by
  have h := queueMessage_ledger (w := w) body
  unfold send
  generalize w.queueMessage body = r at h
  obtain ⟨queued, w'⟩ := r
  dsimp only at h ⊢
  split
  · rw [← h]
    rfl
  · exact h

theorem emitRecord_ledger (w : Worker) (e : EffectState) (fence : AttemptFence)
    (kind : EvidenceKind) (outcome : EvidenceOutcome) (sequence : UInt64) (observedAt : Timestamp)
    (replay : Bool) :
    (w.emitRecord e fence kind outcome sequence observedAt replay).2.ledger
      = if (w.emitRecord e fence kind outcome sequence observedAt replay).1.isOk then
          w.ledger.notes [.published e.fence.attempt e.key replay
            (w.recordOf e fence kind outcome sequence observedAt)]
        else w.ledger :=
  send_ledger _ _

/-! ## A channel that takes everything -/

/-- The channel takes every frame of the step, and every record fits one. -/
structure Open (w : Worker) : Prop where
  room : 4096 ≤ w.options.limits.maxFrameBytes
  channel : ∀ answer ∈ w.channel, answer.isOk = true

theorem length_recordOf (w : Worker) (e : EffectState) (fence : AttemptFence) (kind : EvidenceKind)
    (outcome : EvidenceOutcome) (sequence : UInt64) (observedAt : Timestamp) :
    (w.recordOf e fence kind outcome sequence observedAt).encode.length ≤ 4096 := by
  unfold EvidenceRecord.encode recordOf
  simp only [List.flatten_cons, List.flatten_nil, List.length_append, ByteWriter.id,
    ByteWriter.digest, ByteWriter.u64, ByteWriter.u8, ByteWriter.timestamp, ByteWriter.duration,
    ByteWriter.i64, ByteWriter.vector, ByteWriter.count, ByteWriter.u32, FixedBytes.size_eq,
    List.length_cons, List.length_nil, List.map_nil]
  omega

theorem Open.queueMessage (h : w.Open) {body : Bytes} (hbody : body.length ≤ 4096) :
    (w.queueMessage body).1.isOk = true ∧ (w.queueMessage body).2.Open := by
  have hroom := UInt32.le_iff_toNat_le.1 h.room
  have hfits : ¬ w.options.limits.maxFrameBytes.toNat < body.length :=
    Nat.not_lt.2 (hbody.trans hroom)
  unfold Worker.queueMessage
  dsimp only
  rw [if_neg hfits]
  split
  · exact ⟨rfl, h.room, h.channel⟩
  · next answer channel hchannel =>
    have hall := h.channel
    rw [hchannel, List.forall_mem_cons] at hall
    exact ⟨hall.1, h.room, hall.2⟩

theorem Open.emitRecord (h : w.Open) (e : EffectState) (fence : AttemptFence) (kind : EvidenceKind)
    (outcome : EvidenceOutcome) (sequence : UInt64) (observedAt : Timestamp) (replay : Bool) :
    (w.emitRecord e fence kind outcome sequence observedAt replay).1.isOk = true
      ∧ (w.emitRecord e fence kind outcome sequence observedAt replay).2.Open := by
  have hopen : Open { w with ids := (w.ids.next .evidence .evidence).2 } := ⟨h.room, h.channel⟩
  obtain ⟨hok, hopen'⟩ := hopen.queueMessage (length_recordOf w e fence kind outcome sequence
    observedAt)
  unfold Worker.emitRecord send
  dsimp only
  refine ⟨hok, ?_⟩
  rw [if_pos hok]
  exact ⟨hopen'.room, hopen'.channel⟩

theorem setEffect_ledger (w : Worker) (attempt : AttemptId) (e : EffectState) :
    (w.setEffect attempt e).ledger = w.ledger.setEffect attempt e := rfl

theorem countOutcome_ledger (w : Worker) (outcome : EvidenceOutcome) :
    (w.countOutcome outcome).ledger = w.ledger := by
  unfold countOutcome
  split <;> rfl

theorem countOutcome_effects (w : Worker) (outcome : EvidenceOutcome) :
    (w.countOutcome outcome).effects = w.effects :=
  congrArg Ledger.effects (countOutcome_ledger w outcome)

@[simp] theorem lookup_setEffect (w : Worker) (attempt : AttemptId) (e : EffectState) :
    (w.setEffect attempt e).effects.lookup attempt = some e := AList.lookup_insert _

/-- A record changes nothing of the effects. -/
@[simp] theorem emitRecord_effects (w : Worker) (e : EffectState) (fence : AttemptFence)
    (kind : EvidenceKind) (outcome : EvidenceOutcome) (sequence : UInt64) (observedAt : Timestamp)
    (replay : Bool) :
    (w.emitRecord e fence kind outcome sequence observedAt replay).2.effects = w.effects := by
  have h := congrArg Ledger.effects
    (emitRecord_ledger w e fence kind outcome sequence observedAt replay)
  split at h <;> exact h

/-- A record that was queued is seen. -/
theorem emitRecord_told {w : Worker} {e : EffectState} {fence : AttemptFence} {sequence : UInt64}
    {observedAt : Timestamp} {replay : Bool}
    (h : (w.emitRecord e fence e.kind e.outcome sequence observedAt replay).1.isOk = true) :
    Told (w.emitRecord e fence e.kind e.outcome sequence observedAt replay).2.trace e.fence.attempt
      e fence := by
  have htrace := congrArg Ledger.trace
    (emitRecord_ledger w e fence e.kind e.outcome sequence observedAt replay)
  rw [if_pos h] at htrace
  refine ⟨replay, w.recordOf e fence e.kind e.outcome sequence observedAt, ?_, rfl, rfl, rfl⟩
  rw [show Worker.trace _ = _ from htrace]
  exact List.mem_append_right _ (List.mem_singleton_self _)

/-! ## Dispatch -/

theorem replay_leads (hlookup : w.effects.lookup attempt = some e) (hsettled : e.terminal = true)
    (fence : AttemptFence) (observedAt : Timestamp) :
    Leads named calm w.ledger (w.replay e fence observedAt) fun w' =>
      w'.effects = w.effects ∧ Told w'.trace e.fence.attempt e fence := by
  have hrecord : ∀ w' : Worker, w'.effects = w.effects →
      Leads named calm w'.ledger
        (w'.emitRecord e fence e.kind e.outcome e.sequence observedAt true) fun w'' =>
          w''.effects = w.effects ∧ Told w''.trace e.fence.attempt e fence := fun w' hw' => by
    have hat : w'.ledger.effects.lookup attempt = some e := by
      rw [show w'.ledger.effects = w.effects from hw', hlookup]
    refine .single (.replayed hat hsettled rfl rfl)
      (emitRecord_ledger w' e fence e.kind e.outcome e.sequence observedAt true) fun hok => ?_
    exact ⟨(emitRecord_effects ..).trans hw', emitRecord_told hok⟩
  refine (hrecord w rfl).andThen fun w' hw' => ?_
  split
  · exact hrecord w' hw'.1
  · exact .still rfl fun _ => hw'

theorem suppress_leads (hlookup : w.effects.lookup attempt = some e) (fence : AttemptFence) :
    Leads named calm w.ledger (w.suppress attempt e fence) fun _ => True := by
  unfold suppress
  dsimp only
  split
  · next hsettled =>
    refine (replay_leads hlookup hsettled fence e.terminalAt).andThen fun w' hw' => ?_
    refine .single (.suppressed (e := e) ?_ ?_ ?_) (send_ledger _ _) fun _ => trivial
    · rw [show w'.ledger.effects = w.effects from hw'.1, hlookup]
    · rw [hsettled]
      exact nofun
    · exact fun _ => hw'.2
  · next hopen =>
    rw [Bool.not_eq_true] at hopen
    refine .head (.unseen hlookup (.asked fence hopen)) ?_
    refine .single (.suppressed (e := e.defer fence) (lookup_setEffect ..) ?_ ?_)
      (send_ledger _ _) fun _ => trivial
    · exact fun _ => List.mem_cons_self
    · exact fun hsettled => absurd (hopen.symm.trans hsettled) nofun

/-- The table is as it was, or a key is gone from it and was seen to go. -/
theorem evictLoop_cases (steps : Nat) (w : Worker) :
    (evictLoop steps w).ledger = w.ledger ∨ ∃ key, (evictLoop steps w).options = w.options
      ∧ (evictLoop steps w).trace = w.trace ++ [.evicted key]
      ∧ (evictLoop steps w).keyIndex = w.keyIndex.erase key := by
  induction steps generalizing w with
  | zero => exact .inl rfl
  | succ steps ih =>
    unfold evictLoop
    split
    · exact .inl rfl
    split
    · exact ih _
    · split
      · exact ih _
      · exact .inr ⟨_, rfl, rfl, rfl⟩

theorem evictIfNeeded_leads {key : Digest256} (hfresh : w.keyIndex.lookup key = none) :
    Relation.ReflTransGen (LedgerMove named calm) w.ledger w.evictIfNeeded.ledger
      ∧ w.evictIfNeeded.keyIndex.lookup key = none := by
  unfold evictIfNeeded
  split
  · exact ⟨.refl, hfresh⟩
  rcases evictLoop_cases w.effectOrder.length w with hsame | ⟨other, hoptions, htrace, hindex⟩
  · rw [hsame]
    have hindex : (evictLoop w.effectOrder.length w).keyIndex = w.keyIndex :=
      congrArg Ledger.keyIndex hsame
    exact ⟨.refl, by rw [hindex, hfresh]⟩
  · refine ⟨.single (.evicted hoptions ⟨_, htrace, List.mem_singleton_self _⟩), ?_⟩
    rw [hindex]
    by_cases hkey : key = other
    · rw [hkey, AList.lookup_erase]
    · rw [AList.lookup_erase_ne hkey, hfresh]

theorem lookup_emplace_self {α β : Type} [DecidableEq α] (m : Map α β) (x : α) (v : β) :
    ∃ stored, (emplace m x v).lookup x = some stored := by
  unfold emplace
  split
  · next h => exact Option.isSome_iff_exists.1 (AList.lookup_isSome.2 h)
  · exact ⟨v, AList.lookup_insert _⟩

theorem start_ledger (message : DispatchCommandMessage) (scenario : WorkerTargetScenario)
    (stored : EffectState) : (w.start message scenario stored).1.isOk = true
      ∧ ∃ starts : Bool, (w.start message scenario stored).2.ledger = w.ledger.notes
        (if starts then [.started message.request.idempotencyKey message.request.fence.attempt]
          else []) := by
  unfold start
  split
  · exact ⟨rfl, false, w.ledger.notes_nil.symm⟩
  split
  · exact ⟨rfl, false, w.ledger.notes_nil.symm⟩
  · exact ⟨rfl, true, rfl⟩

theorem accept_leads {message : DispatchCommandMessage}
    (hfresh : w.keyIndex.lookup message.request.idempotencyKey = none)
    (hnamed : named message.request.fence.attempt message.request.idempotencyKey) :
    Leads named calm w.ledger (w.accept message) fun _ => True := by
  obtain ⟨hmoves, hfresh⟩ : Relation.ReflTransGen (LedgerMove named calm) w.ledger
      w.evictIfNeeded.ledger ∧ _ := evictIfNeeded_leads hfresh
  -- the evictions come first, and what follows starts from a worker with room
  suffices h : Leads named calm w.evictIfNeeded.ledger (w.accept message) fun _ => True by
    obtain ⟨m, hmore, hm⟩ := h
    exact ⟨m, hmoves.trans hmore, hm⟩
  unfold accept
  dsimp only
  generalize w.options.scenario.forTarget message.target = scenario
  generalize w.evictIfNeeded = w at hfresh ⊢
  obtain ⟨stored, hstored⟩ := lookup_emplace_self w.effects message.request.fence.attempt
    (w.accepted message scenario)
  -- the effect is admitted under its key, and nothing else is stored for the attempt
  have hadmits : EffectAdmits named w.ledger message.request.fence.attempt
      message.request.idempotencyKey (w.accepted message scenario) stored :=
    ⟨hnamed, hfresh, rfl, rfl, rfl, rfl, rfl, rfl, rfl, hstored⟩
  have hat : (((w.enroll message scenario).effects.lookup message.request.fence.attempt).getD
      default) = stored := by
    rw [show (w.enroll message scenario).effects.lookup message.request.fence.attempt = _ from
      hstored]
    rfl
  rw [hat]
  have hledger : (w.enroll message scenario).ledger = Ledger.admitted w.ledger
      message.request.fence.attempt message.request.idempotencyKey (w.accepted message scenario) :=
    rfl
  generalize w.enroll message scenario = admitted at hledger ⊢
  have hemit := emitRecord_ledger admitted stored message.request.fence .dispatchAccepted .succeeded
    1 admitted.now false
  generalize hrecord : admitted.recordOf stored message.request.fence .dispatchAccepted .succeeded
    1 admitted.now = record at hemit
  have hkind : record.kind = .dispatchAccepted := by rw [← hrecord]; rfl
  have hsequence : record.sequence = 1 := by rw [← hrecord]; rfl
  generalize admitted.emitRecord stored message.request.fence .dispatchAccepted .succeeded 1
    admitted.now false = emitted at hemit
  rw [hledger] at hemit
  -- the first record goes out before the acknowledgement
  by_cases hemitted : emitted.1.isOk = true
  · rw [if_pos hemitted] at hemit
    rw [andThen, if_pos hemitted]
    generalize hack : DispatchAckMessage.mk message.request.fence .accepted
      (text "the worker accepted the attempt and will report completion separately")
      emitted.2.now = ack
    have hanswer := send_ledger (w := emitted.2) ack.encode (.answered ack)
    unfold sendAck
    generalize emitted.2.send ack.encode (.answered ack) = answered at hanswer
    rw [hemit] at hanswer
    by_cases hanswered : answered.1.isOk = true
    · rw [if_pos hanswered] at hanswer
      rw [andThen, if_pos hanswered]
      obtain ⟨hok, starts, hstart⟩ := start_ledger (w := answered.2) message scenario stored
      -- both went out, and whether it starts is up to the scenario
      have hmove : LedgerMove named calm w.ledger ((w.ledger.admitted message.request.fence.attempt
          message.request.idempotencyKey (w.accepted message scenario)).notes
          (.published stored.fence.attempt stored.key false record :: .answered ack :: if starts then
            [.started message.request.idempotencyKey message.request.fence.attempt] else [])) :=
        .accepted hadmits hkind hsequence
      refine ⟨_, .single hmove, ?_⟩
      rw [if_pos hok, hstart, hanswer]
      exact ⟨by simp only [Ledger.notes, List.append_assoc]; rfl, trivial⟩
    · rw [if_neg hanswered] at hanswer
      rw [andThen, if_neg hanswered]
      refine ⟨_, .refl, ?_⟩
      rw [if_neg hanswered, hanswer]
      exact .accepted hadmits hkind hsequence
  · rw [if_neg hemitted] at hemit
    rw [andThen, if_neg hemitted]
    refine ⟨_, .refl, ?_⟩
    rw [if_neg hemitted, hemit]
    exact .admitted hadmits

/-- Of a dispatch frame, the attempt and the key it names. -/
theorem handleDispatch_leads {body : Bytes}
    (hnamed : ∀ message, decodeDispatch body w.options.limits = .ok message →
      named message.request.fence.attempt message.request.idempotencyKey) :
    Leads named calm w.ledger (w.handleDispatch body) fun _ => True := by
  have hanswer : ∀ (w : Worker) (ack : DispatchAckMessage),
      Leads named calm w.ledger (w.sendAck ack) fun _ => True := fun w ack =>
    .single (.answered ack) (send_ledger _ _) fun _ => trivial
  unfold handleDispatch
  split
  · exact .still rfl fun _ => trivial
  next message hdecoded =>
  dsimp only
  split
  · exact hanswer w _
  split
  · exact hanswer w _
  split
  · next attempt effect hknown =>
    obtain ⟨other, -, hother⟩ := Option.bind_eq_some_iff.1 hknown
    obtain ⟨found, hfound, hpair⟩ := Option.map_eq_some_iff.1 hother
    cases hpair
    exact suppress_leads hfound _
  · next hunknown =>
    have hforgot : LedgerMove named calm w.ledger
        { w with keyIndex := w.keyIndex.erase message.request.idempotencyKey : Worker }.ledger := by
      refine .forgot fun attempt hattempt hmem => ?_
      obtain ⟨found, hfound⟩ := Option.isSome_iff_exists.1 (AList.lookup_isSome.2 hmem)
      have hat : w.keyIndex.lookup message.request.idempotencyKey = some attempt := hattempt
      have hsome : w.effects.lookup attempt = some found := hfound
      rw [known, hat, Option.bind_some, hsome] at hunknown
      cases hunknown
    refine .head hforgot ?_
    split
    · exact hanswer { w with keyIndex := w.keyIndex.erase message.request.idempotencyKey } _
    split
    · exact hanswer { w with keyIndex := w.keyIndex.erase message.request.idempotencyKey } _
    · exact accept_leads (AList.lookup_erase _ _) (hnamed message hdecoded)

/-! ## Completions -/

/-- An effect after some completions: who asked for it does not change. -/
structure Kin (e e' : EffectState) : Prop where
  askers : e'.askers = e.askers
  fence : e'.fence = e.fence
  deferred : e'.deferred = e.deferred
  cancelled : e'.cancelled = e.cancelled
  settled : e.terminal = true → e'.terminal = true

/-- A worker after some completions. -/
structure Later (w w' : Worker) : Prop where
  effects : ∀ attempt e', w'.effects.lookup attempt = some e' →
    ∃ e, w.effects.lookup attempt = some e ∧ Kin e e'
  channel : w.Open → w'.Open

theorem Later.of_effects {w' : Worker} (heffects : w'.effects = w.effects)
    (hopen : w.Open → w'.Open) : Later w w' :=
  ⟨fun attempt e' h => ⟨e', by rw [← heffects, h], rfl, rfl, rfl, rfl, id⟩, hopen⟩

theorem Later.refl (w : Worker) : Later w w := .of_effects rfl id

theorem Later.trans {w' w'' : Worker} (h : Later w w') (h' : Later w' w'') : Later w w'' where
  effects attempt e'' hat := by
    obtain ⟨e', hat', hkin'⟩ := h'.effects attempt e'' hat
    obtain ⟨e, hat, hkin⟩ := h.effects attempt e' hat'
    exact ⟨e, hat, hkin'.askers.trans hkin.askers, hkin'.fence.trans hkin.fence,
      hkin'.deferred.trans hkin.deferred, hkin'.cancelled.trans hkin.cancelled,
      fun hsettled => hkin'.settled (hkin.settled hsettled)⟩
  channel hopen := h'.channel (h.channel hopen)

theorem Later.set {e' : EffectState} (hlookup : w.effects.lookup attempt = some e)
    (hkin : Kin e e') : Later w (w.setEffect attempt e') where
  effects other f hother := by
    by_cases hattempt : other = attempt
    · subst hattempt
      have : f = e' := Option.some.inj (hother.symm.trans (AList.lookup_insert _))
      exact this ▸ ⟨e, hlookup, hkin⟩
    · refine ⟨f, ?_, rfl, rfl, rfl, rfl, id⟩
      rw [← hother]
      exact (AList.lookup_insert_ne hattempt).symm
  channel hopen := ⟨hopen.room, hopen.channel⟩

theorem later_countOutcome (w : Worker) (outcome : EvidenceOutcome) :
    Later w (w.countOutcome outcome) := by
  refine .of_effects (countOutcome_effects w outcome) fun hopen => ?_
  unfold countOutcome
  split
  · exact ⟨hopen.room, hopen.channel⟩
  · exact ⟨hopen.room, hopen.channel⟩

theorem later_emitRecord (w : Worker) (e : EffectState) (fence : AttemptFence)
    (kind : EvidenceKind) (outcome : EvidenceOutcome) (sequence : UInt64) (observedAt : Timestamp)
    (replay : Bool) :
    Later w (w.emitRecord e fence kind outcome sequence observedAt replay).2 :=
  .of_effects (emitRecord_effects ..) fun hopen => (hopen.emitRecord ..).2

/-- Where the channel takes everything a record is queued. -/
theorem not_open_of_lost {w : Worker} {e : EffectState} {fence : AttemptFence} {kind : EvidenceKind}
    {outcome : EvidenceOutcome} {sequence : UInt64} {observedAt : Timestamp} {replay : Bool}
    (h : (w.emitRecord e fence kind outcome sequence observedAt replay).1.isOk = false) :
    ¬ w.Open := fun hopen => by
  rw [(hopen.emitRecord ..).1] at h
  cases h

/-- An effect is changed, and then a record of it is queued. -/
theorem set_emit_leads {e' : EffectState} {kind : EvidenceKind} {outcome : EvidenceOutcome}
    {sequence : UInt64} {observedAt : Timestamp} {replay : Bool}
    (hlookup : w.effects.lookup attempt = some e) (hkin : Kin e e')
    (hmove : EffectMove calm e e' [.published e'.fence.attempt e'.key replay
      ((w.setEffect attempt e').recordOf e' fence kind outcome sequence observedAt)])
    (hloss : ((w.setEffect attempt e').emitRecord e' fence kind outcome sequence observedAt
      replay).1.isOk = false → EffectLoss calm e e' []) :
    Leads named calm w.ledger
      ((w.setEffect attempt e').emitRecord e' fence kind outcome sequence observedAt replay)
      fun w' => Later w w' ∧ w'.effects.lookup attempt = some e' := by
  refine .either (.effect hlookup hmove) (fun hlost => .effect hlookup (hloss hlost)) ?_
    fun _ => ⟨?_, ?_⟩
  · rw [emitRecord_ledger, Ledger.notes_nil]
    rfl
  · exact (Later.set hlookup hkin).trans (later_emitRecord ..)
  · rw [emitRecord_effects, lookup_setEffect]

/-- An outcome is published once more. -/
theorem repeat_leads (hlookup : w.effects.lookup attempt = some e) (hsettled : e.terminal = true)
    (fence : AttemptFence) (observedAt : Timestamp) :
    Leads named calm w.ledger
      (w.emitRecord e fence e.kind e.outcome e.sequence observedAt true)
      fun w' => Later w w' ∧ w'.effects.lookup attempt = some e := by
  refine .single (.replayed hlookup hsettled rfl rfl) (emitRecord_ledger ..) fun _ => ⟨?_, ?_⟩
  · exact later_emitRecord ..
  · rw [emitRecord_effects, hlookup]

theorem reorder_leads (hlookup : w.effects.lookup attempt = some e) (hsettled : e.terminal = true)
    (observedAt : Timestamp) :
    Leads named calm w.ledger (w.reorder attempt e observedAt) fun w' => Later w w'
      ∧ ∃ e', w'.effects.lookup attempt = some e' ∧ Kin e e' := by
  unfold reorder
  refine Leads.weaken (set_emit_leads hlookup ⟨rfl, rfl, rfl, rfl, id⟩ (.progressed rfl rfl)
    fun _ => .reordered hsettled) fun w' h => ⟨h.1, _, h.2, rfl, rfl, rfl, rfl, id⟩

theorem relieve_leads (hlookup : w.effects.lookup attempt = some e) (hsettled : e.terminal = true)
    (hcalm : calm → e.askers = [] ∨ w.Open) (observedAt : Timestamp) :
    Leads named calm w.ledger (w.relieve attempt observedAt) (Later w) := by
  unfold relieve
  rw [hlookup, Option.getD_some]
  dsimp only
  split
  · unfold replay
    refine Leads.andThen (set_emit_leads hlookup ⟨rfl, rfl, rfl, rfl, id⟩ (.relieved hsettled rfl rfl
      rfl) fun hlost => .relieved hsettled fun hquiet => ?_) fun w' h => ?_
    · rcases hcalm hquiet with hnone | hopen
      · exact hnone
      · exact absurd ⟨hopen.room, hopen.channel⟩ (not_open_of_lost hlost)
    · split
      · exact (repeat_leads h.2 hsettled _ observedAt).weaken fun w'' h' => h.1.trans h'.1
      · exact .still rfl fun _ => h.1
  · exact .still rfl fun _ => .refl w

theorem follow_leads (hlookup : w.effects.lookup attempt = some e) (hsettled : e.terminal = true)
    (hcalm : calm → e.askers = [] ∨ w.Open) (observedAt : Timestamp) :
    Leads named calm w.ledger (w.follow attempt e observedAt) (Later w) := by
  unfold follow
  refine Leads.andThen (Q := fun w' => Later w w' ∧ w'.effects.lookup attempt = some e) ?_
    fun w₁ h₁ => ?_
  · split
    · exact repeat_leads hlookup hsettled _ observedAt
    · exact .still rfl fun _ => ⟨.refl w, hlookup⟩
  refine Leads.andThen (Q := fun w' => Later w w' ∧ ∃ e', w'.effects.lookup attempt = some e'
    ∧ Kin e e') ?_ fun w₂ h₂ => ?_
  · split
    · exact (reorder_leads h₁.2 hsettled observedAt).weaken fun w' h => ⟨h₁.1.trans h.1, h.2⟩
    · exact .still rfl fun _ => ⟨h₁.1, e, h₁.2, rfl, rfl, rfl, rfl, id⟩
  obtain ⟨hlater, e', hat, hkin⟩ := h₂
  refine (relieve_leads hat (hkin.settled hsettled) (fun hquiet => ?_) observedAt).weaken
    fun w' h => hlater.trans h
  rw [hkin.askers]
  exact (hcalm hquiet).imp id hlater.channel

theorem settle_leads (hlookup : w.effects.lookup attempt = some e) (hsettled : e.terminal = true)
    (hcalm : calm → e.askers = [] ∨ w.Open) (observedAt : Timestamp) :
    Leads named calm w.ledger (w.settle attempt observedAt) (Later w) := by
  unfold settle
  rw [hlookup, Option.getD_some]
  dsimp only
  have hkin : Kin e (e.date observedAt) := ⟨rfl, rfl, rfl, rfl, id⟩
  have hlater := Later.set hlookup hkin
  have hmove : LedgerMove named calm w.ledger (w.setEffect attempt (e.date observedAt)).ledger :=
    .unseen hlookup (.dated observedAt hsettled)
  refine .head hmove (Leads.weaken ?_ fun w' h => hlater.trans h)
  exact follow_leads (lookup_setEffect w attempt (e.date observedAt)) (hkin.settled hsettled)
    (fun hquiet => (hcalm hquiet).imp hkin.askers.trans hlater.channel) observedAt

theorem publishTerminal_leads (hlookup : w.effects.lookup attempt = some e)
    (hunsettled : e.terminal = false) (halive : e.cancelled = false)
    (hcalm : calm → e.askers = []
      ∨ (∀ fence ∈ e.askers, fence = e.fence ∨ fence = e.deferred) ∧ w.Open)
    (kind : EvidenceKind) (outcome : EvidenceOutcome) (observedAt : Timestamp) :
    Leads named calm w.ledger (w.publishTerminal attempt e kind outcome observedAt) fun w' =>
      Later w w' ∧ ∃ e', w'.effects.lookup attempt = some e' ∧ Kin e e' ∧ e'.terminal = true := by
  have hkin : Kin e (e.next.close kind outcome) := ⟨rfl, rfl, rfl, rfl, fun _ => rfl⟩
  have hemit := emitRecord_ledger w e.next e.fence kind outcome e.next.sequence observedAt false
  have hlost := @not_open_of_lost w e.next e.fence kind outcome e.next.sequence observedAt false
  have hopen := later_emitRecord w e.next e.fence kind outcome e.next.sequence observedAt false
  have heffects := emitRecord_effects w e.next e.fence kind outcome e.next.sequence observedAt false
  have hended : EffectMove calm e (e.next.close kind outcome) [.published e.fence.attempt e.key false
      (w.recordOf e.next e.fence kind outcome e.next.sequence observedAt)] :=
    @EffectMove.ended calm e (w.recordOf e.next e.fence kind outcome e.next.sequence observedAt)
      hunsettled halive (fun hquiet fence hfence => by
        rcases hcalm hquiet with hnone | hheard
        · rw [hnone] at hfence
          cases hfence
        · exact hheard.1 fence hfence) rfl rfl
  unfold publishTerminal
  dsimp only
  generalize w.emitRecord e.next e.fence kind outcome e.next.sequence observedAt false = r
    at hemit hlost hopen heffects ⊢
  refine .either (.effect hlookup hended) (fun hnot => .effect hlookup
    (.ended kind outcome hunsettled halive fun hquiet => ?_)) ?_ fun _ => ⟨?_, _, ?_, hkin, rfl⟩
  · exact (hcalm hquiet).resolve_right fun hheard => hlost hnot hheard.2
  · rw [countOutcome_ledger, setEffect_ledger, hemit, Ledger.notes_nil]
    dsimp only
    split
    · rfl
    · rfl
  · refine hopen.trans ((Later.set (by rw [heffects, hlookup]) hkin).trans ?_)
    exact later_countOutcome _ _
  · rw [countOutcome_effects, lookup_setEffect]

/-- The completion of an effect that somebody asked for finds a channel that takes everything, and
nobody else who waits for the outcome. -/
def Resolves (w : Worker) (completion : Completion) : Prop :=
  completion.kind = .terminal → ∀ e, w.effects.lookup completion.attempt = some e →
    e.terminal = false → e.cancelled = false →
    e.askers = [] ∨ (∀ fence ∈ e.askers, fence = e.fence ∨ fence = e.deferred) ∧ w.Open

theorem Resolves.later {w' : Worker} {completion : Completion} (h : w.Resolves completion)
    (hlater : Later w w') : w'.Resolves completion := by
  intro hkind e' hat' hunsettled halive
  obtain ⟨e, hat, hkin⟩ := hlater.effects _ e' hat'
  have hopen : e.terminal = false := by
    refine Bool.eq_false_iff.2 fun hterminal => ?_
    rw [hkin.settled hterminal] at hunsettled
    cases hunsettled
  rw [hkin.askers, hkin.fence, hkin.deferred]
  exact (h hkind e hat hopen (hkin.cancelled ▸ halive)).imp id fun hheard =>
    ⟨hheard.1, hlater.channel hheard.2⟩

theorem complete_leads (completion : Completion) (hcalm : calm → w.Resolves completion) :
    Leads named calm w.ledger (w.complete completion) (Later w) := by
  -- an effect that was told to stop ends without a record
  have hhalt : ∀ e, w.effects.lookup completion.attempt = some e →
      Leads named calm w.ledger (.success, w.setEffect completion.attempt e.halt) (Later w) :=
    fun e hat => .head (.unseen hat .halted)
      (.still rfl fun _ => .set hat ⟨rfl, rfl, rfl, rfl, id⟩)
  unfold complete
  split
  · exact .still rfl fun _ => .refl w
  next e hat =>
  split
  · exact hhalt e hat
  · split
    · exact .still rfl fun _ => .refl w
    -- progress is one record, and the sequence advances only when it went out
    · have hemit := emitRecord_ledger w e e.fence .executionProgress .inconclusive e.next.sequence
        completion.observedAt false
      have hlater := later_emitRecord w e e.fence .executionProgress .inconclusive e.next.sequence
        completion.observedAt false
      have hmove : EffectMove calm e e.next [.published e.fence.attempt e.key false (w.recordOf e
          e.fence .executionProgress .inconclusive e.next.sequence completion.observedAt)] :=
        .progressed rfl rfl
      have heffects := emitRecord_effects w e e.fence .executionProgress .inconclusive
        e.next.sequence completion.observedAt false
      generalize w.emitRecord e e.fence .executionProgress .inconclusive e.next.sequence
        completion.observedAt false = r at hemit hlater heffects ⊢
      unfold andThen
      split
      · next hok =>
        rw [if_pos hok] at hemit
        refine .single (.effect hat hmove) ?_ fun _ => ?_
        · rw [setEffect_ledger, hemit]
          rfl
        · have hat' : r.2.effects.lookup completion.attempt = some e := by rw [heffects, hat]
          exact hlater.trans (.set hat' ⟨rfl, rfl, rfl, rfl, id⟩)
      · next hok =>
        rw [if_neg hok] at hemit
        exact .still hemit fun h => absurd h hok
  -- an outcome is published once, and settles whoever asked
  · next hkind =>
    split
    · exact hhalt e hat
    next hends =>
    rw [Bool.or_eq_true, not_or, Bool.not_eq_true, Bool.not_eq_true] at hends
    have hcalm' : calm → e.askers = []
        ∨ (∀ fence ∈ e.askers, fence = e.fence ∨ fence = e.deferred) ∧ w.Open :=
      fun hquiet => hcalm hquiet hkind e hat hends.1 hends.2
    refine (publishTerminal_leads hat hends.1 hends.2 hcalm' _ _ _).andThen fun w' h => ?_
    obtain ⟨hlater, e', hat', hkin, hsettled⟩ := h
    refine (settle_leads hat' hsettled (fun hquiet => ?_) _).weaken fun w'' h => hlater.trans h
    rw [hkin.askers]
    exact (hcalm' hquiet).imp id fun hheard => hlater.channel hheard.2

/-- The loop of `drain_completions`. -/
theorem drain_leads (completions : List Completion) {r : Status × Worker} {w : Worker}
    (hr : Leads named calm l r (Later w))
    (hcalm : calm → ∀ completion ∈ completions, w.Resolves completion) :
    Leads named calm l (completions.foldl (fun r completion =>
      andThen r fun w => w.complete completion) r) (Later w) := by
  induction completions generalizing r with
  | nil => exact hr
  | cons completion completions ih =>
    refine ih (hr.andThen fun w' h => ?_) fun hquiet other hother =>
      hcalm hquiet other (List.mem_cons_of_mem _ hother)
    refine (complete_leads completion fun hquiet => ?_).weaken fun w'' h' => h.trans h'
    exact (hcalm hquiet completion List.mem_cons_self).later h

theorem drainCompletions_leads
    (hcalm : calm → ∀ completion ∈ w.completions, w.Resolves completion) :
    Leads named calm w.ledger w.drainCompletions fun _ => True := by
  refine Leads.weaken (Q := Later { w with completions := [] }) ?_ fun _ _ => trivial
  refine drain_leads w.completions (.still rfl fun _ => .refl _) fun hquiet completion hmem => ?_
  intro hkind e hat hunsettled halive
  refine (hcalm hquiet completion hmem hkind e hat hunsettled halive).imp id fun hheard => ?_
  exact ⟨hheard.1, hheard.2.room, hheard.2.channel⟩

/-! ## Cancel, reconcile and the rest -/

/-- Nothing of the ledger but what is seen changes where an effect is told to stop. -/
theorem told_to_stop (w : Worker) (e : EffectState) :
    (if e.running then note { w with flags := w.flags.set e.stop true }
      (.cancelled e.fence.attempt) else w).ledger
      = w.ledger.notes (if e.running then [.cancelled e.fence.attempt] else []) := by
  split
  · rfl
  · exact w.ledger.notes_nil.symm

theorem handleCancel_leads (body : Bytes) :
    Leads named calm w.ledger (w.handleCancel body) fun _ => True := by
  have hanswer : ∀ (w : Worker) (body : Bytes),
      Leads named calm w.ledger (w.queueMessage body) fun _ => True := fun w body =>
    .still (queueMessage_ledger body) fun _ => trivial
  unfold handleCancel
  split
  · exact .still rfl fun _ => trivial
  next message _ =>
  dsimp only
  split
  · exact hanswer w _
  next e hat =>
  have hledger := told_to_stop w e
  generalize (if e.running then note { w with flags := w.flags.set e.stop true }
    (.cancelled e.fence.attempt) else w) = marked at hledger ⊢
  refine Leads.andThen (Q := fun _ => True) ?_ fun w' _ => hanswer w' _
  generalize hset : marked.setEffect message.fence.attempt e.cancel.next = changed
  have hemit := emitRecord_ledger changed e.cancel.next e.fence .cancellationAcknowledged
    .inconclusive e.next.sequence marked.now false
  have hmove : EffectMove calm e e.cancel.next ((if e.running then [.cancelled e.fence.attempt]
      else []) ++ [.published e.fence.attempt e.key false (changed.recordOf e.cancel.next e.fence
        .cancellationAcknowledged .inconclusive e.next.sequence marked.now)]) := .cancelled rfl rfl
  refine .either (.effect hat hmove) (fun _ => .effect hat .cancelled) ?_ fun _ => trivial
  rw [hemit, ← hset, setEffect_ledger, hledger]
  split
  · unfold Ledger.notes Ledger.setEffect
    simp only [List.append_assoc]
    rfl
  · rfl

theorem entryOf_notStarted {w : Worker} {fence : AttemptFence}
    (h : (w.entryOf fence).disposition = .notStarted) : fence.attempt ∉ w.effects := by
  unfold entryOf at h
  split at h
  · next hnone => exact AList.lookup_eq_none.1 hnone
  · split at h
    · cases h
    split at h
    · dsimp only at h
      split at h <;> cases h
    · cases h

theorem entryOf_fence (w : Worker) (fence : AttemptFence) : (w.entryOf fence).fence = fence := by
  unfold entryOf
  split
  · rfl
  · split
    · rfl
    split <;> rfl

theorem handleReconcile_leads {body : Bytes}
    (hcalm : calm → ∀ message, decodeReconcileRequest body w.options.limits = .ok message →
      ∀ attempt ack, WorkerEvent.suppressed attempt ack ∈ w.trace → ∀ fence ∈ message.fences,
        fence.attempt = ack.fence.attempt → fence.attempt ∈ w.effects) :
    Leads named calm w.ledger (w.handleReconcile body) fun _ => True := by
  unfold handleReconcile
  split
  · exact .still rfl fun _ => trivial
  next message hdecoded =>
  refine .single (.reconciled message.fences ?_ fun hquiet => ?_) (send_ledger _ _)
    fun _ => trivial
  · intro entry hentry
    obtain ⟨fence, hfence, rfl⟩ := List.mem_map.1 hentry
    rw [entryOf_fence]
    exact ⟨hfence, entryOf_notStarted⟩
  · exact hcalm hquiet message hdecoded

theorem push_ledger (i : Nat) (kind : CompletionKind) (observedAt : Timestamp) :
    (w.push i kind observedAt).ledger = w.ledger := by
  unfold push
  split
  · rfl
  dsimp only
  split
  · rfl
  split
  · split <;> rfl
  · split <;> rfl
  · split <;> rfl

end Worker

/-! ## Steps and runs -/

/-- The attempt and the key of a dispatch frame. -/
def WorkerStep.names (s : WorkerStep) (limits : RuntimeLimits) (attempt : AttemptId)
    (key : Digest256) : Prop :=
  ∃ body now channel message, s = .dispatch body now channel
    ∧ decodeDispatch body limits = .ok message
    ∧ message.request.fence.attempt = attempt ∧ message.request.idempotencyKey = key

/-- When an effect that others asked for reaches its outcome, all of them but the last one asked
under its own fence, and the channel takes what is published of it; and nobody is asked to reconcile
an attempt that asked for the effect of another one. -/
def Worker.Heard (w : Worker) : WorkerStep → Prop
  | .drain now channel => ∀ completion ∈ w.completions,
    { w with now, channel : Worker }.Resolves completion
  | .reconcile body _ _ => ∀ message, decodeReconcileRequest body w.options.limits = .ok message →
    ∀ attempt ack, WorkerEvent.suppressed attempt ack ∈ w.trace → ∀ fence ∈ message.fences,
      fence.attempt = ack.fence.attempt → fence.attempt ∈ w.effects
  | .dispatch _ _ _ | .cancel _ _ _ | .heartbeatAck _ | .push _ _ _ | .stop _ => True

namespace Worker

variable {named : AttemptId → Digest256 → Prop} {calm : Prop} {w : Worker}

theorem settled_cases {l : Ledger} {r : Status × Worker} (h : Leads named calm l r fun _ => True) :
    ∃ l', Relation.ReflTransGen (LedgerMove named calm) l l'
      ∧ ((settled r).ledger = l' ∨ (settled r).ended.isSome = true
        ∧ LedgerLoss named calm l' (settled r).ledger) := by
  obtain ⟨l', hmoves, hl'⟩ := h
  refine ⟨l', hmoves, ?_⟩
  unfold settled
  split
  · next hok =>
    rw [if_pos hok] at hl'
    exact .inl hl'.1
  · next hok =>
    rw [if_neg hok] at hl'
    exact .inr ⟨rfl, hl'⟩

/-- What a step does is a chain of moves, the last of which may be lost when the loop ends. -/
theorem act_cases (s : WorkerStep)
    (hnamed : ∀ attempt key, s.names w.options.limits attempt key → named attempt key)
    (hcalm : calm → w.Heard s) :
    ∃ l', Relation.ReflTransGen (LedgerMove named calm) w.ledger l'
      ∧ ((w.act s).ledger = l' ∨ (w.act s).ended.isSome = true
        ∧ LedgerLoss named calm l' (w.act s).ledger) := by
  cases s with
  | dispatch body now channel =>
    refine settled_cases (handleDispatch_leads (w := { w with now, channel }) fun message hmessage =>
      hnamed _ _ ⟨body, now, channel, message, rfl, hmessage, rfl, rfl⟩)
  | cancel body now channel =>
    exact settled_cases (handleCancel_leads (w := { w with now, channel }) body)
  | reconcile body now channel =>
    exact settled_cases (handleReconcile_leads (w := { w with now, channel }) hcalm)
  | heartbeatAck body =>
    refine settled_cases ?_
    unfold handleHeartbeatAck
    split
    · exact .still rfl fun _ => trivial
    · exact .still rfl fun _ => trivial
  | drain now channel =>
    exact settled_cases (drainCompletions_leads (w := { w with now, channel }) hcalm)
  | push i kind observedAt => exact ⟨_, .refl, .inl (push_ledger i kind observedAt)⟩
  | stop outcome => exact ⟨_, .refl, .inl rfl⟩

end Worker

/-- An invariant of the moves, and what is left of it when the last one is lost. -/
structure Keeps (named : AttemptId → Digest256 → Prop) (calm : Prop) (I I' : Ledger → Prop) :
    Prop where
  weak : ∀ l, I l → I' l
  move : ∀ l l', I l → LedgerMove named calm l l' → I l'
  loss : ∀ l l', I l → LedgerLoss named calm l l' → I' l'

theorem Keeps.moves {named : AttemptId → Digest256 → Prop} {calm : Prop} {I I' : Ledger → Prop}
    (h : Keeps named calm I I') {l l' : Ledger} (hl : I l)
    (hmoves : Relation.ReflTransGen (LedgerMove named calm) l l') : I l' := by
  induction hmoves with
  | refl => exact hl
  | tail _ hmove ih => exact h.move _ _ ih hmove

/-- Every step of the run meets the condition, in the state it is taken in. -/
def Worker.Along (P : Worker → WorkerStep → Prop) (w : Worker) : List WorkerStep → Prop
  | [] => True
  | s :: steps => P w s ∧ Along P (w.step s) steps

/-- What the moves keep holds after every run. -/
theorem Keeps.run {named : AttemptId → Digest256 → Prop} {calm : Prop} {I I' : Ledger → Prop}
    (h : Keeps named calm I I') {options : WorkerOptions} (hoptions : ∀ l, I l → l.options = options)
    {steps : List WorkerStep} {w : Worker} (hw : w.ended = none → I w.ledger) (hw' : I' w.ledger)
    (hnamed : ∀ s ∈ steps, ∀ attempt key, s.names options.limits attempt key → named attempt key)
    (hcalm : calm → w.Along Worker.Heard steps) :
    ((w.run steps).ended = none → I (w.run steps).ledger) ∧ I' (w.run steps).ledger := by
  induction steps generalizing w with
  | nil => exact ⟨hw, hw'⟩
  | cons s steps ih =>
    have hrest : calm → (w.step s).Along Worker.Heard steps := fun hquiet => (hcalm hquiet).2
    have hnamed' : ∀ s ∈ steps, ∀ attempt key, s.names options.limits attempt key →
        named attempt key := fun other hother => hnamed other (List.mem_cons_of_mem _ hother)
    suffices hstep : ((w.step s).ended = none → I (w.step s).ledger) ∧ I' (w.step s).ledger from
      ih hstep.1 hstep.2 hnamed' hrest
    unfold Worker.step
    split
    · exact ⟨hw, hw'⟩
    next hended =>
    have hI := hw (Option.not_isSome_iff_eq_none.1 hended)
    obtain ⟨l', hmoves, hl'⟩ := Worker.act_cases (w := w) s
      (fun attempt key hnames => hnamed s List.mem_cons_self attempt key
        (hoptions _ hI ▸ hnames)) fun hquiet => (hcalm hquiet).1
    have hIl' := h.moves hI hmoves
    rcases hl' with hsame | ⟨hstopped, hloss⟩
    · rw [hsame]
      exact ⟨fun _ => hIl', h.weak _ hIl'⟩
    · refine ⟨fun hnone => ?_, h.loss _ _ hIl' hloss⟩
      rw [hnone] at hstopped
      cases hstopped

/-- What the moves keep as long as no key is evicted. -/
theorem Keeps.kept {named : AttemptId → Digest256 → Prop} {calm : Prop} {P P' : Ledger → Prop}
    {options : WorkerOptions} (hweak : ∀ l, P l → P' l)
    (hmove : ∀ l l', P l → LedgerMove named calm l l' →
      (∀ key, WorkerEvent.evicted key ∉ l'.trace) → P l')
    (hloss : ∀ l l', P l → LedgerLoss named calm l l' → P' l') :
    Keeps named calm (Ledger.Kept options P) (Ledger.Kept options P') where
  weak l h := ⟨h.options, fun hkept => hweak l (h.kept hkept)⟩
  move l l' h hstep := by
    obtain ⟨hoptions, hgrows⟩ := Ledger.grows_of_move hstep
    exact ⟨hoptions.trans h.options, fun hkept =>
      hmove l l' (h.kept fun key hmem => hkept key (hgrows.subset hmem)) hstep hkept⟩
  loss l l' h hlost := by
    obtain ⟨hoptions, hgrows⟩ := Ledger.grows_of_loss hlost
    exact ⟨hoptions.trans h.options, fun hkept =>
      hloss l l' (h.kept fun key hmem => hkept key (hgrows.subset hmem)) hlost⟩

/-- A worker that was created and welcomed has no effects. -/
theorem Worker.create_ledger {options : WorkerOptions} {ids : IdFactory} {w : Worker}
    (h : Worker.create options ids = .ok w) (maxInFlight : UInt32) :
    (w.welcomed maxInFlight).ledger = ⟨options, ∅, ∅, []⟩
      ∧ (w.welcomed maxInFlight).completions = [] := by
  unfold Worker.create at h
  iterate 6 (split at h; · cases h)
  cases h
  unfold Worker.welcomed
  split
  · exact ⟨rfl, rfl⟩
  · exact ⟨rfl, rfl⟩

/-- What the moves keep holds after every run of a worker from its creation. -/
theorem Keeps.created {named : AttemptId → Digest256 → Prop} {calm : Prop} {P P' : Ledger → Prop}
    {options : WorkerOptions}
    (h : Keeps named calm (Ledger.Kept options P) (Ledger.Kept options P')) {ids : IdFactory}
    {w : Worker} (hcreate : Worker.create options ids = .ok w) (maxInFlight : UInt32)
    {steps : List WorkerStep} (hfirst : P ⟨options, ∅, ∅, []⟩)
    (hnamed : ∀ s ∈ steps, ∀ attempt key, s.names options.limits attempt key → named attempt key)
    (hcalm : calm → (w.welcomed maxInFlight).Along Worker.Heard steps) :
    Ledger.Kept options P' ((w.welcomed maxInFlight).run steps).ledger := by
  have hledger := (Worker.create_ledger hcreate maxInFlight).1
  have hkept : Ledger.Kept options P (w.welcomed maxInFlight).ledger := by
    rw [hledger]
    exact ⟨rfl, fun _ => hfirst⟩
  exact (h.run (fun l h => h.options) (fun _ => hkept) (h.weak _ hkept) hnamed hcalm).2

end RolloutFabric
