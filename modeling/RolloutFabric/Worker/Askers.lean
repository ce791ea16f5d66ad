/-
Whoever asks for an effect that is known learns its outcome, where the effect has one asker beside
its own attempt when it ends; and where it has more, not.
-/
import RolloutFabric.Worker.Once

namespace RolloutFabric

/-! ## Who waits for an outcome -/

/-- A fence whose dispatch was suppressed waits for the outcome of the effect, or was told it. -/
inductive Waits (trace : List WorkerEvent) (e : EffectState) (fence : AttemptFence) : Prop
  | unsettled (unsettled : e.terminal = false) (asked : fence ∈ e.askers)
  | told (settled : e.terminal = true) (told : Told trace e.fence.attempt e fence)
  | deferred (settled : e.terminal = true) (pending : e.hasDeferred = true)
    (last : fence = e.deferred) (asked : fence ∈ e.askers)

/-- An effect that is asked for remembers whom to tell. -/
def EffectState.Remembers (e : EffectState) : Prop :=
  e.terminal = false → e.askers ≠ [] → e.hasDeferred = true

/-- After a suppressed dispatch no reconciliation says that its attempt was not started. -/
def WorkerEvent.Agrees (a b : WorkerEvent) : Prop :=
  ∀ attempt ack response, a = .suppressed attempt ack → b = .reconciled response →
    ∀ entry ∈ response.entries, entry.fence.attempt = ack.fence.attempt →
      entry.disposition ≠ .notStarted

variable {e e' : EffectState} {trace events : List WorkerEvent} {fence : AttemptFence}

theorem Told.mono {attempt : AttemptId} (h : Told trace attempt e fence) :
    Told (trace ++ events) attempt e fence := by
  obtain ⟨replay, record, hmem, hrecord⟩ := h
  exact ⟨replay, record, List.mem_append_left _ hmem, hrecord⟩

theorem Waits.mono (h : Waits trace e fence) : Waits (trace ++ events) e fence := by
  cases h with
  | unsettled unsettled asked => exact .unsettled unsettled asked
  | told settled told => exact .told settled told.mono
  | deferred settled pending last asked => exact .deferred settled pending last asked

/-- The outcome under one more fence. -/
theorem Told.new {replay : Bool} {record : EvidenceRecord} (hfence : record.fence = fence)
    (hkind : record.kind = e.kind) (houtcome : record.outcome = e.outcome) :
    Told (trace ++ [.published e.fence.attempt e.key replay record]) e.fence.attempt e fence :=
  ⟨replay, record, List.mem_append_right _ (List.mem_singleton_self _), hfence, hkind, houtcome⟩

/-- Where no effect ends that two others wait for, nobody is forgotten. -/
theorem EffectMove.waits (hmove : EffectMove True e e' events) (hremembers : e.Remembers)
    (h : Waits trace e fence) : Waits (trace ++ events) e' fence := by
  cases hmove with
  | asked other unsettled =>
    cases h with
    | unsettled _ asked => exact .unsettled unsettled (List.mem_cons_of_mem _ asked)
    | told settled _ => cases unsettled.symm.trans settled
    | deferred settled _ _ _ => cases unsettled.symm.trans settled
  | halted | progressed | cancelled | dated =>
    cases h with
    | unsettled unsettled asked => exact .unsettled unsettled asked
    | told settled told => exact .told settled told.mono
    | deferred settled pending last asked => exact .deferred settled pending last asked
  | ended unsettled alive heard hfence sequence =>
    cases h with
    | unsettled _ asked =>
      rcases heard trivial fence asked with hown | hlast
      · exact .told rfl (Told.new (e := e.next.close _ _) (hfence.trans hown.symm) rfl rfl)
      · exact .deferred rfl (hremembers unsettled (List.ne_nil_of_mem asked)) hlast asked
    | told settled _ => cases unsettled.symm.trans settled
    | deferred settled _ _ _ => cases unsettled.symm.trans settled
  | relieved settled hfence kind outcome =>
    cases h with
    | unsettled unsettled _ => cases unsettled.symm.trans settled
    | told _ told => exact .told settled told.mono
    | deferred _ _ last _ => exact .told settled (Told.new (hfence.trans last.symm) kind outcome)

theorem EffectMove.remembers (hmove : EffectMove True e e' events) (h : e.Remembers) :
    e'.Remembers := by
  cases hmove with
  | asked => exact fun _ _ => rfl
  | halted | progressed | cancelled | dated => exact h
  | ended => exact nofun
  | relieved settled => exact fun unsettled => by cases settled.symm.trans unsettled

theorem EffectLoss.waits (hloss : EffectLoss True e e' events) (h : Waits trace e fence) :
    Waits (trace ++ events) e' fence := by
  cases hloss with
  | ended kind outcome unsettled alive unasked =>
    cases h with
    | unsettled _ asked =>
      rw [unasked trivial] at asked
      cases asked
    | told settled _ => cases unsettled.symm.trans settled
    | deferred settled _ _ _ => cases unsettled.symm.trans settled
  | cancelled | reordered =>
    cases h with
    | unsettled unsettled asked => exact .unsettled unsettled asked
    | told settled told => exact .told settled told.mono
    | deferred settled pending last asked => exact .deferred settled pending last asked
  | relieved settled unasked =>
    cases h with
    | unsettled unsettled _ => cases unsettled.symm.trans settled
    | told _ told => exact .told settled told.mono
    | deferred _ _ _ asked =>
      rw [unasked trivial] at asked
      cases asked

theorem EffectLoss.remembers (hloss : EffectLoss True e e' events) (h : e.Remembers) :
    e'.Remembers := by
  cases hloss with
  | ended => exact nofun
  | cancelled | reordered => exact h
  | relieved settled => exact fun unsettled => by cases settled.symm.trans unsettled

/-- A move of an effect answers nobody. -/
theorem EffectMove.answers_none {calm : Prop} (h : EffectMove calm e e' events) :
    (∀ attempt ack, WorkerEvent.suppressed attempt ack ∉ events)
      ∧ ∀ response, WorkerEvent.reconciled response ∉ events := by
  cases h with
  | asked | halted | dated | progressed | ended | relieved => simp
  | cancelled =>
    constructor
    · intro attempt ack
      split <;> simp
    · intro response
      split <;> simp

theorem EffectLoss.answers_none {calm : Prop} (h : EffectLoss calm e e' events) :
    (∀ attempt ack, WorkerEvent.suppressed attempt ack ∉ events)
      ∧ ∀ response, WorkerEvent.reconciled response ∉ events := by
  cases h with
  | ended | reordered | relieved => simp
  | cancelled =>
    constructor
    · intro attempt ack
      split <;> simp
    · intro response
      split <;> simp

/-! ## The ledger -/

/-- Everyone whose dispatch was suppressed waits for the outcome or was told it. -/
structure Ledger.Heeds (l : Ledger) : Prop where
  waits : ∀ attempt ack, WorkerEvent.suppressed attempt ack ∈ l.trace →
    ∃ e, l.effects.lookup attempt = some e ∧ Waits l.trace e ack.fence
  remembers : ∀ attempt e, l.effects.lookup attempt = some e → e.Remembers
  agrees : l.trace.Pairwise WorkerEvent.Agrees

theorem agrees_append (h : trace.Pairwise WorkerEvent.Agrees)
    (hevents : ∀ response, WorkerEvent.reconciled response ∉ events) :
    (trace ++ events).Pairwise WorkerEvent.Agrees := by
  have hlater : ∀ a, ∀ b ∈ events, WorkerEvent.Agrees a b := by
    rintro a b hb attempt ack response _ rfl
    exact absurd hb (hevents response)
  refine List.pairwise_append.2 ⟨h, ?_, fun a _ b hb => hlater a b hb⟩
  exact List.pairwise_of_forall_mem_list fun a _ b hb => hlater a b hb

namespace Ledger

variable {named : AttemptId → Digest256 → Prop} {l l' : Ledger}

/-- Nothing is forgotten where the effects stay and what is seen is added to. -/
theorem Heeds.extend (h : l.Heeds) (htrace : l'.trace = l.trace ++ events)
    (hstays : ∀ attempt e, l.effects.lookup attempt = some e →
      ∃ e', l'.effects.lookup attempt = some e' ∧ e'.Remembers
        ∧ ∀ fence, Waits l.trace e fence → Waits l'.trace e' fence)
    (hcomes : ∀ attempt e', l'.effects.lookup attempt = some e' →
      l.effects.lookup attempt = none → e'.Remembers)
    (hsuppressed : ∀ attempt ack, WorkerEvent.suppressed attempt ack ∈ events →
      ∃ e', l'.effects.lookup attempt = some e' ∧ Waits l'.trace e' ack.fence)
    (hagrees : l'.trace.Pairwise WorkerEvent.Agrees) : l'.Heeds where
  waits attempt ack hmem := by
    rw [htrace] at hmem
    rcases List.mem_append.1 hmem with hbefore | hnew
    · obtain ⟨e, hat, hwaits⟩ := h.waits attempt ack hbefore
      obtain ⟨e', hat', _, hstill⟩ := hstays attempt e hat
      exact ⟨e', hat', hstill _ hwaits⟩
    · exact hsuppressed attempt ack hnew
  remembers attempt e' hat' := by
    rcases hat : l.effects.lookup attempt with _ | e
    · exact hcomes attempt e' hat' hat
    · obtain ⟨e'', hat'', hremembers, _⟩ := hstays attempt e hat
      cases hat'.symm.trans hat''
      exact hremembers
  agrees := hagrees

/-- What is seen has nothing to do with who asked. -/
theorem Heeds.note (h : l.Heeds)
    (hsuppressed : ∀ attempt ack, WorkerEvent.suppressed attempt ack ∉ events)
    (hreconciled : ∀ response, WorkerEvent.reconciled response ∉ events) :
    (l.notes events).Heeds :=
  h.extend rfl (fun attempt e hat => ⟨e, hat, h.remembers _ _ hat, fun _ hwaits => hwaits.mono⟩)
    (fun attempt e hat hnone => by cases hnone.symm.trans hat)
    (fun attempt ack hmem => absurd hmem (hsuppressed attempt ack))
    (agrees_append h.agrees hreconciled)

/-- An effect changes, and whoever waits for it still does or was told. -/
theorem Heeds.set {attempt : AttemptId} (h : l.Heeds) (heffect : l.effects.lookup attempt = some e)
    (hremembers : e'.Remembers)
    (hwaits : ∀ fence, Waits l.trace e fence → Waits (l.trace ++ events) e' fence)
    (hsuppressed : ∀ attempt ack, WorkerEvent.suppressed attempt ack ∉ events)
    (hreconciled : ∀ response, WorkerEvent.reconciled response ∉ events) :
    ((l.setEffect attempt e').notes events).Heeds := by
  refine h.extend rfl (fun other e₀ hat => ?_) (fun other e₀ hat hnone => ?_)
    (fun attempt ack hmem => absurd hmem (hsuppressed attempt ack))
    (agrees_append h.agrees hreconciled)
  · by_cases hsame : other = attempt
    · subst hsame
      cases heffect.symm.trans hat
      exact ⟨e', AList.lookup_insert _, hremembers, hwaits⟩
    · exact ⟨e₀, (AList.lookup_insert_ne hsame).trans hat, h.remembers _ _ hat,
        fun _ hwaits => hwaits.mono⟩
  · have hne : other ≠ attempt := fun hsame => by
      subst hsame
      cases heffect.symm.trans hnone
    cases (hnone.symm.trans (AList.lookup_insert_ne hne).symm).trans hat

/-- An effect is admitted, and whatever is there stays. -/
theorem Heeds.enroll {attempt : AttemptId} {key : Digest256} {stored : EffectState} (h : l.Heeds)
    (admits : EffectAdmits named l attempt key e stored)
    (hsuppressed : ∀ attempt ack, WorkerEvent.suppressed attempt ack ∉ events)
    (hreconciled : ∀ response, WorkerEvent.reconciled response ∉ events) :
    ((l.admitted attempt key e).notes events).Heeds := by
  refine h.extend rfl (fun other e₀ hat => ?_) (fun other e₀ hat hnone => ?_)
    (fun attempt ack hmem => absurd hmem (hsuppressed attempt ack))
    (agrees_append h.agrees hreconciled)
  · refine ⟨e₀, ?_, h.remembers _ _ hat, fun _ hwaits => hwaits.mono⟩
    show (Worker.emplace l.effects attempt e).lookup other = some e₀
    unfold Worker.emplace
    split
    · exact hat
    · next hnew =>
      have hne : other ≠ attempt := fun hsame => hnew (hsame ▸ AList.lookup_isSome.1 (by rw [hat]; rfl))
      exact (AList.lookup_insert_ne hne).trans hat
  · have hat' : (Worker.emplace l.effects attempt e).lookup other = some e₀ := hat
    unfold Worker.emplace at hat'
    split at hat'
    · cases hnone.symm.trans hat'
    · by_cases hsame : other = attempt
      · rw [hsame, AList.lookup_insert] at hat'
        cases hat'
        exact fun _ hasked => absurd admits.unasked hasked
      · rw [AList.lookup_insert_ne hsame] at hat'
        cases hnone.symm.trans hat'

theorem Heeds.move (h : l.Heeds) (hmove : LedgerMove named True l l')
    (hkept : ∀ key, WorkerEvent.evicted key ∉ l'.trace) : l'.Heeds := by
  cases hmove with
  | answered ack => exact h.note (by simp) (by simp)
  | reconciled fences entries known =>
    refine h.extend rfl (fun attempt e hat => ⟨e, hat, h.remembers _ _ hat, fun _ w => w.mono⟩)
      (fun attempt e hat hnone => by cases hnone.symm.trans hat) (by simp) ?_
    refine List.pairwise_append.2 ⟨h.agrees, List.pairwise_singleton .., ?_⟩
    rintro a ha b hb attempt ack response rfl rfl entry hentry hsame hnot
    cases List.mem_singleton.1 hb
    obtain ⟨hfence, hmissing⟩ := entries entry hentry
    exact hmissing hnot (known trivial attempt ack ha entry.fence hfence hsame)
  | replayed => exact h.note (by simp) (by simp)
  | @suppressed attempt e ack effect asked told =>
    refine h.extend rfl (fun attempt e hat => ⟨e, hat, h.remembers _ _ hat, fun _ w => w.mono⟩)
      (fun attempt e hat hnone => by cases hnone.symm.trans hat) (fun other ack' hmem => ?_)
      (agrees_append h.agrees (by simp))
    cases List.mem_singleton.1 hmem
    refine ⟨e, effect, ?_⟩
    rcases hterminal : e.terminal with _ | _
    · exact .unsettled hterminal (asked hterminal)
    · exact .told hterminal (told hterminal).mono
  | effect effect move =>
    obtain ⟨hsuppressed, hreconciled⟩ := move.answers_none
    have hremembers := h.remembers _ _ effect
    exact h.set effect (move.remembers hremembers) (fun _ => move.waits hremembers)
      hsuppressed hreconciled
  | forgot => exact ⟨h.waits, h.remembers, h.agrees⟩
  | evicted options trace =>
    obtain ⟨events, htrace, hevicted⟩ := trace
    rw [htrace] at hkept
    exact absurd (List.mem_append_right _ hevicted) (hkept _)
  | @accepted attempt key e stored record ack starts admits =>
    refine h.enroll admits (fun _ _ => ?_) (fun _ => ?_)
    · split <;> simp
    · split <;> simp

theorem Heeds.loss (h : l.Heeds) (hloss : LedgerLoss named True l l') : l'.Heeds := by
  cases hloss with
  | nothing => exact h
  | effect effect loss =>
    obtain ⟨hsuppressed, hreconciled⟩ := loss.answers_none
    exact h.set effect (loss.remembers (h.remembers _ _ effect)) (fun _ => loss.waits)
      hsuppressed hreconciled
  | @admitted attempt key e stored admits =>
    rw [← (l.admitted attempt key e).notes_nil]
    exact h.enroll admits (by simp) (by simp)
  | accepted admits => exact h.enroll admits (by simp) (by simp)

end Ledger

/-! ## Between the steps -/

/-- Nobody waits for an effect that ended, and what ended it was an outcome. -/
structure EffectState.Rests (e : EffectState) : Prop where
  relieved : e.terminal = true → e.hasDeferred = true → e.askers = []
  outcome : e.terminal = true → e.kind.isOutcome = true

namespace Worker

structure Rests (w : Worker) : Prop where
  effects : ∀ attempt e, w.effects.lookup attempt = some e → e.Rests
  completions : ∀ completion ∈ w.completions, completion.kind = .terminal →
    completion.evidenceKind.isOutcome = true

variable {w w' : Worker} {attempt : AttemptId} {askers : List AttemptFence}

/-- The effect of an attempt while its outcome is published. -/
def Sits (attempt : AttemptId) (askers : List AttemptFence) (w : Worker) : Prop :=
  ∃ e, w.effects.lookup attempt = some e ∧ e.askers = askers
    ∧ (e.terminal = true → e.kind.isOutcome = true)

/-- Only the effect of one attempt changes, and not who asked for it. -/
structure Touched (attempt : AttemptId) (askers : List AttemptFence) (w w' : Worker) : Prop where
  others : ∀ other ≠ attempt, w'.effects.lookup other = w.effects.lookup other
  completions : w'.completions = w.completions
  sits : Sits attempt askers w'

theorem Touched.trans {w'' : Worker} (h : Touched attempt askers w w')
    (h' : Touched attempt askers w' w'') : Touched attempt askers w w'' where
  others other hne := (h'.others other hne).trans (h.others other hne)
  completions := h'.completions.trans h.completions
  sits := h'.sits

theorem Touched.same (h : Sits attempt askers w) (heffects : w'.effects = w.effects)
    (hcompletions : w'.completions = w.completions) : Touched attempt askers w w' where
  others _ _ := by rw [heffects]
  completions := hcompletions
  sits := by unfold Sits; rw [heffects]; exact h

theorem Touched.set {e : EffectState} (haskers : e.askers = askers)
    (houtcome : e.terminal = true → e.kind.isOutcome = true) :
    Touched attempt askers w (w.setEffect attempt e) where
  others _ hne := AList.lookup_insert_ne hne
  completions := rfl
  sits := ⟨e, lookup_setEffect .., haskers, houtcome⟩

/-- A call that touches one effect, succeeds where the channel takes everything, and leaves `Q` when
it does. -/
structure Passes (attempt : AttemptId) (askers : List AttemptFence) (w : Worker)
    (r : Status × Worker) (Q : Worker → Prop) : Prop where
  touched : Touched attempt askers w r.2
  passes : w.Open → r.1.isOk = true ∧ r.2.Open
  done : r.1.isOk = true → Q r.2

theorem Passes.skip {Q : Worker → Prop} (h : Touched attempt askers w w')
    (hopen : w.Open → w'.Open) (hQ : Q w') : Passes attempt askers w (.success, w') Q :=
  ⟨h, fun ho => ⟨rfl, hopen ho⟩, fun _ => hQ⟩

theorem Passes.andThen {r : Status × Worker} {next : Worker → Status × Worker}
    {Q Q' : Worker → Prop} (h : Passes attempt askers w r Q)
    (hnext : ∀ w', Sits attempt askers w' → Q w' → Passes attempt askers w' (next w') Q') :
    Passes attempt askers w (Worker.andThen r next) Q' := by
  unfold Worker.andThen
  split
  · next hok =>
    have hafter := hnext r.2 h.touched.sits (h.done hok)
    exact ⟨h.touched.trans hafter.touched, fun hopen => hafter.passes (h.passes hopen).2,
      hafter.done⟩
  · next hok => exact ⟨h.touched, h.passes, fun hok' => absurd hok' hok⟩

theorem queueMessage_completions (w : Worker) (body : Bytes) :
    (w.queueMessage body).2.completions = w.completions := by
  unfold queueMessage
  dsimp only
  split
  · rfl
  split <;> rfl

theorem send_completions (w : Worker) (body : Bytes) (event : WorkerEvent) :
    (w.send body event).2.completions = w.completions := by
  unfold send
  dsimp only
  split
  · exact queueMessage_completions w body
  · exact queueMessage_completions w body

theorem emit_passes (hsits : Sits attempt askers w) (e : EffectState) (fence : AttemptFence)
    (kind : EvidenceKind) (outcome : EvidenceOutcome) (sequence : UInt64) (observedAt : Timestamp)
    (replay : Bool) :
    Passes attempt askers w (w.emitRecord e fence kind outcome sequence observedAt replay)
      fun w' => w'.effects = w.effects where
  touched := .same hsits (emitRecord_effects ..) (send_completions ..)
  passes hopen := hopen.emitRecord ..
  done _ := emitRecord_effects ..

theorem replay_passes (hsits : Sits attempt askers w) (e : EffectState) (fence : AttemptFence)
    (observedAt : Timestamp) :
    Passes attempt askers w (w.replay e fence observedAt) fun w' => w'.effects = w.effects := by
  refine (emit_passes hsits ..).andThen fun w' hsits' heffects => ?_
  split
  · have hagain := emit_passes hsits' e fence e.kind e.outcome e.sequence observedAt true
    exact ⟨hagain.touched, hagain.passes, fun hok => (hagain.done hok).trans heffects⟩
  · exact .skip (.same hsits' rfl rfl) id heffects

/-- An effect is changed first. -/
theorem Passes.set {e : EffectState} {r : Status × Worker} {Q : Worker → Prop}
    (haskers : e.askers = askers) (houtcome : e.terminal = true → e.kind.isOutcome = true)
    (h : Passes attempt askers (w.setEffect attempt e) r Q) : Passes attempt askers w r Q where
  touched := (Touched.set haskers houtcome).trans h.touched
  passes hopen := h.passes ⟨hopen.room, hopen.channel⟩
  done := h.done

/-- Nothing is deferred any more. -/
def Quiet (attempt : AttemptId) (w : Worker) : Prop :=
  ∀ e, w.effects.lookup attempt = some e → e.hasDeferred = false

theorem relieve_passes (hsits : Sits attempt askers w) (observedAt : Timestamp) :
    Passes attempt askers w (w.relieve attempt observedAt) (Quiet attempt) := by
  have hrefl : Touched attempt askers w w := .same hsits rfl rfl
  obtain ⟨e, hat, haskers, houtcome⟩ := hsits
  unfold relieve
  rw [hat, Option.getD_some]
  dsimp only
  split
  · have hset : Touched attempt askers w (w.setEffect attempt e.relieve) := .set haskers houtcome
    have hreplay := replay_passes hset.sits e.relieve e.deferred observedAt
    refine .set (e := e.relieve) haskers houtcome ⟨hreplay.touched, hreplay.passes,
      fun hok e' hat' => ?_⟩
    rw [hreplay.done hok, lookup_setEffect] at hat'
    cases hat'
    rfl
  · next hnone =>
    refine .skip hrefl id fun e' hat' => ?_
    cases hat.symm.trans hat'
    exact Bool.eq_false_iff.2 hnone

theorem reorder_passes {e : EffectState} (haskers : e.askers = askers)
    (houtcome : e.terminal = true → e.kind.isOutcome = true) (observedAt : Timestamp) :
    Passes attempt askers w (w.reorder attempt e observedAt) fun _ => True := by
  have hset : Touched attempt askers w (w.setEffect attempt e.next) := .set haskers houtcome
  have hemit := emit_passes hset.sits e.next e.fence .executionProgress .inconclusive
    e.next.sequence observedAt false
  exact .set (e := e.next) haskers houtcome ⟨hemit.touched, hemit.passes, fun _ => trivial⟩

theorem follow_passes {e : EffectState} (hat : w.effects.lookup attempt = some e)
    (haskers : e.askers = askers) (houtcome : e.terminal = true → e.kind.isOutcome = true)
    (observedAt : Timestamp) :
    Passes attempt askers w (w.follow attempt e observedAt) (Quiet attempt) := by
  have hsits : Sits attempt askers w := ⟨e, hat, haskers, houtcome⟩
  unfold follow
  refine Passes.andThen (Q := fun _ => True) ?_ fun w₁ hsits₁ _ =>
    Passes.andThen (Q := fun _ => True) ?_ fun w₂ hsits₂ _ => relieve_passes hsits₂ observedAt
  · split
    · have hemit := emit_passes hsits e e.fence e.kind e.outcome e.sequence observedAt true
      exact ⟨hemit.touched, hemit.passes, fun _ => trivial⟩
    · exact .skip (.same hsits rfl rfl) id trivial
  · split
    · exact reorder_passes haskers houtcome observedAt
    · exact .skip (.same hsits₁ rfl rfl) id trivial

theorem settle_passes (hsits : Sits attempt askers w) (observedAt : Timestamp) :
    Passes attempt askers w (w.settle attempt observedAt) (Quiet attempt) := by
  obtain ⟨e, hat, haskers, houtcome⟩ := hsits
  unfold settle
  rw [hat, Option.getD_some]
  have hfollow : Passes attempt askers (w.setEffect attempt (e.date observedAt))
      ((w.setEffect attempt (e.date observedAt)).follow attempt (e.date observedAt) observedAt)
      (Quiet attempt) :=
    follow_passes (lookup_setEffect w attempt (e.date observedAt)) haskers houtcome observedAt
  exact .set (e := e.date observedAt) haskers houtcome hfollow

theorem publishTerminal_passes {e : EffectState} (hat : w.effects.lookup attempt = some e)
    {kind : EvidenceKind} (hkind : kind.isOutcome = true) (outcome : EvidenceOutcome)
    (observedAt : Timestamp) (hunsettled : e.terminal = false) :
    Passes attempt e.askers w (w.publishTerminal attempt e kind outcome observedAt)
      fun _ => True := by
  have hsits : Sits attempt e.askers w :=
    ⟨e, hat, rfl, fun hsettled => by cases hunsettled.symm.trans hsettled⟩
  have hemit := emit_passes hsits e.next e.fence kind outcome e.next.sequence observedAt false
  unfold publishTerminal
  dsimp only
  generalize w.emitRecord e.next e.fence kind outcome e.next.sequence observedAt false = r
    at hemit ⊢
  have hclosed : Touched attempt e.askers r.2 (r.2.setEffect attempt (e.next.close kind outcome)) :=
    .set rfl fun _ => hkind
  have hopened : r.2.Open → (r.2.setEffect attempt (e.next.close kind outcome)).Open :=
    fun hafter => ⟨hafter.room, hafter.channel⟩
  generalize r.2.setEffect attempt (e.next.close kind outcome) = closed at hclosed hopened ⊢
  have hlater := later_countOutcome closed outcome
  have hcount : Touched attempt e.askers closed (closed.countOutcome outcome) := by
    refine .same hclosed.sits (countOutcome_effects ..) ?_
    unfold countOutcome
    split <;> rfl
  exact {
    touched := hemit.touched.trans (hclosed.trans hcount)
    passes := fun hopen => by
      obtain ⟨hok, hafter⟩ := hemit.passes hopen
      exact ⟨hok, hlater.channel (hopened hafter)⟩
    done := fun _ => trivial }

theorem Rests.of_effects (h : w.Rests) (heffects : w'.effects = w.effects)
    (hcompletions : w'.completions = w.completions) : w'.Rests where
  effects attempt e hat := h.effects attempt e (heffects ▸ hat)
  completions completion hmem := h.completions completion (hcompletions ▸ hmem)

theorem Rests.set (h : w.Rests) {e : EffectState} (he : e.Rests) :
    (w.setEffect attempt e).Rests where
  effects other e' hat := by
    by_cases hsame : other = attempt
    · rw [hsame, lookup_setEffect] at hat
      exact Option.some.inj hat ▸ he
    · exact h.effects other e' ((AList.lookup_insert_ne hsame).symm.trans hat)
  completions := h.completions

/-- What was published of an effect that had one asker at most, or nobody who asked. -/
theorem Rests.passes (h : w.Rests) {r : Status × Worker}
    (hr : Passes attempt askers w r (Quiet attempt)) (hasked : askers = [] ∨ w.Open) :
    r.2.Rests where
  effects other e hat := by
    by_cases hsame : other = attempt
    · subst hsame
      obtain ⟨e', hat', haskers, houtcome⟩ := hr.touched.sits
      cases hat.symm.trans hat'
      refine ⟨fun _ hdeferred => ?_, houtcome⟩
      rcases hasked with hnone | hopen
      · rw [haskers, hnone]
      · have hquiet := hr.done (hr.passes hopen).1 e hat
        rw [hquiet] at hdeferred
        cases hdeferred
    · exact h.effects other e ((hr.touched.others other hsame).symm.trans hat)
  completions completion hmem := h.completions completion (hr.touched.completions ▸ hmem)

theorem Rests.complete (h : w.Rests) {completion : Completion}
    (hkind : completion.kind = .terminal → completion.evidenceKind.isOutcome = true)
    (hresolves : w.Resolves completion) : (w.complete completion).2.Rests := by
  unfold Worker.complete
  split
  · exact h
  next e hat =>
  have he := h.effects _ _ hat
  have hhalt : (w.setEffect completion.attempt e.halt).Rests := h.set ⟨he.relieved, he.outcome⟩
  split
  · exact hhalt
  · split
    · exact h
    · have hemit : (w.emitRecord e e.fence .executionProgress .inconclusive e.next.sequence
          completion.observedAt false).2.Rests :=
        h.of_effects (emitRecord_effects ..) (send_completions ..)
      generalize w.emitRecord e e.fence .executionProgress .inconclusive e.next.sequence
        completion.observedAt false = r at hemit ⊢
      unfold Worker.andThen
      split
      · exact hemit.set ⟨he.relieved, he.outcome⟩
      · exact hemit
  · next hterminal =>
    split
    · exact hhalt
    next hends =>
    rw [Bool.or_eq_true, not_or, Bool.not_eq_true, Bool.not_eq_true] at hends
    refine Rests.passes h ((publishTerminal_passes hat (hkind hterminal) _ _
      hends.1).andThen fun w' hsits _ => settle_passes hsits _) ?_
    exact (hresolves hterminal e hat hends.1 hends.2).imp id fun hheard => hheard.2

theorem Rests.drain (completions : List Completion) {r : Status × Worker} (hr : r.2.Rests)
    (hlater : r.1.isOk = true → Later w r.2)
    (hkinds : ∀ completion ∈ completions, completion.kind = .terminal →
      completion.evidenceKind.isOutcome = true)
    (hresolves : ∀ completion ∈ completions, w.Resolves completion) :
    (completions.foldl (fun r completion =>
      Worker.andThen r fun w => w.complete completion) r).2.Rests := by
  induction completions generalizing r with
  | nil => exact hr
  | cons completion completions ih =>
    rw [List.forall_mem_cons] at hkinds hresolves
    have hnext : (Worker.andThen r fun w => w.complete completion).2.Rests
        ∧ ((Worker.andThen r fun w => w.complete completion).1.isOk = true →
          Later w (Worker.andThen r fun w => w.complete completion).2) := by
      unfold Worker.andThen
      split
      · next hok =>
        have hresolves' := hresolves.1.later (hlater hok)
        have hleads : Leads (fun _ _ => True) False r.2.ledger (r.2.complete completion)
            (Later r.2) := complete_leads completion False.elim
        exact ⟨hr.complete hkinds.1 hresolves', fun hdone =>
          (hlater hok).trans (hleads.done hdone)⟩
      · next hok => exact ⟨hr, fun hok' => absurd hok' hok⟩
    exact ih hnext.1 hnext.2 hkinds.2 hresolves.2

theorem Rests.drainCompletions (h : w.Rests)
    (hresolves : ∀ completion ∈ w.completions, w.Resolves completion) :
    w.drainCompletions.2.Rests := by
  have hlater : Later w { w with completions := [] } :=
    .of_effects rfl fun hopen => ⟨hopen.room, hopen.channel⟩
  exact .drain w.completions ⟨h.effects, nofun⟩ (fun _ => hlater) h.completions hresolves

/-! ## The other handlers -/

theorem send_effects (w : Worker) (body : Bytes) (event : WorkerEvent) :
    (w.send body event).2.effects = w.effects := by
  have h := congrArg Ledger.effects (send_ledger (w := w) body event)
  split at h <;> exact h

theorem Rests.send (h : w.Rests) (body : Bytes) (event : WorkerEvent) :
    (w.send body event).2.Rests :=
  h.of_effects (send_effects ..) (send_completions ..)

theorem Rests.emitRecord (h : w.Rests) (e : EffectState) (fence : AttemptFence)
    (kind : EvidenceKind) (outcome : EvidenceOutcome) (sequence : UInt64) (observedAt : Timestamp)
    (replay : Bool) :
    (w.emitRecord e fence kind outcome sequence observedAt replay).2.Rests :=
  h.of_effects (emitRecord_effects ..) (send_completions ..)

theorem Rests.andThen {r : Status × Worker} {next : Worker → Status × Worker} (h : r.2.Rests)
    (hnext : ∀ w : Worker, w.Rests → (next w).2.Rests) : (Worker.andThen r next).2.Rests := by
  unfold Worker.andThen
  split
  · exact hnext _ h
  · exact h

theorem Rests.suppress (h : w.Rests) {e : EffectState} (fence : AttemptFence) :
    (w.suppress attempt e fence).2.Rests := by
  unfold Worker.suppress
  dsimp only
  split
  · refine Rests.andThen ?_ fun w' h' => ?_
    · unfold replay
      refine (h.emitRecord ..).andThen fun w' h' => ?_
      split
      · exact h'.emitRecord ..
      · exact h'
    · exact Rests.send (w := { w' with servedAttempts := w'.servedAttempts + 1 })
        ⟨h'.effects, h'.completions⟩ _ _
  · next hunsettled =>
    rw [Bool.not_eq_true] at hunsettled
    have hset : (w.setEffect attempt (e.defer fence)).Rests := h.set {
      relieved := fun hsettled => by cases hunsettled.symm.trans hsettled
      outcome := fun hsettled => by cases hunsettled.symm.trans hsettled }
    generalize w.setEffect attempt (e.defer fence) = w' at hset ⊢
    exact Rests.send (w := { w' with servedAttempts := w'.servedAttempts + 1 })
      ⟨hset.effects, hset.completions⟩ _ _

theorem Rests.evictLoop (steps : Nat) {w : Worker} (h : w.Rests) :
    (Worker.evictLoop steps w).Rests := by
  induction steps generalizing w with
  | zero => exact h
  | succ steps ih =>
    unfold Worker.evictLoop
    split
    · exact h
    next candidate order _ =>
    split
    · exact ih ⟨h.effects, h.completions⟩
    · split
      · exact ih ⟨h.effects, h.completions⟩
      · refine ⟨fun other e hat => ?_, h.completions⟩
        by_cases hsame : other = candidate
        · subst hsame
          cases (AList.lookup_erase other w.effects).symm.trans hat
        · exact h.effects other e ((AList.lookup_erase_ne hsame).symm.trans hat)

theorem Rests.enroll (h : w.Rests) (message : DispatchCommandMessage)
    (scenario : WorkerTargetScenario) : (w.enroll message scenario).Rests where
  effects other e hat := by
    have hat' : (emplace w.effects message.request.fence.attempt
      (w.accepted message scenario)).lookup other = some e := hat
    unfold emplace at hat'
    split at hat'
    · exact h.effects other e hat'
    by_cases hsame : other = message.request.fence.attempt
    · rw [hsame, AList.lookup_insert] at hat'
      cases hat'
      exact ⟨nofun, nofun⟩
    · exact h.effects other e ((AList.lookup_insert_ne hsame).symm.trans hat')
  completions := h.completions

theorem Rests.accept (h : w.Rests) (message : DispatchCommandMessage) :
    (w.accept message).2.Rests := by
  have hevicted : w.evictIfNeeded.Rests := by
    unfold evictIfNeeded
    split
    · exact h
    · exact h.evictLoop _
  unfold Worker.accept
  dsimp only
  generalize w.evictIfNeeded = w' at hevicted ⊢
  refine ((hevicted.enroll ..).emitRecord ..).andThen fun w₁ h₁ =>
    (h₁.send ..).andThen fun w₂ h₂ => ?_
  unfold Worker.start
  split
  · exact ⟨h₂.effects, h₂.completions⟩
  split
  · exact h₂
  · exact ⟨h₂.effects, h₂.completions⟩

theorem Rests.handleDispatch (h : w.Rests) (body : Bytes) : (w.handleDispatch body).2.Rests := by
  unfold Worker.handleDispatch
  split
  · exact h
  next message _ =>
  dsimp only
  split
  · exact h.send _ _
  split
  · exact h.send _ _
  split
  · exact h.suppress _
  · have hforgot : ({ w with
        keyIndex := w.keyIndex.erase message.request.idempotencyKey } : Worker).Rests :=
      ⟨h.effects, h.completions⟩
    split
    · exact hforgot.send _ _
    split
    · exact hforgot.send _ _
    · exact hforgot.accept message

theorem Rests.handleCancel (h : w.Rests) (body : Bytes) : (w.handleCancel body).2.Rests := by
  have hanswer : ∀ {w : Worker} (body : Bytes), w.Rests → (w.queueMessage body).2.Rests :=
    fun body h => h.of_effects (congrArg Ledger.effects (queueMessage_ledger body))
      (queueMessage_completions _ body)
  unfold Worker.handleCancel
  split
  · exact h
  next message _ =>
  dsimp only
  split
  · exact hanswer _ h
  next e hat =>
  have he := h.effects _ _ hat
  have hmarked : (if e.running then note { w with flags := w.flags.set e.stop true }
      (.cancelled e.fence.attempt) else w).Rests := by
    split
    · exact ⟨h.effects, h.completions⟩
    · exact h
  generalize (if e.running then note { w with flags := w.flags.set e.stop true }
    (.cancelled e.fence.attempt) else w) = marked at hmarked ⊢
  have hset : (marked.setEffect message.fence.attempt e.cancel.next).Rests :=
    hmarked.set ⟨he.relieved, he.outcome⟩
  exact (hset.emitRecord ..).andThen fun w' h' => hanswer _ h'

theorem Rests.push (h : w.Rests) (i : Nat) (kind : CompletionKind) (observedAt : Timestamp) :
    (w.push i kind observedAt).Rests := by
  have hhand : ∀ (thread : EffectThread) (completion : Completion),
      (completion.kind = .terminal → completion.evidenceKind.isOutcome = true) →
      ({ w with
        threads := w.threads.set i thread
        completions := w.completions ++ [completion] } : Worker).Rests := by
    intro thread completion hkind
    refine ⟨h.effects, fun other hmem => ?_⟩
    rcases List.mem_append.1 hmem with hbefore | hnew
    · exact h.completions other hbefore
    · exact List.mem_singleton.1 hnew ▸ hkind
  unfold Worker.push
  split
  · exact h
  dsimp only
  split
  · exact h
  split
  · split
    · exact h
    · exact hhand _ _ nofun
  · split
    · exact hhand _ _ nofun
    · exact h
  · split
    · exact ⟨h.effects, h.completions⟩
    · refine hhand _ _ fun _ => ?_
      dsimp only
      split <;> rfl

theorem Rests.settled {r : Status × Worker} (h : r.2.Rests) : (settled r).Rests := by
  unfold Worker.settled
  split
  · exact h
  · exact ⟨h.effects, h.completions⟩

/-- After a step nobody waits for an effect that ended. -/
theorem Rests.step (h : w.Rests) {s : WorkerStep} (hheard : w.Heard s) : (w.step s).Rests := by
  unfold Worker.step
  split
  · exact h
  cases s with
  | dispatch body now channel =>
    exact (Rests.handleDispatch (w := { w with now, channel }) ⟨h.effects, h.completions⟩ body).settled
  | cancel body now channel =>
    exact (Rests.handleCancel (w := { w with now, channel }) ⟨h.effects, h.completions⟩ body).settled
  | reconcile body now channel =>
    refine Rests.settled ?_
    unfold handleReconcile
    split
    · exact ⟨h.effects, h.completions⟩
    · exact Rests.send (w := { w with now, channel }) ⟨h.effects, h.completions⟩ _ _
  | heartbeatAck body =>
    refine Rests.settled ?_
    unfold handleHeartbeatAck
    split
    · exact h
    · exact ⟨h.effects, h.completions⟩
  | drain now channel =>
    exact (Rests.drainCompletions (w := { w with now, channel }) ⟨h.effects, h.completions⟩
      hheard).settled
  | push i kind observedAt => exact h.push i kind observedAt
  | stop outcome => exact ⟨h.effects, h.completions⟩

theorem Rests.run {w : Worker} (h : w.Rests) {steps : List WorkerStep}
    (hheard : w.Along Heard steps) : (w.run steps).Rests := by
  induction steps generalizing w with
  | nil => exact h
  | cons s steps ih => exact ih (h.step hheard.1) hheard.2

/-! ## Runs -/

/-- Whoever was told that its dispatch is a duplicate was told the outcome, if there is one. -/
def AskersTold (w : Worker) : Prop :=
  ∀ attempt ack, WorkerEvent.suppressed attempt ack ∈ w.trace →
    ∃ e, w.effects.lookup attempt = some e ∧ (e.terminal = true →
      e.kind.isOutcome = true ∧ Told w.trace e.fence.attempt e ack.fence)

theorem askersTold_of_heeds (h : w.ledger.Heeds) (hrests : w.Rests) : w.AskersTold := by
  intro attempt ack hmem
  obtain ⟨e, hat, hwaits⟩ := h.waits attempt ack hmem
  refine ⟨e, hat, fun hsettled => ⟨(hrests.effects _ _ hat).outcome hsettled, ?_⟩⟩
  cases hwaits with
  | unsettled unsettled _ => cases unsettled.symm.trans hsettled
  | told _ told => exact told
  | deferred _ pending _ asked =>
    rw [(hrests.effects _ _ hat).relieved hsettled pending] at asked
    cases asked

/-- In a run without eviction in which no effect ends while two other fences wait for it, and the
channel takes what is published of one that somebody waits for, every asker learns the outcome; and
where no asker's attempt but the effect's own is asked for, none is said not to have been started. -/
theorem askers_learn_outcome {options : WorkerOptions} {ids : IdFactory} {w : Worker}
    (hcreate : create options ids = .ok w) (maxInFlight : UInt32) (steps : List WorkerStep)
    (hkept : ∀ key, WorkerEvent.evicted key ∉ ((w.welcomed maxInFlight).run steps).trace)
    (hheard : (w.welcomed maxInFlight).Along Heard steps) :
    ((w.welcomed maxInFlight).run steps).AskersTold
      ∧ ((w.welcomed maxInFlight).run steps).trace.Pairwise WorkerEvent.Agrees := by
  have hkeeps : Keeps (fun _ _ => True) True (Ledger.Kept options Ledger.Heeds)
      (Ledger.Kept options Ledger.Heeds) :=
    .kept (fun _ h => h) (fun _ _ h hmove hkept => h.move hmove hkept) fun _ _ h hloss => h.loss hloss
  have hfirst : Ledger.Heeds ⟨options, ∅, ∅, []⟩ := {
    waits := fun _ _ hmem => by cases hmem
    remembers := fun _ _ hat => by cases hat
    agrees := .nil }
  have hheeds := (hkeeps.created hcreate maxInFlight hfirst (fun _ _ _ _ _ => trivial)
    fun _ => hheard).kept hkept
  obtain ⟨hledger, hcompletions⟩ := create_ledger hcreate maxInFlight
  have heffects : (w.welcomed maxInFlight).effects = ∅ := congrArg Ledger.effects hledger
  have hrests : (w.welcomed maxInFlight).Rests := {
    effects := fun _ _ hat => by rw [heffects] at hat; cases hat
    completions := fun _ hmem => by rw [hcompletions] at hmem; cases hmem }
  exact ⟨askersTold_of_heeds hheeds (hrests.run hheard), hheeds.agrees⟩

/-! ## One asker and two -/

def askingFence (byte : UInt8) : AttemptFence := { attempt := ⟨.ofBytes 16 [byte]⟩ }

/-- The effect of the lone attempt is asked for under another fence. -/
def asking (byte : UInt8) : WorkerStep := .dispatch ({
  request := { fence := askingFence byte }
  target := ⟨.ofBytes 16 [2]⟩ : DispatchCommandMessage }).encode {} []

/-- One other attempt asks for the effect while it runs. -/
def askedBefore : List WorkerStep := [.dispatch loneDispatch {} [], asking 2, .push 0 .terminal {}]

def askedOnce : List WorkerStep := askedBefore ++ [.drain {} []]

/-- Two others ask, and the first of them is reconciled. -/
def askedTwice : List WorkerStep := [
  .dispatch loneDispatch {} [], asking 2, asking 3,
  .reconcile ({ fences := [askingFence 2] : ReconcileRequestMessage }).encode {} [],
  .push 0 .terminal {}, .drain {} []]

/-- An event that is not an eviction. -/
def staying : WorkerEvent → Bool
  | .evicted _ => false
  | _ => true

theorem kept_of_staying {trace : List WorkerEvent} (h : trace.all staying = true)
    (key : Digest256) : WorkerEvent.evicted key ∉ trace := fun hmem => by
  cases List.all_eq_true.1 h _ hmem

def suppresses (fence : AttemptFence) : WorkerEvent → Bool
  | .suppressed attempt ack => attempt = loneAttempt ∧ ack.fence = fence
  | _ => false

def tells (fence : AttemptFence) : WorkerEvent → Bool
  | .published _ _ _ record => record.fence = fence
  | _ => false

def denies (fence : AttemptFence) : WorkerEvent → Bool
  | .reconciled response => response.entries.any fun entry =>
    entry.fence = fence ∧ entry.disposition = .notStarted
  | _ => false

theorem askedTwice_facts :
    let w := (loneWorker.welcomed 0).run askedTwice
    w.trace.all staying = true ∧ w.trace.any (suppresses (askingFence 2)) = true
      ∧ w.trace.any (tells (askingFence 2)) = false
      ∧ (w.effects.lookup loneAttempt).any (fun e => e.terminal) = true
      ∧ w.trace[3]?.any (suppresses (askingFence 2)) = true
      ∧ w.trace[5]?.any (denies (askingFence 2)) = true := by decide +kernel

theorem suppresses_cases {fence : AttemptFence} {event : WorkerEvent}
    (h : suppresses fence event = true) : ∃ ack, event = .suppressed loneAttempt ack
      ∧ ack.fence = fence := by
  cases event with
  | suppressed attempt ack =>
    obtain ⟨rfl, hfence⟩ := of_decide_eq_true h
    exact ⟨ack, rfl, hfence⟩
  | started | published | answered | cancelled | reconciled | evicted => cases h

theorem denies_cases {fence : AttemptFence} {event : WorkerEvent} (h : denies fence event = true) :
    ∃ response, event = .reconciled response ∧ ∃ entry ∈ response.entries, entry.fence = fence
      ∧ entry.disposition = .notStarted := by
  cases event with
  | reconciled response =>
    obtain ⟨entry, hentry, hnot⟩ := List.any_eq_true.1 h
    exact ⟨response, rfl, entry, hentry, of_decide_eq_true hnot⟩
  | started | published | answered | suppressed | cancelled | evicted => cases h

/-- The first of two askers is told nothing, and that its attempt was not started. -/
theorem first_asker_left_out :
    create loneOptions default = .ok loneWorker
    ∧ (∀ key, WorkerEvent.evicted key ∉ ((loneWorker.welcomed 0).run askedTwice).trace)
    ∧ ¬ ((loneWorker.welcomed 0).run askedTwice).AskersTold
    ∧ ¬ ((loneWorker.welcomed 0).run askedTwice).trace.Pairwise WorkerEvent.Agrees := by
  obtain ⟨hkept, hasked, hnottold, hsettled, hthird, hfifth⟩ := askedTwice_facts
  generalize (loneWorker.welcomed 0).run askedTwice = w
    at hkept hasked hnottold hsettled hthird hfifth ⊢
  refine ⟨loneWorker_created, kept_of_staying hkept, fun htold => ?_, fun hagrees => ?_⟩
  · obtain ⟨event, hmem, hevent⟩ := List.any_eq_true.1 hasked
    obtain ⟨ack, rfl, hfence⟩ := suppresses_cases hevent
    obtain ⟨e, hat, hoften⟩ := htold _ _ hmem
    rw [hat] at hsettled
    obtain ⟨replay, record, hpublished, hrecord, _⟩ := (hoften hsettled).2
    have htells : w.trace.any (tells (askingFence 2)) = true :=
      List.any_eq_true.2 ⟨_, hpublished, decide_eq_true (hrecord.trans hfence)⟩
    rw [hnottold] at htells
    cases htells
  · obtain ⟨event, hthird, hevent⟩ := (Option.any_eq_true _ _).1 hthird
    obtain ⟨ack, rfl, hfence⟩ := suppresses_cases hevent
    obtain ⟨other, hfifth, hother⟩ := (Option.any_eq_true _ _).1 hfifth
    obtain ⟨response, rfl, entry, hentry, hsame, hnot⟩ := denies_cases hother
    obtain ⟨hi, hi'⟩ := List.getElem?_eq_some_iff.1 hthird
    obtain ⟨hj, hj'⟩ := List.getElem?_eq_some_iff.1 hfifth
    have hpair := List.pairwise_iff_getElem.1 hagrees 3 5 hi hj (by omega)
    rw [hi', hj'] at hpair
    exact hpair _ _ _ rfl rfl entry hentry (by rw [hsame, hfence]) hnot

theorem askedOnce_facts :
    let w := (loneWorker.welcomed 0).run askedBefore
    let w' := (loneWorker.welcomed 0).run askedOnce
    w'.trace.all staying = true ∧ w'.trace.any (suppresses (askingFence 2)) = true
      ∧ (w'.effects.lookup loneAttempt).any (fun e => e.terminal) = true
      ∧ w.effects.entries.all (fun entry => entry.2.askers.all
        fun fence => fence = entry.2.fence ∨ fence = entry.2.deferred) = true
      ∧ w.options.limits.maxFrameBytes = loneOptions.limits.maxFrameBytes := by decide +kernel

theorem along_append {P : Worker → WorkerStep → Prop} {w : Worker} {steps more : List WorkerStep} :
    w.Along P (steps ++ more) ↔ w.Along P steps ∧ (w.run steps).Along P more := by
  induction steps generalizing w with
  | nil => exact ⟨fun h => ⟨trivial, h⟩, fun h => h.2⟩
  | cons s steps ih => exact (and_congr_right fun _ => ih).trans and_assoc.symm

theorem askedOnce_heard : (loneWorker.welcomed 0).Along Heard askedOnce := by
  obtain ⟨_, _, _, hone, hroom⟩ := askedOnce_facts
  refine along_append.2 ⟨⟨trivial, trivial, trivial, trivial⟩, ?_⟩
  generalize (loneWorker.welcomed 0).run askedBefore = w at hone hroom ⊢
  refine ⟨fun completion _ _ e hat _ _ => .inr ⟨?_, ?_, nofun⟩, trivial⟩
  · have hmem := List.all_eq_true.1 hone _ (AList.mem_lookup_iff.1 hat)
    intro fence hfence
    exact of_decide_eq_true (List.all_eq_true.1 hmem fence hfence)
  · show 4096 ≤ w.options.limits.maxFrameBytes
    rw [hroom]
    decide

theorem one_asker_told : ∃ e, ((loneWorker.welcomed 0).run askedOnce).effects.lookup loneAttempt
      = some e ∧ e.terminal = true ∧ Told ((loneWorker.welcomed 0).run askedOnce).trace
        e.fence.attempt e (askingFence 2) := by
  obtain ⟨hkept, hasked, hsettled, _⟩ := askedOnce_facts
  have h := askers_learn_outcome loneWorker_created 0 askedOnce (kept_of_staying hkept)
    askedOnce_heard
  obtain ⟨event, hmem, hevent⟩ := List.any_eq_true.1 hasked
  obtain ⟨ack, rfl, hfence⟩ := suppresses_cases hevent
  obtain ⟨e, hat, hoften⟩ := h.1 _ _ hmem
  rw [hat] at hsettled
  exact ⟨e, hat, hsettled, hfence ▸ (hoften hsettled).2⟩

end Worker

end RolloutFabric
