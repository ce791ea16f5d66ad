/-
What a worker's steps do to its ledger: the table of effects, the index of keys and what was seen
of it. Each effect is a small machine; the handlers of the reactor make its moves.
-/
import RolloutFabric.Worker.Reactor

namespace RolloutFabric

structure Ledger where
  options : WorkerOptions
  effects : Map AttemptId EffectState
  keyIndex : Map Digest256 AttemptId
  trace : List WorkerEvent

def Worker.ledger (w : Worker) : Ledger := ⟨w.options, w.effects, w.keyIndex, w.trace⟩

namespace Ledger

def setEffect (l : Ledger) (attempt : AttemptId) (effect : EffectState) : Ledger :=
  { l with effects := l.effects.insert attempt effect }

def notes (l : Ledger) (events : List WorkerEvent) : Ledger :=
  { l with trace := l.trace ++ events }

@[simp] theorem notes_nil (l : Ledger) : l.notes [] = l := by
  unfold notes
  rw [List.append_nil]

end Ledger

/-! ## One effect -/

/-- The outcome an effect has was published under a fence. -/
def Told (trace : List WorkerEvent) (attempt : AttemptId) (e : EffectState) (fence : AttemptFence) :
    Prop :=
  ∃ replay record, WorkerEvent.published attempt e.key replay record ∈ trace
    ∧ record.fence = fence ∧ record.kind = e.kind ∧ record.outcome = e.outcome

/-- What may become of an effect, and what is seen of it. Where `calm` holds, no effect reaches an
outcome while two other fences wait for it. -/
inductive EffectMove (calm : Prop) (e : EffectState) : EffectState → List WorkerEvent → Prop
  | asked (fence : AttemptFence) (unsettled : e.terminal = false) :
    EffectMove calm e (e.defer fence) []
  | halted : EffectMove calm e e.halt []
  | progressed {record : EvidenceRecord} (kind : record.kind = .executionProgress)
    (sequence : record.sequence = e.sequence + 1) :
    EffectMove calm e e.next [.published e.fence.attempt e.key false record]
  | ended {record : EvidenceRecord} (unsettled : e.terminal = false)
    (alive : e.cancelled = false)
    (heard : calm → ∀ fence ∈ e.askers, fence = e.fence ∨ fence = e.deferred)
    (fence : record.fence = e.fence) (sequence : record.sequence = e.sequence + 1) :
    EffectMove calm e (e.next.close record.kind record.outcome)
      [.published e.fence.attempt e.key false record]
  | cancelled {record : EvidenceRecord} (kind : record.kind = .cancellationAcknowledged)
    (sequence : record.sequence = e.sequence + 1) :
    EffectMove calm e e.cancel.next ((if e.running then [.cancelled e.fence.attempt] else [])
      ++ [.published e.fence.attempt e.key false record])
  | dated (observedAt : Timestamp) (settled : e.terminal = true) :
    EffectMove calm e (e.date observedAt) []
  | relieved {record : EvidenceRecord} (settled : e.terminal = true)
    (fence : record.fence = e.deferred) (kind : record.kind = e.kind)
    (outcome : record.outcome = e.outcome) :
    EffectMove calm e e.relieve [.published e.fence.attempt e.key true record]

/-- What an effect may be left as when its record could not be queued. -/
inductive EffectLoss (calm : Prop) (e : EffectState) : EffectState → List WorkerEvent → Prop
  | ended (kind : EvidenceKind) (outcome : EvidenceOutcome) (unsettled : e.terminal = false)
    (alive : e.cancelled = false) (unasked : calm → e.askers = []) :
    EffectLoss calm e (e.next.close kind outcome) []
  | cancelled : EffectLoss calm e e.cancel.next
    (if e.running then [.cancelled e.fence.attempt] else [])
  | reordered (settled : e.terminal = true) : EffectLoss calm e e.next []
  | relieved (settled : e.terminal = true) (unasked : calm → e.askers = []) :
    EffectLoss calm e e.relieve []

/-! ## The ledger -/

/-- The ledger with an effect admitted to it; an entry that is there stays. -/
def Ledger.admitted (l : Ledger) (attempt : AttemptId) (key : Digest256) (e : EffectState) :
    Ledger :=
  { l with
    effects := Worker.emplace l.effects attempt e, keyIndex := Worker.emplace l.keyIndex key attempt }

/-- The effect that is admitted under a key that is not known, and the one that stands there then. -/
structure EffectAdmits (named : AttemptId → Digest256 → Prop) (l : Ledger) (attempt : AttemptId)
    (key : Digest256) (e stored : EffectState) : Prop where
  names : named attempt key
  fresh : l.keyIndex.lookup key = none
  fence : e.fence.attempt = attempt
  key : e.key = key
  sequence : e.sequence = 1
  unsettled : e.terminal = false
  alive : e.cancelled = false
  unasked : e.askers = []
  undeferred : e.hasDeferred = false
  stored : (Worker.emplace l.effects attempt e).lookup attempt = some stored

/-- What a step does to the ledger. `named` says which attempt and key it names. -/
inductive LedgerMove (named : AttemptId → Digest256 → Prop) (calm : Prop) (l : Ledger) :
    Ledger → Prop
  | answered (ack : DispatchAckMessage) : LedgerMove named calm l (l.notes [.answered ack])
  | reconciled (fences : List AttemptFence) {response : ReconcileResponseMessage}
    (entries : ∀ entry ∈ response.entries, entry.fence ∈ fences
      ∧ (entry.disposition = .notStarted → entry.fence.attempt ∉ l.effects))
    (known : calm → ∀ attempt ack, WorkerEvent.suppressed attempt ack ∈ l.trace →
      ∀ fence ∈ fences, fence.attempt = ack.fence.attempt → fence.attempt ∈ l.effects) :
    LedgerMove named calm l (l.notes [.reconciled response])
  | replayed {attempt : AttemptId} {e : EffectState} {record : EvidenceRecord}
    (effect : l.effects.lookup attempt = some e) (settled : e.terminal = true)
    (kind : record.kind = e.kind) (outcome : record.outcome = e.outcome) :
    LedgerMove named calm l (l.notes [.published e.fence.attempt e.key true record])
  | suppressed {attempt : AttemptId} {e : EffectState} {ack : DispatchAckMessage}
    (effect : l.effects.lookup attempt = some e)
    (asked : e.terminal = false → ack.fence ∈ e.askers)
    (told : e.terminal = true → Told l.trace e.fence.attempt e ack.fence) :
    LedgerMove named calm l (l.notes [.suppressed attempt ack])
  | effect {attempt : AttemptId} {e e' : EffectState} {events : List WorkerEvent}
    (effect : l.effects.lookup attempt = some e) (move : EffectMove calm e e' events) :
    LedgerMove named calm l ((l.setEffect attempt e').notes events)
  | forgot {key : Digest256} (unknown : ∀ attempt, l.keyIndex.lookup key = some attempt →
      attempt ∉ l.effects) :
    LedgerMove named calm l { l with keyIndex := l.keyIndex.erase key }
  | evicted {l' : Ledger} {key : Digest256} (options : l'.options = l.options)
    (trace : ∃ events, l'.trace = l.trace ++ events ∧ WorkerEvent.evicted key ∈ events) :
    LedgerMove named calm l l'
  | accepted {attempt : AttemptId} {key : Digest256} {e stored : EffectState}
    {record : EvidenceRecord} {ack : DispatchAckMessage} {starts : Bool}
    (admits : EffectAdmits named l attempt key e stored) (kind : record.kind = .dispatchAccepted)
    (sequence : record.sequence = 1) :
    LedgerMove named calm l ((Ledger.admitted l attempt key e).notes
      (.published stored.fence.attempt stored.key false record :: .answered ack
        :: if starts then [.started key attempt] else []))

/-- What the ledger may be left as by a handler that failed. -/
inductive LedgerLoss (named : AttemptId → Digest256 → Prop) (calm : Prop) (l : Ledger) :
    Ledger → Prop
  | nothing : LedgerLoss named calm l l
  | effect {attempt : AttemptId} {e e' : EffectState} {events : List WorkerEvent}
    (effect : l.effects.lookup attempt = some e) (loss : EffectLoss calm e e' events) :
    LedgerLoss named calm l ((l.setEffect attempt e').notes events)
  | admitted {attempt : AttemptId} {key : Digest256} {e stored : EffectState}
    (admits : EffectAdmits named l attempt key e stored) :
    LedgerLoss named calm l (Ledger.admitted l attempt key e)
  | accepted {attempt : AttemptId} {key : Digest256} {e stored : EffectState}
    {record : EvidenceRecord} (admits : EffectAdmits named l attempt key e stored)
    (kind : record.kind = .dispatchAccepted) (sequence : record.sequence = 1) :
    LedgerLoss named calm l ((Ledger.admitted l attempt key e).notes
      [.published stored.fence.attempt stored.key false record])

/-- An effect changes and nothing is seen of it. -/
theorem LedgerMove.unseen {named : AttemptId → Digest256 → Prop} {calm : Prop} {l : Ledger}
    {attempt : AttemptId} {e e' : EffectState} (effect : l.effects.lookup attempt = some e)
    (move : EffectMove calm e e' []) : LedgerMove named calm l (l.setEffect attempt e') := by
  rw [← (l.setEffect attempt e').notes_nil]
  exact .effect effect move

namespace Ledger

variable {named : AttemptId → Digest256 → Prop} {calm : Prop} {l l' : Ledger}

theorem grows_of_move (h : LedgerMove named calm l l') :
    l'.options = l.options ∧ l.trace <+: l'.trace := by
  cases h with
  | forgot => exact ⟨rfl, List.prefix_refl _⟩
  | evicted options trace =>
    obtain ⟨events, htrace, _⟩ := trace
    exact ⟨options, events, htrace.symm⟩
  | answered | reconciled | replayed | suppressed | effect | accepted =>
    exact ⟨rfl, _, rfl⟩

theorem grows_of_loss (h : LedgerLoss named calm l l') :
    l'.options = l.options ∧ l.trace <+: l'.trace := by
  cases h with
  | nothing | admitted => exact ⟨rfl, List.prefix_refl _⟩
  | effect | accepted => exact ⟨rfl, _, rfl⟩

/-- A ledger of which `P` holds unless a key was evicted. -/
structure Kept (options : WorkerOptions) (P : Ledger → Prop) (l : Ledger) : Prop where
  options : l.options = options
  kept : (∀ key, WorkerEvent.evicted key ∉ l.trace) → P l

theorem Kept.run_options {options : WorkerOptions} {P : Ledger → Prop} {w : Worker}
    (h : Kept options P w.ledger) : w.options = options := h.options

end Ledger

/-- Where a handler leads: by moves, to what it leaves when it succeeds, with `Q` of it, or to less
than that. -/
def Leads (named : AttemptId → Digest256 → Prop) (calm : Prop) (l : Ledger)
    (r : Status × Worker) (Q : Worker → Prop) : Prop :=
  ∃ l', Relation.ReflTransGen (LedgerMove named calm) l l'
    ∧ if r.1.isOk then r.2.ledger = l' ∧ Q r.2 else LedgerLoss named calm l' r.2.ledger

section

variable {named : AttemptId → Digest256 → Prop} {calm : Prop} {l : Ledger} {w : Worker}
  {r : Status × Worker} {Q Q' : Worker → Prop}

theorem Leads.still (h : r.2.ledger = l) (hQ : r.1.isOk = true → Q r.2) :
    Leads named calm l r Q := by
  refine ⟨l, .refl, ?_⟩
  split
  · next hok => exact ⟨h, hQ hok⟩
  · rw [h]
    exact .nothing

theorem Leads.done (h : Leads named calm l r Q) (hok : r.1.isOk = true) : Q r.2 := by
  obtain ⟨_, _, hm⟩ := h
  rw [if_pos hok] at hm
  exact hm.2

theorem Leads.weaken (h : Leads named calm l r Q) (hQ : ∀ w, Q w → Q' w) :
    Leads named calm l r Q' := by
  obtain ⟨m, hmoves, hm⟩ := h
  refine ⟨m, hmoves, ?_⟩
  split
  · next hok =>
    rw [if_pos hok] at hm
    exact ⟨hm.1, hQ _ hm.2⟩
  · next hok =>
    rw [if_neg hok] at hm
    exact hm

/-- A call that does something else if it fails. -/
theorem Leads.either {l' m : Ledger} (h : LedgerMove named calm l l')
    (hm : r.1.isOk = false → LedgerLoss named calm l m)
    (hr : r.2.ledger = if r.1.isOk then l' else m) (hQ : r.1.isOk = true → Q r.2) :
    Leads named calm l r Q := by
  by_cases hok : r.1.isOk = true
  · rw [if_pos hok] at hr
    exact ⟨l', .single h, by rw [if_pos hok]; exact ⟨hr, hQ hok⟩⟩
  · rw [if_neg hok] at hr
    refine ⟨l, .refl, ?_⟩
    rw [if_neg hok, hr]
    exact hm (Bool.eq_false_iff.2 hok)

/-- A call that does what it does only if it succeeds. -/
theorem Leads.single {l' : Ledger} (h : LedgerMove named calm l l')
    (hr : r.2.ledger = if r.1.isOk then l' else l) (hQ : r.1.isOk = true → Q r.2) :
    Leads named calm l r Q :=
  .either h (fun _ => .nothing) hr hQ

theorem Leads.head {l' : Ledger} (h : LedgerMove named calm l l') (hr : Leads named calm l' r Q) :
    Leads named calm l r Q := by
  obtain ⟨m, hmoves, hm⟩ := hr
  exact ⟨m, .head h hmoves, hm⟩

theorem Leads.andThen {next : Worker → Status × Worker} (h : Leads named calm l r Q)
    (hnext : ∀ w, Q w → Leads named calm w.ledger (next w) Q') :
    Leads named calm l (Worker.andThen r next) Q' := by
  unfold Worker.andThen
  obtain ⟨m, hmoves, hm⟩ := h
  split
  · next hok =>
    rw [if_pos hok] at hm
    obtain ⟨n, hmoves', hn⟩ := hnext r.2 hm.2
    rw [hm.1] at hmoves'
    exact ⟨n, hmoves.trans hmoves', hn⟩
  · next hok =>
    rw [if_neg hok] at hm
    exact ⟨m, hmoves, by rw [if_neg hok]; exact hm⟩

end

end RolloutFabric
