/-
What a worker reports of an effect: one start for each key, one outcome, none after it was
cancelled while it ran, and records numbered one after the other.
-/
import RolloutFabric.Worker.Handlers

namespace RolloutFabric

/-! ## The history of an effect -/

/-- The kinds that report how an effect ended. -/
def EvidenceKind.isOutcome : EvidenceKind → Bool
  | .executionCompleted | .executionFailed => true
  | _ => false

/-- The events about an effect that its history is made of. -/
def WorkerEvent.concerns (attempt : AttemptId) : WorkerEvent → Prop
  | .published other _ _ _ => other = attempt
  | .cancelled other => other = attempt
  | _ => False

/-- The sequence of a record of the effect that does not repeat its outcome. -/
def WorkerEvent.freshSequence (attempt : AttemptId) : WorkerEvent → Option UInt64
  | .published other _ replay record =>
    if other = attempt ∧ replay = false then some record.sequence else none
  | _ => none

/-- The sequences of the records published of an effect, but for those that repeat its outcome. -/
def freshSequences (attempt : AttemptId) (trace : List WorkerEvent) : List UInt64 :=
  trace.filterMap (WorkerEvent.freshSequence attempt)

theorem freshSequences_append (attempt : AttemptId) (trace events : List WorkerEvent) :
    freshSequences attempt (trace ++ events)
      = freshSequences attempt trace ++ freshSequences attempt events := List.filterMap_append ..

theorem freshSequences_elsewhere {attempt : AttemptId} {events : List WorkerEvent}
    (h : ∀ event ∈ events, ¬ event.concerns attempt) : freshSequences attempt events = [] := by
  refine List.filterMap_eq_nil_iff.2 fun event hevent => ?_
  have hnot := h event hevent
  unfold WorkerEvent.freshSequence
  split
  · exact if_neg fun hsame => hnot hsame.1
  · rfl

/-- The first `n` numbers, as a 64-bit counter counts them. -/
def counted (n : Nat) : List UInt64 := (List.range n).map fun i => UInt64.ofNat (i + 1)

theorem counted_succ (n : Nat) : counted (n + 1) = counted n ++ [UInt64.ofNat (n + 1)] := by
  unfold counted
  rw [List.range_succ, List.map_append]
  rfl

@[simp] theorem length_counted (n : Nat) : (counted n).length = n := by simp [counted]

/-- No record is numbered as an earlier one was before the counter is at its end. -/
theorem counted_increasing {n : Nat} (h : n < 2 ^ 64) : (counted n).Pairwise (· < ·) := by
  unfold counted
  rw [List.pairwise_map]
  refine List.pairwise_lt_range.imp_of_mem fun {i j} hi hj hlt => ?_
  rw [List.mem_range] at hi hj
  rw [UInt64.lt_iff_toNat_lt, UInt64.toNat_ofNat', UInt64.toNat_ofNat',
    Nat.mod_eq_of_lt (by omega), Nat.mod_eq_of_lt (by omega)]
  omega

/-- The number that follows the last one is not above the first. -/
theorem counted_wraps {n : Nat} (h : 2 ^ 64 ≤ n) : ¬ (counted n).Pairwise (· < ·) := by
  intro hincreasing
  have hlength : ∀ i, i < 2 ^ 64 → i < (counted n).length := fun i hi => by
    rw [length_counted]
    omega
  have hlt := List.pairwise_iff_getElem.1 hincreasing 0 (2 ^ 64 - 1) (hlength _ (by omega))
    (hlength _ (by omega)) (by omega)
  simp only [counted, List.getElem_map, List.getElem_range] at hlt
  rw [UInt64.lt_iff_toNat_lt, UInt64.toNat_ofNat', UInt64.toNat_ofNat'] at hlt
  omega

/-- What was seen of an effect is what its state says. -/
structure Accounts (e : EffectState) (attempt : AttemptId) (trace : List WorkerEvent) : Prop where
  running : e.running = true → e.terminal = false
  cancelled : e.cancelled = true → e.terminal = false
  key : ∀ key replay record, WorkerEvent.published attempt key replay record ∈ trace → key = e.key
  outcome : ∀ key replay record, WorkerEvent.published attempt key replay record ∈ trace →
    record.kind.isOutcome = true →
    e.terminal = true ∧ record.kind = e.kind ∧ record.outcome = e.outcome
  stopped : WorkerEvent.cancelled attempt ∈ trace → e.cancelled = true
  sequences : freshSequences attempt trace = counted (freshSequences attempt trace).length

/-- The next record will carry the next number. -/
def InStep (e : EffectState) (attempt : AttemptId) (trace : List WorkerEvent) : Prop :=
  e.sequence = UInt64.ofNat (freshSequences attempt trace).length

variable {calm : Prop} {e e' : EffectState} {attempt : AttemptId} {trace events : List WorkerEvent}

/-- What is seen of other effects is not about this one. -/
theorem Accounts.frame (h : Accounts e attempt trace)
    (helsewhere : ∀ event ∈ events, ¬ event.concerns attempt) :
    Accounts e attempt (trace ++ events) := by
  have hfresh : freshSequences attempt (trace ++ events) = freshSequences attempt trace := by
    rw [freshSequences_append, freshSequences_elsewhere helsewhere, List.append_nil]
  have hpublished : ∀ {key replay record},
      WorkerEvent.published attempt key replay record ∈ trace ++ events →
      WorkerEvent.published attempt key replay record ∈ trace := fun hmem =>
    (List.mem_append.1 hmem).resolve_right fun hevent => helsewhere _ hevent rfl
  exact {
    running := h.running
    cancelled := h.cancelled
    key := fun key replay record hmem => h.key key replay record (hpublished hmem)
    outcome := fun key replay record hmem => h.outcome key replay record (hpublished hmem)
    stopped := fun hmem => h.stopped
      ((List.mem_append.1 hmem).resolve_right fun hevent => helsewhere _ hevent rfl)
    sequences := by rw [hfresh]; exact h.sequences }

theorem InStep.frame (h : InStep e attempt trace)
    (helsewhere : ∀ event ∈ events, ¬ event.concerns attempt) :
    InStep e attempt (trace ++ events) := by
  unfold InStep
  rw [freshSequences_append, freshSequences_elsewhere helsewhere, List.append_nil]
  exact h

/-- A record of the effect that carries the next number. -/
theorem sequences_next {record : EvidenceRecord} (key : Digest256)
    (hsequences : freshSequences attempt trace = counted (freshSequences attempt trace).length)
    (hstep : InStep e attempt trace) (hsequence : record.sequence = e.sequence + 1) :
    freshSequences attempt (trace ++ [.published attempt key false record])
      = counted ((freshSequences attempt trace).length + 1)
    ∧ e.sequence + 1 = UInt64.ofNat ((freshSequences attempt trace).length + 1) := by
  have hnext : e.sequence + 1 = UInt64.ofNat ((freshSequences attempt trace).length + 1) := by
    rw [hstep, UInt64.ofNat_add]
    rfl
  refine ⟨?_, hnext⟩
  rw [freshSequences_append, counted_succ, ← hsequences, ← hnext, ← hsequence]
  congr 1
  simp [freshSequences, WorkerEvent.freshSequence]

/-- A change of the effect that does not touch its outcome. -/
theorem Accounts.change (h : Accounts e attempt trace) (hkey : e'.key = e.key)
    (hrunning : e'.running = true → e.running = true) (hterminal : e'.terminal = e.terminal)
    (hcancelled : e'.cancelled = e.cancelled) (hkind : e'.kind = e.kind)
    (houtcome : e'.outcome = e.outcome) : Accounts e' attempt trace where
  running hr := by rw [hterminal]; exact h.running (hrunning hr)
  cancelled hc := by rw [hterminal]; exact h.cancelled (hcancelled ▸ hc)
  key key replay record hmem := by rw [hkey]; exact h.key key replay record hmem
  outcome key replay record hmem hends := by
    rw [hterminal, hkind, houtcome]
    exact h.outcome key replay record hmem hends
  stopped hmem := by rw [hcancelled]; exact h.stopped hmem
  sequences := h.sequences

/-- A record that is told of the effect as it is. -/
theorem Accounts.publish (h : Accounts e attempt trace) {replay : Bool} {record : EvidenceRecord}
    (hends : record.kind.isOutcome = true →
      e.terminal = true ∧ record.kind = e.kind ∧ record.outcome = e.outcome)
    (hsequences : freshSequences attempt (trace ++ [.published attempt e.key replay record])
      = counted (freshSequences attempt (trace ++ [.published attempt e.key replay record])).length) :
    Accounts e attempt (trace ++ [.published attempt e.key replay record]) where
  running := h.running
  cancelled := h.cancelled
  key key replay' record' hmem := by
    rcases List.mem_append.1 hmem with hold | hnew
    · exact h.key key replay' record' hold
    · cases List.mem_singleton.1 hnew
      rfl
  outcome key replay' record' hmem := by
    rcases List.mem_append.1 hmem with hold | hnew
    · exact h.outcome key replay' record' hold
    · cases List.mem_singleton.1 hnew
      exact hends
  stopped hmem := by
    rcases List.mem_append.1 hmem with hold | hnew
    · exact h.stopped hold
    · cases List.mem_singleton.1 hnew
  sequences := hsequences

/-- A record that repeats the outcome. -/
theorem Accounts.repeat (h : Accounts e attempt trace) {record : EvidenceRecord}
    (hsettled : e.terminal = true) (hkind : record.kind = e.kind)
    (houtcome : record.outcome = e.outcome) :
    Accounts e attempt (trace ++ [.published attempt e.key true record])
      ∧ freshSequences attempt (trace ++ [.published attempt e.key true record])
        = freshSequences attempt trace := by
  have hfresh : freshSequences attempt (trace ++ [.published attempt e.key true record])
      = freshSequences attempt trace := by
    rw [freshSequences_append]
    simp [freshSequences, WorkerEvent.freshSequence]
  refine ⟨h.publish (fun _ => ⟨hsettled, hkind, houtcome⟩) ?_, hfresh⟩
  rw [hfresh]
  exact h.sequences

/-- A record of something else than the outcome, with the next number. -/
theorem Accounts.count (h : Accounts e attempt trace) (hstep : InStep e attempt trace)
    {record : EvidenceRecord} (hkind : record.kind.isOutcome = false)
    (hsequence : record.sequence = e.sequence + 1) :
    Accounts e.next attempt (trace ++ [.published attempt e.key false record])
      ∧ InStep e.next attempt (trace ++ [.published attempt e.key false record]) := by
  obtain ⟨hfresh, hnext⟩ := sequences_next e.key h.sequences hstep hsequence
  have hpublished : Accounts e attempt (trace ++ [.published attempt e.key false record]) := by
    refine h.publish (fun hends => ?_) ?_
    · rw [hkind] at hends
      cases hends
    · rw [hfresh, length_counted]
  refine ⟨hpublished.change rfl id rfl rfl rfl rfl, ?_⟩
  unfold InStep
  rw [hfresh, length_counted]
  exact hnext

/-- Nothing but the mark that it was cancelled is seen of an effect that runs. -/
theorem Accounts.mark (h : Accounts e attempt trace) :
    Accounts e.cancel attempt (trace ++ if e.running then [.cancelled attempt] else [])
      ∧ freshSequences attempt (trace ++ if e.running then [.cancelled attempt] else [])
        = freshSequences attempt trace := by
  have hpublished : ∀ {key replay record}, WorkerEvent.published attempt key replay record
      ∈ (trace ++ if e.running then [.cancelled attempt] else []) →
      WorkerEvent.published attempt key replay record ∈ trace := by
    intro key replay record hmem
    rcases List.mem_append.1 hmem with hold | hnew
    · exact hold
    · split at hnew
      · cases List.mem_singleton.1 hnew
      · cases hnew
  have hfresh : freshSequences attempt (trace ++ if e.running then [.cancelled attempt] else [])
      = freshSequences attempt trace := by
    rw [freshSequences_append]
    split <;> simp [freshSequences, WorkerEvent.freshSequence]
  refine ⟨{
    running := h.running
    cancelled := fun hcancelled => ?_
    key := fun key replay record hmem => h.key key replay record (hpublished hmem)
    outcome := fun key replay record hmem => h.outcome key replay record (hpublished hmem)
    stopped := fun hmem => ?_
    sequences := by rw [hfresh]; exact h.sequences }, hfresh⟩
  · rcases Bool.or_eq_true_iff.1 hcancelled with hbefore | hrunning
    · exact h.cancelled hbefore
    · exact h.running hrunning
  · show (e.cancelled || e.running) = true
    rcases List.mem_append.1 hmem with hold | hnew
    · rw [h.stopped hold, Bool.true_or]
    · split at hnew
      · next hrunning => rw [hrunning, Bool.or_true]
      · cases hnew

/-- The record of the outcome, before which none was published. -/
theorem Accounts.end (h : Accounts e attempt trace) (hstep : InStep e attempt trace)
    (hunsettled : e.terminal = false) (halive : e.cancelled = false) {record : EvidenceRecord}
    (hsequence : record.sequence = e.sequence + 1) :
    Accounts (e.next.close record.kind record.outcome) attempt
        (trace ++ [.published attempt e.key false record])
      ∧ InStep (e.next.close record.kind record.outcome) attempt
        (trace ++ [.published attempt e.key false record]) := by
  obtain ⟨hfresh, hnext⟩ := sequences_next e.key h.sequences hstep hsequence
  refine ⟨{
    running := nofun
    cancelled := fun hcancelled => ?_
    key := fun key replay other hmem => ?_
    outcome := fun key replay other hmem hends => ?_
    stopped := fun hmem => ?_
    sequences := ?_ }, ?_⟩
  · have hdead : e.cancelled = true := hcancelled
    rw [halive] at hdead
    cases hdead
  · rcases List.mem_append.1 hmem with hold | hnew
    · exact h.key key replay other hold
    · cases List.mem_singleton.1 hnew
      rfl
  · rcases List.mem_append.1 hmem with hold | hnew
    · have hsettled := (h.outcome key replay other hold hends).1
      rw [hunsettled] at hsettled
      cases hsettled
    · cases List.mem_singleton.1 hnew
      exact ⟨rfl, rfl, rfl⟩
  · rcases List.mem_append.1 hmem with hold | hnew
    · exact h.stopped hold
    · cases List.mem_singleton.1 hnew
  · rw [hfresh, length_counted]
  · show e.sequence + 1 = _
    rw [hfresh, length_counted]
    exact hnext

/-- The moves of an effect report what they do. -/
theorem EffectMove.reported (hmove : EffectMove calm e e' events)
    (hattempt : e.fence.attempt = attempt) (h : Accounts e attempt trace)
    (hstep : InStep e attempt trace) :
    Accounts e' attempt (trace ++ events) ∧ InStep e' attempt (trace ++ events) := by
  subst hattempt
  cases hmove with
  | asked fence unsettled =>
    rw [List.append_nil]
    exact ⟨h.change rfl id rfl rfl rfl rfl, hstep⟩
  | halted =>
    rw [List.append_nil]
    exact ⟨h.change rfl nofun rfl rfl rfl rfl, hstep⟩
  | progressed kind sequence =>
    exact h.count hstep (by rw [kind]; rfl) sequence
  | dated observedAt settled =>
    rw [List.append_nil]
    exact ⟨h.change rfl id rfl rfl rfl rfl, hstep⟩
  | relieved settled fence kind outcome =>
    obtain ⟨hrepeated, hfresh⟩ := h.repeat settled kind outcome
    refine ⟨hrepeated.change rfl id rfl rfl rfl rfl, ?_⟩
    unfold InStep
    rw [hfresh]
    exact hstep
  | cancelled kind sequence =>
    obtain ⟨hmarked, hfresh⟩ := h.mark
    rw [← List.append_assoc]
    refine hmarked.count ?_ (by rw [kind]; rfl) sequence
    unfold InStep
    rw [hfresh]
    exact hstep
  | ended unsettled alive heard fence sequence =>
    exact h.end hstep unsettled alive sequence

/-- What an effect is left as reports what it was. -/
theorem EffectLoss.reported (hloss : EffectLoss calm e e' events)
    (hattempt : e.fence.attempt = attempt) (h : Accounts e attempt trace) :
    Accounts e' attempt (trace ++ events) := by
  subst hattempt
  cases hloss with
  | ended kind outcome unsettled alive unasked =>
    rw [List.append_nil]
    exact {
      running := nofun
      cancelled := fun hcancelled => by
        have hdead : e.cancelled = true := hcancelled
        rw [alive] at hdead
        cases hdead
      key := h.key
      outcome := fun key replay record hmem hends => by
        have hsettled := (h.outcome key replay record hmem hends).1
        rw [unsettled] at hsettled
        cases hsettled
      stopped := h.stopped
      sequences := h.sequences }
  | cancelled => exact h.mark.1.change rfl id rfl rfl rfl rfl
  | reordered settled =>
    rw [List.append_nil]
    exact h.change rfl id rfl rfl rfl rfl
  | relieved settled unasked =>
    rw [List.append_nil]
    exact h.change rfl id rfl rfl rfl rfl

end RolloutFabric
