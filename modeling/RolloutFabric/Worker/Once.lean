/-
The worker reports each effect once and consistently, whatever frames it receives and whenever its
threads finish.
-/
import RolloutFabric.Worker.Reports

namespace RolloutFabric

/-- No fault is asked for. -/
def WorkerScenario.Faultless (s : WorkerScenario) : Prop :=
  ∀ target, (s.forTarget target).fail = false ∧ (s.forTarget target).neverComplete = false
    ∧ (s.forTarget target).duplicateReport = false ∧ (s.forTarget target).reorderReport = false
    ∧ (s.forTarget target).crashOnTarget = false

/-! ## The invariant of the ledger -/

/-- The event that the effect of a key was started. -/
def WorkerEvent.starts (key : Digest256) : WorkerEvent → Bool
  | .started other _ => other = key
  | _ => false

/-- The table, the index and what was seen agree, under distinct names. Where `strict` holds, the
next records will carry the next numbers. -/
structure Ledger.Tidy (named : AttemptId → Digest256 → Prop) (strict : Prop) (l : Ledger) :
    Prop where
  fence : ∀ attempt e, l.effects.lookup attempt = some e → e.fence.attempt = attempt
  names : ∀ attempt e, l.effects.lookup attempt = some e → named attempt e.key
  indexed : ∀ attempt e, l.effects.lookup attempt = some e → l.keyIndex.lookup e.key = some attempt
  present : ∀ key attempt, l.keyIndex.lookup key = some attempt →
    ∃ e, l.effects.lookup attempt = some e ∧ e.key = key
  once : ∀ key, l.trace.countP (WorkerEvent.starts key) ≤ 1
  unstarted : ∀ key, l.keyIndex.lookup key = none →
    l.trace.countP (WorkerEvent.starts key) = 0
  reported : ∀ attempt e, l.effects.lookup attempt = some e → Accounts e attempt l.trace
  inStep : strict → ∀ attempt e, l.effects.lookup attempt = some e → InStep e attempt l.trace
  absent : ∀ attempt, l.effects.lookup attempt = none →
    ∀ event ∈ l.trace, ¬ event.concerns attempt

namespace Ledger.Tidy

variable {named : AttemptId → Digest256 → Prop} {strict strict' calm : Prop} {l l' : Ledger}
  {attempt : AttemptId} {e e' : EffectState} {events : List WorkerEvent}

theorem weaken (h : l.Tidy named strict) (hstrict : strict' → strict) : l.Tidy named strict' :=
  { h with inStep := fun hquiet => h.inStep (hstrict hquiet) }

/-- No effect comes or goes, and none is started. -/
theorem change (h : l.Tidy named strict)
    (hindex : ∀ key, l'.keyIndex.lookup key = l.keyIndex.lookup key)
    (hcount : ∀ key, l'.trace.countP (WorkerEvent.starts key)
      = l.trace.countP (WorkerEvent.starts key))
    (heffects : ∀ attempt e', l'.effects.lookup attempt = some e' →
      ∃ e, l.effects.lookup attempt = some e ∧ e'.fence = e.fence ∧ e'.key = e.key
        ∧ Accounts e' attempt l'.trace ∧ (strict' → InStep e' attempt l'.trace))
    (habsent : ∀ attempt, l'.effects.lookup attempt = none → l.effects.lookup attempt = none
      ∧ ∀ event ∈ l'.trace, ¬ event.concerns attempt) :
    l'.Tidy named strict' where
  fence attempt e' hat := by
    obtain ⟨e, hbefore, hfence, _⟩ := heffects attempt e' hat
    rw [hfence]
    exact h.fence _ _ hbefore
  names attempt e' hat := by
    obtain ⟨e, hbefore, _, hkey, _⟩ := heffects attempt e' hat
    rw [hkey]
    exact h.names _ _ hbefore
  indexed attempt e' hat := by
    obtain ⟨e, hbefore, _, hkey, _⟩ := heffects attempt e' hat
    rw [hkey, hindex]
    exact h.indexed _ _ hbefore
  present key attempt hat := by
    rw [hindex] at hat
    obtain ⟨e, hbefore, hkey⟩ := h.present key attempt hat
    rcases hafter : l'.effects.lookup attempt with _ | e'
    · rw [(habsent attempt hafter).1] at hbefore
      cases hbefore
    · obtain ⟨e₀, hbefore₀, _, hkey₀, _⟩ := heffects attempt e' hafter
      rw [hbefore] at hbefore₀
      refine ⟨e', rfl, ?_⟩
      rw [hkey₀, ← Option.some.inj hbefore₀, hkey]
  once key := (hcount key).le.trans (h.once key)
  unstarted key hnone := (hcount key).trans (h.unstarted key (hindex key ▸ hnone))
  reported attempt e' hat := by
    obtain ⟨e, _, _, _, hreported, _⟩ := heffects attempt e' hat
    exact hreported
  inStep hstrict attempt e' hat := by
    obtain ⟨e, _, _, _, _, hinStep⟩ := heffects attempt e' hat
    exact hinStep hstrict
  absent attempt hnone := (habsent attempt hnone).2

theorem countP_append (hstarts : ∀ key, events.countP (WorkerEvent.starts key) = 0)
    (trace : List WorkerEvent) (key : Digest256) :
    (trace ++ events).countP (WorkerEvent.starts key)
      = trace.countP (WorkerEvent.starts key) := by
  rw [List.countP_append, hstarts, Nat.add_zero]

/-- What is seen is of no effect. -/
theorem note (h : l.Tidy named strict)
    (hstarts : ∀ key, events.countP (WorkerEvent.starts key) = 0)
    (hnobody : ∀ attempt, ∀ event ∈ events, ¬ event.concerns attempt) :
    (l.notes events).Tidy named strict := by
  refine h.change (fun _ => rfl) (countP_append hstarts _) (fun attempt e hat => ?_)
    fun attempt hnone => ⟨hnone, fun event hevent => ?_⟩
  · exact ⟨e, hat, rfl, rfl, (h.reported _ _ hat).frame (hnobody attempt),
      fun hstrict => (h.inStep hstrict _ _ hat).frame (hnobody attempt)⟩
  · rcases List.mem_append.1 hevent with hbefore | hnew
    · exact h.absent attempt hnone event hbefore
    · exact hnobody attempt event hnew

/-- What is seen is of one effect. -/
theorem effect {effects : Map AttemptId EffectState} (h : l.Tidy named strict)
    (heffect : l.effects.lookup attempt = some e)
    (hafter : effects.lookup attempt = some e')
    (hothers : ∀ other ≠ attempt, effects.lookup other = l.effects.lookup other)
    (hfence : e'.fence = e.fence) (hkey : e'.key = e.key)
    (hstarts : ∀ key, events.countP (WorkerEvent.starts key) = 0)
    (helsewhere : ∀ other ≠ attempt, ∀ event ∈ events, ¬ event.concerns other)
    (hreported : Accounts e' attempt (l.trace ++ events))
    (hinStep : strict' → strict ∧ InStep e' attempt (l.trace ++ events)) :
    Ledger.Tidy named strict' { l with effects, trace := l.trace ++ events } := by
  refine h.change (fun _ => rfl) (countP_append hstarts _) (fun other e₀ hat => ?_)
    fun other hnone => ?_
  · by_cases hsame : other = attempt
    · subst hsame
      rw [show effects.lookup other = some e₀ from hat] at hafter
      cases hafter
      exact ⟨e, heffect, hfence, hkey, hreported, fun hstrict => (hinStep hstrict).2⟩
    · have hbefore : l.effects.lookup other = some e₀ := (hothers other hsame).symm.trans hat
      exact ⟨e₀, hbefore, rfl, rfl, (h.reported _ _ hbefore).frame (helsewhere other hsame),
        fun hstrict => (h.inStep (hinStep hstrict).1 _ _ hbefore).frame (helsewhere other hsame)⟩
  · have hne : other ≠ attempt := fun hsame => by
      subst hsame
      cases hafter.symm.trans hnone
    have hbefore : l.effects.lookup other = none := (hothers other hne).symm.trans hnone
    refine ⟨hbefore, fun event hevent => ?_⟩
    rcases List.mem_append.1 hevent with hold | hnew
    · exact h.absent other hbefore event hold
    · exact helsewhere other hne event hnew

/-- The attempt of a key that is not known has no effect, for it would have another key. -/
theorem unheld {key : Digest256} {stored : EffectState} (h : l.Tidy named strict)
    (hdistinct : ∀ attempt key key', named attempt key → named attempt key' → key = key')
    (admits : EffectAdmits named l attempt key e stored) : l.effects.lookup attempt = none := by
  rcases hat : l.effects.lookup attempt with _ | e₀
  · rfl
  · have hkey := hdistinct _ _ _ (h.names _ _ hat) admits.names
    have hindexed := h.indexed _ _ hat
    rw [hkey, admits.fresh] at hindexed
    cases hindexed

theorem stored_eq {key : Digest256} {stored : EffectState} (h : l.Tidy named strict)
    (hdistinct : ∀ attempt key key', named attempt key → named attempt key' → key = key')
    (admits : EffectAdmits named l attempt key e stored) : stored = e := by
  have hstored := admits.stored
  unfold Worker.emplace at hstored
  rw [if_neg (AList.lookup_eq_none.1 (h.unheld hdistinct admits)), AList.lookup_insert] at hstored
  exact (Option.some.inj hstored).symm

/-- An effect is admitted under a key that is not known, and its first record may be seen. -/
theorem enroll {key : Digest256} {stored : EffectState} (h : l.Tidy named strict)
    (hdistinct : ∀ attempt key key', named attempt key → named attempt key' → key = key')
    (admits : EffectAdmits named l attempt key e stored)
    (hcount : ∀ other ≠ key, events.countP (WorkerEvent.starts other) = 0)
    (honce : events.countP (WorkerEvent.starts key) ≤ 1)
    (helsewhere : ∀ other ≠ attempt, ∀ event ∈ events, ¬ event.concerns other)
    (hreported : Accounts e attempt l.trace → Accounts e attempt (l.trace ++ events))
    (hinStep : strict' → strict ∧ InStep e attempt (l.trace ++ events)) :
    ((l.admitted attempt key e).notes events).Tidy named strict' := by
  have hnew := h.unheld hdistinct admits
  have heffects : (l.admitted attempt key e).effects = l.effects.insert attempt e :=
    if_neg (AList.lookup_eq_none.1 hnew)
  have hindex : (l.admitted attempt key e).keyIndex = l.keyIndex.insert key attempt :=
    if_neg (AList.lookup_eq_none.1 admits.fresh)
  have hunseen := h.absent _ hnew
  -- nothing was seen of the attempt, so its accounts are those of an empty trace
  have hfirst : Accounts e attempt l.trace := by
    have hfresh := freshSequences_elsewhere hunseen
    exact {
      running := fun _ => admits.unsettled
      cancelled := fun _ => admits.unsettled
      key := fun _ _ _ hmem => absurd rfl (hunseen _ hmem)
      outcome := fun _ _ _ hmem => absurd rfl (hunseen _ hmem)
      stopped := fun hmem => absurd rfl (hunseen _ hmem)
      sequences := by rw [hfresh]; rfl }
  -- every effect is the new one or an older one of another attempt
  have hcases : ∀ other e₀, (l.admitted attempt key e).effects.lookup other = some e₀ →
      other = attempt ∧ e₀ = e ∨ other ≠ attempt ∧ l.effects.lookup other = some e₀ := by
    intro other e₀ hother
    rw [heffects] at hother
    by_cases hsame : other = attempt
    · rw [hsame, AList.lookup_insert] at hother
      exact .inl ⟨hsame, (Option.some.inj hother).symm⟩
    · rw [AList.lookup_insert_ne hsame] at hother
      exact .inr ⟨hsame, hother⟩
  -- the index knows no other effect under the key
  have hotherKey : ∀ {other e₀}, l.effects.lookup other = some e₀ → e₀.key ≠ key := by
    intro other e₀ hother hkey
    have hindexed := h.indexed _ _ hother
    rw [hkey, admits.fresh] at hindexed
    cases hindexed
  refine {
    fence := fun other e₀ hother => ?_
    names := fun other e₀ hother => ?_
    indexed := fun other e₀ hother => ?_
    present := fun key' other hother => ?_
    once := fun other => ?_
    unstarted := fun other hother => ?_
    reported := fun other e₀ hother => ?_
    inStep := fun hstrict other e₀ hother => ?_
    absent := fun other hother event hevent => ?_ }
  · rcases hcases other e₀ hother with ⟨rfl, rfl⟩ | ⟨_, hold⟩
    · exact admits.fence
    · exact h.fence _ _ hold
  · rcases hcases other e₀ hother with ⟨rfl, rfl⟩ | ⟨_, hold⟩
    · rw [admits.key]
      exact admits.names
    · exact h.names _ _ hold
  · show (l.admitted attempt key e).keyIndex.lookup e₀.key = some other
    rw [hindex]
    rcases hcases other e₀ hother with ⟨rfl, rfl⟩ | ⟨_, hold⟩
    · rw [admits.key, AList.lookup_insert]
    · rw [AList.lookup_insert_ne (hotherKey hold)]
      exact h.indexed _ _ hold
  · show ∃ e₀, (l.admitted attempt key e).effects.lookup other = some e₀ ∧ e₀.key = key'
    rw [show ((l.admitted attempt key e).notes events).keyIndex = _ from hindex] at hother
    rw [heffects]
    by_cases hsame : key' = key
    · subst hsame
      rw [AList.lookup_insert] at hother
      cases hother
      exact ⟨e, AList.lookup_insert _, admits.key⟩
    · rw [AList.lookup_insert_ne hsame] at hother
      obtain ⟨e₀, hold, hkey⟩ := h.present _ _ hother
      have hne : other ≠ attempt := fun hother' => by
        subst hother'
        cases hnew.symm.trans hold
      exact ⟨e₀, (AList.lookup_insert_ne hne).trans hold, hkey⟩
  · show (l.trace ++ events).countP _ ≤ 1
    rw [List.countP_append]
    by_cases hsame : other = key
    · rw [hsame, h.unstarted key admits.fresh]
      omega
    · rw [hcount other hsame]
      exact h.once other
  · show (l.trace ++ events).countP _ = 0
    rw [show ((l.admitted attempt key e).notes events).keyIndex = _ from hindex] at hother
    have hne : other ≠ key := fun hsame => by
      rw [hsame, AList.lookup_insert] at hother
      cases hother
    rw [AList.lookup_insert_ne hne] at hother
    rw [List.countP_append, hcount other hne, h.unstarted other hother]
  · rcases hcases other e₀ hother with ⟨rfl, rfl⟩ | ⟨hne, hold⟩
    · exact hreported hfirst
    · exact (h.reported _ _ hold).frame (helsewhere other hne)
  · rcases hcases other e₀ hother with ⟨rfl, rfl⟩ | ⟨hne, hold⟩
    · exact (hinStep hstrict).2
    · exact (h.inStep (hinStep hstrict).1 _ _ hold).frame (helsewhere other hne)
  · rw [show ((l.admitted attempt key e).notes events).effects = _ from heffects] at hother
    have hne : other ≠ attempt := fun hsame => by
      rw [hsame, AList.lookup_insert] at hother
      cases hother
    rw [AList.lookup_insert_ne hne] at hother
    rcases List.mem_append.1 hevent with hbefore | hafter
    · exact h.absent other hother event hbefore
    · exact helsewhere other hne event hafter

end Ledger.Tidy

/-! ## Moves -/

/-- What is seen of a move of an effect is about it, and starts none. -/
theorem EffectMove.frame {calm : Prop} {e e' : EffectState} {events : List WorkerEvent}
    (h : EffectMove calm e e' events) : e'.fence = e.fence ∧ e'.key = e.key
      ∧ (∀ key, events.countP (WorkerEvent.starts key) = 0)
      ∧ ∀ other ≠ e.fence.attempt, ∀ event ∈ events, ¬ event.concerns other := by
  have hpublished : ∀ replay record, ∀ other ≠ e.fence.attempt, ∀ event ∈
      [WorkerEvent.published e.fence.attempt e.key replay record], ¬ event.concerns other := by
    rintro replay record other hne event hevent hconcerns
    cases List.mem_singleton.1 hevent
    exact hne hconcerns.symm
  cases h with
  | asked | halted | dated => exact ⟨rfl, rfl, fun _ => rfl, fun _ _ _ => nofun⟩
  | progressed | ended | relieved => exact ⟨rfl, rfl, fun _ => rfl, hpublished _ _⟩
  | @cancelled record =>
    refine ⟨rfl, rfl, fun key => ?_, fun other hne event hevent hconcerns => ?_⟩
    · split <;> rfl
    · rcases List.mem_append.1 hevent with hmark | hrecord
      · split at hmark
        · cases List.mem_singleton.1 hmark
          exact hne hconcerns.symm
        · cases hmark
      · exact hpublished false record other hne event hrecord hconcerns

theorem EffectLoss.frame {calm : Prop} {e e' : EffectState} {events : List WorkerEvent}
    (h : EffectLoss calm e e' events) : e'.fence = e.fence ∧ e'.key = e.key
      ∧ (∀ key, events.countP (WorkerEvent.starts key) = 0)
      ∧ ∀ other ≠ e.fence.attempt, ∀ event ∈ events, ¬ event.concerns other := by
  cases h with
  | ended | reordered | relieved => exact ⟨rfl, rfl, fun _ => rfl, fun _ _ _ => nofun⟩
  | cancelled =>
    refine ⟨rfl, rfl, fun key => ?_, fun other hne event hevent hconcerns => ?_⟩
    · split <;> rfl
    · split at hevent
      · cases List.mem_singleton.1 hevent
        exact hne hconcerns.symm
      · cases hevent

/-- The first record of an effect, of which nothing was seen. -/
theorem EffectAdmits.accepted {named : AttemptId → Digest256 → Prop} {l : Ledger} {attempt : AttemptId}
    {key : Digest256} {e stored : EffectState} (h : EffectAdmits named l attempt key e stored)
    {record : EvidenceRecord} (hkind : record.kind = .dispatchAccepted)
    (hsequence : record.sequence = 1) (hunseen : ∀ event ∈ l.trace, ¬ event.concerns attempt) :
    (Accounts e attempt l.trace →
        Accounts e attempt (l.trace ++ [.published attempt key false record]))
      ∧ InStep e attempt (l.trace ++ [.published attempt key false record]) := by
  have hfresh : freshSequences attempt (l.trace ++ [.published attempt key false record])
      = counted 1 := by
    rw [freshSequences_append, freshSequences_elsewhere hunseen]
    simp [freshSequences, WorkerEvent.freshSequence, hsequence, counted]
  constructor
  · intro hreported
    rw [← h.key] at hfresh ⊢
    refine hreported.publish (fun hends => ?_) ?_
    · rw [hkind] at hends
      cases hends
    · rw [hfresh, length_counted]
  · unfold InStep
    rw [hfresh, h.sequence]
    rfl

namespace Ledger

variable {named : AttemptId → Digest256 → Prop} {strict calm : Prop} {l l' : Ledger}

theorem Tidy.move (h : l.Tidy named True)
    (hdistinct : ∀ attempt key key', named attempt key → named attempt key' → key = key')
    (hmove : LedgerMove named calm l l') (hkept : ∀ key, WorkerEvent.evicted key ∉ l'.trace) :
    l'.Tidy named True := by
  cases hmove with
  | answered ack => exact h.note (fun _ => rfl) (by simp [WorkerEvent.concerns])
  | reconciled fences entries known =>
    exact h.note (fun _ => rfl) (by simp [WorkerEvent.concerns])
  | suppressed effect asked told => exact h.note (fun _ => rfl) (by simp [WorkerEvent.concerns])
  | @replayed attempt e record effect settled kind outcome =>
    rw [h.fence _ _ effect]
    obtain ⟨hreported, hfresh⟩ := (h.reported _ _ effect).repeat settled kind outcome
    refine h.effect effect effect (fun _ _ => rfl) rfl rfl (fun _ => rfl) ?_ hreported
      fun _ => ⟨trivial, ?_⟩
    · rintro other hne event hevent hconcerns
      cases List.mem_singleton.1 hevent
      exact hne hconcerns.symm
    · unfold InStep
      rw [hfresh]
      exact h.inStep trivial _ _ effect
  | @effect attempt e e' events effect move =>
    obtain ⟨hfence, hkey, hstarts, helsewhere⟩ := move.frame
    have hattempt := h.fence _ _ effect
    rw [hattempt] at helsewhere
    obtain ⟨hreported, hinStep⟩ := move.reported hattempt (h.reported _ _ effect)
      (h.inStep trivial _ _ effect)
    exact h.effect effect (AList.lookup_insert _) (fun other hne => AList.lookup_insert_ne hne)
      hfence hkey hstarts helsewhere hreported fun _ => ⟨trivial, hinStep⟩
  -- an indexed key has its effect, so the key that is dropped was not indexed
  | @forgot key unknown =>
    have hnone : l.keyIndex.lookup key = none := by
      rcases hat : l.keyIndex.lookup key with _ | attempt
      · rfl
      · obtain ⟨e, heffect, _⟩ := h.present _ _ hat
        cases (AList.lookup_eq_none.2 (unknown attempt hat)).symm.trans heffect
    refine h.change (fun other => ?_) (fun _ => rfl) (fun attempt e hat => ?_)
      fun attempt hat => ⟨hat, h.absent _ hat⟩
    · by_cases hsame : other = key
      · rw [hsame, hnone]
        exact AList.lookup_erase _ _
      · exact AList.lookup_erase_ne hsame
    · exact ⟨e, hat, rfl, rfl, h.reported _ _ hat, fun _ => h.inStep trivial _ _ hat⟩
  | evicted options trace =>
    obtain ⟨events, htrace, hevicted⟩ := trace
    rw [htrace] at hkept
    exact absurd (List.mem_append_right _ hevicted) (hkept _)
  -- the acknowledgement concerns no attempt; the record is the first of its own
  | @accepted attempt key e stored record ack starts admits kind sequence =>
    obtain rfl := h.stored_eq hdistinct admits
    rw [admits.fence, admits.key]
    have hrest : ∀ event ∈ WorkerEvent.answered ack :: if starts then [.started key attempt] else [],
        ∀ other, ¬ event.concerns other := by
      intro event hevent other hconcerns
      rcases List.mem_cons.1 hevent with rfl | hstart
      · exact hconcerns
      · split at hstart
        · cases List.mem_singleton.1 hstart
          exact hconcerns
        · cases hstart
    have hfirst := admits.accepted kind sequence (h.absent _ (h.unheld hdistinct admits))
    refine h.enroll hdistinct admits (fun other hne => ?_) ?_ (fun other hne event hevent => ?_)
      (fun hreported => ?_) fun _ => ⟨trivial, ?_⟩
    · split
      · simp [WorkerEvent.starts, hne.symm]
      · rfl
    · split
      · simp [WorkerEvent.starts]
      · exact Nat.zero_le _
    · rcases List.mem_cons.1 hevent with rfl | hafter
      · exact hne.symm
      · exact hrest event hafter other
    · rw [← List.singleton_append, ← List.append_assoc]
      exact (hfirst.1 hreported).frame fun event hevent => hrest event hevent attempt
    · rw [← List.singleton_append, ← List.append_assoc]
      exact hfirst.2.frame fun event hevent => hrest event hevent attempt

theorem Tidy.loss (h : l.Tidy named True)
    (hdistinct : ∀ attempt key key', named attempt key → named attempt key' → key = key')
    (hloss : LedgerLoss named calm l l') : l'.Tidy named False := by
  cases hloss with
  | nothing => exact h.weaken False.elim
  | @effect attempt e e' events effect loss =>
    obtain ⟨hfence, hkey, hstarts, helsewhere⟩ := loss.frame
    have hattempt := h.fence _ _ effect
    rw [hattempt] at helsewhere
    exact h.effect effect (AList.lookup_insert _) (fun other hne => AList.lookup_insert_ne hne)
      hfence hkey hstarts helsewhere (loss.reported hattempt (h.reported _ _ effect)) False.elim
  | @admitted attempt key e stored admits =>
    rw [← (l.admitted attempt key e).notes_nil]
    refine h.enroll hdistinct admits (fun _ _ => rfl) (Nat.zero_le _)
      (fun _ _ _ hevent => absurd hevent List.not_mem_nil) (fun hreported => ?_) False.elim
    rw [List.append_nil]
    exact hreported
  | @accepted attempt key e stored record admits kind sequence =>
    obtain rfl := h.stored_eq hdistinct admits
    rw [admits.fence, admits.key]
    refine h.enroll hdistinct admits (fun _ _ => rfl) (Nat.zero_le _) ?_
      (admits.accepted kind sequence (h.absent _ (h.unheld hdistinct admits))).1 False.elim
    rintro other hne event hevent hconcerns
    cases List.mem_singleton.1 hevent
    exact hne hconcerns.symm

/-! ## Runs -/

theorem empty_tidy (options : WorkerOptions) :
    Ledger.Tidy named strict ⟨options, ∅, ∅, []⟩ where
  fence _ _ hat := by cases hat
  names _ _ hat := by cases hat
  indexed _ _ hat := by cases hat
  present _ _ hat := by cases hat
  once _ := Nat.zero_le _
  unstarted _ _ := rfl
  reported _ _ hat := by cases hat
  inStep _ _ _ hat := by cases hat
  absent _ _ _ hevent := by cases hevent

end Ledger

namespace Worker

/-- Dispatches of different keys name different attempts. -/
def Distinct (limits : RuntimeLimits) (steps : List WorkerStep) : Prop :=
  ∀ s ∈ steps, ∀ s' ∈ steps, ∀ attempt key key', s.names limits attempt key →
    s'.names limits attempt key' → key = key'

/-- The ledger is tidy after every run in which no key is evicted. -/
theorem run_tidy {options : WorkerOptions} {ids : IdFactory} {w : Worker}
    (hcreate : create options ids = .ok w) (maxInFlight : UInt32) {steps : List WorkerStep}
    (hdistinct : Distinct options.limits steps) :
    ∃ named, Ledger.Kept options (Ledger.Tidy named False)
      ((w.welcomed maxInFlight).run steps).ledger := by
  let named : AttemptId → Digest256 → Prop := fun attempt key =>
    ∃ s ∈ steps, s.names options.limits attempt key
  have hone : ∀ attempt key key', named attempt key → named attempt key' → key = key' :=
    fun attempt key key' ⟨s, hs, hnames⟩ ⟨s', hs', hnames'⟩ =>
      hdistinct s hs s' hs' attempt key key' hnames hnames'
  have hkeeps : Keeps named False (Ledger.Kept options (Ledger.Tidy named True))
      (Ledger.Kept options (Ledger.Tidy named False)) :=
    .kept (fun l h => h.weaken False.elim) (fun l l' h hmove hkept => h.move hone hmove hkept)
      fun l l' h hloss => h.loss hone hloss
  exact ⟨named, hkeeps.created hcreate maxInFlight (Ledger.empty_tidy options)
    (fun s hs attempt key hnames => ⟨s, hs, hnames⟩) False.elim⟩

end Worker

namespace Ledger.Tidy

variable {named : AttemptId → Digest256 → Prop} {strict : Prop} {l : Ledger}

/-- Whatever was published of an effect was published of one that is held. -/
theorem held (h : l.Tidy named strict) {attempt : AttemptId} {key : Digest256} {replay : Bool}
    {record : EvidenceRecord} (hmem : WorkerEvent.published attempt key replay record ∈ l.trace) :
    ∃ e, l.effects.lookup attempt = some e ∧ key = e.key := by
  rcases hat : l.effects.lookup attempt with _ | e
  · exact absurd rfl (h.absent _ hat _ hmem)
  · exact ⟨e, rfl, (h.reported _ _ hat).key _ _ _ hmem⟩

theorem one_outcome (h : l.Tidy named strict) {key : Digest256} {attempt attempt' : AttemptId}
    {replay replay' : Bool} {record record' : EvidenceRecord}
    (hmem : WorkerEvent.published attempt key replay record ∈ l.trace)
    (hmem' : WorkerEvent.published attempt' key replay' record' ∈ l.trace)
    (hends : record.kind.isOutcome = true) (hends' : record'.kind.isOutcome = true) :
    record.kind = record'.kind ∧ record.outcome = record'.outcome := by
  obtain ⟨e, hat, hkey⟩ := h.held hmem
  obtain ⟨e', hat', hkey'⟩ := h.held hmem'
  have hindexed := h.indexed _ _ hat
  rw [← hkey, hkey', h.indexed _ _ hat'] at hindexed
  cases hindexed
  cases hat.symm.trans hat'
  obtain ⟨_, hkind, houtcome⟩ := (h.reported _ _ hat).outcome _ _ _ hmem hends
  obtain ⟨_, hkind', houtcome'⟩ := (h.reported _ _ hat).outcome _ _ _ hmem' hends'
  exact ⟨hkind.trans hkind'.symm, houtcome.trans houtcome'.symm⟩

theorem no_outcome (h : l.Tidy named strict) {attempt : AttemptId} {key : Digest256}
    {replay : Bool} {record : EvidenceRecord} (hstopped : WorkerEvent.cancelled attempt ∈ l.trace)
    (hmem : WorkerEvent.published attempt key replay record ∈ l.trace) :
    record.kind.isOutcome = false := by
  obtain ⟨e, hat, _⟩ := h.held hmem
  have hreported := h.reported _ _ hat
  have hopen := hreported.cancelled (hreported.stopped hstopped)
  refine Bool.eq_false_iff.2 fun hends => ?_
  rw [(hreported.outcome _ _ _ hmem hends).1] at hopen
  cases hopen

theorem numbered (h : l.Tidy named strict) (attempt : AttemptId) :
    freshSequences attempt l.trace = counted (freshSequences attempt l.trace).length := by
  rcases hat : l.effects.lookup attempt with _ | e
  · rw [freshSequences_elsewhere (h.absent _ hat)]
    rfl
  · exact (h.reported _ _ hat).sequences

end Ledger.Tidy

namespace Worker

theorem numbered_of_kept {options : WorkerOptions} {named : AttemptId → Digest256 → Prop}
    {w : Worker} (h : Ledger.Kept options (Ledger.Tidy named False) w.ledger)
    (hkept : ∀ key, WorkerEvent.evicted key ∉ w.trace) (attempt : AttemptId) :
    freshSequences attempt w.trace = counted (freshSequences attempt w.trace).length :=
  (h.kept hkept).numbered attempt

/-- A worker starts at most one effect for a key, every record of how it ended says the same, an
effect that was cancelled while it ran never ends, and the records of an effect but for those that
repeat its outcome are numbered upwards, as long as the counter lasts. -/
theorem reports_once {options : WorkerOptions} {ids : IdFactory} {w : Worker}
    (hcreate : create options ids = .ok w) (maxInFlight : UInt32) (steps : List WorkerStep)
    (hdistinct : Distinct options.limits steps)
    (hkept : ∀ key, WorkerEvent.evicted key ∉ ((w.welcomed maxInFlight).run steps).trace) :
    let trace := ((w.welcomed maxInFlight).run steps).trace
    (∀ key, trace.countP (WorkerEvent.starts key) ≤ 1)
    ∧ (∀ key attempt attempt' replay replay' record record',
      WorkerEvent.published attempt key replay record ∈ trace →
      WorkerEvent.published attempt' key replay' record' ∈ trace →
      record.kind.isOutcome = true → record'.kind.isOutcome = true →
      record.kind = record'.kind ∧ record.outcome = record'.outcome)
    ∧ (∀ attempt key replay record, WorkerEvent.cancelled attempt ∈ trace →
      WorkerEvent.published attempt key replay record ∈ trace → record.kind.isOutcome = false)
    ∧ ∀ attempt, (freshSequences attempt trace).length < 2 ^ 64 →
      (freshSequences attempt trace).Pairwise (· < ·) := by
  intro trace
  obtain ⟨named, hrun⟩ := run_tidy hcreate maxInFlight hdistinct
  have htidy := hrun.kept hkept
  refine ⟨htidy.once, ?_, ?_, fun attempt hlength => ?_⟩
  · intro key attempt attempt' replay replay' record record' hmem hmem' hends hends'
    exact htidy.one_outcome hmem hmem' hends hends'
  · intro attempt key replay record hstopped hmem
    exact htidy.no_outcome hstopped hmem
  · rw [show freshSequences attempt trace = _ from numbered_of_kept hrun hkept attempt]
    exact counted_increasing hlength

/-! ## The counter at its end -/

theorem queueMessage_ended (w : Worker) (body : Bytes) : (w.queueMessage body).2.ended = w.ended := by
  unfold queueMessage
  dsimp only
  split
  · rfl
  split <;> rfl

theorem emitRecord_ended (w : Worker) (e : EffectState) (fence : AttemptFence) (kind : EvidenceKind)
    (outcome : EvidenceOutcome) (sequence : UInt64) (observedAt : Timestamp) (replay : Bool) :
    (w.emitRecord e fence kind outcome sequence observedAt replay).2.ended = w.ended := by
  unfold emitRecord send
  dsimp only
  split
  · exact queueMessage_ended _ _
  · exact queueMessage_ended _ _

theorem length_cancelAck (fence : AttemptFence) (stopped : Bool) (detail : Bytes)
    (h : detail.length ≤ 256) : (CancelAckMessage.mk fence stopped detail).encode.length ≤ 4096 := by
  unfold CancelAckMessage.encode AttemptFence.write
  simp only [List.flatten_cons, List.flatten_nil, List.length_append, ByteWriter.id,
    ByteWriter.boolean, ByteWriter.string, ByteWriter.count, ByteWriter.u64, ByteWriter.u8,
    ByteWriter.u32, FixedBytes.size_eq, List.length_cons, List.length_nil]
  omega

/-- What a cancel frame for a known effect leaves, when the channel takes everything. -/
theorem cancel_publishes {w : Worker} {body : Bytes} {message : CancelMessage} {e : EffectState}
    (hopen : w.Open) (hdecoded : decodeCancel body w.options.limits = .ok message)
    (heffect : w.effects.lookup message.fence.attempt = some e) :
    (w.handleCancel body).1.isOk = true ∧ (w.handleCancel body).2.ended = w.ended
      ∧ ∃ record, (w.handleCancel body).2.ledger
        = (w.ledger.setEffect message.fence.attempt e.cancel.next).notes
          ((if e.running then [.cancelled e.fence.attempt] else [])
            ++ [.published e.fence.attempt e.key false record]) := by
  unfold handleCancel
  rw [hdecoded]
  dsimp only
  rw [heffect]
  dsimp only
  have hledger := told_to_stop w e
  generalize hmarked : (if e.running then note { w with flags := w.flags.set e.stop true }
    (.cancelled e.fence.attempt) else w) = marked at hledger ⊢
  have hended : marked.ended = w.ended := by
    rw [← hmarked]
    split <;> rfl
  -- being told to stop takes no room
  have hroomy : marked.Open := by
    rw [← hmarked]
    split
    · exact ⟨hopen.room, hopen.channel⟩
    · exact hopen
  generalize hset : marked.setEffect message.fence.attempt e.cancel.next = changed
  have hchanged : changed.Open := by
    rw [← hset]
    exact ⟨hroomy.room, hroomy.channel⟩
  have hemit := emitRecord_ledger changed e.cancel.next e.fence .cancellationAcknowledged
    .inconclusive e.next.sequence marked.now false
  have hstays := emitRecord_ended changed e.cancel.next e.fence .cancellationAcknowledged
    .inconclusive e.next.sequence marked.now false
  obtain ⟨hok, hafter⟩ := hchanged.emitRecord e.cancel.next e.fence .cancellationAcknowledged
    .inconclusive e.next.sequence marked.now false
  unfold andThen
  rw [if_pos hok] at hemit ⊢
  -- every detail fits the field, so the acknowledgement can be queued
  have hdetail : (if e.running then
      text "the effect was asked to stop and will not publish an outcome"
    else if e.terminal then text "the attempt already reached an outcome"
    else text "the attempt had already stopped").length ≤ 256 := by
    split
    · decide
    · split <;> decide
  obtain ⟨hanswered, _⟩ := hafter.queueMessage (length_cancelAck message.fence e.running _ hdetail)
  refine ⟨hanswered, ?_, changed.recordOf e.cancel.next e.fence .cancellationAcknowledged
    .inconclusive e.next.sequence marked.now, (queueMessage_ledger _).trans (hemit.trans ?_)⟩
  · dsimp only
    rw [queueMessage_ended, hstays, ← hset]
    exact hended
  · rw [← hset, setEffect_ledger, hledger]
    unfold Ledger.notes Ledger.setEffect
    simp only [List.append_assoc]
    rfl

/-- A running worker that holds an effect under its own attempt, and has evicted no key. -/
structure Holds (options : WorkerOptions) (attempt : AttemptId) (n : Nat) (w : Worker) : Prop where
  ended : w.ended = none
  options : w.options = options
  held : ∃ e, w.effects.lookup attempt = some e ∧ e.fence.attempt = attempt
  published : (freshSequences attempt w.trace).length = n
  kept : ∀ key, WorkerEvent.evicted key ∉ w.trace

theorem Holds.cancel {options : WorkerOptions} {message : CancelMessage} {body : Bytes} {n : Nat}
    {w : Worker} (h : Holds options message.fence.attempt n w) (now : Timestamp)
    (hroom : 4096 ≤ options.limits.maxFrameBytes)
    (hdecoded : decodeCancel body options.limits = .ok message) :
    Holds options message.fence.attempt (n + 1) (w.step (.cancel body now [])) := by
  obtain ⟨e, heffect, hattempt⟩ := h.held
  rw [← h.options] at hroom hdecoded
  obtain ⟨hok, hended, record, hledger⟩ := cancel_publishes (w := { w with now, channel := [] })
    ⟨hroom, nofun⟩ hdecoded heffect
  have hstep : w.step (.cancel body now [])
      = (({ w with now, channel := [] } : Worker).handleCancel body).2 := by
    unfold step
    rw [if_neg (by rw [h.ended]; exact nofun)]
    show settled _ = _
    unfold settled
    rw [if_pos hok]
  have htrace := congrArg Ledger.trace hledger
  have heffects := congrArg Ledger.effects hledger
  have hoptions := congrArg Ledger.options hledger
  rw [hstep]
  exact {
    ended := hended.trans h.ended
    options := hoptions.trans h.options
    held := ⟨e.cancel.next, (congrArg (AList.lookup _) heffects).trans (AList.lookup_insert _),
      hattempt⟩
    published := by
      rw [show Worker.trace _ = _ from htrace]
      show (freshSequences _ (w.trace ++ (_ ++ _))).length = n + 1
      rw [freshSequences_append, freshSequences_append, List.length_append, List.length_append,
        h.published, hattempt]
      split
      · simp [freshSequences, WorkerEvent.freshSequence]
      · simp [freshSequences, WorkerEvent.freshSequence]
    kept := fun key hmem => by
      rw [show Worker.trace _ = _ from htrace] at hmem
      rcases List.mem_append.1 hmem with hbefore | hnew
      · exact h.kept key hbefore
      · split at hnew
        · simp at hnew
        · simp at hnew }

/-- Every cancel frame has a record published. -/
theorem Holds.cancels {options : WorkerOptions} {message : CancelMessage} {body : Bytes} {n : Nat}
    {w : Worker} (h : Holds options message.fence.attempt n w) (now : Timestamp)
    (hroom : 4096 ≤ options.limits.maxFrameBytes)
    (hdecoded : decodeCancel body options.limits = .ok message) (m : Nat) :
    Holds options message.fence.attempt (n + m) (w.run (List.replicate m (.cancel body now []))) := by
  induction m generalizing n w with
  | zero => exact h
  | succ m ih =>
    rw [List.replicate_succ, show n + (m + 1) = n + 1 + m by omega]
    exact ih (h.cancel now hroom hdecoded)

/-! ## A lone effect -/

def loneOptions : WorkerOptions := { controllerPort := 1 }

def loneWorker : Worker := (create loneOptions default).toOption.getD {}

def loneAttempt : AttemptId := ⟨.ofBytes 16 [1]⟩

def loneDispatch : Bytes := ({
  request := { fence := { attempt := loneAttempt } }
  target := ⟨.ofBytes 16 [2]⟩ : DispatchCommandMessage }).encode

/-- A dispatch, and the thread of its effect to its end. -/
def loneRun : List WorkerStep := [
  .dispatch loneDispatch {} [], .push 0 .terminal {}, .drain {} []]

def loneCancel : Bytes := ({ fence := { attempt := loneAttempt } : CancelMessage }).encode

theorem loneWorker_created : create loneOptions default = .ok loneWorker := rfl

theorem loneRun_facts :
    ((loneWorker.welcomed 0).run loneRun).ended.isNone = true
    ∧ freshSequences loneAttempt ((loneWorker.welcomed 0).run loneRun).trace = [1, 2]
    ∧ ((loneWorker.welcomed 0).run loneRun).trace.all (fun
      | .evicted _ => false
      | _ => true) = true
    ∧ (((loneWorker.welcomed 0).run loneRun).effects.lookup loneAttempt).any
      (fun e => e.fence.attempt = loneAttempt ∧ e.terminal = true) = true
    ∧ (decodeCancel loneCancel loneOptions.limits).toOption.map (fun m => m.fence.attempt)
      = some loneAttempt := by decide +kernel

theorem loneRun_kept (key : Digest256) :
    WorkerEvent.evicted key ∉ ((loneWorker.welcomed 0).run loneRun).trace := by
  intro hmem
  cases List.all_eq_true.1 loneRun_facts.2.2.1 _ hmem

/-- Nothing is dispatched but one body. -/
theorem distinct_of_one {limits : RuntimeLimits} {steps : List WorkerStep} (body : Bytes)
    (h : ∀ other now channel, WorkerStep.dispatch other now channel ∈ steps → other = body) :
    Distinct limits steps := by
  rintro s hs s' hs' attempt key key' ⟨first, now, channel, message, rfl, hdecoded, _, rfl⟩
    ⟨second, now', channel', message', rfl, hdecoded', _, rfl⟩
  obtain rfl := h _ _ _ hs
  obtain rfl := h _ _ _ hs'
  cases hdecoded.symm.trans hdecoded'
  rfl

theorem loneRun_dispatch {other : Bytes} {now : Timestamp} {channel : List Status}
    (h : WorkerStep.dispatch other now channel ∈ loneRun) : other = loneDispatch := by
  simp only [loneRun, List.mem_cons, WorkerStep.dispatch.injEq, reduceCtorEq, List.not_mem_nil,
    or_false] at h
  exact h.1

theorem loneRun_distinct : Distinct loneOptions.limits loneRun :=
  distinct_of_one loneDispatch fun _ _ _ => loneRun_dispatch

theorem loneRun_reported :
    (∀ key, ((loneWorker.welcomed 0).run loneRun).trace.countP (WorkerEvent.starts key) ≤ 1)
    ∧ (freshSequences loneAttempt ((loneWorker.welcomed 0).run loneRun).trace).Pairwise (· < ·) := by
  have h := reports_once loneWorker_created 0 loneRun
    loneRun_distinct loneRun_kept
  refine ⟨h.1, h.2.2.2 loneAttempt ?_⟩
  rw [loneRun_facts.2.1]
  show 2 < 2 ^ 64
  omega

/-- After enough cancel frames the counter has wrapped. -/
theorem sequences_wrap : ¬ ∀ (options : WorkerOptions) (ids : IdFactory) (w : Worker)
    (maxInFlight : UInt32) (steps : List WorkerStep), create options ids = .ok w →
    WorkerScenario.Faultless options.scenario → Distinct options.limits steps →
    (∀ key, WorkerEvent.evicted key ∉ ((w.welcomed maxInFlight).run steps).trace) →
    ∀ attempt, (freshSequences attempt
      ((w.welcomed maxInFlight).run steps).trace).Pairwise (· < ·) := by
  intro h
  obtain ⟨hended, hsequences, hkept, hheld, hcancel⟩ := loneRun_facts
  obtain ⟨message, hdecoded, hmessage⟩ : ∃ message, decodeCancel loneCancel loneOptions.limits
      = .ok message ∧ message.fence.attempt = loneAttempt := by
    rcases hcase : decodeCancel loneCancel loneOptions.limits with _ | message
    · rw [hcase] at hcancel
      cases hcancel
    · rw [hcase] at hcancel
      exact ⟨message, rfl, Option.some.inj hcancel⟩
  have hholds : Holds loneOptions loneAttempt 2 ((loneWorker.welcomed 0).run loneRun) := {
    ended := Option.isNone_iff_eq_none.1 hended
    options := by
      obtain ⟨named, hrun⟩ := run_tidy loneWorker_created 0 loneRun_distinct
      exact hrun.run_options
    held := by
      rw [Option.any_eq_true] at hheld
      obtain ⟨e, heffect, he⟩ := hheld
      exact ⟨e, heffect, (of_decide_eq_true he).1⟩
    published := by rw [hsequences]; rfl
    kept := loneRun_kept }
  rw [← hmessage] at hholds
  obtain ⟨m, hm⟩ : ∃ m, 2 ^ 64 ≤ m := ⟨_, Nat.le_refl _⟩
  have hcancels := hholds.cancels {} (by decide) hdecoded m
  have hrun : ∀ more, ((loneWorker.welcomed 0).run loneRun).run more
      = (loneWorker.welcomed 0).run (loneRun ++ more) := fun more => (List.foldl_append ..).symm
  rw [hrun] at hcancels
  have hdistinct : Distinct loneOptions.limits
      (loneRun ++ List.replicate m (.cancel loneCancel {} [])) := by
    refine distinct_of_one loneDispatch fun other now channel hmem => ?_
    rcases List.mem_append.1 hmem with hlone | hcancel
    · exact loneRun_dispatch hlone
    · cases List.eq_of_mem_replicate hcancel
  have hfaultless : loneOptions.scenario.Faultless := fun target => by
    unfold WorkerScenario.forTarget
    split <;> exact ⟨rfl, rfl, rfl, rfl, rfl⟩
  obtain ⟨named, hkeeps⟩ := run_tidy loneWorker_created 0 hdistinct
  have hnumbered := numbered_of_kept hkeeps hcancels.kept message.fence.attempt
  have hincreasing := h loneOptions default loneWorker 0 _ loneWorker_created hfaultless hdistinct
    hcancels.kept message.fence.attempt
  rw [hnumbered, hcancels.published] at hincreasing
  exact counted_wraps (by omega) hincreasing

end Worker

end RolloutFabric
