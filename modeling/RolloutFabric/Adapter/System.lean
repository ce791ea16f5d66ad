/-
Reconciliation, and the process adapter as a system: the calls of the state machine and what the
transport brings, in any order.
-/
import RolloutFabric.Adapter.Frames

namespace RolloutFabric

/-! ## Reconciliation -/

/-- What `reconcile` holds while it waits: the attempts it was asked about, the answers it has, how
many attempts there are and the numbers of its requests. -/
structure ReconcileCall where
  attempts : List AttemptFence := []
  answers : Map AttemptId ReconcileEntry := ∅
  unique : Nat := 0
  requestIds : List UInt64 := []

def unknownEntry (detail : Bytes) (fence : AttemptFence) : ReconcileEntry where
  fence := fence
  disposition := .unknown
  outcome := .inconclusive
  detail := detail

/-- The fences are answered with the same detail. -/
def ReconcileCall.answerUnknown (call : ReconcileCall) (detail : Bytes)
    (fences : List AttemptFence) : ReconcileCall :=
  { call with answers := fences.foldl (fun answers fence =>
      answers.insert fence.attempt (unknownEntry detail fence)) call.answers }

namespace ProcessAdapter

variable (a : ProcessAdapter)

/-- The index an attempt is routed to, if a connection stands there. -/
def routeOf (attempt : AttemptId) : Option Nat :=
  (a.attemptRoutes.lookup attempt).filter (· < a.connections.length)

/-- One turn of the loop over the attempts: what has no owner is answered at once. -/
def consider (call : ReconcileCall) (fence : AttemptFence) : ReconcileCall :=
  if fence.attempt ∈ call.answers then call
  else match a.routeOf fence.attempt with
  | some _ => { call with unique := call.unique + 1 }
  | none => { call with
      unique := call.unique + 1
      answers := call.answers.insert fence.attempt (unknownEntry
        (text "the connection that carried this attempt is gone; losing contact is not evidence that the effect did not happen")
        fence) }

/-- The attempts by the connection they are routed to, from the highest index down. -/
def groups (attempts : List AttemptFence) : List (Nat × List AttemptFence) :=
  (List.range a.connections.length).reverse.filterMap fun i =>
    let group := attempts.filter fun fence => a.routeOf fence.attempt == some i
    if group.isEmpty then none else some (i, group)

/-- The connection at the index is asked about the fences. -/
def ask (sending : Sending) (now : Timestamp)
    (acc : List SinkCall × ProcessAdapter × ReconcileCall) (group : Nat × List AttemptFence) :
    List SinkCall × ProcessAdapter × ReconcileCall :=
  let (calls, a, call) := acc
  let (index, fences) := group
  if a.connections.length ≤ index then acc
  else
    let requestId := a.nextRequestId + 1
    let (sent, connection) := (a.connectionAt index).sendTo sending
    let asked := a.countFrame.setConnection index connection
    let a := { asked with nextRequestId := requestId }
    if sent.isOk then
      let pending : PendingReconcile := {
        requestId
        connectionIndex := index
        fences
        sentTo := connection.serial }
      (calls, { a with pendingReconciles := a.pendingReconciles ++ [pending] },
        { call with requestIds := call.requestIds ++ [requestId] })
    else
      let detail := text "the reconcile request could not be delivered: " ++ sent.message
      let (dropped, a) := a.dropConnection index detail a.sinkHint now
      (calls ++ dropped, a, call.answerUnknown detail fences)

/-- The first half of `reconcile`: what it answers at once, or what it waits for. -/
def beginReconcile (limits : RuntimeLimits) (attempts : List AttemptFence)
    (sendings : Nat → Sending) (now : Timestamp) :
    List SinkCall × ProcessAdapter × Except ReconcileResult ReconcileCall :=
  let a := { a with reconcileRequests := a.reconcileRequests + 1 }
  if attempts.isEmpty then
    ([], a, .error { ok := true, detail := text "no attempts were submitted for reconciliation" })
  else if limits.maxConcurrentAttempts.toNat < attempts.length then
    let detail := text "the reconciliation names " ++ toStringNat attempts.length
      ++ text " attempts, above max_concurrent_attempts"
    ([], a, .error { detail })
  else
    let call := attempts.foldl a.consider { attempts }
    let (calls, b, call) := (a.groups attempts).foldl
      (fun acc group => ask (sendings group.1) now acc group) ([], a, call)
    (calls, b, .ok call)

/-- One turn of the loop over the requests: how many of them went unanswered, and the answers. -/
def gather (acc : Nat × ReconcileCall) (requestId : UInt64) : Nat × ReconcileCall :=
  match a.pendingReconciles.find? fun pending => pending.requestId == requestId with
  | none => acc
  | some pending =>
    if pending.answered then (acc.1, { acc.2 with
      answers := pending.result.entries.foldl (fun answers entry =>
        answers.insert entry.fence.attempt entry) acc.2.answers })
    else (acc.1 + 1, acc.2.answerUnknown (text "no answer arrived within the reconcile budget")
      pending.fences)

/-- The requests of the call are forgotten. -/
def forget (requestIds : List UInt64) : ProcessAdapter := { a with
  pendingReconciles := a.pendingReconciles.filter fun pending => pending.requestId ∉ requestIds }

/-- The second half of `reconcile`. -/
def finishReconcile (call : ReconcileCall) : ReconcileResult × ProcessAdapter :=
  let (unanswered, gathered) := call.requestIds.foldl a.gather (0, call)
  let entries := (call.attempts.map AttemptFence.attempt).eraseDups.filterMap fun attempt =>
    gathered.answers.lookup attempt
  let unknown := entries.countP fun entry => entry.disposition == .unknown
  let ok := unanswered == 0 && unknown == 0 && entries.length == call.unique
  ({ ok, entries
     detail := if ok then text "reconciled " ++ toStringNat entries.length
        ++ text " attempt(s) against live executor(s)"
      else toStringNat unanswered ++ text " reconcile request(s) went unanswered and "
        ++ toStringNat unknown
        ++ text " attempt(s) have no live owner; their fate is unknown and no outcome was assumed" },
    a.forget call.requestIds)

end ProcessAdapter

/-! ## The system -/

structure ProcessAdapterOptions where
  limits : RuntimeLimits := {}
  maxWorkers : Nat := 64

/-- What happens to the adapter. `poll` and the wait of `reconcile` are frames, failures and drops
in the order the transport brings them about; `reconcile` asks one connection after the other. -/
inductive AdapterStep
  | attach (prepared : Status) (now : Timestamp)
  | dispatch (request : DispatchRequest) (sending : Sending) (now : Timestamp)
  | cancel (fence : AttemptFence) (sending : Sending)
  /-- The connection at the index is handed a frame it received. -/
  | frame (i : Nat) (frame : Frame) (context : FrameContext)
  /-- The channel of the connection at the index fails. -/
  | fail (i : Nat) (failure : Status)
  /-- `poll` or `reconcile` gives the connection at the index up. -/
  | drop (i : Nat) (detail : Bytes) (now : Timestamp)
  /-- `reconcile` asks the connection at the index about some fences. -/
  | ask (index : Nat) (fences : List AttemptFence) (sending : Sending) (now : Timestamp)
  /-- `reconcile` returns. -/
  | collect (call : ReconcileCall)
  | closeAll

/-- A connection that is still read from. -/
def Connection.isOpen (c : Connection) : Bool := !c.closed && c.failure.isOk

namespace ProcessAdapter

variable (a : ProcessAdapter) (options : ProcessAdapterOptions)

/-- What a step tells the sink, and the adapter after it. -/
def step : AdapterStep → List SinkCall × ProcessAdapter
  | .attach prepared now => (a.attach options.maxWorkers prepared now).2
  | .dispatch request sending now => (a.dispatch request sending now).2
  | .cancel fence sending => ([], (a.cancel fence sending).2)
  | .frame i frame context =>
    if i < a.connections.length ∧ (a.connectionAt i).isOpen then
      a.handleFrame { context with limits := options.limits } i frame
    else ([], a)
  | .fail i failure =>
    if i < a.connections.length ∧ (a.connectionAt i).isOpen then
      ([], a.setConnection i { a.connectionAt i with failure })
    else ([], a)
  | .drop i detail now => { a with sinkHint := true }.dropConnection i detail true now
  | .ask index fences sending now =>
    let (calls, a, _) := ask sending now ([], a, {}) (index, fences)
    (calls, a)
  | .collect call => ([], (a.finishReconcile call).2)
  | .closeAll => ([], a.closeAll)

/-- The adapter after the steps. -/
def run (steps : List AdapterStep) : ProcessAdapter :=
  steps.foldl (fun a s => (a.step options s).2) a

theorem run_append (steps more : List AdapterStep) :
    a.run options (steps ++ more) = (a.run options steps).run options more :=
  List.foldl_append

/-- Every step of the run meets the condition, in the state it is taken in. -/
def Along (P : ProcessAdapter → AdapterStep → Prop) (a : ProcessAdapter) : List AdapterStep → Prop
  | [] => True
  | s :: steps => P a s ∧ Along P (a.step options s).2 steps

/-- What every step keeps holds after every run. -/
theorem run_keeps {P : ProcessAdapter → Prop} (hstep : ∀ a s, P a → P (a.step options s).2)
    (ha : P a) (steps : List AdapterStep) : P (a.run options steps) := by
  induction steps generalizing a with
  | nil => exact ha
  | cons s steps ih => exact ih _ (hstep a s ha)

/-- What `ask` does to the adapter does not depend on the call it is part of. -/
theorem ask_adapter (sending : Sending) (now : Timestamp)
    (acc : List SinkCall × ProcessAdapter × ReconcileCall) (group : Nat × List AttemptFence) :
    (ask sending now acc group).2.1
      = (acc.2.1.step options (.ask group.1 group.2 sending now)).2 := by
  obtain ⟨calls, a, call⟩ := acc
  obtain ⟨index, fences⟩ := group
  simp only [step, ask]
  split
  · rfl
  split <;> rfl

/-- `reconcile` asks the groups, one step after the other. -/
theorem beginReconcile_run (limits : RuntimeLimits) (attempts : List AttemptFence)
    (sendings : Nat → Sending) (now : Timestamp) :
    ∃ steps, (a.beginReconcile limits attempts sendings now).2.1
      = { a with reconcileRequests := a.reconcileRequests + 1 }.run options steps := by
  unfold beginReconcile
  dsimp only
  split
  · exact ⟨[], rfl⟩
  split
  · exact ⟨[], rfl⟩
  · refine ⟨(({ a with reconcileRequests := a.reconcileRequests + 1 } : ProcessAdapter).groups
      attempts).map fun group => .ask group.1 group.2 (sendings group.1) now, ?_⟩
    generalize ({ a with reconcileRequests := a.reconcileRequests + 1 } : ProcessAdapter).groups
      attempts = groups
    suffices h : ∀ acc : List SinkCall × ProcessAdapter × ReconcileCall,
        (groups.foldl (fun acc group => ask (sendings group.1) now acc group) acc).2.1
          = acc.2.1.run options (groups.map fun group =>
            .ask group.1 group.2 (sendings group.1) now) from h _
    induction groups with
    | nil => exact fun _ => rfl
    | cons group groups ih =>
      intro acc
      rw [List.foldl_cons, ih, ask_adapter options]
      rfl

end ProcessAdapter

end RolloutFabric
