/-
The worker connections of the process adapter: which worker an attempt is sent to, what each
frame of a worker changes, and what becomes of the routes when a connection is dropped.
-/
import RolloutFabric.Adapter.Process
import RolloutFabric.Protocol.Messages
import RolloutFabric.Protocol.Transport

namespace RolloutFabric

/-! ## Names -/

def MessageType.toText : MessageType → Bytes
  | .invalid => text "invalid" | .hello => text "hello" | .helloAck => text "hello_ack"
  | .dispatch => text "dispatch" | .dispatchAck => text "dispatch_ack"
  | .cancel => text "cancel" | .cancelAck => text "cancel_ack" | .evidence => text "evidence"
  | .heartbeat => text "heartbeat" | .heartbeatAck => text "heartbeat_ack"
  | .reconcileRequest => text "reconcile_request"
  | .reconcileResponse => text "reconcile_response" | .shutdown => text "shutdown"
  | .error => text "error" | .commandRequest => text "command_request"
  | .commandResponse => text "command_response" | .healthRequest => text "health_request"
  | .healthResponse => text "health_response"

def ReconcileDisposition.toText : ReconcileDisposition → Bytes
  | .completed => text "completed" | .failed => text "failed"
  | .inProgress => text "in_progress" | .notStarted => text "not_started"
  | .unknown => text "unknown"

/-- A map with every value changed. -/
def Map.mapValues {α β γ : Type} (m : Map α β) (f : β → γ) : Map α γ where
  entries := m.entries.map fun e => ⟨e.1, f e.2⟩
  nodupKeys := by
    have h := m.nodupKeys
    unfold List.NodupKeys List.keys at h ⊢
    rwa [List.map_map]

/-! ## Sending -/

/-- What the channel of a connection does with a frame: what `queue` answers, and how the channel
stands after `pump_out`. -/
structure Sending where
  queued : Status := .success
  failure : Status := .success
deriving DecidableEq, Inhabited

namespace Connection

def usable (c : Connection) : Bool := c.helloReceived && !c.closed && c.failure.isOk

/-- `send_to`. -/
def sendTo (c : Connection) (sending : Sending) : Status × Connection :=
  if c.closed then (makeStatus .unavailable (text "the worker connection is closed"), c)
  else if !c.failure.isOk then (c.failure, c)
  else if !sending.queued.isOk then (sending.queued, c)
  else (sending.failure, { c with failure := sending.failure })

end Connection

/-- What a pending request becomes when the connection at the index is gone. -/
def PendingReconcile.afterDrop (pending : PendingReconcile) (index : Nat) : PendingReconcile :=
  if pending.connectionIndex = index then
    if pending.answered then pending
    else { pending with
      answered := true
      result := { pending.result with
        ok := false
        detail := text "the worker connection dropped before it answered"
        entries := pending.result.entries ++ pending.fences.map fun fence => {
          fence
          disposition := .unknown
          outcome := .inconclusive
          detail := text "the connection dropped before the executor answered the reconcile request" } } }
  else if index < pending.connectionIndex then
    { pending with connectionIndex := pending.connectionIndex - 1 }
  else pending

namespace ProcessAdapter

variable (a : ProcessAdapter)

def connectionAt (i : Nat) : Connection := a.connections.getD i default

def setConnection (i : Nat) (c : Connection) : ProcessAdapter :=
  { a with connections := a.connections.set i c }

/-- The identifier of the next frame is taken. -/
def countFrame : ProcessAdapter := { a with frameSequence := a.frameSequence + 1 }

/-- The events that a sink is told, if one was seen. -/
def hint (event : AdapterEvent) : List SinkCall := if a.sinkHint then [.event event] else []

def available : Bool := a.connections.any Connection.usable

/-! ## Dropping a connection -/

/-- The connection a worker that reconnected under the same incarnation is served by. -/
def replacement (index : Nat) : Option Nat :=
  (List.range a.connections.length).find? fun other =>
    other != index && (a.connectionAt other).usable
      && (a.connectionAt other).worker == (a.connectionAt index).worker
      && (a.connectionAt other).incarnation == (a.connectionAt index).incarnation

/-- The attempts routed to the connection. -/
def owned (index : Nat) : List AttemptId :=
  (a.attemptRoutes.entries.filter fun e => e.2 == index).map Sigma.fst

/-- The routes after the connection at the index is gone. -/
def rerouted (index : Nat) : Map AttemptId Nat :=
  let routes := (a.owned index).foldl (fun routes attempt => routes.erase attempt) a.attemptRoutes
  let routes := routes.mapValues fun i => if index < i then i - 1 else i
  match a.replacement index with
  | none => routes
  | some replacement =>
    let rekeyed := if index < replacement then replacement - 1 else replacement
    (a.owned index).foldl (fun routes attempt => routes.insert attempt rekeyed) routes

/-- The connections from the index on are renumbered. -/
def renumber (connections : List Connection) (index : Nat) : List Connection :=
  connections.mapIdx fun position c => if index ≤ position then { c with index := position } else c

/-- `drop_connection`: what the sink is told, if it is there to be told. -/
def dropConnection (index : Nat) (detail : Bytes) (told : Bool) (now : Timestamp) :
    List SinkCall × ProcessAdapter :=
  if a.connections.length ≤ index then ([], a)
  else
    let connection := a.connectionAt index
    let event := { kind := .workerDisconnected, worker := connection.worker
                   incarnation := connection.incarnation, detail, occurredAt := now }
    (if told then [.event event] else [], { a with
      reconnects := a.reconnects + 1
      attemptRoutes := a.rerouted index
      pendingReconciles := a.pendingReconciles.map (PendingReconcile.afterDrop · index)
      connections := renumber (a.connections.eraseIdx index) index })

/-! ## Dispatching -/

/-- `pick_worker`: round-robin over the order of attachment. -/
def pickWorker : Option Nat :=
  let count := a.connections.length
  let start := (a.dispatched % count.toUInt64).toNat
  ((List.range count).map fun step => (start + step) % count).find? fun i =>
    (a.connectionAt i).usable && (a.connectionAt i).inFlight < (a.connectionAt i).capacity

/-- The attempt is routed to the connection that was picked. -/
def route (i : Nat) (attempt : AttemptId) : ProcessAdapter :=
  let connection := a.connectionAt i
  { a.setConnection i { connection with inFlight := connection.inFlight + 1 } with
    attemptRoutes := a.attemptRoutes.insert attempt connection.index
    dispatchAccepted := a.dispatchAccepted + 1 }

def refuse : ProcessAdapter := { a with dispatchRefused := a.dispatchRefused + 1 }

/-- The result of a dispatch whose frame the transport took. -/
def acceptedResult (worker : WorkerId) (attempt : AttemptId) (now : Timestamp) :
    DispatchResult where
  outcome := .accepted
  acceptedAt := now
  detail := text "accepted: the dispatch frame for attempt " ++ attempt.shortHex
    ++ text " was handed to the transport for worker " ++ worker.shortHex
    ++ text ". Acceptance means the frame was queued, not that the effect happened: the worker acknowledges separately and its completion arrives as its own evidence"

/-- `dispatch` to the connection that was picked. -/
def dispatchTo (i : Nat) (attempt : AttemptId) (sending : Sending) (now : Timestamp) :
    DispatchResult × List SinkCall × ProcessAdapter :=
  let (queued, connection) := (a.connectionAt i).sendTo sending
  let a := a.countFrame.setConnection i connection
  if queued.isOk then (acceptedResult connection.worker attempt now, [], a.route i attempt)
  else if queued.code = .resourceExhausted then
    ({ outcome := .throttled
       detail := text "the outbound queue of worker " ++ connection.worker.shortHex
         ++ text " is full; the dispatch was not queued" }, [], a.refuse)
  else
    ({ outcome := .unavailable
       detail := text "the connection to worker " ++ connection.worker.shortHex
         ++ text " failed: " ++ queued.message },
      a.refuse.dropConnection connection.index (text "dispatch failed: " ++ queued.message)
        a.sinkHint now)

/-- `dispatch`. -/
def dispatch (request : DispatchRequest) (sending : Sending) (now : Timestamp) :
    DispatchResult × List SinkCall × ProcessAdapter :=
  let a := { a with dispatched := a.dispatched + 1 }
  if request.fence.attempt.isNil then
    ({ outcome := .fenced
       detail := text "the dispatch names no attempt, so there would be nothing to attribute evidence to" },
      [], a.refuse)
  else match a.pickWorker with
  | none =>
    ({ outcome := .unavailable
       detail := if a.available then text "every attached worker is at its capacity"
         else text "no attached worker has completed its hello handshake" }, [], a.refuse)
  | some i => a.dispatchTo i request.fence.attempt sending now

/-- `cancel`. -/
def cancel (fence : AttemptFence) (sending : Sending) : Status × ProcessAdapter :=
  let unowned := makeStatus .unavailable (text "no attached worker owns attempt "
    ++ fence.attempt.shortHex ++ text ", so it cannot be asked to stop")
  match a.attemptRoutes.lookup fence.attempt with
  | none => (unowned, a)
  | some i =>
    if a.connections.length ≤ i then (unowned, a)
    else
      let (sent, connection) := (a.connectionAt i).sendTo sending
      (sent, a.countFrame.setConnection i connection)

/-- `attach`, once the socket is known to be open; `prepared` is how its channel stands. -/
def attach (maxWorkers : Nat) (prepared : Status) (now : Timestamp) :
    Status × List SinkCall × ProcessAdapter :=
  if maxWorkers ≤ a.connections.length then
    (makeStatus .resourceExhausted (text "attach: the adapter already holds "
      ++ toStringNat a.connections.length ++ text " worker connection(s), at max_workers"), [], a)
  else
    let index := a.connections.length
    let b := { a with
      connections := a.connections ++ [{ index, failure := prepared, serial := a.attached }]
      attached := a.attached + 1 }
    if prepared.isOk then (.success, [], b)
    else (prepared, b.dropConnection index
      (text "the connection could not be prepared: " ++ prepared.message) a.sinkHint now)

/-- `close_all`: nobody is told of it. -/
def closeAll : ProcessAdapter := { a with
  connections := [], attemptRoutes := ∅, pendingReconciles := []
  reconnects := a.reconnects + (a.connections.countP Connection.helloReceived).toUInt64 }

end ProcessAdapter

end RolloutFabric
