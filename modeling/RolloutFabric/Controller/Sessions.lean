/-
The control connections of a controller, each with the client at its other end: a request is sent,
executed and answered over two framed channels.
-/
import RolloutFabric.Adapter.Workers
import RolloutFabric.Controller.Commands
import RolloutFabric.Protocol.Link

namespace RolloutFabric

variable {ρ : Type}

def makeFrame (type : MessageType) (sequence : UInt64) (body : Bytes) : Frame :=
  { type, sequence, body }

/-! ## Flushing a channel -/

/-- What `flush_out` finds when it waits for the socket: it takes more, the wait fails, or the
socket reports an error. -/
inductive Wait
  | writable (sents : List Sent)
  | failed (status : Status)
  | broken

/-- What the socket gives a `pump_in`. -/
inductive Reading
  | bytes (count : Nat)
  | lost (status : Status)

namespace Link

def receive (l : Link) (s : Side) : Reading → Link
  | .bytes count => l.step (.pumpIn s count)
  | .lost status => l.step (.lose s status)

/-- The loop of `flush_out`; when no wait is left the time is up. -/
def flushLoop (s : Side) (l : Link) (sents : List Sent) (waits : List Wait) : Status × Link :=
  let drained := ((l.ends s).pumpOut sents).2.2
  let l := l.step (.pumpOut s sents)
  if drained then (.success, l)
  else if !(l.ends s).failure.isOk then ((l.ends s).failure, l)
  else match waits with
  | [] => (makeStatus .deadlineExceeded (text "flush_out timed out with "
      ++ toStringNat (l.ends s).outbound.length ++ text " frame(s) still queued"), l)
  | .failed status :: _ => (status, l)
  | .broken :: _ =>
    let l := l.step (.lose s (makeStatus .unavailable
      (text "flush_out: the socket reported an error while waiting to write")))
    ((l.ends s).failure, l)
  | .writable sents :: rest => flushLoop s l sents rest

def flushOut (s : Side) (l : Link) (sents : List Sent) (waits : List Wait) : Status × Link :=
  if !(l.ends s).failure.isOk then ((l.ends s).failure, l)
  else if (l.ends s).closed || !(l.ends s).socketValid then
    (makeStatus .unavailable (text "flush_out: the channel is closed"), l)
  else l.flushLoop s sents waits

end Link

/-! ## Connections -/

/-- Where `ControlClient::send` is. -/
inductive SendPhase
  | idle
  | flushing (request : CommandRequestMessage)
  | awaiting (request : CommandRequestMessage)

structure ControlClient where
  connected : Bool := true
  sequence : UInt64 := 0
  phase : SendPhase := .idle

/-- A connection from a client, on the left, to a controller: `held` while the controller has it
among its `control_clients`. As a record, the requests that were queued with their sequences, what
`send` returned, and the request that was executed with the controller as it was then. -/
structure ControlSession (ρ : Type) where
  limits : Side → RuntimeLimits
  link : Link
  acceptedAt : Timestamp
  held : Bool := true
  client : ControlClient := {}
  sent : List (UInt64 × CommandRequestMessage) := []
  answers : List (CommandRequestMessage × Result CommandResponseMessage) := []
  execution : Option (CommandRequestMessage × Controller ρ) := none

/-! ## The controller's end -/

/-- What the sockets and the clock answer while a session has its turn. -/
structure SessionTurn where
  written : List Sent := []
  read : Reading := .bytes 0
  now : Timestamp := {}
  flushed : List Sent := []
  waits : List Wait := []

section Serving

variable (e : ControllerEnv ρ)

/-- An answer is queued only when its body fits a frame. -/
def reply (type : MessageType) (body : Bytes) : Option Frame :=
  if body.length ≤ e.env.limits.maxFrameBytes.toNat then some (makeFrame type 1 body) else none

/-- `queue_error`. -/
def replyError (status : Status) : Option Frame :=
  reply e .error (ErrorMessage.encode { code := status.code, detail := status.message })

/-- The request a frame carries, if it carries one that can be read. -/
def Frame.request? (frame : Frame) : Option CommandRequestMessage :=
  if frame.type = .commandRequest then (decodeCommandRequest frame.body e.env.limits).toOption
  else none

/-- What the first frame of a connection is answered with. -/
def answerFrame (frame : Frame) (c : Controller ρ) : Option Frame × Controller ρ :=
  if frame.type = .commandRequest then
    match decodeCommandRequest frame.body e.env.limits with
    | .error status => (replyError e status, c)
    | .ok request =>
      let (answer, c) := executeCommand e request c
      (reply e .commandResponse answer.encode, c)
  else (replyError e (makeStatus .invalidArgument
    (text "a control connection carries exactly one command request")), c)

/-- The turn of a session in `serve_control_clients`. -/
def ControlSession.serve (conn : ControlSession ρ) (t : SessionTurn) (c : Controller ρ) :
    ControlSession ρ × Controller ρ :=
  if !conn.held then (conn, c)
  else if (conn.link.ends .right).closed || !(conn.link.ends .right).failure.isOk then
    ({ conn with held := false }, c)
  else
    let l := conn.link.step (.pumpOut .right t.written)
    if !(l.ends .right).failure.isOk then ({ conn with link := l, held := false }, c)
    else
      let l := l.receive .right t.read
      if !(l.ends .right).failure.isOk then ({ conn with link := l, held := false }, c)
      else
        let frames := (l.ends .right).inbound
        let l := l.step (.takeInbound .right)
        match frames with
        | [] =>
          let idleTimeout := Duration.fromMillis
            (Int64.ofNat e.env.limits.connectionIdleTimeoutMillis.toNat)
          if idleTimeout.nanos < (t.now.since conn.acceptedAt).nanos then
            ({ conn with link := l.step (.close .right), held := false }, c)
          else ({ conn with link := l }, c)
        | frame :: _ =>
          let (answer, c') := answerFrame e frame c
          let l := match answer with
            | some frame => l.step (.queue .right frame)
            | none => l
          let (_, l) := l.flushOut .right t.flushed t.waits
          ({ conn with
              link := l.step (.close .right)
              held := false
              execution := (frame.request? e).map fun request => (request, c) }, c')

end Serving

/-! ## The client's end -/

/-- What `send` returns for the first frame it is given. -/
def Frame.answer (frame : Frame) (limits : RuntimeLimits) : Result CommandResponseMessage :=
  if frame.type = .commandResponse then decodeCommandResponse frame.body limits
  else if frame.type = .error then
    match decodeError frame.body limits with
    | .error status => .error status
    | .ok error => .error (makeStatus error.code error.detail)
  else .error (makeStatus .corrupt (text "the controller sent " ++ frame.type.toText
    ++ text " in answer to a command request"))

/-- What a client does: it calls `send` or `close`, or goes on in `send` with what its socket and its
clock answer. -/
inductive ClientMove
  | send (request : CommandRequestMessage)
  | flush (sents : List Sent)
  | flushFailed (status : Status)
  | flushBroken
  | await (read : Reading)
  | awaitFailed (status : Status)
  | close (sents : List Sent) (waits : List Wait)

namespace ControlSession

variable (conn : ControlSession ρ)

/-- `send` returns. -/
def finish (request : CommandRequestMessage) (result : Result CommandResponseMessage) :
    ControlSession ρ :=
  { conn with
    client := { conn.client with phase := .idle }
    answers := conn.answers ++ [(request, result)] }

/-- `send`, up to the first round of its `flush_out`. -/
def send (request : CommandRequestMessage) : ControlSession ρ :=
  let channel := conn.link.ends .left
  if !conn.client.connected then
    conn.finish request (.error (makeStatus .unavailable
      (text "the control client is not connected")))
  else if channel.closed || !channel.failure.isOk then
    conn.finish request (.error (makeStatus .unavailable
      (text "the control connection is closed")))
  else if (conn.limits .left).maxFrameBytes.toNat < request.encode.length then
    conn.finish request (.error (makeStatus .limitExceeded
      (text "the encoded command is larger than max_frame_bytes")))
  else
    let sequence := conn.client.sequence + 1
    let frame := makeFrame .commandRequest sequence request.encode
    let (queued, _) := channel.queue frame
    let conn := { conn with
      link := conn.link.step (.queue .left frame)
      client := { conn.client with sequence } }
    if !queued.isOk then conn.finish request (.error queued)
    else { conn with
      client := { conn.client with phase := .flushing request }
      sent := conn.sent ++ [(sequence, request)] }

/-- A round of the `flush_out` of `send`. -/
def flush (request : CommandRequestMessage) (sents : List Sent) : ControlSession ρ :=
  let drained := ((conn.link.ends .left).pumpOut sents).2.2
  let conn := { conn with link := conn.link.step (.pumpOut .left sents) }
  if drained then { conn with client := { conn.client with phase := .awaiting request } }
  else if !(conn.link.ends .left).failure.isOk then
    conn.finish request (.error (conn.link.ends .left).failure)
  else conn

/-- A round of the loop that waits for the answer. -/
def await (request : CommandRequestMessage) (read : Reading) : ControlSession ρ :=
  let l := conn.link.receive .left read
  if !(l.ends .left).failure.isOk then
    { conn with link := l }.finish request (.error (l.ends .left).failure)
  else
    let frames := (l.ends .left).inbound
    let conn := { conn with link := l.step (.takeInbound .left) }
    match frames with
    | [] => conn
    | frame :: _ => conn.finish request (frame.answer (conn.limits .left))

def move (m : ClientMove) : ControlSession ρ :=
  match m, conn.client.phase with
  | .send request, .idle => conn.send request
  | .flush sents, .flushing request => conn.flush request sents
  | .flushFailed status, .flushing request => conn.finish request (.error status)
  | .flushBroken, .flushing request =>
    let l := conn.link.step (.lose .left (makeStatus .unavailable
      (text "flush_out: the socket reported an error while waiting to write")))
    { conn with link := l }.finish request (.error (l.ends .left).failure)
  | .await read, .awaiting request => conn.await request read
  | .awaitFailed status, .awaiting request => conn.finish request (.error status)
  | .close sents waits, .idle =>
    let (_, l) := conn.link.flushOut .left sents waits
    { conn with link := l.step (.close .left), client := { conn.client with connected := false } }
  | _, _ => conn

end ControlSession

/-! ## The reactor -/

/-- What drives an orchestrator: an input, or its adapters move by themselves, as when the controller
polls them. -/
inductive Drive (ρ : Type)
  | input (i : Input)
  | outside (x : ρ)

namespace Orchestrator

def drive (env : Env ρ) (o : Orchestrator ρ) : Drive ρ → Orchestrator ρ
  | .input i => o.step env i
  | .outside x => { o with impl := { o.impl with outside := x } }

def driven (o : Orchestrator ρ) (env : Env ρ) (drives : List (Drive ρ)) : Orchestrator ρ :=
  drives.foldl (drive env) o

end Orchestrator

def kMaxControlConnections : Nat := 64

/-- A controller with every connection that was ever made to it, in the order it was accepted. -/
structure Daemon (ρ : Type) where
  controller : Controller ρ
  connections : List (ControlSession ρ) := []

/-- What can happen to a controller: a client connects, a client does something, a connection is
lost, the sessions are served, or the rest of a step drives the orchestrator. -/
inductive Happening (ρ : Type)
  | connect (limits : RuntimeLimits) (now : Timestamp) (sents : List Sent) (waits : List Wait)
  | client (k : Nat) (m : ClientMove)
  | lose (k : Nat) (s : Side) (status : Status)
  | serve (turns : Nat → SessionTurn)
  | drive (x : Drive ρ)

namespace Daemon

variable (e : ControllerEnv ρ)

/-- `control_clients.size()`. -/
def controlClients (d : Daemon ρ) : Nat := d.connections.countP ControlSession.held

def maxControlClients : Nat :=
  min kMaxControlConnections e.env.limits.maxConnections.toNat

/-- One turn of the loop of `accept_control_connections`: above the bound a connection is told so and
closed. -/
def accept (d : Daemon ρ) (limits : RuntimeLimits) (now : Timestamp) (sents : List Sent)
    (waits : List Wait) : ControlSession ρ :=
  let limits : Side → RuntimeLimits := fun
    | .left => limits
    | .right => e.env.limits
  let l := Link.fresh limits
  if maxControlClients e ≤ d.controlClients then
    let error : ErrorMessage := {
      code := .resourceExhausted
      detail := text "the controller is already serving its maximum number of control clients" }
    let l := l.step (.queue .right (makeFrame .error 1 error.encode))
    let (_, l) := l.flushOut .right sents waits
    { limits, link := l.step (.close .right), acceptedAt := now, held := false }
  else { limits, link := l, acceptedAt := now }

/-- `serve_control_clients`, over the connections from the `k`-th. -/
def serveFrom (turns : Nat → SessionTurn) :
    Nat → List (ControlSession ρ) → Controller ρ → List (ControlSession ρ) × Controller ρ
  | _, [], c => ([], c)
  | k, conn :: rest, c =>
    let (conn, c) := conn.serve e (turns k) c
    let (rest, c) := serveFrom turns (k + 1) rest c
    (conn :: rest, c)

def step (d : Daemon ρ) : Happening ρ → Daemon ρ
  | .connect limits now sents waits =>
    { d with connections := d.connections ++ [d.accept e limits now sents waits] }
  | .client k m => { d with connections := d.connections.modify k fun conn => conn.move m }
  | .lose k s status => { d with
      connections := d.connections.modify k fun conn =>
        { conn with link := conn.link.step (.lose s status) } }
  | .serve turns =>
    let (connections, controller) := serveFrom e turns 0 d.connections d.controller
    { connections, controller }
  | .drive x => { d with
      controller := { d.controller with orchestrator := d.controller.orchestrator.drive e.env x } }

def run (d : Daemon ρ) (happenings : List (Happening ρ)) : Daemon ρ := happenings.foldl (step e) d

end Daemon

end RolloutFabric
