import RobotMiddleware.RegistryClient
import RobotMiddleware.ServerActions

/-! How a node is told about dead peers. The registry keeps the events until the
node's next heartbeat, whose response carries them all. The session's heartbeat
thread adds them to its own list, and the endpoints of the node take theirs from
there. -/

namespace RobotMiddleware
open RegistryClient (PeerEvent)

def kMaxPendingPeerEvents : Nat := 4096

/-- `RegistrySession` without its control connection: `nextRequestId` is that of
`heartbeat_client_`, and `looping` is whether `heartbeatLoop` still runs. -/
structure RegistrySession where
  nodeId : UInt64
  sessionId : UInt64
  nextRequestId : UInt32 := 1
  looping : Bool := true
  peerEvents : List PeerEvent := []
  deriving DecidableEq, Repr

namespace RegistrySession

/-- What `heartbeatLoop` takes for the same event. -/
def duplicate (event existing : PeerEvent) : Bool :=
  existing.kind == event.kind && existing.targetEndpointId == event.targetEndpointId &&
    existing.deadEndpointId == event.deadEndpointId

/-- One pass of the loop over the events of a response. -/
def addPeerEvent (events : List PeerEvent) (event : PeerEvent) : List PeerEvent :=
  if events.any (duplicate event) then events
  else (if events.length = kMaxPendingPeerEvents then events.tail else events) ++ [event]

/-- The events of a heartbeat response. `heartbeat` throws when there are none to
be read. -/
def heartbeatEvents (requestId : UInt32) (response : ControlFrame) : Option (List PeerEvent) :=
  match RegistryClient.finish requestId response with
  | .returned body => ((RegistryClient.decodeBody RegistryClient.readHeartbeat body).toOption).map (·.events)
  | _ => none

/-- The rest of a pass of `heartbeatLoop` once there is a response. An exception ends
the loop. -/
def receiveHeartbeat (session : RegistrySession) (requestId : UInt32) (response : ControlFrame) : RegistrySession :=
  match heartbeatEvents requestId response with
  | none => { session with looping := false }
  | some events => { session with peerEvents := events.foldl addPeerEvent session.peerEvents }

def takePeerEvents (session : RegistrySession) (targetEndpointId : UInt64) : List PeerEvent × RegistrySession :=
  (session.peerEvents.filter fun event => event.targetEndpointId == targetEndpointId,
    { session with peerEvents := session.peerEvents.filter fun event => event.targetEndpointId != targetEndpointId })

def heartbeatFrame (session : RegistrySession) : ControlFrame :=
  controlFrame Opcode.heartbeat.value session.nextRequestId (Request.heartbeat session.nodeId session.sessionId).payload

end RegistrySession

/-- The plans that the server applies in an action. -/
def RegistryServer.cleanupsOf (server : RegistryServer) : ServerAction → List DeadNodeCleanup
  | .remove fd =>
    match server.clients[fd]? with
    | none => []
    | some client => ((server.state.disconnectConnection client.connectionId).toOption.map Prod.fst).getD []
  | .expire now => ((server.state.evaluateLiveness now).toOption.map (·.1.deadNodes)).getD []
  | _ => []

/-- The events that it queues for a node that is there. -/
def RegistryServer.eventsFor (server : RegistryServer) (action : ServerAction) (nodeId : UInt64) : List PeerEventRecord :=
  ((server.cleanupsOf action).flatMap (·.peerEvents)).filter fun event => event.targetNodeId == nodeId

/-- The registry and one session. `awaited` is the heartbeat that has no response yet,
with the bytes on their way to it. `queued` and `returned` record what has been
queued for the node so far, and what `takePeerEvents` has returned to which endpoint. -/
structure SessionSystem where
  server : RegistryServer
  session : RegistrySession
  awaited : Option (UInt32 × Bytes) := none
  queued : List PeerEventRecord := []
  returned : List (UInt64 × PeerEvent) := []

inductive SessionEvent where
  | server (action : ServerAction)
  | heartbeat (fd : Nat) (now : Int)
  | response (answers : List ReadAnswer)
  | take (targetEndpointId : UInt64)
  deriving DecidableEq, Repr

namespace SessionSystem

/-- The bytes that a connection has been sent by an action. -/
def sentTo (fd : Nat) (before after : RegistryServer) : Option Bytes := do
  let old ← before.clients[fd]?
  let new ← after.clients[fd]?
  return new.output.drop old.output.length

/-- A heartbeat of the session reaches the server on a connection. The thread sends the
next one only when it has the response to this one. -/
def sendHeartbeat (system : SessionSystem) (fd : Nat) (now : Int) : Option SessionSystem :=
  if !system.session.looping || system.awaited.isSome then none
  else if system.session.nextRequestId = 0 then
    some { system with session := { system.session with looping := false } }
  else do
    let server ← system.server.act (.request fd system.session.heartbeatFrame now)
    let bytes ← sentTo fd system.server server
    return { system with
      server
      session := { system.session with nextRequestId := system.session.nextRequestId + 1 }
      awaited := some (system.session.nextRequestId, bytes) }

/-- The response arrives as a whole, in whatever pieces. -/
def receiveResponse (system : SessionSystem) (answers : List ReadAnswer) : Option SessionSystem := do
  let (requestId, bytes) ← system.awaited
  match RegistryClient.receiveFrame (-1) answers ⟨bytes, 0⟩ with
  | some (.ok frame, [], _) =>
    return { system with session := system.session.receiveHeartbeat requestId frame, awaited := none }
  | _ => none

def step (system : SessionSystem) : SessionEvent → Option SessionSystem
  | .server action =>
    (system.server.act action).map fun server =>
      { system with
        server
        queued := system.queued ++ system.server.eventsFor action system.session.nodeId }
  | .heartbeat fd now => system.sendHeartbeat fd now
  | .response answers => system.receiveResponse answers
  | .take targetEndpointId =>
    let (events, session) := system.session.takePeerEvents targetEndpointId
    some { system with session, returned := system.returned ++ events.map fun event => (targetEndpointId, event) }

end SessionSystem
end RobotMiddleware
