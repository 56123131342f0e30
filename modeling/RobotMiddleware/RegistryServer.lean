import RobotMiddleware.ControlProtocol

/-! The registry server: its connections, the ResolveEndpoint requests that wait
for a subscriber, and the events that wait for the next heartbeat of a node. One
event of the poll loop is one step. What the system answers (`recv`, `send`, the
clock) is part of the event; `epoll_ctl` succeeds, and what a cleanup does to
shared memory and to socket files is left out. -/

namespace RobotMiddleware
open Std

/-- What has happened on a connection. The server does not keep this: a frame was
read off the input, the input was given up at a header that is not valid or at a
buffer that is too large, a response was queued for the error that the request
ended with, or a ResolveEndpoint request was taken off the table because its
publisher endpoint was gone. -/
inductive JournalEntry where
  | received (frame : ControlFrame)
  | malformed (requestId : UInt32)
  | answered (requestId : UInt32) (error : ErrorCode)
  | withdrawn (requestId : UInt32)
  deriving DecidableEq, Repr

structure ClientConnection where
  connectionId : UInt64
  input : Bytes := []
  output : Bytes := []
  outputOffset : Nat := 0
  closeAfterWrite : Bool := false
  journal : List JournalEntry := []
  deriving DecidableEq, Repr

structure PendingDiscovery where
  fd : Nat
  connectionId : UInt64
  nodeId : UInt64
  publisherEndpointId : UInt64
  requestId : UInt32
  deriving DecidableEq, Repr

structure RegistryServer where
  state : RegistryState
  nextConnectionId : UInt64 := 1
  clients : ExtTreeMap Nat ClientConnection := ∅
  pending : ExtTreeMap UInt64 PendingDiscovery := ∅
  peerEvents : ExtTreeMap UInt64 (List PeerEventRecord) := ∅

/-- What one `recv` of `readClient` returns. -/
inductive ReceiveResult where
  | bytes (chunk : Bytes)
  | endOfStream
  | interrupted
  | wouldBlock
  | failed
  deriving DecidableEq, Repr

/-- What one `send` of `writeClient` returns. `sent more` is that `more + 1` bytes
were taken, or all of them if they are fewer. -/
inductive SendResult where
  | sent (more : Nat)
  | interrupted
  | wouldBlock
  | failed
  deriving DecidableEq, Repr

def kMaxEventsPerNode : Nat := 1024

/-- The size of the buffer that `readClient` passes to `recv`. -/
def kReceiveBufferSize : Nat := 4096

def TransportType.value : TransportType → UInt16
  | .unixDomainSocket => 1
  | .sharedMemory => 2

def transportType (value : UInt16) : Option TransportType :=
  [.unixDomainSocket, .sharedMemory].find? fun transport : TransportType => transport.value == value

def LivenessState.value : LivenessState → UInt16
  | .alive => 1
  | .suspected => 2
  | .dead => 3

def PeerEventKind.value : PeerEventKind → UInt16
  | .publisherDead => 1
  | .subscriberDead => 2

def poolBody (pool : SharedPoolMetadata) : Bytes :=
  writeString pool.shmName ++ writeU64 pool.poolId ++ writeU64 pool.segmentSize ++ writeU16 pool.layoutVersion

def endpointBody (result : EndpointResult) : Bytes :=
  writeU64 result.topicId ++ writeU64 result.endpointId ++ poolBody result.pool

def subscriberBody (subscriber : DiscoveredSubscriber) : Bytes :=
  writeU64 subscriber.endpointId ++ writeString subscriber.dataSocketPath ++ writeU64 subscriber.maxMessageSize ++
    writeString subscriber.queue.shmName ++ writeU64 subscriber.queue.queueId ++ writeU64 subscriber.queue.segmentSize ++
    writeU32 subscriber.queue.capacity ++ writeU16 subscriber.queue.layoutVersion ++
    writeU16 subscriber.queue.overflowPolicy ++ writeU64 subscriber.queue.blockTimeoutMs

def discoveryBody (result : DiscoveryResult) : Bytes :=
  writeU64 result.topicId ++ writeU16 result.transport.value ++ poolBody result.pool ++
    writeU32 (UInt32.ofNat result.subscribers.length) ++ result.subscribers.flatMap subscriberBody

def eventBody (event : PeerEventRecord) : Bytes :=
  writeU16 event.kind.value ++ writeU64 event.targetEndpointId ++ writeU64 event.deadEndpointId ++
    writeU64 event.topicId ++ writeU64 event.resourceId

def heartbeatBody (liveness : LivenessState) (events : List PeerEventRecord) : Bytes :=
  writeU16 liveness.value ++ writeU32 (UInt32.ofNat events.length) ++ events.flatMap eventBody

namespace RegistryState

def listNodes (state : RegistryState) : List NodeRecord :=
  (state.nodes.toList.map Prod.snd).mergeSort fun left right => left.nodeName ≤ right.nodeName

def listTopics (state : RegistryState) : List TopicRecord :=
  (state.topics.toList.map Prod.snd).mergeSort fun left right => left.topicName ≤ right.topicName

def nodesBody (nodes : List NodeRecord) : Bytes :=
  writeU32 (UInt32.ofNat nodes.length) ++
    nodes.flatMap fun node => writeU64 node.nodeId ++ writeString node.nodeName ++ writeU16 node.liveness.value

def topicsBody (topics : List TopicRecord) : Bytes :=
  writeU32 (UInt32.ofNat topics.length) ++
    topics.flatMap fun topic => writeU64 topic.topicId ++ writeString topic.topicName

def topicBody (topic : TopicRecord) : Bytes :=
  writeU64 topic.topicId ++ writeString topic.topicName ++ writeString topic.typeName ++ writeString topic.typeHash ++
    writeU16 topic.transport.value ++ writeU64 topic.maxMessageSize ++
    writeU64 (if topic.publisherEndpoint.isSome then 1 else 0) ++
    writeU64 (UInt64.ofNat topic.subscriberEndpoints.size) ++ poolBody topic.pool

def statsBody (state : RegistryState) : Bytes :=
  writeU64 (UInt64.ofNat state.nodes.size) ++ writeU64 (UInt64.ofNat state.topics.size) ++
    writeU64 (UInt64.ofNat state.publishers.size) ++ writeU64 (UInt64.ofNat state.subscribers.size) ++
    writeU64 state.metrics.heartbeatReceived ++ writeU64 state.metrics.suspectedCount ++
    writeU64 state.metrics.deadNodeCount

/-- What `advertise` and `subscribe` answer to a transport without an enumerator:
`validTransport` is asked after the node. -/
def unknownTransport (state : RegistryState) (connection nodeId : UInt64) : EndpointResult × RegistryState :=
  ({ error := if (state.ownedNode connection nodeId).isNone then .notRegistered else .invalidArgument }, state)

/-- `advertise` with the transport as it is on the wire. -/
def advertiseTopic (state : RegistryState) (connection nodeId : UInt64) (topicName typeName typeHash : Bytes)
    (maxMessageSize : UInt64) (transport : UInt16) (pool : SharedPoolMetadata) :
    Except Exception (EndpointResult × RegistryState) :=
  match transportType transport with
  | none => .ok (state.unknownTransport connection nodeId)
  | some transport => state.advertise connection nodeId topicName typeName typeHash maxMessageSize transport pool

/-- `subscribe` with the transport as it is on the wire. -/
def subscribeTopic (state : RegistryState) (connection nodeId : UInt64) (topicName typeName typeHash : Bytes)
    (maxMessageSize : UInt64) (dataSocketPath : Bytes) (transport : UInt16) (queue : SharedQueueMetadata) :
    Except Exception (EndpointResult × RegistryState) :=
  match transportType transport with
  | none => .ok (state.unknownTransport connection nodeId)
  | some transport =>
    state.subscribe connection nodeId topicName typeName typeHash maxMessageSize dataSocketPath transport queue

end RegistryState

namespace RegistryServer

/-- The constructor, with the listener set up. -/
def create (liveness : LivenessConfig) : Except Exception RegistryServer :=
  return { state := ← RegistryState.create liveness }

/-- A store through a reference to a connection. -/
def setClient (server : RegistryServer) (fd : Nat) (client : ClientConnection) : RegistryServer :=
  { server with clients := server.clients.insert fd client }

/-- Change a connection if it is there. -/
def modifyClient (server : RegistryServer) (fd : Nat) (update : ClientConnection → ClientConnection) : RegistryServer :=
  match server.clients[fd]? with
  | none => server
  | some client => server.setClient fd (update client)

def note (entry : JournalEntry) (client : ClientConnection) : ClientConnection :=
  { client with journal := client.journal ++ [entry] }

def queueResponse (server : RegistryServer) (fd : Nat) (requestId : UInt32) (error : ErrorCode) (body : Bytes) :
    RegistryServer :=
  server.modifyClient fd fun client =>
    note (.answered requestId error) { client with output := client.output ++ responseFrame requestId error body }

def erasePending (server : RegistryServer) (endpointId : UInt64) : RegistryServer :=
  match server.pending[endpointId]? with
  | none => server
  | some request =>
    let erased := { server with pending := server.pending.erase endpointId }
    if server.state.publishers.contains endpointId then erased
    else erased.modifyClient request.fd (note (.withdrawn request.requestId))

/-- One pass of the loop of `completePending`. -/
def completeOne (server : RegistryServer) (endpointId : UInt64) (request : PendingDiscovery) :
    Except Exception RegistryServer := do
  let result ← server.state.resolve request.connectionId request.nodeId request.publisherEndpointId
  if result.error = .topicNotFound then pure server
  else
    let answered := server.queueResponse request.fd request.requestId result.error (discoveryBody result)
    pure { answered with pending := answered.pending.erase endpointId }

def completePending (server : RegistryServer) : Except Exception RegistryServer :=
  server.pending.toList.foldlM (fun server entry => server.completeOne entry.1 entry.2) server

def cleanupPending (server : RegistryServer) : RegistryServer :=
  server.pending.toList.foldl
    (fun server entry => if server.state.publishers.contains entry.1 then server else server.erasePending entry.1) server

/-- Add an event to the list of its target node, from which the oldest one goes
when it is full. -/
def addPeerEvent (server : RegistryServer) (event : PeerEventRecord) : RegistryServer :=
  if !server.state.nodes.contains event.targetNodeId then server
  else
    let events := (server.peerEvents[event.targetNodeId]?).getD []
    let kept := if events.length = kMaxEventsPerNode then events.tail else events
    { server with peerEvents := server.peerEvents.insert event.targetNodeId (kept ++ [event]) }

def applyCleanup (server : RegistryServer) (cleanup : DeadNodeCleanup) : RegistryServer :=
  let server := cleanup.peerEvents.foldl addPeerEvent server
  cleanupPending { server with peerEvents := server.peerEvents.erase cleanup.nodeId }

def fdForConnection (server : RegistryServer) (connectionId : UInt64) : Option Nat :=
  (server.clients.toList.find? fun entry => entry.2.connectionId == connectionId).map Prod.fst

/-- `removeClient` with `cleanup_state` false. -/
def dropClient (server : RegistryServer) (fd : Nat) : RegistryServer :=
  if server.clients.contains fd then
    { server with
      pending := server.pending.filter fun _ request => request.fd != fd
      clients := server.clients.erase fd }
  else server

/-- One of the two connections that `closeCleanupConnections` closes. -/
def closeConnection (exceptFd : Option Nat) (server : RegistryServer) (connectionId : UInt64) : RegistryServer :=
  if connectionId = 0 then server
  else
    match server.fdForConnection connectionId with
    | none => server
    | some fd => if some fd = exceptFd then server else server.dropClient fd

def closeCleanupConnections (server : RegistryServer) (cleanup : DeadNodeCleanup) (exceptFd : Option Nat) :
    RegistryServer :=
  [cleanup.controlConnection, cleanup.heartbeatConnection].foldl (closeConnection exceptFd) server

def applyCleanups (server : RegistryServer) (cleanups : List DeadNodeCleanup) (exceptFd : Option Nat) : RegistryServer :=
  cleanups.foldl (fun server cleanup => (server.applyCleanup cleanup).closeCleanupConnections cleanup exceptFd) server

def removeClient (server : RegistryServer) (fd : Nat) : Except Exception RegistryServer :=
  match server.clients[fd]? with
  | none => .ok server
  | some client => do
    let server := server.dropClient fd
    let (cleanups, state) ← server.state.disconnectConnection client.connectionId
    pure (applyCleanups { server with state } cleanups (some fd))

def expireDeadNodes (server : RegistryServer) (now : Int) : Except Exception RegistryServer := do
  let (update, state) ← server.state.evaluateLiveness now
  pure (applyCleanups { server with state } update.deadNodes none)

/-- The events of a heartbeat response, which are taken out of the table. -/
def takePeerEvents (server : RegistryServer) (nodeId : UInt64) : List PeerEventRecord × RegistryServer :=
  ((server.peerEvents[nodeId]?).getD [], { server with peerEvents := server.peerEvents.erase nodeId })

/-- `dispatch` once the payload is decoded. -/
def perform (server : RegistryServer) (fd : Nat) (connection : UInt64) (requestId : UInt32) (now : Int) :
    Request → Except Exception RegistryServer
  | .registerNode nodeName =>
    let (result, state) := server.state.registerNode connection nodeName now
    .ok (queueResponse { server with state } fd requestId result.error (writeU64 result.id ++ writeU64 result.sessionId))
  | .unregisterNode nodeId => do
    let (error, state) ← server.state.unregisterNode connection nodeId
    let peerEvents := if error = ErrorCode.ok then server.peerEvents.erase nodeId else server.peerEvents
    pure ((cleanupPending { server with state, peerEvents }).queueResponse fd requestId error [])
  | .advertiseTopic nodeId topicName typeName typeHash maxMessageSize transport pool =>
    if maxMessageSize > uint32Max then .ok (server.queueResponse fd requestId .invalidArgument [])
    else do
      let (result, state) ←
        server.state.advertiseTopic connection nodeId topicName typeName typeHash maxMessageSize transport pool
      pure (queueResponse { server with state } fd requestId result.error (endpointBody result))
  | .unadvertiseTopic nodeId endpointId => do
    let (error, state) ← server.state.unadvertise connection nodeId endpointId
    pure ((erasePending { server with state } endpointId).queueResponse fd requestId error [])
  | .subscribeTopic nodeId topicName typeName typeHash maxMessageSize dataSocketPath transport queue =>
    if maxMessageSize > uint32Max then .ok (server.queueResponse fd requestId .invalidArgument [])
    else do
      let (result, state) ← server.state.subscribeTopic connection nodeId topicName typeName typeHash maxMessageSize
        dataSocketPath transport queue
      let server := queueResponse { server with state } fd requestId result.error (endpointBody result)
      if result.error = .ok then server.completePending else pure server
  | .unsubscribeTopic nodeId endpointId => do
    let (error, state) ← server.state.unsubscribe connection nodeId endpointId
    pure (queueResponse { server with state } fd requestId error [])
  | .resolveEndpoint nodeId endpointId => do
    let result ← server.state.resolve connection nodeId endpointId
    if result.error = .topicNotFound then
      pure { server with pending := server.pending.insert endpointId ⟨fd, connection, nodeId, endpointId, requestId⟩ }
    else pure (server.queueResponse fd requestId result.error (discoveryBody result))
  | .listNodes => .ok (server.queueResponse fd requestId .ok (RegistryState.nodesBody server.state.listNodes))
  | .listTopics => .ok (server.queueResponse fd requestId .ok (RegistryState.topicsBody server.state.listTopics))
  | .queryTopic topicName => do
    match ← server.state.queryTopic topicName with
    | none => pure (server.queueResponse fd requestId .topicNotFound [])
    | some topic => pure (server.queueResponse fd requestId .ok (RegistryState.topicBody topic))
  | .queryStats => .ok (server.queueResponse fd requestId .ok server.state.statsBody)
  | .attachHeartbeat nodeId sessionId =>
    let (error, state) := server.state.attachHeartbeat connection nodeId sessionId
    .ok (queueResponse { server with state } fd requestId error [])
  | .heartbeat nodeId sessionId =>
    let (result, state) := server.state.heartbeat connection nodeId sessionId now
    let (events, server) :=
      if result.error = .ok then takePeerEvents { server with state } nodeId else ([], { server with state })
    .ok (server.queueResponse fd requestId result.error (heartbeatBody result.state events))

/-- One complete frame: the rest of an iteration of `parseFrames`. -/
def handleFrame (server : RegistryServer) (fd : Nat) (connection : UInt64) (frame : ControlFrame) (now : Int) :
    Except Exception RegistryServer :=
  match requestOpcode frame.header.opcode with
  | none => .ok (server.queueResponse fd frame.header.requestId .unknownOpcode [])
  | some opcode =>
    match decodeRequest opcode frame.payload with
    | none => .ok (server.queueResponse fd frame.header.requestId .invalidControlMessage [])
    | some request => server.perform fd connection frame.header.requestId now request

/-- What stands at the front of the input. -/
inductive Front where
  | incomplete
  | invalid (requestId : UInt32) (error : ErrorCode)
  | frame (frame : ControlFrame) (rest : Bytes)
  deriving DecidableEq, Repr

def front (input : Bytes) : Front :=
  if input.length < kControlHeaderSize then .incomplete
  else
    match decodeControlHeader (input.take kControlHeaderSize) with
    | none => .invalid 0 .invalidControlMessage
    | some header =>
      match validateControlHeader header with
      | .badMagic => .invalid header.requestId .invalidControlMessage
      | .unsupportedVersion => .invalid header.requestId .unsupportedProtocolVersion
      | .payloadTooLarge => .invalid header.requestId .messageTooLarge
      | .valid =>
        let rest := input.drop kControlHeaderSize
        if rest.length < header.payloadSize.toNat then .incomplete
        else .frame ⟨header, rest.take header.payloadSize.toNat⟩ (rest.drop header.payloadSize.toNat)

def refuseInput (server : RegistryServer) (fd : Nat) (requestId : UInt32) (error : ErrorCode) : RegistryServer :=
  (server.queueResponse fd requestId error []).modifyClient fd fun client =>
    note (.malformed requestId) { client with closeAfterWrite := true, input := [] }

/-- `parseFrames`; every frame takes bytes off the input, so as many passes as
there are bytes are enough. -/
def parseFrames (fd : Nat) (now : Int) : Nat → RegistryServer → Except Exception RegistryServer
  | 0, server => .ok server
  | passes + 1, server =>
    match server.clients[fd]? with
    | none => .ok server
    | some client =>
      match front client.input with
      | .incomplete => .ok server
      | .invalid requestId error => .ok (server.refuseInput fd requestId error)
      | .frame frame rest => do
        let taken := server.setClient fd (note (.received frame) { client with input := rest })
        let handled ← taken.handleFrame fd client.connectionId frame now
        parseFrames fd now passes handled

/-- `readClient` with the results of its `recv`s; a `recv` after the last of them
would block. -/
def readClient (fd : Nat) (now : Int) : List ReceiveResult → RegistryServer → Except Exception RegistryServer
  | [], server => .ok server
  | result :: results, server =>
    match server.clients[fd]? with
    | none => .ok server
    | some client =>
      match result with
      | .bytes chunk => do
        let input := client.input ++ chunk
        let buffered := server.setClient fd { client with input }
        if input.length > kControlHeaderSize + kMaxControlPayloadSize then
          pure (buffered.refuseInput fd 0 .messageTooLarge)
        else
          let parsed ← parseFrames fd now input.length buffered
          match parsed.clients[fd]? with
          | none => pure parsed
          | some client => if client.closeAfterWrite then pure parsed else readClient fd now results parsed
      | .endOfStream =>
        if client.outputOffset < client.output.length then
          .ok (server.setClient fd { client with closeAfterWrite := true })
        else server.removeClient fd
      | .interrupted => readClient fd now results server
      | .wouldBlock => .ok server
      | .failed => server.removeClient fd

/-- The end of `writeClient`, when everything is sent. -/
def finishWrite (server : RegistryServer) (fd : Nat) (client : ClientConnection) : Except Exception RegistryServer :=
  let written := server.setClient fd { client with output := [], outputOffset := 0 }
  if client.closeAfterWrite then written.removeClient fd else .ok written

/-- `writeClient` with the results of its `send`s; a `send` after the last of them
would block. -/
def writeClient (fd : Nat) : List SendResult → RegistryServer → Except Exception RegistryServer
  | results, server =>
    match server.clients[fd]? with
    | none => .ok server
    | some client =>
      if client.output.length ≤ client.outputOffset then server.finishWrite fd client
      else
        match results with
        | [] => .ok server
        | .sent more :: results =>
          writeClient fd results (server.setClient fd
            { client with outputOffset := min (client.outputOffset + more + 1) client.output.length })
        | .interrupted :: results => writeClient fd results server
        | .wouldBlock :: _ => .ok server
        | .failed :: _ => server.removeClient fd

/-- One iteration of `acceptConnections`. -/
def acceptConnection (server : RegistryServer) (fd : Nat) : RegistryServer :=
  { server with
    nextConnectionId := server.nextConnectionId + 1
    clients := server.clients.insert fd { connectionId := server.nextConnectionId } }

/-- The body of the loop of `pollOnce` for a client. `input` and `output` are there
when the event says that the connection is readable or writable. -/
def handleEvent (server : RegistryServer) (fd : Nat) (input : Option (List ReceiveResult))
    (output : Option (List SendResult)) (hangUp : Bool) (now : Int) : Except Exception RegistryServer := do
  let server ← input.elim (.ok server) fun results => readClient fd now results server
  let server ← output.elim (.ok server) fun results => writeClient fd results server
  if hangUp && input.isNone then server.removeClient fd else pure server

end RegistryServer

/-- One event of the poll loop: the listener has a connection, a client is ready,
or the loop is through its events and looks for dead nodes. -/
inductive ServerEvent where
  | accept (fd : Nat)
  | ready (fd : Nat) (input : Option (List ReceiveResult)) (output : Option (List SendResult)) (hangUp : Bool) (now : Int)
  | expire (now : Int)

/-- A `recv` returns at least one byte and at most as many as its buffer holds. -/
def ReceiveResult.possible : ReceiveResult → Bool
  | .bytes chunk => !chunk.isEmpty && chunk.length ≤ kReceiveBufferSize
  | _ => true

namespace RegistryServer

/-- A request that throws ends the server, so there is no state after it. -/
def step (server : RegistryServer) : ServerEvent → Option RegistryServer
  | .accept fd => if server.clients.contains fd then none else some (server.acceptConnection fd)
  | .ready fd input output hangUp now =>
    if (input.getD []).all (·.possible) then (server.handleEvent fd input output hangUp now).toOption else none
  | .expire now => (server.expireDeadNodes now).toOption

end RegistryServer
end RobotMiddleware
