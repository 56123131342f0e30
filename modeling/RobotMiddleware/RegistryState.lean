import Std.Data.ExtTreeMap
import Std.Data.ExtTreeSet
import RobotMiddleware.PoolLayout

/-! The registry's tables of nodes, topics and endpoints. A `std::map` is an
ordered finite map, `map::at` of a missing key throws `out_of_range`, and a call
returns its result with the tables after it. Times are nanoseconds. -/

namespace RobotMiddleware
open Std

inductive LivenessState where
  | alive | suspected | dead
  deriving DecidableEq, Repr

/-- In milliseconds, which are counts of 64 bits. -/
structure LivenessConfig where
  heartbeatInterval : Int64 := 250
  suspectTimeout : Int64 := 750
  deadTimeout : Int64 := 1500
  deriving DecidableEq, Repr

def validLivenessConfig (config : LivenessConfig) : Bool :=
  0 < config.heartbeatInterval && config.heartbeatInterval < config.suspectTimeout &&
    config.suspectTimeout < config.deadTimeout

structure NodeRecord where
  nodeId : UInt64
  sessionId : UInt64
  nodeName : Bytes
  controlConnection : UInt64
  heartbeatConnection : UInt64 := 0
  liveness : LivenessState := .alive
  lastSeen : Int
  publisherEndpoints : ExtTreeSet UInt64 := ∅
  subscriberEndpoints : ExtTreeSet UInt64 := ∅

structure SharedPoolMetadata where
  shmName : Bytes := []
  poolId : UInt64 := 0
  segmentSize : UInt64 := 0
  layoutVersion : UInt16 := 0
  deriving DecidableEq, Repr

structure SharedQueueMetadata where
  shmName : Bytes := []
  queueId : UInt64 := 0
  segmentSize : UInt64 := 0
  capacity : UInt32 := 0
  layoutVersion : UInt16 := 0
  overflowPolicy : UInt16 := 0
  blockTimeoutMs : UInt64 := 0
  deriving DecidableEq, Repr

structure TopicRecord where
  topicId : UInt64
  topicName : Bytes
  typeName : Bytes
  typeHash : Bytes
  transport : TransportType
  maxMessageSize : UInt64
  publisherEndpoint : Option UInt64 := none
  subscriberEndpoints : ExtTreeSet UInt64 := ∅
  pool : SharedPoolMetadata := {}

structure PublisherEndpoint where
  endpointId : UInt64
  nodeId : UInt64
  topicId : UInt64
  maxMessageSize : UInt64
  transport : TransportType
  pool : SharedPoolMetadata
  deriving DecidableEq, Repr

structure SubscriberEndpoint where
  endpointId : UInt64
  nodeId : UInt64
  topicId : UInt64
  dataSocketPath : Bytes
  maxMessageSize : UInt64
  transport : TransportType
  queue : SharedQueueMetadata
  deriving DecidableEq, Repr

structure IdResult where
  error : ErrorCode := .ok
  id : UInt64 := 0
  sessionId : UInt64 := 0
  deriving DecidableEq, Repr

structure HeartbeatResult where
  error : ErrorCode := .ok
  state : LivenessState := .alive
  deriving DecidableEq, Repr

inductive PeerEventKind where
  | publisherDead | subscriberDead
  deriving DecidableEq, Repr

structure PeerEventRecord where
  kind : PeerEventKind
  targetNodeId : UInt64
  targetEndpointId : UInt64
  deadEndpointId : UInt64
  topicId : UInt64
  resourceId : UInt64
  deriving DecidableEq, Repr

structure DeadNodeCleanup where
  nodeId : UInt64
  sessionId : UInt64
  controlConnection : UInt64
  heartbeatConnection : UInt64
  pools : List SharedPoolMetadata := []
  queues : List SharedQueueMetadata := []
  socketPaths : List Bytes := []
  peerEvents : List PeerEventRecord := []
  deriving DecidableEq, Repr

structure LivenessUpdate where
  suspectedNodes : List UInt64
  deadNodes : List DeadNodeCleanup
  deriving DecidableEq, Repr

structure RegistryMetrics where
  heartbeatReceived : UInt64 := 0
  suspectedCount : UInt64 := 0
  deadNodeCount : UInt64 := 0
  deriving DecidableEq, Repr

structure EndpointResult where
  error : ErrorCode := .ok
  topicId : UInt64 := 0
  endpointId : UInt64 := 0
  pool : SharedPoolMetadata := {}
  deriving DecidableEq, Repr

structure DiscoveredSubscriber where
  endpointId : UInt64
  dataSocketPath : Bytes
  maxMessageSize : UInt64
  queue : SharedQueueMetadata
  deriving DecidableEq, Repr

structure DiscoveryResult where
  error : ErrorCode := .ok
  topicId : UInt64 := 0
  transport : TransportType := .unixDomainSocket
  pool : SharedPoolMetadata := {}
  subscribers : List DiscoveredSubscriber := []
  deriving DecidableEq, Repr

structure RegistryState where
  nextNodeId : UInt64 := 1
  nextSessionId : UInt64 := 1
  nextTopicId : UInt64 := 1
  nextEndpointId : UInt64 := 1
  nodes : ExtTreeMap UInt64 NodeRecord := ∅
  nodeNames : ExtTreeMap Bytes UInt64 := ∅
  topics : ExtTreeMap UInt64 TopicRecord := ∅
  topicNames : ExtTreeMap Bytes UInt64 := ∅
  publishers : ExtTreeMap UInt64 PublisherEndpoint := ∅
  subscribers : ExtTreeMap UInt64 SubscriberEndpoint := ∅
  liveness : LivenessConfig
  metrics : RegistryMetrics := {}

def validPoolMetadata (transport : TransportType) (pool : SharedPoolMetadata) : Bool :=
  match transport with
  | .unixDomainSocket => pool.shmName.isEmpty && pool.poolId == 0 && pool.segmentSize == 0 && pool.layoutVersion == 0
  | .sharedMemory =>
    isValidSharedMemoryName pool.shmName && pool.poolId != 0 && pool.segmentSize != 0 && pool.layoutVersion == 1

def validQueueMetadata (transport : TransportType) (queue : SharedQueueMetadata) : Bool :=
  match transport with
  | .unixDomainSocket =>
    queue.shmName.isEmpty && queue.queueId == 0 && queue.segmentSize == 0 && queue.capacity == 0 &&
      queue.layoutVersion == 0 && queue.overflowPolicy == 0 && queue.blockTimeoutMs == 0
  | .sharedMemory =>
    isValidSharedMemoryName queue.shmName && queue.queueId != 0 && queue.segmentSize != 0 && queue.capacity != 0 &&
      queue.capacity ≤ 65536 && queue.layoutVersion == 3 && (1 ≤ queue.overflowPolicy && queue.overflowPolicy ≤ 3) &&
      queue.blockTimeoutMs != 0

namespace RegistryState

def mapAt {β : Type} (map : ExtTreeMap UInt64 β) (key : UInt64) : Except Exception β :=
  match map[key]? with
  | none => .error .outOfRange
  | some value => .ok value

def create (liveness : LivenessConfig) : Except Exception RegistryState :=
  if !validLivenessConfig liveness then .error (.invalidArgument "invalid registry liveness timing")
  else .ok { liveness }

def registerNode (state : RegistryState) (connection : UInt64) (nodeName : Bytes) (now : Int) : IdResult × RegistryState :=
  if nodeName.isEmpty then ({ error := .invalidArgument }, state)
  else if state.nodeNames.contains nodeName then ({ error := .duplicateNode }, state)
  else
    let nodeId := state.nextNodeId
    let sessionId := state.nextSessionId
    let node : NodeRecord := { nodeId, sessionId, nodeName, controlConnection := connection, lastSeen := now }
    ({ id := nodeId, sessionId },
      { state with
        nextNodeId := nodeId + 1
        nextSessionId := sessionId + 1
        nodes := state.nodes.insertIfNew nodeId node
        nodeNames := state.nodeNames.insertIfNew nodeName nodeId })

def ownedNode (state : RegistryState) (connection nodeId : UInt64) : Option NodeRecord :=
  match state.nodes[nodeId]? with
  | none => none
  | some node => if node.controlConnection ≠ connection then none else some node

/-- A store through the `NodeRecord` pointer. -/
def setNode (state : RegistryState) (nodeId : UInt64) (node : NodeRecord) : RegistryState :=
  { state with nodes := state.nodes.insert nodeId node }

/-- A store through a `TopicRecord` reference. -/
def setTopic (state : RegistryState) (topicId : UInt64) (topic : TopicRecord) : RegistryState :=
  { state with topics := state.topics.insert topicId topic }

/-- The key of the record that the returned reference names, and the tables. -/
def findOrCreateTopic (state : RegistryState) (topicName typeName typeHash : Bytes) (maxMessageSize : UInt64)
    (transport : TransportType) : Except Exception (UInt64 × TopicRecord × RegistryState) :=
  match state.topicNames[topicName]? with
  | some topicId => do
    let topic ← mapAt state.topics topicId
    pure (topicId, topic, state)
  | none => do
    let topicId := state.nextTopicId
    let created := { state with
      nextTopicId := topicId + 1
      topics := state.topics.insertIfNew topicId { topicId, topicName, typeName, typeHash, transport, maxMessageSize }
      topicNames := state.topicNames.insertIfNew topicName topicId }
    let topic ← mapAt created.topics topicId
    pure (topicId, topic, created)

/-- The publisher's part in the maximum of a topic. -/
def publisherMaximum (state : RegistryState) (topic : TopicRecord) : Except Exception UInt64 :=
  match topic.publisherEndpoint with
  | none => .ok sizeMax
  | some endpointId => do
    let publisher ← mapAt state.publishers endpointId
    pure (min sizeMax publisher.maxMessageSize)

def subscriberMaximum (state : RegistryState) (maximum endpointId : UInt64) : Except Exception UInt64 := do
  let subscriber ← mapAt state.subscribers endpointId
  pure (min maximum subscriber.maxMessageSize)

def recomputeTopicMaxMessageSize (state : RegistryState) (topicId : UInt64) : Except Exception RegistryState := do
  let topic ← mapAt state.topics topicId
  let maximum ← state.publisherMaximum topic
  let maximum ← topic.subscriberEndpoints.toList.foldlM state.subscriberMaximum maximum
  let hasEndpoint := topic.publisherEndpoint.isSome || !topic.subscriberEndpoints.isEmpty
  pure (if hasEndpoint then state.setTopic topicId { topic with maxMessageSize := maximum } else state)

def eraseTopicIfEmpty (state : RegistryState) (topicId : UInt64) : RegistryState :=
  match state.topics[topicId]? with
  | none => state
  | some topic =>
    if topic.publisherEndpoint.isSome ∨ !topic.subscriberEndpoints.isEmpty then state
    else
      { state with
        topicNames := state.topicNames.erase topic.topicName
        topics := state.topics.erase topicId }

/-- The checks that `advertise` and `subscribe` make against an existing topic. -/
def topicMismatch (topic : TopicRecord) (typeName typeHash : Bytes) (transport : TransportType) : Option EndpointResult :=
  if topic.typeName ≠ typeName ∨ topic.typeHash ≠ typeHash then
    some { error := .typeMismatch, topicId := topic.topicId }
  else if topic.transport ≠ transport then some { error := .transportMismatch, topicId := topic.topicId }
  else none

def subscribeMismatch (state : RegistryState) (topicName typeName typeHash : Bytes) (transport : TransportType) :
    Except Exception (Option EndpointResult) :=
  match state.topicNames[topicName]? with
  | none => .ok none
  | some topicId => do
    let topic ← mapAt state.topics topicId
    pure (topicMismatch topic typeName typeHash transport)

/-- `advertise` also refuses a second publisher. -/
def advertiseMismatch (state : RegistryState) (topicName typeName typeHash : Bytes) (transport : TransportType) :
    Except Exception (Option EndpointResult) :=
  match state.topicNames[topicName]? with
  | none => .ok none
  | some topicId => do
    let topic ← mapAt state.topics topicId
    pure <| (topicMismatch topic typeName typeHash transport).or <|
      if topic.publisherEndpoint.isSome then some { error := .duplicatePublisher, topicId := topic.topicId } else none

def advertise (state : RegistryState) (connection nodeId : UInt64) (topicName typeName typeHash : Bytes)
    (maxMessageSize : UInt64) (transport : TransportType) (pool : SharedPoolMetadata) :
    Except Exception (EndpointResult × RegistryState) :=
  match state.ownedNode connection nodeId with
  | none => .ok ({ error := .notRegistered }, state)
  | some node =>
    if topicName.isEmpty ∨ typeName.isEmpty ∨ typeHash.isEmpty ∨ maxMessageSize > uint32Max ∨
        !validPoolMetadata transport pool then
      .ok ({ error := .invalidArgument }, state)
    else do
      let refused ← state.advertiseMismatch topicName typeName typeHash transport
      match refused with
      | some result => pure (result, state)
      | none => do
        let (topicId, topic, state) ← state.findOrCreateTopic topicName typeName typeHash maxMessageSize transport
        let endpointId := state.nextEndpointId
        let state := { state with
          nextEndpointId := endpointId + 1
          publishers := state.publishers.insertIfNew endpointId
            { endpointId, nodeId, topicId := topic.topicId, maxMessageSize, transport, pool } }
        let state := state.setTopic topicId { topic with
          publisherEndpoint := some endpointId, pool, maxMessageSize := min topic.maxMessageSize maxMessageSize }
        let state := state.setNode nodeId { node with publisherEndpoints := node.publisherEndpoints.insert endpointId }
        pure ({ topicId := topic.topicId, endpointId, pool }, state)

def unadvertise (state : RegistryState) (connection nodeId endpointId : UInt64) :
    Except Exception (ErrorCode × RegistryState) :=
  match state.ownedNode connection nodeId, state.publishers[endpointId]? with
  | some node, some publisher =>
    if publisher.nodeId ≠ nodeId then .ok (.endpointNotFound, state)
    else do
      let topicId := publisher.topicId
      let state := state.setNode nodeId { node with publisherEndpoints := node.publisherEndpoints.erase endpointId }
      let state := { state with publishers := state.publishers.erase endpointId }
      let topic ← mapAt state.topics topicId
      let state := state.setTopic topicId { topic with publisherEndpoint := none, pool := {} }
      let state ← state.recomputeTopicMaxMessageSize topicId
      pure (.ok, state.eraseTopicIfEmpty topicId)
  | _, _ => .ok (.endpointNotFound, state)

def subscribe (state : RegistryState) (connection nodeId : UInt64) (topicName typeName typeHash : Bytes)
    (maxMessageSize : UInt64) (dataSocketPath : Bytes) (transport : TransportType) (queue : SharedQueueMetadata) :
    Except Exception (EndpointResult × RegistryState) :=
  match state.ownedNode connection nodeId with
  | none => .ok ({ error := .notRegistered }, state)
  | some node =>
    if topicName.isEmpty ∨ typeName.isEmpty ∨ typeHash.isEmpty ∨ dataSocketPath.isEmpty ∨ maxMessageSize > uint32Max ∨
        !validQueueMetadata transport queue then
      .ok ({ error := .invalidArgument }, state)
    else do
      let refused ← state.subscribeMismatch topicName typeName typeHash transport
      match refused with
      | some result => pure (result, state)
      | none => do
        let (topicId, topic, state) ← state.findOrCreateTopic topicName typeName typeHash maxMessageSize transport
        let endpointId := state.nextEndpointId
        let state := { state with
          nextEndpointId := endpointId + 1
          subscribers := state.subscribers.insertIfNew endpointId
            { endpointId, nodeId, topicId := topic.topicId, dataSocketPath, maxMessageSize, transport, queue } }
        let state := state.setTopic topicId { topic with
          subscriberEndpoints := topic.subscriberEndpoints.insert endpointId
          maxMessageSize := min topic.maxMessageSize maxMessageSize }
        let state := state.setNode nodeId { node with subscriberEndpoints := node.subscriberEndpoints.insert endpointId }
        pure ({ topicId := topic.topicId, endpointId, pool := topic.pool }, state)

def unsubscribe (state : RegistryState) (connection nodeId endpointId : UInt64) :
    Except Exception (ErrorCode × RegistryState) :=
  match state.ownedNode connection nodeId, state.subscribers[endpointId]? with
  | some node, some subscriber =>
    if subscriber.nodeId ≠ nodeId then .ok (.endpointNotFound, state)
    else do
      let topicId := subscriber.topicId
      let state := state.setNode nodeId { node with subscriberEndpoints := node.subscriberEndpoints.erase endpointId }
      let state := { state with subscribers := state.subscribers.erase endpointId }
      let topic ← mapAt state.topics topicId
      let state := state.setTopic topicId { topic with subscriberEndpoints := topic.subscriberEndpoints.erase endpointId }
      let state ← state.recomputeTopicMaxMessageSize topicId
      pure (.ok, state.eraseTopicIfEmpty topicId)
  | _, _ => .ok (.endpointNotFound, state)

/-- The loops of `unregisterNode` go over copies of the node's endpoint sets. -/
def unregisterNode (state : RegistryState) (connection nodeId : UInt64) : Except Exception (ErrorCode × RegistryState) :=
  match state.ownedNode connection nodeId with
  | none => .ok (.notRegistered, state)
  | some node => do
    let state ← node.publisherEndpoints.toList.foldlM
      (fun state endpointId => return (← state.unadvertise connection nodeId endpointId).2) state
    let state ← node.subscriberEndpoints.toList.foldlM
      (fun state endpointId => return (← state.unsubscribe connection nodeId endpointId).2) state
    pure (.ok, { state with nodeNames := state.nodeNames.erase node.nodeName, nodes := state.nodes.erase nodeId })

def attachHeartbeat (state : RegistryState) (connection nodeId sessionId : UInt64) : ErrorCode × RegistryState :=
  match state.nodes[nodeId]? with
  | none => (.notRegistered, state)
  | some node =>
    if node.sessionId ≠ sessionId ∨ connection = 0 then (.notRegistered, state)
    else if node.heartbeatConnection ≠ 0 ∧ node.heartbeatConnection ≠ connection then (.notRegistered, state)
    else (.ok, state.setNode nodeId { node with heartbeatConnection := connection })

def heartbeat (state : RegistryState) (connection nodeId sessionId : UInt64) (now : Int) : HeartbeatResult × RegistryState :=
  match state.nodes[nodeId]? with
  | none => ({ error := .notRegistered, state := .dead }, state)
  | some node =>
    if node.sessionId ≠ sessionId then ({ error := .notRegistered, state := .dead }, state)
    else if connection ≠ node.controlConnection ∧ connection ≠ node.heartbeatConnection then
      ({ error := .notRegistered, state := node.liveness }, state)
    else
      let state := state.setNode nodeId { node with lastSeen := now, liveness := .alive }
      ({}, { state with metrics.heartbeatReceived := state.metrics.heartbeatReceived + 1 })

/-- The part of a dead node's cleanup for one publisher endpoint. -/
def cleanupPublisher (state : RegistryState) (cleanup : DeadNodeCleanup) (endpointId : UInt64) :
    Except Exception DeadNodeCleanup :=
  match state.publishers[endpointId]? with
  | none => .ok cleanup
  | some publisher => do
    let pools := if publisher.pool.shmName.isEmpty then cleanup.pools else cleanup.pools ++ [publisher.pool]
    let topic ← mapAt state.topics publisher.topicId
    let events := topic.subscriberEndpoints.toList.filterMap fun subscriberId =>
      (state.subscribers[subscriberId]?).map fun subscriber =>
        { kind := .publisherDead, targetNodeId := subscriber.nodeId, targetEndpointId := subscriberId,
          deadEndpointId := endpointId, topicId := publisher.topicId, resourceId := publisher.pool.poolId }
    pure { cleanup with pools, peerEvents := cleanup.peerEvents ++ events }

/-- The part of a dead node's cleanup for one subscriber endpoint. -/
def cleanupSubscriber (state : RegistryState) (cleanup : DeadNodeCleanup) (endpointId : UInt64) :
    Except Exception DeadNodeCleanup :=
  match state.subscribers[endpointId]? with
  | none => .ok cleanup
  | some subscriber => do
    let queues := if subscriber.queue.shmName.isEmpty then cleanup.queues else cleanup.queues ++ [subscriber.queue]
    let socketPaths := cleanup.socketPaths ++ [subscriber.dataSocketPath]
    let topic ← mapAt state.topics subscriber.topicId
    let events := ((topic.publisherEndpoint.bind fun publisherId => state.publishers[publisherId]?).map fun publisher =>
      { kind := .subscriberDead, targetNodeId := publisher.nodeId, targetEndpointId := publisher.endpointId,
        deadEndpointId := endpointId, topicId := subscriber.topicId, resourceId := subscriber.queue.queueId }).toList
    pure { cleanup with queues, socketPaths, peerEvents := cleanup.peerEvents ++ events }

def cleanupDeadNode (state : RegistryState) (nodeId : UInt64) :
    Except Exception (Option DeadNodeCleanup × RegistryState) :=
  match state.nodes[nodeId]? with
  | none => .ok (none, state)
  | some node => do
    let cleanup : DeadNodeCleanup := {
      nodeId := node.nodeId
      sessionId := node.sessionId
      controlConnection := node.controlConnection
      heartbeatConnection := node.heartbeatConnection }
    let cleanup ← node.publisherEndpoints.toList.foldlM state.cleanupPublisher cleanup
    let cleanup ← node.subscriberEndpoints.toList.foldlM state.cleanupSubscriber cleanup
    let (_, state) ← state.unregisterNode node.controlConnection node.nodeId
    pure (some cleanup, { state with metrics.deadNodeCount := state.metrics.deadNodeCount + 1 })

def cleanupDeadNodes (state : RegistryState) : List UInt64 → Except Exception (List DeadNodeCleanup × RegistryState)
  | [] => .ok ([], state)
  | nodeId :: rest => do
    let (cleanup, state) ← state.cleanupDeadNode nodeId
    let (cleanups, state) ← state.cleanupDeadNodes rest
    pure (cleanup.toList ++ cleanups, state)

/-- Whether `now - since >= timeout`. Both sides are compared as nanoseconds in 64 bits. -/
def silentFor (since now : Int) (timeout : Int64) : Bool := timeout * 1000000 ≤ Int64.ofInt (now - since)

/-- Whether this pass of the liveness check suspects the node. -/
def newlySuspected (config : LivenessConfig) (now : Int) (node : NodeRecord) : Bool :=
  silentFor node.lastSeen now config.suspectTimeout && node.liveness == .alive

def evaluateLiveness (state : RegistryState) (now : Int) : Except Exception (LivenessUpdate × RegistryState) := do
  let records := state.nodes.toList.map Prod.snd
  let suspected := records.filter (newlySuspected state.liveness now)
  let suspectedNodes := (suspected.filter fun node => !silentFor node.lastSeen now state.liveness.deadTimeout).map (·.nodeId)
  let deadIds := (records.filter fun node => silentFor node.lastSeen now state.liveness.deadTimeout).map (·.nodeId)
  let state := { state with
    nodes := state.nodes.map fun _ node =>
      if newlySuspected state.liveness now node then { node with liveness := .suspected } else node
    metrics.suspectedCount := state.metrics.suspectedCount + UInt64.ofNat suspected.length }
  let (deadNodes, state) ← state.cleanupDeadNodes deadIds
  pure ({ suspectedNodes, deadNodes }, state)

def detachHeartbeatConnection (state : RegistryState) (connection : UInt64) : RegistryState :=
  { state with nodes := state.nodes.map fun _ node =>
      if node.heartbeatConnection = connection then { node with heartbeatConnection := 0 } else node }

def disconnectConnection (state : RegistryState) (connection : UInt64) :
    Except Exception (List DeadNodeCleanup × RegistryState) := do
  let nodeIds := (state.nodes.toList.filter fun entry => entry.2.controlConnection == connection).map Prod.fst
  let (cleanups, state) ← state.cleanupDeadNodes nodeIds
  pure (cleanups, if cleanups.isEmpty then state.detachHeartbeatConnection connection else state)

/-- What `resolve` reports about one subscriber. -/
def discovered (state : RegistryState) (endpointId : UInt64) : Except Exception DiscoveredSubscriber := do
  let subscriber ← mapAt state.subscribers endpointId
  pure ⟨subscriber.endpointId, subscriber.dataSocketPath, subscriber.maxMessageSize, subscriber.queue⟩

def resolve (state : RegistryState) (connection nodeId publisherEndpointId : UInt64) : Except Exception DiscoveryResult :=
  match state.ownedNode connection nodeId, state.publishers[publisherEndpointId]? with
  | some _, some publisher =>
    if publisher.nodeId ≠ nodeId then .ok { error := .endpointNotFound }
    else do
      let topic ← mapAt state.topics publisher.topicId
      if topic.subscriberEndpoints.isEmpty then
        pure { error := .topicNotFound, topicId := topic.topicId, transport := topic.transport, pool := topic.pool }
      else
        let subscribers ← topic.subscriberEndpoints.toList.mapM state.discovered
        pure { topicId := topic.topicId, transport := topic.transport, pool := topic.pool, subscribers }
  | _, _ => .ok { error := .endpointNotFound }

def queryTopic (state : RegistryState) (topicName : Bytes) : Except Exception (Option TopicRecord) :=
  match state.topicNames[topicName]? with
  | none => .ok none
  | some topicId => do
    let topic ← mapAt state.topics topicId
    pure (some topic)

end RegistryState

/-- One request to the registry, with whatever arguments it carries. -/
inductive RegistryOperation where
  | registerNode (connection : UInt64) (nodeName : Bytes) (now : Int)
  | unregisterNode (connection nodeId : UInt64)
  | attachHeartbeat (connection nodeId sessionId : UInt64)
  | heartbeat (connection nodeId sessionId : UInt64) (now : Int)
  | evaluateLiveness (now : Int)
  | disconnectConnection (connection : UInt64)
  | detachHeartbeatConnection (connection : UInt64)
  | advertise (connection nodeId : UInt64) (topicName typeName typeHash : Bytes) (maxMessageSize : UInt64)
      (transport : TransportType) (pool : SharedPoolMetadata)
  | unadvertise (connection nodeId endpointId : UInt64)
  | subscribe (connection nodeId : UInt64) (topicName typeName typeHash : Bytes) (maxMessageSize : UInt64)
      (dataSocketPath : Bytes) (transport : TransportType) (queue : SharedQueueMetadata)
  | unsubscribe (connection nodeId endpointId : UInt64)
  | resolve (connection nodeId publisherEndpointId : UInt64)
  | queryTopic (topicName : Bytes)

namespace RegistryState

def perform (state : RegistryState) : RegistryOperation → Except Exception RegistryState
  | .registerNode connection nodeName now => .ok (state.registerNode connection nodeName now).2
  | .unregisterNode connection nodeId => Prod.snd <$> state.unregisterNode connection nodeId
  | .attachHeartbeat connection nodeId sessionId => .ok (state.attachHeartbeat connection nodeId sessionId).2
  | .heartbeat connection nodeId sessionId now => .ok (state.heartbeat connection nodeId sessionId now).2
  | .evaluateLiveness now => Prod.snd <$> state.evaluateLiveness now
  | .disconnectConnection connection => Prod.snd <$> state.disconnectConnection connection
  | .detachHeartbeatConnection connection => .ok (state.detachHeartbeatConnection connection)
  | .advertise connection nodeId topicName typeName typeHash maxMessageSize transport pool =>
    Prod.snd <$> state.advertise connection nodeId topicName typeName typeHash maxMessageSize transport pool
  | .unadvertise connection nodeId endpointId => Prod.snd <$> state.unadvertise connection nodeId endpointId
  | .subscribe connection nodeId topicName typeName typeHash maxMessageSize dataSocketPath transport queue =>
    Prod.snd <$> state.subscribe connection nodeId topicName typeName typeHash maxMessageSize dataSocketPath transport queue
  | .unsubscribe connection nodeId endpointId => Prod.snd <$> state.unsubscribe connection nodeId endpointId
  | .resolve connection nodeId publisherEndpointId => (fun _ => state) <$> state.resolve connection nodeId publisherEndpointId
  | .queryTopic topicName => (fun _ => state) <$> state.queryTopic topicName

end RegistryState
end RobotMiddleware
