import RobotMiddleware.MemoryPool
import RobotMiddleware.QueueProtocol
import RobotMiddleware.RegistryState
import RobotMiddleware.SubscriberQueue

/-! A shared-memory publisher: its pool, one data connection for each discovered
subscriber, and the handles that each connection still owes. A connection carries
what its socket will still deliver. Everything else that the system and the other
processes answer (the registry, the outcome of a connect or of an enqueue, the
clock) is an argument of the call. -/

namespace RobotMiddleware
open Std

def kShmDiscoveryRefreshInterval : Int := 1000000

structure PublisherConfig where
  maxMessageSize : UInt64
  memoryPool : MemoryPoolConfig

structure RegistrySubscriber where
  endpointId : UInt64
  maxMessageSize : UInt64
  queue : QueueDescriptor
  deriving DecidableEq, Repr

structure RegistryDiscovery where
  topicId : UInt64
  transport : TransportType
  pool : PoolDescriptor
  subscribers : List RegistrySubscriber
  deriving DecidableEq, Repr

structure RegistryPeerEvent where
  kind : PeerEventKind
  deadEndpointId : UInt64
  resourceId : UInt64
  deriving DecidableEq, Repr

/-- What one `recv` on a data socket yields. A `recv` of several bytes is as many
of one byte. A socket with no more events has no data; `wouldBlock` is a moment
with no data before more arrives. -/
inductive SocketEvent where
  | byte (value : UInt8)
  | interrupted
  | wouldBlock
  | closed
  | failed
  deriving DecidableEq, Repr

structure PublishResult where
  error : ErrorCode := .ok
  sequence : UInt64 := 0
  payloadSize : UInt64 := 0
  enqueued : UInt32 := 0
  droppedNewest : UInt32 := 0
  droppedOldest : UInt32 := 0
  blockTimeouts : UInt32 := 0
  blockedCount : UInt32 := 0
  blockedTimeNs : UInt64 := 0
  deriving DecidableEq, Repr

/-- `queueId` is that of the opened queue, `releaseBuffer` the received part of the
next Release frame, and `incoming` what the socket delivers to the next reads. -/
structure DataConnection where
  endpointId : UInt64
  maxMessageSize : UInt64
  queueId : Option UInt64
  incoming : List SocketEvent := []
  releaseBuffer : Bytes := []
  outstanding : List ChunkHandle := []
  deriving DecidableEq, Repr

structure Publisher where
  config : PublisherConfig
  pool : MemoryPool
  topicId : UInt64
  endpointId : UInt64
  connections : List DataConnection := []
  negotiatedMaxMessageSize : UInt64
  sequence : UInt64 := 0
  failedEndpointIds : ExtTreeSet UInt64 := ∅
  nextDiscoveryRefresh : Int := 0
  discoveryRefreshRequired : Bool := true

/-- The answers that `connectDiscoveredEndpoints` gets. `peerEvents` is `none` when
taking them throws, `discovery` carries the code to which a caught exception is
mapped, and `connects` tells whether the connect to an endpoint and the opening of
its queue succeed. -/
structure DiscoveryAnswers where
  peerEvents : Option (List RegistryPeerEvent)
  now : Int
  discovery : Except ErrorCode RegistryDiscovery
  connects : UInt64 → Bool
  refreshedAt : Int

/-- The running variables of `dispatchPublished`. -/
structure DispatchProgress where
  result : PublishResult
  firstFailure : ErrorCode := .ok
  failedEndpoints : List UInt64 := []
  deriving DecidableEq, Repr

structure Dispatch where
  handle : ChunkHandle
  payloadSize : UInt64
  nextSequence : UInt64
  deriving DecidableEq, Repr

def DispatchProgress.note (progress : DispatchProgress) (failure : ErrorCode) : DispatchProgress :=
  if progress.firstFailure = .ok then { progress with firstFailure := failure } else progress

def Dispatch.start (dispatch : Dispatch) : DispatchProgress :=
  { result := { error := .connectionLost, sequence := dispatch.nextSequence, payloadSize := dispatch.payloadSize } }

def outstandingLimit (config : MemoryPoolConfig) : UInt64 :=
  go config.sizeClasses 0
where
  go : List MemoryPoolClassConfig → UInt64 → UInt64
    | [], total => total
    | item :: rest, total =>
      if item.chunkCount.toUInt64 > sizeMax - total then sizeMax else go rest (total + item.chunkCount.toUInt64)

def releaseReference (pool : MemoryPool) (handle : ChunkHandle) : ErrorCode × MemoryPool :=
  let (result, pool) := pool.release handle
  if result.error ≠ .ok then (result.error, pool)
  else if result.becameReleased then pool.reclaim handle
  else (.ok, pool)

/-- The loop of `releaseAllOutstanding`; the connection is erased right after it. -/
def releaseAllOutstanding (pool : MemoryPool) (outstanding : List ChunkHandle) : MemoryPool :=
  outstanding.foldl (fun pool handle => (releaseReference pool handle).2) pool

def releaseOutstanding (pool : MemoryPool) (connection : DataConnection) (handle : ChunkHandle) :
    MemoryPool × DataConnection :=
  if handle ∈ connection.outstanding then
    ((releaseReference pool handle).2, { connection with outstanding := connection.outstanding.erase handle })
  else (pool, connection)

/-- The loop of `drainReleasesNonBlocking` over one connection, with
`receiveOneRelease` in it: whether the connection is lost. -/
def receiveReleases (pool : MemoryPool) (connection : DataConnection) :
    List SocketEvent → Bool × MemoryPool × DataConnection
  | [] => (false, pool, { connection with incoming := [] })
  | .wouldBlock :: rest => (false, pool, { connection with incoming := rest })
  | .closed :: rest => (true, pool, { connection with incoming := rest })
  | .failed :: rest => (true, pool, { connection with incoming := rest })
  | .interrupted :: rest => receiveReleases pool connection rest
  | .byte value :: rest =>
    let buffer := connection.releaseBuffer ++ [value]
    if buffer.length < kQueueReleaseSize then receiveReleases pool { connection with releaseBuffer := buffer } rest
    else
      let connection := { connection with releaseBuffer := [] }
      match decodeQueueRelease buffer with
      | none => (true, pool, { connection with incoming := rest })
      | some handle =>
        let (pool, connection) := releaseOutstanding pool connection handle
        receiveReleases pool connection rest

/-- The loop over all connections: those that stay, and the endpoints of those
that were lost. -/
def drainConnections (pool : MemoryPool) : List DataConnection → MemoryPool × List DataConnection × List UInt64
  | [] => (pool, [], [])
  | connection :: rest =>
    let (disconnected, pool, connection) := receiveReleases pool connection connection.incoming
    if disconnected then
      let (pool, kept, lost) := drainConnections (releaseAllOutstanding pool connection.outstanding) rest
      (pool, kept, connection.endpointId :: lost)
    else
      let (pool, kept, lost) := drainConnections pool rest
      (pool, connection :: kept, lost)

/-- The loop that erases the connections it has to drop and releases what they owe. -/
def dropConnections (drop : UInt64 → Bool) (pool : MemoryPool) : List DataConnection → MemoryPool × List DataConnection
  | [] => (pool, [])
  | connection :: rest =>
    if drop connection.endpointId then dropConnections drop (releaseAllOutstanding pool connection.outstanding) rest
    else
      let (pool, kept) := dropConnections drop pool rest
      (pool, connection :: kept)

/-- The part of one iteration of `dispatchPublished` before the enqueue: a
tentative reference and the encoded Wake, or a reason to skip the connection. -/
def offerReference (pool : MemoryPool) (limit : UInt64) (connection : DataConnection) (handle : ChunkHandle)
    (progress : DispatchProgress) : MemoryPool × (DispatchProgress ⊕ Bytes) :=
  match connection.queueId with
  | none => (pool, .inl (progress.note .invalidState))
  | some queueId =>
    if connection.outstanding.length ≥ limit.toNat then (pool, .inl (progress.note .poolExhausted))
    else
      match pool.addReference handle with
      | (.ok, pool) =>
        match encodeQueueWake ⟨pool.descriptor, queueId⟩ with
        | none => ((releaseReference pool handle).2, .inl (progress.note .invalidState))
        | some wake => (pool, .inr wake)
      | (referenceError, pool) => (pool, .inl (progress.note referenceError))

/-- The part of the iteration after the enqueue. -/
def settleEnqueue (pool : MemoryPool) (connection : DataConnection) (handle : ChunkHandle) (progress : DispatchProgress)
    (enqueue : QueueEnqueueResult) : MemoryPool × DataConnection × DispatchProgress :=
  let progress := if enqueue.blocked then
      { progress with
        result.blockedCount := progress.result.blockedCount + 1
        result.blockedTimeNs := progress.result.blockedTimeNs + enqueue.blockedTimeNs }
    else progress
  match enqueue.status with
  | .accepted =>
    let connection := { connection with outstanding := connection.outstanding ++ [handle] }
    let progress := { progress with result.enqueued := progress.result.enqueued + 1 }
    match enqueue.droppedOldest with
    | none => (pool, connection, progress)
    | some dropped =>
      let (pool, connection) := releaseOutstanding pool connection dropped
      (pool, connection, { progress with result.droppedOldest := progress.result.droppedOldest + 1 })
  | .droppedNewest =>
    ((releaseReference pool handle).2, connection,
      DispatchProgress.note { progress with result.droppedNewest := progress.result.droppedNewest + 1 } .queueFull)
  | .timedOut =>
    ((releaseReference pool handle).2, connection,
      { progress with result.blockTimeouts := progress.result.blockTimeouts + 1, firstFailure := .queueTimeout })
  | .closed =>
    let progress := progress.note .queueClosed
    ((releaseReference pool handle).2, connection,
      { progress with failedEndpoints := progress.failedEndpoints ++ [connection.endpointId] })
  | .notificationFailed =>
    let progress := progress.note .connectionLost
    ((releaseReference pool handle).2, connection,
      { progress with failedEndpoints := progress.failedEndpoints ++ [connection.endpointId] })
  | .synchronizationError => ((releaseReference pool handle).2, connection, progress.note .sharedMemoryError)

/-- One iteration of `dispatchPublished`, when the enqueue gives this answer. -/
def dispatchConnection (pool : MemoryPool) (limit : UInt64) (connection : DataConnection) (handle : ChunkHandle)
    (progress : DispatchProgress) (answer : QueueEnqueueResult) : MemoryPool × DataConnection × DispatchProgress :=
  match offerReference pool limit connection handle progress with
  | (pool, .inl progress) => (pool, connection, progress)
  | (pool, .inr _) => settleEnqueue pool connection handle progress answer

/-- The loop of `dispatchPublished` over the connections. -/
def dispatchConnections (limit : UInt64) (handle : ChunkHandle) (answers : UInt64 → QueueEnqueueResult)
    (pool : MemoryPool) (progress : DispatchProgress) :
    List DataConnection → MemoryPool × List DataConnection × DispatchProgress
  | [] => (pool, [], progress)
  | connection :: rest =>
    let (pool, connection, progress) :=
      dispatchConnection pool limit connection handle progress (answers connection.endpointId)
    let (pool, rest, progress) := dispatchConnections limit handle answers pool progress rest
    (pool, connection :: rest, progress)

namespace Publisher

/-- The constructor, once the registry has answered and the pool is created. -/
def create (config : PublisherConfig) (pool : MemoryPool) (topicId endpointId : UInt64) : Publisher :=
  { config, pool, topicId, endpointId, negotiatedMaxMessageSize := config.maxMessageSize }

def removeEndpoint (publisher : Publisher) (deadEndpointId : UInt64) : Publisher :=
  let (pool, connections) := dropConnections (· == deadEndpointId) publisher.pool publisher.connections
  { publisher with
    pool, connections
    failedEndpointIds := publisher.failedEndpointIds.insert deadEndpointId
    discoveryRefreshRequired := true }

/-- A lost connection leaves a tombstone if its endpoint has an id. -/
def addTombstone (failed : ExtTreeSet UInt64) (endpointId : UInt64) : ExtTreeSet UInt64 :=
  if endpointId ≠ 0 then failed.insert endpointId else failed

def drainReleasesNonBlocking (publisher : Publisher) : Publisher :=
  let (pool, connections, lost) := drainConnections publisher.pool publisher.connections
  { publisher with
    pool, connections
    failedEndpointIds := lost.foldl addTombstone publisher.failedEndpointIds
    discoveryRefreshRequired := publisher.discoveryRefreshRequired || !lost.isEmpty }

def handlePeerEvent (publisher : Publisher) (event : RegistryPeerEvent) : Publisher :=
  if event.kind = .subscriberDead then publisher.removeEndpoint event.deadEndpointId else publisher

def processPeerEvents (publisher : Publisher) (events : Option (List RegistryPeerEvent)) : Publisher :=
  if publisher.endpointId = 0 then publisher
  else (events.getD []).foldl handlePeerEvent publisher.drainReleasesNonBlocking

/-- Whether the registry still describes this publisher's pool. -/
def samePool (publisher : Publisher) (pool : PoolDescriptor) : Bool :=
  pool.shmName == publisher.pool.descriptor.shmName && pool.poolId == publisher.pool.descriptor.poolId &&
    pool.segmentSize == publisher.pool.descriptor.segmentSize &&
    pool.layoutVersion == publisher.pool.descriptor.layoutVersion

/-- Connections and tombstones of endpoints that discovery no longer lists go. -/
def dropVanished (publisher : Publisher) (subscribers : List RegistrySubscriber) : Publisher :=
  let vanished := fun endpointId => !(subscribers.map (·.endpointId)).contains endpointId
  let (pool, connections) := dropConnections vanished publisher.pool publisher.connections
  { publisher with
    pool, connections
    failedEndpointIds := publisher.failedEndpointIds.filter fun endpointId => !vanished endpointId }

/-- One discovered endpoint that may be new. -/
def connectSubscriber (connects : UInt64 → Bool) (publisher : Publisher) (subscriber : RegistrySubscriber) : Publisher :=
  if publisher.connections.any (fun connection => connection.endpointId == subscriber.endpointId) ∨
      publisher.failedEndpointIds.contains subscriber.endpointId then publisher
  else if connects subscriber.endpointId then
    { publisher with connections := publisher.connections ++
        [{ endpointId := subscriber.endpointId, maxMessageSize := subscriber.maxMessageSize,
           queueId := some subscriber.queue.queueId }] }
  else { publisher with failedEndpointIds := publisher.failedEndpointIds.insert subscriber.endpointId }

def connectDiscoveredEndpoints (publisher : Publisher) (answers : DiscoveryAnswers) : ErrorCode × Publisher :=
  let publisher := publisher.processPeerEvents answers.peerEvents
  if publisher.endpointId = 0 ∨ publisher.topicId = 0 then (.invalidState, publisher)
  else if !publisher.discoveryRefreshRequired ∧ !publisher.connections.isEmpty ∧
      answers.now < publisher.nextDiscoveryRefresh then (.ok, publisher)
  else
    match answers.discovery with
    | .error code => (code, publisher)
    | .ok discovery =>
      if discovery.transport ≠ .sharedMemory ∨ discovery.topicId ≠ publisher.topicId then (.transportMismatch, publisher)
      else if !publisher.samePool discovery.pool then (.invalidSharedMemory, publisher)
      else
        let publisher := publisher.dropVanished discovery.subscribers
        let publisher := discovery.subscribers.foldl (connectSubscriber answers.connects) publisher
        let publisher := { publisher with
          negotiatedMaxMessageSize := publisher.connections.foldl
            (fun size connection => min size connection.maxMessageSize) publisher.config.maxMessageSize
          discoveryRefreshRequired := false
          nextDiscoveryRefresh := answers.refreshedAt + kShmDiscoveryRefreshInterval }
        (if publisher.connections.isEmpty then .connectionLost else .ok, publisher)

/-- The end of `dispatchPublished`: the guard reference goes, and so do the
endpoints that failed. -/
def finishDispatch (publisher : Publisher) (dispatch : Dispatch) (progress : DispatchProgress) : PublishResult × Publisher :=
  let publisher := { publisher with
    pool := (releaseReference publisher.pool dispatch.handle).2
    sequence := dispatch.nextSequence }
  let publisher := progress.failedEndpoints.foldl removeEndpoint publisher
  let error := if progress.result.enqueued ≠ 0 then .ok
    else if progress.firstFailure = .ok then .connectionLost else progress.firstFailure
  ({ progress.result with error }, publisher)

def dispatchPublished (publisher : Publisher) (dispatch : Dispatch) (answers : UInt64 → QueueEnqueueResult) :
    PublishResult × Publisher :=
  let (pool, connections, progress) := dispatchConnections (outstandingLimit publisher.config.memoryPool) dispatch.handle
    answers publisher.pool dispatch.start publisher.connections
  finishDispatch { publisher with pool, connections } dispatch progress

/-- `publish` up to its call of `dispatchPublished`. -/
def preparePublish (publisher : Publisher) (data : Option Bytes) (size : UInt64) (answers : DiscoveryAnswers)
    (timestamp : UInt64) : (PublishResult ⊕ Dispatch) × Publisher :=
  if data = none ∧ size ≠ 0 then (.inl { error := .invalidArgument }, publisher)
  else if size > publisher.config.maxMessageSize ∨ size > uint32Max then (.inl { error := .messageTooLarge }, publisher)
  else if publisher.sequence = sizeMax then (.inl { error := .invalidState }, publisher)
  else
    let publisher := publisher.drainReleasesNonBlocking
    match publisher.connectDiscoveredEndpoints answers with
    | (.ok, publisher) =>
      if size > publisher.negotiatedMaxMessageSize then (.inl { error := .messageTooLarge }, publisher)
      else
        let nextSequence := publisher.sequence + 1
        let (allocation, pool) := publisher.pool.allocate size
        if allocation.error ≠ .ok then
          (.inl { error := allocation.error, sequence := nextSequence }, { publisher with pool })
        else
          match pool.writeAndPublish allocation.handle data size nextSequence timestamp 1 with
          | (.ok, pool) => (.inr ⟨allocation.handle, size, nextSequence⟩, { publisher with pool })
          | (publishError, pool) =>
            (.inl { error := publishError, sequence := nextSequence },
              { publisher with pool := (pool.cancel allocation.handle).2 })
    | (connectionResult, publisher) => (.inl { error := connectionResult }, publisher)

/-- `publishLoanedSample` up to its call of `dispatchPublished`. -/
def prepareLoaned (publisher : Publisher) (handle : ChunkHandle) (payloadSize : UInt64) (answers : DiscoveryAnswers)
    (timestamp : UInt64) : (PublishResult ⊕ Dispatch) × Publisher :=
  if publisher.sequence = sizeMax then
    (.inl { error := .invalidState }, { publisher with pool := (publisher.pool.cancel handle).2 })
  else
    let publisher := publisher.drainReleasesNonBlocking
    match publisher.connectDiscoveredEndpoints answers with
    | (.ok, publisher) =>
      if payloadSize > publisher.negotiatedMaxMessageSize then
        (.inl { error := .messageTooLarge }, { publisher with pool := (publisher.pool.cancel handle).2 })
      else
        let nextSequence := publisher.sequence + 1
        match publisher.pool.publishLoaned handle payloadSize nextSequence timestamp 1 with
        | (.ok, pool) => (.inr ⟨handle, payloadSize, nextSequence⟩, { publisher with pool })
        | (publishError, pool) =>
          (.inl { error := publishError, sequence := nextSequence }, { publisher with pool := (pool.cancel handle).2 })
    | (connectionError, publisher) =>
      (.inl { error := connectionError }, { publisher with pool := (publisher.pool.cancel handle).2 })

/-- A call that either ends early or dispatches. -/
def complete (prepared : (PublishResult ⊕ Dispatch) × Publisher) (answers : UInt64 → QueueEnqueueResult) :
    PublishResult × Publisher :=
  match prepared with
  | (.inl result, publisher) => (result, publisher)
  | (.inr dispatch, publisher) => publisher.dispatchPublished dispatch answers

def publish (publisher : Publisher) (data : Option Bytes) (size : UInt64) (answers : DiscoveryAnswers)
    (timestamp : UInt64) (enqueues : UInt64 → QueueEnqueueResult) : PublishResult × Publisher :=
  complete (publisher.preparePublish data size answers timestamp) enqueues

def publishLoanedSample (publisher : Publisher) (handle : ChunkHandle) (payloadSize : UInt64) (answers : DiscoveryAnswers)
    (timestamp : UInt64) (enqueues : UInt64 → QueueEnqueueResult) : PublishResult × Publisher :=
  complete (publisher.prepareLoaned handle payloadSize answers timestamp) enqueues

/-- `allocateLoan`: the allocation and the offset of its payload. -/
def allocateLoan (publisher : Publisher) (size : UInt64) (peerEvents : Option (List RegistryPeerEvent)) :
    AllocationResult × Option UInt64 × Publisher :=
  if size > publisher.config.maxMessageSize ∨ size > uint32Max then ({ error := .messageTooLarge }, none, publisher)
  else
    let publisher := (publisher.processPeerEvents peerEvents).drainReleasesNonBlocking
    let (allocation, pool) := publisher.pool.allocate size
    if allocation.error ≠ .ok then (allocation, none, { publisher with pool })
    else
      let writable := pool.writablePayload allocation.handle
      if writable.error ≠ .ok then
        ({ allocation with error := writable.error }, none, { publisher with pool := (pool.cancel allocation.handle).2 })
      else (allocation, writable.payload, { publisher with pool })

def cancelLoanedSample (publisher : Publisher) (handle : ChunkHandle) : ErrorCode × Publisher :=
  let (error, pool) := publisher.pool.cancel handle
  (error, { publisher with pool })

/-- The other end of a data connection sends or closes. -/
def arrive (publisher : Publisher) (endpointId : UInt64) (events : List SocketEvent) : Publisher :=
  { publisher with connections := publisher.connections.map fun connection =>
      if connection.endpointId = endpointId then { connection with incoming := connection.incoming ++ events }
      else connection }

end Publisher

/-- One call on a publisher with its arguments and everything it is answered, or
something that arrives on one of its sockets. -/
inductive PublisherEvent where
  | publish (data : Option Bytes) (size : UInt64) (answers : DiscoveryAnswers) (timestamp : UInt64)
      (enqueues : UInt64 → QueueEnqueueResult)
  | loan (size : UInt64) (peerEvents : Option (List RegistryPeerEvent))
  | publishLoanedSample (handle : ChunkHandle) (payloadSize : UInt64) (answers : DiscoveryAnswers) (timestamp : UInt64)
      (enqueues : UInt64 → QueueEnqueueResult)
  | cancelLoanedSample (handle : ChunkHandle)
  | arrive (endpointId : UInt64) (events : List SocketEvent)

namespace Publisher

def perform (publisher : Publisher) : PublisherEvent → Publisher
  | .publish data size answers timestamp enqueues => (publisher.publish data size answers timestamp enqueues).2
  | .loan size peerEvents => (publisher.allocateLoan size peerEvents).2.2
  | .publishLoanedSample handle payloadSize answers timestamp enqueues =>
    (publisher.publishLoanedSample handle payloadSize answers timestamp enqueues).2
  | .cancelLoanedSample handle => (publisher.cancelLoanedSample handle).2
  | .arrive endpointId events => publisher.arrive endpointId events

def performAll (publisher : Publisher) (events : List PublisherEvent) : Publisher := events.foldl perform publisher

end Publisher
end RobotMiddleware
