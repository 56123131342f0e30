import RobotMiddleware.Lib.Codec
import RobotMiddleware.RegistryServer
import RobotMiddleware.ReleaseSocket

/-! The client's end of a control connection: what it reads out of a response, and
how a request waits for it. The bytes that the registry has sent stand in the order
in which they were sent until the client reads them. How many of them have arrived
when, and how the calls of `poll` and `recv` end, is up to the system. -/

namespace RobotMiddleware

/-- What `decodeResponsePayload` returns. The error is the number on the wire,
which need not have an enumerator. -/
structure ResponseEnvelope where
  error : UInt16
  message : Bytes
  body : Bytes
  deriving DecidableEq, Repr

def PayloadReader.readRemaining : PayloadReader Bytes := fun remaining => some (remaining, [])

def decodeResponsePayload (payload : Bytes) : Option ResponseEnvelope :=
  (do return ResponseEnvelope.mk (← PayloadReader.readU16) (← PayloadReader.readString) (← PayloadReader.readRemaining) :
    PayloadReader ResponseEnvelope).run' payload

/-- A body that is read field by field. A read that fails throws
`InvalidControlMessage` with the text of the place. -/
abbrev ResponseReader := StateT Bytes (Except String)

namespace RegistryClient
open PayloadReader Lib

structure Registration where
  nodeId : UInt64
  sessionId : UInt64
  deriving DecidableEq, Repr

structure Endpoint where
  topicId : UInt64
  endpointId : UInt64
  pool : PoolDescriptor
  deriving DecidableEq, Repr

/-- The queue's policy is cast to its type without a check, so it stays a number. -/
structure Subscriber where
  endpointId : UInt64
  dataSocketPath : Bytes
  maxMessageSize : UInt64
  queue : SharedQueueMetadata
  deriving DecidableEq, Repr

/-- The transport is cast to its type without a check. -/
structure Discovery where
  topicId : UInt64
  transport : UInt16
  pool : PoolDescriptor
  subscribers : List Subscriber
  deriving DecidableEq, Repr

structure NodeInfo where
  nodeId : UInt64
  nodeName : Bytes
  liveness : LivenessState
  deriving DecidableEq, Repr

structure PeerEvent where
  kind : PeerEventKind
  targetEndpointId : UInt64
  deadEndpointId : UInt64
  topicId : UInt64
  resourceId : UInt64
  deriving DecidableEq, Repr

structure HeartbeatResponse where
  state : LivenessState
  events : List PeerEvent
  deriving DecidableEq, Repr

/-- `listTopics` fills in only the first two fields. -/
structure TopicInfo where
  topicId : UInt64
  topicName : Bytes
  typeName : Bytes := []
  typeHash : Bytes := []
  transport : UInt16 := TransportType.unixDomainSocket.value
  maxMessageSize : UInt64 := 0
  publisherCount : UInt64 := 0
  subscriberCount : UInt64 := 0
  pool : PoolDescriptor := {}
  deriving DecidableEq, Repr

structure StatsInfo where
  nodeCount : UInt64
  topicCount : UInt64
  publisherCount : UInt64
  subscriberCount : UInt64
  heartbeatReceived : UInt64
  suspectedCount : UInt64
  deadNodeCount : UInt64
  deriving DecidableEq, Repr

def expect {α : Type} (what : String) (reader : PayloadReader α) : ResponseReader α := fun remaining =>
  match reader remaining with
  | none => .error what
  | some result => .ok result

/-- A value that has to be one of several. -/
def accept {α : Type} (what : String) (value : Option α) : ResponseReader α := fun remaining =>
  match value with
  | none => .error what
  | some value => .ok (value, remaining)

def require (what : String) (condition : Bool) : ResponseReader Unit := accept what (if condition then some () else none)

/-- `reader.empty()` at the end. -/
def readEmpty (what : String) : ResponseReader Unit := fun remaining =>
  if remaining.isEmpty then .ok ((), []) else .error what

/-- Read a body; the text is that of the `InvalidControlMessage` that is thrown. -/
def decodeBody {α : Type} (reader : ResponseReader α) (body : Bytes) : Except String α := Prod.fst <$> reader body

/-- The states that a response may name. -/
def livenessState (value : UInt16) : Option LivenessState :=
  [.alive, .suspected].find? fun state : LivenessState => state.value == value

def peerEventKind (value : UInt16) : Option PeerEventKind :=
  [.publisherDead, .subscriberDead].find? fun kind : PeerEventKind => kind.value == value

/-- The four fields of a pool descriptor that are sent. -/
def readPool : PayloadReader SharedPoolMetadata := do
  let shmName ← readString
  let poolId ← readU64
  let segmentSize ← readU64
  let layoutVersion ← readU16
  return { shmName, poolId, segmentSize, layoutVersion }

/-- The topic id of a descriptor is that of the response. -/
def poolDescriptor (topicId : UInt64) (pool : SharedPoolMetadata) : PoolDescriptor :=
  ⟨pool.shmName, pool.poolId, pool.segmentSize, topicId, pool.layoutVersion⟩

def readRegistration : ResponseReader Registration := do
  let what := "registry response has an invalid registration payload"
  let nodeId ← expect what readU64
  let sessionId ← expect what readU64
  require what (nodeId != 0 && sessionId != 0)
  readEmpty what
  return ⟨nodeId, sessionId⟩

def readEndpoint : ResponseReader Endpoint := do
  let what := "registry response has an invalid endpoint payload"
  let topicId ← expect what readU64
  let endpointId ← expect what readU64
  let pool ← expect what readPool
  readEmpty what
  return ⟨topicId, endpointId, poolDescriptor topicId pool⟩

/-- One pass of the loop of `heartbeat`. -/
def readPeerEvent : ResponseReader PeerEvent := do
  let what := "registry heartbeat event is malformed"
  let kind ← expect what readU16
  let targetEndpointId ← expect what readU64
  let deadEndpointId ← expect what readU64
  let topicId ← expect what readU64
  let resourceId ← expect what readU64
  let kind ← accept "registry heartbeat event kind is invalid" (peerEventKind kind)
  return ⟨kind, targetEndpointId, deadEndpointId, topicId, resourceId⟩

def readHeartbeat : ResponseReader HeartbeatResponse := do
  let what := "registry heartbeat response is malformed"
  let state ← expect what readU16
  let count ← expect what readU32
  let state ← accept "registry heartbeat response has invalid state" (livenessState state)
  let events ← Codec.many readPeerEvent count.toNat
  readEmpty "registry heartbeat response has trailing data"
  return ⟨state, events⟩

/-- One pass of the loop of `resolve`. `size_t` has 64 bits, so `checkedSize` does
not throw. -/
def readSubscriber : ResponseReader Subscriber := do
  let what := "registry response has invalid subscriber discovery data"
  let endpointId ← expect what readU64
  let dataSocketPath ← expect what readString
  let maxMessageSize ← expect what readU64
  let shmName ← expect what readString
  let queueId ← expect what readU64
  let segmentSize ← expect what readU64
  let capacity ← expect what readU32
  let layoutVersion ← expect what readU16
  let what := "registry response has invalid subscriber queue data"
  let overflowPolicy ← expect what readU16
  let blockTimeoutMs ← expect what readU64
  return ⟨endpointId, dataSocketPath, maxMessageSize,
    { shmName, queueId, segmentSize, capacity, layoutVersion, overflowPolicy, blockTimeoutMs }⟩

def readDiscovery : ResponseReader Discovery := do
  let what := "registry response has invalid discovery data"
  let topicId ← expect what readU64
  let transport ← expect what readU16
  let pool ← expect what readPool
  let count ← expect what readU32
  let subscribers ← Codec.many readSubscriber count.toNat
  let what := "registry response has no subscriber discovery data"
  require what (!subscribers.isEmpty)
  readEmpty what
  return ⟨topicId, transport, poolDescriptor topicId pool, subscribers⟩

def readNode : ResponseReader NodeInfo := do
  let what := "invalid node list entry"
  let nodeId ← expect what readU64
  let nodeName ← expect what readString
  let liveness ← expect what readU16
  let liveness ← accept "invalid node liveness state" (livenessState liveness)
  return ⟨nodeId, nodeName, liveness⟩

def readNodes : ResponseReader (List NodeInfo) := do
  let count ← expect "invalid node list response" readU32
  let nodes ← Codec.many readNode count.toNat
  readEmpty "trailing node list data"
  return nodes

def readTopicName : ResponseReader TopicInfo := do
  let what := "invalid topic list entry"
  let topicId ← expect what readU64
  let topicName ← expect what readString
  return { topicId, topicName }

def readTopics : ResponseReader (List TopicInfo) := do
  let count ← expect "invalid topic list response" readU32
  let topics ← Codec.many readTopicName count.toNat
  readEmpty "trailing topic list data"
  return topics

def readTopic : ResponseReader TopicInfo := do
  let what := "invalid topic info response"
  let topicId ← expect what readU64
  let topicName ← expect what readString
  let typeName ← expect what readString
  let typeHash ← expect what readString
  let transport ← expect what readU16
  let maxMessageSize ← expect what readU64
  let publisherCount ← expect what readU64
  let subscriberCount ← expect what readU64
  let pool ← expect what readPool
  readEmpty what
  return { topicId, topicName, typeName, typeHash, transport, maxMessageSize, publisherCount, subscriberCount,
           pool := poolDescriptor topicId pool }

def readStats : ResponseReader StatsInfo := do
  let what := "invalid registry stats response"
  let nodeCount ← expect what readU64
  let topicCount ← expect what readU64
  let publisherCount ← expect what readU64
  let subscriberCount ← expect what readU64
  let heartbeatReceived ← expect what readU64
  let suspectedCount ← expect what readU64
  let deadNodeCount ← expect what readU64
  readEmpty what
  return { nodeCount, topicCount, publisherCount, subscriberCount, heartbeatReceived, suspectedCount, deadNodeCount }

end RegistryClient

/-- One pass of the loop of `readWithDeadline`, by how its `poll` and `recv` end. In
the first case so many more bytes have arrived, and `recv` takes `more + 1` of those
that are there, or fewer if it wants fewer. -/
inductive ReadAnswer where
  | received (arrived more : Nat)
  | again
  | timedOut
  | pollFailed
  | invalid
  | closed
  | lost
  | failed
  deriving DecidableEq, Repr

/-- What the registry has sent and the client has not read. The first bytes of it
have arrived. -/
structure Incoming where
  bytes : Bytes := []
  arrived : Nat := 0
  deriving DecidableEq, Repr

/-- The client with its end of the connection. `connected` is whether `socket_` is
there. -/
structure RegistryClient where
  connected : Bool := true
  nextRequestId : UInt32 := 1
  incoming : Incoming := {}
  deriving DecidableEq, Repr

/-- How a request ends: with the body of a response, with the error of one, with an
exception of the client, or with a `length_error`. -/
inductive RequestOutcome where
  | returned (body : Bytes)
  | refused (error : UInt16) (message : Bytes)
  | thrown (exception : Exception)
  | lengthError (what : String)
  deriving DecidableEq, Repr

/-- A request and what it meets: how `writeAll` ends, what the registry answers, and
how the client's reads end. A negative timeout is none. -/
structure ClientCall where
  opcode : Opcode
  payload : Bytes
  timeout : Int
  sent : IoStatus := .complete
  error : ErrorCode := .ok
  body : Bytes := []
  answers : List ReadAnswer
  deriving DecidableEq, Repr

namespace RegistryClient

/-- `readWithDeadline`. It has not returned yet when the answers run out. The time is
up, and the connection at its end, only when nothing that has arrived is unread. -/
def readWithDeadline (timeout : Int) (size : Nat) :
    List ReadAnswer → Bytes → Incoming → Option (Except Exception Bytes × List ReadAnswer × Incoming)
  | answers, buffer, stream =>
    if size ≤ buffer.length then some (.ok buffer, answers, stream)
    else
      match answers with
      | [] => none
      | .received arrived more :: answers =>
        if stream.bytes.length < stream.arrived + arrived then none
        else
          let count := min (min (more + 1) (size - buffer.length)) (stream.arrived + arrived)
          readWithDeadline timeout size answers (buffer ++ stream.bytes.take count)
            ⟨stream.bytes.drop count, stream.arrived + arrived - count⟩
      | .again :: answers => readWithDeadline timeout size answers buffer stream
      | .timedOut :: answers =>
        if timeout < 0 ∨ stream.arrived ≠ 0 then none
        else some (.error (.middleware .timeout "registry response timed out"), answers, stream)
      | .pollFailed :: answers => some (.error (.middleware .ioError "registry poll failed"), answers, stream)
      | .invalid :: answers => some (.error (.middleware .connectionLost "registry connection is invalid"), answers, stream)
      | .closed :: answers =>
        if stream.arrived ≠ 0 then none
        else some (.error (.middleware .connectionLost "registry connection closed"), answers, stream)
      | .lost :: answers => some (.error (.middleware .connectionLost "registry connection lost"), answers, stream)
      | .failed :: answers => some (.error (.middleware .ioError "registry receive failed"), answers, stream)

def headerError : ControlHeaderValidation → Option Exception
  | .valid => none
  | .badMagic => some (.middleware .invalidControlMessage "invalid registry magic")
  | .unsupportedVersion => some (.middleware .unsupportedProtocolVersion "unsupported registry protocol version")
  | .payloadTooLarge => some (.middleware .messageTooLarge "registry response is too large")

def receiveFrame (timeout : Int) (answers : List ReadAnswer) (stream : Incoming) :
    Option (Except Exception ControlFrame × List ReadAnswer × Incoming) := do
  let (read, answers, stream) ← readWithDeadline timeout kControlHeaderSize answers [] stream
  match read with
  | .error thrown => return (.error thrown, answers, stream)
  | .ok encodedHeader =>
    match decodeControlHeader encodedHeader with
    | none => return (.error (.middleware .invalidControlMessage "invalid registry header size"), answers, stream)
    | some header =>
      match headerError (validateControlHeader header) with
      | some thrown => return (.error thrown, answers, stream)
      | none =>
        let (read, answers, stream) ← readWithDeadline timeout header.payloadSize.toNat answers [] stream
        return ((ControlFrame.mk header) <$> read, answers, stream)

/-- All enumerators. -/
def errorCodes : List ErrorCode :=
  [.ok, .invalidArgument, .invalidState, .messageTooLarge, .connectionLost, .ioError, .timeout, .invalidFrame,
    .registryUnavailable, .duplicateNode, .duplicatePublisher, .typeMismatch, .topicNotFound, .invalidControlMessage,
    .unsupportedProtocolVersion, .unknownOpcode, .invalidRequestId, .notRegistered, .endpointNotFound, .transportMismatch,
    .sharedMemoryError, .sharedMemoryNotFound, .invalidSharedMemory, .cleanupFailed, .poolExhausted, .invalidChunkHandle,
    .duplicateRelease, .queueFull, .queueTimeout, .queueClosed, .unsupportedTransport]

/-- `errorMessage` of a number. -/
def errorText (number : UInt16) : Bytes :=
  let text := ((errorCodes.find? fun code => code.value == number).map errorMessage).getD "unknown error"
  text.toList.map fun character => UInt8.ofNat character.toNat

/-- The end of `request`, from the frame that was received. -/
def finish (requestId : UInt32) (response : ControlFrame) : RequestOutcome :=
  if response.header.opcode ≠ Opcode.response.value then
    .thrown (.middleware .invalidControlMessage "registry sent a non-response opcode")
  else if response.header.requestId ≠ requestId then
    .thrown (.middleware .invalidRequestId "registry response ID mismatch")
  else
    match decodeResponsePayload response.payload with
    | none => .thrown (.middleware .invalidControlMessage "invalid registry response body")
    | some envelope =>
      if envelope.error ≠ ErrorCode.ok.value then
        .refused envelope.error (if envelope.message.isEmpty then errorText envelope.error else envelope.message)
      else .returned envelope.body

/-- `request`, against a registry that answers each request with one response. The
answers are those of this call, so it uses them up. -/
def request (client : RegistryClient) (call : ClientCall) : Option (RequestOutcome × RegistryClient) :=
  if !client.connected then some (.thrown (.middleware .connectionLost "registry connection is closed"), client)
  else if client.nextRequestId = 0 then
    some (.thrown (.middleware .invalidState "registry request ID space exhausted"), client)
  else
    let requestId := client.nextRequestId
    let client := { client with nextRequestId := requestId + 1 }
    match encodeControlFrame call.opcode.value requestId call.payload, call.sent with
    | none, _ => some (.lengthError "control payload is too large", client)
    | some _, .closed =>
      some (.thrown (.middleware .connectionLost "failed to send registry request"), { client with connected := false })
    | some _, .error =>
      some (.thrown (.middleware .ioError "failed to send registry request"), { client with connected := false })
    | some _, .complete =>
      let response := responseFrame requestId call.error call.body
      match receiveFrame call.timeout call.answers { client.incoming with bytes := client.incoming.bytes ++ response } with
      | some (.error thrown, [], incoming) => some (.thrown thrown, { client with incoming })
      | some (.ok frame, [], incoming) => some (finish requestId frame, { client with incoming })
      | _ => none

/-- Bytes that arrive while no request waits. -/
def arrive (client : RegistryClient) (count : Nat) : Option RegistryClient :=
  if client.incoming.bytes.length < client.incoming.arrived + count then none
  else some { client with incoming.arrived := client.incoming.arrived + count }

end RegistryClient

inductive ClientEvent where
  | request (call : ClientCall)
  | arrive (count : Nat)
  deriving DecidableEq, Repr

def RegistryClient.step (client : RegistryClient) : ClientEvent → Option RegistryClient
  | .request call => (client.request call).map Prod.snd
  | .arrive count => client.arrive count

end RobotMiddleware
