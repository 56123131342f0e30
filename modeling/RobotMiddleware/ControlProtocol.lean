import RobotMiddleware.QueueProtocol
import RobotMiddleware.RegistryState

/-! The frames between a client and the registry: a fixed header and a payload of
at most 64 KiB. A request is decoded from the whole payload or not at all. -/

namespace RobotMiddleware
open Lib.BigEndian

def kControlMagic : UInt32 := 0x4D574332
def kControlVersion : UInt16 := 5
def kControlHeaderSize : Nat := 16
def kMaxControlPayloadSize : Nat := 64 * 1024

inductive Opcode where
  | registerNode | unregisterNode | advertiseTopic | unadvertiseTopic | subscribeTopic | unsubscribeTopic
  | resolveEndpoint | listNodes | listTopics | queryTopic | attachHeartbeat | heartbeat | queryStats | response
  deriving DecidableEq, Repr

def Opcode.value : Opcode → UInt16
  | .registerNode => 1
  | .unregisterNode => 2
  | .advertiseTopic => 3
  | .unadvertiseTopic => 4
  | .subscribeTopic => 5
  | .unsubscribeTopic => 6
  | .resolveEndpoint => 7
  | .listNodes => 8
  | .listTopics => 9
  | .queryTopic => 10
  | .attachHeartbeat => 11
  | .heartbeat => 12
  | .queryStats => 13
  | .response => 100

/-- The requests that the server knows, by the number in the header. A number
without an enumerator is a value of the source's type all the same. -/
def requestOpcode (value : UInt16) : Option Opcode :=
  [.registerNode, .unregisterNode, .advertiseTopic, .unadvertiseTopic, .subscribeTopic, .unsubscribeTopic,
    .resolveEndpoint, .listNodes, .listTopics, .queryTopic, .attachHeartbeat, .heartbeat, .queryStats].find?
    fun opcode : Opcode => opcode.value == value

structure ControlHeader where
  magic : UInt32 := kControlMagic
  version : UInt16 := kControlVersion
  opcode : UInt16 := Opcode.response.value
  requestId : UInt32 := 0
  payloadSize : UInt32 := 0
  deriving DecidableEq, Repr

structure ControlFrame where
  header : ControlHeader
  payload : Bytes
  deriving DecidableEq, Repr

inductive ControlHeaderValidation where
  | valid | badMagic | unsupportedVersion | payloadTooLarge
  deriving DecidableEq, Repr

def encodeControlHeader (header : ControlHeader) : Bytes :=
  encode 4 header.magic.toNat ++ encode 2 header.version.toNat ++
    encode 2 header.opcode.toNat ++ encode 4 header.requestId.toNat ++
    encode 4 header.payloadSize.toNat

def decodeControlHeader (data : Bytes) : Option ControlHeader :=
  if data.length ≠ kControlHeaderSize then none
  else some {
    magic := UInt32.ofNat (decodeField data 0 4)
    version := UInt16.ofNat (decodeField data 4 2)
    opcode := UInt16.ofNat (decodeField data 6 2)
    requestId := UInt32.ofNat (decodeField data 8 4)
    payloadSize := UInt32.ofNat (decodeField data 12 4) }

def validateControlHeader (header : ControlHeader) : ControlHeaderValidation :=
  if header.magic ≠ kControlMagic then .badMagic
  else if header.version ≠ kControlVersion then .unsupportedVersion
  else if header.payloadSize.toNat > kMaxControlPayloadSize then .payloadTooLarge
  else .valid

/-- `none` is the `length_error` for a payload that is too large. -/
def encodeControlFrame (opcode : UInt16) (requestId : UInt32) (payload : Bytes) : Option Bytes :=
  if payload.length > kMaxControlPayloadSize then none
  else some (encodeControlHeader { opcode, requestId, payloadSize := UInt32.ofNat payload.length } ++ payload)

def controlFrame (opcode : UInt16) (requestId : UInt32) (payload : Bytes) : ControlFrame :=
  ⟨{ opcode, requestId, payloadSize := UInt32.ofNat payload.length }, payload⟩

/-- The writes of a `PayloadWriter`. Strings come out of control frames, so their
length always fits its four bytes. -/
def writeU16 (value : UInt16) : Bytes := encode 2 value.toNat
def writeU32 (value : UInt32) : Bytes := encode 4 value.toNat
def writeU64 (value : UInt64) : Bytes := encode 8 value.toNat
def writeString (value : Bytes) : Bytes := encode 4 value.length ++ value

/-- A read of a `PayloadReader`, whose state is what remains of the payload. -/
abbrev PayloadReader := StateT Bytes Option

namespace PayloadReader

def readInteger (width : Nat) : PayloadReader Nat := fun remaining =>
  if remaining.length < width then none else some (decode (remaining.take width), remaining.drop width)

def readU16 : PayloadReader UInt16 := UInt16.ofNat <$> readInteger 2
def readU32 : PayloadReader UInt32 := UInt32.ofNat <$> readInteger 4
def readU64 : PayloadReader UInt64 := UInt64.ofNat <$> readInteger 8

def readString : PayloadReader Bytes := do
  let size ← readU32
  fun remaining =>
    if size.toNat > remaining.length then none else some (remaining.take size.toNat, remaining.drop size.toNat)

def readAll {α : Type} (reader : PayloadReader α) (payload : Bytes) : Option α :=
  match reader payload with
  | some (value, []) => some value
  | _ => none

end PayloadReader

/-- A request with the fields that its payload carries. The transport is the
number on the wire, which need not have an enumerator. -/
inductive Request where
  | registerNode (nodeName : Bytes)
  | unregisterNode (nodeId : UInt64)
  | advertiseTopic (nodeId : UInt64) (topicName typeName typeHash : Bytes) (maxMessageSize : UInt64) (transport : UInt16)
      (pool : SharedPoolMetadata)
  | unadvertiseTopic (nodeId endpointId : UInt64)
  | subscribeTopic (nodeId : UInt64) (topicName typeName typeHash : Bytes) (maxMessageSize : UInt64)
      (dataSocketPath : Bytes) (transport : UInt16) (queue : SharedQueueMetadata)
  | unsubscribeTopic (nodeId endpointId : UInt64)
  | resolveEndpoint (nodeId endpointId : UInt64)
  | listNodes
  | listTopics
  | queryTopic (topicName : Bytes)
  | attachHeartbeat (nodeId sessionId : UInt64)
  | heartbeat (nodeId sessionId : UInt64)
  | queryStats
  deriving DecidableEq, Repr

namespace Request
open PayloadReader

/-- Two ids, which is what half of the requests carry. -/
def readIds (request : UInt64 → UInt64 → Request) : PayloadReader Request := return request (← readU64) (← readU64)

def readAdvertiseTopic : PayloadReader Request := do
  let nodeId ← readU64
  let topicName ← readString
  let typeName ← readString
  let typeHash ← readString
  let maxMessageSize ← readU64
  let transport ← readU16
  let shmName ← readString
  let poolId ← readU64
  let segmentSize ← readU64
  let layoutVersion ← readU16
  return .advertiseTopic nodeId topicName typeName typeHash maxMessageSize transport
    { shmName, poolId, segmentSize, layoutVersion }

def readSubscribeTopic : PayloadReader Request := do
  let nodeId ← readU64
  let topicName ← readString
  let typeName ← readString
  let typeHash ← readString
  let maxMessageSize ← readU64
  let dataSocketPath ← readString
  let transport ← readU16
  let shmName ← readString
  let queueId ← readU64
  let segmentSize ← readU64
  let capacity ← readU32
  let layoutVersion ← readU16
  let overflowPolicy ← readU16
  let blockTimeoutMs ← readU64
  return .subscribeTopic nodeId topicName typeName typeHash maxMessageSize dataSocketPath transport
    { shmName, queueId, segmentSize, capacity, layoutVersion, overflowPolicy, blockTimeoutMs }

/-- The reads at the top of each case of `dispatch`. -/
def read : Opcode → PayloadReader Request
  | .registerNode => return .registerNode (← readString)
  | .unregisterNode => return .unregisterNode (← readU64)
  | .advertiseTopic => readAdvertiseTopic
  | .unadvertiseTopic => readIds .unadvertiseTopic
  | .subscribeTopic => readSubscribeTopic
  | .unsubscribeTopic => readIds .unsubscribeTopic
  | .resolveEndpoint => readIds .resolveEndpoint
  | .listNodes => return .listNodes
  | .listTopics => return .listTopics
  | .queryTopic => return .queryTopic (← readString)
  | .attachHeartbeat => readIds .attachHeartbeat
  | .heartbeat => readIds .heartbeat
  | .queryStats => return .queryStats
  | .response => fun _ => none

def opcode : Request → Opcode
  | .registerNode .. => .registerNode
  | .unregisterNode .. => .unregisterNode
  | .advertiseTopic .. => .advertiseTopic
  | .unadvertiseTopic .. => .unadvertiseTopic
  | .subscribeTopic .. => .subscribeTopic
  | .unsubscribeTopic .. => .unsubscribeTopic
  | .resolveEndpoint .. => .resolveEndpoint
  | .listNodes => .listNodes
  | .listTopics => .listTopics
  | .queryTopic .. => .queryTopic
  | .attachHeartbeat .. => .attachHeartbeat
  | .heartbeat .. => .heartbeat
  | .queryStats => .queryStats

def writeIds (first second : UInt64) : Bytes := writeU64 first ++ writeU64 second

/-- The payload that the `RegistryClient` writes for a request. -/
def payload : Request → Bytes
  | .registerNode nodeName => writeString nodeName
  | .unregisterNode nodeId => writeU64 nodeId
  | .advertiseTopic nodeId topicName typeName typeHash maxMessageSize transport pool =>
    writeU64 nodeId ++ (writeString topicName ++ (writeString typeName ++ (writeString typeHash ++
      (writeU64 maxMessageSize ++ (writeU16 transport ++ (writeString pool.shmName ++ (writeU64 pool.poolId ++
      (writeU64 pool.segmentSize ++ writeU16 pool.layoutVersion))))))))
  | .unadvertiseTopic nodeId endpointId => writeIds nodeId endpointId
  | .subscribeTopic nodeId topicName typeName typeHash maxMessageSize dataSocketPath transport queue =>
    writeU64 nodeId ++ (writeString topicName ++ (writeString typeName ++ (writeString typeHash ++
      (writeU64 maxMessageSize ++ (writeString dataSocketPath ++ (writeU16 transport ++ (writeString queue.shmName ++
      (writeU64 queue.queueId ++ (writeU64 queue.segmentSize ++ (writeU32 queue.capacity ++
      (writeU16 queue.layoutVersion ++ (writeU16 queue.overflowPolicy ++ writeU64 queue.blockTimeoutMs))))))))))))
  | .unsubscribeTopic nodeId endpointId => writeIds nodeId endpointId
  | .resolveEndpoint nodeId endpointId => writeIds nodeId endpointId
  | .listNodes => []
  | .listTopics => []
  | .queryTopic topicName => writeString topicName
  | .attachHeartbeat nodeId sessionId => writeIds nodeId sessionId
  | .heartbeat nodeId sessionId => writeIds nodeId sessionId
  | .queryStats => []

end Request

def decodeRequest (opcode : Opcode) (payload : Bytes) : Option Request := PayloadReader.readAll (Request.read opcode) payload

def ErrorCode.value : ErrorCode → UInt16
  | .ok => 0
  | .invalidArgument => 1
  | .invalidState => 2
  | .messageTooLarge => 3
  | .connectionLost => 4
  | .ioError => 5
  | .timeout => 6
  | .invalidFrame => 7
  | .registryUnavailable => 8
  | .duplicateNode => 9
  | .duplicatePublisher => 10
  | .typeMismatch => 11
  | .topicNotFound => 12
  | .invalidControlMessage => 13
  | .unsupportedProtocolVersion => 14
  | .unknownOpcode => 15
  | .invalidRequestId => 16
  | .notRegistered => 17
  | .endpointNotFound => 18
  | .transportMismatch => 19
  | .sharedMemoryError => 20
  | .sharedMemoryNotFound => 21
  | .invalidSharedMemory => 22
  | .cleanupFailed => 23
  | .poolExhausted => 24
  | .invalidChunkHandle => 25
  | .duplicateRelease => 26
  | .queueFull => 27
  | .queueTimeout => 28
  | .queueClosed => 29
  | .unsupportedTransport => 30

def errorMessage : ErrorCode → String
  | .ok => "ok"
  | .invalidArgument => "invalid argument"
  | .invalidState => "invalid state"
  | .messageTooLarge => "message too large"
  | .connectionLost => "connection lost"
  | .ioError => "I/O error"
  | .timeout => "timeout"
  | .invalidFrame => "invalid frame"
  | .registryUnavailable => "registry unavailable"
  | .duplicateNode => "duplicate node"
  | .duplicatePublisher => "duplicate publisher"
  | .typeMismatch => "type mismatch"
  | .topicNotFound => "topic not found"
  | .invalidControlMessage => "invalid control message"
  | .unsupportedProtocolVersion => "unsupported protocol version"
  | .unknownOpcode => "unknown opcode"
  | .invalidRequestId => "invalid request ID"
  | .notRegistered => "not registered"
  | .endpointNotFound => "endpoint not found"
  | .transportMismatch => "transport mismatch"
  | .sharedMemoryError => "shared memory error"
  | .sharedMemoryNotFound => "shared memory object not found"
  | .invalidSharedMemory => "invalid shared memory object"
  | .cleanupFailed => "resource cleanup failed"
  | .poolExhausted => "memory pool exhausted"
  | .invalidChunkHandle => "invalid chunk handle"
  | .duplicateRelease => "duplicate chunk release"
  | .queueFull => "subscriber queue full"
  | .queueTimeout => "subscriber queue wait timed out"
  | .queueClosed => "subscriber queue closed"
  | .unsupportedTransport => "operation is unsupported by this transport"

/-- The message of a response: none for success. -/
def responseMessage (error : ErrorCode) : Bytes :=
  if error = .ok then [] else (errorMessage error).toList.map fun character => UInt8.ofNat character.toNat

def encodeResponsePayload (error : ErrorCode) (body : Bytes) : Bytes :=
  writeU16 error.value ++ writeString (responseMessage error) ++ body

/-- The frame that `queueResponse` makes: a response that does not fit is replaced
by `MessageTooLarge`. -/
def responseFrame (requestId : UInt32) (error : ErrorCode) (body : Bytes) : Bytes :=
  let encode := encodeControlFrame Opcode.response.value requestId
  ((encode (encodeResponsePayload error body)).or (encode (encodeResponsePayload .messageTooLarge []))).getD []

end RobotMiddleware
