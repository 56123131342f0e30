import RobotMiddleware.FrameProtocol
import RobotMiddleware.MemoryPool

/-! The state of a subscriber and the parts of its calls between two points where
other processes can act: one `recv` with the decoding that follows it, an accept,
a reset. The queue object exists exactly on the shared memory transport, and
`std::shared_ptr`s are the values that they point to. -/

namespace RobotMiddleware

/-- The subscriber's end of a data connection as the kernel keeps it: which
publisher opened it, the bytes not read yet, and whether that publisher's end is
closed. -/
structure DataSocket where
  publisher : Nat
  pending : Bytes := []
  closed : Bool := false
  deriving DecidableEq, Repr

/-- What a `recv` with `MSG_DONTWAIT` returns. `connectionReset` stands for
`ECONNRESET` and `ENOTCONN`, `failed` for every errno without a case of its own. -/
inductive RecvOutcome where
  | bytes (count : Nat)
  | endOfStream
  | connectionReset
  | wouldBlock
  | interrupted
  | failed
  deriving DecidableEq, Repr

/-- The outcomes that the socket can give a `recv` for `wanted` bytes. -/
def DataSocket.allows (socket : DataSocket) (wanted : Nat) : RecvOutcome → Bool
  | .bytes count => 0 < count && count ≤ wanted && count ≤ socket.pending.length
  | .endOfStream | .connectionReset => socket.pending.isEmpty && socket.closed
  | .wouldBlock => socket.pending.isEmpty && !socket.closed
  | .interrupted | .failed => true

/-- What mapping the segment of a pool finds. -/
inductive SegmentOutcome where
  | opened | invalid | notFound | systemError
  deriving DecidableEq, Repr

/-- `MemoryPoolView::open`, as the code that `receiveWakeAvailable` makes of it. -/
def MemoryPoolView.openPool (descriptor : PoolDescriptor) (expectedTopicId : UInt64) (segment : SegmentOutcome) :
    ErrorCode :=
  if descriptor.poolId = 0 ∨ descriptor.segmentSize < kPoolHeaderSize ∨ descriptor.topicId ≠ expectedTopicId ∨
      descriptor.layoutVersion ≠ kPoolLayoutVersion then
    .invalidSharedMemory
  else
    match segment with
    | .opened => .ok
    | .invalid => .invalidSharedMemory
    | .notFound => .sharedMemoryNotFound
    | .systemError => .sharedMemoryError

structure ReceivedMessage where
  payload : Bytes
  sequence : UInt64
  publishTimestampNs : UInt64
  deriving DecidableEq, Repr

inductive UdsReceiveStatus where
  | needMore
  | messageReady (message : ReceivedMessage)
  | disconnected | truncated | invalidFrame | messageTooLarge | transportMismatch | ioError
  deriving DecidableEq, Repr

/-- `connection` is the release context's socket, `headerBuffer` the received
part of the header and `payload` that of the payload. -/
structure Subscriber where
  transport : TransportType
  maxMessageSize : UInt64
  topicId : UInt64
  queueId : UInt64
  connection : Option DataSocket := none
  headerBuffer : Bytes := []
  decodedHeader : Option FrameHeader := none
  payload : Bytes := []
  lastError : ErrorCode := .ok
  discoveredPool : PoolDescriptor := {}
  poolView : Option PoolDescriptor := none
  deriving DecidableEq, Repr

namespace Subscriber

def resetFrame (subscriber : Subscriber) : Subscriber :=
  { subscriber with headerBuffer := [], decodedHeader := none, payload := [] }

def resetConnection (subscriber : Subscriber) : Subscriber :=
  resetFrame { subscriber with connection := none }

/-- `resetPublisherState` after its `discardPool`. -/
def resetPublisher (subscriber : Subscriber) (deadPoolId : UInt64) : Subscriber :=
  if deadPoolId ≠ 0 ∧ subscriber.discoveredPool.poolId ≠ 0 ∧ subscriber.discoveredPool.poolId ≠ deadPoolId then subscriber
  else { subscriber.resetConnection with poolView := none, discoveredPool := {} }

/-- `acceptPendingConnection` when the listener has this connection. -/
def acceptConnection (subscriber : Subscriber) (socket : DataSocket) : Subscriber :=
  resetFrame { subscriber with connection := some socket }

/-- The descriptor that the subscriber remembers admits the one of the Wake. -/
def remembers (subscriber : Subscriber) (pool : PoolDescriptor) : Bool :=
  subscriber.discoveredPool.shmName == [] ||
    subscriber.discoveredPool.shmName == pool.shmName && subscriber.discoveredPool.poolId == pool.poolId &&
      subscriber.discoveredPool.segmentSize == pool.segmentSize &&
      subscriber.discoveredPool.layoutVersion == pool.layoutVersion

/-- `receiveWakeAvailable` once the header buffer is full. -/
def takeWake (subscriber : Subscriber) (segment : SegmentOutcome) : ErrorCode × Subscriber :=
  let wake := decodeQueueWake subscriber.headerBuffer
  let subscriber := subscriber.resetFrame
  match wake with
  | none => (.invalidFrame, subscriber)
  | some wake =>
    if validateQueueWake wake subscriber.queueId subscriber.topicId ≠ .ok then (.invalidFrame, subscriber)
    else if !subscriber.remembers wake.pool then (.invalidSharedMemory, subscriber)
    else
      match subscriber.poolView with
      | none =>
        match MemoryPoolView.openPool wake.pool subscriber.topicId segment with
        | .ok => (.ok, { subscriber with poolView := some wake.pool, discoveredPool := wake.pool })
        | error => (error, subscriber)
      | some view =>
        if view.shmName ≠ wake.pool.shmName ∨ view.poolId ≠ wake.pool.poolId ∨ view.segmentSize ≠ wake.pool.segmentSize then
          (.invalidSharedMemory, subscriber)
        else (.ok, subscriber)

/-- One `recv` of `receiveWakeAvailable`; `none` means that its loop goes on. -/
def receiveWake (subscriber : Subscriber) (socket : DataSocket) (outcome : RecvOutcome) (segment : SegmentOutcome) :
    Option ErrorCode × Subscriber :=
  match outcome with
  | .bytes count =>
    let subscriber := { subscriber with
      connection := some { socket with pending := socket.pending.drop count }
      headerBuffer := subscriber.headerBuffer ++ socket.pending.take count }
    if subscriber.headerBuffer.length < kQueueWakeSize then (none, subscriber)
    else
      let (error, subscriber) := subscriber.takeWake segment
      (some error, subscriber)
  | .endOfStream => (some (if subscriber.headerBuffer = [] then .connectionLost else .invalidFrame), subscriber)
  | .interrupted => (none, subscriber)
  | .wouldBlock => (some .timeout, subscriber)
  | .connectionReset => (some .connectionLost, subscriber)
  | .failed => (some .ioError, subscriber)

/-- `receiveUdsAvailable` between two `recv`s: decode a complete header, return a
complete message. -/
def advanceUds (subscriber : Subscriber) : Option UdsReceiveStatus × Subscriber :=
  if subscriber.headerBuffer.length < kFrameHeaderSize then (none, subscriber)
  else
    match subscriber.decodedHeader <|> decodeFrameHeader subscriber.headerBuffer with
    | none => (some .invalidFrame, subscriber)
    | some header =>
      let decoded := { subscriber with decodedHeader := some header }
      match subscriber.decodedHeader, validateFrameHeader header subscriber.maxMessageSize with
      | none, .badMagic =>
        (some (if header.magic.toNat = kQueueProtocolMagic then .transportMismatch else .invalidFrame), decoded)
      | none, .payloadTooLarge => (some .messageTooLarge, decoded)
      | _, _ =>
        if subscriber.payload.length < header.payloadSize.toNat then (none, decoded)
        else (some (.messageReady ⟨subscriber.payload, header.sequence, header.timestampNs⟩), decoded.resetFrame)

/-- How many bytes the next `recv` asks for. -/
def wanted (subscriber : Subscriber) : Nat :=
  match subscriber.transport with
  | .sharedMemory => kQueueWakeSize - subscriber.headerBuffer.length
  | .unixDomainSocket =>
    if subscriber.headerBuffer.length < kFrameHeaderSize then kFrameHeaderSize - subscriber.headerBuffer.length
    else (subscriber.decodedHeader.elim 0 fun header => header.payloadSize.toNat) - subscriber.payload.length

/-- One `recv` of `receiveUdsAvailable`; `none` means that its loop goes on. -/
def receiveUds (subscriber : Subscriber) (socket : DataSocket) (outcome : RecvOutcome) :
    Option UdsReceiveStatus × Subscriber :=
  let inHeader := subscriber.headerBuffer.length < kFrameHeaderSize
  match outcome with
  | .bytes count =>
    let received := { subscriber with connection := some { socket with pending := socket.pending.drop count } }
    if inHeader then
      advanceUds { received with headerBuffer := subscriber.headerBuffer ++ socket.pending.take count }
    else advanceUds { received with payload := subscriber.payload ++ socket.pending.take count }
  | .endOfStream => (some (if subscriber.headerBuffer = [] then .disconnected else .truncated), subscriber)
  | .interrupted => (none, subscriber)
  | .wouldBlock => (some .needMore, subscriber)
  | .connectionReset => (some (if inHeader then .disconnected else .ioError), subscriber)
  | .failed => (some .ioError, subscriber)

/-- The error that `waitAndTake` makes of a status. -/
def udsError : UdsReceiveStatus → ErrorCode
  | .needMore | .messageReady _ => .ok
  | .disconnected => .connectionLost
  | .truncated | .invalidFrame => .invalidFrame
  | .messageTooLarge => .messageTooLarge
  | .transportMismatch => .transportMismatch
  | .ioError => .ioError

end Subscriber
end RobotMiddleware
