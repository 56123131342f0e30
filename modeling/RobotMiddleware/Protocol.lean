import Mathlib.Data.List.Basic

/-! Identities, descriptors and result codes shared by every component.
A `std::string` is its bytes, and ids keep the width they have on the wire. -/

namespace RobotMiddleware

abbrev Bytes := List UInt8

inductive ErrorCode where
  | ok | invalidArgument | invalidState | messageTooLarge | connectionLost | ioError | timeout | invalidFrame
  | registryUnavailable | duplicateNode | duplicatePublisher | typeMismatch | topicNotFound
  | invalidControlMessage | unsupportedProtocolVersion | unknownOpcode | invalidRequestId | notRegistered
  | endpointNotFound | transportMismatch | sharedMemoryError | sharedMemoryNotFound | invalidSharedMemory
  | cleanupFailed | poolExhausted | invalidChunkHandle | duplicateRelease | queueFull | queueTimeout
  | queueClosed | unsupportedTransport
  deriving DecidableEq, Repr, Inhabited

/-- What a source function throws, with the text it carries. -/
inductive Exception where
  | invalidArgument (what : String)
  | overflowError (what : String)
  | outOfRange
  | systemError (errno : Nat) (what : String)
  | middleware (code : ErrorCode) (what : String)
  deriving DecidableEq, Repr

inductive TransportType where
  | unixDomainSocket | sharedMemory
  deriving DecidableEq, Repr

inductive OverflowPolicy where
  | dropNewest | dropOldest | blockWithTimeout
  deriving DecidableEq, Repr

def kPoolLayoutVersion : UInt16 := 1
def kQueueLayoutVersion : UInt16 := 3
def kMaxPoolNameSize : Nat := 192

structure PoolDescriptor where
  shmName : Bytes := []
  poolId : UInt64 := 0
  segmentSize : UInt64 := 0
  topicId : UInt64 := 0
  layoutVersion : UInt16 := 0
  deriving DecidableEq, Repr, Inhabited

structure ChunkHandle where
  poolId : UInt64 := 0
  chunkIndex : UInt32 := 0
  generation : UInt32 := 0
  payloadOffset : UInt64 := 0
  deriving DecidableEq, Repr, Inhabited

structure QueueDescriptor where
  shmName : Bytes
  queueId : UInt64
  segmentSize : UInt64
  capacity : UInt32
  layoutVersion : UInt16
  overflowPolicy : OverflowPolicy
  blockTimeoutMs : UInt64
  deriving DecidableEq, Repr

def slash : UInt8 := 47

def isValidSharedMemoryName (name : Bytes) : Bool :=
  2 ≤ name.length && name.length ≤ 192 && name.head? == some slash &&
    !(name.drop 1).contains slash && !name.contains 0

end RobotMiddleware
