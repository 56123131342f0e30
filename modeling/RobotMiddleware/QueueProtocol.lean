import RobotMiddleware.Lib.BigEndian
import RobotMiddleware.Protocol

/-! The two fixed-size frames of a data connection: a Wake carries the pool
descriptor to the subscriber, a Release carries one chunk handle back. -/

namespace RobotMiddleware
open Lib.BigEndian

def kQueueProtocolMagic : Nat := 0x4D575135
def kQueueProtocolVersion : Nat := 1
def kQueueWakeHeaderSize : Nat := 80
def kQueueWakeSize : Nat := kQueueWakeHeaderSize + kMaxPoolNameSize
def kQueueReleaseSize : Nat := 32

inductive QueueFrameKind where
  | wake | release
  deriving DecidableEq

def QueueFrameKind.value : QueueFrameKind → Nat
  | .wake => 1
  | .release => 2

structure QueueWake where
  pool : PoolDescriptor
  queueId : UInt64
  deriving DecidableEq, Repr

def encodeQueueWake (wake : QueueWake) : Option Bytes :=
  if !isValidSharedMemoryName wake.pool.shmName || wake.pool.shmName.length > kMaxPoolNameSize || wake.queueId == 0 then
    none
  else
    some (encode 4 kQueueProtocolMagic ++ encode 2 kQueueProtocolVersion ++
      encode 2 QueueFrameKind.wake.value ++ encode 4 kQueueWakeSize ++
      encode 2 wake.pool.shmName.length ++ encode 2 wake.pool.layoutVersion.toNat ++
      encode 8 wake.pool.segmentSize.toNat ++ encode 8 wake.pool.poolId.toNat ++
      encode 8 wake.pool.topicId.toNat ++ encode 8 wake.queueId.toNat ++
      List.replicate 32 0 ++ wake.pool.shmName ++ List.replicate (kMaxPoolNameSize - wake.pool.shmName.length) 0)

/-- The integer of `width` bytes that stands at `data + offset`. -/
def decodeField (data : Bytes) (offset width : Nat) : Nat :=
  decode ((data.drop offset).take width)

def decodeQueueWake (data : Bytes) : Option QueueWake :=
  if data.length ≠ kQueueWakeSize || decodeField data 0 4 ≠ kQueueProtocolMagic ||
      decodeField data 4 2 ≠ kQueueProtocolVersion || decodeField data 6 2 ≠ QueueFrameKind.wake.value ||
      decodeField data 8 4 ≠ kQueueWakeSize then
    none
  else
    let nameSize := decodeField data 12 2
    if nameSize = 0 ∨ nameSize > kMaxPoolNameSize then none
    else if (data.drop (kQueueWakeHeaderSize + nameSize)).any (· ≠ 0) then none
    else some {
      pool := {
        shmName := (data.drop kQueueWakeHeaderSize).take nameSize
        layoutVersion := UInt16.ofNat (decodeField data 14 2)
        segmentSize := UInt64.ofNat (decodeField data 16 8)
        poolId := UInt64.ofNat (decodeField data 24 8)
        topicId := UInt64.ofNat (decodeField data 32 8) }
      queueId := UInt64.ofNat (decodeField data 40 8) }

def validateQueueWake (wake : QueueWake) (expectedQueueId expectedTopicId : UInt64) : ErrorCode :=
  if !isValidSharedMemoryName wake.pool.shmName || wake.pool.layoutVersion ≠ kPoolLayoutVersion ||
      wake.pool.segmentSize == 0 || wake.pool.poolId == 0 || wake.pool.topicId ≠ expectedTopicId ||
      wake.queueId == 0 || wake.queueId ≠ expectedQueueId then
    .invalidFrame
  else .ok

def encodeQueueRelease (handle : ChunkHandle) : Bytes :=
  encode 4 kQueueProtocolMagic ++ encode 2 kQueueProtocolVersion ++
    encode 2 QueueFrameKind.release.value ++ encode 8 handle.poolId.toNat ++
    encode 4 handle.chunkIndex.toNat ++ encode 4 handle.generation.toNat ++
    encode 8 handle.payloadOffset.toNat

def decodeQueueRelease (data : Bytes) : Option ChunkHandle :=
  if data.length ≠ kQueueReleaseSize || decodeField data 0 4 ≠ kQueueProtocolMagic ||
      decodeField data 4 2 ≠ kQueueProtocolVersion || decodeField data 6 2 ≠ QueueFrameKind.release.value then
    none
  else
    let handle : ChunkHandle := {
      poolId := UInt64.ofNat (decodeField data 8 8)
      chunkIndex := UInt32.ofNat (decodeField data 16 4)
      generation := UInt32.ofNat (decodeField data 20 4)
      payloadOffset := UInt64.ofNat (decodeField data 24 8) }
    if handle.poolId = 0 ∨ handle.generation = 0 then none else some handle

end RobotMiddleware
