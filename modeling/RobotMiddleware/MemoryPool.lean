import RobotMiddleware.Lib.Memory
import RobotMiddleware.PoolLayout

/-! The publisher's memory pool. The chunk header that the source finds at
`directory[i].header_offset` is entry `i` of `headers`; the rest of the segment
is `memory`. A vector keeps its order, so `push_back` appends at the end. -/

namespace RobotMiddleware

inductive ChunkState where
  | free | loaned | published | released
  deriving DecidableEq, Repr, Inhabited

structure ChunkHeader where
  refCount : UInt32 := 0
  state : ChunkState := .free
  payloadSize : UInt32 := 0
  capacity : UInt32 := 0
  sizeClassIndex : UInt32 := 0
  generation : UInt32 := 0
  sequence : UInt64 := 0
  publishTimestampNs : UInt64 := 0
  topicId : UInt64 := 0
  poolId : UInt64 := 0
  deriving DecidableEq, Repr, Inhabited

structure PoolInstrumentation where
  shmCreateCalls : UInt64 := 0
  truncateCalls : UInt64 := 0
  writableMapCalls : UInt64 := 0
  allocations : UInt64 := 0
  payloadCopies : UInt64 := 0
  releases : UInt64 := 0
  reclaims : UInt64 := 0
  allocationFailures : UInt64 := 0
  deriving DecidableEq, Repr

structure AllocationResult where
  error : ErrorCode := .ok
  handle : ChunkHandle := {}
  capacity : UInt32 := 0
  deriving DecidableEq, Repr

structure ReleaseResult where
  error : ErrorCode := .ok
  remainingReferences : UInt32 := 0
  becameReleased : Bool := false
  deriving DecidableEq, Repr

/-- `payload` is the offset of the returned pointer in the segment. -/
structure WritableChunkResult where
  error : ErrorCode := .ok
  payload : Option UInt64 := none
  deriving DecidableEq, Repr

structure ChunkViewResult where
  error : ErrorCode := .ok
  payload : Option UInt64 := none
  payloadSize : UInt64 := 0
  sequence : UInt64 := 0
  publishTimestampNs : UInt64 := 0
  deriving DecidableEq, Repr

structure MemoryPool where
  descriptor : PoolDescriptor
  sizeClasses : List SizeClassMetadata
  directory : List ChunkDirectoryEntry
  headers : List ChunkHeader
  freeLists : List (List UInt32)
  memory : Nat → UInt8
  instrumentation : PoolInstrumentation

namespace MemoryPool

def requiredSegmentSize (config : MemoryPoolConfig) (ownerPid : UInt64) : Except Exception UInt64 :=
  return (← makeLayout config 1 1 ownerPid).header.segmentSize

/-- The header that `create` constructs for one directory entry. -/
def freshHeader (descriptor : PoolDescriptor) (entry : ChunkDirectoryEntry) : ChunkHeader :=
  { capacity := entry.capacity.toUInt32, sizeClassIndex := entry.sizeClassIndex,
    topicId := descriptor.topicId, poolId := descriptor.poolId }

/-- The constructor's loop pushes chunk indices from the last to the first. -/
def initialFreeLists (sizeClasses : List SizeClassMetadata) (directory : List ChunkDirectoryEntry) : List (List UInt32) :=
  (List.range sizeClasses.length).map fun classIndex =>
    ((List.range directory.length).reverse.filter fun index =>
      (directory.getD index default).sizeClassIndex.toNat == classIndex).map UInt32.ofNat

/-- `SharedMemoryRegion::create` is taken to succeed with a zeroed segment. -/
def create (descriptor : PoolDescriptor) (config : MemoryPoolConfig) (ownerPid : UInt64) : Except Exception MemoryPool :=
  if descriptor.poolId = 0 ∨ descriptor.topicId = 0 ∨ descriptor.layoutVersion ≠ kPoolLayoutVersion then
    .error (.invalidArgument "invalid memory pool descriptor")
  else do
    let layout ← makeLayout config descriptor.poolId descriptor.topicId ownerPid
    if descriptor.segmentSize ≠ layout.header.segmentSize then
      .error (.invalidArgument "memory pool descriptor size does not match configuration")
    else
      pure {
        descriptor
        sizeClasses := layout.sizeClasses
        directory := layout.directory
        headers := layout.directory.map (freshHeader descriptor)
        freeLists := initialFreeLists layout.sizeClasses layout.directory
        memory := fun _ => 0
        instrumentation := { shmCreateCalls := 1, truncateCalls := 1, writableMapCalls := 1 } }

def chunkHeader (pool : MemoryPool) (index : UInt32) : ChunkHeader := pool.headers.getD index.toNat default

def directoryEntry (pool : MemoryPool) (index : UInt32) : ChunkDirectoryEntry := pool.directory.getD index.toNat default

def freeList (pool : MemoryPool) (classIndex : Nat) : List UInt32 := pool.freeLists.getD classIndex []

def setHeader (pool : MemoryPool) (index : UInt32) (header : ChunkHeader) : MemoryPool :=
  { pool with headers := pool.headers.set index.toNat header }

def setFreeList (pool : MemoryPool) (classIndex : Nat) (indices : List UInt32) : MemoryPool :=
  { pool with freeLists := pool.freeLists.set classIndex indices }

def handleMatches (pool : MemoryPool) (handle : ChunkHandle) (header : ChunkHeader) : Bool :=
  handle.poolId == pool.descriptor.poolId && handle.generation == header.generation &&
    handle.payloadOffset == (pool.directoryEntry handle.chunkIndex).payloadOffset

/-- The two checks that every operation on a handle makes first; failing either
one is `InvalidChunkHandle`. -/
def matchedHeader (pool : MemoryPool) (handle : ChunkHandle) : Option ChunkHeader :=
  if handle.chunkIndex.toNat ≥ pool.directory.length then none
  else if pool.handleMatches handle (pool.chunkHeader handle.chunkIndex) then some (pool.chunkHeader handle.chunkIndex)
  else none

/-- `++header->generation`, which steps over zero. -/
def nextGeneration (generation : UInt32) : UInt32 :=
  if generation + 1 = 0 then 1 else generation + 1

def allocate (pool : MemoryPool) (payloadSize : UInt64) : AllocationResult × MemoryPool :=
  match pool.sizeClasses.findIdx? fun item => item.capacity ≥ payloadSize with
  | none => ({ error := .messageTooLarge }, pool)
  | some classIndex =>
    match (pool.freeList classIndex).getLast? with
    | none =>
      ({ error := .poolExhausted },
        { pool with instrumentation.allocationFailures := pool.instrumentation.allocationFailures + 1 })
    | some chunkIndex =>
      let popped := (pool.freeList classIndex).dropLast
      let header := pool.chunkHeader chunkIndex
      if header.state ≠ .free ∨ header.refCount ≠ 0 then
        ({ error := .invalidState }, pool.setFreeList classIndex (popped ++ [chunkIndex]))
      else
        let header := { header with
          generation := nextGeneration header.generation
          payloadSize := payloadSize.toUInt32
          sequence := 0
          publishTimestampNs := 0
          state := .loaned }
        let updated := (pool.setFreeList classIndex popped).setHeader chunkIndex header
        ({ handle := ⟨pool.descriptor.poolId, chunkIndex, header.generation, (pool.directoryEntry chunkIndex).payloadOffset⟩
           capacity := header.capacity },
          { updated with instrumentation.allocations := pool.instrumentation.allocations + 1 })

def writablePayload (pool : MemoryPool) (handle : ChunkHandle) : WritableChunkResult :=
  match pool.matchedHeader handle with
  | none => { error := .invalidChunkHandle }
  | some header =>
    if header.state ≠ .loaned then { error := .invalidState } else { payload := some handle.payloadOffset }

def publishLocked (pool : MemoryPool) (handle : ChunkHandle) (payloadSize : UInt64) (sequence : UInt64)
    (initialReferences : UInt32) : ErrorCode :=
  match pool.matchedHeader handle with
  | none => .invalidChunkHandle
  | some header =>
    if header.state ≠ .loaned then .invalidState
    else if payloadSize ≠ header.payloadSize.toUInt64 ∨ payloadSize > header.capacity.toUInt64 ∨ sequence = 0 ∨
        initialReferences = 0 then .invalidArgument
    else .ok

/-- The header stores that both publish operations make after validation. -/
def markPublished (pool : MemoryPool) (handle : ChunkHandle) (sequence publishTimestampNs : UInt64)
    (references : UInt32) : MemoryPool :=
  pool.setHeader handle.chunkIndex { pool.chunkHeader handle.chunkIndex with
    sequence, publishTimestampNs, refCount := references, state := .published }

/-- `data` is `none` for a null pointer. -/
def writeAndPublish (pool : MemoryPool) (handle : ChunkHandle) (data : Option Bytes) (payloadSize : UInt64)
    (sequence publishTimestampNs : UInt64) (subscriberReferences : UInt32) : ErrorCode × MemoryPool :=
  if payloadSize ≠ 0 ∧ data = none then (.invalidArgument, pool)
  else
    match pool.publishLocked handle payloadSize sequence subscriberReferences with
    | .ok =>
      let copied := { pool with
        memory := Lib.Memory.write pool.memory handle.payloadOffset.toNat ((data.getD []).take payloadSize.toNat) }
      let published := copied.markPublished handle sequence publishTimestampNs subscriberReferences
      (.ok, { published with instrumentation.payloadCopies := pool.instrumentation.payloadCopies + 1 })
    | validation => (validation, pool)

def publishLoaned (pool : MemoryPool) (handle : ChunkHandle) (payloadSize : UInt64) (sequence publishTimestampNs : UInt64)
    (initialReferences : UInt32) : ErrorCode × MemoryPool :=
  match pool.publishLocked handle payloadSize sequence initialReferences with
  | .ok => (.ok, pool.markPublished handle sequence publishTimestampNs initialReferences)
  | validation => (validation, pool)

def addReference (pool : MemoryPool) (handle : ChunkHandle) : ErrorCode × MemoryPool :=
  match pool.matchedHeader handle with
  | none => (.invalidChunkHandle, pool)
  | some header =>
    if header.state ≠ .published then (.invalidState, pool)
    else if header.refCount = 0 ∨ header.refCount = uint32Max.toUInt32 then (.invalidState, pool)
    else (.ok, pool.setHeader handle.chunkIndex { header with refCount := header.refCount + 1 })

def release (pool : MemoryPool) (handle : ChunkHandle) : ReleaseResult × MemoryPool :=
  match pool.matchedHeader handle with
  | none => ({ error := .invalidChunkHandle }, pool)
  | some header =>
    if header.state ≠ .published then
      ({ error := .duplicateRelease, remainingReferences := header.refCount }, pool)
    else if header.refCount = 0 then ({ error := .duplicateRelease }, pool)
    else
      let remaining := header.refCount - 1
      let released := remaining == 0
      let updated := pool.setHeader handle.chunkIndex
        { header with refCount := remaining, state := if released then .released else header.state }
      ({ remainingReferences := remaining, becameReleased := released },
        { updated with instrumentation.releases := pool.instrumentation.releases + 1 })

/-- The way back to the free list that `reclaim` and `cancel` share. -/
def returnChunk (pool : MemoryPool) (index : UInt32) (header : ChunkHeader) : MemoryPool :=
  let freed := pool.setHeader index { header with payloadSize := 0, state := .free }
  let returned := freed.setFreeList header.sizeClassIndex.toNat (pool.freeList header.sizeClassIndex.toNat ++ [index])
  { returned with instrumentation.reclaims := pool.instrumentation.reclaims + 1 }

def reclaim (pool : MemoryPool) (handle : ChunkHandle) : ErrorCode × MemoryPool :=
  match pool.matchedHeader handle with
  | none => (.invalidChunkHandle, pool)
  | some header =>
    if header.state ≠ .released ∨ header.refCount ≠ 0 then (.invalidState, pool)
    else (.ok, pool.returnChunk handle.chunkIndex { header with sequence := 0, publishTimestampNs := 0 })

def cancel (pool : MemoryPool) (handle : ChunkHandle) : ErrorCode × MemoryPool :=
  match pool.matchedHeader handle with
  | none => (.invalidChunkHandle, pool)
  | some header =>
    if header.state ≠ .loaned then (.invalidState, pool)
    else (.ok, pool.returnChunk handle.chunkIndex header)

end MemoryPool

/-- One call on the pool, with whatever arguments the caller passes. -/
inductive PoolOperation where
  | allocate (payloadSize : UInt64)
  | writablePayload (handle : ChunkHandle)
  | writeAndPublish (handle : ChunkHandle) (data : Option Bytes) (payloadSize sequence publishTimestampNs : UInt64)
      (subscriberReferences : UInt32)
  | publishLoaned (handle : ChunkHandle) (payloadSize sequence publishTimestampNs : UInt64) (initialReferences : UInt32)
  | addReference (handle : ChunkHandle)
  | release (handle : ChunkHandle)
  | reclaim (handle : ChunkHandle)
  | cancel (handle : ChunkHandle)

namespace MemoryPool

def perform (pool : MemoryPool) : PoolOperation → ErrorCode × MemoryPool
  | .allocate payloadSize => let (result, after) := pool.allocate payloadSize; (result.error, after)
  | .writablePayload handle => ((pool.writablePayload handle).error, pool)
  | .writeAndPublish handle data payloadSize sequence publishTimestampNs subscriberReferences =>
    pool.writeAndPublish handle data payloadSize sequence publishTimestampNs subscriberReferences
  | .publishLoaned handle payloadSize sequence publishTimestampNs initialReferences =>
    pool.publishLoaned handle payloadSize sequence publishTimestampNs initialReferences
  | .addReference handle => pool.addReference handle
  | .release handle => let (result, after) := pool.release handle; (result.error, after)
  | .reclaim handle => pool.reclaim handle
  | .cancel handle => pool.cancel handle

def performAll (pool : MemoryPool) (operations : List PoolOperation) : MemoryPool :=
  operations.foldl (fun current operation => (current.perform operation).2) pool

end MemoryPool

/-- `MemoryPoolView::read` through a view of this pool: the view's directory and
descriptor are those of the pool it was opened from. -/
def MemoryPoolView.read (pool : MemoryPool) (handle : ChunkHandle) (maxMessageSize : UInt64) : ChunkViewResult :=
  let entry := pool.directoryEntry handle.chunkIndex
  let header := pool.chunkHeader handle.chunkIndex
  if handle.poolId ≠ pool.descriptor.poolId ∨ handle.chunkIndex.toNat ≥ pool.directory.length ∨
      handle.generation = 0 ∨ handle.payloadOffset ≠ entry.payloadOffset then
    { error := .invalidChunkHandle }
  else if header.state ≠ .published ∨ header.generation ≠ handle.generation ∨
      header.poolId ≠ pool.descriptor.poolId ∨ header.topicId ≠ pool.descriptor.topicId ∨
      header.capacity.toUInt64 ≠ entry.capacity ∨ header.sizeClassIndex ≠ entry.sizeClassIndex ∨
      header.payloadSize > header.capacity ∨ header.payloadSize.toUInt64 > maxMessageSize ∨
      header.refCount = 0 ∨ header.sequence = 0 then
    { error := .invalidSharedMemory }
  else
    { payload := some entry.payloadOffset, payloadSize := header.payloadSize.toUInt64,
      sequence := header.sequence, publishTimestampNs := header.publishTimestampNs }

end RobotMiddleware
