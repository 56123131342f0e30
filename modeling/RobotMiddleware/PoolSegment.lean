import RobotMiddleware.Lib.Memory
import RobotMiddleware.MemoryPool
import RobotMiddleware.QueueProtocol

/-! The segment that holds a memory pool, byte by byte: what `MemoryPool::create`
writes into it, what `MemoryPoolView::open` checks when it reads it back and what
`MemoryPoolView::read` makes of it later. -/

namespace RobotMiddleware
open Lib Lib.BigEndian PoolLayout

/-- The largest `off_t`. -/
def offMax : UInt64 := 0x7FFFFFFFFFFFFFFF
/-- `EINVAL` of Linux. -/
def invalidErrno : Nat := 22

/-- A POSIX shared memory object of `size` bytes. -/
structure SharedMemoryRegion where
  name : Bytes
  size : UInt64
  bytes : Nat → UInt8

namespace SharedMemoryRegion

def validateArguments (name : Bytes) (size : UInt64) : Except Exception Unit :=
  if !isValidSharedMemoryName name then .error (.invalidArgument "invalid POSIX shared memory name")
  else if size = 0 ∨ size > offMax then .error (.invalidArgument "invalid shared memory size")
  else .ok ()

/-- `shm_open`, `ftruncate` and `mmap` are taken to give a new object, which is zeroed. -/
def create (name : Bytes) (size : UInt64) : Except Exception SharedMemoryRegion := do
  validateArguments name size
  pure { name, size, bytes := fun _ => 0 }

/-- Mapping `object`, the one that has the name. -/
def openReadOnly (object : SharedMemoryRegion) (name : Bytes) (expectedSize : UInt64) :
    Except Exception SharedMemoryRegion := do
  validateArguments name expectedSize
  if object.size ≠ expectedSize then
    .error (.systemError invalidErrno "shared memory object has unexpected size")
  else pure object

end SharedMemoryRegion

def encodePoolHeader (header : PoolHeader) : Bytes :=
  encode 4 header.magic.toNat ++ encode 2 header.version.toNat ++
    encode 2 header.headerSize.toNat ++ encode 8 header.segmentSize.toNat ++
    encode 8 header.poolId.toNat ++ encode 8 header.topicId.toNat ++
    encode 8 header.ownerPid.toNat ++ encode 4 header.sizeClassCount.toNat ++
    encode 4 header.chunkCount.toNat ++ encode 8 header.sizeClassOffset.toNat ++
    encode 8 header.chunkDirectoryOffset.toNat ++ encode 8 header.chunkStorageOffset.toNat ++
    List.replicate 8 0

def decodePoolHeader (input : Bytes) : PoolHeader where
  magic := UInt32.ofNat (decodeField input 0 4)
  version := UInt16.ofNat (decodeField input 4 2)
  headerSize := UInt16.ofNat (decodeField input 6 2)
  segmentSize := UInt64.ofNat (decodeField input 8 8)
  poolId := UInt64.ofNat (decodeField input 16 8)
  topicId := UInt64.ofNat (decodeField input 24 8)
  ownerPid := UInt64.ofNat (decodeField input 32 8)
  sizeClassCount := UInt32.ofNat (decodeField input 40 4)
  chunkCount := UInt32.ofNat (decodeField input 44 4)
  sizeClassOffset := UInt64.ofNat (decodeField input 48 8)
  chunkDirectoryOffset := UInt64.ofNat (decodeField input 56 8)
  chunkStorageOffset := UInt64.ofNat (decodeField input 64 8)

def encodeSizeClass (metadata : SizeClassMetadata) : Bytes :=
  encode 8 metadata.capacity.toNat ++ encode 4 metadata.firstChunkIndex.toNat ++
    encode 4 metadata.chunkCount.toNat ++ List.replicate 8 0

def decodeSizeClass (input : Bytes) : SizeClassMetadata where
  capacity := UInt64.ofNat (decodeField input 0 8)
  firstChunkIndex := UInt32.ofNat (decodeField input 8 4)
  chunkCount := UInt32.ofNat (decodeField input 12 4)

def encodeDirectoryEntry (entry : ChunkDirectoryEntry) : Bytes :=
  encode 8 entry.headerOffset.toNat ++ encode 8 entry.payloadOffset.toNat ++
    encode 8 entry.capacity.toNat ++ encode 4 entry.sizeClassIndex.toNat ++ List.replicate 4 0

def decodeDirectoryEntry (input : Bytes) : ChunkDirectoryEntry where
  headerOffset := UInt64.ofNat (decodeField input 0 8)
  payloadOffset := UInt64.ofNat (decodeField input 8 8)
  capacity := UInt64.ofNat (decodeField input 16 8)
  sizeClassIndex := UInt32.ofNat (decodeField input 24 4)

/-! A chunk header is an object of the program in shared memory, in the byte order
of the machine: the least significant byte comes first. -/

def encodeNative (width value : Nat) : Bytes := (encode width value).reverse

def decodeNative (data : Bytes) (offset width : Nat) : Nat := decode ((data.drop offset).take width).reverse

def ChunkState.value : ChunkState → UInt32
  | .free => 0
  | .loaned => 1
  | .published => 2
  | .released => 3

/-- The fields of a chunk header as they stand in memory. -/
structure ChunkFields where
  refCount : UInt32
  state : UInt32
  payloadSize : UInt32
  capacity : UInt32
  sizeClassIndex : UInt32
  generation : UInt32
  sequence : UInt64
  publishTimestampNs : UInt64
  topicId : UInt64
  poolId : UInt64
  reserved : UInt64
  deriving DecidableEq, Repr

def ChunkHeader.fields (header : ChunkHeader) : ChunkFields where
  refCount := header.refCount
  state := header.state.value
  payloadSize := header.payloadSize
  capacity := header.capacity
  sizeClassIndex := header.sizeClassIndex
  generation := header.generation
  sequence := header.sequence
  publishTimestampNs := header.publishTimestampNs
  topicId := header.topicId
  poolId := header.poolId
  reserved := 0

def encodeChunkFields (chunk : ChunkFields) : Bytes :=
  encodeNative 4 chunk.refCount.toNat ++ encodeNative 4 chunk.state.toNat ++ encodeNative 4 chunk.payloadSize.toNat ++
    encodeNative 4 chunk.capacity.toNat ++ encodeNative 4 chunk.sizeClassIndex.toNat ++
    encodeNative 4 chunk.generation.toNat ++ encodeNative 8 chunk.sequence.toNat ++
    encodeNative 8 chunk.publishTimestampNs.toNat ++ encodeNative 8 chunk.topicId.toNat ++
    encodeNative 8 chunk.poolId.toNat ++ encodeNative 8 chunk.reserved.toNat

def decodeChunkFields (input : Bytes) : ChunkFields where
  refCount := UInt32.ofNat (decodeNative input 0 4)
  state := UInt32.ofNat (decodeNative input 4 4)
  payloadSize := UInt32.ofNat (decodeNative input 8 4)
  capacity := UInt32.ofNat (decodeNative input 12 4)
  sizeClassIndex := UInt32.ofNat (decodeNative input 16 4)
  generation := UInt32.ofNat (decodeNative input 20 4)
  sequence := UInt64.ofNat (decodeNative input 24 8)
  publishTimestampNs := UInt64.ofNat (decodeNative input 32 8)
  topicId := UInt64.ofNat (decodeNative input 40 8)
  poolId := UInt64.ofNat (decodeNative input 48 8)
  reserved := UInt64.ofNat (decodeNative input 56 8)

namespace MemoryPool

def sizeClassWrites : (index : Nat) → List SizeClassMetadata → List (Memory.Write UInt8)
  | _, [] => []
  | index, metadata :: rest =>
    (kPoolHeaderSize.toNat + index * kSizeClassMetadataSize.toNat, encodeSizeClass metadata) :: sizeClassWrites (index + 1) rest

/-- The second loop: each directory entry, followed by the header of its chunk. -/
def chunkWrites (descriptor : PoolDescriptor) (directoryOffset : UInt64) :
    (index : Nat) → List ChunkDirectoryEntry → List (Memory.Write UInt8)
  | _, [] => []
  | index, entry :: rest =>
    (directoryOffset.toNat + index * kChunkDirectoryEntrySize.toNat, encodeDirectoryEntry entry) ::
      (entry.headerOffset.toNat, encodeChunkFields (freshHeader descriptor entry).fields) ::
      chunkWrites descriptor directoryOffset (index + 1) rest

/-- Everything that `create` writes into the new segment, in its order. -/
def layoutWrites (descriptor : PoolDescriptor) (layout : PoolLayout) : List (Memory.Write UInt8) :=
  (0, encodePoolHeader layout.header) ::
    (sizeClassWrites 0 layout.sizeClasses ++
      chunkWrites descriptor layout.header.chunkDirectoryOffset 0 layout.directory)

/-- `create` together with the segment it leaves behind. -/
def createSegment (descriptor : PoolDescriptor) (config : MemoryPoolConfig) (ownerPid : UInt64) :
    Except Exception (MemoryPool × SharedMemoryRegion) := do
  let pool ← create descriptor config ownerPid
  let layout ← makeLayout config descriptor.poolId descriptor.topicId ownerPid
  let region ← SharedMemoryRegion.create descriptor.shmName layout.header.segmentSize
  pure (pool, { region with bytes := Memory.writeAll region.bytes (layoutWrites descriptor layout) })

end MemoryPool

/-- Code that reads a mapped segment. It may throw; `none` stands for an access
outside the mapping, of which the language says nothing. -/
abbrev Access := ExceptT Exception Option

def Access.checked {α : Type} (outcome : Except Exception α) : Access α := ExceptT.mk (some outcome)

def SharedMemoryRegion.fetch (region : SharedMemoryRegion) (offset count : Nat) : Access Bytes :=
  ExceptT.mk (if offset + count ≤ region.size.toNat then some (.ok (Memory.read region.bytes offset count)) else none)

def rangeInside (offset size limit : UInt64) : Bool := offset ≤ limit && size ≤ limit - offset

structure MemoryPoolView where
  descriptor : PoolDescriptor
  region : SharedMemoryRegion
  sizeClasses : List SizeClassMetadata
  directory : List ChunkDirectoryEntry

namespace MemoryPoolView

def invalidSegment (what : String) : Except Exception Unit := .error (.middleware .invalidSharedMemory what)

def checkDescriptor (descriptor : PoolDescriptor) (expectedTopicId : UInt64) : Except Exception Unit :=
  if descriptor.poolId = 0 ∨ descriptor.segmentSize < kPoolHeaderSize ∨ descriptor.segmentSize > sizeMax ∨
      descriptor.topicId ≠ expectedTopicId ∨ descriptor.layoutVersion ≠ kPoolLayoutVersion then
    invalidSegment "invalid pool descriptor"
  else .ok ()

def checkHeader (descriptor : PoolDescriptor) (expectedTopicId regionSize : UInt64) (header : PoolHeader) :
    Except Exception Unit :=
  if header.magic ≠ kMemoryPoolMagic ∨ header.version ≠ kPoolLayoutVersion ∨
      header.headerSize.toUInt64 ≠ kPoolHeaderSize ∨ header.segmentSize ≠ regionSize ∨
      header.poolId ≠ descriptor.poolId ∨ header.topicId ≠ expectedTopicId ∨ header.sizeClassCount = 0 ∨
      header.chunkCount = 0 ∨ header.sizeClassOffset ≠ kPoolHeaderSize then
    invalidSegment "invalid memory pool header"
  else .ok ()

def metadataInside (regionSize : UInt64) (header : PoolHeader) : Bool :=
  match checkedMultiply header.sizeClassCount.toUInt64 kSizeClassMetadataSize,
      checkedMultiply header.chunkCount.toUInt64 kChunkDirectoryEntrySize with
  | some classBytes, some directoryBytes =>
    header.sizeClassOffset ≤ sizeMax && header.chunkDirectoryOffset ≤ sizeMax && header.chunkStorageOffset ≤ sizeMax &&
      rangeInside header.sizeClassOffset classBytes regionSize &&
      rangeInside header.chunkDirectoryOffset directoryBytes regionSize &&
      header.chunkStorageOffset ≤ regionSize && header.chunkStorageOffset % kChunkAlignment == 0
  | _, _ => false

def checkMetadata (regionSize : UInt64) (header : PoolHeader) : Except Exception Unit :=
  if metadataInside regionSize header then .ok () else invalidSegment "memory pool metadata is out of bounds"

def checkSizeClass (header : PoolHeader) (previousCapacity expectedFirstIndex : UInt64) (metadata : SizeClassMetadata) :
    Except Exception Unit :=
  if metadata.capacity = 0 ∨ metadata.capacity ≤ previousCapacity ∨
      metadata.firstChunkIndex.toUInt64 ≠ expectedFirstIndex ∨ metadata.chunkCount = 0 ∨
      metadata.chunkCount > header.chunkCount ∨
      expectedFirstIndex > (header.chunkCount - metadata.chunkCount).toUInt64 then
    invalidSegment "invalid memory pool size class metadata"
  else .ok ()

/-- The loop over the size-class table, for the `remaining` entries from `index` on;
it returns what it collects and the final `expected_first_index`. -/
def readSizeClasses (region : SharedMemoryRegion) (header : PoolHeader) :
    (remaining index : Nat) → (previousCapacity expectedFirstIndex : UInt64) → Access (List SizeClassMetadata × UInt64)
  | 0, _, _, expectedFirstIndex => pure ([], expectedFirstIndex)
  | remaining + 1, index, previousCapacity, expectedFirstIndex => do
    let data ← region.fetch (header.sizeClassOffset.toNat + index * kSizeClassMetadataSize.toNat) kSizeClassMetadataSize.toNat
    let metadata := decodeSizeClass data
    Access.checked (checkSizeClass header previousCapacity expectedFirstIndex metadata)
    let (others, total) ← readSizeClasses region header remaining (index + 1) metadata.capacity
      (expectedFirstIndex + metadata.chunkCount.toUInt64)
    pure (metadata :: others, total)

def checkTotal (header : PoolHeader) (total : UInt64) : Except Exception Unit :=
  if total ≠ header.chunkCount.toUInt64 then invalidSegment "memory pool chunk count mismatch" else .ok ()

/-- An index past the table and a capacity that is not that of the class are one
condition here: the lookup gives the entry's capacity. -/
def checkEntry (sizeClasses : List SizeClassMetadata) (regionSize previousEnd : UInt64) (entry : ChunkDirectoryEntry) :
    Except Exception Unit :=
  if sizeClasses[entry.sizeClassIndex.toNat]?.map SizeClassMetadata.capacity ≠ some entry.capacity ∨
      entry.headerOffset > sizeMax - chunkHeaderSize ∨ entry.payloadOffset > sizeMax - entry.capacity ∨
      entry.headerOffset % kChunkAlignment ≠ 0 ∨ entry.payloadOffset ≠ entry.headerOffset + chunkHeaderSize ∨
      entry.payloadOffset % kChunkAlignment ≠ 0 ∨ entry.headerOffset < previousEnd ∨ entry.headerOffset > sizeMax ∨
      entry.payloadOffset > sizeMax ∨ entry.capacity > sizeMax ∨
      !rangeInside entry.payloadOffset entry.capacity regionSize then
    invalidSegment "invalid memory pool chunk directory"
  else .ok ()

def checkChunk (descriptor : PoolDescriptor) (entry : ChunkDirectoryEntry) (chunk : ChunkFields) : Except Exception Unit :=
  if chunk.capacity.toUInt64 ≠ entry.capacity ∨ chunk.sizeClassIndex ≠ entry.sizeClassIndex ∨
      chunk.topicId ≠ descriptor.topicId ∨ chunk.poolId ≠ descriptor.poolId then
    invalidSegment "chunk header does not match pool metadata"
  else .ok ()

def readDirectory (region : SharedMemoryRegion) (descriptor : PoolDescriptor) (header : PoolHeader)
    (sizeClasses : List SizeClassMetadata) : (remaining index : Nat) → (previousEnd : UInt64) →
    Access (List ChunkDirectoryEntry)
  | 0, _, _ => pure []
  | remaining + 1, index, previousEnd => do
    let data ← region.fetch (header.chunkDirectoryOffset.toNat + index * kChunkDirectoryEntrySize.toNat)
      kChunkDirectoryEntrySize.toNat
    let entry := decodeDirectoryEntry data
    Access.checked (checkEntry sizeClasses region.size previousEnd entry)
    let chunk ← region.fetch entry.headerOffset.toNat chunkHeaderSize.toNat
    Access.checked (checkChunk descriptor entry (decodeChunkFields chunk))
    let others ← readDirectory region descriptor header sizeClasses remaining (index + 1) (entry.payloadOffset + entry.capacity)
    pure (entry :: others)

/-- `MemoryPoolView::open` on `object`, the one that has the descriptor's name. -/
def openSegment (object : SharedMemoryRegion) (descriptor : PoolDescriptor) (expectedTopicId : UInt64) :
    Access MemoryPoolView := do
  Access.checked (checkDescriptor descriptor expectedTopicId)
  let region ← Access.checked (object.openReadOnly descriptor.shmName descriptor.segmentSize)
  let data ← region.fetch 0 kPoolHeaderSize.toNat
  let header := decodePoolHeader data
  Access.checked (checkHeader descriptor expectedTopicId region.size header)
  Access.checked (checkMetadata region.size header)
  let (sizeClasses, total) ← readSizeClasses region header header.sizeClassCount.toNat 0 0 0
  Access.checked (checkTotal header total)
  let directory ← readDirectory region descriptor header sizeClasses header.chunkCount.toNat 0 header.chunkStorageOffset
  pure { descriptor, region, sizeClasses, directory }

/-- `MemoryPoolView::read` on what the mapping holds at the time of the call; the
header is taken not to change while it is read. -/
def readMapped (view : MemoryPoolView) (handle : ChunkHandle) (maxMessageSize : UInt64) : Access ChunkViewResult :=
  let entry := view.directory.getD handle.chunkIndex.toNat default
  if handle.poolId ≠ view.descriptor.poolId ∨ handle.chunkIndex.toNat ≥ view.directory.length ∨
      handle.generation = 0 ∨ handle.payloadOffset ≠ entry.payloadOffset then
    pure { error := .invalidChunkHandle }
  else do
    let data ← view.region.fetch entry.headerOffset.toNat chunkHeaderSize.toNat
    let header := decodeChunkFields data
    if header.state ≠ ChunkState.published.value ∨ header.generation ≠ handle.generation ∨
        header.poolId ≠ view.descriptor.poolId ∨ header.topicId ≠ view.descriptor.topicId ∨
        header.capacity.toUInt64 ≠ entry.capacity ∨ header.sizeClassIndex ≠ entry.sizeClassIndex ∨
        header.payloadSize > header.capacity ∨ header.payloadSize.toUInt64 > maxMessageSize ∨
        header.refCount = 0 ∨ header.sequence = 0 then
      pure { error := .invalidSharedMemory }
    else
      pure { payload := some entry.payloadOffset, payloadSize := header.payloadSize.toUInt64,
             sequence := header.sequence, publishTimestampNs := header.publishTimestampNs }

end MemoryPoolView

end RobotMiddleware
