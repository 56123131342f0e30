import RobotMiddleware.Protocol

/-! The geometry of a pool segment: header, size-class table, chunk directory
and chunks, computed with checked 64-bit arithmetic. -/

namespace RobotMiddleware

def kMemoryPoolMagic : UInt32 := 0x4D57504C
def kPoolHeaderSize : UInt64 := 80
def kSizeClassMetadataSize : UInt64 := 24
def kChunkDirectoryEntrySize : UInt64 := 32
def kChunkAlignment : UInt64 := 64
/-- `sizeof(ChunkHeader)`, which the source pins to one cache line. -/
def chunkHeaderSize : UInt64 := 64

def sizeMax : UInt64 := 0xFFFFFFFFFFFFFFFF
def uint32Max : UInt64 := 0xFFFFFFFF

structure MemoryPoolClassConfig where
  chunkSize : UInt64
  chunkCount : UInt32
  deriving DecidableEq, Repr

structure MemoryPoolConfig where
  sizeClasses : List MemoryPoolClassConfig
  deriving DecidableEq, Repr

structure PoolHeader where
  magic : UInt32
  version : UInt16
  headerSize : UInt16
  segmentSize : UInt64
  poolId : UInt64
  topicId : UInt64
  ownerPid : UInt64
  sizeClassCount : UInt32
  chunkCount : UInt32
  sizeClassOffset : UInt64
  chunkDirectoryOffset : UInt64
  chunkStorageOffset : UInt64
  deriving DecidableEq, Repr

structure SizeClassMetadata where
  capacity : UInt64
  firstChunkIndex : UInt32
  chunkCount : UInt32
  deriving DecidableEq, Repr

structure ChunkDirectoryEntry where
  headerOffset : UInt64
  payloadOffset : UInt64
  capacity : UInt64
  sizeClassIndex : UInt32
  deriving DecidableEq, Repr, Inhabited

structure PoolLayout where
  header : PoolHeader
  sizeClasses : List SizeClassMetadata
  directory : List ChunkDirectoryEntry
  deriving DecidableEq, Repr

namespace PoolLayout

def checkedAdd (left right : UInt64) : Option UInt64 :=
  if left > sizeMax - right then none else some (left + right)

def checkedMultiply (left right : UInt64) : Option UInt64 :=
  if left ≠ 0 ∧ right > sizeMax / left then none else some (left * right)

def checkedAlign (value alignment : UInt64) : Option UInt64 :=
  let remainder := value % alignment
  if remainder = 0 then some value else checkedAdd value (alignment - remainder)

/-- The loop over the configured classes; `previousCapacity` and `totalChunks`
are its running variables. -/
def makeSizeClasses : List MemoryPoolClassConfig → (previousCapacity totalChunks : UInt64) →
    Except Exception (List SizeClassMetadata × UInt64)
  | [], _, totalChunks => .ok ([], totalChunks)
  | item :: rest, previousCapacity, totalChunks =>
    if item.chunkSize = 0 ∨ item.chunkSize > uint32Max ∨ item.chunkCount = 0 ∨ item.chunkSize ≤ previousCapacity ∨
        totalChunks > uint32Max - item.chunkCount.toUInt64 then
      .error (.invalidArgument "invalid memory pool size class configuration")
    else do
      let (classes, total) ← makeSizeClasses rest item.chunkSize (totalChunks + item.chunkCount.toUInt64)
      pure (⟨item.chunkSize, totalChunks.toUInt32, item.chunkCount⟩ :: classes, total)

/-- One chunk placed at the first aligned offset: its entry and the next free offset. -/
def placeChunk (nextOffset capacity : UInt64) (classIndex : Nat) : Option (ChunkDirectoryEntry × UInt64) := do
  let headerOffset ← checkedAlign nextOffset kChunkAlignment
  let payloadOffset ← checkedAdd headerOffset chunkHeaderSize
  let chunkEnd ← checkedAdd payloadOffset capacity
  let next ← checkedAlign chunkEnd kChunkAlignment
  pure (⟨headerOffset, payloadOffset, capacity, UInt32.ofNat classIndex⟩, next)

def placeChunks (capacity : UInt64) (classIndex : Nat) : (count : Nat) → (nextOffset : UInt64) →
    Option (List ChunkDirectoryEntry × UInt64)
  | 0, nextOffset => some ([], nextOffset)
  | count + 1, nextOffset => do
    let (entry, next) ← placeChunk nextOffset capacity classIndex
    let (entries, last) ← placeChunks capacity classIndex count next
    pure (entry :: entries, last)

def makeDirectory : List SizeClassMetadata → (classIndex : Nat) → (nextOffset : UInt64) →
    Option (List ChunkDirectoryEntry × UInt64)
  | [], _, nextOffset => some ([], nextOffset)
  | metadata :: rest, classIndex, nextOffset => do
    let (entries, next) ← placeChunks metadata.capacity classIndex metadata.chunkCount.toNat nextOffset
    let (others, last) ← makeDirectory rest (classIndex + 1) next
    pure (entries ++ others, last)

def metadataOffsets (classCount totalChunks : UInt64) : Option (UInt64 × UInt64) := do
  let classBytes ← checkedMultiply classCount kSizeClassMetadataSize
  let directoryBytes ← checkedMultiply totalChunks kChunkDirectoryEntrySize
  let directoryOffset ← checkedAdd kPoolHeaderSize classBytes
  let directoryEnd ← checkedAdd directoryOffset directoryBytes
  let storageOffset ← checkedAlign directoryEnd kChunkAlignment
  pure (directoryOffset, storageOffset)

end PoolLayout

open PoolLayout in
def makeLayout (config : MemoryPoolConfig) (poolId topicId ownerPid : UInt64) : Except Exception PoolLayout :=
  if config.sizeClasses = [] ∨ config.sizeClasses.length > uint32Max.toNat then
    .error (.invalidArgument "memory pool must contain size classes")
  else do
    let (sizeClasses, totalChunks) ← makeSizeClasses config.sizeClasses 0 0
    match metadataOffsets (UInt64.ofNat sizeClasses.length) totalChunks with
    | none => .error (.overflowError "memory pool metadata size overflow")
    | some (directoryOffset, storageOffset) =>
      match makeDirectory sizeClasses 0 storageOffset with
      | none => .error (.overflowError "memory pool chunk layout overflow")
      | some (directory, nextOffset) =>
        pure {
          header := {
            magic := kMemoryPoolMagic
            version := kPoolLayoutVersion
            headerSize := kPoolHeaderSize.toUInt16
            segmentSize := nextOffset
            poolId, topicId, ownerPid
            sizeClassCount := UInt32.ofNat sizeClasses.length
            chunkCount := UInt32.ofNat directory.length
            sizeClassOffset := kPoolHeaderSize
            chunkDirectoryOffset := directoryOffset
            chunkStorageOffset := storageOffset }
          sizeClasses, directory }

end RobotMiddleware
