import RobotMiddleware.PoolSegment
import RobotMiddleware.Proofs.PoolRanges
import RobotMiddleware.Proofs.QueueFrames

/-! A subscriber that maps a segment accepts whatever `MemoryPool::create` left
there, and finds the size classes and the directory of the publisher. -/

namespace RobotMiddleware.Proofs.SegmentContents
open Lib Lib.Intervals Lib.Outcome MemoryPool MemoryPoolView PoolLayout PoolGeometry PoolRanges QueueFrames

/-! Each record is decoded to what was encoded. -/

theorem decode_encode_poolHeader (header : PoolHeader) : decodePoolHeader (encodePoolHeader header) = header := by
  simp only [decodePoolHeader, encodePoolHeader, List.append_assoc, field_here, field_skip, BigEndian.encode_length,
    Nat.le_refl, Nat.reduceLeDiff, Nat.reduceSub, uint64_field, uint32_field, uint16_field]

theorem decode_encode_sizeClass (metadata : SizeClassMetadata) : decodeSizeClass (encodeSizeClass metadata) = metadata := by
  simp only [decodeSizeClass, encodeSizeClass, List.append_assoc, field_here, field_skip, BigEndian.encode_length,
    Nat.le_refl, Nat.reduceLeDiff, Nat.reduceSub, uint64_field, uint32_field]

theorem decode_encode_entry (entry : ChunkDirectoryEntry) : decodeDirectoryEntry (encodeDirectoryEntry entry) = entry := by
  simp only [decodeDirectoryEntry, encodeDirectoryEntry, List.append_assoc, field_here, field_skip, BigEndian.encode_length,
    Nat.le_refl, Nat.reduceLeDiff, Nat.reduceSub, uint64_field, uint32_field]

@[simp] theorem encodeNative_length (width value : Nat) : (encodeNative width value).length = width := by
  simp [encodeNative]

theorem native_here (first rest : Bytes) (width : Nat) (exact : first.length = width) :
    decodeNative (first ++ rest) 0 width = BigEndian.decode first.reverse := by
  subst exact
  simp [decodeNative]

theorem native_skip (first rest : Bytes) (offset width : Nat) (past : first.length ≤ offset) :
    decodeNative (first ++ rest) offset width = decodeNative rest (offset - first.length) width := by
  simp [decodeNative, List.drop_append, List.drop_eq_nil_of_le past]

theorem native_last (last : Bytes) (width : Nat) (exact : last.length = width) :
    decodeNative last 0 width = BigEndian.decode last.reverse := by
  subst exact
  simp [decodeNative]

theorem encodeNative_reverse (width value : Nat) : (encodeNative width value).reverse = BigEndian.encode width value := by
  simp [encodeNative]

theorem decode_encode_chunk (chunk : ChunkFields) : decodeChunkFields (encodeChunkFields chunk) = chunk := by
  simp only [decodeChunkFields, encodeChunkFields, List.append_assoc, native_here, native_skip, native_last,
    encodeNative_length, encodeNative_reverse, Nat.le_refl, Nat.reduceLeDiff, Nat.reduceSub, uint64_field, uint32_field]

@[simp] theorem encodePoolHeader_length (header : PoolHeader) : (encodePoolHeader header).length = 80 := by
  simp [encodePoolHeader]

@[simp] theorem encodeSizeClass_length (metadata : SizeClassMetadata) : (encodeSizeClass metadata).length = 24 := by
  simp [encodeSizeClass]

@[simp] theorem encodeDirectoryEntry_length (entry : ChunkDirectoryEntry) : (encodeDirectoryEntry entry).length = 32 := by
  simp [encodeDirectoryEntry]

@[simp] theorem encodeChunkFields_length (chunk : ChunkFields) : (encodeChunkFields chunk).length = 64 := by
  simp [encodeChunkFields]

@[simp] theorem kPoolHeaderSize_toNat : kPoolHeaderSize.toNat = 80 := rfl

@[simp] theorem kSizeClassMetadataSize_toNat : kSizeClassMetadataSize.toNat = 24 := rfl

@[simp] theorem kChunkDirectoryEntrySize_toNat : kChunkDirectoryEntrySize.toNat = 32 := rfl

@[simp] theorem chunkHeaderSize_toNat : chunkHeaderSize.toNat = 64 := rfl

/-! The writes of `create` keep out of each other's way. -/

section Writes
variable {descriptor : PoolDescriptor} {directoryOffset : UInt64} {index : Nat} {item : Memory.Write UInt8}

theorem sizeClassWrites_within {classes : List SizeClassMetadata} (member : item ∈ sizeClassWrites index classes) :
    80 + index * 24 ≤ item.1 ∧ item.1 + item.2.length ≤ 80 + (index + classes.length) * 24 := by
  induction classes generalizing index with
  | nil => cases member
  | cons metadata rest ih =>
    rcases List.mem_cons.mp member with rfl | member
    · simp only [encodeSizeClass_length, kPoolHeaderSize_toNat, kSizeClassMetadataSize_toNat, List.length_cons]
      omega
    · have inside := ih member
      rw [List.length_cons]
      omega

theorem sizeClassWrites_apart (index : Nat) (classes : List SizeClassMetadata) :
    (sizeClassWrites index classes).Pairwise Memory.Apart := by
  induction classes generalizing index with
  | nil => exact .nil
  | cons metadata rest ih =>
    refine List.pairwise_cons.mpr ⟨?_, ih (index + 1)⟩
    intro other member
    have inside := sizeClassWrites_within member
    refine .inl ?_
    simp only [encodeSizeClass_length, kPoolHeaderSize_toNat, kSizeClassMetadataSize_toNat]
    omega

variable {entries : List ChunkDirectoryEntry} {layout : PoolLayout} {size ownerPid : UInt64} {config : MemoryPoolConfig}

theorem chunkWrites_within {low high : Nat}
    (placed : ∀ entry ∈ entries, Placed entry) (stacked : Stacked low (entries.map chunkSpan) high)
    (member : item ∈ chunkWrites descriptor directoryOffset index entries) :
    (directoryOffset.toNat + index * 32 ≤ item.1 ∧
        item.1 + item.2.length ≤ directoryOffset.toNat + (index + entries.length) * 32) ∨
      (low ≤ item.1 ∧ item.1 + item.2.length ≤ high) := by
  induction entries generalizing index low with
  | nil => cases member
  | cons entry rest ih =>
    obtain ⟨above, proper, others⟩ := stacked
    have payload := (placed entry (by simp)).payload
    have upper := others.bounds
    simp only [chunkSpan] at above proper upper
    simp only [chunkWrites, List.mem_cons] at member
    rw [List.length_cons]
    rcases member with rfl | rfl | member
    · refine .inl ?_
      simp only [encodeDirectoryEntry_length, kChunkDirectoryEntrySize_toNat]
      omega
    · refine .inr ⟨above, ?_⟩
      simp only [encodeChunkFields_length]
      omega
    · rcases ih (fun other later => placed other (by simp [later])) others member with inside | inside
      · exact .inl (by omega)
      · simp only [chunkSpan] at inside
        exact .inr (by omega)

theorem chunkWrites_apart {low high : Nat}
    (placed : ∀ entry ∈ entries, Placed entry) (stacked : Stacked low (entries.map chunkSpan) high)
    (below : directoryOffset.toNat + (index + entries.length) * 32 ≤ low) :
    (chunkWrites descriptor directoryOffset index entries).Pairwise Memory.Apart := by
  induction entries generalizing index low with
  | nil => exact .nil
  | cons entry rest ih =>
    obtain ⟨above, proper, others⟩ := stacked
    have payload := (placed entry (by simp)).payload
    have later : ∀ other ∈ rest, Placed other := fun other member => placed other (by simp [member])
    simp only [chunkSpan] at above proper
    rw [List.length_cons] at below
    -- the rest of the loop writes above this entry of the directory and above this chunk
    have beyond : ∀ item ∈ chunkWrites descriptor directoryOffset (index + 1) rest,
        directoryOffset.toNat + (index + 1) * 32 ≤ item.1 ∧
          (item.1 + item.2.length ≤ entry.headerOffset.toNat ∨ entry.headerOffset.toNat + 64 ≤ item.1) := by
      intro item member
      have inside := chunkWrites_within later others member
      simp only [chunkSpan] at inside
      omega
    refine List.pairwise_cons.mpr ⟨?_, List.pairwise_cons.mpr ⟨?_, ih later others ?_⟩⟩
    · intro item member
      refine .inl ?_
      simp only [encodeDirectoryEntry_length, kChunkDirectoryEntrySize_toNat]
      rcases List.mem_cons.mp member with rfl | member
      · simp only
        omega
      · have after := beyond item member
        omega
    · intro item member
      have after := (beyond item member).2
      simp only [Memory.Apart, encodeChunkFields_length]
      omega
    · simp only [chunkSpan]
      omega

theorem layoutWrites_within (formed : Formed layout) (member : item ∈ layoutWrites descriptor layout) :
    item.1 + item.2.length ≤ layout.header.segmentSize.toNat := by
  have start := formed.directoryAt
  have storage := formed.storage
  have upper := formed.stacked.bounds
  simp only [layoutWrites, List.mem_cons, List.mem_append] at member
  rcases member with rfl | member | member
  · simp only [encodePoolHeader_length]
    omega
  · have inside := sizeClassWrites_within member
    omega
  · have inside := chunkWrites_within formed.placed formed.stacked member
    omega

theorem layoutWrites_apart (formed : Formed layout) : (layoutWrites descriptor layout).Pairwise Memory.Apart := by
  have start := formed.directoryAt
  have storage := formed.storage
  refine List.pairwise_cons.mpr ⟨?_, List.pairwise_append.mpr ⟨sizeClassWrites_apart _ _, ?_, ?_⟩⟩
  · intro item member
    refine .inl ?_
    simp only [encodePoolHeader_length]
    rcases List.mem_append.mp member with member | member
    · have inside := sizeClassWrites_within member
      omega
    · have inside := chunkWrites_within formed.placed formed.stacked member
      omega
  · exact chunkWrites_apart formed.placed formed.stacked (by omega)
  · intro item member other later
    refine .inl ?_
    have first := sizeClassWrites_within member
    have second := chunkWrites_within formed.placed formed.stacked later
    omega

end Writes

def Stored (region : SharedMemoryRegion) (item : Memory.Write UInt8) : Prop :=
  region.fetch item.1 item.2.length = pure item.2

def written (descriptor : PoolDescriptor) (layout : PoolLayout) : SharedMemoryRegion where
  name := descriptor.shmName
  size := layout.header.segmentSize
  bytes := Memory.writeAll (fun _ => 0) (layoutWrites descriptor layout)

theorem written_bytes (descriptor : PoolDescriptor) (layout : PoolLayout) :
    (written descriptor layout).bytes = Memory.writeAll (fun _ => 0) (layoutWrites descriptor layout) := by
  simp only [written]

theorem written_stored {descriptor : PoolDescriptor} (formed : Formed layout) :
    ∀ item ∈ layoutWrites descriptor layout, Stored (written descriptor layout) item := by
  intro item member
  have inside := layoutWrites_within formed member
  have apart : (layoutWrites descriptor layout).Pairwise Memory.Apart := layoutWrites_apart formed
  have size : (written descriptor layout).size = layout.header.segmentSize := rfl
  unfold Stored SharedMemoryRegion.fetch
  rw [written_bytes, Memory.read_writeAll apart member, size, if_pos inside]
  rfl

/-! The loops of `open` over such a region. -/

section Loops
variable {region : SharedMemoryRegion} {descriptor : PoolDescriptor} {header : PoolHeader}

theorem checked_ok {α : Type} {outcome : Except Exception α} {value : α} (done : outcome = .ok value) :
    Access.checked outcome = pure value := by
  subst done
  rfl

theorem readSizeClasses_stored {classes : List SizeClassMetadata} {index : Nat} {previous expected : UInt64}
    (tables : header.sizeClassOffset = kPoolHeaderSize) (stored : ∀ item ∈ sizeClassWrites index classes, Stored region item)
    (listed : Listed previous.toNat expected.toNat classes header.chunkCount.toNat) :
    readSizeClasses region header classes.length index previous expected = pure (classes, header.chunkCount.toUInt64) := by
  induction classes generalizing index previous expected with
  | nil =>
    have same : expected = header.chunkCount.toUInt64 := by
      apply UInt64.toNat_inj.mp
      rw [UInt32.toNat_toUInt64]
      exact listed
    subst same
    rfl
  | cons metadata rest ih =>
    obtain ⟨grows, first, some, others⟩ := listed
    have upper := others.bounds
    have bound := header.chunkCount.toNat_lt
    have data := stored _ List.mem_cons_self
    simp only [Stored, encodeSizeClass_length, kSizeClassMetadataSize_toNat] at data
    have fewer : metadata.chunkCount ≤ header.chunkCount := by
      rw [UInt32.le_iff_toNat_le]
      omega
    have accepted : checkSizeClass header previous expected metadata = .ok () := by
      unfold checkSizeClass
      refine if_neg ?_
      simp only [not_or]
      refine ⟨?_, ?_, ?_, ?_, ?_, ?_⟩
      · intro zero
        rw [zero] at grows
        exact absurd grows (Nat.not_lt_zero _)
      · rw [UInt64.le_iff_toNat_le]
        omega
      · rw [not_not]
        apply UInt64.toNat_inj.mp
        rw [UInt32.toNat_toUInt64, first]
      · intro zero
        rw [zero] at some
        exact absurd some (Nat.not_lt_zero _)
      · exact UInt32.not_lt.mpr fewer
      · rw [UInt64.not_lt, UInt64.le_iff_toNat_le, UInt32.toNat_toUInt64, UInt32.toNat_sub_of_le _ _ fewer]
        omega
    have sum : (expected + metadata.chunkCount.toUInt64).toNat = expected.toNat + metadata.chunkCount.toNat := by
      rw [UInt64.toNat_add, UInt32.toNat_toUInt64]
      omega
    rw [← sum] at others
    have remaining := ih (fun item member => stored item (List.mem_cons_of_mem _ member)) others
    simp only [List.length_cons, readSizeClasses, tables, kSizeClassMetadataSize_toNat, data, pure_bind,
      decode_encode_sizeClass, checked_ok accepted, remaining]

theorem rangeInside_of_le {offset limit : UInt64} (inside : offset.toNat + size.toNat ≤ limit.toNat) :
    rangeInside offset size limit = true := by
  have start : offset ≤ limit := by
    rw [UInt64.le_iff_toNat_le]
    omega
  simp only [rangeInside, Bool.and_eq_true, decide_eq_true_eq]
  refine ⟨start, ?_⟩
  rw [UInt64.le_iff_toNat_le, UInt64.toNat_sub_of_le _ _ start]
  omega

theorem entry_accepted {sizeClasses : List SizeClassMetadata} {entry : ChunkDirectoryEntry} {previousEnd : UInt64}
    (known : ∃ item, sizeClasses[entry.sizeClassIndex.toNat]? = some item ∧ entry.capacity = item.capacity)
    (placed : Placed entry) (above : previousEnd.toNat ≤ entry.headerOffset.toNat)
    (inside : entry.payloadOffset.toNat + entry.capacity.toNat ≤ size.toNat) :
    checkEntry sizeClasses size previousEnd entry = .ok () := by
  obtain ⟨item, found, capacity⟩ := known
  have limit := size.toNat_lt
  have payload := placed.payload
  have aligned := placed.aligned
  have all : ∀ value : UInt64, ¬value > sizeMax := fun value => UInt64.not_lt.mpr (le_sizeMax value)
  have range := rangeInside_of_le inside
  unfold checkEntry
  refine if_neg ?_
  simp only [not_or, not_not, range, Bool.not_true, Bool.false_eq_true, not_false_eq_true, and_true]
  refine ⟨by rw [found, Option.map_some, capacity], ?_, ?_, ?_, ?_, ?_, ?_, all _, all _, all _⟩
  · rw [UInt64.not_lt, UInt64.le_iff_toNat_le, room, chunkHeaderSize_toNat]
    omega
  · rw [UInt64.not_lt, UInt64.le_iff_toNat_le, room]
    omega
  · apply UInt64.toNat_inj.mp
    rw [UInt64.toNat_mod, kChunkAlignment_toNat]
    exact aligned
  · apply UInt64.toNat_inj.mp
    rw [UInt64.toNat_add, chunkHeaderSize_toNat, payload, Nat.mod_eq_of_lt (by omega)]
  · apply UInt64.toNat_inj.mp
    rw [UInt64.toNat_mod, kChunkAlignment_toNat, payload]
    exact (Nat.add_mod_right _ 64).trans aligned
  · rw [UInt64.not_lt, UInt64.le_iff_toNat_le]
    exact above

theorem chunk_accepted {entry : ChunkDirectoryEntry} (small : entry.capacity ≤ uint32Max) :
    checkChunk descriptor entry (freshHeader descriptor entry).fields = .ok () := by
  simp [checkChunk, freshHeader, ChunkHeader.fields, narrowed_of_le small]

theorem readDirectory_stored {sizeClasses : List SizeClassMetadata} {index : Nat} {previousEnd : UInt64}
    (stored : ∀ item ∈ chunkWrites descriptor header.chunkDirectoryOffset index entries, Stored region item)
    (known : ∀ entry ∈ entries, ∃ item, sizeClasses[entry.sizeClassIndex.toNat]? = some item ∧
      entry.capacity = item.capacity ∧ entry.capacity ≤ uint32Max) (placed : ∀ entry ∈ entries, Placed entry)
    (stacked : Stacked previousEnd.toNat (entries.map chunkSpan) region.size.toNat) :
    readDirectory region descriptor header sizeClasses entries.length index previousEnd = pure entries := by
  induction entries generalizing index previousEnd with
  | nil => rfl
  | cons entry rest ih =>
    obtain ⟨above, _, others⟩ := stacked
    have inside := others.bounds
    simp only [chunkSpan] at above inside others
    obtain ⟨item, found, capacity, small⟩ := known entry (by simp)
    have accepted := entry_accepted ⟨item, found, capacity⟩ (placed entry (by simp)) above inside
    have data := stored _ List.mem_cons_self
    have chunk := stored _ (List.mem_cons_of_mem _ List.mem_cons_self)
    simp only [Stored, encodeDirectoryEntry_length, encodeChunkFields_length, kChunkDirectoryEntrySize_toNat] at data chunk
    have sum : (entry.payloadOffset + entry.capacity).toNat = entry.payloadOffset.toNat + entry.capacity.toNat := by
      have limit := region.size.toNat_lt
      rw [UInt64.toNat_add, Nat.mod_eq_of_lt (by omega)]
    have remaining := ih
      (fun item member => stored item (List.mem_cons_of_mem _ (List.mem_cons_of_mem _ member)))
      (fun other member => known other (by simp [member])) (fun other member => placed other (by simp [member]))
      (by rw [sum]; exact others)
    simp only [List.length_cons, readDirectory, kChunkDirectoryEntrySize_toNat, chunkHeaderSize_toNat, data, chunk, pure_bind,
      decode_encode_entry, decode_encode_chunk, checked_ok accepted, checked_ok (chunk_accepted small), remaining]

end Loops

/-- The descriptor of the segment that holds a layout. -/
def descriptorOf (name : Bytes) (layout : PoolLayout) : PoolDescriptor where
  shmName := name
  poolId := layout.header.poolId
  segmentSize := layout.header.segmentSize
  topicId := layout.header.topicId
  layoutVersion := kPoolLayoutVersion

theorem metadata_accepted (formed : Formed layout) : checkMetadata layout.header.segmentSize layout.header = .ok () := by
  have limit := layout.header.segmentSize.toNat_lt
  have start := formed.directoryAt
  have storage := formed.storage
  have upper := formed.stacked.bounds
  have classSize : (layout.header.sizeClassCount.toUInt64 * kSizeClassMetadataSize).toNat = layout.sizeClasses.length * 24 := by
    rw [UInt64.toNat_mul, UInt32.toNat_toUInt64, formed.classCount, kSizeClassMetadataSize_toNat,
      Nat.mod_eq_of_lt (by omega)]
  have chunkSize : (layout.header.chunkCount.toUInt64 * kChunkDirectoryEntrySize).toNat = layout.directory.length * 32 := by
    rw [UInt64.toNat_mul, UInt32.toNat_toUInt64, formed.chunkCount, kChunkDirectoryEntrySize_toNat,
      Nat.mod_eq_of_lt (by omega)]
  have classes : checkedMultiply layout.header.sizeClassCount.toUInt64 kSizeClassMetadataSize =
      some (layout.header.sizeClassCount.toUInt64 * kSizeClassMetadataSize) := by
    apply checkedMultiply_fits
    rw [UInt32.toNat_toUInt64, formed.classCount, kSizeClassMetadataSize_toNat]
    omega
  have chunks : checkedMultiply layout.header.chunkCount.toUInt64 kChunkDirectoryEntrySize =
      some (layout.header.chunkCount.toUInt64 * kChunkDirectoryEntrySize) := by
    apply checkedMultiply_fits
    rw [UInt32.toNat_toUInt64, formed.chunkCount, kChunkDirectoryEntrySize_toNat]
    omega
  have table : rangeInside layout.header.sizeClassOffset (layout.header.sizeClassCount.toUInt64 * kSizeClassMetadataSize)
      layout.header.segmentSize = true := by
    apply rangeInside_of_le
    rw [classSize, formed.tables, kPoolHeaderSize_toNat]
    omega
  have directory : rangeInside layout.header.chunkDirectoryOffset
      (layout.header.chunkCount.toUInt64 * kChunkDirectoryEntrySize) layout.header.segmentSize = true := by
    apply rangeInside_of_le
    rw [chunkSize]
    omega
  have chunksInside : layout.header.chunkStorageOffset ≤ layout.header.segmentSize := UInt64.le_iff_toNat_le.mpr upper
  have aligned : layout.header.chunkStorageOffset % kChunkAlignment = 0 := by
    apply UInt64.toNat_inj.mp
    rw [UInt64.toNat_mod, kChunkAlignment_toNat]
    exact formed.alignedStorage
  simp [checkMetadata, metadataInside, classes, chunks, table, directory, chunksInside, aligned, le_sizeMax]

theorem header_accepted (formed : Formed layout) (name : Bytes) :
    checkHeader (descriptorOf name layout) layout.header.topicId layout.header.segmentSize layout.header = .ok () := by
  have classes : layout.header.sizeClassCount ≠ 0 := by
    intro zero
    have none := formed.classCount
    rw [zero] at none
    exact absurd formed.nonempty (by rw [← none]; exact Nat.lt_irrefl 0)
  have chunks : layout.header.chunkCount ≠ 0 := by
    intro zero
    have none := formed.chunkCount
    have listed := formed.listed
    rw [zero] at none
    rw [← none] at listed
    cases known : layout.sizeClasses with
    | nil => exact absurd formed.nonempty (by simp [known])
    | cons =>
      rw [known] at listed
      have upper := listed.2.2.2.bounds
      have some := listed.2.2.1
      exact absurd upper (Nat.not_le.mpr (Nat.lt_of_lt_of_le some (Nat.le_add_left _ _)))
  unfold checkHeader
  refine if_neg ?_
  simp only [not_or, not_not]
  exact ⟨formed.magic, formed.version, by rw [formed.headerSize]; rfl, trivial, rfl, trivial, classes, chunks, formed.tables⟩

theorem descriptor_accepted (formed : Formed layout) (name : Bytes) (pool : layout.header.poolId ≠ 0) :
    checkDescriptor (descriptorOf name layout) layout.header.topicId = .ok () := by
  have start := formed.directoryAt
  have storage := formed.storage
  have upper := formed.stacked.bounds
  unfold checkDescriptor
  refine if_neg ?_
  simp only [not_or, not_not]
  refine ⟨pool, ?_, UInt64.not_lt.mpr (le_sizeMax _), rfl, rfl⟩
  rw [UInt64.not_lt, UInt64.le_iff_toNat_le, kPoolHeaderSize_toNat]
  exact (by omega : 80 ≤ layout.header.segmentSize.toNat)

theorem openReadOnly_ok {object : SharedMemoryRegion} {name : Bytes}
    (arguments : SharedMemoryRegion.validateArguments name object.size = .ok ()) :
    object.openReadOnly name object.size = .ok object := by
  unfold SharedMemoryRegion.openReadOnly
  rw [arguments]
  exact if_neg (not_not.mpr rfl)

theorem openSegment_written (formed : Formed layout) (name : Bytes) (pool : layout.header.poolId ≠ 0)
    (arguments : SharedMemoryRegion.validateArguments name layout.header.segmentSize = .ok ()) :
    MemoryPoolView.openSegment (written (descriptorOf name layout) layout) (descriptorOf name layout) layout.header.topicId =
      pure { descriptor := descriptorOf name layout, region := written (descriptorOf name layout) layout,
             sizeClasses := layout.sizeClasses, directory := layout.directory } := by
  have stored : ∀ item ∈ layoutWrites (descriptorOf name layout) layout,
      Stored (written (descriptorOf name layout) layout) item := written_stored formed
  have mapped : (written (descriptorOf name layout) layout).openReadOnly (descriptorOf name layout).shmName
      (descriptorOf name layout).segmentSize = .ok (written (descriptorOf name layout) layout) := openReadOnly_ok arguments
  have data := stored _ List.mem_cons_self
  simp only [Stored, encodePoolHeader_length] at data
  have classes : readSizeClasses (written (descriptorOf name layout) layout) layout.header
      layout.header.sizeClassCount.toNat 0 0 0 = pure (layout.sizeClasses, layout.header.chunkCount.toUInt64) := by
    rw [formed.classCount]
    apply readSizeClasses_stored formed.tables
    · intro item member
      exact stored item (List.mem_cons_of_mem _ (List.mem_append_left _ member))
    · rw [formed.chunkCount]
      exact formed.listed
  have directory : readDirectory (written (descriptorOf name layout) layout) (descriptorOf name layout) layout.header
      layout.sizeClasses layout.header.chunkCount.toNat 0 layout.header.chunkStorageOffset = pure layout.directory := by
    rw [formed.chunkCount]
    refine readDirectory_stored ?_ formed.classes.classes formed.placed formed.stacked
    intro item member
    exact stored item (List.mem_cons_of_mem _ (List.mem_append_right _ member))
  have total : checkTotal layout.header layout.header.chunkCount.toUInt64 = .ok () := if_neg (not_not.mpr rfl)
  have size : (written (descriptorOf name layout) layout).size = layout.header.segmentSize := rfl
  simp only [MemoryPoolView.openSegment, checked_ok (descriptor_accepted formed name pool), checked_ok mapped, kPoolHeaderSize_toNat, data,
    decode_encode_poolHeader, size, checked_ok (header_accepted formed name), checked_ok (metadata_accepted formed), classes,
    checked_ok total, directory, pure_bind]

theorem validateArguments_ok {name : Bytes} (some : size ≠ 0) :
    SharedMemoryRegion.validateArguments name size = .ok () ↔ isValidSharedMemoryName name = true ∧ size ≤ offMax := by
  unfold SharedMemoryRegion.validateArguments
  cases isValidSharedMemoryName name with
  | false => simp
  | true => simp [some]

theorem makeLayout_ids {poolId topicId : UInt64} (made : makeLayout config poolId topicId ownerPid = .ok layout) :
    layout.header.poolId = poolId ∧ layout.header.topicId = topicId := by
  obtain ⟨_, _, _, _, _, _, header⟩ := makeLayout_ok made
  exact ⟨by rw [header], by rw [header]⟩

theorem create_descriptorOf
    (made : makeLayout config layout.header.poolId layout.header.topicId ownerPid = .ok layout) (name : Bytes)
    (pool : layout.header.poolId ≠ 0) (topic : layout.header.topicId ≠ 0) :
    ∃ created, create (descriptorOf name layout) config ownerPid = .ok created ∧
      created.sizeClasses = layout.sizeClasses ∧ created.directory = layout.directory ∧
      created.headers = layout.directory.map (freshHeader (descriptorOf name layout)) := by
  unfold create
  rw [if_neg (by simp [descriptorOf, pool, topic])]
  simp only [descriptorOf, made]
  exact ⟨_, if_neg (not_not.mpr rfl), rfl, rfl, rfl⟩

/-- What `create` does with the descriptor of a layout: once the arguments of the
region are in order it succeeds, and leaves the region filled. -/
theorem createSegment_descriptorOf
    (made : makeLayout config layout.header.poolId layout.header.topicId ownerPid = .ok layout) (name : Bytes)
    (pool : layout.header.poolId ≠ 0) (topic : layout.header.topicId ≠ 0) :
    ∃ created, created.sizeClasses = layout.sizeClasses ∧ created.directory = layout.directory ∧
      created.headers = layout.directory.map (freshHeader (descriptorOf name layout)) ∧
      createSegment (descriptorOf name layout) config ownerPid =
        (SharedMemoryRegion.validateArguments name layout.header.segmentSize).map fun _ =>
          (created, written (descriptorOf name layout) layout) := by
  obtain ⟨created, pooled, sizeClasses, directory, headers⟩ := create_descriptorOf made name pool topic
  refine ⟨created, sizeClasses, directory, headers, ?_⟩
  unfold createSegment
  rw [pooled]
  simp only [descriptorOf, made, SharedMemoryRegion.create, bind, Except.bind]
  cases SharedMemoryRegion.validateArguments name layout.header.segmentSize with
  | error _ => rfl
  | ok _ => rfl

/-- For every configuration: `makeLayout` never wraps; in a layout that it returns the
header, the tables and the chunks are disjoint, inside the segment and, as far as
chunks are concerned, aligned; and a subscriber with the matching descriptor opens
every segment that `create` leaves, and finds the classes and the directory of the
layout in it. `create` itself refuses only a bad name and a size above `off_t`. -/
theorem created_pool_opens (config : MemoryPoolConfig) (poolId topicId ownerPid : UInt64) :
    (∀ operation ∈ layoutOperations config, operation.Exact) ∧
      ∀ layout, makeLayout config poolId topicId ownerPid = .ok layout →
        ((parts layout).Pairwise fun part other => Disjoint part.cells other.cells) ∧
        (∀ part ∈ parts layout, part.cells ⊆ Set.Ico 0 layout.header.segmentSize.toNat) ∧
        (∀ entry ∈ layout.directory, 64 ∣ entry.headerOffset.toNat ∧ 64 ∣ entry.payloadOffset.toNat) ∧
        (poolId ≠ 0 → topicId ≠ 0 → ∀ name,
          ((∃ pool region, createSegment (descriptorOf name layout) config ownerPid = .ok (pool, region)) ↔
            isValidSharedMemoryName name = true ∧ layout.header.segmentSize ≤ offMax) ∧
          ∀ pool region, createSegment (descriptorOf name layout) config ownerPid = .ok (pool, region) →
            pool.sizeClasses = layout.sizeClasses ∧ pool.directory = layout.directory ∧
              ∃ view, (MemoryPoolView.openSegment region (descriptorOf name layout) topicId).run = some (.ok view) ∧
                view.sizeClasses = layout.sizeClasses ∧ view.directory = layout.directory) := by
  refine ⟨layoutOperations_exact config, fun layout made => ?_⟩
  have formed := makeLayout_formed made
  refine ⟨formed.parts_stacked.disjoint, ?_, ?_, ?_⟩
  · intro part member
    have inside := formed.parts_stacked.within part member
    exact Set.Ico_subset_Ico inside.1 inside.2.2
  · intro entry member
    have placed := formed.placed entry member
    have aligned := placed.aligned
    have payload := placed.payload
    exact ⟨Nat.dvd_of_mod_eq_zero aligned, Nat.dvd_of_mod_eq_zero (by omega)⟩
  · intro pool topic name
    obtain ⟨samePool, sameTopic⟩ := makeLayout_ids made
    subst samePool sameTopic
    obtain ⟨created, sizeClasses, directory, _, outcome⟩ := createSegment_descriptorOf made name pool topic
    rw [outcome, ← validateArguments_ok formed.size_ne_zero]
    cases arguments : SharedMemoryRegion.validateArguments name layout.header.segmentSize with
    | error _ => simp [Except.map]
    | ok _ =>
      refine ⟨iff_of_true ⟨_, _, rfl⟩ rfl, ?_⟩
      intro other region same
      cases same
      exact ⟨sizeClasses, directory, _, openSegment_written formed name pool arguments, rfl, rfl⟩

private def smallPool : MemoryPoolConfig := { sizeClasses := [⟨64, 2⟩, ⟨200, 1⟩] }

theorem created_pool_opens_small :
    ∃ layout pool region view, makeLayout smallPool 7 5 1234 = .ok layout ∧ layout.directory.length = 3 ∧
      createSegment (descriptorOf [47, 112] layout) smallPool 1234 = .ok (pool, region) ∧
      (MemoryPoolView.openSegment region (descriptorOf [47, 112] layout) 5).run = some (.ok view) ∧
      view.sizeClasses = layout.sizeClasses ∧ view.directory = layout.directory := by
  obtain ⟨layout, made, count, size⟩ : ∃ layout, makeLayout smallPool 7 5 1234 = .ok layout ∧
      layout.directory.length = 3 ∧ layout.header.segmentSize ≤ offMax := ⟨_, rfl, rfl, by decide⟩
  obtain ⟨_, _, _, opens⟩ := (created_pool_opens smallPool 7 5 1234).2 layout made
  obtain ⟨succeeds, reads⟩ := opens (by decide) (by decide) [47, 112]
  obtain ⟨pool, region, created⟩ := succeeds.mpr ⟨by decide, size⟩
  obtain ⟨_, _, view, opened, same⟩ := reads pool region created
  exact ⟨layout, pool, region, view, made, count, created, opened, same⟩

end RobotMiddleware.Proofs.SegmentContents
