import RobotMiddleware.Lib.Intervals
import RobotMiddleware.Proofs.PoolGeometry

/-! The checked arithmetic of `makeLayout` is exact, so the parts of a pool segment
stand one above the other: the header, the two tables and the chunks. -/

namespace RobotMiddleware.Proofs.PoolRanges
open Lib.Outcome Lib.Intervals PoolLayout PoolGeometry

/-- A 64-bit operation that the source performs, with its operands. -/
inductive Operation where
  | add (left right : UInt64)
  | subtract (left right : UInt64)
  | multiply (left right : UInt64)
  deriving DecidableEq, Repr

def Operation.result : Operation → UInt64
  | add left right => left + right
  | subtract left right => left - right
  | multiply left right => left * right

def Operation.value : Operation → Int
  | add left right => left.toNat + right.toNat
  | subtract left right => left.toNat - right.toNat
  | multiply left right => left.toNat * right.toNat

def Operation.Exact (operation : Operation) : Prop := (operation.result.toNat : Int) = operation.value

/-! The operations of each function, in the order in which it performs them. What
follows a call that fails is not performed. -/

def addOperations (left right : UInt64) : List Operation :=
  .subtract sizeMax right :: if left > sizeMax - right then [] else [.add left right]

def multiplyOperations (left right : UInt64) : List Operation :=
  if left ≠ 0 ∧ right > sizeMax / left then [] else [.multiply left right]

def alignOperations (value alignment : UInt64) : List Operation :=
  if value % alignment = 0 then []
  else .subtract alignment (value % alignment) :: addOperations value (alignment - value % alignment)

/-- The operations after a call, if it succeeds. -/
def after {α : Type} (outcome : Option α) (operations : α → List Operation) : List Operation := outcome.elim [] operations

def sizeClassOperations : List MemoryPoolClassConfig → (previousCapacity totalChunks : UInt64) → List Operation
  | [], _, _ => []
  | item :: rest, previousCapacity, totalChunks =>
    .subtract uint32Max item.chunkCount.toUInt64 ::
      if item.chunkSize = 0 ∨ item.chunkSize > uint32Max ∨ item.chunkCount = 0 ∨ item.chunkSize ≤ previousCapacity ∨
          totalChunks > uint32Max - item.chunkCount.toUInt64 then []
      else .add totalChunks item.chunkCount.toUInt64 ::
        sizeClassOperations rest item.chunkSize (totalChunks + item.chunkCount.toUInt64)

def offsetOperations (classCount totalChunks : UInt64) : List Operation :=
  multiplyOperations classCount kSizeClassMetadataSize ++
    after (checkedMultiply classCount kSizeClassMetadataSize) fun classBytes =>
      multiplyOperations totalChunks kChunkDirectoryEntrySize ++
        after (checkedMultiply totalChunks kChunkDirectoryEntrySize) fun directoryBytes =>
          addOperations kPoolHeaderSize classBytes ++
            after (checkedAdd kPoolHeaderSize classBytes) fun directoryOffset =>
              addOperations directoryOffset directoryBytes ++
                after (checkedAdd directoryOffset directoryBytes) fun directoryEnd =>
                  alignOperations directoryEnd kChunkAlignment

def placeOperations (nextOffset capacity : UInt64) : List Operation :=
  alignOperations nextOffset kChunkAlignment ++
    after (checkedAlign nextOffset kChunkAlignment) fun headerOffset =>
      addOperations headerOffset chunkHeaderSize ++
        after (checkedAdd headerOffset chunkHeaderSize) fun payloadOffset =>
          addOperations payloadOffset capacity ++
            after (checkedAdd payloadOffset capacity) fun chunkEnd => alignOperations chunkEnd kChunkAlignment

def chunkOperations (capacity : UInt64) (classIndex : Nat) : (count : Nat) → (nextOffset : UInt64) → List Operation
  | 0, _ => []
  | count + 1, nextOffset =>
    placeOperations nextOffset capacity ++
      after (placeChunk nextOffset capacity classIndex) fun placed => chunkOperations capacity classIndex count placed.2

def directoryOperations : List SizeClassMetadata → (classIndex : Nat) → (nextOffset : UInt64) → List Operation
  | [], _, _ => []
  | metadata :: rest, classIndex, nextOffset =>
    chunkOperations metadata.capacity classIndex metadata.chunkCount.toNat nextOffset ++
      after (placeChunks metadata.capacity classIndex metadata.chunkCount.toNat nextOffset) fun placed =>
        directoryOperations rest (classIndex + 1) placed.2

/-- Every 64-bit operation of one call of `makeLayout`. -/
def layoutOperations (config : MemoryPoolConfig) : List Operation :=
  if config.sizeClasses = [] ∨ config.sizeClasses.length > uint32Max.toNat then []
  else
    sizeClassOperations config.sizeClasses 0 0 ++
      after (makeSizeClasses config.sizeClasses 0 0).toOption fun made =>
        offsetOperations (UInt64.ofNat made.1.length) made.2 ++
          after (metadataOffsets (UInt64.ofNat made.1.length) made.2) fun offsets => directoryOperations made.1 0 offsets.2

def AllExact (operations : List Operation) : Prop := ∀ operation ∈ operations, operation.Exact

theorem AllExact.nil : AllExact [] := by simp [AllExact]

theorem AllExact.cons {operation : Operation} {operations : List Operation} (first : operation.Exact)
    (rest : AllExact operations) : AllExact (operation :: operations) := by
  intro other member
  rcases List.mem_cons.mp member with rfl | member
  · exact first
  · exact rest other member

theorem AllExact.append {operations others : List Operation} (first : AllExact operations) (second : AllExact others) :
    AllExact (operations ++ others) := by
  intro operation member
  rcases List.mem_append.mp member with member | member
  · exact first operation member
  · exact second operation member

theorem AllExact.after {α : Type} {outcome : Option α} {operations : α → List Operation}
    (each : ∀ value, outcome = some value → AllExact (operations value)) : AllExact (after outcome operations) := by
  cases outcome with
  | none => exact .nil
  | some value => exact each value rfl

@[simp] theorem sizeMax_toNat : sizeMax.toNat = 2 ^ 64 - 1 := rfl

@[simp] theorem kChunkAlignment_toNat : kChunkAlignment.toNat = 64 := rfl

theorem le_sizeMax (value : UInt64) : value ≤ sizeMax := by
  have small := value.toNat_lt
  rw [UInt64.le_iff_toNat_le, sizeMax_toNat]
  omega

theorem room (right : UInt64) : (sizeMax - right).toNat = 2 ^ 64 - 1 - right.toNat := by
  rw [UInt64.toNat_sub_of_le _ _ (le_sizeMax right), sizeMax_toNat]

variable {left right nextOffset last : UInt64} {classes : List SizeClassMetadata} {layout : PoolLayout}

theorem add_exact (fits : ¬left > sizeMax - right) : (left + right).toNat = left.toNat + right.toNat := by
  rw [UInt64.not_lt, UInt64.le_iff_toNat_le, room] at fits
  have small := right.toNat_lt
  rw [UInt64.toNat_add, Nat.mod_eq_of_lt (by omega)]

theorem multiply_exact (fits : ¬(left ≠ 0 ∧ right > sizeMax / left)) : (left * right).toNat = left.toNat * right.toNat := by
  rw [UInt64.toNat_mul]
  apply Nat.mod_eq_of_lt
  by_cases zero : left = 0
  · simp [zero]
  · have bounded : right.toNat ≤ (2 ^ 64 - 1) / left.toNat := by
      have small : ¬right > sizeMax / left := fun more => fits ⟨zero, more⟩
      rwa [UInt64.not_lt, UInt64.le_iff_toNat_le, UInt64.toNat_div, sizeMax_toNat] at small
    have product : left.toNat * right.toNat ≤ 2 ^ 64 - 1 :=
      Nat.le_trans (Nat.mul_le_mul_left _ bounded) (Nat.mul_div_le _ _)
    omega

theorem subtract_exact (below : right ≤ left) : (Operation.subtract left right).Exact := by
  have difference := UInt64.toNat_sub_of_le left right below
  have order := UInt64.le_iff_toNat_le.mp below
  simp only [Operation.Exact, Operation.result, Operation.value]
  omega

theorem addOperations_exact (left right : UInt64) : AllExact (addOperations left right) := by
  refine .cons (subtract_exact (le_sizeMax right)) ?_
  split
  · exact .nil
  next fits =>
    refine .cons ?_ .nil
    have sum := add_exact fits
    simp only [Operation.Exact, Operation.result, Operation.value]
    omega

theorem multiplyOperations_exact (left right : UInt64) : AllExact (multiplyOperations left right) := by
  unfold multiplyOperations
  split
  · exact .nil
  next fits =>
    refine .cons ?_ .nil
    simp only [Operation.Exact, Operation.result, Operation.value, multiply_exact fits, Int.natCast_mul]

theorem alignOperations_exact (value : UInt64) : AllExact (alignOperations value kChunkAlignment) := by
  unfold alignOperations
  split
  · exact .nil
  · refine .cons (subtract_exact ?_) (addOperations_exact _ _)
    rw [UInt64.le_iff_toNat_le, UInt64.toNat_mod, kChunkAlignment_toNat]
    omega

theorem sizeClassOperations_exact (items : List MemoryPoolClassConfig) (previous total : UInt64) :
    AllExact (sizeClassOperations items previous total) := by
  induction items generalizing previous total with
  | nil => exact .nil
  | cons item rest ih =>
    have max : uint32Max.toNat = 4294967295 := rfl
    have count : item.chunkCount.toNat < 4294967296 := item.chunkCount.toNat_lt
    have below : item.chunkCount.toUInt64 ≤ uint32Max := by
      rw [UInt64.le_iff_toNat_le, UInt32.toNat_toUInt64, max]
      omega
    refine .cons (subtract_exact below) ?_
    split
    · exact .nil
    next accepted =>
      simp only [not_or] at accepted
      have sum := (chunks_fit accepted.2.2.2.2).2
      refine .cons ?_ (ih _ _)
      simp only [Operation.Exact, Operation.result, Operation.value, sum, UInt32.toNat_toUInt64]
      omega

theorem offsetOperations_exact (classCount totalChunks : UInt64) : AllExact (offsetOperations classCount totalChunks) := by
  refine (multiplyOperations_exact _ _).append (.after fun classBytes _ => ?_)
  refine (multiplyOperations_exact _ _).append (.after fun directoryBytes _ => ?_)
  refine (addOperations_exact _ _).append (.after fun directoryOffset _ => ?_)
  exact (addOperations_exact _ _).append (.after fun directoryEnd _ => alignOperations_exact directoryEnd)

theorem placeOperations_exact (nextOffset capacity : UInt64) : AllExact (placeOperations nextOffset capacity) := by
  refine (alignOperations_exact _).append (.after fun headerOffset _ => ?_)
  refine (addOperations_exact _ _).append (.after fun payloadOffset _ => ?_)
  exact (addOperations_exact _ _).append (.after fun chunkEnd _ => alignOperations_exact chunkEnd)

theorem chunkOperations_exact (capacity : UInt64) (classIndex count : Nat) (nextOffset : UInt64) :
    AllExact (chunkOperations capacity classIndex count nextOffset) := by
  induction count generalizing nextOffset with
  | zero => exact .nil
  | succ count ih => exact (placeOperations_exact _ _).append (.after fun placed _ => ih placed.2)

theorem directoryOperations_exact (classes : List SizeClassMetadata) (classIndex : Nat) (nextOffset : UInt64) :
    AllExact (directoryOperations classes classIndex nextOffset) := by
  induction classes generalizing classIndex nextOffset with
  | nil => exact .nil
  | cons metadata rest ih => exact (chunkOperations_exact _ _ _ _).append (.after fun placed _ => ih _ placed.2)

theorem layoutOperations_exact (config : MemoryPoolConfig) : AllExact (layoutOperations config) := by
  unfold layoutOperations
  split
  · exact .nil
  · refine (sizeClassOperations_exact _ _ _).append (.after fun made _ => ?_)
    exact (offsetOperations_exact _ _).append (.after fun offsets _ => directoryOperations_exact _ _ _)

theorem checkedAdd_some {sum : UInt64} (added : checkedAdd left right = some sum) :
    sum.toNat = left.toNat + right.toNat := by
  unfold checkedAdd at added
  split at added
  · cases added
  next fits =>
    cases added
    exact add_exact fits

theorem checkedMultiply_some {product : UInt64} (multiplied : checkedMultiply left right = some product) :
    product.toNat = left.toNat * right.toNat := by
  unfold checkedMultiply at multiplied
  split at multiplied
  · cases multiplied
  next fits =>
    cases multiplied
    exact multiply_exact fits

theorem checkedMultiply_fits (fits : left.toNat * right.toNat < 2 ^ 64) :
    checkedMultiply left right = some (left * right) := by
  unfold checkedMultiply
  refine if_neg ?_
  rintro ⟨nonzero, more⟩
  have positive : 0 < left.toNat := Nat.pos_of_ne_zero fun zero => nonzero (UInt64.toNat_inj.mp zero)
  rw [gt_iff_lt, UInt64.lt_iff_toNat_lt, UInt64.toNat_div, sizeMax_toNat, Nat.div_lt_iff_lt_mul positive,
    Nat.mul_comm] at more
  omega

theorem checkedAlign_some {value aligned : UInt64} (done : checkedAlign value kChunkAlignment = some aligned) :
    value.toNat ≤ aligned.toNat ∧ aligned.toNat % 64 = 0 := by
  simp only [checkedAlign] at done
  split at done
  next even =>
    cases done
    have remainder := congrArg UInt64.toNat even
    rw [UInt64.toNat_mod, kChunkAlignment_toNat] at remainder
    exact ⟨Nat.le_refl _, remainder⟩
  next =>
    have sum := checkedAdd_some done
    have below : value % kChunkAlignment ≤ kChunkAlignment := by
      rw [UInt64.le_iff_toNat_le, UInt64.toNat_mod, kChunkAlignment_toNat]
      omega
    rw [UInt64.toNat_sub_of_le _ _ below, UInt64.toNat_mod, kChunkAlignment_toNat] at sum
    omega

def chunkSpan (entry : ChunkDirectoryEntry) : Span := (entry.headerOffset.toNat, entry.payloadOffset.toNat + entry.capacity.toNat)

/-- A chunk at aligned offsets, its payload right after its header. -/
structure Placed (entry : ChunkDirectoryEntry) : Prop where
  aligned : entry.headerOffset.toNat % 64 = 0
  payload : entry.payloadOffset.toNat = entry.headerOffset.toNat + 64

theorem placeChunk_placed {capacity : UInt64} {classIndex : Nat} {entry : ChunkDirectoryEntry}
    (done : placeChunk nextOffset capacity classIndex = some (entry, last)) :
    Placed entry ∧ Stacked nextOffset.toNat [chunkSpan entry] last.toNat := by
  obtain ⟨headerOffset, header, done⟩ := bind_some done
  obtain ⟨payloadOffset, payload, done⟩ := bind_some done
  obtain ⟨chunkEnd, stop, done⟩ := bind_some done
  obtain ⟨next, next', done⟩ := bind_some done
  cases done
  obtain ⟨above, aligned⟩ := checkedAlign_some header
  have start : payloadOffset.toNat = headerOffset.toNat + 64 := checkedAdd_some payload
  have finish := checkedAdd_some stop
  have upper := (checkedAlign_some next').1
  refine ⟨⟨aligned, start⟩, above, ?_, ?_⟩
  · simp only [chunkSpan]
    omega
  · simp only [Stacked, chunkSpan]
    omega

theorem placeChunks_placed {capacity : UInt64} {classIndex count : Nat} {entries : List ChunkDirectoryEntry}
    (done : placeChunks capacity classIndex count nextOffset = some (entries, last)) :
    (∀ entry ∈ entries, Placed entry) ∧ Stacked nextOffset.toNat (entries.map chunkSpan) last.toNat := by
  induction count generalizing nextOffset entries last with
  | zero =>
    cases done
    exact ⟨by simp, Nat.le_refl _⟩
  | succ count ih =>
    obtain ⟨⟨entry, next⟩, first, done⟩ := bind_some done
    obtain ⟨⟨others, final⟩, remaining, done⟩ := bind_some done
    cases done
    obtain ⟨placed, single⟩ := placeChunk_placed first
    obtain ⟨rest, stacked⟩ := ih remaining
    exact ⟨by simpa using ⟨placed, rest⟩, single.append stacked⟩

theorem makeDirectory_placed {start : Nat}
    {directory : List ChunkDirectoryEntry} (made : makeDirectory classes start nextOffset = some (directory, last)) :
    (∀ entry ∈ directory, Placed entry) ∧ Stacked nextOffset.toNat (directory.map chunkSpan) last.toNat := by
  induction classes generalizing start nextOffset directory last with
  | nil =>
    cases made
    exact ⟨by simp, Nat.le_refl _⟩
  | cons metadata rest ih =>
    obtain ⟨⟨entries, next⟩, first, made⟩ := bind_some made
    obtain ⟨⟨others, final⟩, remaining, made⟩ := bind_some made
    cases made
    obtain ⟨placed, stacked⟩ := placeChunks_placed first
    obtain ⟨later, above⟩ := ih remaining
    rw [List.map_append]
    refine ⟨?_, stacked.append above⟩
    intro entry member
    rcases List.mem_append.mp member with member | member
    · exact placed entry member
    · exact later entry member

/-- Size classes of growing capacity, whose chunks follow each other from `first` up to `last`. -/
def Listed : (previous first : Nat) → List SizeClassMetadata → (last : Nat) → Prop
  | _, first, [], last => first = last
  | previous, first, metadata :: rest, last =>
    previous < metadata.capacity.toNat ∧ metadata.firstChunkIndex.toNat = first ∧ 0 < metadata.chunkCount.toNat ∧
      Listed metadata.capacity.toNat (first + metadata.chunkCount.toNat) rest last

theorem Listed.bounds {previous first last : Nat} (listed : Listed previous first classes last) : first ≤ last := by
  induction classes generalizing previous first with
  | nil => exact Nat.le_of_eq listed
  | cons metadata rest ih =>
    have upper := ih listed.2.2.2
    omega

theorem makeSizeClasses_listed {items : List MemoryPoolClassConfig} {previous total : UInt64}
    (made : makeSizeClasses items previous total = .ok (classes, last))
    (small : total ≤ uint32Max) : Listed previous.toNat total.toNat classes last.toNat := by
  induction items generalizing previous total classes last with
  | nil =>
    cases made
    rfl
  | cons item rest ih =>
    simp only [makeSizeClasses] at made
    split at made
    · cases made
    next accepted =>
      simp only [not_or] at accepted
      obtain ⟨_, _, some, grows, few⟩ := accepted
      obtain ⟨⟨others, final⟩, remaining, same⟩ := bind_ok made
      cases same
      obtain ⟨fits, sum⟩ := chunks_fit few
      have later := ih remaining (by rw [UInt64.le_iff_toNat_le, sum]; exact fits)
      rw [sum] at later
      refine ⟨?_, ?_, ?_, later⟩
      · rwa [UInt64.not_le, UInt64.lt_iff_toNat_lt] at grows
      · have max : uint32Max.toNat = 4294967295 := rfl
        rw [UInt64.le_iff_toNat_le] at small
        rw [UInt64.toNat_toUInt32, Nat.mod_eq_of_lt (by omega)]
      · exact Nat.pos_of_ne_zero fun none => some (UInt32.toNat_inj.mp none)

def parts (layout : PoolLayout) : List Span :=
  (0, kPoolHeaderSize.toNat) ::
    (layout.header.sizeClassOffset.toNat,
      layout.header.sizeClassOffset.toNat + layout.sizeClasses.length * kSizeClassMetadataSize.toNat) ::
    (layout.header.chunkDirectoryOffset.toNat,
      layout.header.chunkDirectoryOffset.toNat + layout.directory.length * kChunkDirectoryEntrySize.toNat) ::
    layout.directory.map chunkSpan

/-- What `makeLayout` returns. -/
structure Formed (layout : PoolLayout) : Prop where
  magic : layout.header.magic = kMemoryPoolMagic
  version : layout.header.version = kPoolLayoutVersion
  headerSize : layout.header.headerSize = kPoolHeaderSize.toUInt16
  classCount : layout.header.sizeClassCount.toNat = layout.sizeClasses.length
  chunkCount : layout.header.chunkCount.toNat = layout.directory.length
  nonempty : 0 < layout.sizeClasses.length
  tables : layout.header.sizeClassOffset = kPoolHeaderSize
  directoryAt : layout.header.chunkDirectoryOffset.toNat = 80 + layout.sizeClasses.length * 24
  storage : layout.header.chunkDirectoryOffset.toNat + layout.directory.length * 32 ≤ layout.header.chunkStorageOffset.toNat
  alignedStorage : layout.header.chunkStorageOffset.toNat % 64 = 0
  listed : Listed 0 0 layout.sizeClasses layout.directory.length
  placed : ∀ entry ∈ layout.directory, Placed entry
  stacked : Stacked layout.header.chunkStorageOffset.toNat (layout.directory.map chunkSpan) layout.header.segmentSize.toNat
  classes : Sound layout

theorem metadataOffsets_some {classCount totalChunks directoryOffset storageOffset : UInt64}
    (done : metadataOffsets classCount totalChunks = some (directoryOffset, storageOffset)) :
    directoryOffset.toNat = 80 + classCount.toNat * 24 ∧
      directoryOffset.toNat + totalChunks.toNat * 32 ≤ storageOffset.toNat ∧ storageOffset.toNat % 64 = 0 := by
  obtain ⟨classBytes, classes, done⟩ := bind_some done
  obtain ⟨directoryBytes, chunks, done⟩ := bind_some done
  obtain ⟨directory, start, done⟩ := bind_some done
  obtain ⟨directoryEnd, stop, done⟩ := bind_some done
  obtain ⟨storage, aligned, done⟩ := bind_some done
  cases done
  have classSize : classBytes.toNat = classCount.toNat * 24 := checkedMultiply_some classes
  have chunkSize : directoryBytes.toNat = totalChunks.toNat * 32 := checkedMultiply_some chunks
  have directoryStart : directoryOffset.toNat = 80 + classBytes.toNat := checkedAdd_some start
  have directoryStop := checkedAdd_some stop
  obtain ⟨above, even⟩ := checkedAlign_some aligned
  exact ⟨by omega, by omega, even⟩

theorem makeLayout_formed {config : MemoryPoolConfig} {poolId topicId ownerPid : UInt64}
    (made : makeLayout config poolId topicId ownerPid = .ok layout) : Formed layout := by
  have sound := makeLayout_sound made
  obtain ⟨some, few, totalChunks, classes, offsets, filled, header⟩ := makeLayout_ok made
  obtain ⟨count, total, _⟩ := makeSizeClasses_spec classes (by decide)
  obtain ⟨start, above, even⟩ := metadataOffsets_some offsets
  obtain ⟨placed, stacked⟩ := makeDirectory_placed filled
  have listed := makeSizeClasses_listed classes (by decide)
  have max : uint32Max.toNat = 4294967295 := rfl
  have length : layout.directory.length = totalChunks.toNat := by
    rw [total, (makeDirectory_spec filled).1]
    exact (Nat.zero_add _).symm
  rw [UInt64.toNat_ofNat', Nat.mod_eq_of_lt (by omega)] at start
  rw [← length] at above listed
  refine
    { magic := by rw [header], version := by rw [header], headerSize := by rw [header], classCount := ?_, chunkCount := ?_,
      nonempty := ?_, tables := by rw [header], directoryAt := start, storage := above, alignedStorage := even, listed,
      placed, stacked, classes := sound }
  · rw [header]
    exact Nat.mod_eq_of_lt (by omega)
  · rw [header]
    exact Nat.mod_eq_of_lt sound.bounded
  · rw [count]
    exact List.length_pos_iff.mpr some

theorem Formed.size_ne_zero (formed : Formed layout) : layout.header.segmentSize ≠ 0 := by
  intro zero
  have start := formed.directoryAt
  have storage := formed.storage
  have upper := formed.stacked.bounds
  have none : layout.header.segmentSize.toNat = 0 := by rw [zero]; rfl
  omega

/-- The header, the two tables and the chunks stand one above the other. -/
theorem Formed.parts_stacked (formed : Formed layout) : Stacked 0 (parts layout) layout.header.segmentSize.toNat := by
  have header : kPoolHeaderSize.toNat = 80 := rfl
  have classSize : kSizeClassMetadataSize.toNat = 24 := rfl
  have entrySize : kChunkDirectoryEntrySize.toNat = 32 := rfl
  have start := formed.directoryAt
  have storage := formed.storage
  simp only [parts, Stacked, formed.tables, header, classSize, entrySize]
  refine ⟨by omega, by omega, by omega, by omega, by omega, by omega, formed.stacked.lower storage⟩

end RobotMiddleware.Proofs.PoolRanges
