import Mathlib.Algebra.Ring.Nat
import RobotMiddleware.Lib.Outcome
import RobotMiddleware.PoolLayout

/-! What `makeLayout` guarantees about the size classes and the chunk directory
of every configuration it accepts. -/

namespace RobotMiddleware.Proofs.PoolGeometry
open Lib.Outcome PoolLayout

theorem narrowed_of_le {size : UInt64} (small : size ≤ uint32Max) : size.toUInt32.toUInt64 = size := by
  apply UInt64.toNat_inj.mp
  rw [UInt32.toNat_toUInt64, UInt64.toNat_toUInt32]
  exact Nat.mod_eq_of_lt (Nat.lt_of_le_of_lt (UInt64.le_iff_toNat_le.mp small) (by decide))

def chunkTotal (classes : List SizeClassMetadata) : Nat := (classes.map fun item => item.chunkCount.toNat).sum

theorem chunks_fit {total : UInt64} {count : UInt32} (few : ¬total > uint32Max - count.toUInt64) :
    total.toNat + count.toNat ≤ uint32Max.toNat ∧ (total + count.toUInt64).toNat = total.toNat + count.toNat := by
  have max : uint32Max.toNat = 4294967295 := rfl
  have bound : count.toNat < 4294967296 := count.toNat_lt
  have below : count.toUInt64 ≤ uint32Max := by
    rw [UInt64.le_iff_toNat_le, UInt32.toNat_toUInt64, max]
    omega
  rw [UInt64.not_lt, UInt64.le_iff_toNat_le, UInt64.toNat_sub_of_le _ _ below, UInt32.toNat_toUInt64] at few
  rw [UInt64.toNat_add, UInt32.toNat_toUInt64]
  omega

theorem makeSizeClasses_spec {items : List MemoryPoolClassConfig} {previous total last : UInt64}
    {classes : List SizeClassMetadata} (made : makeSizeClasses items previous total = .ok (classes, last))
    (small : total ≤ uint32Max) :
    classes.length = items.length ∧ last.toNat = total.toNat + chunkTotal classes ∧ last ≤ uint32Max ∧
      ∀ item ∈ classes, item.capacity ≤ uint32Max := by
  induction items generalizing previous total classes last with
  | nil =>
    cases made
    exact ⟨rfl, rfl, small, by simp⟩
  | cons item rest ih =>
    simp only [makeSizeClasses] at made
    split at made
    · cases made
    next accepted =>
      simp only [not_or] at accepted
      obtain ⟨_, narrow, _, _, room⟩ := accepted
      obtain ⟨⟨others, final⟩, remaining, same⟩ := bind_ok made
      cases same
      obtain ⟨fits, sum⟩ := chunks_fit room
      obtain ⟨count, totals, bound, capacities⟩ := ih remaining (by rw [UInt64.le_iff_toNat_le, sum]; exact fits)
      refine ⟨by simp [count], ?_, bound, ?_⟩
      · rw [totals, sum]
        simp [chunkTotal]
        omega
      · intro other member
        rcases List.mem_cons.mp member with rfl | member
        · exact UInt64.not_lt.mp narrow
        · exact capacities other member

theorem placeChunk_entry {nextOffset capacity last : UInt64} {classIndex : Nat} {entry : ChunkDirectoryEntry}
    (placed : placeChunk nextOffset capacity classIndex = some (entry, last)) :
    entry.capacity = capacity ∧ entry.sizeClassIndex = UInt32.ofNat classIndex := by
  obtain ⟨headerOffset, _, placed⟩ := bind_some placed
  obtain ⟨payloadOffset, _, placed⟩ := bind_some placed
  obtain ⟨chunkEnd, _, placed⟩ := bind_some placed
  obtain ⟨next, _, placed⟩ := bind_some placed
  cases placed
  exact ⟨rfl, rfl⟩

theorem placeChunks_spec {capacity nextOffset last : UInt64} {classIndex count : Nat}
    {entries : List ChunkDirectoryEntry} (placed : placeChunks capacity classIndex count nextOffset = some (entries, last)) :
    entries.length = count ∧
      ∀ entry ∈ entries, entry.capacity = capacity ∧ entry.sizeClassIndex = UInt32.ofNat classIndex := by
  induction count generalizing nextOffset entries last with
  | zero => cases placed; exact ⟨rfl, by simp⟩
  | succ count ih =>
    obtain ⟨⟨entry, next⟩, first, placed⟩ := bind_some placed
    obtain ⟨⟨others, final⟩, remaining, placed⟩ := bind_some placed
    cases placed
    obtain ⟨length, same⟩ := ih remaining
    refine ⟨by simp [length], ?_⟩
    intro other member
    rcases List.mem_cons.mp member with rfl | member
    · exact placeChunk_entry first
    · exact same other member

/-- Every directory entry belongs to one of the classes and has its capacity. -/
theorem makeDirectory_spec {classes : List SizeClassMetadata} {start : Nat} {nextOffset last : UInt64}
    {directory : List ChunkDirectoryEntry} (made : makeDirectory classes start nextOffset = some (directory, last)) :
    directory.length = chunkTotal classes ∧
      ∀ entry ∈ directory, ∃ position item, classes[position]? = some item ∧ entry.capacity = item.capacity ∧
        entry.sizeClassIndex = UInt32.ofNat (start + position) := by
  induction classes generalizing start nextOffset directory last with
  | nil => cases made; exact ⟨rfl, by simp⟩
  | cons metadata rest ih =>
    obtain ⟨⟨entries, next⟩, first, made⟩ := bind_some made
    obtain ⟨⟨others, final⟩, remaining, made⟩ := bind_some made
    cases made
    obtain ⟨length, same⟩ := placeChunks_spec first
    obtain ⟨lengths, belongs⟩ := ih remaining
    refine ⟨by simp [length, lengths, chunkTotal], ?_⟩
    intro entry member
    rcases List.mem_append.mp member with member | member
    · exact ⟨0, metadata, rfl, same entry member⟩
    · obtain ⟨position, item, found, capacity, index⟩ := belongs entry member
      refine ⟨position + 1, item, by simpa using found, capacity, ?_⟩
      rw [index]
      congr 1
      omega

/-- The directory and the classes of an accepted layout fit together. -/
structure Sound (layout : PoolLayout) : Prop where
  bounded : layout.directory.length < 2 ^ 32
  classes : ∀ entry ∈ layout.directory, ∃ item, layout.sizeClasses[entry.sizeClassIndex.toNat]? = some item ∧
    entry.capacity = item.capacity ∧ entry.capacity ≤ uint32Max

theorem makeLayout_ok {config : MemoryPoolConfig} {poolId topicId ownerPid : UInt64} {layout : PoolLayout}
    (made : makeLayout config poolId topicId ownerPid = .ok layout) :
    config.sizeClasses ≠ [] ∧ config.sizeClasses.length ≤ uint32Max.toNat ∧
      ∃ totalChunks, makeSizeClasses config.sizeClasses 0 0 = .ok (layout.sizeClasses, totalChunks) ∧
        metadataOffsets (UInt64.ofNat layout.sizeClasses.length) totalChunks =
          some (layout.header.chunkDirectoryOffset, layout.header.chunkStorageOffset) ∧
        makeDirectory layout.sizeClasses 0 layout.header.chunkStorageOffset =
          some (layout.directory, layout.header.segmentSize) ∧
        layout.header = { layout.header with
          magic := kMemoryPoolMagic, version := kPoolLayoutVersion, headerSize := kPoolHeaderSize.toUInt16, poolId, topicId,
          ownerPid, sizeClassCount := UInt32.ofNat layout.sizeClasses.length,
          chunkCount := UInt32.ofNat layout.directory.length, sizeClassOffset := kPoolHeaderSize } := by
  unfold makeLayout at made
  split at made
  · cases made
  next accepted =>
    simp only [not_or, Nat.not_lt] at accepted
    obtain ⟨⟨sizeClasses, totalChunks⟩, classes, made⟩ := bind_ok made
    simp only at made
    split at made
    · cases made
    next offsets =>
      split at made
      · cases made
      next placed =>
        cases made
        exact ⟨accepted.1, accepted.2, totalChunks, classes, offsets, placed, rfl⟩

theorem makeLayout_sound {config : MemoryPoolConfig} {poolId topicId ownerPid : UInt64} {layout : PoolLayout}
    (made : makeLayout config poolId topicId ownerPid = .ok layout) : Sound layout := by
  obtain ⟨_, few, totalChunks, classes, _, placed, _⟩ := makeLayout_ok made
  obtain ⟨count, total, bound, capacities⟩ := makeSizeClasses_spec classes (by decide)
  obtain ⟨length, belongs⟩ := makeDirectory_spec placed
  have max : uint32Max.toNat = 4294967295 := rfl
  rw [UInt64.le_iff_toNat_le, total, max] at bound
  refine ⟨?_, ?_⟩
  · have zero : (0 : UInt64).toNat = 0 := rfl
    rw [length]
    omega
  · intro entry member
    obtain ⟨position, item, found, capacity, index⟩ := belongs entry member
    have inside := (List.getElem?_eq_some_iff.mp found).1
    have exact : entry.sizeClassIndex.toNat = position := by
      rw [index, Nat.zero_add, UInt32.toNat_ofNat', Nat.mod_eq_of_lt]
      omega
    refine ⟨item, by rw [exact]; exact found, capacity, ?_⟩
    rw [capacity]
    exact capacities item (List.mem_of_getElem? found)

end RobotMiddleware.Proofs.PoolGeometry
