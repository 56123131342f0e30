import RobotMiddleware.Lib.Safety
import RobotMiddleware.PoolSegment
import RobotMiddleware.Proofs.PoolRanges

/-! Whatever bytes a segment holds, a subscriber that opens it reads only inside
the mapping, and accepts only a directory whose chunks stand one above the other
inside it. What it reads later through such a directory stays inside one chunk. -/

namespace RobotMiddleware.Proofs.HostileSegments
open Lib Lib.Intervals Lib.Safety MemoryPoolView PoolLayout PoolRanges

variable {region : SharedMemoryRegion} {descriptor : PoolDescriptor} {header : PoolHeader}
  {sizeClasses : List SizeClassMetadata} {entry : ChunkDirectoryEntry}

theorem fetch_returns {offset count : Nat} (inside : offset + count ≤ region.size.toNat) :
    Returns (fun _ => True) (region.fetch offset count) := by
  unfold SharedMemoryRegion.fetch
  rw [if_pos inside]
  exact ⟨_, rfl, trivial⟩

theorem check_safe {bad : Prop} [Decidable bad] {what : String} :
    Safe (fun _ => ¬bad) (Access.checked (if bad then invalidSegment what else .ok ())) := by
  refine Safe.check fun value same => ?_
  split at same
  · cases same
  · assumption

theorem rangeInside_bounds {offset size limit : UInt64} (inside : rangeInside offset size limit = true) :
    offset.toNat + size.toNat ≤ limit.toNat := by
  simp only [rangeInside, Bool.and_eq_true, decide_eq_true_eq] at inside
  obtain ⟨start, length⟩ := inside
  rw [UInt64.le_iff_toNat_le, UInt64.toNat_sub_of_le _ _ start] at length
  rw [UInt64.le_iff_toNat_le] at start
  omega

/-- The two tables lie inside the mapping. -/
structure TablesInside (regionSize : UInt64) (header : PoolHeader) : Prop where
  classes : header.sizeClassOffset.toNat + header.sizeClassCount.toNat * kSizeClassMetadataSize.toNat ≤ regionSize.toNat
  directory : header.chunkDirectoryOffset.toNat + header.chunkCount.toNat * kChunkDirectoryEntrySize.toNat ≤ regionSize.toNat
  storage : header.chunkStorageOffset.toNat ≤ regionSize.toNat

theorem metadataInside_tables {regionSize : UInt64} (inside : metadataInside regionSize header = true) :
    TablesInside regionSize header := by
  unfold metadataInside at inside
  split at inside
  next classBytes directoryBytes classes directory =>
    simp only [Bool.and_eq_true, decide_eq_true_eq] at inside
    have classSize := checkedMultiply_some classes
    have directorySize := checkedMultiply_some directory
    rw [UInt32.toNat_toUInt64] at classSize directorySize
    exact {
      classes := by rw [← classSize]; exact rangeInside_bounds inside.1.1.1.2
      directory := by rw [← directorySize]; exact rangeInside_bounds inside.1.1.2
      storage := UInt64.le_iff_toNat_le.mp inside.1.2 }
  next => cases inside

theorem checkMetadata_safe (regionSize : UInt64) (header : PoolHeader) :
    Safe (fun _ => TablesInside regionSize header) (Access.checked (checkMetadata regionSize header)) := by
  refine Safe.check fun value same => ?_
  unfold checkMetadata at same
  split at same
  next inside => exact metadataInside_tables inside
  next => cases same

theorem readSizeClasses_safe {remaining index : Nat} {previous expected : UInt64}
    (inside : header.sizeClassOffset.toNat + (index + remaining) * kSizeClassMetadataSize.toNat ≤ region.size.toNat) :
    Safe (fun _ => True) (readSizeClasses region header remaining index previous expected) := by
  induction remaining generalizing index previous expected with
  | zero => exact Safe.pure trivial
  | succ remaining ih =>
    have size : kSizeClassMetadataSize.toNat = 24 := rfl
    rw [size] at inside
    unfold readSizeClasses
    refine (fetch_returns (by rw [size]; omega)).safe.bind fun data _ => ?_
    refine check_safe.bind fun _ _ => ?_
    refine (ih (by rw [size]; omega)).bind fun _ _ => ?_
    exact Safe.pure trivial

/-- An entry that the subscriber accepts: its chunk is placed as `makeLayout` places
one, at or above `previousEnd` and inside the mapping. -/
structure Admitted (sizeClasses : List SizeClassMetadata) (entry : ChunkDirectoryEntry) : Prop where
  placed : Placed entry
  capacity : sizeClasses[entry.sizeClassIndex.toNat]?.map SizeClassMetadata.capacity = some entry.capacity

theorem checkEntry_safe (sizeClasses : List SizeClassMetadata) (regionSize previousEnd : UInt64) (entry : ChunkDirectoryEntry) :
    Safe (fun _ => Admitted sizeClasses entry ∧ Stacked previousEnd.toNat [chunkSpan entry] regionSize.toNat ∧
        (entry.payloadOffset + entry.capacity).toNat = entry.payloadOffset.toNat + entry.capacity.toNat)
      (Access.checked (checkEntry sizeClasses regionSize previousEnd entry)) := by
  refine check_safe.weaken fun _ accepted => ?_
  simp only [not_or, ne_eq, Decidable.not_not, Bool.not_eq_true', Bool.not_eq_false] at accepted
  obtain ⟨capacity, headerFits, payloadFits, aligned, follows, _, above, _, _, _, inside⟩ := accepted
  have payload : entry.payloadOffset.toNat = entry.headerOffset.toNat + 64 := by
    rw [follows, add_exact headerFits]
    rfl
  have even : entry.headerOffset.toNat % 64 = 0 := by
    have remainder := congrArg UInt64.toNat aligned
    rwa [UInt64.toNat_mod, kChunkAlignment_toNat] at remainder
  have stop := rangeInside_bounds inside
  rw [UInt64.not_lt, UInt64.le_iff_toNat_le] at above
  refine ⟨⟨⟨even, payload⟩, capacity⟩, ⟨above, ?_, stop⟩, add_exact payloadFits⟩
  simp only [chunkSpan]
  omega

structure Directory (sizeClasses : List SizeClassMetadata) (low high : Nat) (directory : List ChunkDirectoryEntry) : Prop where
  stacked : Stacked low (directory.map chunkSpan) high
  admitted : ∀ entry ∈ directory, Admitted sizeClasses entry

theorem readDirectory_safe {remaining index : Nat} {previousEnd : UInt64}
    (inside : header.chunkDirectoryOffset.toNat + (index + remaining) * kChunkDirectoryEntrySize.toNat ≤ region.size.toNat)
    (below : previousEnd.toNat ≤ region.size.toNat) :
    Safe (Directory sizeClasses previousEnd.toNat region.size.toNat)
      (readDirectory region descriptor header sizeClasses remaining index previousEnd) := by
  induction remaining generalizing index previousEnd with
  | zero => exact Safe.pure ⟨below, by simp⟩
  | succ remaining ih =>
    have size : kChunkDirectoryEntrySize.toNat = 32 := rfl
    rw [size] at inside
    unfold readDirectory
    refine (fetch_returns (by rw [size]; omega)).safe.bind fun data _ => ?_
    -- the check of an entry is what makes the access to its chunk header safe
    refine (checkEntry_safe _ _ _ _).bind fun _ accepted => ?_
    obtain ⟨admitted, stacked, stop⟩ := accepted
    have upper : _ ≤ region.size.toNat := stacked.2.2
    simp only [chunkSpan] at upper
    have payload := admitted.placed.payload
    have headerSize : chunkHeaderSize.toNat = 64 := rfl
    refine (fetch_returns (by omega)).safe.bind fun chunk _ => ?_
    refine check_safe.bind fun _ _ => ?_
    refine (ih (by rw [size]; omega) (by omega)).bind fun others rest => ?_
    rw [stop] at rest
    exact Safe.pure ⟨⟨stacked.1, stacked.2.1, rest.stacked⟩, by simpa using ⟨admitted, rest.admitted⟩⟩

/-- What the subscriber knows of a view that it has opened. -/
def Opened (view : MemoryPoolView) : Prop := Directory view.sizeClasses 0 view.region.size.toNat view.directory

theorem openReadOnly_safe (object : SharedMemoryRegion) (name : Bytes) (expectedSize : UInt64) :
    Safe (fun region => region.size = expectedSize) (Access.checked (object.openReadOnly name expectedSize)) := by
  refine Safe.check fun region same => ?_
  unfold SharedMemoryRegion.openReadOnly at same
  obtain ⟨_, _, same⟩ := Outcome.bind_ok same
  split at same
  · cases same
  next equal =>
    cases same
    exact Decidable.not_not.mp equal

theorem openSegment_safe (object : SharedMemoryRegion) (descriptor : PoolDescriptor) (expectedTopicId : UInt64) :
    Safe Opened (MemoryPoolView.openSegment object descriptor expectedTopicId) := by
  unfold MemoryPoolView.openSegment
  refine check_safe.bind fun _ accepted => ?_
  refine (openReadOnly_safe _ _ _).bind fun region sized => ?_
  simp only [not_or, UInt64.not_lt] at accepted
  have large := UInt64.le_iff_toNat_le.mp accepted.2.1
  rw [← sized] at large
  refine (fetch_returns (by omega)).safe.bind fun data _ => ?_
  refine check_safe.bind fun _ _ => ?_
  refine (checkMetadata_safe _ _).bind fun _ tables => ?_
  refine (readSizeClasses_safe (by rw [Nat.zero_add]; exact tables.classes)).bind fun read _ => ?_
  refine check_safe.bind fun _ _ => ?_
  refine (readDirectory_safe (by rw [Nat.zero_add]; exact tables.directory) tables.storage).bind fun directory found => ?_
  exact Safe.pure ⟨found.stacked.lower (Nat.zero_le _), found.admitted⟩

def Reported (view : MemoryPoolView) (handle : ChunkHandle) (maxMessageSize : UInt64) (result : ChunkViewResult) : Prop :=
  result.error = .ok → ∃ entry payload, view.directory[handle.chunkIndex.toNat]? = some entry ∧ result.payload = some payload ∧
    Span.cells (payload.toNat, payload.toNat + result.payloadSize.toNat) ⊆
      Span.cells (entry.payloadOffset.toNat, entry.payloadOffset.toNat + entry.capacity.toNat) ∧
    result.payloadSize ≤ maxMessageSize

theorem readMapped_returns {view : MemoryPoolView} (opened : Opened view) (handle : ChunkHandle) (maxMessageSize : UInt64) :
    Returns (Reported view handle maxMessageSize) (view.readMapped handle maxMessageSize) := by
  simp only [readMapped]
  split
  next => exact Returns.pure fun impossible => by cases impossible
  next accepted =>
    simp only [not_or, Nat.not_le] at accepted
    have listed : view.directory[handle.chunkIndex.toNat]? = some (view.directory.getD handle.chunkIndex.toNat default) := by
      rw [List.getD_eq_getElem?_getD, List.getElem?_eq_getElem accepted.2.1, Option.getD_some]
    generalize view.directory.getD handle.chunkIndex.toNat default = entry at listed ⊢
    have member := List.mem_of_getElem? listed
    have payload := (opened.admitted entry member).placed.payload
    have inside := opened.stacked.within _ (List.mem_map_of_mem member)
    simp only [chunkSpan] at inside
    have headerSize : chunkHeaderSize.toNat = 64 := rfl
    refine (fetch_returns (by omega)).bind fun data _ => ?_
    split
    next => exact Returns.pure fun impossible => by cases impossible
    next valid =>
      simp only [not_or, ne_eq, Decidable.not_not, UInt32.not_lt, UInt64.not_lt] at valid
      obtain ⟨_, _, _, _, capacity, _, within, bounded, _⟩ := valid
      refine Returns.pure fun _ => ⟨entry, entry.payloadOffset, listed, rfl, ?_, bounded⟩
      rw [UInt32.le_iff_toNat_le, ← UInt32.toNat_toUInt64, ← UInt32.toNat_toUInt64, capacity] at within
      exact Set.Ico_subset_Ico_right (Nat.add_le_add_left within _)

/-- Opening a segment of whatever content, and reading through the view while the
content of the mapping changes in whatever way. -/
theorem hostile_segment_safe (object : SharedMemoryRegion) (descriptor : PoolDescriptor) (expectedTopicId : UInt64) :
    ∃ outcome, (MemoryPoolView.openSegment object descriptor expectedTopicId).run = some outcome ∧
      ∀ view, outcome = .ok view →
        (∀ entry ∈ view.directory,
          entry.headerOffset.toNat % 64 = 0 ∧ entry.payloadOffset.toNat % 64 = 0 ∧
          entry.headerOffset.toNat < entry.payloadOffset.toNat ∧
          (chunkSpan entry).cells ⊆ Span.cells (0, view.region.size.toNat) ∧
          view.sizeClasses[entry.sizeClassIndex.toNat]?.map SizeClassMetadata.capacity = some entry.capacity) ∧
        (view.directory.map chunkSpan).Pairwise (fun span other => Disjoint span.cells other.cells) ∧
        ∀ bytes handle maxMessageSize, ∃ result,
          (readMapped { view with region.bytes := bytes } handle maxMessageSize).run = some (.ok result) ∧
          Reported view handle maxMessageSize result := by
  obtain ⟨outcome, done, opens⟩ := openSegment_safe object descriptor expectedTopicId
  refine ⟨outcome, done, fun view same => ?_⟩
  have opened := opens view same
  refine ⟨?_, opened.stacked.disjoint, ?_⟩
  · intro entry member
    obtain ⟨⟨aligned, payload⟩, capacity⟩ := opened.admitted entry member
    have inside := opened.stacked.within _ (List.mem_map_of_mem member)
    exact ⟨aligned, by omega, by omega, Set.Ico_subset_Ico (Nat.zero_le _) inside.2.2, capacity⟩
  · intro bytes handle maxMessageSize
    have later : Opened { view with region.bytes := bytes } := opened
    exact readMapped_returns later handle maxMessageSize

end RobotMiddleware.Proofs.HostileSegments
