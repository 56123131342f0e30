import Mathlib.Data.List.Nodup
import RobotMiddleware.Proofs.PoolGeometry
import RobotMiddleware.Proofs.PoolLifecycle

/-! Whole runs of a pool: a created pool is valid, every sequence of calls keeps
it so, and from there follow the lifecycle rules that the pool's users rely on. -/

namespace RobotMiddleware.Proofs.PoolRuns
open Lib.Outcome MemoryPool PoolGeometry PoolLifecycle

variable {pool : MemoryPool} {ownerPid : UInt64} {config : MemoryPoolConfig} {descriptor : PoolDescriptor}

theorem create_some (created : create descriptor config ownerPid = .ok pool) :
    descriptor.poolId ≠ 0 ∧ ∃ layout, makeLayout config descriptor.poolId descriptor.topicId ownerPid = .ok layout ∧
      descriptor.segmentSize = layout.header.segmentSize ∧ pool.descriptor = descriptor ∧
      pool.sizeClasses = layout.sizeClasses ∧ pool.directory = layout.directory ∧
      pool.headers = layout.directory.map (freshHeader descriptor) ∧
      pool.freeLists = initialFreeLists layout.sizeClasses layout.directory ∧
      pool.instrumentation.allocations = 0 ∧ pool.instrumentation.reclaims = 0 := by
  unfold create at created
  split at created
  · cases created
  next accepted =>
    simp only [not_or] at accepted
    obtain ⟨layout, made, created⟩ := bind_ok created
    split at created
    · cases created
    next sized =>
      cases created
      exact ⟨accepted.1, layout, made, Decidable.not_not.mp sized, rfl, rfl, rfl, rfl, rfl, rfl, rfl⟩

private theorem initialFreeLists_getD (sizeClasses : List SizeClassMetadata) (directory : List ChunkDirectoryEntry)
    (small : directory.length < 2 ^ 32) (classIndex : Nat) :
    ((initialFreeLists sizeClasses directory).getD classIndex []).Nodup ∧
      ∀ index : UInt32, index ∈ (initialFreeLists sizeClasses directory).getD classIndex [] ↔
        classIndex < sizeClasses.length ∧ index.toNat < directory.length ∧
          (directory.getD index.toNat default).sizeClassIndex.toNat = classIndex := by
  have exact (position : Nat) (inside : position < directory.length) : (UInt32.ofNat position).toNat = position := by
    rw [UInt32.toNat_ofNat', Nat.mod_eq_of_lt (by omega)]
  by_cases known : classIndex < sizeClasses.length
  · have list : (initialFreeLists sizeClasses directory).getD classIndex [] =
        ((List.range directory.length).reverse.filter fun index =>
          (directory.getD index default).sizeClassIndex.toNat == classIndex).map UInt32.ofNat := by
      simp [initialFreeLists, List.getD_eq_getElem?_getD, known]
    rw [list]
    refine ⟨?_, ?_⟩
    · apply List.Nodup.map_on
      · intro first present second member equal
        simp only [List.mem_filter, List.mem_reverse, List.mem_range] at present member
        rw [← exact first present.1, ← exact second member.1, equal]
      · exact (List.nodup_reverse.mpr List.nodup_range).filter _
    · intro index
      simp only [List.mem_map, List.mem_filter, List.mem_reverse, List.mem_range, beq_iff_eq, known, true_and]
      constructor
      · rintro ⟨position, ⟨inside, same⟩, rfl⟩
        rw [exact position inside]
        exact ⟨inside, same⟩
      · rintro ⟨inside, same⟩
        exact ⟨index.toNat, ⟨inside, same⟩, UInt32.ofNat_toNat⟩
  · have list : (initialFreeLists sizeClasses directory).getD classIndex [] = [] := by
      simp [initialFreeLists, List.getD_eq_getElem?_getD, known]
    rw [list]
    simp [known]

theorem create_valid (created : create descriptor config ownerPid = .ok pool) : Valid pool := by
  obtain ⟨named, layout, made, _, described, classes, directory, headers, lists, allocations, reclaims⟩ := create_some created
  have sound := makeLayout_sound made
  have header (index : UInt32) (inside : index.toNat < layout.directory.length) :
      pool.chunkHeader index = freshHeader descriptor (layout.directory.getD index.toNat default) := by
    simp [chunkHeader, headers, List.getD_eq_getElem?_getD, inside]
  have entry (index : UInt32) (inside : index.toNat < layout.directory.length) :
      layout.directory.getD index.toNat default ∈ layout.directory := by
    simp [List.getD_eq_getElem?_getD, inside]
  refine ⟨by rw [described]; exact named, by simp [headers, directory], by simp [lists, classes, initialFreeLists], by rw [directory]; exact sound.bounded,
    ?_, ?_, ?_, ?_, ?_, ?_⟩
  · intro index inside
    rw [directory] at inside
    rw [header index inside]
    exact ⟨by simp [freshHeader], by simp [freshHeader], by simp [freshHeader], by simp [freshHeader]⟩
  · intro index inside
    rw [directory] at inside
    rw [header index inside, classes]
    obtain ⟨item, found, capacity, small⟩ := sound.classes _ (entry index inside)
    refine ⟨item, found, ?_⟩
    rw [← capacity]
    exact narrowed_of_le small
  · intro index inside
    rw [directory] at inside
    obtain ⟨item, _, _, small⟩ := sound.classes _ (entry index inside)
    rw [header index inside, described, directoryEntry, directory]
    exact ⟨rfl, rfl, narrowed_of_le small, rfl⟩
  · intro classIndex index
    rw [freeList, lists, (initialFreeLists_getD _ _ sound.bounded classIndex).2 index, directory]
    constructor
    · rintro ⟨_, inside, same⟩
      rw [header index inside]
      exact ⟨inside, rfl, same⟩
    · rintro ⟨inside, _, same⟩
      rw [header index inside] at same
      obtain ⟨item, found, _⟩ := sound.classes _ (entry index inside)
      have known := (List.getElem?_eq_some_iff.mp found).1
      exact ⟨same ▸ known, inside, same⟩
  · intro classIndex
    rw [freeList, lists]
    exact (initialFreeLists_getD _ _ sound.bounded classIndex).1
  · have none : inUse pool = 0 := by
      simp [inUse, headers, freshHeader, List.countP_map, Function.comp_def]
    rw [none, allocations, reclaims]
    rfl

theorem create_free (created : create descriptor config ownerPid = .ok pool) (index : UInt32)
    (inside : index.toNat < pool.directory.length) : (pool.chunkHeader index).state = .free := by
  obtain ⟨_, layout, _, _, _, _, directory, headers, _⟩ := create_some created
  rw [directory] at inside
  simp [chunkHeader, headers, List.getD_eq_getElem?_getD, inside, freshHeader]

theorem performAll_append (pool : MemoryPool) (earlier later : List PoolOperation) :
    pool.performAll (earlier ++ later) = (pool.performAll earlier).performAll later := List.foldl_append

theorem performAll_valid (valid : Valid pool) (operations : List PoolOperation) : Valid (pool.performAll operations) := by
  induction operations generalizing pool with
  | nil => exact valid
  | cons operation rest kept => exact kept ((perform_effect valid operation).valid valid)

theorem allocate_never_invalidState (valid : Valid pool) (payloadSize : UInt64) :
    (pool.allocate payloadSize).1.error ≠ .invalidState := by
  have answer := allocate_answers valid payloadSize
  generalize pool.allocate payloadSize = outcome at answer ⊢
  cases answer <;> simp

theorem freeList_count (valid : Valid pool) (classIndex : Nat) (index : UInt32) :
    (pool.freeList classIndex).count index =
      if index.toNat < pool.directory.length ∧ (pool.chunkHeader index).state = .free ∧
        (pool.chunkHeader index).sizeClassIndex.toNat = classIndex then 1 else 0 := by
  rw [(valid.distinct classIndex).count]
  simp only [valid.listed]

/-- The state of a pool between two calls, in terms of its chunks. -/
structure Consistent (pool : MemoryPool) : Prop where
  freeOnce : ∀ index : UInt32, index.toNat < pool.directory.length →
    ((pool.freeList (pool.chunkHeader index).sizeClassIndex.toNat).count index = 1 ↔
      (pool.chunkHeader index).state = .free)
  nowhereElse : ∀ (index : UInt32) (classIndex : Nat), index.toNat < pool.directory.length →
    (pool.chunkHeader index).state ≠ .free ∨ classIndex ≠ (pool.chunkHeader index).sizeClassIndex.toNat →
      index ∉ pool.freeList classIndex
  referenced : ∀ index : UInt32, index.toNat < pool.directory.length →
    ((pool.chunkHeader index).refCount > 0 ↔ (pool.chunkHeader index).state = .published)
  freeEmpty : ∀ index : UInt32, index.toNat < pool.directory.length →
    (pool.chunkHeader index).state = .free → (pool.chunkHeader index).payloadSize = 0
  payloadFits : ∀ index : UInt32, index.toNat < pool.directory.length →
    (pool.chunkHeader index).payloadSize ≤ (pool.chunkHeader index).capacity
  balance : pool.instrumentation.allocations - pool.instrumentation.reclaims = UInt64.ofNat (inUse pool)

theorem valid_consistent (valid : Valid pool) : Consistent pool := by
  refine ⟨?_, ?_, ?_, ?_, ?_, valid.balance⟩
  · intro index inside
    rw [freeList_count valid]
    simp [inside]
  · intro index classIndex inside outside present
    obtain ⟨_, free, own⟩ := (valid.listed classIndex index).mp present
    rcases outside with busy | other
    · exact busy free
    · exact other own.symm
  · intro index inside
    rw [← (valid.headers index inside).references]
    exact UInt32.pos_iff_ne_zero
  · exact fun index inside => (valid.headers index inside).empty
  · exact fun index inside => (valid.headers index inside).fits

/-- From creation on, whatever sequence of calls is made with whatever handles,
the chunks are consistent, and the next call follows the lifecycle. -/
theorem lifecycle_holds {descriptor : PoolDescriptor} {config : MemoryPoolConfig} {ownerPid : UInt64}
    (created : create descriptor config ownerPid = .ok pool) (operations : List PoolOperation) :
    Consistent (pool.performAll operations) ∧
      (∀ operation, ((pool.performAll operations).perform operation).1 ≠ .ok →
        ((pool.performAll operations).perform operation).2.headers = (pool.performAll operations).headers ∧
        ((pool.performAll operations).perform operation).2.freeLists = (pool.performAll operations).freeLists) ∧
      (∀ operation index, Moves ((pool.performAll operations).chunkHeader index).state
        (((pool.performAll operations).perform operation).2.chunkHeader index).state) ∧
      (∀ payloadSize, ((pool.performAll operations).allocate payloadSize).1.error ≠ .invalidState) := by
  have valid := performAll_valid (create_valid created) operations
  exact ⟨valid_consistent valid, fun operation => (perform_effect valid operation).failed,
    fun operation => (perform_effect valid operation).moves valid, allocate_never_invalidState valid⟩

def sampleConfig : MemoryPoolConfig := ⟨[⟨16, 2⟩, ⟨64, 1⟩]⟩

def sampleDescriptor : PoolDescriptor := ⟨[slash, 112], 1, 640, 1, kPoolLayoutVersion⟩

theorem sample_created : ∃ pool, create sampleDescriptor sampleConfig 1 = .ok pool := ⟨_, rfl⟩

theorem lifecycle_holds_sample :
    ∃ pool, create sampleDescriptor sampleConfig 1 = .ok pool ∧
      Consistent (pool.performAll [.allocate 8, .publishLoaned ⟨1, 0, 1, 320⟩ 8 1 1 1]) := by
  obtain ⟨pool, created⟩ := sample_created
  exact ⟨pool, created, (lifecycle_holds created _).1⟩

end RobotMiddleware.Proofs.PoolRuns
