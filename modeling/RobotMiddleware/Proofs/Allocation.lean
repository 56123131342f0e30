import RobotMiddleware.Proofs.HandleEffects
import RobotMiddleware.Proofs.PoolRanges

/-! `allocate` serves a request from the smallest class that is large enough, and
refuses it only when every chunk of that class is in use. -/

namespace RobotMiddleware.Proofs.Allocation
open MemoryPool PoolLifecycle PoolRuns PoolRanges HandleEffects

variable {pool : MemoryPool} {classes : List SizeClassMetadata} {payloadSize : UInt64} {classIndex : Nat}

def BestFit (classes : List SizeClassMetadata) (payloadSize : UInt64) (classIndex : Nat) : Prop :=
  ∃ item, classes[classIndex]? = some item ∧ payloadSize ≤ item.capacity ∧
    ∀ other ∈ classes, payloadSize ≤ other.capacity → item.capacity ≤ other.capacity

/-- The classes stand in the order of their capacities. -/
def Graded (classes : List SizeClassMetadata) : Prop := classes.Pairwise fun item larger => item.capacity < larger.capacity

theorem graded_of_listed {previous first last : Nat} (listed : Listed previous first classes last) :
    Graded classes ∧ ∀ item ∈ classes, previous < item.capacity.toNat := by
  induction classes generalizing previous first with
  | nil => exact ⟨.nil, by simp⟩
  | cons metadata rest ih =>
    obtain ⟨graded, above⟩ := ih listed.2.2.2
    refine ⟨List.pairwise_cons.mpr ⟨fun other member => UInt64.lt_iff_toNat_lt.mpr (above other member), graded⟩, ?_⟩
    intro item member
    rcases List.mem_cons.mp member with rfl | member
    · exact listed.1
    · exact Nat.lt_trans listed.1 (above item member)

theorem bestFit_of_findIdx (graded : Graded classes)
    (found : classes.findIdx? (fun item => decide (item.capacity ≥ payloadSize)) = some classIndex) :
    BestFit classes payloadSize classIndex := by
  obtain ⟨inside, fits, earlier⟩ := List.findIdx?_eq_some_iff_getElem.mp found
  refine ⟨classes[classIndex], List.getElem?_eq_getElem inside, by simpa using fits, ?_⟩
  intro other member large
  obtain ⟨position, bound, rfl⟩ := List.getElem_of_mem member
  rcases Nat.lt_trichotomy position classIndex with before | rfl | behind
  · exact absurd large (by simpa using earlier position before)
  · exact UInt64.le_refl _
  · exact UInt64.le_of_lt (List.pairwise_iff_getElem.mp graded _ _ inside bound behind)

theorem bestFit_unique (graded : Graded classes) {other : Nat} (first : BestFit classes payloadSize classIndex)
    (second : BestFit classes payloadSize other) : classIndex = other := by
  obtain ⟨item, found, fits, least⟩ := first
  obtain ⟨rival, present, large, smallest⟩ := second
  have same : item.capacity = rival.capacity :=
    UInt64.le_antisymm (least rival (List.mem_of_getElem? present) large) (smallest item (List.mem_of_getElem? found) fits)
  obtain ⟨inside, rfl⟩ := List.getElem?_eq_some_iff.mp found
  obtain ⟨bound, rfl⟩ := List.getElem?_eq_some_iff.mp present
  rcases Nat.lt_trichotomy classIndex other with before | equal | behind
  · exact absurd (same ▸ List.pairwise_iff_getElem.mp graded _ _ inside bound before) (UInt64.lt_irrefl _)
  · exact equal
  · exact absurd (same ▸ List.pairwise_iff_getElem.mp graded _ _ bound inside behind) (UInt64.lt_irrefl _)

theorem findIdx_of_bestFit (graded : Graded classes) (best : BestFit classes payloadSize classIndex) :
    classes.findIdx? (fun item => decide (item.capacity ≥ payloadSize)) = some classIndex := by
  cases found : classes.findIdx? fun item => decide (item.capacity ≥ payloadSize) with
  | none =>
    obtain ⟨item, present, fits, _⟩ := best
    have small := List.findIdx?_eq_none_iff.mp found item (List.mem_of_getElem? present)
    exact absurd fits (by simpa using small)
  | some other => rw [bestFit_unique graded best (bestFit_of_findIdx graded found)]

/-! A pool keeps its classes and its directory. -/

theorem effect_fixed {error : ErrorCode} {after : MemoryPool} (effect : Effect pool error after) :
    after.sizeClasses = pool.sizeClasses ∧ after.directory = pool.directory := by
  cases effect with
  | unchanged same => exact ⟨same.sizeClasses, same.directory⟩
  | rewritten _ _ _ replaced => exact ⟨replaced.sizeClasses, replaced.directory⟩
  | taken _ _ _ _ _ replaced => exact ⟨replaced.sizeClasses, replaced.directory⟩
  | returned _ _ _ replaced => exact ⟨replaced.sizeClasses, replaced.directory⟩

theorem performAll_fixed (valid : Valid pool) (operations : List PoolOperation) :
    (pool.performAll operations).sizeClasses = pool.sizeClasses ∧ (pool.performAll operations).directory = pool.directory := by
  induction operations generalizing pool with
  | nil => exact ⟨rfl, rfl⟩
  | cons operation rest ih =>
    have effect := perform_effect valid operation
    obtain ⟨classes, directory⟩ := effect_fixed effect
    obtain ⟨later, entries⟩ := ih (effect.valid valid)
    exact ⟨later.trans classes, entries.trans directory⟩

theorem create_graded {descriptor : PoolDescriptor} {config : MemoryPoolConfig} {ownerPid : UInt64}
    (created : create descriptor config ownerPid = .ok pool) : Graded pool.sizeClasses ∧ pool.sizeClasses ≠ [] := by
  obtain ⟨_, layout, made, _, _, classes, _⟩ := create_some created
  have formed := makeLayout_formed made
  rw [classes]
  exact ⟨(graded_of_listed formed.listed).1, List.length_pos_iff.mp formed.nonempty⟩

theorem Graded.largest (graded : Graded classes) (some : classes ≠ []) :
    ∃ largest ∈ classes, ∀ item ∈ classes, item.capacity ≤ largest.capacity := by
  refine ⟨classes.getLast some, List.getLast_mem some, fun item member => ?_⟩
  rw [← List.dropLast_append_getLast some] at member graded
  rcases List.mem_append.mp member with member | member
  · exact UInt64.le_of_lt ((List.pairwise_append.mp graded).2.2 item member _ (by simp))
  · rw [List.mem_singleton.mp member]
    exact UInt64.le_refl _

def InClass (pool : MemoryPool) (classIndex : Nat) (index : UInt32) : Prop :=
  index.toNat < pool.directory.length ∧ (pool.chunkHeader index).sizeClassIndex.toNat = classIndex

def freeChunks (pool : MemoryPool) (classIndex : Nat) : List Nat :=
  (List.range pool.directory.length).filter fun index =>
    (pool.chunkHeader (.ofNat index)).state = .free ∧ (pool.chunkHeader (.ofNat index)).sizeClassIndex.toNat = classIndex

theorem freeList_length (valid : Valid pool) (classIndex : Nat) :
    (pool.freeList classIndex).length = (freeChunks pool classIndex).length := by
  have distinct : ((pool.freeList classIndex).map UInt32.toNat).Nodup :=
    (valid.distinct classIndex).map fun _ _ => UInt32.toNat_inj.mp
  have same : ((pool.freeList classIndex).map UInt32.toNat).Perm (freeChunks pool classIndex) := by
    refine (List.perm_ext_iff_of_nodup distinct (List.nodup_range.filter _)).mpr fun index => ?_
    simp only [List.mem_map, valid.listed, List.mem_filter, List.mem_range, decide_eq_true_eq]
    constructor
    · rintro ⟨chunk, ⟨inside, free, own⟩, rfl⟩
      rw [UInt32.ofNat_toNat]
      exact ⟨inside, free, own⟩
    · rintro ⟨inside, free, own⟩
      have small := valid.bounded
      have exact : (UInt32.ofNat index).toNat = index := by
        rw [UInt32.toNat_ofNat', Nat.mod_eq_of_lt (by omega)]
      exact ⟨.ofNat index, ⟨by rw [exact]; exact inside, free, own⟩, exact⟩
  rw [← same.length_eq, List.length_map]

theorem freeList_empty (valid : Valid pool) (classIndex : Nat) :
    pool.freeList classIndex = [] ↔ ∀ index, InClass pool classIndex index →
      (pool.chunkHeader index).state = .loaned ∨ (pool.chunkHeader index).state = .published ∨
        (pool.chunkHeader index).state = .released := by
  rw [List.eq_nil_iff_forall_not_mem]
  constructor
  · intro none index member
    have busy : (pool.chunkHeader index).state ≠ .free := fun free =>
      none index ((valid.listed classIndex index).mpr ⟨member.1, free, member.2⟩)
    cases state : (pool.chunkHeader index).state with
    | free => exact absurd state busy
    | loaned => exact .inl rfl
    | published => exact .inr (.inl rfl)
    | released => exact .inr (.inr rfl)
  · intro busy index member
    obtain ⟨inside, free, own⟩ := (valid.listed classIndex index).mp member
    have state := busy index ⟨inside, own⟩
    simp [free] at state

def allocateAll (pool : MemoryPool) : List UInt64 → List AllocationResult × MemoryPool
  | [] => ([], pool)
  | payloadSize :: rest =>
    let (result, after) := pool.allocate payloadSize
    let (results, last) := allocateAll after rest
    (result :: results, last)

/-- The answers of `allocate`, from the state of the chunks alone. -/
structure AllocatesExactly (pool : MemoryPool) : Prop where
  tooLarge : ∃ largest ∈ pool.sizeClasses, (∀ item ∈ pool.sizeClasses, item.capacity ≤ largest.capacity) ∧
    ∀ payloadSize, (pool.allocate payloadSize).1.error = .messageTooLarge ↔ largest.capacity < payloadSize
  served : ∀ payloadSize, (pool.allocate payloadSize).1.error ≠ .messageTooLarge →
    ∃ classIndex, BestFit pool.sizeClasses payloadSize classIndex ∧
      ((pool.allocate payloadSize).1.error = .poolExhausted ↔ ∀ index, InClass pool classIndex index →
        (pool.chunkHeader index).state = .loaned ∨ (pool.chunkHeader index).state = .published ∨
          (pool.chunkHeader index).state = .released) ∧
      ((pool.allocate payloadSize).1.error ≠ .poolExhausted →
        (pool.allocate payloadSize).1.error = .ok ∧
        InClass pool classIndex (pool.allocate payloadSize).1.handle.chunkIndex ∧
        (pool.chunkHeader (pool.allocate payloadSize).1.handle.chunkIndex).state = .free ∧
        ((pool.allocate payloadSize).2.chunkHeader (pool.allocate payloadSize).1.handle.chunkIndex).state = .loaned)
  repeated : ∀ classIndex sizes, (∀ payloadSize ∈ sizes, BestFit pool.sizeClasses payloadSize classIndex) →
    (allocateAll pool sizes).1.map AllocationResult.error =
      List.replicate (min sizes.length (freeChunks pool classIndex).length) .ok ++
        List.replicate (sizes.length - (freeChunks pool classIndex).length) .poolExhausted

theorem allocate_tooLarge (valid : Valid pool) :
    (pool.allocate payloadSize).1.error = .messageTooLarge ↔ ∀ item ∈ pool.sizeClasses, item.capacity < payloadSize := by
  have answer := allocate_answers valid payloadSize
  generalize pool.allocate payloadSize = outcome at answer ⊢
  have found {index : Nat} (fits : pool.sizeClasses.findIdx? (fun item => decide (item.capacity ≥ payloadSize)) = some index) :
      ¬∀ item ∈ pool.sizeClasses, item.capacity < payloadSize := by
    obtain ⟨inside, large, _⟩ := List.findIdx?_eq_some_iff_getElem.mp fits
    intro small
    have less := small _ (List.getElem_mem inside)
    exact absurd less (UInt64.not_lt.mpr (by simpa using large))
  cases answer with
  | tooLarge none =>
    rw [List.findIdx?_eq_none_iff] at none
    simpa using none
  | exhausted classIndex fits empty => simpa using found fits
  | granted classIndex fits => simpa using found fits

theorem allocate_served (valid : Valid pool) (graded : Graded pool.sizeClasses)
    (small : (pool.allocate payloadSize).1.error ≠ .messageTooLarge) :
    ∃ classIndex, BestFit pool.sizeClasses payloadSize classIndex ∧
      ((pool.allocate payloadSize).1.error = .poolExhausted ↔ pool.freeList classIndex = []) ∧
      ((pool.allocate payloadSize).1.error ≠ .poolExhausted →
        (pool.allocate payloadSize).1.error = .ok ∧
        InClass pool classIndex (pool.allocate payloadSize).1.handle.chunkIndex ∧
        (pool.chunkHeader (pool.allocate payloadSize).1.handle.chunkIndex).state = .free ∧
        ((pool.allocate payloadSize).2.chunkHeader (pool.allocate payloadSize).1.handle.chunkIndex).state = .loaned) := by
  have answer := allocate_answers valid payloadSize
  generalize pool.allocate payloadSize = outcome at answer small ⊢
  cases answer with
  | tooLarge none => exact absurd rfl small
  | exhausted classIndex fits empty =>
    exact ⟨classIndex, bestFit_of_findIdx graded fits, by simp [empty], fun other => absurd rfl other⟩
  | granted classIndex fits rest index listed =>
    obtain ⟨inside, free, own, _⟩ := listed_free valid listed
    refine ⟨classIndex, bestFit_of_findIdx graded fits, by simp [listed], fun _ => ⟨rfl, ⟨inside, own⟩, free, ?_⟩⟩
    rw [lend_chunkHeader (by rw [valid.headerCount]; exact inside), if_pos rfl]
    rfl

theorem allocateAll_errors (valid : Valid pool) (graded : Graded pool.sizeClasses) (sizes : List UInt64)
    (same : ∀ payloadSize ∈ sizes, BestFit pool.sizeClasses payloadSize classIndex) :
    (allocateAll pool sizes).1.map AllocationResult.error =
      List.replicate (min sizes.length (pool.freeList classIndex).length) .ok ++
        List.replicate (sizes.length - (pool.freeList classIndex).length) .poolExhausted := by
  induction sizes generalizing pool with
  | nil => simp [allocateAll]
  | cons payloadSize rest ih =>
    have effect := allocate_effect valid payloadSize
    have next := effect.valid valid
    have classes := (effect_fixed effect).1
    have later := ih next (by rwa [classes]) (by rw [classes]; exact fun size member => same size (by simp [member]))
    have fits := findIdx_of_bestFit graded (same payloadSize (by simp))
    simp only [allocateAll, List.map_cons, later]
    have answer := allocate_answers valid payloadSize
    generalize pool.allocate payloadSize = outcome at answer ⊢
    cases answer with
    | tooLarge none => rw [none] at fits; cases fits
    | exhausted other found empty =>
      rw [found] at fits
      cases fits
      have none : (pool.freeList classIndex).length = 0 := by rw [empty]; rfl
      have still : MemoryPool.freeList { pool with instrumentation.allocationFailures := pool.instrumentation.allocationFailures + 1 }
          classIndex = pool.freeList classIndex := rfl
      simp only [still, none, Nat.min_zero, List.replicate_zero, List.nil_append, Nat.sub_zero, List.length_cons,
        List.replicate_succ]
    | granted other found rest index listed =>
      rw [found] at fits
      cases fits
      have length : (pool.freeList classIndex).length = rest.length + 1 := by rw [listed, List.length_append, List.length_singleton]
      simp only [lend_freeList listed, length, List.length_cons, Nat.add_min_add_right, Nat.add_sub_add_right,
        List.replicate_succ, List.cons_append]

theorem allocatesExactly (valid : Valid pool) (graded : Graded pool.sizeClasses) (some : pool.sizeClasses ≠ []) :
    AllocatesExactly pool where
  tooLarge := by
    obtain ⟨largest, member, bound⟩ := graded.largest some
    refine ⟨largest, member, bound, fun payloadSize => ?_⟩
    rw [allocate_tooLarge valid]
    exact ⟨fun all => all largest member, fun less item present => UInt64.lt_of_le_of_lt (bound item present) less⟩
  served := by
    intro payloadSize small
    obtain ⟨classIndex, best, exhausted, granted⟩ := allocate_served valid graded small
    exact ⟨classIndex, best, exhausted.trans (freeList_empty valid classIndex), granted⟩
  repeated := by
    intro classIndex sizes same
    rw [← freeList_length valid]
    exact allocateAll_errors valid graded sizes same

/-! The allocations that are in use. -/

/-- The allocations granted by the calls, on top of those of before, whose chunk has
not been free since. -/
def liveAllocations (pool : MemoryPool) (live : List ChunkHandle) : List PoolOperation → List ChunkHandle
  | [] => live
  | operation :: rest =>
    let after := (pool.perform operation).2
    liveAllocations after
      ((live ++ (grantedHandle pool operation).toList).filter fun handle => (after.chunkHeader handle.chunkIndex).state ≠ .free) rest

structure Tracked (pool : MemoryPool) (live : List ChunkHandle) : Prop where
  apart : (live.map ChunkHandle.chunkIndex).Nodup
  inUse : ∀ index : UInt32, index ∈ live.map ChunkHandle.chunkIndex ↔
    index.toNat < pool.directory.length ∧ (pool.chunkHeader index).state ≠ .free

theorem granted_free (valid : Valid pool) {operation : PoolOperation} {handle : ChunkHandle}
    (granted : grantedHandle pool operation = some handle) :
    handle.chunkIndex.toNat < pool.directory.length ∧ (pool.chunkHeader handle.chunkIndex).state = .free := by
  cases operation with
  | allocate payloadSize =>
    simp only [grantedHandle] at granted
    have answer := allocate_answers valid payloadSize
    generalize pool.allocate payloadSize = outcome at answer granted
    cases answer with
    | tooLarge none => cases granted
    | exhausted => cases granted
    | granted classIndex fits rest index listed =>
      cases granted
      obtain ⟨inside, free, _⟩ := listed_free valid listed
      exact ⟨inside, free⟩
  | _ => cases granted

theorem Tracked.step {live : List ChunkHandle} (tracked : Tracked pool live) (valid : Valid pool) (operation : PoolOperation) :
    Tracked (pool.perform operation).2 ((live ++ (grantedHandle pool operation).toList).filter fun handle =>
      ((pool.perform operation).2.chunkHeader handle.chunkIndex).state ≠ .free) := by
  have directory := (effect_fixed (perform_effect valid operation)).2
  have fresh : ∀ handle ∈ (grantedHandle pool operation).toList, handle.chunkIndex.toNat < pool.directory.length ∧
      handle.chunkIndex ∉ live.map ChunkHandle.chunkIndex := by
    intro handle member
    obtain ⟨inside, free⟩ := granted_free valid (Option.mem_toList.mp member)
    exact ⟨inside, fun present => ((tracked.inUse _).mp present).2 free⟩
  have apart : ((live ++ (grantedHandle pool operation).toList).map ChunkHandle.chunkIndex).Nodup := by
    cases granted : grantedHandle pool operation with
    | none => simpa using tracked.apart
    | some handle =>
      rw [granted] at fresh
      simp only [Option.toList_some, List.map_append, List.map_cons, List.map_nil]
      refine List.nodup_append.mpr ⟨tracked.apart, by simp, fun index old other new same => ?_⟩
      rw [List.mem_singleton.mp new] at same
      exact (fresh handle (by simp)).2 (same ▸ old)
  refine ⟨apart.sublist (List.filter_sublist.map _), fun index => ?_⟩
  simp only [List.mem_map, List.mem_filter, decide_eq_true_eq, directory]
  constructor
  · rintro ⟨handle, ⟨member, busy⟩, rfl⟩
    refine ⟨?_, busy⟩
    rcases List.mem_append.mp member with old | new
    · exact ((tracked.inUse _).mp (List.mem_map_of_mem old)).1
    · exact (fresh handle new).1
  · rintro ⟨inside, busy⟩
    by_cases free : (pool.chunkHeader index).state = .free
    · -- only an allocation takes a chunk out of use
      have granted : ∃ handle, grantedHandle pool operation = some handle ∧ handle.chunkIndex = index := by
        refine Classical.byContradiction fun none => busy ?_
        rw [perform_free valid operation free fun handle granted same => none ⟨handle, granted, same⟩]
        exact free
      obtain ⟨handle, granted, rfl⟩ := granted
      exact ⟨handle, ⟨by simp [granted], busy⟩, rfl⟩
    · obtain ⟨handle, member, rfl⟩ := List.mem_map.mp ((tracked.inUse index).mpr ⟨inside, free⟩)
      exact ⟨handle, ⟨List.mem_append_left _ member, busy⟩, rfl⟩

theorem Tracked.run {live : List ChunkHandle} (tracked : Tracked pool live) (valid : Valid pool) (operations : List PoolOperation) :
    Tracked (pool.performAll operations) (liveAllocations pool live operations) := by
  induction operations generalizing pool live with
  | nil => exact tracked
  | cons operation rest ih => exact ih (tracked.step valid operation) ((perform_effect valid operation).valid valid)

theorem create_tracked {descriptor : PoolDescriptor} {config : MemoryPoolConfig} {ownerPid : UInt64}
    (created : create descriptor config ownerPid = .ok pool) : Tracked pool [] := by
  refine ⟨.nil, fun index => ?_⟩
  simp only [List.map_nil, List.not_mem_nil, false_iff, not_and, Decidable.not_not]
  exact create_free created index

/-- Whatever calls were made on a pool since its creation: the next request is
answered exactly, and no two allocations in use share a chunk. -/
theorem allocation_exact {descriptor : PoolDescriptor} {config : MemoryPoolConfig} {ownerPid : UInt64} {start : MemoryPool}
    (created : create descriptor config ownerPid = .ok start) (operations : List PoolOperation) :
    AllocatesExactly (start.performAll operations) ∧
      ((liveAllocations start [] operations).map ChunkHandle.chunkIndex).Nodup ∧
      ∀ index : UInt32, index ∈ (liveAllocations start [] operations).map ChunkHandle.chunkIndex ↔
        index.toNat < (start.performAll operations).directory.length ∧
          ((start.performAll operations).chunkHeader index).state ≠ .free := by
  have valid := performAll_valid (create_valid created) operations
  have classes := (performAll_fixed (create_valid created) operations).1
  obtain ⟨graded, some⟩ := create_graded created
  have tracked := (create_tracked created).run (create_valid created) operations
  exact ⟨allocatesExactly valid (by rwa [classes]) (by rwa [classes]), tracked.apart, tracked.inUse⟩

theorem allocation_exact_sample :
    ∃ pool, create sampleDescriptor sampleConfig 1 = .ok pool ∧
      AllocatesExactly (pool.performAll [.allocate 8, .allocate 17, .cancel ⟨1, 1, 1, 448⟩]) := by
  obtain ⟨pool, created⟩ := sample_created
  exact ⟨pool, created, (allocation_exact created _).1⟩

end RobotMiddleware.Proofs.Allocation
