import RobotMiddleware.Proofs.HandleEffects

/-! A handle whose chunk has gone back to the free list is of no use any more: while
the chunk waits the state check refuses it, and once the chunk is lent again the
generation does, until the generation has gone all the way round. -/

namespace RobotMiddleware.Proofs.StaleHandles
open MemoryPool PoolLifecycle PoolRuns ReferenceAccounting HandleEffects

variable {pool : MemoryPool} {handle : ChunkHandle} {operation : PoolOperation} {index : UInt32}

/-- The handle is of another generation than its chunk, or the chunk is free. -/
def Stale (pool : MemoryPool) (handle : ChunkHandle) : Prop :=
  (pool.chunkHeader handle.chunkIndex).generation ≠ handle.generation ∨ (pool.chunkHeader handle.chunkIndex).state = .free

theorem Stale.refused (stale : Stale pool handle) (named : namedHandle operation = some handle) :
    (pool.perform operation).1 ≠ .ok ∧ (pool.perform operation).2 = pool := by
  obtain ⟨call, effect⟩ := @perform_names pool handle operation named
  generalize pool.perform operation = outcome at effect ⊢
  obtain ⟨error, after⟩ := outcome
  cases effect with
  | refused failed => exact ⟨failed, rfl⟩
  | accepted found change =>
    have current := congrArg ChunkHandle.generation (eq_handleOf found)
    obtain ⟨_, _, rfl⟩ := matchedHeader_some found
    rcases stale with other | free
    · exact absurd current.symm other
    · exact absurd free change.busy

theorem Stale.unread (stale : Stale pool handle) (maxMessageSize : UInt64) :
    (MemoryPoolView.read pool handle maxMessageSize).error ≠ .ok := by
  unfold MemoryPoolView.read
  simp only
  split
  · simp
  · rw [if_pos]
    · simp
    rcases stale with other | free
    · exact .inr (.inl other)
    · exact .inl (by simp [free])

/-! The generations of a chunk. -/

theorem nextGeneration_toNat (generation : UInt32) : (nextGeneration generation).toNat = generation.toNat % (2 ^ 32 - 1) + 1 := by
  have bound := generation.toNat_lt
  have sum : (generation + 1).toNat = (generation.toNat + 1) % 2 ^ 32 := UInt32.toNat_add generation 1
  unfold nextGeneration
  split
  next wrapped =>
    rw [wrapped] at sum
    simp only [UInt32.toNat_zero, UInt32.toNat_one] at sum ⊢
    omega
  next more =>
    have positive : (generation + 1).toNat ≠ 0 := fun zero => more (UInt32.toNat_inj.mp zero)
    omega

theorem iterate_nextGeneration {generation : UInt32} (numbered : generation ≠ 0) (count : Nat) :
    (nextGeneration^[count] generation).toNat = (generation.toNat - 1 + count) % (2 ^ 32 - 1) + 1 := by
  have positive : generation.toNat ≠ 0 := fun zero => numbered (UInt32.toNat_inj.mp zero)
  have bound := generation.toNat_lt
  induction count with
  | zero =>
    simp only [Function.iterate_zero, id_eq]
    omega
  | succ count ih =>
    rw [Function.iterate_succ_apply', nextGeneration_toNat, ih]
    omega

theorem iterate_nextGeneration_ne {generation : UInt32} (numbered : generation ≠ 0) {count : Nat} (some : count ≠ 0)
    (few : count < 2 ^ 32 - 1) : nextGeneration^[count] generation ≠ generation := by
  intro same
  have position := iterate_nextGeneration numbered count
  rw [same] at position
  have bound := generation.toNat_lt
  have positive : generation.toNat ≠ 0 := fun zero => numbered (UInt32.toNat_inj.mp zero)
  omega

def reallocations (index : UInt32) (pool : MemoryPool) : List PoolOperation → Nat
  | [] => 0
  | operation :: rest =>
    (if (grantedHandle pool operation).map ChunkHandle.chunkIndex = some index then 1 else 0) +
      reallocations index (pool.perform operation).2 rest

theorem reallocations_append (index : UInt32) (pool : MemoryPool) (earlier later : List PoolOperation) :
    reallocations index pool (earlier ++ later) =
      reallocations index pool earlier + reallocations index (pool.performAll earlier) later := by
  induction earlier generalizing pool with
  | nil => simp [reallocations, performAll]
  | cons operation rest ih =>
    simp only [List.cons_append, reallocations, ih, Nat.add_assoc]
    rfl

theorem granted_header (valid : Valid pool) (granted : grantedHandle pool operation = some handle) :
    handle.chunkIndex.toNat < pool.directory.length ∧
      handle.generation = nextGeneration (pool.chunkHeader handle.chunkIndex).generation ∧
      ((pool.perform operation).2.chunkHeader handle.chunkIndex).generation = handle.generation := by
  cases operation with
  | allocate payloadSize =>
    simp only [grantedHandle, perform] at granted ⊢
    have answer := allocate_answers valid payloadSize
    generalize pool.allocate payloadSize = outcome at answer granted ⊢
    cases answer with
    | tooLarge none => cases granted
    | exhausted => cases granted
    | granted classIndex fits rest chosen listed =>
      cases granted
      have inside := (listed_free valid listed).1
      rw [lend_chunkHeader (by rw [valid.headerCount]; exact inside), if_pos rfl]
      exact ⟨inside, rfl, rfl⟩
  | _ => cases granted

theorem perform_generation (valid : Valid pool) (operation : PoolOperation) (index : UInt32) :
    ((pool.perform operation).2.chunkHeader index).generation =
      nextGeneration^[if (grantedHandle pool operation).map ChunkHandle.chunkIndex = some index then 1 else 0]
        (pool.chunkHeader index).generation := by
  split
  next lent =>
    obtain ⟨handle, granted, rfl⟩ := Option.map_eq_some_iff.mp lent
    obtain ⟨_, next, same⟩ := granted_header valid granted
    rw [same, next]
    rfl
  next other =>
    have kept : ∀ handle, grantedHandle pool operation = some handle → handle.chunkIndex ≠ index := by
      intro handle granted same
      exact other (by rw [granted, ← same]; rfl)
    rcases perform_chunkHeader valid operation kept with same | ⟨_, _, _, _, _, _, change⟩
    · rw [same]
      rfl
    · exact change.generation

theorem performAll_generation (valid : Valid pool) (operations : List PoolOperation) (index : UInt32) :
    ((pool.performAll operations).chunkHeader index).generation =
      nextGeneration^[reallocations index pool operations] (pool.chunkHeader index).generation := by
  induction operations generalizing pool with
  | nil => rfl
  | cons operation rest ih =>
    have later := ih ((perform_effect valid operation).valid valid)
    rw [perform_generation valid operation index, ← Function.iterate_add_apply] at later
    rw [reallocations, Nat.add_comm]
    exact later

theorem performAll_free (valid : Valid pool) (operations : List PoolOperation) (free : (pool.chunkHeader index).state = .free)
    (kept : reallocations index pool operations = 0) : ((pool.performAll operations).chunkHeader index).state = .free := by
  induction operations generalizing pool with
  | nil => exact free
  | cons operation rest ih =>
    simp only [reallocations, Nat.add_eq_zero_iff] at kept
    obtain ⟨here, later⟩ := kept
    have same := perform_free valid operation free fun handle granted chunk => by
      rw [granted, Option.map_some, chunk] at here
      simp at here
    exact ih ((perform_effect valid operation).valid valid) (by rw [same]; exact free) later

/-- A handle from an allocation whose chunk was free at some time after it, and was
lent again fewer than `2 ^ 32 - 1` times in all. -/
theorem stale_handle_inert {descriptor : PoolDescriptor} {config : MemoryPoolConfig} {ownerPid : UInt64} {start lent : MemoryPool}
    (created : create descriptor config ownerPid = .ok start) (before : List PoolOperation) (payloadSize : UInt64)
    {result : AllocationResult} (allocated : (start.performAll before).allocate payloadSize = (result, lent))
    (accepted : result.error = .ok) (earlier later : List PoolOperation)
    (returned : ((lent.performAll earlier).chunkHeader result.handle.chunkIndex).state = .free)
    (few : reallocations result.handle.chunkIndex lent (earlier ++ later) < 2 ^ 32 - 1) :
    (∀ operation, namedHandle operation = some result.handle →
      ((lent.performAll (earlier ++ later)).perform operation).1 ≠ .ok ∧
      ((lent.performAll (earlier ++ later)).perform operation).2.headers = (lent.performAll (earlier ++ later)).headers ∧
      ((lent.performAll (earlier ++ later)).perform operation).2.freeLists = (lent.performAll (earlier ++ later)).freeLists) ∧
      ∀ maxMessageSize, (MemoryPoolView.read (lent.performAll (earlier ++ later)) result.handle maxMessageSize).error ≠ .ok := by
  have valid := performAll_valid (create_valid created) before
  have granted : grantedHandle (start.performAll before) (.allocate payloadSize) = some result.handle := by
    simp only [grantedHandle, allocated, accepted, if_true]
  have performed : ((start.performAll before).perform (.allocate payloadSize)).2 = lent := by
    simp only [perform, allocated]
  obtain ⟨_, numbered, current⟩ := granted_header valid granted
  have lentValid := (perform_effect valid (.allocate payloadSize)).valid valid
  rw [performed] at current lentValid
  have stale : Stale (lent.performAll (earlier ++ later)) result.handle := by
    by_cases none : reallocations result.handle.chunkIndex lent (earlier ++ later) = 0
    · right
      rw [reallocations_append, Nat.add_eq_zero_iff] at none
      have free := performAll_free (performAll_valid lentValid earlier) later returned none.2
      rwa [← performAll_append] at free
    · left
      rw [performAll_generation lentValid, current]
      exact iterate_nextGeneration_ne (by rw [numbered]; exact nextGeneration_ne_zero _) none few
  refine ⟨fun operation named => ?_, stale.unread⟩
  obtain ⟨failed, same⟩ := stale.refused named
  rw [same]
  exact ⟨failed, rfl, rfl⟩

private theorem relent_evaluated :
    ∃ pool, create sampleDescriptor sampleConfig 1 = .ok pool ∧ ∃ result lent,
      (pool.performAll []).allocate 8 = (result, lent) ∧ result.error = .ok ∧ result.handle = ⟨1, 0, 1, 320⟩ ∧
      ((lent.performAll [.cancel ⟨1, 0, 1, 320⟩]).chunkHeader 0).state = .free ∧
      reallocations 0 lent ([.cancel ⟨1, 0, 1, 320⟩] ++ [.allocate 4]) = 1 :=
  ⟨_, rfl, _, _, rfl, rfl, by decide +kernel, by decide +kernel, by decide +kernel⟩

theorem stale_handle_inert_relent :
    ∃ pool lent, create sampleDescriptor sampleConfig 1 = .ok pool ∧ ((pool.performAll []).allocate 8).2 = lent ∧
      ((lent.performAll [.cancel ⟨1, 0, 1, 320⟩, .allocate 4]).perform (.publishLoaned ⟨1, 0, 1, 320⟩ 8 1 1 1)).1 ≠ .ok := by
  obtain ⟨pool, created, result, lent, allocated, accepted, handle, returned, once⟩ := relent_evaluated
  refine ⟨pool, lent, created, by rw [allocated], ?_⟩
  have inert := stale_handle_inert created [] 8 allocated accepted [.cancel ⟨1, 0, 1, 320⟩] [.allocate 4]
    (by rw [handle]; exact returned) (by rw [handle, once]; decide)
  exact (inert.1 (.publishLoaned ⟨1, 0, 1, 320⟩ 8 1 1 1) (by rw [handle]; rfl)).1

end RobotMiddleware.Proofs.StaleHandles
