import RobotMiddleware.Proofs.PoolRuns
import RobotMiddleware.Proofs.ReferenceAccounting

/-! What a call does to the pool, seen from the handle that it names or hands out. -/

namespace RobotMiddleware.Proofs.HandleEffects
open MemoryPool PoolLifecycle ReferenceAccounting

def namedHandle : PoolOperation → Option ChunkHandle
  | .allocate _ => none
  | .writablePayload handle => some handle
  | .writeAndPublish handle .. => some handle
  | .publishLoaned handle .. => some handle
  | .addReference handle => some handle
  | .release handle => some handle
  | .reclaim handle => some handle
  | .cancel handle => some handle

/-- The handle that the call hands out, if it is an allocation that succeeds. -/
def grantedHandle (pool : MemoryPool) : PoolOperation → Option ChunkHandle
  | .allocate payloadSize =>
    if (pool.allocate payloadSize).1.error = .ok then some (pool.allocate payloadSize).1.handle else none
  | _ => none

variable {pool after : MemoryPool} {handle : ChunkHandle} {operation : PoolOperation} {index : UInt32}

theorem perform_names (named : namedHandle operation = some handle) :
    ∃ call, HandleEffect pool handle call (pool.perform operation).1 (pool.perform operation).2 := by
  cases operation with
  | allocate => cases named
  | writablePayload =>
    cases named
    exact ⟨_, writablePayload_names pool handle⟩
  | writeAndPublish =>
    cases named
    exact ⟨_, writeAndPublish_names pool handle _ _ _ _ _⟩
  | publishLoaned =>
    cases named
    exact ⟨_, publishLoaned_names pool handle _ _ _ _⟩
  | addReference =>
    cases named
    exact ⟨_, addReference_names pool handle⟩
  | release =>
    cases named
    exact ⟨_, release_names pool handle⟩
  | reclaim =>
    cases named
    exact ⟨_, reclaim_names pool handle⟩
  | cancel =>
    cases named
    exact ⟨_, cancel_names pool handle⟩

theorem lend_freeList {payloadSize : UInt64} {classIndex : Nat} {rest : List UInt32}
    (listed : pool.freeList classIndex = rest ++ [index]) : (lend pool payloadSize classIndex rest index).freeList classIndex = rest := by
  have known : classIndex < pool.freeLists.length := by
    refine Nat.lt_of_not_le fun beyond => ?_
    simp [freeList, List.getD_eq_getElem?_getD, List.getElem?_eq_none beyond] at listed
  simp [lend, freeList, setFreeList, setHeader, List.getD_eq_getElem?_getD, known]

/-- A call that does not hand out the chunk changes the chunk's header only through a
handle that names it. -/
theorem perform_chunkHeader (valid : Valid pool) (operation : PoolOperation)
    (kept : ∀ handle, grantedHandle pool operation = some handle → handle.chunkIndex ≠ index) :
    ((pool.perform operation).2.chunkHeader index = pool.chunkHeader index) ∨
      ∃ handle, namedHandle operation = some handle ∧ handle.chunkIndex = index ∧ index.toNat < pool.directory.length ∧
        pool.matchedHeader handle = some (pool.chunkHeader index) ∧
        ∃ call, Change (pool.chunkHeader index) call ((pool.perform operation).2.chunkHeader index) := by
  cases named : namedHandle operation with
  | none =>
    left
    cases operation with
    | allocate payloadSize =>
      simp only [perform, grantedHandle] at kept ⊢
      have answer := allocate_answers valid payloadSize
      generalize pool.allocate payloadSize = outcome at answer kept ⊢
      cases answer with
      | tooLarge none => rfl
      | exhausted => rfl
      | granted classIndex fits rest chosen listed =>
        have inside := (listed_free valid listed).1
        rw [lend_chunkHeader (by rw [valid.headerCount]; exact inside)]
        exact if_neg fun same => kept _ rfl same.symm
    | _ => cases named
  | some handle =>
    obtain ⟨call, effect⟩ := @perform_names pool handle operation named
    generalize pool.perform operation = outcome at effect ⊢
    obtain ⟨error, after⟩ := outcome
    cases effect with
    | refused => exact .inl rfl
    | accepted found change replaced =>
      obtain ⟨inside, _, rfl⟩ := matchedHeader_some found
      have headers := replaced.chunkHeader (by rw [valid.headerCount]; exact inside) index
      by_cases same : index = handle.chunkIndex
      · subst same
        rw [if_pos rfl] at headers
        simp only
        rw [headers]
        exact .inr ⟨handle, rfl, rfl, inside, found, call, change⟩
      · rw [if_neg same] at headers
        exact .inl headers

theorem perform_free (valid : Valid pool) (operation : PoolOperation) (free : (pool.chunkHeader index).state = .free)
    (kept : ∀ handle, grantedHandle pool operation = some handle → handle.chunkIndex ≠ index) :
    (pool.perform operation).2.chunkHeader index = pool.chunkHeader index := by
  rcases perform_chunkHeader valid operation kept with same | ⟨_, _, _, _, _, _, change⟩
  · exact same
  · exact absurd free change.busy

end RobotMiddleware.Proofs.HandleEffects
