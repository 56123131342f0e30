import RobotMiddleware.Lib.Ledger
import RobotMiddleware.Proofs.PoolLifecycle
import RobotMiddleware.Publisher

/-! Who holds a reference to a chunk, and who holds a loan. The publisher's pool
operations are followed on the list of the handles that are held: taking a
reference adds the handle to the list, and giving it back removes it. -/

namespace RobotMiddleware.Proofs.ReferenceAccounting
open MemoryPool PoolLifecycle Lib.Ledger

def handleOf (pool : MemoryPool) (index : UInt32) : ChunkHandle :=
  ⟨pool.descriptor.poolId, index, (pool.chunkHeader index).generation, (pool.directoryEntry index).payloadOffset⟩

/-- The references that the pool counts for a handle; none for a handle that
matches no chunk. -/
def references (pool : MemoryPool) (handle : ChunkHandle) : Nat :=
  ((pool.matchedHeader handle).map fun header => header.refCount.toNat).getD 0

/-- The pool between two operations of the publisher. -/
structure Accounted (pool : MemoryPool) (held loans : List ChunkHandle) : Prop where
  valid : Valid pool
  settled : ∀ index : UInt32, index.toNat < pool.directory.length → (pool.chunkHeader index).state ≠ .released
  counted : Balanced (references pool) held
  loaned : ∀ index : UInt32, index.toNat < pool.directory.length → (pool.chunkHeader index).state = .loaned →
    handleOf pool index ∈ loans

/-- Only one chunk's header differs, as far as handles can tell. -/
structure Rewrites (before after : MemoryPool) (index : UInt32) (header : ChunkHeader) : Prop where
  descriptor : after.descriptor = before.descriptor
  directory : after.directory = before.directory
  headers : after.headers = before.headers.set index.toNat header

variable {pool after : MemoryPool} {held loans rest : List ChunkHandle} {handle : ChunkHandle} {index : UInt32}
  {header old : ChunkHeader}

theorem matchedHeader_eq (pool : MemoryPool) (handle : ChunkHandle) :
    pool.matchedHeader handle = if handle.chunkIndex.toNat < pool.directory.length ∧
      handle = handleOf pool handle.chunkIndex then some (pool.chunkHeader handle.chunkIndex) else none := by
  have current : pool.handleMatches handle (pool.chunkHeader handle.chunkIndex) = true ↔
      handle = handleOf pool handle.chunkIndex := by
    cases handle
    simp [handleMatches, handleOf, and_assoc]
  unfold matchedHeader
  simp only [current, ge_iff_le, ← Nat.not_lt, ite_not, ite_and]

theorem matchedHeader_handleOf (inside : index.toNat < pool.directory.length) :
    pool.matchedHeader (handleOf pool index) = some (pool.chunkHeader index) := by
  rw [matchedHeader_eq]
  exact if_pos ⟨inside, rfl⟩

theorem eq_handleOf (found : pool.matchedHeader handle = some header) : handle = handleOf pool handle.chunkIndex := by
  rw [matchedHeader_eq] at found
  split at found
  next current => exact current.2
  next => cases found

theorem references_of_matched (found : pool.matchedHeader handle = some header) :
    references pool handle = header.refCount.toNat := by
  simp [references, found]

theorem matched_of_references (counted : 0 < references pool handle) : ∃ header, pool.matchedHeader handle = some header := by
  unfold references at counted
  cases found : pool.matchedHeader handle with
  | none => simp [found] at counted
  | some header => exact ⟨header, rfl⟩

theorem Replaced.rewrites {lists : List (List UInt32)} {loans returns : UInt64}
    (replaced : Replaced pool after index header lists loans returns) : Rewrites pool after index header :=
  ⟨replaced.descriptor, replaced.directory, replaced.headers⟩

theorem Rewrites.chunkHeader (rewrites : Rewrites pool after index header) (inside : index.toNat < pool.headers.length)
    (other : UInt32) : after.chunkHeader other = if other = index then header else pool.chunkHeader other := by
  rw [← chunkHeader_setHeader inside]
  simp only [MemoryPool.chunkHeader, setHeader, rewrites.headers]

theorem Rewrites.directoryEntry (rewrites : Rewrites pool after index header) (other : UInt32) :
    after.directoryEntry other = pool.directoryEntry other := by
  simp only [MemoryPool.directoryEntry, rewrites.directory]

theorem Rewrites.handleOf (rewrites : Rewrites pool after index header) (inside : index.toNat < pool.headers.length)
    (other : UInt32) (same : other = index → header.generation = (pool.chunkHeader index).generation) :
    handleOf after other = handleOf pool other := by
  unfold ReferenceAccounting.handleOf
  rw [rewrites.descriptor, rewrites.directoryEntry, rewrites.chunkHeader inside]
  split
  next equal => rw [same equal, equal]
  next => rfl

theorem Rewrites.matchedHeader (rewrites : Rewrites pool after handle.chunkIndex header) (valid : Valid pool)
    (found : pool.matchedHeader handle = some old) (same : header.generation = old.generation) (other : ChunkHandle) :
    after.matchedHeader other = if other = handle then some header else pool.matchedHeader other := by
  obtain ⟨inside, _, rfl⟩ := matchedHeader_some found
  have named := eq_handleOf found
  have present : handle.chunkIndex.toNat < pool.headers.length := by rw [valid.headerCount]; exact inside
  rw [matchedHeader_eq, matchedHeader_eq pool, rewrites.directory, rewrites.handleOf present _ (fun _ => same),
    rewrites.chunkHeader present]
  by_cases equal : other = handle
  · subst other
    simp only [if_true]
    exact if_pos ⟨inside, named⟩
  · rw [if_neg equal]
    by_cases chunk : other.chunkIndex = handle.chunkIndex
    · -- the same chunk under another handle: it matches neither before nor after
      have differs : other ≠ ReferenceAccounting.handleOf pool other.chunkIndex := by
        rw [chunk, ← named]
        exact equal
      simp only [differs, and_false, if_false]
    · rw [if_neg chunk]

theorem Rewrites.references (rewrites : Rewrites pool after handle.chunkIndex header) (valid : Valid pool)
    (found : pool.matchedHeader handle = some old) (same : header.generation = old.generation) (other : ChunkHandle) :
    references after other = if other = handle then header.refCount.toNat else references pool other := by
  unfold ReferenceAccounting.references
  rw [rewrites.matchedHeader valid found same]
  split <;> rfl

/-- The chunk of a matching handle gets another header with the same generation. -/
theorem Accounted.rewrite (accounted : Accounted pool held loans) (found : pool.matchedHeader handle = some old)
    (rewrites : Rewrites pool after handle.chunkIndex header) (same : header.generation = old.generation)
    (valid : Valid after) (state : header.state = .free ∨ header.state = .published) {held' loans' : List ChunkHandle}
    (counted : Balanced (fun other => if other = handle then header.refCount.toNat else references pool other) held')
    (kept : ∀ other ∈ loans, other ≠ handle → other ∈ loans') : Accounted after held' loans' := by
  obtain ⟨inside, _, rfl⟩ := matchedHeader_some found
  have present : handle.chunkIndex.toNat < pool.headers.length := by rw [accounted.valid.headerCount]; exact inside
  refine ⟨valid, ?_, ?_, ?_⟩
  · intro index bound
    rw [rewrites.directory] at bound
    rw [rewrites.chunkHeader present]
    split
    · rcases state with free | published
      · simp [free]
      · simp [published]
    · exact accounted.settled index bound
  · intro other
    rw [rewrites.references accounted.valid found same]
    exact counted other
  · intro index bound loan
    rw [rewrites.directory] at bound
    rw [rewrites.chunkHeader present] at loan
    split at loan
    · rcases state with free | published
      · simp [free] at loan
      · simp [published] at loan
    next different =>
      rw [rewrites.handleOf present index (fun equal => absurd equal different)]
      refine kept _ (accounted.loaned index bound loan) ?_
      intro equal
      exact different (congrArg (·.chunkIndex) equal)

theorem releaseReference_rewrites (found : pool.matchedHeader handle = some old) (valid : Valid pool)
    (referenced : old.refCount ≠ 0) :
    ∃ header, Rewrites pool (releaseReference pool handle).2 handle.chunkIndex header ∧
      header.generation = old.generation ∧ header.refCount = old.refCount - 1 ∧
      header.state = (if old.refCount - 1 = 0 then .free else .published) := by
  obtain ⟨inside, _, own⟩ := matchedHeader_some found
  have published : old.state = .published := by
    rw [own] at referenced ⊢
    exact (valid.headers _ inside).references.mp referenced
  by_cases last : old.refCount - 1 = 0
  · -- the last reference: the chunk is Released, and reclaim finds it so
    have released : Rewrites pool (pool.release handle).2 handle.chunkIndex
        { old with refCount := old.refCount - 1, state := .released } := by
      simp only [release, found, published, ne_eq, not_true_eq_false, referenced, if_false, last]
      exact ⟨rfl, rfl, rfl⟩
    have rematched := released.matchedHeader valid found rfl handle
    rw [if_pos rfl] at rematched
    have answer : (pool.release handle).1.error = .ok ∧ (pool.release handle).1.becameReleased = true := by
      simp [release, found, published, referenced, last]
    refine ⟨{ old with refCount := old.refCount - 1, payloadSize := 0, sequence := 0, publishTimestampNs := 0, state := .free },
      ?_, rfl, rfl, by simp [last]⟩
    simp only [releaseReference, answer.1, answer.2, ne_eq, not_true_eq_false, if_false, if_true, reclaim, rematched, last,
      or_self, returnChunk]
    refine ⟨released.descriptor, released.directory, ?_⟩
    simp only [setFreeList, setHeader, released.headers, List.set_set]
  · refine ⟨{ old with refCount := old.refCount - 1 }, ?_, rfl, rfl, by simp [last, published]⟩
    simp only [releaseReference, release, found, published, ne_eq, not_true_eq_false, referenced, if_false, last,
      beq_iff_eq]
    exact ⟨rfl, rfl, rfl⟩

theorem releaseReference_valid (valid : Valid pool) (handle : ChunkHandle) : Valid (releaseReference pool handle).2 := by
  have released := (release_names pool handle).effect.valid valid
  unfold releaseReference
  simp only
  split
  · exact released
  · split
    · exact (reclaim_names _ handle).effect.valid released
    · exact released

theorem Accounted.release (accounted : Accounted pool (handle :: held) loans) :
    Accounted (releaseReference pool handle).2 held loans := by
  have positive : 0 < references pool handle := (accounted.counted.mem_iff handle).mp List.mem_cons_self
  obtain ⟨old, found⟩ := matched_of_references positive
  have amount := references_of_matched found
  have referenced : old.refCount ≠ 0 := by
    rintro zero
    simp [amount, zero] at positive
  obtain ⟨header, rewrites, same, fewer, state⟩ := releaseReference_rewrites found accounted.valid referenced
  have lower : header.refCount.toNat = references pool handle - 1 := by
    rw [amount, fewer, UInt32.toNat_sub_of_le]
    · rfl
    · exact UInt32.le_iff_toNat_le.mpr (by rw [← amount]; exact positive)
  refine accounted.rewrite found rewrites same (releaseReference_valid accounted.valid handle) ?_ ?_ (fun _ present _ => present)
  · rw [state]
    split <;> simp
  · apply accounted.counted.lose
    intro other
    rw [lower]

theorem Accounted.perm (accounted : Accounted pool held loans) (same : held.Perm rest) : Accounted pool rest loans :=
  ⟨accounted.valid, accounted.settled, accounted.counted.perm same, accounted.loaned⟩

/-- A chunk that is held is published under the handle that is held. -/
theorem Accounted.published_of_held (accounted : Accounted pool held loans) (present : handle ∈ held) :
    handle.chunkIndex.toNat < pool.directory.length ∧ handle = handleOf pool handle.chunkIndex ∧
      (pool.chunkHeader handle.chunkIndex).state = .published := by
  have positive := (accounted.counted.mem_iff handle).mp present
  obtain ⟨header, found⟩ := matched_of_references positive
  rw [references_of_matched found] at positive
  have named := eq_handleOf found
  obtain ⟨inside, _, rfl⟩ := matchedHeader_some found
  refine ⟨inside, named, (accounted.valid.headers _ inside).references.mp ?_⟩
  intro zero
  simp [zero] at positive

theorem Accounted.failed {error : ErrorCode} (accounted : Accounted pool held loans) (effect : Effect pool error after)
    (refused : error ≠ .ok) : Accounted after held loans := by
  cases effect with
  | unchanged same =>
    have header (index : UInt32) : after.chunkHeader index = pool.chunkHeader index := by
      simp only [chunkHeader, same.headers]
    have named (index : UInt32) : handleOf after index = handleOf pool index := by
      simp only [handleOf, directoryEntry, same.descriptor, same.directory, header]
    refine ⟨same.valid accounted.valid, ?_, ?_, ?_⟩
    · simpa only [header, same.directory] using accounted.settled
    · intro handle
      rw [← accounted.counted handle]
      simp only [references, matchedHeader_eq, same.directory, named, header]
    · simpa only [header, named, same.directory] using accounted.loaned
  | _ => exact absurd rfl refused

theorem Accounted.addReference (accounted : Accounted pool held loans) (effect : HandleEffect pool handle .refer .ok after) :
    Accounted after (handle :: held) loans := by
  have valid := effect.effect.valid accounted.valid
  cases effect with
  | refused failed => exact absurd rfl failed
  | accepted found change replaced =>
    cases change with
    | refer published _ below =>
      refine accounted.rewrite found (Replaced.rewrites replaced) rfl valid (.inr published) ?_ (fun _ present _ => present)
      apply accounted.counted.gain
      intro other
      rw [references_of_matched found, UInt32.toNat_add, UInt32.toNat_one, Nat.mod_eq_of_lt below]

theorem references_of_loaned (valid : Valid pool) (found : pool.matchedHeader handle = some header)
    (unpublished : header.state ≠ .published) : references pool handle = 0 := by
  obtain ⟨inside, _, rfl⟩ := matchedHeader_some found
  rw [references_of_matched found]
  have none := mt (valid.headers _ inside).references.mp unpublished
  simp [Decidable.not_not.mp none]

theorem Accounted.publish (accounted : Accounted pool held loans) {payloadSize sequence publishTimestampNs : UInt64}
    (effect : HandleEffect pool handle (.publish payloadSize sequence publishTimestampNs 1) .ok after) :
    Accounted after (handle :: held) (loans.erase handle) := by
  have valid := effect.effect.valid accounted.valid
  cases effect with
  | refused failed => exact absurd rfl failed
  | accepted found change replaced =>
    cases change with
    | publish loaned =>
      have none := references_of_loaned accounted.valid found (by simp [loaned])
      refine accounted.rewrite found (Replaced.rewrites replaced) rfl valid (.inr rfl) ?_ ?_
      · apply accounted.counted.gain
        intro other
        rw [none]
        rfl
      · exact fun other present different => (List.mem_erase_of_ne different).mpr present

theorem Accounted.cancel (accounted : Accounted pool held loans) (handle : ChunkHandle) :
    Accounted (pool.cancel handle).2 held (loans.erase handle) := by
  have valid := (cancel_names pool handle).effect.valid accounted.valid
  by_cases loan : ∃ header, pool.matchedHeader handle = some header ∧ header.state = .loaned
  · obtain ⟨header, found, loaned⟩ := loan
    have none := references_of_loaned accounted.valid found (by simp [loaned])
    have unreferenced : header.refCount.toNat = 0 := by rw [← references_of_matched found]; exact none
    have freed : (pool.cancel handle).2 = pool.returnChunk handle.chunkIndex header := by
      simp [MemoryPool.cancel, found, loaned]
    rw [freed] at valid ⊢
    have rewrites : Rewrites pool (pool.returnChunk handle.chunkIndex header) handle.chunkIndex
        { header with payloadSize := 0, state := .free } := ⟨rfl, rfl, rfl⟩
    refine accounted.rewrite found rewrites rfl valid (.inl rfl) ?_ ?_
    · intro other
      rw [← accounted.counted other]
      show (if other = handle then header.refCount.toNat else references pool other) = _
      split
      next equal => rw [equal, none, unreferenced]
      next => rfl
    · exact fun other present different => (List.mem_erase_of_ne different).mpr present
  · -- nothing was cancelled, and no loaned chunk has this handle
    have unchanged : (pool.cancel handle).2 = pool := by
      unfold MemoryPool.cancel
      split
      · rfl
      next header found =>
        have state : header.state ≠ .loaned := fun loaned => loan ⟨header, found, loaned⟩
        simp [state]
    rw [unchanged]
    refine ⟨accounted.valid, accounted.settled, accounted.counted, ?_⟩
    intro index inside loaned
    refine (List.mem_erase_of_ne ?_).mpr (accounted.loaned index inside loaned)
    rintro rfl
    exact loan ⟨_, matchedHeader_handleOf inside, loaned⟩

theorem allocate_ok {payloadSize : UInt64} (accepted : (pool.allocate payloadSize).1.error = .ok) (valid : Valid pool) :
    ∃ index header, index.toNat < pool.directory.length ∧ (pool.chunkHeader index).refCount = 0 ∧
      Rewrites pool (pool.allocate payloadSize).2 index header ∧ header.refCount = 0 ∧ header.state = .loaned ∧
      (pool.allocate payloadSize).1.handle =
        ⟨pool.descriptor.poolId, index, header.generation, (pool.directoryEntry index).payloadOffset⟩ := by
  have answer := allocate_answers valid payloadSize
  generalize pool.allocate payloadSize = outcome at answer accepted ⊢
  cases answer with
  | tooLarge | exhausted => cases accepted
  | granted classIndex fits rest index listed =>
    obtain ⟨inside, _, _, unreferenced⟩ := listed_free valid listed
    exact ⟨index, _, inside, unreferenced, ⟨rfl, rfl, rfl⟩, unreferenced, rfl, rfl⟩

theorem Accounted.allocate (accounted : Accounted pool held loans) {payloadSize : UInt64}
    (accepted : (pool.allocate payloadSize).1.error = .ok) :
    Accounted (pool.allocate payloadSize).2 held ((pool.allocate payloadSize).1.handle :: loans) := by
  have valid := (allocate_effect accounted.valid payloadSize).valid accounted.valid
  obtain ⟨index, header, inside, idle, rewrites, unreferenced, loaned, named⟩ := allocate_ok accepted accounted.valid
  have present : index.toNat < pool.headers.length := by rw [accounted.valid.headerCount]; exact inside
  have headers := rewrites.chunkHeader present
  refine ⟨valid, ?_, ?_, ?_⟩
  · intro other bound
    rw [rewrites.directory] at bound
    rw [headers]
    split
    · simp [loaned]
    · exact accounted.settled other bound
  · -- no handle of this chunk has references, before or after
    intro handle
    rw [← accounted.counted handle]
    unfold references matchedHeader handleMatches
    rw [rewrites.directory, rewrites.descriptor, rewrites.directoryEntry, headers]
    by_cases chunk : handle.chunkIndex = index
    · rw [chunk]
      simp only [if_true]
      split
      · rfl
      · split <;> split <;> simp [unreferenced, idle]
    · rw [if_neg chunk]
  · intro other bound loan
    rw [rewrites.directory] at bound
    by_cases same : other = index
    · subst other
      rw [named]
      unfold handleOf
      rw [headers, if_pos rfl, rewrites.descriptor, rewrites.directoryEntry]
      exact List.mem_cons_self
    · rw [headers, if_neg same] at loan
      rw [rewrites.handleOf present other (fun equal => absurd equal same)]
      exact List.mem_cons_of_mem _ (accounted.loaned other bound loan)

end RobotMiddleware.Proofs.ReferenceAccounting
