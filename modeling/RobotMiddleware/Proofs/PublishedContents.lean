import RobotMiddleware.Proofs.PoolRuns
import RobotMiddleware.Proofs.ReferenceAccounting

/-! What a referenced chunk carries. No operation of the pool or of the publisher
changes the generation, the sequence number or the size of a chunk that has
references before and after it, so a sample reads the same until its last
reference is given back. -/

namespace RobotMiddleware.Proofs.PublishedContents
open MemoryPool PoolLifecycle ReferenceAccounting

def content (header : ChunkHeader) : UInt32 × UInt64 × UInt32 :=
  (header.generation, header.sequence, header.payloadSize)

/-- A chunk that has references afterwards, other than the new one, had them
before and carries the same. -/
structure Retains (new : Option UInt32) (before after : MemoryPool) : Prop where
  valid : Valid after
  descriptor : after.descriptor = before.descriptor
  directory : after.directory = before.directory
  held : ∀ index, some index ≠ new → (after.chunkHeader index).refCount ≠ 0 →
    (before.chunkHeader index).refCount ≠ 0 ∧ content (after.chunkHeader index) = content (before.chunkHeader index)

variable {pool before after last : MemoryPool} {new : Option UInt32} {handle : ChunkHandle} {index : UInt32}
  {header : ChunkHeader}

theorem Retains.trans (first : Retains none before after) (second : Retains new after last) : Retains new before last := by
  refine ⟨second.valid, second.descriptor.trans first.descriptor, second.directory.trans first.directory,
    ?_⟩
  intro index other referenced
  obtain ⟨middle, same⟩ := second.held index other referenced
  obtain ⟨old, earlier⟩ := first.held index (by simp) middle
  exact ⟨old, same.trans earlier⟩

theorem Retains.refl (valid : Valid pool) : Retains new pool pool :=
  ⟨valid, rfl, rfl, fun _ _ referenced => ⟨referenced, rfl⟩⟩

theorem Retains.of_headers (next : Valid after) (headers : after.headers = pool.headers)
    (descriptor : after.descriptor = pool.descriptor) (directory : after.directory = pool.directory) :
    Retains new pool after := by
  have header (index : UInt32) : after.chunkHeader index = pool.chunkHeader index := by
    simp only [chunkHeader, headers]
  refine ⟨next, descriptor, directory, ?_⟩
  intro index _ referenced
  rw [header] at referenced ⊢
  exact ⟨referenced, rfl⟩

theorem Retains.of_rewrites (valid : Valid pool) (next : Valid after) (rewrites : Rewrites pool after index header)
    (inside : index.toNat < pool.directory.length) (held : some index ≠ new → header.refCount ≠ 0 →
      (pool.chunkHeader index).refCount ≠ 0 ∧ content header = content (pool.chunkHeader index)) :
    Retains new pool after := by
  have present : index.toNat < pool.headers.length := by rw [valid.headerCount]; exact inside
  refine ⟨next, rewrites.descriptor, rewrites.directory, ?_⟩
  intro other fresh
  rw [rewrites.chunkHeader present]
  split
  next same => rw [same] at fresh ⊢; exact held fresh
  next => exact fun referenced => ⟨referenced, rfl⟩

/-- Every call that names a handle, other than a publication. -/
theorem retains_named {call : ChunkCall} {error : ErrorCode} (valid : Valid pool)
    (effect : HandleEffect pool handle call error after) (quiet : ∀ size sequence time count, call ≠ .publish size sequence time count) :
    Retains none pool after := by
  have next := effect.effect.valid valid
  cases effect with
  | refused => exact .refl valid
  | accepted found change replaced =>
    obtain ⟨inside, _, rfl⟩ := matchedHeader_some found
    have rewrites := Replaced.rewrites replaced
    cases change with
    | publish => exact absurd rfl (quiet _ _ _ _)
    | look => exact .of_rewrites valid next rewrites inside fun _ referenced => ⟨referenced, rfl⟩
    | refer _ held => exact .of_rewrites valid next rewrites inside fun _ _ => ⟨held, rfl⟩
    | release _ held => exact .of_rewrites valid next rewrites inside fun _ _ => ⟨held, rfl⟩
    | reclaim _ unheld => exact .of_rewrites valid next rewrites inside fun _ referenced => absurd unheld referenced
    | cancel loaned =>
      refine .of_rewrites valid next rewrites inside fun _ referenced => ?_
      -- a loaned chunk has no references
      have published := (valid.headers _ inside).references.mp referenced
      rw [loaned] at published
      cases published

theorem cancel_retains (valid : Valid pool) (handle : ChunkHandle) : Retains none pool (pool.cancel handle).2 :=
  retains_named valid (cancel_names pool handle) nofun

theorem allocate_retains (valid : Valid pool) (payloadSize : UInt64) : Retains none pool (pool.allocate payloadSize).2 := by
  have next := (allocate_effect valid payloadSize).valid valid
  have answer := allocate_answers valid payloadSize
  generalize pool.allocate payloadSize = outcome at answer next ⊢
  cases answer with
  | tooLarge => exact .refl valid
  | exhausted => exact .of_headers next rfl rfl rfl
  | granted classIndex fits rest index listed =>
    obtain ⟨inside, _, _, unreferenced⟩ := listed_free valid listed
    exact .of_rewrites valid next ⟨rfl, rfl, rfl⟩ inside fun _ referenced => absurd unreferenced referenced

/-- A published chunk: its handle is current, it has references, and it carries
the sequence number and the size that the call gave it. -/
structure Carries (pool : MemoryPool) (dispatch : Dispatch) : Prop where
  inside : dispatch.handle.chunkIndex.toNat < pool.directory.length
  named : dispatch.handle = handleOf pool dispatch.handle.chunkIndex
  held : (pool.chunkHeader dispatch.handle.chunkIndex).refCount ≠ 0
  sequence : (pool.chunkHeader dispatch.handle.chunkIndex).sequence = dispatch.nextSequence
  size : (pool.chunkHeader dispatch.handle.chunkIndex).payloadSize.toUInt64 = dispatch.payloadSize
  numbered : dispatch.nextSequence ≠ 0

theorem Carries.retained {dispatch : Dispatch} (carries : Carries before dispatch) (retains : Retains new before after)
    (old : some dispatch.handle.chunkIndex ≠ new) (held : (after.chunkHeader dispatch.handle.chunkIndex).refCount ≠ 0) :
    Carries after dispatch := by
  obtain ⟨_, same⟩ := retains.held _ old held
  simp only [content, Prod.mk.injEq] at same
  obtain ⟨generation, sequence, size⟩ := same
  refine ⟨by rw [retains.directory]; exact carries.inside, ?_, held, sequence.trans carries.sequence,
    by rw [size]; exact carries.size, carries.numbered⟩
  have named := carries.named
  simpa only [handleOf, directoryEntry, retains.descriptor, retains.directory, generation] using named

structure Publishes (pool after : MemoryPool) (dispatch : Dispatch) : Prop where
  retains : Retains (some dispatch.handle.chunkIndex) pool after
  carries : Carries after dispatch
  single : (after.chunkHeader dispatch.handle.chunkIndex).refCount = 1

theorem publishes_named {payloadSize sequence publishTimestampNs : UInt64} (valid : Valid pool)
    (effect : HandleEffect pool handle (.publish payloadSize sequence publishTimestampNs 1) .ok after) :
    Publishes pool after ⟨handle, payloadSize, sequence⟩ := by
  have next := effect.effect.valid valid
  cases effect with
  | refused failed => exact absurd rfl failed
  | accepted found change replaced =>
    have named := eq_handleOf found
    obtain ⟨inside, _, rfl⟩ := matchedHeader_some found
    have rewrites := Replaced.rewrites replaced
    have present : handle.chunkIndex.toNat < pool.headers.length := by rw [valid.headerCount]; exact inside
    have header := rewrites.chunkHeader present handle.chunkIndex
    rw [if_pos rfl] at header
    cases change with
    | publish loaned size numbered =>
      refine ⟨.of_rewrites valid next rewrites inside fun old => absurd rfl old, ⟨?_, ?_, ?_, ?_, ?_, numbered⟩, ?_⟩
      · rw [rewrites.directory]; exact inside
      · rw [rewrites.handleOf present _ fun _ => rfl]; exact named
      · simp [header]
      · simp [header]
      · simp [header, size]
      · simp [header]

theorem releaseReference_retains (valid : Valid pool) (handle : ChunkHandle) :
    Retains none pool (releaseReference pool handle).2 := by
  have released := retains_named valid (release_names pool handle) nofun
  unfold releaseReference
  simp only
  split
  · exact released
  · split
    · exact released.trans (retains_named released.valid (reclaim_names _ handle) nofun)
    · exact released

/-- The pool after a part of a call: who holds references, and what it retains. -/
structure Kept (before after : MemoryPool) (held loans : List ChunkHandle) : Prop where
  accounted : Accounted after held loans
  retains : Retains none before after

section Kept
variable {held rest loans loans' : List ChunkHandle}

theorem Kept.refl (accounted : Accounted pool held loans) : Kept pool pool held loans :=
  ⟨accounted, .refl accounted.valid⟩

theorem Kept.trans (first : Kept before after held loans) (second : Kept after last rest loans') : Kept before last rest loans' :=
  ⟨second.accounted, first.retains.trans second.retains⟩

theorem Kept.perm (kept : Kept before after held loans) (same : held.Perm rest) : Kept before after rest loans :=
  ⟨kept.accounted.perm same, kept.retains⟩

theorem kept_release (accounted : Accounted pool (handle :: held) loans) :
    Kept pool (releaseReference pool handle).2 held loans :=
  ⟨accounted.release, releaseReference_retains accounted.valid handle⟩

theorem kept_addReference (accounted : Accounted pool held loans) (effect : HandleEffect pool handle .refer .ok after) :
    Kept pool after (handle :: held) loans :=
  ⟨accounted.addReference effect, retains_named accounted.valid effect nofun⟩

theorem kept_releaseAll {outstanding : List ChunkHandle} (accounted : Accounted pool (outstanding ++ held) loans) :
    Kept pool (releaseAllOutstanding pool outstanding) held loans := by
  induction outstanding generalizing pool with
  | nil => exact .refl accounted
  | cons first others step =>
    have released := kept_release accounted
    exact released.trans (step released.accounted)

theorem kept_cancel (accounted : Accounted pool held loans) (handle : ChunkHandle) :
    Kept pool (pool.cancel handle).2 held (loans.erase handle) :=
  ⟨accounted.cancel handle, cancel_retains accounted.valid handle⟩

end Kept

theorem Carries.read {dispatch : Dispatch} (carries : Carries pool dispatch) (valid : Valid pool)
    {maxMessageSize : UInt64} (fits : dispatch.payloadSize ≤ maxMessageSize) :
    (MemoryPoolView.read pool dispatch.handle maxMessageSize).error = .ok ∧
      (MemoryPoolView.read pool dispatch.handle maxMessageSize).sequence = dispatch.nextSequence ∧
      (MemoryPoolView.read pool dispatch.handle maxMessageSize).payloadSize = dispatch.payloadSize := by
  have inside := carries.inside
  have headers := valid.headers _ inside
  have published := headers.references.mp carries.held
  obtain ⟨poolId, topicId, capacity, sizeClass⟩ := valid.labelled _ inside
  have named := carries.named
  have current : ¬(dispatch.handle.poolId ≠ pool.descriptor.poolId ∨
      dispatch.handle.chunkIndex.toNat ≥ pool.directory.length ∨ dispatch.handle.generation = 0 ∨
      dispatch.handle.payloadOffset ≠ (pool.directoryEntry dispatch.handle.chunkIndex).payloadOffset) := by
    have numbered := headers.numbered (by simp [published])
    rw [named]
    simp only [handleOf, not_or, ne_eq, not_true, not_false_iff, true_and, and_true, ge_iff_le, Nat.not_le]
    exact ⟨inside, numbered⟩
  have generation : (pool.chunkHeader dispatch.handle.chunkIndex).generation = dispatch.handle.generation := by
    rw [named]
    rfl
  have sized : ¬dispatch.payloadSize > maxMessageSize := UInt64.not_lt.mpr fits
  have small : ¬(pool.chunkHeader dispatch.handle.chunkIndex).payloadSize >
      (pool.chunkHeader dispatch.handle.chunkIndex).capacity := UInt32.not_lt.mpr headers.fits
  unfold MemoryPoolView.read
  simp only
  rw [if_neg current, if_neg]
  · exact ⟨rfl, carries.sequence, carries.size⟩
  · simp [published, generation, poolId, topicId, capacity, sizeClass, small, carries.size, sized, carries.held,
      carries.sequence, carries.numbered]

end RobotMiddleware.Proofs.PublishedContents
