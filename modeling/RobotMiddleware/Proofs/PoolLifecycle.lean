import Mathlib.Algebra.Ring.Nat
import RobotMiddleware.MemoryPool

/-! The lifecycle of pool chunks. Every call has one of four effects on the
chunks, and the invariant that ties headers to free lists survives each of them. -/

namespace RobotMiddleware.Proofs.PoolLifecycle
open MemoryPool

variable {pool : MemoryPool} {index other : UInt32} {header : ChunkHeader}

@[simp] theorem setHeader_instrumentation : (pool.setHeader index header).instrumentation = pool.instrumentation := rfl

theorem chunkHeader_setHeader (inside : index.toNat < pool.headers.length) :
    (pool.setHeader index header).chunkHeader other = if other = index then header else pool.chunkHeader other := by
  simp only [setHeader, chunkHeader, List.getD_eq_getElem?_getD, List.getElem?_set]
  by_cases same : other = index
  · subst other
    simp [inside]
  · have different : index.toNat ≠ other.toNat := fun equal => same (UInt32.toNat_inj.mp equal.symm)
    simp [same, different]

structure SameChunks (before after : MemoryPool) : Prop where
  descriptor : after.descriptor = before.descriptor
  sizeClasses : after.sizeClasses = before.sizeClasses
  directory : after.directory = before.directory
  headers : after.headers = before.headers
  freeLists : after.freeLists = before.freeLists
  allocations : after.instrumentation.allocations = before.instrumentation.allocations
  reclaims : after.instrumentation.reclaims = before.instrumentation.reclaims

theorem SameChunks.refl (pool : MemoryPool) : SameChunks pool pool := ⟨rfl, rfl, rfl, rfl, rfl, rfl, rfl⟩

inductive Moves : ChunkState → ChunkState → Prop where
  | stay (state : ChunkState) : Moves state state
  | loan : Moves .free .loaned
  | publish : Moves .loaned .published
  | lastRelease : Moves .published .released
  | reclaim : Moves .released .free
  | cancel : Moves .loaned .free

/-- References are held exactly by published chunks, a free chunk is empty, and a
chunk in use has a generation. -/
structure HeaderValid (header : ChunkHeader) : Prop where
  references : header.refCount ≠ 0 ↔ header.state = .published
  empty : header.state = .free → header.payloadSize = 0
  fits : header.payloadSize ≤ header.capacity
  numbered : header.state ≠ .free → header.generation ≠ 0

/-- Chunk `index` got a new header, and the free lists and counters moved with it. -/
structure Replaced (before after : MemoryPool) (index : UInt32) (header : ChunkHeader) (freeLists : List (List UInt32))
    (loans returns : UInt64) : Prop where
  descriptor : after.descriptor = before.descriptor
  sizeClasses : after.sizeClasses = before.sizeClasses
  directory : after.directory = before.directory
  headers : after.headers = before.headers.set index.toNat header
  freeLists : after.freeLists = freeLists
  capacity : header.capacity = (before.chunkHeader index).capacity
  sizeClass : header.sizeClassIndex = (before.chunkHeader index).sizeClassIndex
  poolId : header.poolId = (before.chunkHeader index).poolId
  topicId : header.topicId = (before.chunkHeader index).topicId
  allocations : after.instrumentation.allocations = before.instrumentation.allocations + loans
  reclaims : after.instrumentation.reclaims = before.instrumentation.reclaims + returns

inductive Effect (before : MemoryPool) : ErrorCode → MemoryPool → Prop where
  | unchanged {error : ErrorCode} {after : MemoryPool} (same : SameChunks before after) : Effect before error after
  | rewritten {after : MemoryPool} (index : UInt32) (header : ChunkHeader)
      (inside : index.toNat < before.directory.length)
      (replaced : Replaced before after index header before.freeLists 0 0)
      (moves : Moves (before.chunkHeader index).state header.state)
      (busy : (before.chunkHeader index).state ≠ .free ∧ header.state ≠ .free)
      (valid : HeaderValid (before.chunkHeader index) → HeaderValid header) : Effect before .ok after
  | taken {after : MemoryPool} (index : UInt32) (header : ChunkHeader) (classIndex : Nat) (rest : List UInt32)
      (listed : before.freeList classIndex = rest ++ [index])
      (replaced : Replaced before after index header (before.freeLists.set classIndex rest) 1 0)
      (free : (before.chunkHeader index).state = .free) (loaned : header.state = .loaned)
      (references : header.refCount = 0) (numbered : header.generation ≠ 0)
      (fits : ∀ item, before.sizeClasses[classIndex]? = some item → header.payloadSize.toUInt64 ≤ item.capacity) :
      Effect before .ok after
  | returned {after : MemoryPool} (index : UInt32) (header : ChunkHeader)
      (inside : index.toNat < before.directory.length)
      (replaced : Replaced before after index header
        (before.freeLists.set header.sizeClassIndex.toNat (before.freeList header.sizeClassIndex.toNat ++ [index])) 0 1)
      (moves : Moves (before.chunkHeader index).state .free) (busy : (before.chunkHeader index).state ≠ .free)
      (unpublished : (before.chunkHeader index).state ≠ .published) (free : header.state = .free)
      (references : header.refCount = (before.chunkHeader index).refCount) (empty : header.payloadSize = 0) :
      Effect before .ok after

theorem matchedHeader_some {handle : ChunkHandle} (found : pool.matchedHeader handle = some header) :
    handle.chunkIndex.toNat < pool.directory.length ∧ pool.handleMatches handle header = true ∧
      header = pool.chunkHeader handle.chunkIndex := by
  unfold matchedHeader at found
  split at found
  · cases found
  next inside =>
    split at found
    next matched => cases found; exact ⟨by omega, matched, rfl⟩
    next => cases found

private theorem set_getD_self {α : Type} (items : List α) (position : Nat) (default : α) :
    items.set position (items.getD position default) = items := by
  by_cases inside : position < items.length
  · simp [List.getD_eq_getElem?_getD, inside]
  · exact List.set_eq_of_length_le (Nat.le_of_not_lt inside)

/-- What a call asks of the chunk that its handle names. -/
inductive ChunkCall where
  | look
  | publish (payloadSize sequence publishTimestampNs : UInt64) (references : UInt32)
  | refer
  | release
  | reclaim
  | cancel

/-- What an accepted call makes of the header that its handle names. -/
inductive Change (header : ChunkHeader) : ChunkCall → ChunkHeader → Prop where
  | look (loaned : header.state = .loaned) : Change header .look header
  | publish {payloadSize sequence publishTimestampNs : UInt64} {references : UInt32} (loaned : header.state = .loaned)
      (size : payloadSize = header.payloadSize.toUInt64) (numbered : sequence ≠ 0) (held : references ≠ 0) :
      Change header (.publish payloadSize sequence publishTimestampNs references)
        { header with sequence, publishTimestampNs, refCount := references, state := .published }
  | refer (published : header.state = .published) (held : header.refCount ≠ 0) (below : header.refCount.toNat + 1 < 2 ^ 32) :
      Change header .refer { header with refCount := header.refCount + 1 }
  | release (published : header.state = .published) (held : header.refCount ≠ 0) :
      Change header .release { header with
        refCount := header.refCount - 1
        state := if header.refCount - 1 == 0 then .released else header.state }
  | reclaim (released : header.state = .released) (unheld : header.refCount = 0) :
      Change header .reclaim { header with sequence := 0, publishTimestampNs := 0, payloadSize := 0, state := .free }
  | cancel (loaned : header.state = .loaned) : Change header .cancel { header with payloadSize := 0, state := .free }

variable {call : ChunkCall} {payloadSize : UInt64} {rest : List UInt32} {classIndex : Nat}

variable {error : ErrorCode}

theorem Change.busy {written : ChunkHeader} (change : Change header call written) : header.state ≠ .free := by
  cases change <;> simp [*]

theorem Change.generation {written : ChunkHeader} (change : Change header call written) :
    written.generation = header.generation := by
  cases change <;> rfl

/-- The free lists after the call, and how many chunks it returns. -/
def ChunkCall.freeLists (call : ChunkCall) (pool : MemoryPool) (index : UInt32) (header : ChunkHeader) : List (List UInt32) :=
  match call with
  | .reclaim | .cancel =>
    pool.freeLists.set header.sizeClassIndex.toNat (pool.freeList header.sizeClassIndex.toNat ++ [index])
  | _ => pool.freeLists

@[inherit_doc ChunkCall.freeLists, simp]
def ChunkCall.returns : ChunkCall → UInt64
  | .reclaim | .cancel => 1
  | _ => 0

/-- A call that names a handle is refused, or it changes the header of the chunk that
the handle names and no other. -/
inductive HandleEffect (before : MemoryPool) (handle : ChunkHandle) (call : ChunkCall) : ErrorCode → MemoryPool → Prop where
  | refused {error : ErrorCode} (failed : error ≠ .ok) : HandleEffect before handle call error before
  | accepted {after : MemoryPool} {header written : ChunkHeader} (found : before.matchedHeader handle = some header)
      (change : Change header call written)
      (replaced : Replaced before after handle.chunkIndex written (call.freeLists before handle.chunkIndex header) 0
        call.returns) : HandleEffect before handle call .ok after

theorem publishLocked_ok {handle : ChunkHandle} {sequence : UInt64} {references : UInt32}
    (accepted : pool.publishLocked handle payloadSize sequence references = .ok) :
    ∃ header, pool.matchedHeader handle = some header ∧ header.state = .loaned ∧
      payloadSize = header.payloadSize.toUInt64 ∧ sequence ≠ 0 ∧ references ≠ 0 := by
  unfold publishLocked at accepted
  split at accepted
  · cases accepted
  next header found =>
    split at accepted
    · cases accepted
    next loaned =>
      split at accepted
      · cases accepted
      next checked =>
        simp only [not_or, Decidable.not_not] at checked loaned
        exact ⟨header, found, loaned, checked.1, checked.2.2.1, checked.2.2.2⟩

section Handles
variable (pool : MemoryPool) (handle : ChunkHandle)

theorem writablePayload_names : HandleEffect pool handle .look (pool.writablePayload handle).error pool := by
  unfold writablePayload
  split
  next => exact .refused (by simp)
  next header found =>
    obtain ⟨inside, _, rfl⟩ := matchedHeader_some found
    split
    next => exact .refused (by simp)
    next loaned =>
      refine .accepted found (.look (Decidable.not_not.mp loaned)) ⟨rfl, rfl, rfl, ?_, rfl, rfl, rfl, rfl, rfl, by simp, by simp⟩
      exact (set_getD_self _ _ _).symm

private theorem published_names {sequence publishTimestampNs : UInt64} {references : UInt32} {after : MemoryPool}
    (accepted : pool.publishLocked handle payloadSize sequence references = .ok)
    (chunks : SameChunks (pool.markPublished handle sequence publishTimestampNs references) after) :
    HandleEffect pool handle (.publish payloadSize sequence publishTimestampNs references) .ok after := by
  obtain ⟨header, found, loaned, size, numbered, held⟩ := publishLocked_ok accepted
  obtain ⟨_, _, rfl⟩ := matchedHeader_some found
  exact .accepted found (.publish loaned size numbered held) ⟨chunks.descriptor, chunks.sizeClasses, chunks.directory,
    chunks.headers, chunks.freeLists, rfl, rfl, rfl, rfl, by simpa [markPublished] using chunks.allocations,
    by simpa [markPublished] using chunks.reclaims⟩

theorem writeAndPublish_names (data : Option Bytes) (payloadSize sequence publishTimestampNs : UInt64) (references : UInt32) :
    HandleEffect pool handle (.publish payloadSize sequence publishTimestampNs references)
      (pool.writeAndPublish handle data payloadSize sequence publishTimestampNs references).1
      (pool.writeAndPublish handle data payloadSize sequence publishTimestampNs references).2 := by
  unfold writeAndPublish
  split
  next => exact .refused (by simp)
  next =>
    split
    next accepted => exact published_names pool handle accepted ⟨rfl, rfl, rfl, rfl, rfl, rfl, rfl⟩
    next refused => exact .refused refused

theorem publishLoaned_names (payloadSize sequence publishTimestampNs : UInt64) (references : UInt32) :
    HandleEffect pool handle (.publish payloadSize sequence publishTimestampNs references)
      (pool.publishLoaned handle payloadSize sequence publishTimestampNs references).1
      (pool.publishLoaned handle payloadSize sequence publishTimestampNs references).2 := by
  unfold publishLoaned
  split
  next accepted => exact published_names pool handle accepted (.refl _)
  next refused => exact .refused refused

theorem addReference_names : HandleEffect pool handle .refer (pool.addReference handle).1 (pool.addReference handle).2 := by
  unfold addReference
  split
  next => exact .refused (by simp)
  next header found =>
    obtain ⟨_, _, rfl⟩ := matchedHeader_some found
    split
    next => exact .refused (by simp)
    next published =>
      split
      next => exact .refused (by simp)
      next counted =>
        simp only [not_or, Decidable.not_not] at published counted
        refine .accepted found (.refer published counted.1 ?_) ⟨rfl, rfl, rfl, rfl, rfl, rfl, rfl, rfl, rfl, by simp, by simp⟩
        have small := (pool.chunkHeader handle.chunkIndex).refCount.toNat_lt
        have other : (pool.chunkHeader handle.chunkIndex).refCount.toNat ≠ uint32Max.toUInt32.toNat :=
          fun equal => counted.2 (UInt32.toNat_inj.mp equal)
        have limit : uint32Max.toUInt32.toNat = 2 ^ 32 - 1 := by decide
        omega

theorem release_names : HandleEffect pool handle .release (pool.release handle).1.error (pool.release handle).2 := by
  unfold release
  split
  next => exact .refused (by simp)
  next header found =>
    obtain ⟨_, _, rfl⟩ := matchedHeader_some found
    split
    next => exact .refused (by simp)
    next published =>
      split
      next => exact .refused (by simp)
      next held =>
        exact .accepted found (.release (Decidable.not_not.mp published) held)
          ⟨rfl, rfl, rfl, rfl, rfl, rfl, rfl, rfl, rfl, by simp, by simp⟩

theorem reclaim_names : HandleEffect pool handle .reclaim (pool.reclaim handle).1 (pool.reclaim handle).2 := by
  unfold reclaim
  split
  next => exact .refused (by simp)
  next header found =>
    obtain ⟨_, _, rfl⟩ := matchedHeader_some found
    split
    next => exact .refused (by simp)
    next ready =>
      simp only [not_or, Decidable.not_not] at ready
      exact .accepted found (.reclaim ready.1 ready.2)
        ⟨rfl, rfl, rfl, rfl, rfl, rfl, rfl, rfl, rfl, by simp [returnChunk, setFreeList], rfl⟩

theorem cancel_names : HandleEffect pool handle .cancel (pool.cancel handle).1 (pool.cancel handle).2 := by
  unfold cancel
  split
  next => exact .refused (by simp)
  next header found =>
    obtain ⟨_, _, rfl⟩ := matchedHeader_some found
    split
    next => exact .refused (by simp)
    next loaned =>
      exact .accepted found (.cancel (Decidable.not_not.mp loaned))
        ⟨rfl, rfl, rfl, rfl, rfl, rfl, rfl, rfl, rfl, by simp [returnChunk, setFreeList], rfl⟩

end Handles

theorem HandleEffect.effect {after : MemoryPool} {handle : ChunkHandle}
    (effect : HandleEffect pool handle call error after) : Effect pool error after := by
  cases effect with
  | refused => exact .unchanged (.refl _)
  | accepted found change replaced =>
    obtain ⟨inside, _, rfl⟩ := matchedHeader_some found
    cases change with
    | look loaned => exact .rewritten _ _ inside replaced (.stay _) (by simp [loaned]) id
    | publish loaned _ _ held =>
      refine .rewritten _ _ inside replaced (by rw [loaned]; exact .publish) (by simp [loaned]) fun valid => ?_
      exact ⟨by simp [held], by simp, valid.fits, fun _ => valid.numbered (by simp [loaned])⟩
    | refer published held below =>
      have positive : (pool.chunkHeader handle.chunkIndex).refCount + 1 ≠ 0 := fun zero => by
        have sum := congrArg UInt32.toNat zero
        rw [UInt32.toNat_add, UInt32.toNat_one, Nat.mod_eq_of_lt below] at sum
        cases sum
      refine .rewritten _ _ inside replaced (.stay _) (by simp [published]) fun valid => ?_
      exact ⟨by simp [published, positive], by simp [published], valid.fits, valid.numbered⟩
    | release published held =>
      by_cases last : (pool.chunkHeader handle.chunkIndex).refCount - 1 = 0
      · refine .rewritten _ _ inside replaced ?_ (by simp [last, published]) fun valid => ?_
        · simp only [last, beq_self_eq_true, if_true, published]
          exact .lastRelease
        · exact ⟨by simp [last], by simp [last], valid.fits, fun _ => valid.numbered (by simp [published])⟩
      · refine .rewritten _ _ inside replaced ?_ (by simp [last, published]) fun valid => ?_
        · simp only [beq_iff_eq, last, if_false]
          exact .stay _
        · exact ⟨by simp [last, published], by simp [last, published], valid.fits,
            fun _ => valid.numbered (by simp [published])⟩
    | reclaim released _ =>
      exact .returned _ _ inside replaced (by rw [released]; exact .reclaim) (by simp [released]) (by simp [released]) rfl rfl rfl
    | cancel loaned =>
      exact .returned _ _ inside replaced (by rw [loaned]; exact .cancel) (by simp [loaned]) (by simp [loaned]) rfl rfl rfl

def inUse (pool : MemoryPool) : Nat := pool.headers.countP fun header => decide (header.state ≠ .free)

/-- The invariant that couples headers, directory, free lists and counters. -/
structure Valid (pool : MemoryPool) : Prop where
  identified : pool.descriptor.poolId ≠ 0
  headerCount : pool.headers.length = pool.directory.length
  listCount : pool.freeLists.length = pool.sizeClasses.length
  bounded : pool.directory.length < 2 ^ 32
  headers : ∀ index : UInt32, index.toNat < pool.directory.length → HeaderValid (pool.chunkHeader index)
  sized : ∀ index : UInt32, index.toNat < pool.directory.length →
    ∃ item, pool.sizeClasses[(pool.chunkHeader index).sizeClassIndex.toNat]? = some item ∧
      (pool.chunkHeader index).capacity.toUInt64 = item.capacity
  labelled : ∀ index : UInt32, index.toNat < pool.directory.length →
    (pool.chunkHeader index).poolId = pool.descriptor.poolId ∧ (pool.chunkHeader index).topicId = pool.descriptor.topicId ∧
      (pool.chunkHeader index).capacity.toUInt64 = (pool.directoryEntry index).capacity ∧
      (pool.chunkHeader index).sizeClassIndex = (pool.directoryEntry index).sizeClassIndex
  listed : ∀ (classIndex : Nat) (index : UInt32), index ∈ pool.freeList classIndex ↔
    index.toNat < pool.directory.length ∧ (pool.chunkHeader index).state = .free ∧
      (pool.chunkHeader index).sizeClassIndex.toNat = classIndex
  distinct : ∀ classIndex, (pool.freeList classIndex).Nodup
  balance : pool.instrumentation.allocations - pool.instrumentation.reclaims = UInt64.ofNat (inUse pool)

section Allocation

def lentHeader (header : ChunkHeader) (payloadSize : UInt64) : ChunkHeader :=
  { header with
    generation := nextGeneration header.generation
    payloadSize := payloadSize.toUInt32
    sequence := 0
    publishTimestampNs := 0
    state := .loaned }

def lend (pool : MemoryPool) (payloadSize : UInt64) (classIndex : Nat) (rest : List UInt32) (index : UInt32) : MemoryPool :=
  let lent := (pool.setFreeList classIndex rest).setHeader index (lentHeader (pool.chunkHeader index) payloadSize)
  { lent with instrumentation.allocations := pool.instrumentation.allocations + 1 }

/-- The answers of `allocate` when the free lists are right. -/
inductive Answer (pool : MemoryPool) (payloadSize : UInt64) : AllocationResult × MemoryPool → Prop where
  | tooLarge (none : pool.sizeClasses.findIdx? (fun item => item.capacity ≥ payloadSize) = none) :
      Answer pool payloadSize ({ error := .messageTooLarge }, pool)
  | exhausted (classIndex : Nat) (fits : pool.sizeClasses.findIdx? (fun item => item.capacity ≥ payloadSize) = some classIndex)
      (empty : pool.freeList classIndex = []) :
      Answer pool payloadSize ({ error := .poolExhausted },
        { pool with instrumentation.allocationFailures := pool.instrumentation.allocationFailures + 1 })
  | granted (classIndex : Nat) (fits : pool.sizeClasses.findIdx? (fun item => item.capacity ≥ payloadSize) = some classIndex)
      (rest : List UInt32) (index : UInt32) (listed : pool.freeList classIndex = rest ++ [index]) :
      Answer pool payloadSize
        ({ handle := ⟨pool.descriptor.poolId, index, nextGeneration (pool.chunkHeader index).generation,
             (pool.directoryEntry index).payloadOffset⟩
           capacity := (pool.chunkHeader index).capacity },
          lend pool payloadSize classIndex rest index)

theorem nextGeneration_ne_zero (generation : UInt32) : nextGeneration generation ≠ 0 := by
  unfold nextGeneration
  split
  · decide
  next positive => exact positive

/-- What is on a free list is free and unreferenced. -/
theorem listed_free (valid : Valid pool) (listed : pool.freeList classIndex = rest ++ [index]) :
    index.toNat < pool.directory.length ∧ (pool.chunkHeader index).state = .free ∧
      (pool.chunkHeader index).sizeClassIndex.toNat = classIndex ∧ (pool.chunkHeader index).refCount = 0 := by
  obtain ⟨inside, free, own⟩ := (valid.listed classIndex index).mp (by simp [listed])
  have held := (valid.headers index inside).references
  rw [free] at held
  exact ⟨inside, free, own, by simpa using held⟩

/-- The guard in `allocate` never fires. -/
theorem allocate_answers (valid : Valid pool) (payloadSize : UInt64) : Answer pool payloadSize (pool.allocate payloadSize) := by
  unfold allocate
  split
  next none => exact .tooLarge none
  next classIndex fits =>
    split
    next empty => exact .exhausted classIndex fits (List.getLast?_eq_none_iff.mp empty)
    next index last =>
      obtain ⟨rest, listed⟩ := List.getLast?_eq_some_iff.mp last
      obtain ⟨_, free, _, unreferenced⟩ := listed_free valid listed
      simp only
      split
      next broken => simp [free, unreferenced] at broken
      next =>
        rw [listed, List.dropLast_concat]
        exact .granted classIndex fits rest index listed

theorem allocate_effect (valid : Valid pool) (payloadSize : UInt64) :
    Effect pool (pool.allocate payloadSize).1.error (pool.allocate payloadSize).2 := by
  have answer := allocate_answers valid payloadSize
  generalize pool.allocate payloadSize = outcome at answer ⊢
  cases answer with
  | tooLarge => exact .unchanged (.refl _)
  | exhausted => exact .unchanged ⟨rfl, rfl, rfl, rfl, rfl, rfl, rfl⟩
  | granted classIndex fits rest index listed =>
    obtain ⟨_, free, _, unreferenced⟩ := listed_free valid listed
    refine .taken index _ classIndex rest listed ⟨rfl, rfl, rfl, rfl, rfl, rfl, rfl, rfl, rfl, rfl, by simp [lend, setFreeList]⟩
      free rfl unreferenced (nextGeneration_ne_zero _) fun item same => ?_
    obtain ⟨inside, large, _⟩ := List.findIdx?_eq_some_iff_getElem.mp fits
    rw [List.getElem?_eq_getElem inside] at same
    cases same
    have narrowed : payloadSize.toUInt32.toUInt64 ≤ payloadSize := by
      rw [UInt64.le_iff_toNat_le, UInt32.toNat_toUInt64, UInt64.toNat_toUInt32]
      exact Nat.mod_le _ _
    exact UInt64.le_trans narrowed (by simpa using large)

theorem lend_chunkHeader (inside : index.toNat < pool.headers.length) (other : UInt32) :
    (lend pool payloadSize classIndex rest index).chunkHeader other =
      if other = index then lentHeader (pool.chunkHeader index) payloadSize else pool.chunkHeader other := by
  have written : ((pool.setFreeList classIndex rest).setHeader index
      (lentHeader (pool.chunkHeader index) payloadSize)).chunkHeader other = _ := chunkHeader_setHeader inside
  exact written

end Allocation

theorem perform_effect (valid : Valid pool) (operation : PoolOperation) :
    Effect pool (pool.perform operation).1 (pool.perform operation).2 := by
  cases operation with
  | allocate payloadSize => exact allocate_effect valid payloadSize
  | writablePayload => exact .unchanged (.refl _)
  | writeAndPublish handle => exact (writeAndPublish_names pool handle _ _ _ _ _).effect
  | publishLoaned handle => exact (publishLoaned_names pool handle _ _ _ _).effect
  | addReference handle => exact (addReference_names pool handle).effect
  | release handle => exact (release_names pool handle).effect
  | reclaim handle => exact (reclaim_names pool handle).effect
  | cancel handle => exact (cancel_names pool handle).effect

section Preservation
variable {before after : MemoryPool} {freeLists : List (List UInt32)} {loans returns : UInt64}

theorem SameChunks.valid (same : SameChunks before after) (valid : Valid before) : Valid after := by
  have header (index : UInt32) : after.chunkHeader index = before.chunkHeader index := by
    simp only [chunkHeader, same.headers]
  have list (classIndex : Nat) : after.freeList classIndex = before.freeList classIndex := by
    simp only [freeList, same.freeLists]
  refine ⟨?_, ?_, ?_, ?_, ?_, ?_, ?_, ?_, ?_, ?_⟩
  · rw [same.descriptor]; exact valid.identified
  · rw [same.headers, same.directory]; exact valid.headerCount
  · rw [same.freeLists, same.sizeClasses]; exact valid.listCount
  · rw [same.directory]; exact valid.bounded
  · simpa only [header, same.directory] using valid.headers
  · simpa only [header, same.directory, same.sizeClasses] using valid.sized
  · simpa only [header, directoryEntry, same.directory, same.descriptor] using valid.labelled
  · simpa only [header, list, same.directory] using valid.listed
  · simpa only [list] using valid.distinct
  · rw [same.allocations, same.reclaims, inUse, same.headers]; exact valid.balance

theorem Replaced.chunkHeader (replaced : Replaced before after index header freeLists loans returns)
    (inside : index.toNat < before.headers.length) (other : UInt32) :
    after.chunkHeader other = if other = index then header else before.chunkHeader other := by
  rw [← chunkHeader_setHeader inside]
  simp only [MemoryPool.chunkHeader, setHeader, replaced.headers]

private theorem freeList_set {lists : List (List UInt32)} {changed : Nat} {indices : List UInt32}
    (inside : changed < lists.length) :
    (lists.set changed indices).getD classIndex [] = if classIndex = changed then indices else lists.getD classIndex [] := by
  simp only [List.getD_eq_getElem?_getD, List.getElem?_set]
  by_cases same : classIndex = changed
  · subst classIndex
    simp [inside]
  · simp [same, Ne.symm same]

/-- The in-use count follows the state of the one header that is replaced. -/
theorem Replaced.inUse (replaced : Replaced before after index header freeLists loans returns)
    (inside : index.toNat < before.headers.length) :
    PoolLifecycle.inUse after + (if (before.chunkHeader index).state = .free then 0 else 1) =
      PoolLifecycle.inUse before + (if header.state = .free then 0 else 1) := by
  have old : before.chunkHeader index = before.headers[index.toNat] := by
    simp [MemoryPool.chunkHeader, List.getD_eq_getElem?_getD, inside]
  have counted : before.headers[index.toNat].state ≠ .free →
      0 < before.headers.countP fun header => decide (header.state ≠ .free) := fun busy =>
    List.countP_pos_iff.mpr ⟨_, List.getElem_mem inside, by simpa using busy⟩
  unfold PoolLifecycle.inUse
  rw [replaced.headers, List.countP_set inside, old]
  by_cases was : before.headers[index.toNat].state = .free <;> by_cases now : header.state = .free <;>
    simp only [was, now, ne_eq, not_true_eq_false, not_false_eq_true, decide_true, decide_false, if_true, if_false,
      Bool.false_eq_true, true_implies, false_implies] at counted ⊢ <;>
    omega

private theorem Replaced.frame (replaced : Replaced before after index header freeLists loans returns)
    (valid : Valid before) (inside : index.toNat < before.directory.length) (kept : HeaderValid header)
    (lists : freeLists.length = before.freeLists.length)
    (listed : ∀ (classIndex : Nat) (other : UInt32), other ∈ after.freeList classIndex ↔
      other.toNat < after.directory.length ∧ (after.chunkHeader other).state = .free ∧
        (after.chunkHeader other).sizeClassIndex.toNat = classIndex)
    (distinct : ∀ classIndex, (after.freeList classIndex).Nodup)
    (balance : loans - returns + (if (before.chunkHeader index).state = .free then 0 else 1) =
      if header.state = .free then 0 else 1) : Valid after := by
  have present : index.toNat < before.headers.length := by rw [valid.headerCount]; exact inside
  have headers := replaced.chunkHeader present
  refine ⟨?_, ?_, ?_, ?_, ?_, ?_, ?_, listed, distinct, ?_⟩
  · rw [replaced.descriptor]; exact valid.identified
  · rw [replaced.headers, replaced.directory, List.length_set]; exact valid.headerCount
  · rw [replaced.freeLists, replaced.sizeClasses, lists]; exact valid.listCount
  · rw [replaced.directory]; exact valid.bounded
  · intro other bound
    rw [headers]
    split
    · exact kept
    · exact valid.headers other (by rwa [replaced.directory] at bound)
  · intro other bound
    rw [headers, replaced.sizeClasses]
    split
    · rw [replaced.sizeClass, replaced.capacity]
      exact valid.sized index inside
    · exact valid.sized other (by rwa [replaced.directory] at bound)
  · intro other bound
    rw [replaced.directory] at bound
    rw [headers, directoryEntry, replaced.descriptor, replaced.directory]
    split
    next same =>
      rw [replaced.poolId, replaced.topicId, replaced.capacity, replaced.sizeClass, same]
      exact valid.labelled index inside
    next => exact valid.labelled other bound
  · have counted := replaced.inUse present
    have balanced := valid.balance
    have cast := congrArg UInt64.ofNat counted
    rw [UInt64.ofNat_add, UInt64.ofNat_add] at cast
    rw [replaced.allocations, replaced.reclaims]
    by_cases was : (before.chunkHeader index).state = .free <;> by_cases now : header.state = .free <;>
      simp only [was, now, if_true, if_false, UInt64.reduceOfNat] at cast balance <;>
      grind

private theorem Replaced.valid_rewritten (replaced : Replaced before after index header before.freeLists 0 0)
    (valid : Valid before) (inside : index.toNat < before.directory.length)
    (busy : (before.chunkHeader index).state ≠ .free ∧ header.state ≠ .free)
    (kept : HeaderValid (before.chunkHeader index) → HeaderValid header) : Valid after := by
  have headers := replaced.chunkHeader (by rw [valid.headerCount]; exact inside)
  have lists (classIndex : Nat) : after.freeList classIndex = before.freeList classIndex := by
    simp only [freeList, replaced.freeLists]
  refine replaced.frame valid inside (kept (valid.headers index inside)) rfl ?_ ?_ ?_
  · intro classIndex other
    rw [lists, headers, replaced.directory, valid.listed]
    split
    next same => subst other; simp [busy.1, busy.2]
    next => rfl
  · intro classIndex
    rw [lists]
    exact valid.distinct classIndex
  · simp [busy.1, busy.2]

private theorem Replaced.valid_taken
    (replaced : Replaced before after index header (before.freeLists.set classIndex rest) 1 0) (valid : Valid before)
    (listed : before.freeList classIndex = rest ++ [index]) (free : (before.chunkHeader index).state = .free)
    (loaned : header.state = .loaned) (references : header.refCount = 0) (numbered : header.generation ≠ 0)
    (fits : ∀ item, before.sizeClasses[classIndex]? = some item → header.payloadSize.toUInt64 ≤ item.capacity) :
    Valid after := by
  obtain ⟨inside, _, ownClass⟩ := (valid.listed classIndex index).mp (by simp [listed])
  obtain ⟨item, found, capacity⟩ := valid.sized index inside
  have known : classIndex < before.freeLists.length := by
    rw [valid.listCount, ← ownClass]
    exact (List.getElem?_eq_some_iff.mp found).1
  have headers := replaced.chunkHeader (by rw [valid.headerCount]; exact inside)
  have lists (other : Nat) : after.freeList other = if other = classIndex then rest else before.freeList other := by
    simp only [freeList, replaced.freeLists, freeList_set known]
  have unique := valid.distinct classIndex
  rw [listed] at unique
  have distinct := List.nodup_append.mp unique
  refine replaced.frame valid inside ?_ (by simp) ?_ ?_ ?_
  · refine ⟨by simp [references, loaned], by simp [loaned], ?_, fun _ => numbered⟩
    have large := fits item (by rw [← ownClass]; exact found)
    rw [← capacity, ← replaced.capacity, UInt64.le_iff_toNat_le, UInt32.toNat_toUInt64, UInt32.toNat_toUInt64] at large
    exact UInt32.le_iff_toNat_le.mpr large
  · intro other member
    rw [lists, headers, replaced.directory]
    by_cases same : member = index
    · subst member
      simp only [if_true, loaned, reduceCtorEq, false_and, and_false, iff_false]
      split
      · exact fun present => distinct.2.2 index present index (by simp) rfl
      next different =>
        rw [valid.listed]
        exact fun present => different (present.2.2.symm.trans ownClass)
    · rw [if_neg same]
      split
      next equal =>
        subst other
        rw [← valid.listed, listed]
        simp [same]
      next => exact valid.listed other member
  · intro other
    rw [lists]
    split
    · exact distinct.1
    · exact valid.distinct other
  · simp [free, loaned]

private theorem Replaced.valid_returned
    (replaced : Replaced before after index header (before.freeLists.set header.sizeClassIndex.toNat
      (before.freeList header.sizeClassIndex.toNat ++ [index])) 0 1)
    (valid : Valid before) (inside : index.toNat < before.directory.length)
    (busy : (before.chunkHeader index).state ≠ .free) (unpublished : (before.chunkHeader index).state ≠ .published)
    (free : header.state = .free) (references : header.refCount = (before.chunkHeader index).refCount)
    (empty : header.payloadSize = 0) : Valid after := by
  obtain ⟨item, found, _⟩ := valid.sized index inside
  have known : header.sizeClassIndex.toNat < before.freeLists.length := by
    rw [valid.listCount, replaced.sizeClass]
    exact (List.getElem?_eq_some_iff.mp found).1
  have headers := replaced.chunkHeader (by rw [valid.headerCount]; exact inside)
  have lists (other : Nat) : after.freeList other = if other = header.sizeClassIndex.toNat then
      before.freeList header.sizeClassIndex.toNat ++ [index] else before.freeList other := by
    simp only [freeList, replaced.freeLists, freeList_set known]
  have absent (classIndex : Nat) : index ∉ before.freeList classIndex := by
    rw [valid.listed]
    exact fun present => busy present.2.1
  refine replaced.frame valid inside ?_ (by simp) ?_ ?_ ?_
  · have none : header.refCount = 0 := by
      rw [references]
      exact Decidable.not_not.mp (mt (valid.headers index inside).references.mp unpublished)
    exact ⟨by simp [none, free], fun _ => empty, by simp [empty], by simp [free]⟩
  · intro other member
    rw [lists, headers, replaced.directory]
    by_cases same : member = index
    · subst member
      simp only [if_true, free, inside, true_and]
      split
      next equal => simp [equal]
      next different => simp [absent other, Ne.symm different]
    · rw [if_neg same, ← valid.listed]
      split
      next equal => subst other; simp [same]
      next => rfl
  · intro other
    rw [lists]
    split
    · refine List.nodup_append.mpr ⟨valid.distinct _, by simp, ?_⟩
      intro first present last single equal
      simp only [List.mem_singleton] at single
      exact absent _ (single ▸ equal ▸ present)
    · exact valid.distinct other
  · simp only [busy, free, if_false, if_true]
    decide

theorem Effect.valid (effect : Effect before error after) (valid : Valid before) : Valid after := by
  cases effect with
  | unchanged same => exact same.valid valid
  | rewritten index header inside replaced moves busy kept => exact replaced.valid_rewritten valid inside busy kept
  | taken index header classIndex rest listed replaced free loaned references numbered fits =>
    exact replaced.valid_taken valid listed free loaned references numbered fits
  | returned index header inside replaced moves busy unpublished free references empty =>
    exact replaced.valid_returned valid inside busy unpublished free references empty

private theorem Replaced.moves {changed : UInt32}
    {lists : List (List UInt32)} {loans returns : UInt64} (replaced : Replaced pool after changed header lists loans returns)
    (valid : Valid pool) (inside : changed.toNat < pool.directory.length)
    (moves : Moves (pool.chunkHeader changed).state header.state) (index : UInt32) :
    Moves (pool.chunkHeader index).state (after.chunkHeader index).state := by
  rw [replaced.chunkHeader (by rw [valid.headerCount]; exact inside)]
  split
  next same => rw [same]; exact moves
  next => exact .stay _

theorem Effect.moves (effect : Effect pool error after) (valid : Valid pool)
    (index : UInt32) : Moves (pool.chunkHeader index).state (after.chunkHeader index).state := by
  cases effect with
  | unchanged same =>
    have equal : after.chunkHeader index = pool.chunkHeader index := by simp only [chunkHeader, same.headers]
    rw [equal]
    exact .stay _
  | rewritten changed header inside replaced moves => exact replaced.moves valid inside moves index
  | taken changed header classIndex rest listed replaced free loaned =>
    have inside := ((valid.listed classIndex changed).mp (by simp [listed])).1
    refine replaced.moves valid inside ?_ index
    rw [free, loaned]
    exact .loan
  | returned changed header inside replaced moves busy unpublished free =>
    refine replaced.moves valid inside ?_ index
    rw [free]
    exact moves

theorem Effect.failed (effect : Effect pool error after) (failed : error ≠ .ok) :
    after.headers = pool.headers ∧ after.freeLists = pool.freeLists := by
  cases effect with
  | unchanged same => exact ⟨same.headers, same.freeLists⟩
  | _ => exact absurd rfl failed

end Preservation

end RobotMiddleware.Proofs.PoolLifecycle
