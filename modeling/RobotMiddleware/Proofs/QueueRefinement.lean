import RobotMiddleware.BoundedFifo
import RobotMiddleware.Lib.Outcome

/-! The ring in shared memory is the bounded list: each operation gives the same
answer on both and keeps them related, also when a process dies with the mutex. -/

namespace RobotMiddleware.Proofs.QueueRefinement
open Lib SharedSubscriberQueue

def contents (queue : SharedSubscriberQueue) : List ChunkHandle :=
  Ring.read queue.slots queue.header.capacity queue.header.head queue.header.size

/-- The ring is well formed and its content is this list. -/
structure Holds (queue : SharedSubscriberQueue) (items : List ChunkHandle) : Prop where
  slots : queue.header.capacity = queue.slots.length
  head : queue.header.head < queue.header.capacity
  size : queue.header.size ≤ queue.header.capacity
  tail : queue.header.tail = (queue.header.head + queue.header.size) % queue.header.capacity
  items : contents queue = items

variable {queue : SharedSubscriberQueue} {items : List ChunkHandle}

theorem Holds.length (holds : Holds queue items) : items.length = queue.header.size := by
  rw [← holds.items, contents, Ring.read_length]

theorem Holds.positive (holds : Holds queue items) : 0 < queue.header.capacity := Nat.zero_lt_of_lt holds.head

theorem Holds.tail_lt (holds : Holds queue items) : queue.header.tail < queue.header.capacity := by
  rw [holds.tail]
  exact Nat.mod_lt _ holds.positive

theorem Holds.isEmpty (holds : Holds queue items) : (queue.header.size == 0) = items.isEmpty := by
  rw [← holds.length]
  cases items <;> rfl

theorem holds_empty (slots : queue.header.capacity = queue.slots.length) (head : queue.header.head < queue.header.capacity)
    (tail : queue.header.tail = queue.header.head) (size : queue.header.size = 0) : Holds queue [] := by
  refine ⟨slots, head, by omega, ?_, ?_⟩
  · rw [size, tail, Nat.add_zero, Nat.mod_eq_of_lt head]
  · rw [contents, size, Ring.read]

theorem Holds.count (holds : Holds queue items) (update : QueueCounters → QueueCounters) :
    Holds (queue.count update) items :=
  ⟨holds.slots, holds.head, holds.size, holds.tail, holds.items⟩

/-- The oldest handle stands in the head slot, and stepping over it removes it. -/
theorem Holds.removeOldest {first : ChunkHandle} {rest : List ChunkHandle} (holds : Holds queue (first :: rest)) :
    Ring.slot queue.slots queue.header.head = first ∧
      Holds queue.removeOldest rest := by
  have length := holds.length
  have content := holds.items
  rw [List.length_cons] at length
  rw [contents, ← length, Ring.read, Nat.mod_eq_of_lt holds.head] at content
  obtain ⟨same, others⟩ := List.cons.inj content
  refine ⟨same, holds.slots, Nat.mod_lt _ holds.positive, ?_, ?_, ?_⟩
  · exact Nat.le_trans (Nat.sub_le _ _) holds.size
  · simp only [SharedSubscriberQueue.removeOldest, holds.tail, Nat.mod_add_mod]
    congr 1
    omega
  · simp only [contents, SharedSubscriberQueue.removeOldest, Ring.read_mod]
    rw [← length, Nat.add_sub_cancel]
    exact others

theorem Holds.store_slots (holds : Holds queue items) (room : items.length < queue.header.capacity) (handle : ChunkHandle) :
    Ring.read (queue.slots.set queue.header.tail handle) queue.header.capacity queue.header.head (queue.header.size + 1) =
      items ++ [handle] := by
  rw [holds.tail, Ring.read_push holds.slots (by rw [← holds.length]; exact room)]
  congr 1
  exact holds.items

/-- The rollback of the tail undoes its step. -/
theorem tail_rollback {tail capacity : Nat} (inside : tail < capacity) :
    (if (tail + 1) % capacity = 0 then capacity - 1 else (tail + 1) % capacity - 1) = tail := by
  by_cases last : tail + 1 = capacity
  · subst last
    simp
  · rw [Nat.mod_eq_of_lt (by omega)]
    simp

theorem store_holds (holds : Holds queue items) (room : items.length < queue.header.capacity) (handle : ChunkHandle)
    (notify : Option Bool) (needs : Bool) (dropped : Option ChunkHandle) (blocked : Bool) (elapsedNs : UInt64) :
    if needs ∧ notify = some false then
      (queue.store handle notify needs dropped blocked elapsedNs).1 =
          { status := .notificationFailed, blocked, blockedTimeNs := elapsedNs } ∧
        Holds (queue.store handle notify needs dropped blocked elapsedNs).2 items
    else
      (queue.store handle notify needs dropped blocked elapsedNs).1 =
          { status := .accepted, droppedOldest := dropped, notificationSent := needs && notify.isSome, blocked,
            blockedTimeNs := elapsedNs } ∧
        Holds (queue.store handle notify needs dropped blocked elapsedNs).2 (items ++ [handle]) := by
  have pushed := holds.store_slots room handle
  have length := holds.length
  by_cases failed : needs ∧ notify = some false
  · rw [if_pos failed]
    simp only [store, if_pos failed, true_and]
    refine ⟨by simpa using holds.slots, holds.head, ?_, ?_, ?_⟩
    · simpa using holds.size
    · simp only [tail_rollback holds.tail_lt, Nat.add_sub_cancel]
      exact holds.tail
    · simp only [contents, Nat.add_sub_cancel]
      rw [Ring.read_add] at pushed
      exact (List.append_inj_left' pushed (by simp [Ring.read]))
  · rw [if_neg failed]
    simp only [store, if_neg failed, true_and]
    refine ⟨by simpa using holds.slots, holds.head, ?_, ?_, pushed⟩
    · show queue.header.size + 1 ≤ queue.header.capacity
      omega
    · simp only [holds.tail, Nat.mod_add_mod, Nat.add_assoc]

theorem takeAll_holds (holds : Holds queue items) : queue.takeAll.1 = items ∧ Holds queue.takeAll.2 [] := by
  simp only [takeAll, Ring.drain_eq queue.header.size holds.head]
  exact ⟨holds.items, holds_empty holds.slots (Nat.mod_lt _ holds.positive) rfl rfl⟩

/-- The fields that only `create` writes. -/
def identity (header : SubscriberQueueHeader) :=
  (header.magic, header.version, header.headerSize, header.segmentSize, header.queueId, header.blockTimeoutMs,
    header.capacity, header.overflowPolicy)

/-- The refinement relation. While the owner of the mutex is dead, nothing is
known about the ring except that its slots are there. -/
structure Represents (queue : SharedSubscriberQueue) (fifo : BoundedFifo) : Prop where
  identity : identity queue.header = (kSubscriberQueueMagic, kQueueLayoutVersion, subscriberQueueHeaderSize,
    fifo.descriptor.segmentSize, fifo.descriptor.queueId, fifo.descriptor.blockTimeoutMs, fifo.capacity,
    fifo.descriptor.overflowPolicy)
  positive : 0 < fifo.capacity
  slots : fifo.capacity = queue.slots.length
  closed : queue.header.closed = fifo.closed
  mutex : queue.header.mutex = fifo.mutex
  ring : queue.header.mutex ≠ .ownerDead → Holds queue fifo.items

variable {fifo : BoundedFifo}

theorem Represents.capacity (related : Represents queue fifo) : queue.header.capacity = fifo.capacity := by
  have same := related.identity
  simp only [QueueRefinement.identity, Prod.mk.injEq] at same
  exact same.2.2.2.2.2.2.1

theorem Represents.policy (related : Represents queue fifo) :
    queue.header.overflowPolicy = fifo.descriptor.overflowPolicy := by
  have same := related.identity
  simp only [QueueRefinement.identity, Prod.mk.injEq] at same
  exact same.2.2.2.2.2.2.2

theorem Represents.matches (related : Represents queue fifo) (descriptor : QueueDescriptor) :
    immutableHeaderMatches queue.header descriptor = fifo.sameQueue descriptor := by
  have same := related.identity
  simp only [QueueRefinement.identity, Prod.mk.injEq] at same
  obtain ⟨magic, version, headerSize, segmentSize, queueId, timeout, capacity, policy⟩ := same
  simp [immutableHeaderMatches, BoundedFifo.sameQueue, magic, version, headerSize, segmentSize, queueId, timeout, capacity,
    policy]

/-- An operation that holds the mutex keeps the relation when it keeps the ring. -/
theorem Represents.update (related : Represents queue fifo) {after : SharedSubscriberQueue} {items : List ChunkHandle}
    {closed : Bool} (same : QueueRefinement.identity after.header = QueueRefinement.identity queue.header)
    (mutex : after.header.mutex = queue.header.mutex) (shut : after.header.closed = closed) (holds : Holds after items) :
    Represents after { fifo with items, closed } := by
  have capacity : after.header.capacity = fifo.capacity := by
    rw [← related.capacity]
    exact congrArg (fun parts => parts.2.2.2.2.2.2.1) same
  exact ⟨same.trans related.identity, related.positive, capacity.symm.trans holds.slots, shut,
    mutex.trans related.mutex, fun _ => holds⟩

/-- Both locks succeed or fail together, and whoever holds the mutex finds a
well-formed ring. -/
theorem lock_related (related : Represents queue fifo) (attempt : LockAttempt) :
    (queue.lock attempt).1 = (fifo.lock attempt).1 ∧ Represents (queue.lock attempt).2 (fifo.lock attempt).2 ∧
      (queue.lock attempt).2.header.mutex ≠ .ownerDead := by
  have mutex := related.mutex
  unfold SharedSubscriberQueue.lock BoundedFifo.lock
  rw [← mutex]
  cases owner : queue.header.mutex with
  | consistent => exact ⟨rfl, related, by simp [owner]⟩
  | notRecoverable => exact ⟨rfl, related, by simp [owner]⟩
  | ownerDead =>
    refine ⟨rfl, ⟨related.identity, related.positive, related.slots, related.closed, rfl, fun _ => ?_⟩, ?_⟩
    · have positive := related.positive
      rw [← related.capacity] at positive
      exact holds_empty (related.capacity.trans related.slots) positive rfl rfl
    · simp only [makeMutexConsistentAfterOwnerDeath]
      split <;> simp

/-- The same answer on both sides, with related states after it. -/
def Agrees {α : Type} (left : α × SharedSubscriberQueue) (right : α × BoundedFifo) : Prop :=
  left.1 = right.1 ∧ Represents left.2 right.2

/-- An operation that gives up when it cannot lock needs only be compared under
the mutex. -/
theorem under_lock {α : Type} (related : Represents queue fifo) (attempt : LockAttempt) (failure : α)
    {body : SharedSubscriberQueue → α × SharedSubscriberQueue} {model : BoundedFifo → α × BoundedFifo}
    (agree : ∀ queue fifo, Represents queue fifo → Holds queue fifo.items → Agrees (body queue) (model fifo)) :
    Agrees (if !(queue.lock attempt).1 then (failure, (queue.lock attempt).2) else body (queue.lock attempt).2)
      (if !(fifo.lock attempt).1 then (failure, (fifo.lock attempt).2) else model (fifo.lock attempt).2) := by
  obtain ⟨same, locked, alive⟩ := lock_related related attempt
  rw [← same]
  split
  · exact ⟨rfl, locked⟩
  · exact agree _ _ locked (locked.ring alive)

theorem under_lock_unit (related : Represents queue fifo) (attempt : LockAttempt)
    {body : SharedSubscriberQueue → SharedSubscriberQueue} {model : BoundedFifo → BoundedFifo}
    (kept : ∀ queue fifo, Represents queue fifo → Holds queue fifo.items → Represents (body queue) (model fifo)) :
    Represents (if !(queue.lock attempt).1 then (queue.lock attempt).2 else body (queue.lock attempt).2)
      (if !(fifo.lock attempt).1 then (fifo.lock attempt).2 else model (fifo.lock attempt).2) := by
  obtain ⟨same, locked, alive⟩ := lock_related related attempt
  rw [← same]
  split
  · exact locked
  · exact kept _ _ locked (locked.ring alive)

theorem store_agrees (related : Represents queue fifo) (holds : Holds queue fifo.items)
    (room : fifo.items.length < fifo.capacity) (handle : ChunkHandle) (notify : Option Bool) (needs : Bool)
    (dropped : Option ChunkHandle) (blocked : Bool) (elapsedNs : UInt64) :
    Agrees (queue.store handle notify needs dropped blocked elapsedNs)
      (fifo.append handle notify needs dropped blocked elapsedNs) := by
  have stored := store_holds holds (by rw [related.capacity]; exact room) handle notify needs dropped blocked elapsedNs
  have kept : identity (queue.store handle notify needs dropped blocked elapsedNs).2.header = identity queue.header ∧
      (queue.store handle notify needs dropped blocked elapsedNs).2.header.mutex = queue.header.mutex ∧
      (queue.store handle notify needs dropped blocked elapsedNs).2.header.closed = queue.header.closed := by
    unfold store
    split <;> exact ⟨rfl, rfl, rfl⟩
  unfold BoundedFifo.append
  split at stored
  next failed =>
    rw [if_pos failed]
    exact ⟨stored.1, related.update kept.1 kept.2.1 (kept.2.2.trans related.closed) stored.2⟩
  next sent =>
    rw [if_neg sent]
    exact ⟨stored.1, related.update kept.1 kept.2.1 (kept.2.2.trans related.closed) stored.2⟩

theorem Represents.count (related : Represents queue fifo) (update : QueueCounters → QueueCounters) :
    Represents (queue.count update) fifo :=
  ⟨related.identity, related.positive, related.slots, related.closed, related.mutex,
    fun alive => (related.ring alive).count update⟩

theorem count_agrees {α : Type} (related : Represents queue fifo) (update : QueueCounters → QueueCounters) (answer : α) :
    Agrees (answer, queue.count update) (answer, fifo) :=
  ⟨rfl, related.count update⟩

theorem removeOldest_related (related : Represents queue fifo) (holds : Holds queue fifo.items) (present : fifo.items ≠ []) :
    some (Ring.slot queue.slots queue.header.head) = fifo.items.head? ∧
      Represents queue.removeOldest { fifo with items := fifo.items.tail } ∧
      Holds queue.removeOldest fifo.items.tail := by
  cases items : fifo.items with
  | nil => exact absurd items present
  | cons =>
    rw [items] at holds
    obtain ⟨oldest, others⟩ := holds.removeOldest
    exact ⟨congrArg some oldest, related.update rfl rfl related.closed others, others⟩

theorem Holds.full_iff (holds : Holds queue fifo.items) (related : Represents queue fifo) :
    queue.header.size = queue.header.capacity ↔ fifo.items.length = fifo.capacity := by
  rw [holds.length, related.capacity]

theorem Holds.room (holds : Holds queue fifo.items) (related : Represents queue fifo)
    (notFull : ¬fifo.items.length = fifo.capacity) : fifo.items.length < fifo.capacity := by
  have bound := holds.size
  rw [← holds.length, related.capacity] at bound
  omega

theorem Agrees.map {α β : Type} {left : α × SharedSubscriberQueue} {right : α × BoundedFifo} (agree : Agrees left right)
    (wrap : α → β) : Agrees (wrap left.1, left.2) (wrap right.1, right.2) :=
  ⟨congrArg wrap agree.1, agree.2⟩

theorem enqueue_agrees (related : Represents queue fifo) (handle : ChunkHandle) (notify : Option Bool)
    (attempt : LockAttempt) : Agrees (queue.enqueue handle notify attempt) (fifo.enqueue handle notify attempt) := by
  obtain ⟨same, locked, alive⟩ := lock_related related attempt
  have holds := locked.ring alive
  unfold SharedSubscriberQueue.enqueue BoundedFifo.enqueue
  revert same locked holds
  generalize queue.lock attempt = left
  generalize fifo.lock attempt = right
  obtain ⟨held, queue⟩ := left
  obtain ⟨holding, fifo⟩ := right
  intro same related holds
  simp only at same related holds ⊢
  rw [← same]
  split
  · exact ⟨rfl, related⟩
  by_cases shut : fifo.closed
  · rw [if_pos shut, if_pos (related.closed.trans shut)]
    exact ⟨rfl, related⟩
  rw [if_neg shut, if_neg (by rw [related.closed]; exact shut)]
  by_cases full : fifo.items.length = fifo.capacity
  · rw [if_pos full, if_pos ((holds.full_iff related).mpr full), related.policy]
    cases fifo.descriptor.overflowPolicy with
    | dropNewest => exact count_agrees related _ _
    | dropOldest =>
      have positive := related.positive
      have present : fifo.items ≠ [] := by
        intro none
        rw [none, List.length_nil] at full
        omega
      obtain ⟨oldest, removed, others⟩ := removeOldest_related related holds present
      have room : fifo.items.tail.length < fifo.capacity := by
        rw [List.length_tail]
        omega
      rw [oldest]
      exact (store_agrees (removed.count _) (others.count _) room handle notify false fifo.items.head? false 0).map some
    | blockWithTimeout => exact count_agrees related _ _
  · rw [if_neg full, if_neg (mt (holds.full_iff related).mp full), holds.isEmpty]
    exact (store_agrees related holds (holds.room related full) handle notify _ none false 0).map some

theorem afterWait_agrees (related : Represents queue fifo) (holds : Holds queue fifo.items) (handle : ChunkHandle)
    (notify : Option Bool) (elapsedNs : UInt64) :
    Agrees (queue.afterWait handle notify elapsedNs) (fifo.afterWait handle notify elapsedNs) := by
  unfold SharedSubscriberQueue.afterWait BoundedFifo.afterWait
  simp only [holds.full_iff related, related.closed]
  split
  · exact ⟨rfl, related⟩
  next proceed =>
    have counted : Represents (queue.addBlockedTime elapsedNs) fifo := related.count _
    have still : Holds (queue.addBlockedTime elapsedNs) fifo.items := holds.count _
    simp only [counted.closed, still.isEmpty]
    split
    · exact ⟨rfl, counted⟩
    next opened =>
      have notFull : ¬fifo.items.length = fifo.capacity := fun full => proceed ⟨full, by simpa using opened⟩
      exact (store_agrees counted still (still.room counted notFull) handle notify _ none true elapsedNs).map some

theorem resumeEnqueue_agrees (related : Represents queue fifo) (handle : ChunkHandle) (notify : Option Bool)
    (wait : WaitResult) (consistent : Bool) (elapsedNs : UInt64) :
    Agrees (queue.resumeEnqueue handle notify wait consistent elapsedNs)
      (fifo.resumeEnqueue handle notify wait consistent elapsedNs) := by
  have mutex := related.mutex
  have recovered := (lock_related related { consistent }).2
  unfold SharedSubscriberQueue.lock BoundedFifo.lock at recovered
  unfold SharedSubscriberQueue.resumeEnqueue BoundedFifo.resumeEnqueue
  rw [← mutex] at recovered ⊢
  cases owner : queue.header.mutex with
  | notRecoverable => exact count_agrees related _ _
  | ownerDead =>
    rw [owner] at recovered
    have holds := recovered.1.ring recovered.2
    cases consistent with
    | true => exact afterWait_agrees recovered.1 holds handle notify elapsedNs
    | false => exact count_agrees recovered.1 _ _
  | consistent =>
    have holds := related.ring (by simp [owner])
    cases wait with
    | timedOut => exact count_agrees (related.count _) _ _
    | failed => exact count_agrees related _ _
    | signaled => exact afterWait_agrees related holds handle notify elapsedNs

theorem tryDequeue_agrees (related : Represents queue fifo) (attempt : LockAttempt) :
    Agrees (queue.tryDequeue attempt) (fifo.tryDequeue attempt) := by
  obtain ⟨same, locked, alive⟩ := lock_related related attempt
  have holds := locked.ring alive
  unfold SharedSubscriberQueue.tryDequeue BoundedFifo.tryDequeue
  simp only [ite_or, ← same, ← holds.length]
  split
  · exact ⟨rfl, locked⟩
  split
  next none =>
    have empty := List.eq_nil_of_length_eq_zero none
    rw [empty] at holds ⊢
    exact ⟨rfl, locked.update rfl rfl locked.closed holds⟩
  next some =>
    obtain ⟨oldest, removed, _⟩ := removeOldest_related locked holds (by rintro none; exact some (by rw [none]; rfl))
    rw [oldest]
    exact count_agrees removed _ _

theorem peek_agrees (related : Represents queue fifo) (attempt : LockAttempt) :
    Agrees (queue.peek attempt) (fifo.peek attempt) := by
  obtain ⟨same, locked, alive⟩ := lock_related related attempt
  have holds := locked.ring alive
  unfold SharedSubscriberQueue.peek BoundedFifo.peek
  simp only [ite_or, ← same, ← holds.length]
  split
  · exact ⟨rfl, locked⟩
  split
  next none => exact ⟨by rw [List.eq_nil_of_length_eq_zero none]; rfl, locked⟩
  next some =>
    obtain ⟨oldest, _⟩ := removeOldest_related locked holds (by rintro none; exact some (by rw [none]; rfl))
    exact ⟨oldest, locked⟩

theorem takeAll_agrees (related : Represents queue fifo) (holds : Holds queue fifo.items) :
    Agrees queue.takeAll (fifo.items, { fifo with items := [] }) := by
  obtain ⟨taken, empty⟩ := takeAll_holds holds
  exact ⟨taken, related.update rfl rfl related.closed empty⟩

theorem Represents.close (related : Represents queue fifo) (holds : Holds queue fifo.items) :
    Represents { queue with header.closed := true } { fifo with closed := true } ∧
      Holds { queue with header.closed := true } fifo.items := by
  have shut : Holds { queue with header.closed := true } fifo.items :=
    ⟨holds.slots, holds.head, holds.size, holds.tail, holds.items⟩
  exact ⟨related.update rfl rfl rfl shut, shut⟩

theorem keepOnly_holds (holds : Holds queue items) (keep : ChunkHandle → Bool) :
    Holds (queue.keepOnly keep) (items.filter keep) := by
  obtain ⟨length, bound, content⟩ := Ring.compact_spec keep queue.header.head holds.slots (Nat.le_refl 0)
    (by simpa using holds.size)
  refine ⟨length.symm, holds.head, bound, rfl, ?_⟩
  rw [← holds.items]
  exact content

theorem keepOnly_related (related : Represents queue fifo) (holds : Holds queue fifo.items) (poolId : UInt64) :
    Represents (queue.keepOnly fun handle => poolId != 0 && handle.poolId != poolId)
      { fifo with items := if poolId = 0 then [] else fifo.items.filter fun handle => handle.poolId != poolId } := by
  have kept := keepOnly_holds holds fun handle => poolId != 0 && handle.poolId != poolId
  have filtered : fifo.items.filter (fun handle => poolId != 0 && handle.poolId != poolId) =
      if poolId = 0 then [] else fifo.items.filter fun handle => handle.poolId != poolId := by
    by_cases zero : poolId = 0
    · simp [zero]
    · have nonzero : (poolId != 0) = true := by simpa using zero
      simp only [nonzero, Bool.true_and, if_neg zero]
  rw [filtered] at kept
  exact related.update rfl rfl related.closed kept

theorem Represents.clear (related : Represents queue fifo) (holds : Holds queue fifo.items) :
    Represents { queue with header := { queue.header with head := 0, tail := 0, size := 0, closed := true } }
      { fifo with items := [], closed := true } :=
  related.update rfl rfl rfl (holds_empty holds.slots holds.positive rfl rfl)

theorem recoverAndClose_agrees (related : Represents queue fifo) (descriptor : QueueDescriptor) (region : RegionOutcome)
    (attempt : LockAttempt) :
    Agrees (queue.recoverAndClose descriptor region attempt) (fifo.recoverAndClose descriptor region attempt) := by
  obtain ⟨same, locked, alive⟩ := lock_related related attempt
  have holds := locked.ring alive
  unfold SharedSubscriberQueue.recoverAndClose BoundedFifo.recoverAndClose
  cases validateDescriptor descriptor with
  | error => exact ⟨rfl, related⟩
  | ok =>
    cases region with
    | notFound => exact ⟨rfl, related⟩
    | systemError => exact ⟨rfl, related⟩
    | opened =>
      simp only [related.matches, ← same]
      split
      · exact ⟨rfl, related⟩
      split
      · exact ⟨rfl, locked⟩
      · exact count_agrees (locked.clear holds) _ _

theorem stores_length (stores : List (Nat × ChunkHandle)) (slots : List ChunkHandle) :
    (stores.foldl (fun slots (index, handle) => slots.set index handle) slots).length = slots.length := by
  induction stores generalizing slots with
  | nil => rfl
  | cons store rest ih => exact (ih _).trans List.length_set

theorem drain_agrees (related : Represents queue fifo) (attempt : LockAttempt) :
    Agrees (queue.drain attempt) (fifo.drain attempt) :=
  under_lock related attempt _ fun _ _ related holds => (takeAll_agrees related holds).map Except.ok

theorem closeAndDrain_agrees (related : Represents queue fifo) (attempt : LockAttempt) :
    Agrees (queue.closeAndDrain attempt) (fifo.closeAndDrain attempt) :=
  under_lock related attempt _ fun _ _ related holds =>
    (takeAll_agrees (related.close holds).1 (related.close holds).2).map Except.ok

theorem discardPool_related (related : Represents queue fifo) (poolId : UInt64) (attempt : LockAttempt) :
    Represents (queue.discardPool poolId attempt) (fifo.discardPool poolId attempt) :=
  under_lock_unit related attempt fun _ _ related holds => (keepOnly_related related holds poolId).count _

theorem close_related (related : Represents queue fifo) (attempt : LockAttempt) :
    Represents (queue.close attempt) (fifo.close attempt) :=
  under_lock_unit related attempt fun _ _ related holds => (related.close holds).1

theorem ownerDeath_related (related : Represents queue fifo) (head tail size maxSize : Nat) (counters : QueueCounters)
    (closes : Bool) (stores : List (Nat × ChunkHandle)) :
    Represents (queue.ownerDeath head tail size maxSize counters closes stores)
      { fifo with closed := fifo.closed || closes, mutex := .ownerDead } :=
  ⟨related.identity, related.positive, related.slots.trans (stores_length stores queue.slots).symm,
    congrArg (· || closes) related.closed, rfl, fun alive => absurd rfl alive⟩

theorem perform_agrees (related : Represents queue fifo) (operation : QueueOperation) :
    Agrees (queue.perform operation) (fifo.perform operation) := by
  cases operation with
  | enqueue handle notify attempt => exact (enqueue_agrees related handle notify attempt).map QueueOutput.enqueued
  | resumeEnqueue handle notify wait consistent elapsedNs =>
    exact (resumeEnqueue_agrees related handle notify wait consistent elapsedNs).map QueueOutput.enqueued
  | tryDequeue attempt => exact (tryDequeue_agrees related attempt).map QueueOutput.taken
  | peek attempt => exact (peek_agrees related attempt).map QueueOutput.taken
  | drain attempt => exact (drain_agrees related attempt).map QueueOutput.drained
  | closeAndDrain attempt => exact (closeAndDrain_agrees related attempt).map QueueOutput.drained
  | discardPool poolId attempt => exact ⟨rfl, discardPool_related related poolId attempt⟩
  | close attempt => exact ⟨rfl, close_related related attempt⟩
  | recoverAndClose descriptor region attempt =>
    exact (recoverAndClose_agrees related descriptor region attempt).map QueueOutput.code
  | ownerDeath head tail size maxSize counters closes stores =>
    exact ⟨rfl, ownerDeath_related related head tail size maxSize counters closes stores⟩

theorem performAll_agrees (related : Represents queue fifo) (operations : List QueueOperation) :
    Agrees (queue.performAll operations) (fifo.performAll operations) := by
  induction operations generalizing queue fifo with
  | nil => exact ⟨rfl, related⟩
  | cons operation rest ih =>
    obtain ⟨output, next⟩ := perform_agrees related operation
    obtain ⟨outputs, last⟩ := ih next
    refine ⟨?_, last⟩
    simp only [SharedSubscriberQueue.performAll, BoundedFifo.performAll, output, outputs]

@[simp] theorem lock_closed (fifo : BoundedFifo) (attempt : LockAttempt) : (fifo.lock attempt).2.closed = fifo.closed := by
  unfold BoundedFifo.lock
  split <;> rfl

private theorem closed_afterWait (shut : fifo.closed = true) (handle : ChunkHandle) (notify : Option Bool)
    (elapsedNs : UInt64) :
    fifo.afterWait handle notify elapsedNs = (some { status := .closed, blocked := true, blockedTimeNs := elapsedNs }, fifo) := by
  simp [BoundedFifo.afterWait, shut]

private theorem closed_enqueue (shut : fifo.closed = true) (handle : ChunkHandle) (notify : Option Bool)
    (attempt : LockAttempt) :
    (fifo.enqueue handle notify attempt).2.closed = true ∧
      ∀ result, (fifo.enqueue handle notify attempt).1 = some result → result.status ≠ .accepted := by
  have still : (fifo.lock attempt).2.closed = true := by simp [shut]
  unfold BoundedFifo.enqueue
  simp only [still, if_true]
  split
  all_goals
    refine ⟨still, ?_⟩
    rintro result ⟨⟩
    simp

private theorem closed_resume (shut : fifo.closed = true) (handle : ChunkHandle) (notify : Option Bool) (wait : WaitResult)
    (consistent : Bool) (elapsedNs : UInt64) :
    (fifo.resumeEnqueue handle notify wait consistent elapsedNs).2.closed = true ∧
      ∀ result, (fifo.resumeEnqueue handle notify wait consistent elapsedNs).1 = some result →
        result.status ≠ .accepted := by
  unfold BoundedFifo.resumeEnqueue
  cases fifo.mutex with
  | notRecoverable => exact ⟨shut, by rintro result ⟨⟩; simp⟩
  | ownerDead =>
    cases consistent with
    | true =>
      have recovered : BoundedFifo.closed { fifo with items := [], mutex := .consistent } = true := shut
      simp only [if_true, closed_afterWait recovered]
      exact ⟨shut, by rintro result ⟨⟩; simp⟩
    | false => exact ⟨shut, by rintro result ⟨⟩; simp⟩
  | consistent =>
    cases wait with
    | timedOut => exact ⟨shut, by rintro result ⟨⟩; simp⟩
    | failed => exact ⟨shut, by rintro result ⟨⟩; simp⟩
    | signaled =>
      simp only
      rw [closed_afterWait shut]
      exact ⟨shut, by rintro result ⟨⟩; simp⟩

private theorem closed_recoverAndClose (shut : fifo.closed = true) (descriptor : QueueDescriptor) (region : RegionOutcome)
    (attempt : LockAttempt) : (fifo.recoverAndClose descriptor region attempt).2.closed = true := by
  unfold BoundedFifo.recoverAndClose
  split
  · exact shut
  · exact shut
  · exact shut
  · split
    · exact shut
    · simp only
      split <;> simp [shut]

theorem closed_perform (shut : fifo.closed = true) (operation : QueueOperation) :
    (fifo.perform operation).2.closed = true ∧
      ∀ result, (fifo.perform operation).1 = .enqueued (some result) → result.status ≠ .accepted := by
  cases operation with
  | enqueue handle notify attempt =>
    obtain ⟨still, refused⟩ := closed_enqueue shut handle notify attempt
    exact ⟨still, fun result same => refused result (QueueOutput.enqueued.inj same)⟩
  | resumeEnqueue handle notify wait consistent elapsedNs =>
    obtain ⟨still, refused⟩ := closed_resume shut handle notify wait consistent elapsedNs
    exact ⟨still, fun result same => refused result (QueueOutput.enqueued.inj same)⟩
  | recoverAndClose descriptor region attempt =>
    exact ⟨closed_recoverAndClose shut descriptor region attempt, by rintro result ⟨⟩⟩
  | ownerDeath =>
    exact ⟨by simp [BoundedFifo.perform, shut], by rintro result ⟨⟩⟩
  | tryDequeue =>
    refine ⟨?_, by rintro result ⟨⟩⟩
    simp only [BoundedFifo.perform, BoundedFifo.tryDequeue]
    split <;> simp [shut]
  | peek =>
    refine ⟨?_, by rintro result ⟨⟩⟩
    simp only [BoundedFifo.perform, BoundedFifo.peek]
    split <;> simp [shut]
  | drain =>
    refine ⟨?_, by rintro result ⟨⟩⟩
    simp only [BoundedFifo.perform, BoundedFifo.drain]
    split <;> simp [shut]
  | closeAndDrain =>
    refine ⟨?_, by rintro result ⟨⟩⟩
    simp only [BoundedFifo.perform, BoundedFifo.closeAndDrain]
    split <;> simp [shut]
  | discardPool =>
    refine ⟨?_, by rintro result ⟨⟩⟩
    simp only [BoundedFifo.perform, BoundedFifo.discardPool]
    split <;> simp [shut]
  | close =>
    refine ⟨?_, by rintro result ⟨⟩⟩
    simp only [BoundedFifo.perform, BoundedFifo.close]
    split <;> simp [shut]

theorem closed_performAll (shut : fifo.closed = true) (operations : List QueueOperation) (result : QueueEnqueueResult)
    (answered : .enqueued (some result) ∈ (fifo.performAll operations).1) : result.status ≠ .accepted := by
  induction operations generalizing fifo with
  | nil => cases answered
  | cons operation rest ih =>
    obtain ⟨still, refused⟩ := closed_perform shut operation
    rcases List.mem_cons.mp answered with first | later
    · exact refused result first.symm
    · exact ih still later

theorem requiredSegmentSize_ok {capacity : UInt32} (depth : 1 ≤ capacity ∧ capacity ≤ 65536) :
    requiredSegmentSize capacity = .ok (subscriberQueueHeaderSize + capacity.toUInt64 * chunkHandleSize) := by
  have low := UInt32.le_iff_toNat_le.mp depth.1
  have high := UInt32.le_iff_toNat_le.mp depth.2
  have one : (1 : UInt32).toNat = 1 := rfl
  have limit : (65536 : UInt32).toNat = 65536 := rfl
  have width : capacity.toUInt64.toNat = capacity.toNat := UInt32.toNat_toUInt64 capacity
  have bytes : (capacity.toUInt64 * chunkHandleSize).toNat = capacity.toNat * 24 := by
    rw [UInt64.toNat_mul, width]
    exact Nat.mod_eq_of_lt (by rw [show chunkHandleSize.toNat = 24 from rfl]; omega)
  have multiplied : PoolLayout.checkedMultiply capacity.toUInt64 chunkHandleSize =
      some (capacity.toUInt64 * chunkHandleSize) := by
    unfold PoolLayout.checkedMultiply
    rw [if_neg]
    rintro ⟨_, large⟩
    rw [gt_iff_lt, UInt64.lt_iff_toNat_lt, UInt64.toNat_div, width] at large
    have room : 24 ≤ sizeMax.toNat / capacity.toNat := by
      rw [Nat.le_div_iff_mul_le (by omega)]
      exact Nat.le_trans (Nat.mul_le_mul_left 24 high) (by decide)
    exact absurd large (Nat.not_lt.mpr room)
  have added : PoolLayout.checkedAdd subscriberQueueHeaderSize (capacity.toUInt64 * chunkHandleSize) =
      some (subscriberQueueHeaderSize + capacity.toUInt64 * chunkHandleSize) := by
    unfold PoolLayout.checkedAdd
    rw [if_neg]
    have below : capacity.toUInt64 * chunkHandleSize ≤ sizeMax := by
      rw [UInt64.le_iff_toNat_le, bytes]
      exact Nat.le_trans (Nat.mul_le_mul_right 24 high) (by decide)
    rw [gt_iff_lt, UInt64.lt_iff_toNat_lt, UInt64.toNat_sub_of_le _ _ below, bytes]
    have sizes : sizeMax.toNat = 18446744073709551615 ∧ subscriberQueueHeaderSize.toNat = 256 := ⟨rfl, rfl⟩
    omega
  unfold requiredSegmentSize
  have supported : ¬(capacity = 0 ∨ capacity > kMaxSubscriberQueueDepth) := by
    rintro (zero | large)
    · rw [zero] at low
      exact absurd low (by decide)
    · exact absurd (UInt32.lt_iff_toNat_lt.mp large) (Nat.not_lt.mpr high)
  rw [if_neg supported, multiplied, Option.bind_some, added]

/-- Every depth in the supported range has a queue, for every overflow policy. -/
theorem create_ok {descriptor : QueueDescriptor} (name : isValidSharedMemoryName descriptor.shmName = true)
    (known : descriptor.queueId ≠ 0) (version : descriptor.layoutVersion = kQueueLayoutVersion)
    (depth : 1 ≤ descriptor.capacity ∧ descriptor.capacity ≤ 65536) (timeout : descriptor.blockTimeoutMs ≠ 0)
    (size : descriptor.segmentSize = subscriberQueueHeaderSize + descriptor.capacity.toUInt64 * chunkHandleSize) :
    ∃ queue, create descriptor = .ok queue ∧ Represents queue { descriptor } := by
  have positive : 0 < descriptor.capacity.toNat := UInt32.le_iff_toNat_le.mp depth.1
  have accepted : validateDescriptor descriptor = .ok () := by
    have nonzero : descriptor.capacity ≠ 0 := by
      intro zero
      rw [zero] at positive
      exact absurd positive (by decide)
    have supported : ¬descriptor.capacity > kMaxSubscriberQueueDepth := by
      simpa [kMaxSubscriberQueueDepth] using depth.2
    simp [validateDescriptor, name, known, version, nonzero, supported, timeout, requiredSegmentSize_ok depth, size,
      bind, Except.bind, pure, Except.pure]
  refine ⟨_, by rw [create, accepted]; rfl, rfl, positive, ?_, rfl, rfl, fun _ => ?_⟩
  · simp [BoundedFifo.capacity]
  · exact holds_empty (by simp) positive rfl rfl

/-- The ring in shared memory is a bounded FIFO list. From creation on, after any
sequence of operations, owner deaths included, both have given the same answers;
unless the owner of the mutex is dead at this moment, the indices are well
formed and the slots from the head on are the list; and a closed queue accepts
nothing any more. -/
theorem queue_refines_fifo {descriptor : QueueDescriptor} (name : isValidSharedMemoryName descriptor.shmName = true)
    (known : descriptor.queueId ≠ 0) (version : descriptor.layoutVersion = kQueueLayoutVersion)
    (depth : 1 ≤ descriptor.capacity ∧ descriptor.capacity ≤ 65536) (timeout : descriptor.blockTimeoutMs ≠ 0)
    (size : descriptor.segmentSize = subscriberQueueHeaderSize + descriptor.capacity.toUInt64 * chunkHandleSize) :
    ∃ queue, create descriptor = .ok queue ∧ ∀ operations : List QueueOperation,
      let after := (queue.performAll operations).2
      let fifo := (BoundedFifo.performAll { descriptor } operations).2
      (queue.performAll operations).1 = (BoundedFifo.performAll { descriptor } operations).1 ∧
      (after.header.mutex ≠ .ownerDead →
        after.header.head < after.header.capacity ∧ after.header.tail < after.header.capacity ∧
        after.header.size ≤ after.header.capacity ∧
        after.header.tail = (after.header.head + after.header.size) % after.header.capacity ∧
        contents after = fifo.items) ∧
      (after.header.closed = true → ∀ later result,
        .enqueued (some result) ∈ (after.performAll later).1 → result.status ≠ .accepted) := by
  obtain ⟨queue, created, related⟩ := create_ok name known version depth timeout size
  refine ⟨queue, created, fun operations => ?_⟩
  obtain ⟨outputs, last⟩ := performAll_agrees related operations
  refine ⟨outputs, fun alive => ?_, fun shut later result answered => ?_⟩
  · have holds := last.ring alive
    exact ⟨holds.head, holds.tail_lt, holds.size, holds.tail, holds.items⟩
  · rw [last.closed] at shut
    rw [(performAll_agrees last later).1] at answered
    exact closed_performAll shut later result answered

def sampleQueue : QueueDescriptor := ⟨[slash, 113], 1, 304, 2, kQueueLayoutVersion, .dropOldest, 10⟩

theorem queue_refines_fifo_sample :
    ∃ queue, create sampleQueue = .ok queue ∧
      (queue.performAll [.enqueue ⟨1, 0, 1, 64⟩ (some true) {}, .tryDequeue {}]).1 =
        (BoundedFifo.performAll { descriptor := sampleQueue } [.enqueue ⟨1, 0, 1, 64⟩ (some true) {}, .tryDequeue {}]).1 := by
  obtain ⟨queue, created, refined⟩ := queue_refines_fifo (by decide : isValidSharedMemoryName sampleQueue.shmName = true)
    (by decide) rfl (by decide) (by decide) (by decide)
  exact ⟨queue, created, (refined _).1⟩

end RobotMiddleware.Proofs.QueueRefinement
