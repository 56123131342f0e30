import RobotMiddleware.Lib.Ring
import RobotMiddleware.PoolLayout

/-! The queue that a subscriber shares with its publishers: a ring in shared
memory under a robust mutex. Every operation runs under the mutex, so it is one
function here; only an enqueue that waits for room is two, because the wait
gives the mutex back. What the system decides (a lock attempt, the notification
callback, the end of a wait, the clock) is an argument. -/

namespace RobotMiddleware
open Lib

def kSubscriberQueueMagic : UInt32 := 0x4D575151
def kMaxSubscriberQueueDepth : UInt32 := 65536
/-- `sizeof(SubscriberQueueHeader)`, which is also the offset of the first slot. -/
def subscriberQueueHeaderSize : UInt64 := 256
def chunkHandleSize : UInt64 := 24

/-- The robust mutex between two operations. -/
inductive MutexState where
  | consistent | ownerDead | notRecoverable
  deriving DecidableEq, Repr

structure QueueCounters where
  enqueued : UInt64 := 0
  dequeued : UInt64 := 0
  droppedNewest : UInt64 := 0
  droppedOldest : UInt64 := 0
  blockTimeouts : UInt64 := 0
  blockedCount : UInt64 := 0
  blockedTimeNs : UInt64 := 0
  ownerDeathRecoveries : UInt64 := 0
  peerResets : UInt64 := 0
  deriving DecidableEq, Repr

structure QueueStats where
  counters : QueueCounters := {}
  currentSize : Nat := 0
  maxSize : Nat := 0
  deriving DecidableEq, Repr

/-- The depth is at most 65536, so the index arithmetic never reaches the width
of its type. -/
structure SubscriberQueueHeader where
  magic : UInt32
  version : UInt16
  headerSize : UInt64
  segmentSize : UInt64
  queueId : UInt64
  blockTimeoutMs : UInt64
  capacity : Nat
  head : Nat := 0
  tail : Nat := 0
  size : Nat := 0
  maxSize : Nat := 0
  attachmentCount : UInt32
  closed : Bool := false
  overflowPolicy : OverflowPolicy
  counters : QueueCounters := {}
  mutex : MutexState := .consistent
  deriving DecidableEq, Repr

structure SharedSubscriberQueue where
  header : SubscriberQueueHeader
  slots : List ChunkHandle
  deriving DecidableEq, Repr

inductive QueueEnqueueStatus where
  | accepted | droppedNewest | timedOut | closed | notificationFailed | synchronizationError
  deriving DecidableEq, Repr

structure QueueEnqueueResult where
  status : QueueEnqueueStatus := .synchronizationError
  droppedOldest : Option ChunkHandle := none
  notificationSent : Bool := false
  blocked : Bool := false
  blockedTimeNs : UInt64 := 0
  deriving DecidableEq, Repr

/-- How the system answers a lock call: `refused` is an error other than the
robust-mutex ones (a busy mutex for a try-lock), `consistent` tells whether
`pthread_mutex_consistent` succeeds when it is needed. -/
structure LockAttempt where
  refused : Bool := false
  consistent : Bool := true
  deriving DecidableEq, Repr

/-- What `pthread_cond_timedwait` returns when the mutex could be taken again. -/
inductive WaitResult where
  | signaled | timedOut | failed
  deriving DecidableEq, Repr

/-- What opening the shared memory object of a queue does. -/
inductive RegionOutcome where
  | opened | notFound | systemError
  deriving DecidableEq, Repr

def resetRingAfterOwnerDeath (header : SubscriberQueueHeader) : SubscriberQueueHeader :=
  { header with
    head := 0, tail := 0, size := 0
    counters.ownerDeathRecoveries := header.counters.ownerDeathRecoveries + 1 }

/-- When the call fails the caller unlocks, which leaves the mutex unrecoverable. -/
def makeMutexConsistentAfterOwnerDeath (header : SubscriberQueueHeader) (consistent : Bool) :
    Bool × SubscriberQueueHeader :=
  (consistent, { resetRingAfterOwnerDeath header with mutex := if consistent then .consistent else .notRecoverable })

def immutableHeaderMatches (header : SubscriberQueueHeader) (descriptor : QueueDescriptor) : Bool :=
  header.magic == kSubscriberQueueMagic && header.version == kQueueLayoutVersion &&
    header.headerSize == subscriberQueueHeaderSize && header.segmentSize == descriptor.segmentSize &&
    header.queueId == descriptor.queueId && header.capacity == descriptor.capacity.toNat &&
    header.overflowPolicy == descriptor.overflowPolicy && header.blockTimeoutMs == descriptor.blockTimeoutMs

def ringInvariantsHold (header : SubscriberQueueHeader) : Bool :=
  header.capacity != 0 && header.head < header.capacity && header.tail < header.capacity && header.size ≤ header.capacity

namespace SharedSubscriberQueue

def requiredSegmentSize (capacity : UInt32) : Except Exception UInt64 :=
  if capacity = 0 ∨ capacity > kMaxSubscriberQueueDepth then
    .error (.invalidArgument "subscriber queue depth is outside the supported range")
  else
    match (PoolLayout.checkedMultiply capacity.toUInt64 chunkHandleSize).bind
        (PoolLayout.checkedAdd subscriberQueueHeaderSize) with
    | none => .error (.overflowError "subscriber queue segment size overflow")
    | some total => .ok total

def validateDescriptor (descriptor : QueueDescriptor) : Except Exception Unit :=
  if !isValidSharedMemoryName descriptor.shmName ∨ descriptor.queueId = 0 ∨
      descriptor.layoutVersion ≠ kQueueLayoutVersion ∨ descriptor.capacity = 0 ∨
      descriptor.capacity > kMaxSubscriberQueueDepth ∨ descriptor.blockTimeoutMs = 0 then
    .error (.invalidArgument "invalid subscriber queue descriptor")
  else do
    if descriptor.segmentSize ≠ (← requiredSegmentSize descriptor.capacity) then
      .error (.invalidArgument "invalid subscriber queue descriptor")

/-- The system calls of `create` are taken to succeed. -/
def create (descriptor : QueueDescriptor) : Except Exception SharedSubscriberQueue := do
  validateDescriptor descriptor
  pure {
    header := {
      magic := kSubscriberQueueMagic
      version := kQueueLayoutVersion
      headerSize := subscriberQueueHeaderSize
      segmentSize := descriptor.segmentSize
      queueId := descriptor.queueId
      blockTimeoutMs := descriptor.blockTimeoutMs
      capacity := descriptor.capacity.toNat
      attachmentCount := 1
      overflowPolicy := descriptor.overflowPolicy }
    slots := List.replicate descriptor.capacity.toNat {} }

/-- The constructor of `PthreadLock`: whether it holds the mutex afterwards. -/
def lock (queue : SharedSubscriberQueue) (attempt : LockAttempt) : Bool × SharedSubscriberQueue :=
  match queue.header.mutex with
  | .consistent => (!attempt.refused, queue)
  | .notRecoverable => (false, queue)
  | .ownerDead =>
    let (recovered, header) := makeMutexConsistentAfterOwnerDeath queue.header attempt.consistent
    (recovered, { queue with header })

/-- `SharedSubscriberQueue::open` once the object is mapped: a further attachment. -/
def openQueue (queue : SharedSubscriberQueue) (descriptor : QueueDescriptor) (attempt : LockAttempt) :
    Except Exception Unit × SharedSubscriberQueue :=
  match validateDescriptor descriptor with
  | .error thrown => (.error thrown, queue)
  | .ok _ =>
    if !immutableHeaderMatches queue.header descriptor then
      (.error (.middleware .invalidSharedMemory "subscriber queue metadata does not match its descriptor"), queue)
    else
      let (locked, queue) := queue.lock attempt
      if !locked then
        (.error (.middleware .sharedMemoryError "subscriber queue mutex could not be locked"), queue)
      else if !ringInvariantsHold queue.header then
        (.error (.middleware .invalidSharedMemory "subscriber queue ring invariants are invalid"), queue)
      else if queue.header.closed ∨ queue.header.attachmentCount = uint32Max.toUInt32 then
        (.error (.middleware .queueClosed "subscriber queue is closed"), queue)
      else (.ok (), { queue with header.attachmentCount := queue.header.attachmentCount + 1 })

def count (queue : SharedSubscriberQueue) (update : QueueCounters → QueueCounters) : SharedSubscriberQueue :=
  { queue with header.counters := update queue.header.counters }

/-- The end of `enqueue`: store the handle, and take it back when the
notification that an empty ring needs cannot be sent. -/
def store (queue : SharedSubscriberQueue) (handle : ChunkHandle) (notify : Option Bool) (needsNotification : Bool)
    (dropped : Option ChunkHandle) (blocked : Bool) (blockedTimeNs : UInt64) :
    QueueEnqueueResult × SharedSubscriberQueue :=
  let header := { queue.header with
    tail := (queue.header.tail + 1) % queue.header.capacity
    size := queue.header.size + 1
    maxSize := max queue.header.maxSize (queue.header.size + 1)
    counters.enqueued := queue.header.counters.enqueued + 1 }
  let stored := { header, slots := queue.slots.set queue.header.tail handle }
  if needsNotification ∧ notify = some false then
    ({ status := .notificationFailed, blocked, blockedTimeNs },
      { stored with header := { header with
          tail := if header.tail = 0 then header.capacity - 1 else header.tail - 1
          size := header.size - 1
          counters.enqueued := header.counters.enqueued - 1 } })
  else
    ({ status := .accepted, droppedOldest := dropped,
       notificationSent := needsNotification && notify.isSome, blocked, blockedTimeNs }, stored)

/-- The removal of the oldest handle that both `enqueue` and `tryDequeue` make. -/
def removeOldest (queue : SharedSubscriberQueue) : SharedSubscriberQueue :=
  { queue with header := { queue.header with
      head := (queue.header.head + 1) % queue.header.capacity
      size := queue.header.size - 1 } }

/-- `enqueue` up to its end or to its first wait; `none` means that the caller
waits on `not_full`. A null callback is `notify = none`. -/
def enqueue (queue : SharedSubscriberQueue) (handle : ChunkHandle) (notify : Option Bool) (attempt : LockAttempt) :
    Option QueueEnqueueResult × SharedSubscriberQueue :=
  let (locked, queue) := queue.lock attempt
  if !locked then (some { status := .synchronizationError }, queue)
  else if queue.header.closed then (some { status := .closed }, queue)
  else if queue.header.size = queue.header.capacity then
    match queue.header.overflowPolicy with
    | .dropNewest =>
      (some { status := .droppedNewest },
        queue.count fun counters => { counters with droppedNewest := counters.droppedNewest + 1 })
    | .dropOldest =>
      let dropped := Ring.slot queue.slots queue.header.head
      let removed := queue.removeOldest.count fun counters => { counters with droppedOldest := counters.droppedOldest + 1 }
      let (result, queue) := removed.store handle notify false (some dropped) false 0
      (some result, queue)
    | .blockWithTimeout =>
      (none, queue.count fun counters => { counters with blockedCount := counters.blockedCount + 1 })
  else
    let (result, queue) := queue.store handle notify (queue.header.size == 0) none false 0
    (some result, queue)

/-- The time a waiter was blocked, added when it stops waiting. -/
def addBlockedTime (queue : SharedSubscriberQueue) (elapsedNs : UInt64) : SharedSubscriberQueue :=
  queue.count fun counters => { counters with blockedTimeNs := counters.blockedTimeNs + elapsedNs }

/-- The loop condition of a waiter that holds the mutex again, and what follows
the loop. -/
def afterWait (queue : SharedSubscriberQueue) (handle : ChunkHandle) (notify : Option Bool) (elapsedNs : UInt64) :
    Option QueueEnqueueResult × SharedSubscriberQueue :=
  if queue.header.size = queue.header.capacity ∧ queue.header.closed = false then (none, queue)
  else
    let queue := queue.addBlockedTime elapsedNs
    if queue.header.closed then (some { status := .closed, blocked := true, blockedTimeNs := elapsedNs }, queue)
    else
      let (result, queue) := queue.store handle notify (queue.header.size == 0) none true elapsedNs
      (some result, queue)

/-- One return of `pthread_cond_timedwait`. The mutex is taken again first, and
an error of that lock is what the wait returns. -/
def resumeEnqueue (queue : SharedSubscriberQueue) (handle : ChunkHandle) (notify : Option Bool) (wait : WaitResult)
    (consistent : Bool) (elapsedNs : UInt64) : Option QueueEnqueueResult × SharedSubscriberQueue :=
  let unsynchronized : QueueEnqueueResult := { blocked := true, blockedTimeNs := elapsedNs }
  match queue.header.mutex with
  | .notRecoverable => (some unsynchronized, queue.addBlockedTime elapsedNs)
  | .ownerDead =>
    let (recovered, header) := makeMutexConsistentAfterOwnerDeath queue.header consistent
    let queue := { queue with header }
    if !recovered then (some unsynchronized, queue.addBlockedTime elapsedNs)
    else queue.afterWait handle notify elapsedNs
  | .consistent =>
    match wait with
    | .timedOut =>
      (some { status := .timedOut, blocked := true, blockedTimeNs := elapsedNs },
        (queue.addBlockedTime elapsedNs).count fun counters => { counters with blockTimeouts := counters.blockTimeouts + 1 })
    | .failed => (some unsynchronized, queue.addBlockedTime elapsedNs)
    | .signaled => queue.afterWait handle notify elapsedNs

def tryDequeue (queue : SharedSubscriberQueue) (attempt : LockAttempt) : Option ChunkHandle × SharedSubscriberQueue :=
  let (locked, queue) := queue.lock attempt
  if !locked ∨ queue.header.size = 0 then (none, queue)
  else
    (some (Ring.slot queue.slots queue.header.head),
      queue.removeOldest.count fun counters => { counters with dequeued := counters.dequeued + 1 })

def peek (queue : SharedSubscriberQueue) (attempt : LockAttempt) : Option ChunkHandle × SharedSubscriberQueue :=
  let (locked, queue) := queue.lock attempt
  if !locked ∨ queue.header.size = 0 then (none, queue)
  else (some (Ring.slot queue.slots queue.header.head), queue)

/-- The loop of `drain` and `closeAndDrain`. -/
def takeAll (queue : SharedSubscriberQueue) : List ChunkHandle × SharedSubscriberQueue :=
  let (handles, head) := Ring.drain queue.slots queue.header.capacity queue.header.size queue.header.head
  (handles, { queue with header := { queue.header with head, size := 0, tail := head } })

def drain (queue : SharedSubscriberQueue) (attempt : LockAttempt) :
    Except Exception (List ChunkHandle) × SharedSubscriberQueue :=
  let (locked, queue) := queue.lock attempt
  if !locked then (.error (.middleware .sharedMemoryError "subscriber queue mutex could not be locked"), queue)
  else
    let (handles, queue) := queue.takeAll
    (.ok handles, queue)

def closeAndDrain (queue : SharedSubscriberQueue) (attempt : LockAttempt) :
    Except Exception (List ChunkHandle) × SharedSubscriberQueue :=
  let (locked, queue) := queue.lock attempt
  if !locked then (.error (.middleware .sharedMemoryError "subscriber queue mutex could not be locked"), queue)
  else
    let (handles, queue) := takeAll { queue with header.closed := true }
    (.ok handles, queue)

/-- The loop of `discardPool`, and the indices that it leaves. -/
def keepOnly (queue : SharedSubscriberQueue) (keep : ChunkHandle → Bool) : SharedSubscriberQueue :=
  let (slots, kept) := Ring.compact keep queue.header.capacity queue.header.head queue.header.size 0 0 queue.slots
  { slots, header := { queue.header with tail := (queue.header.head + kept) % queue.header.capacity, size := kept } }

def discardPool (queue : SharedSubscriberQueue) (poolId : UInt64) (attempt : LockAttempt) : SharedSubscriberQueue :=
  let (locked, queue) := queue.lock attempt
  if !locked then queue
  else
    (queue.keepOnly fun handle => poolId != 0 && handle.poolId != poolId).count
      fun counters => { counters with peerResets := counters.peerResets + 1 }

/-- `close` of an attached queue object. -/
def close (queue : SharedSubscriberQueue) (attempt : LockAttempt) : SharedSubscriberQueue :=
  let (locked, queue) := queue.lock attempt
  if !locked then queue else { queue with header.closed := true }

/-- `detach` of an attached queue object. The last one also destroys the mutex
and the condition, after which no object refers to them. -/
def detach (queue : SharedSubscriberQueue) (attempt : LockAttempt) : SharedSubscriberQueue :=
  let (locked, queue) := queue.lock attempt
  if !locked ∨ queue.header.attachmentCount = 0 then queue
  else { queue with header.attachmentCount := queue.header.attachmentCount - 1 }

/-- The registry's cleanup of a dead subscriber's queue, with a try-lock. -/
def recoverAndClose (queue : SharedSubscriberQueue) (descriptor : QueueDescriptor) (region : RegionOutcome)
    (attempt : LockAttempt) : ErrorCode × SharedSubscriberQueue :=
  match validateDescriptor descriptor with
  | .error _ => (.invalidSharedMemory, queue)
  | .ok _ =>
    match region with
    | .notFound => (.ok, queue)
    | .systemError => (.sharedMemoryError, queue)
    | .opened =>
      if !immutableHeaderMatches queue.header descriptor then (.invalidSharedMemory, queue)
      else
        let (locked, queue) := queue.lock attempt
        if !locked then (.sharedMemoryError, queue)
        else
          (.ok, count { queue with header := { queue.header with head := 0, tail := 0, size := 0, closed := true } }
            fun counters => { counters with peerResets := counters.peerResets + 1 })

def stats (queue : SharedSubscriberQueue) (attempt : LockAttempt) : QueueStats × SharedSubscriberQueue :=
  let (locked, queue) := queue.lock attempt
  if !locked then ({}, queue)
  else ({ counters := queue.header.counters, currentSize := queue.header.size, maxSize := queue.header.maxSize }, queue)

/-- A process dies while it holds the mutex: the indices, the counters and the
slots are whatever its last stores made them. -/
def ownerDeath (queue : SharedSubscriberQueue) (head tail size maxSize : Nat) (counters : QueueCounters) (closes : Bool)
    (stores : List (Nat × ChunkHandle)) : SharedSubscriberQueue :=
  { header := { queue.header with
      head, tail, size, maxSize, counters, closed := queue.header.closed || closes, mutex := .ownerDead }
    slots := stores.foldl (fun slots (index, handle) => slots.set index handle) queue.slots }

end SharedSubscriberQueue

/-- One event in the life of a queue, with the arguments of the call and the
answers of the system. `resumeEnqueue` stands for every return of a wait,
whoever waits and for whatever handle. -/
inductive QueueOperation where
  | enqueue (handle : ChunkHandle) (notify : Option Bool) (attempt : LockAttempt)
  | resumeEnqueue (handle : ChunkHandle) (notify : Option Bool) (wait : WaitResult) (consistent : Bool) (elapsedNs : UInt64)
  | tryDequeue (attempt : LockAttempt)
  | peek (attempt : LockAttempt)
  | drain (attempt : LockAttempt)
  | closeAndDrain (attempt : LockAttempt)
  | discardPool (poolId : UInt64) (attempt : LockAttempt)
  | close (attempt : LockAttempt)
  | recoverAndClose (descriptor : QueueDescriptor) (region : RegionOutcome) (attempt : LockAttempt)
  | ownerDeath (head tail size maxSize : Nat) (counters : QueueCounters) (closes : Bool) (stores : List (Nat × ChunkHandle))

/-- What the caller of an operation sees. -/
inductive QueueOutput where
  | enqueued (result : Option QueueEnqueueResult)
  | taken (handle : Option ChunkHandle)
  | drained (handles : Except Exception (List ChunkHandle))
  | code (error : ErrorCode)
  | none
  deriving DecidableEq

namespace SharedSubscriberQueue

def perform (queue : SharedSubscriberQueue) : QueueOperation → QueueOutput × SharedSubscriberQueue
  | .enqueue handle notify attempt =>
    let (result, queue) := queue.enqueue handle notify attempt; (.enqueued result, queue)
  | .resumeEnqueue handle notify wait consistent elapsedNs =>
    let (result, queue) := queue.resumeEnqueue handle notify wait consistent elapsedNs; (.enqueued result, queue)
  | .tryDequeue attempt => let (handle, queue) := queue.tryDequeue attempt; (.taken handle, queue)
  | .peek attempt => let (handle, queue) := queue.peek attempt; (.taken handle, queue)
  | .drain attempt => let (handles, queue) := queue.drain attempt; (.drained handles, queue)
  | .closeAndDrain attempt => let (handles, queue) := queue.closeAndDrain attempt; (.drained handles, queue)
  | .discardPool poolId attempt => (.none, queue.discardPool poolId attempt)
  | .close attempt => (.none, queue.close attempt)
  | .recoverAndClose descriptor region attempt =>
    let (error, queue) := queue.recoverAndClose descriptor region attempt; (.code error, queue)
  | .ownerDeath head tail size maxSize counters closes stores =>
    (.none, queue.ownerDeath head tail size maxSize counters closes stores)

/-- The outputs of a sequence of operations and the queue after it. -/
def performAll (queue : SharedSubscriberQueue) : List QueueOperation → List QueueOutput × SharedSubscriberQueue
  | [] => ([], queue)
  | operation :: rest =>
    let (output, next) := queue.perform operation
    let (outputs, last) := next.performAll rest
    (output :: outputs, last)

end SharedSubscriberQueue
end RobotMiddleware
