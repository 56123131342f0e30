import RobotMiddleware.SubscriberQueue

/-! What a subscriber queue is for: a bounded list of handles with an overflow
policy. It answers the same calls as the ring, and is what the ring is compared
with. -/

namespace RobotMiddleware

/-- `items` means nothing while the owner of the mutex is dead: whoever takes
the mutex next starts from an empty list. -/
structure BoundedFifo where
  descriptor : QueueDescriptor
  items : List ChunkHandle := []
  closed : Bool := false
  mutex : MutexState := .consistent

namespace BoundedFifo

def capacity (fifo : BoundedFifo) : Nat := fifo.descriptor.capacity.toNat

def lock (fifo : BoundedFifo) (attempt : LockAttempt) : Bool × BoundedFifo :=
  match fifo.mutex with
  | .consistent => (!attempt.refused, fifo)
  | .notRecoverable => (false, fifo)
  | .ownerDead =>
    (attempt.consistent,
      { fifo with items := [], mutex := if attempt.consistent then .consistent else .notRecoverable })

/-- Append, unless a notification was needed and failed. -/
def append (fifo : BoundedFifo) (handle : ChunkHandle) (notify : Option Bool) (needsNotification : Bool)
    (dropped : Option ChunkHandle) (blocked : Bool) (blockedTimeNs : UInt64) : QueueEnqueueResult × BoundedFifo :=
  if needsNotification ∧ notify = some false then ({ status := .notificationFailed, blocked, blockedTimeNs }, fifo)
  else
    ({ status := .accepted, droppedOldest := dropped,
       notificationSent := needsNotification && notify.isSome, blocked, blockedTimeNs },
      { fifo with items := fifo.items ++ [handle] })

def enqueue (fifo : BoundedFifo) (handle : ChunkHandle) (notify : Option Bool) (attempt : LockAttempt) :
    Option QueueEnqueueResult × BoundedFifo :=
  let (locked, fifo) := fifo.lock attempt
  if !locked then (some { status := .synchronizationError }, fifo)
  else if fifo.closed then (some { status := .closed }, fifo)
  else if fifo.items.length = fifo.capacity then
    match fifo.descriptor.overflowPolicy with
    | .dropNewest => (some { status := .droppedNewest }, fifo)
    | .dropOldest =>
      let (result, fifo) := append { fifo with items := fifo.items.tail } handle notify false fifo.items.head? false 0
      (some result, fifo)
    | .blockWithTimeout => (none, fifo)
  else
    let (result, fifo) := fifo.append handle notify fifo.items.isEmpty none false 0
    (some result, fifo)

def afterWait (fifo : BoundedFifo) (handle : ChunkHandle) (notify : Option Bool) (elapsedNs : UInt64) :
    Option QueueEnqueueResult × BoundedFifo :=
  if fifo.items.length = fifo.capacity ∧ fifo.closed = false then (none, fifo)
  else if fifo.closed then (some { status := .closed, blocked := true, blockedTimeNs := elapsedNs }, fifo)
  else
    let (result, fifo) := fifo.append handle notify fifo.items.isEmpty none true elapsedNs
    (some result, fifo)

def resumeEnqueue (fifo : BoundedFifo) (handle : ChunkHandle) (notify : Option Bool) (wait : WaitResult)
    (consistent : Bool) (elapsedNs : UInt64) : Option QueueEnqueueResult × BoundedFifo :=
  match fifo.mutex with
  | .notRecoverable => (some { blocked := true, blockedTimeNs := elapsedNs }, fifo)
  | .ownerDead =>
    if consistent then afterWait { fifo with items := [], mutex := .consistent } handle notify elapsedNs
    else (some { blocked := true, blockedTimeNs := elapsedNs }, { fifo with items := [], mutex := .notRecoverable })
  | .consistent =>
    match wait with
    | .timedOut => (some { status := .timedOut, blocked := true, blockedTimeNs := elapsedNs }, fifo)
    | .failed => (some { blocked := true, blockedTimeNs := elapsedNs }, fifo)
    | .signaled => fifo.afterWait handle notify elapsedNs

def tryDequeue (fifo : BoundedFifo) (attempt : LockAttempt) : Option ChunkHandle × BoundedFifo :=
  let (locked, fifo) := fifo.lock attempt
  if !locked then (none, fifo) else (fifo.items.head?, { fifo with items := fifo.items.tail })

def peek (fifo : BoundedFifo) (attempt : LockAttempt) : Option ChunkHandle × BoundedFifo :=
  let (locked, fifo) := fifo.lock attempt
  if !locked then (none, fifo) else (fifo.items.head?, fifo)

def drain (fifo : BoundedFifo) (attempt : LockAttempt) : Except Exception (List ChunkHandle) × BoundedFifo :=
  let (locked, fifo) := fifo.lock attempt
  if !locked then (.error (.middleware .sharedMemoryError "subscriber queue mutex could not be locked"), fifo)
  else (.ok fifo.items, { fifo with items := [] })

def closeAndDrain (fifo : BoundedFifo) (attempt : LockAttempt) : Except Exception (List ChunkHandle) × BoundedFifo :=
  let (locked, fifo) := fifo.lock attempt
  if !locked then (.error (.middleware .sharedMemoryError "subscriber queue mutex could not be locked"), fifo)
  else (.ok fifo.items, { fifo with items := [], closed := true })

def discardPool (fifo : BoundedFifo) (poolId : UInt64) (attempt : LockAttempt) : BoundedFifo :=
  let (locked, fifo) := fifo.lock attempt
  if !locked then fifo
  else { fifo with items := if poolId = 0 then [] else fifo.items.filter fun handle => handle.poolId != poolId }

def close (fifo : BoundedFifo) (attempt : LockAttempt) : BoundedFifo :=
  let (locked, fifo) := fifo.lock attempt
  if !locked then fifo else { fifo with closed := true }

def sameQueue (fifo : BoundedFifo) (descriptor : QueueDescriptor) : Bool :=
  fifo.descriptor.segmentSize == descriptor.segmentSize && fifo.descriptor.queueId == descriptor.queueId &&
    fifo.capacity == descriptor.capacity.toNat && fifo.descriptor.overflowPolicy == descriptor.overflowPolicy &&
    fifo.descriptor.blockTimeoutMs == descriptor.blockTimeoutMs

def recoverAndClose (fifo : BoundedFifo) (descriptor : QueueDescriptor) (region : RegionOutcome) (attempt : LockAttempt) :
    ErrorCode × BoundedFifo :=
  match SharedSubscriberQueue.validateDescriptor descriptor, region with
  | .error _, _ => (.invalidSharedMemory, fifo)
  | .ok _, .notFound => (.ok, fifo)
  | .ok _, .systemError => (.sharedMemoryError, fifo)
  | .ok _, .opened =>
    if !fifo.sameQueue descriptor then (.invalidSharedMemory, fifo)
    else
      let (locked, fifo) := fifo.lock attempt
      if !locked then (.sharedMemoryError, fifo) else (.ok, { fifo with items := [], closed := true })

def perform (fifo : BoundedFifo) : QueueOperation → QueueOutput × BoundedFifo
  | .enqueue handle notify attempt =>
    let (result, fifo) := fifo.enqueue handle notify attempt; (.enqueued result, fifo)
  | .resumeEnqueue handle notify wait consistent elapsedNs =>
    let (result, fifo) := fifo.resumeEnqueue handle notify wait consistent elapsedNs; (.enqueued result, fifo)
  | .tryDequeue attempt => let (handle, fifo) := fifo.tryDequeue attempt; (.taken handle, fifo)
  | .peek attempt => let (handle, fifo) := fifo.peek attempt; (.taken handle, fifo)
  | .drain attempt => let (handles, fifo) := fifo.drain attempt; (.drained handles, fifo)
  | .closeAndDrain attempt => let (handles, fifo) := fifo.closeAndDrain attempt; (.drained handles, fifo)
  | .discardPool poolId attempt => (.none, fifo.discardPool poolId attempt)
  | .close attempt => (.none, fifo.close attempt)
  | .recoverAndClose descriptor region attempt =>
    let (error, fifo) := fifo.recoverAndClose descriptor region attempt; (.code error, fifo)
  | .ownerDeath _ _ _ _ _ closes _ => (.none, { fifo with closed := fifo.closed || closes, mutex := .ownerDead })

def performAll (fifo : BoundedFifo) : List QueueOperation → List QueueOutput × BoundedFifo
  | [] => ([], fifo)
  | operation :: rest =>
    let (output, next) := fifo.perform operation
    let (outputs, last) := next.performAll rest
    (output :: outputs, last)

end BoundedFifo
end RobotMiddleware
