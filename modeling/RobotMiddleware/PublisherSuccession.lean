import RobotMiddleware.Subscriber
import RobotMiddleware.SubscriberQueue

/-! One subscriber and the publishers that its topic has one after another. A
publisher may be killed at any moment, also inside an enqueue, or leave in order;
the registry admits the next one when it has removed the last. The calls of the
subscriber are cut into single steps, so that everything else can come between
any two of them. -/

namespace RobotMiddleware

inductive PublisherStatus where
  | live | leaving | left | killed
  deriving DecidableEq, Repr

/-- A publisher as far as this subscriber is concerned. On shared memory
`linked` says that it has tried to connect: a lost connection leaves a tombstone,
so it does not try again. `connected` says that the connection is in its list and
has not failed in this dispatch, `waiting` is the handle of an enqueue that waits
for room, `unsent` what `publishUds` has still to write. -/
structure PublisherRecord where
  descriptor : PoolDescriptor
  status : PublisherStatus := .live
  linked : Bool := false
  connected : Bool := false
  waiting : Option ChunkHandle := none
  unsent : Bytes := []
  deriving DecidableEq, Repr

/-- A PublisherDead event: the publisher that it is about, which the subscriber
does not look at, and the pool id that it carries. -/
structure PublisherDeath where
  publisher : Nat
  resourceId : UInt64
  deriving DecidableEq, Repr

/-- Where the subscriber is in a call. In `deaths` the first event is the next to
be processed, `deathDiscarded` and `lostDiscarded` are inside
`resetPublisherState`. -/
inductive TakePhase where
  | unsubscribed
  | idle
  | deaths (events : List PublisherDeath)
  | deathDiscarded (event : PublisherDeath) (rest : List PublisherDeath)
  | draining
  | peeking
  | dequeuing
  | listening
  | accepting
  | polling
  | receiving
  | lost
  | lostDiscarded
  deriving DecidableEq, Repr

inductive PollOutcome where
  | ready | timeout | interrupted | failed
  deriving DecidableEq, Repr

/-- The steps of the subscriber with the answers of the system. -/
inductive SubscriberMove where
  | subscribe
  | call (delivered : Nat)
  | processDeath (attempt : LockAttempt)
  | reset
  | peek (attempt : LockAttempt)
  | dequeue (attempt : LockAttempt) (pool : MemoryPool)
  | poll (outcome : PollOutcome)
  | accept (found : Bool)
  | recv (outcome : RecvOutcome) (segment : SegmentOutcome)

/-- What a publisher that dies inside an enqueue leaves behind. -/
structure TornEnqueue where
  head : Nat
  tail : Nat
  size : Nat
  maxSize : Nat
  counters : QueueCounters
  stores : List (Nat × ChunkHandle)
  sent : Nat

/-- The steps of the publishers and of the registry. A Wake is written in one step
with the ring, under the mutex; `sent` is how many bytes of it got out. A message
on a Unix domain socket is written piece by piece, and its connection is dropped
when that fails. -/
inductive PublisherMove where
  | advertise (descriptor : PoolDescriptor)
  | connect (publisher : Nat) (attempt : LockAttempt)
  | enqueue (publisher : Nat) (handle : ChunkHandle) (sent : Nat) (attempt : LockAttempt)
  | resumeEnqueue (publisher sent : Nat) (wait : WaitResult) (consistent : Bool) (elapsedNs : UInt64)
  | publishUds (publisher : Nat) (data : Bytes) (sequence timestampNs : UInt64)
  | sendUds (publisher count : Nat)
  | dropConnection (publisher : Nat)
  | kill (publisher : Nat) (torn : Option TornEnqueue)
  | destroy (publisher : Nat) (attempt : LockAttempt)
  | unadvertise (publisher : Nat)
  | cleanupDeadNode (publisher : Nat)

inductive SuccessionEvent where
  | subscriber (move : SubscriberMove)
  | publisher (move : PublisherMove)

structure Succession where
  subscriber : Subscriber
  queueDescriptor : QueueDescriptor
  queue : SharedSubscriberQueue
  phase : TakePhase := .unsubscribed
  backlog : List DataSocket := []
  publishers : List PublisherRecord := []
  registered : Option Nat := none
  peerEvents : List PublisherDeath := []

namespace Succession

/-- The subscriber before it subscribes; its queue is created already. -/
def start (transport : TransportType) (maxMessageSize topicId : UInt64) (queueDescriptor : QueueDescriptor)
    (queue : SharedSubscriberQueue) : Succession :=
  { subscriber := { transport, maxMessageSize, topicId, queueId := queueDescriptor.queueId }, queueDescriptor, queue }

def stop (state : Succession) (error : ErrorCode) : Succession :=
  { state with subscriber.lastError := error, phase := .idle }

/-- The polls that follow a `tryTakeQueued` without a view. -/
def await (state : Succession) : Succession :=
  { state with phase := if state.subscriber.connection.isSome then .polling else .listening }

def repeatLoop (state : Succession) : Succession :=
  match state.subscriber.transport with
  | .sharedMemory => { state with phase := .peeking }
  | .unixDomainSocket => state.await

/-- After a `tryTakeQueued` without a view. -/
def afterTake (state : Succession) : Succession :=
  if state.subscriber.lastError ≠ .ok ∧ state.subscriber.lastError ≠ .timeout then { state with phase := .idle }
  else state.await

/-- What a call does with an error of `receiveWakeAvailable`. -/
def failWake (state : Succession) (error : ErrorCode) : Succession :=
  if error = .connectionLost then { state with subscriber.lastError := error, phase := .lost }
  else stop { state with subscriber := state.subscriber.resetConnection } error

/-- `discardPool`, which only a subscriber with a queue calls. -/
def discardPool (state : Succession) (poolId : UInt64) (attempt : LockAttempt) : Succession :=
  match state.subscriber.transport with
  | .sharedMemory => { state with queue := state.queue.discardPool poolId attempt }
  | .unixDomainSocket => state

/-- One return of `receiveWakeAvailable` inside the drain before the loop. -/
def drained (state : Succession) : Option ErrorCode → Succession
  | none => state
  | some .ok => state
  | some .timeout => { state with phase := .peeking }
  | some error => state.failWake error

/-- One return of `receiveWakeAvailable` inside the loop. -/
def received (state : Succession) : Option ErrorCode → Succession
  | none => state
  | some .ok => { state with subscriber.lastError := .ok, phase := .peeking }
  | some .timeout => { state with phase := .peeking }
  | some error => state.failWake error

/-- One return of `receiveUdsAvailable`. -/
def receivedUds (state : Succession) : Option UdsReceiveStatus → Succession
  | none => state
  | some .needMore => state.await
  | some (.messageReady _) => state.stop .ok
  | some status => stop { state with subscriber := state.subscriber.resetConnection } (Subscriber.udsError status)

def recv (state : Succession) (socket : DataSocket) (outcome : RecvOutcome) (segment : SegmentOutcome) :
    Option Succession :=
  if !socket.allows state.subscriber.wanted outcome then none
  else
    match state.phase, state.subscriber.transport with
    | .draining, _ =>
      let (error, subscriber) := state.subscriber.receiveWake socket outcome segment
      some (drained { state with subscriber } error)
    | .receiving, .sharedMemory =>
      let (error, subscriber) := state.subscriber.receiveWake socket outcome segment
      some (received { state with subscriber } error)
    | .receiving, .unixDomainSocket =>
      let (status, subscriber) := state.subscriber.receiveUds socket outcome
      some (receivedUds { state with subscriber } status)
    | _, _ => none

def enterLoop (state : Succession) : Succession :=
  match state.subscriber.transport with
  | .unixDomainSocket => state.await
  | .sharedMemory =>
    { state with
      subscriber.lastError := .ok
      phase := if state.subscriber.connection.isSome ∧ state.subscriber.poolView.isSome then .draining else .peeking }

/-- `poll` on the listener or on the data connection. -/
def poll (state : Succession) (outcome : PollOutcome) : Option Succession :=
  match state.phase, outcome with
  | .listening, .ready => if state.backlog = [] then none else some { state with phase := .accepting }
  | .listening, .timeout => if state.backlog = [] then some (state.stop .timeout) else none
  | .listening, .failed => some (state.stop .ioError)
  | .listening, .interrupted => some state.repeatLoop
  | .polling, .ready =>
    match state.subscriber.connection with
    | some socket => if socket.pending = [] ∧ !socket.closed then none else some { state with phase := .receiving }
    | none => none
  | .polling, .timeout =>
    match state.subscriber.connection with
    | some socket => if socket.pending = [] ∧ !socket.closed then some (state.stop .timeout) else none
    | none => none
  | .polling, .failed => some (stop { state with subscriber := state.subscriber.resetConnection } .ioError)
  | .polling, .interrupted => some state.repeatLoop
  | _, _ => none

/-- The first half of `tryTakeQueued`. -/
def peek (state : Succession) (attempt : LockAttempt) : Succession :=
  match state.subscriber.poolView, state.subscriber.connection with
  | some view, some _ =>
    let (next, queue) := state.queue.peek attempt
    let state := { state with queue }
    match next with
    | none => state.afterTake
    | some handle => if handle.poolId ≠ view.poolId then state.afterTake else { state with phase := .dequeuing }
  | _, _ => state.afterTake

/-- The second half. The view or the Release goes to the caller and to the
publisher, which this model does not follow. -/
def dequeue (state : Succession) (attempt : LockAttempt) (pool : MemoryPool) : Succession :=
  let (taken, queue) := state.queue.tryDequeue attempt
  let state := { state with queue }
  match taken with
  | none => state.afterTake
  | some handle =>
    match (MemoryPoolView.read pool handle state.subscriber.maxMessageSize).error with
    | .ok => state.stop .ok
    | error => afterTake { state with subscriber.lastError := error }

def moveSubscriber (state : Succession) : SubscriberMove → Option Succession
  | .subscribe =>
    if state.phase ≠ .unsubscribed then none
    else
      let discovered := ((state.registered.bind (state.publishers[·]?)).map (·.descriptor)).getD {}
      some { state with
        subscriber.discoveredPool := { discovered with topicId := state.subscriber.topicId }, phase := .idle }
  | .call delivered =>
    if state.phase ≠ .idle then none
    else
      some { state with
        phase := .deaths (state.peerEvents.take delivered), peerEvents := state.peerEvents.drop delivered }
  | .processDeath attempt =>
    match state.phase with
    | .deaths [] => some state.enterLoop
    | .deaths (event :: rest) =>
      some { state.discardPool event.resourceId attempt with phase := .deathDiscarded event rest }
    | .lost => some { state.discardPool state.subscriber.discoveredPool.poolId attempt with phase := .lostDiscarded }
    | _ => none
  | .reset =>
    match state.phase with
    | .deathDiscarded event rest =>
      some { state with subscriber := state.subscriber.resetPublisher event.resourceId, phase := .deaths rest }
    | .lostDiscarded =>
      some { state with
        subscriber := state.subscriber.resetPublisher state.subscriber.discoveredPool.poolId, phase := .idle }
    | _ => none
  | .peek attempt => if state.phase = .peeking then some (state.peek attempt) else none
  | .dequeue attempt pool => if state.phase = .dequeuing then some (state.dequeue attempt pool) else none
  | .poll outcome => state.poll outcome
  | .accept found =>
    if state.phase ≠ .accepting then none
    else
      match found, state.backlog with
      | true, socket :: backlog =>
        some { state with subscriber := state.subscriber.acceptConnection socket, backlog, phase := .polling }
      | true, [] => none
      | false, _ => some state.repeatLoop
  | .recv outcome segment =>
    match state.subscriber.connection with
    | some socket => state.recv socket outcome segment
    | none => none

/-- Change every socket of a publisher, wherever it is. -/
def mapSockets (state : Succession) (publisher : Nat) (change : DataSocket → DataSocket) : Succession :=
  let update := fun socket : DataSocket => if socket.publisher = publisher then change socket else socket
  { state with
    subscriber.connection := state.subscriber.connection.map update
    backlog := state.backlog.map update }

/-- Bytes that the publisher writes arrive on its open socket. -/
def write (state : Succession) (publisher : Nat) (bytes : Bytes) : Succession :=
  state.mapSockets publisher fun socket =>
    if socket.closed then socket else { socket with pending := socket.pending ++ bytes }

def closeSockets (state : Succession) (publisher : Nat) : Succession :=
  state.mapSockets publisher fun socket => { socket with closed := true }

def setPublisher (state : Succession) (publisher : Nat) (record : PublisherRecord) : Succession :=
  { state with publishers := state.publishers.set publisher record }

def wake (state : Succession) (record : PublisherRecord) : Option Bytes :=
  encodeQueueWake ⟨record.descriptor, state.queueDescriptor.queueId⟩

/-- The registry admits the publisher, and its pool id is new. Pool ids hold the
process id and a counter, and no two publishers here are given the same. -/
def admits (state : Succession) (descriptor : PoolDescriptor) : Bool :=
  match state.subscriber.transport with
  | .unixDomainSocket => descriptor == {}
  | .sharedMemory =>
    isValidSharedMemoryName descriptor.shmName && descriptor.poolId != 0 && kPoolHeaderSize ≤ descriptor.segmentSize &&
      descriptor.layoutVersion == kPoolLayoutVersion && descriptor.topicId == state.subscriber.topicId &&
      state.publishers.all fun record => record.descriptor.poolId != descriptor.poolId

/-- Go on after a call of `enqueue` or the return of a wait in it. The connection
of a queue that is closed or that could not be notified is not used again. -/
def afterEnqueue (state : Succession) (publisher : Nat) (record : PublisherRecord) (handle : ChunkHandle) (frame : Bytes)
    (sent : Nat) (answer : Option QueueEnqueueResult × SharedSubscriberQueue) : Succession :=
  match answer with
  | (none, queue) => setPublisher { state with queue } publisher { record with waiting := some handle }
  | (some result, queue) =>
    let written := if result.notificationSent then frame
      else if result.status = .notificationFailed then frame.take sent else []
    let failed := result.status == .closed || result.status == .notificationFailed
    write (setPublisher { state with queue } publisher
      { record with waiting := none, connected := record.connected && !failed }) publisher written

def movePublisher (state : Succession) : PublisherMove → Option Succession
  | .advertise descriptor =>
    if state.registered = none ∧ state.admits descriptor then
      some { state with publishers := state.publishers ++ [{ descriptor }], registered := some state.publishers.length }
    else none
  | .connect publisher attempt =>
    match state.publishers[publisher]?, state.subscriber.transport with
    | some record, .sharedMemory =>
      if record.status ≠ .live ∨ record.linked ∨ state.registered ≠ some publisher ∨ state.phase = .unsubscribed then none
      else
        let (opened, queue) := state.queue.openQueue state.queueDescriptor attempt
        some (setPublisher { state with queue, backlog := state.backlog ++ [{ publisher, closed := !opened.isOk }] }
          publisher { record with linked := true, connected := opened.isOk })
    | some record, .unixDomainSocket =>
      if record.status ≠ .live ∨ record.connected ∨ state.registered ≠ some publisher ∨ state.phase = .unsubscribed then none
      else
        some (setPublisher { state with backlog := state.backlog ++ [{ publisher }] }
          publisher { record with linked := true, connected := true })
    | none, _ => none
  | .enqueue publisher handle sent attempt =>
    match state.publishers[publisher]? with
    | none => none
    | some record =>
      if record.status ≠ .live ∨ !record.connected ∨ record.waiting ≠ none ∨
          handle.poolId ≠ record.descriptor.poolId ∨ state.subscriber.transport ≠ .sharedMemory then none
      else
        (state.wake record).map fun frame =>
          state.afterEnqueue publisher record handle frame sent
            (state.queue.enqueue handle (some (decide (frame.length ≤ sent))) attempt)
  | .resumeEnqueue publisher sent wait consistent elapsedNs =>
    match state.publishers[publisher]? with
    | none => none
    | some record =>
      match record.status, record.waiting with
      | .live, some handle =>
        (state.wake record).map fun frame =>
          state.afterEnqueue publisher record handle frame sent
            (state.queue.resumeEnqueue handle (some (decide (frame.length ≤ sent))) wait consistent elapsedNs)
      | _, _ => none
  | .publishUds publisher data sequence timestampNs =>
    match state.publishers[publisher]? with
    | none => none
    | some record =>
      if record.status ≠ .live ∨ !record.connected ∨ record.unsent ≠ [] ∨
          state.subscriber.transport ≠ .unixDomainSocket then none
      else
        let header := encodeFrameHeader { payloadSize := data.length.toUInt32, sequence, timestampNs }
        some (state.setPublisher publisher { record with unsent := header ++ data })
  | .sendUds publisher count =>
    match state.publishers[publisher]? with
    | none => none
    | some record =>
      if record.status ≠ .live ∨ count = 0 ∨ record.unsent.length < count ∨
          state.subscriber.transport ≠ .unixDomainSocket then none
      else
        some (write (state.setPublisher publisher { record with unsent := record.unsent.drop count }) publisher
          (record.unsent.take count))
  | .dropConnection publisher =>
    match state.publishers[publisher]? with
    | none => none
    | some record =>
      if record.status ≠ .live ∧ record.status ≠ .leaving ∨ record.waiting ≠ none then none
      else some ((state.setPublisher publisher { record with connected := false, unsent := [] }).closeSockets publisher)
  | .kill publisher torn =>
    match state.publishers[publisher]? with
    | none => none
    | some record =>
      if record.status ≠ .live ∧ record.status ≠ .leaving then none
      else
        let killed := { record with status := .killed, connected := false, waiting := none, unsent := [] }
        match torn with
        | none => some ((state.setPublisher publisher killed).closeSockets publisher)
        | some torn =>
          if record.status ≠ .live ∨ !record.connected ∨ state.subscriber.transport ≠ .sharedMemory then none
          else
            (state.wake record).map fun frame =>
              closeSockets (write { state.setPublisher publisher killed with
                queue := state.queue.ownerDeath torn.head torn.tail torn.size torn.maxSize torn.counters false torn.stores }
                publisher (frame.take torn.sent)) publisher
  | .destroy publisher attempt =>
    match state.publishers[publisher]? with
    | none => none
    | some record =>
      if record.status ≠ .live ∨ record.waiting ≠ none ∨ record.unsent ≠ [] then none
      else
        let queue := if record.connected ∧ state.subscriber.transport = .sharedMemory then (state.queue.drain attempt).2
          else state.queue
        some (setPublisher { state with queue } publisher { record with status := .leaving })
  | .unadvertise publisher =>
    match state.publishers[publisher]? with
    | none => none
    | some record =>
      -- the connections are closed by then
      if record.status ≠ .leaving ∨ state.registered ≠ some publisher then none
      else
        let left := { record with status := .left, connected := false, waiting := none }
        some { closeSockets (state.setPublisher publisher left) publisher with registered := none }
  | .cleanupDeadNode publisher =>
    match state.publishers[publisher]? with
    | none => none
    | some record =>
      if record.status ≠ .killed ∨ state.registered ≠ some publisher then none
      else
        some { state with
          registered := none
          peerEvents := if state.phase = .unsubscribed then state.peerEvents
            else state.peerEvents ++ [⟨publisher, record.descriptor.poolId⟩] }

def step (state : Succession) : SuccessionEvent → Option Succession
  | .subscriber move => state.moveSubscriber move
  | .publisher move => state.movePublisher move

end Succession
end RobotMiddleware
