import RobotMiddleware.Proofs.SuccessionEffects

/-! What the steps of a shared memory subscriber can do. Most of them only move on
in a call; a connection is accepted, read or dropped, a pool view is installed by
a Wake and given up in a reset. -/

namespace RobotMiddleware.Proofs.SubscriberEffects
open QueueContents Succession SuccessionEffects

/-- The events that a phase still has to process. -/
def phaseDeaths : TakePhase → List PublisherDeath
  | .deaths events => events
  | .deathDiscarded event rest => event :: rest
  | _ => []

def pendingDeaths (state : Succession) : List PublisherDeath := phaseDeaths state.phase ++ state.peerEvents

/-- What no step of the subscriber changes, and what it can only take out. -/
structure Local (before after : Succession) : Prop where
  publishers : after.publishers = before.publishers
  registered : after.registered = before.registered
  queueDescriptor : after.queueDescriptor = before.queueDescriptor
  transport : after.subscriber.transport = before.subscriber.transport
  topicId : after.subscriber.topicId = before.subscriber.topicId
  queueId : after.subscriber.queueId = before.subscriber.queueId
  fewer : Fewer before after
  deaths : pendingDeaths after ⊆ pendingDeaths before
  subscribed : after.phase = .unsubscribed → before.phase = .unsubscribed

def losing (phase : TakePhase) : Prop := phase = .lost ∨ phase = .lostDiscarded

def unconnected (phase : TakePhase) : Prop := phase = .listening ∨ phase = .accepting

structure Unchanged (before after : Succession) : Prop where
  connection : after.subscriber.connection = before.subscriber.connection
  headerBuffer : after.subscriber.headerBuffer = before.subscriber.headerBuffer
  discoveredPool : after.subscriber.discoveredPool = before.subscriber.discoveredPool
  poolView : after.subscriber.poolView = before.subscriber.poolView
  backlog : after.backlog = before.backlog
  idle : unconnected after.phase → unconnected before.phase ∨ after.subscriber.connection = none

/-- Everything that a step of the subscriber can do to its connection and to what
it knows of pools. -/
inductive SubscriberEffect (before after : Succession) : Prop where
  | quiet (same : Unchanged before after) (lost : losing after.phase → losing before.phase)
  | lost (same : Unchanged before after) (socket : DataSocket) (found : before.subscriber.connection = some socket)
      (closed : socket.closed = true)
  | subscribed (same : after = { before with
      subscriber.discoveredPool := { ((before.registered.bind (before.publishers[·]?)).map (·.descriptor)).getD {} with
        topicId := before.subscriber.topicId }
      phase := .idle }) (first : before.phase = .unsubscribed)
  | accepted (socket : DataSocket) (rest : List DataSocket) (waiting : before.backlog = socket :: rest)
      (accepting : before.phase = .accepting)
      (same : after = { before with
        subscriber := before.subscriber.acceptConnection socket, backlog := rest, phase := .polling })
  | buffered (socket : DataSocket) (count : Nat) (found : before.subscriber.connection = some socket)
      (same : after = { before with subscriber := { before.subscriber with
        connection := some { socket with pending := socket.pending.drop count }
        headerBuffer := before.subscriber.headerBuffer ++ socket.pending.take count } })
      (short : after.subscriber.headerBuffer.length < kQueueWakeSize) (quiet : ¬losing before.phase)
      (connected : ¬unconnected before.phase)
  | read (socket : DataSocket) (count : Nat) (segment : SegmentOutcome) (found : before.subscriber.connection = some socket)
      (full : (before.subscriber.headerBuffer ++ socket.pending.take count).length = kQueueWakeSize)
      (accepted : (Subscriber.takeWake { before.subscriber with
        connection := some { socket with pending := socket.pending.drop count }
        headerBuffer := before.subscriber.headerBuffer ++ socket.pending.take count } segment).1 = .ok)
      (error : ErrorCode)
      (subscriber : after.subscriber = { (Subscriber.takeWake { before.subscriber with
        connection := some { socket with pending := socket.pending.drop count }
        headerBuffer := before.subscriber.headerBuffer ++ socket.pending.take count } segment).2 with lastError := error })
      (backlog : after.backlog = before.backlog) (quiet : ¬losing after.phase) (connected : ¬unconnected after.phase)
  | dropped (connection : after.subscriber.connection = none) (headerBuffer : after.subscriber.headerBuffer = [])
      (discoveredPool : after.subscriber.discoveredPool = before.subscriber.discoveredPool)
      (poolView : after.subscriber.poolView = before.subscriber.poolView) (backlog : after.backlog = before.backlog)
      (quiet : ¬losing after.phase)
  | forgot (poolId : UInt64)
      (reason : (∃ event rest, before.phase = .deathDiscarded event rest ∧ poolId = event.resourceId) ∨
        before.phase = .lostDiscarded)
      (resets : ¬(poolId ≠ 0 ∧ before.subscriber.discoveredPool.poolId ≠ 0 ∧
        before.subscriber.discoveredPool.poolId ≠ poolId))
      (connection : after.subscriber.connection = none) (headerBuffer : after.subscriber.headerBuffer = [])
      (discoveredPool : after.subscriber.discoveredPool = {}) (poolView : after.subscriber.poolView = none)
      (backlog : after.backlog = before.backlog) (quiet : ¬losing after.phase)

variable {before after : Succession}

inductive SubscriberSteps (before : Succession) : SubscriberMove → Succession → Prop where
  | subscribed (phase : before.phase = .unsubscribed) : SubscriberSteps before .subscribe { before with
      subscriber.discoveredPool := { ((before.registered.bind (before.publishers[·]?)).map (·.descriptor)).getD {} with
        topicId := before.subscriber.topicId }
      phase := .idle }
  | called (delivered : Nat) (phase : before.phase = .idle) : SubscriberSteps before (.call delivered) { before with
      phase := .deaths (before.peerEvents.take delivered), peerEvents := before.peerEvents.drop delivered }
  | entered (attempt : LockAttempt) (phase : before.phase = .deaths []) :
      SubscriberSteps before (.processDeath attempt) before.enterLoop
  | discarded (attempt : LockAttempt) {event : PublisherDeath} {rest : List PublisherDeath}
      (phase : before.phase = .deaths (event :: rest)) : SubscriberSteps before (.processDeath attempt)
        { before.discardPool event.resourceId attempt with phase := .deathDiscarded event rest }
  | lostDiscarded (attempt : LockAttempt) (phase : before.phase = .lost) : SubscriberSteps before (.processDeath attempt)
      { before.discardPool before.subscriber.discoveredPool.poolId attempt with phase := .lostDiscarded }
  | reset {event : PublisherDeath} {rest : List PublisherDeath} (phase : before.phase = .deathDiscarded event rest) :
      SubscriberSteps before .reset { before with
        subscriber := before.subscriber.resetPublisher event.resourceId, phase := .deaths rest }
  | lostReset (phase : before.phase = .lostDiscarded) : SubscriberSteps before .reset { before with
      subscriber := before.subscriber.resetPublisher before.subscriber.discoveredPool.poolId, phase := .idle }
  | peeked (attempt : LockAttempt) (phase : before.phase = .peeking) :
      SubscriberSteps before (.peek attempt) (before.peek attempt)
  | dequeued (attempt : LockAttempt) (pool : MemoryPool) (phase : before.phase = .dequeuing) :
      SubscriberSteps before (.dequeue attempt pool) (before.dequeue attempt pool)
  | knocked (phase : before.phase = .listening) : SubscriberSteps before (.poll .ready) { before with phase := .accepting }
  | arrived (phase : before.phase = .polling) : SubscriberSteps before (.poll .ready) { before with phase := .receiving }
  | expired : SubscriberSteps before (.poll .timeout) (before.stop .timeout)
  | unheard : SubscriberSteps before (.poll .failed) (before.stop .ioError)
  | broken : SubscriberSteps before (.poll .failed)
      (stop { before with subscriber := before.subscriber.resetConnection } .ioError)
  | interrupted : SubscriberSteps before (.poll .interrupted) before.repeatLoop
  | accepted {socket : DataSocket} {backlog : List DataSocket} (phase : before.phase = .accepting)
      (waiting : before.backlog = socket :: backlog) : SubscriberSteps before (.accept true) { before with
        subscriber := before.subscriber.acceptConnection socket, backlog, phase := .polling }
  | unaccepted (phase : before.phase = .accepting) : SubscriberSteps before (.accept false) before.repeatLoop
  | drained {socket : DataSocket} {outcome : RecvOutcome} (segment : SegmentOutcome) (phase : before.phase = .draining)
      (found : before.subscriber.connection = some socket)
      (allowed : socket.allows before.subscriber.wanted outcome = true) : SubscriberSteps before (.recv outcome segment)
        (drained { before with subscriber := (before.subscriber.receiveWake socket outcome segment).2 }
          (before.subscriber.receiveWake socket outcome segment).1)
  | received {socket : DataSocket} {outcome : RecvOutcome} (segment : SegmentOutcome) (phase : before.phase = .receiving)
      (found : before.subscriber.connection = some socket)
      (allowed : socket.allows before.subscriber.wanted outcome = true) : SubscriberSteps before (.recv outcome segment)
        (received { before with subscriber := (before.subscriber.receiveWake socket outcome segment).2 }
          (before.subscriber.receiveWake socket outcome segment).1)
  | receivedUds {socket : DataSocket} {outcome : RecvOutcome} (segment : SegmentOutcome)
      (phase : before.phase = .receiving) (uds : before.subscriber.transport = .unixDomainSocket) :
      SubscriberSteps before (.recv outcome segment)
        (receivedUds { before with subscriber := (before.subscriber.receiveUds socket outcome).2 }
          (before.subscriber.receiveUds socket outcome).1)

private theorem poll_steps {outcome : PollOutcome} (taken : before.poll outcome = some after) :
    SubscriberSteps before (.poll outcome) after := by
  unfold Succession.poll at taken
  split at taken
  next phase =>
    split at taken <;> cases taken
    exact .knocked phase
  · split at taken <;> cases taken
    exact .expired
  · cases taken
    exact .unheard
  · cases taken
    exact .interrupted
  next phase =>
    split at taken
    · split at taken <;> cases taken
      exact .arrived phase
    · cases taken
  · split at taken
    · split at taken <;> cases taken
      exact .expired
    · cases taken
  · cases taken
    exact .broken
  · cases taken
    exact .interrupted
  · cases taken

variable {socket : DataSocket} {segment : SegmentOutcome} {move : SubscriberMove} {phase : TakePhase}
  {subscriber : Subscriber} {error : ErrorCode} {queue : SharedSubscriberQueue}

private theorem recv_steps {outcome : RecvOutcome}
    (found : before.subscriber.connection = some socket) (taken : before.recv socket outcome segment = some after) :
    SubscriberSteps before (.recv outcome segment) after := by
  unfold Succession.recv at taken
  split at taken
  · cases taken
  next allowed =>
    have allowed : socket.allows before.subscriber.wanted outcome = true := by simpa using allowed
    split at taken <;> cases taken
    · exact .drained segment ‹_› found allowed
    · exact .received segment ‹_› found allowed
    · exact .receivedUds segment ‹_› ‹_›

theorem moveSubscriber_steps (taken : before.moveSubscriber move = some after) : SubscriberSteps before move after := by
  cases move with
  | subscribe =>
    simp only [moveSubscriber, ne_eq, ite_not, Option.ite_none_right_eq_some, Option.some.injEq] at taken
    obtain ⟨phase, rfl⟩ := taken
    exact .subscribed phase
  | call delivered =>
    simp only [moveSubscriber, ne_eq, ite_not, Option.ite_none_right_eq_some, Option.some.injEq] at taken
    obtain ⟨phase, rfl⟩ := taken
    exact .called delivered phase
  | processDeath attempt =>
    simp only [moveSubscriber] at taken
    split at taken <;> cases taken
    · exact .entered attempt ‹_›
    · exact .discarded attempt ‹_›
    · exact .lostDiscarded attempt ‹_›
  | reset =>
    simp only [moveSubscriber] at taken
    split at taken <;> cases taken
    · exact .reset ‹_›
    · exact .lostReset ‹_›
  | peek attempt =>
    simp only [moveSubscriber, Option.ite_none_right_eq_some, Option.some.injEq] at taken
    obtain ⟨phase, rfl⟩ := taken
    exact .peeked attempt phase
  | dequeue attempt pool =>
    simp only [moveSubscriber, Option.ite_none_right_eq_some, Option.some.injEq] at taken
    obtain ⟨phase, rfl⟩ := taken
    exact .dequeued attempt pool phase
  | poll => exact poll_steps taken
  | accept found =>
    simp only [moveSubscriber, ne_eq, ite_not, Option.ite_none_right_eq_some] at taken
    obtain ⟨phase, taken⟩ := taken
    split at taken <;> cases taken
    · exact .accepted phase ‹_›
    · exact .unaccepted phase
  | recv =>
    simp only [moveSubscriber] at taken
    split at taken
    next socket found => exact recv_steps found taken
    · cases taken

/-- A phase of a call outside of a reset and of the second half of `tryTakeQueued`,
and of a wait for a connection only without one. -/
def Settles (state : Succession) (phase : TakePhase) : Prop :=
  phaseDeaths phase = [] ∧ ¬losing phase ∧ phase ≠ .unsubscribed ∧ phase ≠ .dequeuing ∧
    (unconnected phase → state.subscriber.connection = none)

/-- A move within a call: nothing but the last error and the phase changes. -/
def Moves (error : ErrorCode) (before after : Succession) : Prop :=
  ∃ phase, after = { before with subscriber.lastError := error, phase } ∧ Settles before phase

theorem moves_to (state : Succession) (error : ErrorCode)
    (simple : phase = .idle ∨ phase = .peeking ∨ phase = .draining ∨ phase = .polling ∨ phase = .receiving) :
    Moves error state { state with subscriber.lastError := error, phase } := by
  refine ⟨phase, rfl, ?_⟩
  rcases simple with rfl | rfl | rfl | rfl | rfl <;> simp [Settles, phaseDeaths, losing, unconnected]

theorem stop_moves (state : Succession) (error : ErrorCode) : Moves error state (state.stop error) :=
  moves_to state error (.inl rfl)

theorem await_moves (state : Succession) : Moves state.subscriber.lastError state state.await := by
  refine ⟨_, rfl, ?_⟩
  cases connection : state.subscriber.connection with
  | none => simp [Settles, phaseDeaths, losing, unconnected, connection]
  | some => simp [Settles, phaseDeaths, losing, unconnected]

theorem afterTake_moves (state : Succession) : Moves state.subscriber.lastError state state.afterTake := by
  unfold afterTake
  split
  · exact moves_to state _ (.inl rfl)
  · exact await_moves state

theorem repeatLoop_moves (state : Succession) : Moves state.subscriber.lastError state state.repeatLoop := by
  unfold repeatLoop
  split
  · exact moves_to state _ (.inr (.inl rfl))
  · exact await_moves state

theorem enterLoop_moves (state : Succession) : ∃ error, Moves error state state.enterLoop ∧
    (error = state.subscriber.lastError ∨ error = .ok) := by
  unfold enterLoop
  split
  · exact ⟨_, await_moves state, .inl rfl⟩
  · refine ⟨.ok, moves_to state .ok ?_, .inr rfl⟩
    split <;> simp

/-- The first half of `tryTakeQueued` ends the attempt, or it has seen a handle of
the installed pool. -/
theorem peek_cases (state : Succession) (attempt : LockAttempt) :
    ∃ queue, (queue = state.queue ∨ queue = (state.queue.peek attempt).2) ∧
      (Moves state.subscriber.lastError { state with queue } (state.peek attempt) ∨
        ∃ view handle, state.subscriber.poolView = some view ∧ (state.queue.peek attempt).1 = some handle ∧
          handle.poolId = view.poolId ∧ state.peek attempt = { state with queue, phase := .dequeuing }) := by
  unfold Succession.peek
  split
  next view _ installed _ =>
    refine ⟨_, .inr rfl, ?_⟩
    simp only
    split
    · exact .inl (afterTake_moves _)
    next handle seen =>
      split
      · exact .inl (afterTake_moves _)
      next own => exact .inr ⟨view, handle, installed, seen, by simpa using own, rfl⟩
  · exact ⟨_, .inl rfl, .inl (afterTake_moves state)⟩

theorem dequeue_moves (state : Succession) (attempt : LockAttempt) (pool : MemoryPool) :
    ∃ error, Moves error { state with queue := (state.queue.tryDequeue attempt).2 } (state.dequeue attempt pool) ∧
      (error = state.subscriber.lastError ∨ ∃ handle, (state.queue.tryDequeue attempt).1 = some handle ∧
        error = (MemoryPoolView.read pool handle state.subscriber.maxMessageSize).error) := by
  unfold Succession.dequeue
  simp only
  split
  · exact ⟨_, afterTake_moves _, .inl rfl⟩
  next handle taken =>
    split
    next readable => exact ⟨.ok, stop_moves _ _, .inr ⟨handle, taken, readable.symm⟩⟩
    · obtain ⟨phase, moved, settles⟩ := afterTake_moves { state with
        queue := (state.queue.tryDequeue attempt).2
        subscriber.lastError := (MemoryPoolView.read pool handle state.subscriber.maxMessageSize).error }
      exact ⟨_, ⟨phase, moved, settles⟩, .inr ⟨handle, taken, rfl⟩⟩

theorem takeWake_refused
    (refused : (subscriber.takeWake segment).1 ≠ .ok) :
    (subscriber.takeWake segment).1 ≠ .timeout ∧ (subscriber.takeWake segment).1 ≠ .connectionLost ∧
      (subscriber.takeWake segment).2 = subscriber.resetFrame := by
  unfold Subscriber.takeWake at refused ⊢
  simp only at refused ⊢
  split
  · exact ⟨by simp, by simp, rfl⟩
  next wake decoded =>
    simp only [decoded] at refused
    split
    · exact ⟨by simp, by simp, rfl⟩
    next valid =>
      rw [if_neg valid] at refused
      split
      · exact ⟨by simp, by simp, rfl⟩
      next remembered =>
        rw [if_neg remembered] at refused
        split
        next unopened =>
          rw [unopened] at refused
          unfold MemoryPoolView.openPool at refused ⊢
          split
          next opened => simp [opened] at refused
          next error opened =>
            refine ⟨?_, ?_, rfl⟩ <;> simp only <;> split <;> (try split) <;> simp
        next view opened =>
          simp only [opened] at refused
          split
          · exact ⟨by simp, by simp, rfl⟩
          next same => simp [same] at refused

/-- A Wake that the subscriber takes changes its frame and its pools only. -/
theorem takeWake_same (subscriber : Subscriber) (segment : SegmentOutcome) :
    (subscriber.takeWake segment).2.transport = subscriber.transport ∧
      (subscriber.takeWake segment).2.topicId = subscriber.topicId ∧
      (subscriber.takeWake segment).2.queueId = subscriber.queueId := by
  unfold Subscriber.takeWake
  simp only
  split
  · exact ⟨rfl, rfl, rfl⟩
  split
  · exact ⟨rfl, rfl, rfl⟩
  split
  · exact ⟨rfl, rfl, rfl⟩
  split
  · split <;> exact ⟨rfl, rfl, rfl⟩
  · split <;> exact ⟨rfl, rfl, rfl⟩

section Locality

def SameTopic (before after : Subscriber) : Prop :=
  after.transport = before.transport ∧ after.topicId = before.topicId ∧ after.queueId = before.queueId

theorem receiveWake_same (subscriber : Subscriber) (socket : DataSocket) (outcome : RecvOutcome) (segment : SegmentOutcome) :
    SameTopic subscriber (subscriber.receiveWake socket outcome segment).2 := by
  unfold Subscriber.receiveWake
  split
  · simp only
    split
    · exact ⟨rfl, rfl, rfl⟩
    · exact takeWake_same _ segment
  all_goals exact ⟨rfl, rfl, rfl⟩

theorem receiveUds_same (subscriber : Subscriber) (socket : DataSocket) (outcome : RecvOutcome) :
    SameTopic subscriber (subscriber.receiveUds socket outcome).2 := by
  have advances (subscriber : Subscriber) : SameTopic subscriber subscriber.advanceUds.2 := by
    unfold Subscriber.advanceUds
    split
    · exact ⟨rfl, rfl, rfl⟩
    split
    · exact ⟨rfl, rfl, rfl⟩
    simp only
    split
    · exact ⟨rfl, rfl, rfl⟩
    · exact ⟨rfl, rfl, rfl⟩
    · split <;> exact ⟨rfl, rfl, rfl⟩
  unfold Subscriber.receiveUds
  split
  · simp only
    split <;> exact advances _
  all_goals exact ⟨rfl, rfl, rfl⟩

theorem resetPublisher_same (subscriber : Subscriber) (poolId : UInt64) :
    SameTopic subscriber (subscriber.resetPublisher poolId) := by
  unfold Subscriber.resetPublisher
  split <;> exact ⟨rfl, rfl, rfl⟩

/-- A phase with nothing to process, inside of a call or between two calls. -/
def Plain (phase : TakePhase) : Prop := phaseDeaths phase = [] ∧ phase ≠ .unsubscribed ∧ phase ≠ .dequeuing

/-- A step of a call that keeps the queue, the backlog and the events. -/
def Continues (before after : Succession) : Prop :=
  ∃ subscriber phase, after = { before with subscriber, phase } ∧ SameTopic before.subscriber subscriber ∧
    (phase = before.phase ∨ Plain phase)

theorem continues_to (state : Succession) (same : SameTopic state.subscriber subscriber) (plain : Plain phase) :
    Continues state { state with subscriber, phase } := ⟨subscriber, phase, rfl, same, .inr plain⟩

theorem Continues.refl (state : Succession) : Continues state state := ⟨_, _, rfl, ⟨rfl, rfl, rfl⟩, .inl rfl⟩

theorem Moves.continues (moves : Moves error before after) : Continues before after := by
  obtain ⟨phase, rfl, none, _, subscribed, undecided, _⟩ := moves
  exact continues_to before ⟨rfl, rfl, rfl⟩ ⟨none, subscribed, undecided⟩

theorem failWake_continues (state : Succession) (error : ErrorCode) : Continues state (state.failWake error) := by
  unfold failWake
  split <;> exact continues_to state ⟨rfl, rfl, rfl⟩ (by simp [Plain, phaseDeaths])

theorem drained_continues (state : Succession) (error : Option ErrorCode) : Continues state (state.drained error) := by
  unfold drained
  split
  · exact .refl state
  · exact .refl state
  · exact (moves_to state _ (by simp)).continues
  · exact failWake_continues state _

theorem received_continues (state : Succession) (error : Option ErrorCode) : Continues state (state.received error) := by
  unfold received
  split
  · exact .refl state
  · exact (moves_to state _ (by simp)).continues
  · exact (moves_to state _ (by simp)).continues
  · exact failWake_continues state _

theorem receivedUds_continues (state : Succession) (status : Option UdsReceiveStatus) :
    Continues state (state.receivedUds status) := by
  unfold receivedUds
  split
  · exact .refl state
  · exact (await_moves state).continues
  · exact (stop_moves state _).continues
  · exact continues_to state ⟨rfl, rfl, rfl⟩ (by simp [Plain, phaseDeaths])

theorem Local.refl (state : Succession) : Local state state :=
  ⟨rfl, rfl, rfl, rfl, rfl, rfl, fewer_same rfl, List.Subset.refl _, id⟩

theorem local_with {backlog : List DataSocket} (same : SameTopic before.subscriber subscriber)
    (fewer : ∀ items, Held before.queue items → ∃ next, next ⊆ items ∧ Held queue next)
    (deaths : phaseDeaths phase ⊆ phaseDeaths before.phase)
    (subscribed : phase = .unsubscribed → before.phase = .unsubscribed) :
    Local before { before with subscriber, queue, backlog, phase } :=
  ⟨rfl, rfl, rfl, same.1, same.2.1, same.2.2, fewer, List.append_subset.mpr
    ⟨List.Subset.trans deaths (List.subset_append_left _ _), List.subset_append_right _ _⟩, subscribed⟩

theorem Continues.keeps {middle : Succession} (continues : Continues middle after) (frame : Local before middle) :
    Local before after := by
  obtain ⟨subscriber, phase, rfl, same, kept⟩ := continues
  refine ⟨frame.publishers, frame.registered, frame.queueDescriptor, same.1.trans frame.transport,
    same.2.1.trans frame.topicId, same.2.2.trans frame.queueId, frame.fewer, ?_, ?_⟩
  · refine List.Subset.trans ?_ frame.deaths
    rcases kept with rfl | plain
    · exact List.Subset.refl _
    · simp only [pendingDeaths, plain.1, List.nil_append]
      exact List.subset_append_right _ _
  · rcases kept with rfl | plain
    · exact frame.subscribed
    · exact fun first => absurd first plain.2.1

private theorem local_subscriber (same : SameTopic before.subscriber subscriber) : Local before { before with subscriber } :=
  local_with same (fewer_same rfl) (List.Subset.refl _) id

theorem local_queue
    (fewer : ∀ items, Held before.queue items → ∃ next, next ⊆ items ∧ Held queue next) :
    Local before { before with queue } :=
  local_with ⟨rfl, rfl, rfl⟩ fewer (List.Subset.refl _) id

theorem peeked_fewer {attempt : LockAttempt}
    (seen : queue = before.queue ∨ queue = (before.queue.peek attempt).2) {items : List ChunkHandle}
    (held : Held before.queue items) : Held queue items := by
  rcases seen with rfl | rfl
  · exact held
  · exact held.peek attempt

private theorem peek_local (attempt : LockAttempt) : Local before (before.peek attempt) := by
  obtain ⟨queue, seen, next⟩ := peek_cases before attempt
  have fewer (items : List ChunkHandle) (held : Held before.queue items) : ∃ next, next ⊆ items ∧ Held queue next :=
    ⟨items, List.Subset.refl _, peeked_fewer seen held⟩
  rcases next with moves | ⟨_, _, _, _, _, same⟩
  · exact moves.continues.keeps (local_queue fewer)
  · rw [same]
    exact local_with ⟨rfl, rfl, rfl⟩ fewer (List.nil_subset _) nofun

private theorem dequeue_local (attempt : LockAttempt) (pool : MemoryPool) : Local before (before.dequeue attempt pool) := by
  obtain ⟨error, moves, _⟩ := dequeue_moves before attempt pool
  refine moves.continues.keeps (local_queue fun items held => ?_)
  obtain ⟨next, taken, remaining⟩ := held.tryDequeue attempt
  exact ⟨next, taken ▸ List.subset_append_right _ _, remaining⟩

theorem discardPool_local (state : Succession) (poolId : UInt64) (attempt : LockAttempt)
    (deaths : phaseDeaths phase ⊆ phaseDeaths state.phase) (subscribed : phase ≠ .unsubscribed) :
    Local state { state.discardPool poolId attempt with phase } := by
  unfold Succession.discardPool
  split
  · refine local_with ⟨rfl, rfl, rfl⟩ (fun items held => ⟨_, ?_, held.discardPool poolId attempt⟩) deaths
      fun first => absurd first subscribed
    split
    · exact List.filter_subset_self _
    · exact List.Subset.refl _
  · exact local_with ⟨rfl, rfl, rfl⟩ (fewer_same rfl) deaths fun first => absurd first subscribed

theorem moveSubscriber_local (taken : before.moveSubscriber move = some after) : Local before after := by
  cases moveSubscriber_steps taken with
  | subscribed | knocked | arrived | broken | accepted =>
    exact local_with ⟨rfl, rfl, rfl⟩ (fewer_same rfl) (List.nil_subset _) nofun
  | called =>
    refine ⟨rfl, rfl, rfl, rfl, rfl, rfl, fewer_same rfl, ?_, nofun⟩
    simp only [pendingDeaths, phaseDeaths, List.take_append_drop]
    exact List.subset_append_right _ _
  | entered =>
    obtain ⟨error, moves, _⟩ := enterLoop_moves before
    exact moves.continues.keeps (.refl before)
  | discarded attempt phase => exact discardPool_local before _ attempt (phase ▸ List.Subset.refl _) nofun
  | lostDiscarded attempt phase => exact discardPool_local before _ attempt (List.nil_subset _) nofun
  | reset phase =>
    exact local_with (resetPublisher_same _ _) (fewer_same rfl) (phase ▸ List.subset_cons_self _ _) nofun
  | lostReset => exact local_with (resetPublisher_same _ _) (fewer_same rfl) (List.nil_subset _) nofun
  | peeked attempt => exact peek_local attempt
  | dequeued attempt pool => exact dequeue_local attempt pool
  | expired | unheard => exact (stop_moves before _).continues.keeps (.refl before)
  | interrupted | unaccepted => exact (repeatLoop_moves before).continues.keeps (.refl before)
  | drained segment => exact (drained_continues _ _).keeps (local_subscriber (receiveWake_same _ _ _ segment))
  | received segment => exact (received_continues _ _).keeps (local_subscriber (receiveWake_same _ _ _ segment))
  | receivedUds => exact (receivedUds_continues _ _).keeps (local_subscriber (receiveUds_same _ _ _))

end Locality

theorem Unchanged.refl (state : Succession) : Unchanged state state := ⟨rfl, rfl, rfl, rfl, rfl, .inl⟩

theorem Moves.effect {middle : Succession} (moves : Moves error middle after)
    (same : Unchanged before middle) : SubscriberEffect before after := by
  obtain ⟨phase, rfl, none, quiet, _, _, waiting⟩ := moves
  exact .quiet ⟨same.connection, same.headerBuffer, same.discoveredPool, same.poolView, same.backlog,
    fun idle => .inr (waiting idle)⟩ fun lost => absurd lost quiet

theorem stop_effect (error : ErrorCode) (discoveredPool : subscriber.discoveredPool = before.subscriber.discoveredPool)
    (poolView : subscriber.poolView = before.subscriber.poolView) :
    SubscriberEffect before (stop { before with subscriber := subscriber.resetConnection } error) :=
  .dropped rfl rfl discoveredPool poolView rfl (by simp [Succession.stop, losing])

/-- How a call goes on after `receiveWakeAvailable`, in the drain and in the loop. -/
structure Responds (respond : Succession → Option ErrorCode → Succession) (phase : TakePhase) : Prop where
  again : ∀ state, respond state none = state
  ok : ∀ state, state.phase = phase → ∃ error next, respond state (some .ok) = { state with
    subscriber.lastError := error, phase := next } ∧ (next = .draining ∨ next = .peeking)
  timeout : ∀ state, respond state (some .timeout) = { state with phase := .peeking }
  failed : ∀ state error, error ≠ .ok → error ≠ .timeout → respond state (some error) = state.failWake error

theorem drained_responds : Responds drained .draining := by
  refine ⟨fun _ => rfl, ?_, fun _ => rfl, ?_⟩
  · intro state phase
    exact ⟨state.subscriber.lastError, .draining, by simp only [drained, ← phase], .inl rfl⟩
  · intro state error bad late
    cases error <;> first | rfl | contradiction

theorem received_responds : Responds received .receiving := by
  refine ⟨fun _ => rfl, ?_, fun _ => rfl, ?_⟩
  · exact fun state _ => ⟨.ok, .peeking, rfl, .inr rfl⟩
  · intro state error bad late
    cases error <;> first | rfl | contradiction

private theorem failWake_drops (other : error ≠ .connectionLost)
    (discoveredPool : subscriber.discoveredPool = before.subscriber.discoveredPool)
    (poolView : subscriber.poolView = before.subscriber.poolView) :
    SubscriberEffect before (failWake { before with subscriber } error) := by
  unfold failWake
  rw [if_neg other]
  exact stop_effect error discoveredPool poolView

private theorem failWake_loses (found : before.subscriber.connection = some socket)
    (closed : socket.closed = true) : SubscriberEffect before (before.failWake .connectionLost) :=
  .lost ⟨rfl, rfl, rfl, rfl, rfl, by simp [failWake, unconnected]⟩ socket found closed

theorem recv_effect {respond : Succession → Option ErrorCode → Succession}
    {outcome : RecvOutcome} (responds : Responds respond phase)
    (inside : before.phase = phase) (simple : phase = .draining ∨ phase = .receiving)
    (shm : before.subscriber.transport = .sharedMemory) (found : before.subscriber.connection = some socket)
    (allowed : socket.allows before.subscriber.wanted outcome = true) :
    SubscriberEffect before (respond { before with
      subscriber := (before.subscriber.receiveWake socket outcome segment).2 }
      (before.subscriber.receiveWake socket outcome segment).1) := by
  have busy : ¬losing before.phase ∧ ¬unconnected before.phase := by
    rw [inside]
    rcases simple with rfl | rfl <;> simp [losing, unconnected]
  cases outcome with
  | bytes count =>
    simp only [DataSocket.allows, Bool.and_eq_true, decide_eq_true_eq, Subscriber.wanted, shm] at allowed
    obtain ⟨⟨positive, room⟩, available⟩ := allowed
    have length : (before.subscriber.headerBuffer ++ socket.pending.take count).length =
        before.subscriber.headerBuffer.length + count := by
      rw [List.length_append, List.length_take, Nat.min_eq_left available]
    unfold Subscriber.receiveWake
    simp only
    split
    next short =>
      rw [responds.again]
      exact .buffered socket count found rfl short busy.1 busy.2
    next complete =>
      have full : (before.subscriber.headerBuffer ++ socket.pending.take count).length = kQueueWakeSize := by
        omega
      generalize filled : ({ before.subscriber with
        connection := some { socket with pending := socket.pending.drop count }
        headerBuffer := before.subscriber.headerBuffer ++ socket.pending.take count } : Subscriber) = subscriber
      by_cases accepted : (subscriber.takeWake segment).1 = .ok
      · rw [accepted]
        obtain ⟨error, next, same, later⟩ := responds.ok
          { before with subscriber := (subscriber.takeWake segment).2 } inside
        rw [same]
        have still : ¬losing next ∧ ¬unconnected next := by
          rcases later with rfl | rfl <;> simp [losing, unconnected]
        subst filled
        exact .read socket count segment found full accepted error rfl rfl still.1 still.2
      · obtain ⟨late, other, kept⟩ := takeWake_refused accepted
        rw [responds.failed _ _ accepted late]
        refine failWake_drops other ?_ ?_
        · rw [kept, ← filled]
          rfl
        · rw [kept, ← filled]
          rfl
  | endOfStream =>
    simp only [DataSocket.allows, Bool.and_eq_true] at allowed
    unfold Subscriber.receiveWake
    simp only
    split
    · rw [responds.failed _ _ (by simp) (by simp)]
      exact failWake_loses found allowed.2
    · rw [responds.failed _ _ (by simp) (by simp)]
      exact failWake_drops (by simp) rfl rfl
  | connectionReset =>
    simp only [DataSocket.allows, Bool.and_eq_true] at allowed
    unfold Subscriber.receiveWake
    rw [responds.failed _ _ (by simp) (by simp)]
    exact failWake_loses found allowed.2
  | wouldBlock =>
    unfold Subscriber.receiveWake
    rw [responds.timeout]
    exact (moves_to before _ (by simp)).effect (.refl before)
  | interrupted =>
    unfold Subscriber.receiveWake
    rw [responds.again]
    exact .quiet (.refl before) id
  | failed =>
    unfold Subscriber.receiveWake
    rw [responds.failed _ _ (by simp) (by simp)]
    exact failWake_drops (by simp) rfl rfl

/-- The local half of `resetPublisherState`: nothing, or everything is forgotten. -/
private theorem reset_effect {poolId : UInt64}
    (reason : (∃ event rest, before.phase = .deathDiscarded event rest ∧ poolId = event.resourceId) ∨
      before.phase = .lostDiscarded) (quiet : ¬losing phase) (connected : ¬unconnected phase) :
    SubscriberEffect before { before with subscriber := before.subscriber.resetPublisher poolId, phase } := by
  unfold Subscriber.resetPublisher
  split
  · exact .quiet ⟨rfl, rfl, rfl, rfl, rfl, fun idle => absurd idle connected⟩ fun lost => absurd lost quiet
  next resets => exact .forgot poolId reason resets rfl rfl rfl rfl rfl quiet

theorem moveSubscriber_effect (shm : before.subscriber.transport = .sharedMemory)
    (taken : before.moveSubscriber move = some after) : Local before after ∧ SubscriberEffect before after := by
  refine ⟨moveSubscriber_local taken, ?_⟩
  cases moveSubscriber_steps taken with
  | subscribed phase => exact .subscribed rfl phase
  | called => exact .quiet ⟨rfl, rfl, rfl, rfl, rfl, by simp [unconnected]⟩ (by simp [losing])
  | entered =>
    obtain ⟨error, moves, _⟩ := enterLoop_moves before
    exact moves.effect (.refl before)
  | discarded =>
    simp only [discardPool, shm]
    exact .quiet ⟨rfl, rfl, rfl, rfl, rfl, by simp [unconnected]⟩ (by simp [losing])
  | lostDiscarded _ phase =>
    simp only [discardPool, shm]
    exact .quiet ⟨rfl, rfl, rfl, rfl, rfl, by simp [unconnected]⟩ fun _ => .inl phase
  | reset phase => exact reset_effect (.inl ⟨_, _, phase, rfl⟩) (by simp [losing]) (by simp [unconnected])
  | lostReset phase => exact reset_effect (.inr phase) (by simp [losing]) (by simp [unconnected])
  | peeked attempt =>
    obtain ⟨queue, _, moves | ⟨_, _, _, _, _, same⟩⟩ := peek_cases before attempt
    · exact moves.effect ⟨rfl, rfl, rfl, rfl, rfl, .inl⟩
    · rw [same]
      exact .quiet ⟨rfl, rfl, rfl, rfl, rfl, by simp [unconnected]⟩ (by simp [losing])
  | dequeued attempt pool =>
    obtain ⟨error, moves, _⟩ := dequeue_moves before attempt pool
    exact moves.effect ⟨rfl, rfl, rfl, rfl, rfl, .inl⟩
  | knocked phase => exact .quiet ⟨rfl, rfl, rfl, rfl, rfl, fun _ => .inl (.inl phase)⟩ (by simp [losing])
  | arrived => exact (moves_to before _ (by simp)).effect (.refl before)
  | expired | unheard => exact (stop_moves before _).effect (.refl before)
  | broken => exact stop_effect _ rfl rfl
  | interrupted | unaccepted => exact (repeatLoop_moves before).effect (.refl before)
  | accepted phase waiting => exact .accepted _ _ waiting phase rfl
  | drained _ phase found allowed => exact recv_effect drained_responds phase (.inl rfl) shm found allowed
  | received _ phase found allowed => exact recv_effect received_responds phase (.inr rfl) shm found allowed
  | receivedUds _ _ uds =>
    rw [shm] at uds
    cases uds

end RobotMiddleware.Proofs.SubscriberEffects
