import RobotMiddleware.Lib.Transitions
import RobotMiddleware.Proofs.SuccessionInvariant

/-! What a subscriber throws away when a data connection is lost. It discards the pool
that it remembers, which need not be the pool of the publisher at the other end, and
everything when it remembers none. -/

namespace RobotMiddleware.Proofs.LostConnections
open Lib.Outcome Lib.Transitions QueueContents QueueRefinement Succession SuccessionEffects SubscriberEffects SuccessionInvariant

def foreign (poolId : UInt64) (handles : List ChunkHandle) : List ChunkHandle :=
  handles.filter fun handle => handle.poolId != poolId

/-- Discarding the remembered pool concerns no handle but those of the lost pool: the
subscriber remembers that pool, or the queue has handles of that pool only, or the
subscriber remembers another pool and no handle of it is there. -/
def DiscardsOwn (state : Succession) (lostPool : UInt64) : Prop :=
  state.subscriber.discoveredPool.poolId = lostPool ∨ (∀ handle ∈ stored state.queue, handle.poolId = lostPool) ∨
    state.subscriber.discoveredPool.poolId ≠ 0 ∧
      ∀ handle ∈ stored state.queue, handle.poolId ≠ state.subscriber.discoveredPool.poolId

variable {state next : Succession}

theorem foreign_kept_iff (lostPool poolId : UInt64) (items : List ChunkHandle) :
    foreign lostPool (items.filter fun handle => poolId != 0 && handle.poolId != poolId) = foreign lostPool items ↔
      ∀ handle ∈ items, handle.poolId ≠ lostPool → poolId ≠ 0 ∧ handle.poolId ≠ poolId := by
  unfold foreign
  rw [List.filter_comm, List.filter_eq_self]
  simp only [List.mem_filter, bne_iff_ne, Bool.and_eq_true, and_imp]

theorem discardsOwn_iff {lostPool : UInt64} (set : lostPool ≠ 0) :
    DiscardsOwn state lostPool ↔ ∀ handle ∈ stored state.queue, handle.poolId ≠ lostPool →
      state.subscriber.discoveredPool.poolId ≠ 0 ∧ handle.poolId ≠ state.subscriber.discoveredPool.poolId := by
  constructor
  · rintro (own | only | ⟨other, absent⟩) handle member strange
    · rw [own]
      exact ⟨set, strange⟩
    · exact absurd (only handle member) strange
    · exact ⟨other, absent handle member⟩
  · intro spared
    by_cases only : ∀ handle ∈ stored state.queue, handle.poolId = lostPool
    · exact .inr (.inl only)
    · simp only [not_forall] at only
      obtain ⟨stranger, member, strange⟩ := only
      by_cases own : state.subscriber.discoveredPool.poolId = lostPool
      · exact .inl own
      · refine .inr (.inr ⟨(spared stranger member strange).1, fun handle present same => ?_⟩)
        exact (spared handle present (same ▸ own)).2 same

theorem discard_stored {attempt : LockAttempt} (inv : Inv state) (lost : state.phase = .lost)
    (taken : step state (.subscriber (.processDeath attempt)) = some next) :
    stored next.queue = if (state.queue.lock attempt).1 then
      (stored state.queue).filter fun handle => state.subscriber.discoveredPool.poolId != 0 &&
        handle.poolId != state.subscriber.discoveredPool.poolId
      else stored state.queue := by
  obtain ⟨items, held⟩ := inv.held
  simp only [step, moveSubscriber, lost, discardPool, inv.shm, Option.some.injEq] at taken
  subst next
  rw [held.stored]
  exact (held.discardPool _ attempt).stored

/-- When a data connection is lost, the subscriber discards handles of the publisher at
its other end only, if and only if it does not get the mutex or remembers the right
pool, as far as that makes a difference. -/
theorem lost_connection_spares {maxMessageSize topicId : UInt64} {descriptor : QueueDescriptor}
    {queue : SharedSubscriberQueue} (created : SharedSubscriberQueue.create descriptor = .ok queue)
    {events : List SuccessionEvent} {attempt : LockAttempt}
    (run : execute step (start .sharedMemory maxMessageSize topicId descriptor queue) events = some state)
    (lost : state.phase = .lost) (taken : step state (.subscriber (.processDeath attempt)) = some next) :
    ∃ socket record, state.subscriber.connection = some socket ∧ socket.closed = true ∧
      state.publishers[socket.publisher]? = some record ∧
      (foreign record.descriptor.poolId (stored next.queue) = foreign record.descriptor.poolId (stored state.queue) ↔
        (state.queue.lock attempt).1 = false ∨ DiscardsOwn state record.descriptor.poolId) := by
  have inv : Inv state := execute_invariant (fun _ _ _ held taken => step_inv held taken) (start_inv created) run
  obtain ⟨socket, connected, closed⟩ := inv.lost (.inl lost)
  obtain ⟨record, _, _, _, wired⟩ := inv.wiring.wired
    ⟨socket.publisher, socket.closed, state.subscriber.headerBuffer ++ socket.pending⟩ (by simp [streams, connected])
  refine ⟨socket, record, connected, closed, wired.found, ?_⟩
  rw [discard_stored inv lost taken, discardsOwn_iff (inv.roster.admitted _ _ wired.found).poolId]
  cases locked : (state.queue.lock attempt).1 with
  | false => simp
  | true =>
    rw [if_pos rfl, foreign_kept_iff]
    simp

/-- The first publisher connects to a subscriber that knows no pool, and is killed
before it sends a Wake. The second one has enqueued a handle when the subscriber finds
the connection closed. -/
def silentPublisher : List SuccessionEvent :=
  [.subscriber .subscribe, .publisher (.advertise firstPool), .publisher (.connect 0 {}), .subscriber (.call 0),
    .subscriber (.processDeath {}), .subscriber (.peek {}), .subscriber (.poll .ready), .subscriber (.accept true),
    .publisher (.kill 0 none), .publisher (.cleanupDeadNode 0), .publisher (.advertise secondPool),
    .publisher (.connect 1 {}), .publisher (.enqueue 1 ⟨2, 0, 1, 320⟩ kQueueWakeSize {}), .subscriber (.poll .ready),
    .subscriber (.recv .endOfStream .opened)]

/-- What a run shows of the state before the reset and of the one after its first
half. -/
structure Observation where
  phase : TakePhase
  lost : Option Nat
  pools : List (PoolDescriptor × PublisherStatus × Bool)
  remembered : PoolDescriptor
  before : List ChunkHandle
  after : List ChunkHandle
  deriving DecidableEq

def observe (state next : Succession) : Observation where
  phase := state.phase
  lost := state.subscriber.connection.map (·.publisher)
  pools := state.publishers.map fun record => (record.descriptor, record.status, record.connected)
  remembered := state.subscriber.discoveredPool
  before := stored state.queue
  after := stored next.queue

theorem observed_run {events : List SuccessionEvent} {observation : Observation}
    (seen : ((SharedSubscriberQueue.create sampleQueue).toOption.bind fun queue =>
      (execute step (start .sharedMemory 64 1 sampleQueue queue) events).bind fun state =>
        (step state (.subscriber (.processDeath {}))).map (observe state)) = some observation) :
    ∃ queue state next, SharedSubscriberQueue.create sampleQueue = .ok queue ∧
      execute step (start .sharedMemory 64 1 sampleQueue queue) events = some state ∧
      step state (.subscriber (.processDeath {})) = some next ∧ observe state next = observation := by
  obtain ⟨queue, created, seen⟩ := Option.bind_eq_some_iff.mp seen
  obtain ⟨state, run, seen⟩ := Option.bind_eq_some_iff.mp seen
  obtain ⟨next, taken, same⟩ := Option.map_eq_some_iff.mp seen
  exact ⟨queue, state, next, toOption_some created, run, taken, same⟩

/-- The handle of the second publisher, which is alive, is discarded. -/
theorem lost_connection_discards_other :
    ∃ queue state next, SharedSubscriberQueue.create sampleQueue = .ok queue ∧
      execute step (start .sharedMemory 64 1 sampleQueue queue) silentPublisher = some state ∧
      step state (.subscriber (.processDeath {})) = some next ∧
      observe state next = ⟨.lost, some 0, [(firstPool, .killed, false), (secondPool, .live, true)], ⟨[], 0, 0, 1, 0⟩,
        [⟨2, 0, 1, 320⟩], []⟩ ∧
      foreign firstPool.poolId (stored next.queue) ≠ foreign firstPool.poolId (stored state.queue) := by
  obtain ⟨queue, state, next, created, run, taken, same⟩ := @observed_run silentPublisher _ (by decide +kernel : _ = some
    (⟨.lost, some 0, [(firstPool, .killed, false), (secondPool, .live, true)], ⟨[], 0, 0, 1, 0⟩, [⟨2, 0, 1, 320⟩], []⟩))
  refine ⟨queue, state, next, created, run, taken, same, ?_⟩
  have before : stored state.queue = [⟨2, 0, 1, 320⟩] := congrArg Observation.before same
  have after : stored next.queue = [] := congrArg Observation.after same
  rw [before, after]
  decide

/-- The first publisher has sent its Wake before it is killed. -/
def knownLost : List SuccessionEvent :=
  [.subscriber .subscribe, .publisher (.advertise firstPool), .publisher (.connect 0 {}),
    .publisher (.enqueue 0 ⟨1, 0, 1, 320⟩ kQueueWakeSize {}), .subscriber (.call 0), .subscriber (.processDeath {}),
    .subscriber (.peek {}), .subscriber (.poll .ready), .subscriber (.accept true), .subscriber (.poll .ready),
    .subscriber (.recv (.bytes kQueueWakeSize) .opened), .subscriber (.peek { refused := true }),
    .publisher (.kill 0 none), .publisher (.cleanupDeadNode 0), .publisher (.advertise secondPool),
    .publisher (.connect 1 {}), .publisher (.enqueue 1 ⟨2, 0, 1, 320⟩ kQueueWakeSize {}), .subscriber (.poll .ready),
    .subscriber (.recv .endOfStream .opened)]

theorem lost_connection_spares_known :
    ∃ queue state next, SharedSubscriberQueue.create sampleQueue = .ok queue ∧
      execute step (start .sharedMemory 64 1 sampleQueue queue) knownLost = some state ∧ state.phase = .lost ∧
      step state (.subscriber (.processDeath {})) = some next ∧
      foreign firstPool.poolId (stored state.queue) = [⟨2, 0, 1, 320⟩] ∧
      foreign firstPool.poolId (stored next.queue) = foreign firstPool.poolId (stored state.queue) := by
  obtain ⟨queue, state, next, created, run, taken, same⟩ := @observed_run knownLost _ (by decide +kernel : _ = some
    (⟨.lost, some 0, [(firstPool, .killed, false), (secondPool, .live, true)], firstPool,
      [⟨1, 0, 1, 320⟩, ⟨2, 0, 1, 320⟩], [⟨2, 0, 1, 320⟩]⟩))
  have lost : state.phase = .lost := congrArg Observation.phase same
  have owner : state.subscriber.connection.map (·.publisher) = some 0 := congrArg Observation.lost same
  have pools := congrArg Observation.pools same
  have known : state.subscriber.discoveredPool = firstPool := congrArg Observation.remembered same
  have items : stored state.queue = [⟨1, 0, 1, 320⟩, ⟨2, 0, 1, 320⟩] := congrArg Observation.before same
  obtain ⟨socket, record, connected, _, found, spares⟩ := lost_connection_spares created run lost taken
  have first : record.descriptor = firstPool := by
    rw [connected, Option.map_some, Option.some.injEq] at owner
    have listed := congrArg (·[0]?) pools
    simp only [observe, List.getElem?_map, owner ▸ found, Option.map_some] at listed
    exact congrArg Prod.fst (Option.some.inj listed)
  rw [first] at spares
  refine ⟨queue, state, next, created, run, lost, taken, by rw [items]; rfl, spares.mpr (.inr (.inl ?_))⟩
  rw [known]

end RobotMiddleware.Proofs.LostConnections
