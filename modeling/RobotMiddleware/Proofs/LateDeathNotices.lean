import RobotMiddleware.Lib.Transitions
import RobotMiddleware.Proofs.SuccessionInvariant

/-! What a death notice does that comes after the successor was accepted. The
notice names a pool, and the subscriber compares it with the pool that it
remembers at that moment, not with the connection. On a Unix domain socket there
are no pools, and on shared memory the subscriber may remember none, so that the
notice takes down a connection that it is not about. -/

namespace RobotMiddleware.Proofs.LateDeathNotices
open Lib.Transitions QueueRefinement Succession SubscriberEffects SuccessionEffects SuccessionInvariant

/-- The connection is the same, and no byte that was received or is still unread
is lost. -/
structure Keeps (before after : Subscriber) : Prop where
  connection : ∃ socket current, before.connection = some socket ∧ after.connection = some current ∧
    current.publisher = socket.publisher ∧ socket.pending <+: current.pending
  headerBuffer : after.headerBuffer = before.headerBuffer
  decodedHeader : after.decodedHeader = before.decodedHeader
  payload : after.payload = before.payload
  poolView : after.poolView = before.poolView

def processing (attempt : LockAttempt) (meanwhile : List PublisherMove) : List SuccessionEvent :=
  .subscriber (.processDeath attempt) :: (meanwhile.map .publisher ++ [.subscriber .reset])

variable {before after : Succession}

section Publishers

def Grows (before after : Subscriber) : Prop :=
  ∃ change : DataSocket → DataSocket,
    (∀ socket, (change socket).publisher = socket.publisher ∧ socket.pending <+: (change socket).pending) ∧
    after = { before with connection := before.connection.map change }

theorem Grows.refl (subscriber : Subscriber) : Grows subscriber subscriber :=
  ⟨id, fun _ => ⟨rfl, List.prefix_rfl⟩, by rw [Option.map_id_fun, id]⟩

theorem Grows.trans {first middle last : Subscriber} (left : Grows first middle) (right : Grows middle last) :
    Grows first last := by
  obtain ⟨change, kept, rfl⟩ := left
  obtain ⟨next, still, rfl⟩ := right
  refine ⟨next ∘ change, fun socket => ⟨(still _).1.trans (kept socket).1, (kept socket).2.trans (still _).2⟩, ?_⟩
  simp

theorem Grows.statics {first last : Subscriber} (grows : Grows first last) :
    last.transport = first.transport ∧ last.discoveredPool = first.discoveredPool := by
  obtain ⟨_, _, rfl⟩ := grows
  exact ⟨rfl, rfl⟩

private theorem mapSockets_grows (state : Succession) (publisher : Nat) {change : DataSocket → DataSocket}
    (kept : ∀ socket, (change socket).publisher = socket.publisher ∧ socket.pending <+: (change socket).pending) :
    Grows state.subscriber (state.mapSockets publisher change).subscriber := by
  refine ⟨fun socket => if socket.publisher = publisher then change socket else socket, ?_, rfl⟩
  intro socket
  dsimp only
  split
  · exact kept socket
  · exact ⟨rfl, List.prefix_rfl⟩

theorem write_grows (state : Succession) (publisher : Nat) (bytes : Bytes) :
    Grows state.subscriber (state.write publisher bytes).subscriber := by
  refine mapSockets_grows state publisher fun socket => ?_
  split
  · exact ⟨rfl, List.prefix_rfl⟩
  · exact ⟨rfl, List.prefix_append _ _⟩

theorem closeSockets_grows (state : Succession) (publisher : Nat) :
    Grows state.subscriber (state.closeSockets publisher).subscriber :=
  mapSockets_grows state publisher fun _ => ⟨rfl, List.prefix_rfl⟩

/-- A pool id of a publisher: none on a Unix domain socket. -/
def Fits (transport : TransportType) (descriptor : PoolDescriptor) : Prop :=
  descriptor.poolId = 0 ↔ transport = .unixDomainSocket

/-- What the subscriber can see of a step of a publisher or of the registry. -/
structure Follows (before after : Succession) : Prop where
  phase : after.phase = before.phase
  grows : Grows before.subscriber after.subscriber
  known : ∀ (index : Nat) (record : PublisherRecord), before.publishers[index]? = some record →
    ∃ next : PublisherRecord, after.publishers[index]? = some next ∧ next.descriptor = record.descriptor
  pools : ∀ record ∈ after.publishers, (∃ old ∈ before.publishers, record.descriptor = old.descriptor) ∨
    Fits before.subscriber.transport record.descriptor
  notices : ∀ event ∈ after.peerEvents, event ∈ before.peerEvents ∨
    ∃ record : PublisherRecord, before.publishers[event.publisher]? = some record ∧
      event.resourceId = record.descriptor.poolId

private theorem follows_set {publisher : Nat} {record next : PublisherRecord}
    (found : before.publishers[publisher]? = some record)
    (publishers : after.publishers = before.publishers.set publisher next) (same : next.descriptor = record.descriptor)
    (phase : after.phase = before.phase)
    (events : after.peerEvents = before.peerEvents) (grows : Grows before.subscriber after.subscriber) :
    Follows before after := by
  refine ⟨phase, grows, ?_, ?_, fun event present => .inl (events ▸ present)⟩
  · intro index old present
    rw [publishers, List.getElem?_set]
    by_cases own : publisher = index
    · subst own
      rw [found] at present
      cases present
      have inside := (List.getElem?_eq_some_iff.mp found).1
      exact ⟨next, by simp [inside], same⟩
    · exact ⟨old, by simpa [own] using present, rfl⟩
  · intro now present
    rw [publishers] at present
    rcases List.mem_or_eq_of_mem_set present with old | rfl
    · exact .inl ⟨now, old, rfl⟩
    · exact .inl ⟨record, List.mem_of_getElem? found, same⟩

private theorem afterEnqueue_follows {publisher sent : Nat} {record : PublisherRecord} {handle : ChunkHandle}
    {frame : Bytes} (answer : Option QueueEnqueueResult × SharedSubscriberQueue)
    (found : before.publishers[publisher]? = some record) :
    Follows before (before.afterEnqueue publisher record handle frame sent answer) := by
  obtain ⟨result | result, queue⟩ := answer
  · exact follows_set found rfl rfl rfl rfl (.refl _)
  · exact follows_set found rfl rfl rfl rfl (write_grows _ _ _)

private theorem admits_fits {descriptor : PoolDescriptor} (admitted : before.admits descriptor = true) :
    Fits before.subscriber.transport descriptor := by
  unfold Succession.admits at admitted
  cases transport : before.subscriber.transport with
  | sharedMemory =>
    simp only [transport, Bool.and_eq_true, bne_iff_ne, ne_eq] at admitted
    simp [Fits, admitted.1.1.1.1.2]
  | unixDomainSocket =>
    simp only [transport, beq_iff_eq] at admitted
    simp [Fits, admitted]

theorem movePublisher_follows {move : PublisherMove} (taken : before.movePublisher move = some after) :
    Follows before after := by
  obtain admitted | ⟨publisher, record, found, step⟩ := movePublisher_cases taken
  · refine ⟨rfl, .refl _, ?_, ?_, fun event present => .inl present⟩
    · intro index record found
      exact ⟨record, (advertised_lookup index record).mpr (.inl found), rfl⟩
    · intro record present
      rcases List.mem_append.mp present with old | new
      · exact .inl ⟨record, old, rfl⟩
      · rw [List.mem_singleton.mp new]
        exact .inr (admits_fits admitted)
  cases step with
  | joined | joinedUds | published | destroyed =>
    exact follows_set found rfl rfl rfl rfl (.refl _)
  | offered | resumed => exact afterEnqueue_follows _ found
  | sent => exact follows_set found rfl rfl rfl rfl (write_grows _ _ _)
  | dropped | killed | withdrawn => exact follows_set found rfl rfl rfl rfl (closeSockets_grows _ _)
  | torn => exact follows_set found rfl rfl rfl rfl ((write_grows _ _ _).trans (closeSockets_grows _ _))
  | reported =>
    refine ⟨rfl, .refl _, fun index record found => ⟨record, found, rfl⟩, fun record present => .inl ⟨record, present, rfl⟩, ?_⟩
    intro event present
    dsimp only at present
    split at present
    · exact .inl present
    · rcases List.mem_append.mp present with old | new
      · exact .inl old
      · rw [List.mem_singleton.mp new]
        exact .inr ⟨record, found, rfl⟩

end Publishers

section Notices
variable {transport : TransportType}

/-- Every notice on its way carries the pool id of the publisher that it is about. -/
structure Notices (transport : TransportType) (state : Succession) : Prop where
  same : state.subscriber.transport = transport
  pools : ∀ record ∈ state.publishers, Fits transport record.descriptor
  dead : ∀ event ∈ pendingDeaths state, ∃ record : PublisherRecord, state.publishers[event.publisher]? = some record ∧
    event.resourceId = record.descriptor.poolId

theorem movePublisher_notices (notices : Notices transport before) {move : PublisherMove}
    (taken : before.movePublisher move = some after) : Notices transport after := by
  have follows := movePublisher_follows taken
  refine ⟨follows.grows.statics.1.trans notices.same, ?_, ?_⟩
  · intro record present
    rcases follows.pools record present with ⟨old, was, same⟩ | fits
    · rw [same]
      exact notices.pools old was
    · rw [notices.same] at fits
      exact fits
  · intro event pending
    have known : ∃ record : PublisherRecord, before.publishers[event.publisher]? = some record ∧
        event.resourceId = record.descriptor.poolId := by
      rw [pendingDeaths, follows.phase] at pending
      rcases List.mem_append.mp pending with started | waiting
      · exact notices.dead event (List.mem_append_left _ started)
      · rcases follows.notices event waiting with old | new
        · exact notices.dead event (List.mem_append_right _ old)
        · exact new
    obtain ⟨record, found, resource⟩ := known
    obtain ⟨next, present, same⟩ := follows.known event.publisher record found
    exact ⟨next, present, resource.trans (by rw [same])⟩

theorem step_notices (notices : Notices transport before) {event : SuccessionEvent}
    (taken : before.step event = some after) : Notices transport after := by
  cases event with
  | publisher move => exact movePublisher_notices notices taken
  | subscriber move =>
    have frame := moveSubscriber_local taken
    refine ⟨frame.transport.trans notices.same, by rw [frame.publishers]; exact notices.pools, ?_⟩
    intro event pending
    rw [frame.publishers]
    exact notices.dead event (frame.deaths pending)

theorem run_notices {maxMessageSize topicId : UInt64} {descriptor : QueueDescriptor} {queue : SharedSubscriberQueue}
    {events : List SuccessionEvent} {state : Succession}
    (run : execute step (start transport maxMessageSize topicId descriptor queue) events = some state) :
    Notices transport state := by
  refine execute_invariant (fun state event next held taken => step_notices held taken) ⟨rfl, ?_, ?_⟩ run
  · simp [start]
  · simp [start, pendingDeaths, phaseDeaths]

theorem meanwhile_grows {meanwhile : List PublisherMove}
    (run : execute step before (meanwhile.map .publisher) = some after) :
    after.phase = before.phase ∧ Grows before.subscriber after.subscriber := by
  induction meanwhile generalizing before with
  | nil =>
    cases run
    exact ⟨rfl, .refl _⟩
  | cons move rest ih =>
    obtain ⟨next, taken, remaining⟩ := execute_cons run
    have follows := movePublisher_follows taken
    obtain ⟨phase, grows⟩ := ih remaining
    exact ⟨phase.trans follows.phase, follows.grows.trans grows⟩

theorem processing_resets {event : PublisherDeath} {rest : List PublisherDeath} {attempt : LockAttempt}
    {meanwhile : List PublisherMove} (phase : before.phase = .deaths (event :: rest))
    (processed : execute step before (processing attempt meanwhile) = some after) :
    ∃ subscriber, Grows before.subscriber subscriber ∧ after.subscriber = subscriber.resetPublisher event.resourceId := by
  obtain ⟨discarded, first, remaining⟩ := execute_cons processed
  rw [execute_append] at remaining
  obtain ⟨last, run, final⟩ := Option.bind_eq_some_iff.mp remaining
  obtain ⟨reset, taken, done⟩ := execute_cons final
  cases done
  simp only [step, moveSubscriber, phase] at first
  cases first
  obtain ⟨same, grows⟩ := meanwhile_grows run
  have untouched : (before.discardPool event.resourceId attempt).subscriber = before.subscriber := by
    unfold Succession.discardPool
    split <;> rfl
  simp only [step, moveSubscriber, same] at taken
  cases taken
  exact ⟨last.subscriber, untouched ▸ grows, rfl⟩

/-- A notice about a dead publisher leaves the accepted connection, the bytes
received on it and the pool view alone exactly if the subscriber, on shared
memory, remembers the pool of another publisher. -/
theorem late_notice_harmless {maxMessageSize topicId : UInt64} {descriptor : QueueDescriptor}
    {queue : SharedSubscriberQueue} {events : List SuccessionEvent}
    (run : execute step (start transport maxMessageSize topicId descriptor queue) events = some before)
    {event : PublisherDeath} {rest : List PublisherDeath} (phase : before.phase = .deaths (event :: rest))
    {dead : PublisherRecord} (found : before.publishers[event.publisher]? = some dead) {socket : DataSocket}
    (accepted : before.subscriber.connection = some socket) {attempt : LockAttempt} {meanwhile : List PublisherMove}
    (processed : execute step before (processing attempt meanwhile) = some after) :
    Keeps before.subscriber after.subscriber ↔ transport = .sharedMemory ∧
      before.subscriber.discoveredPool.poolId ≠ 0 ∧
      before.subscriber.discoveredPool.poolId ≠ dead.descriptor.poolId := by
  have notices := run_notices run
  have resource : event.resourceId = dead.descriptor.poolId := by
    obtain ⟨record, present, same⟩ := notices.dead event (by rw [pendingDeaths, phase]; exact List.mem_cons_self)
    rw [found] at present
    cases present
    exact same
  have fits : dead.descriptor.poolId = 0 ↔ transport = .unixDomainSocket :=
    notices.pools dead (List.mem_of_getElem? found)
  obtain ⟨subscriber, ⟨change, kept, same⟩, after_eq⟩ := processing_resets phase processed
  have discovered : subscriber.discoveredPool = before.subscriber.discoveredPool := by rw [same]
  rw [after_eq, resource, Subscriber.resetPublisher, discovered]
  constructor
  · intro keeps
    by_contra harmful
    rw [if_neg] at keeps
    · obtain ⟨_, current, _, still, _⟩ := keeps.connection
      cases still
    · rintro ⟨pool, some, other⟩
      refine harmful ⟨?_, some, other⟩
      cases transport with
      | sharedMemory => rfl
      | unixDomainSocket => exact absurd (fits.mpr rfl) pool
  · rintro ⟨shm, some, other⟩
    have pool : dead.descriptor.poolId ≠ 0 := by
      intro zero
      rw [fits.mp zero] at shm
      cases shm
    rw [if_pos ⟨pool, some, other⟩, same]
    exact ⟨⟨socket, change socket, accepted, by rw [accepted]; rfl, (kept socket).1, (kept socket).2⟩, rfl, rfl, rfl, rfl⟩

/-- A call accepts the first connection. -/
def accepting : TransportType → List SubscriberMove
  | .sharedMemory => [.call 0, .processDeath {}, .peek {}, .poll .ready, .accept true]
  | .unixDomainSocket => [.call 0, .processDeath {}, .poll .ready, .accept true]

/-- It goes on to the end of the stream, and drops the connection. -/
def ending : TransportType → List SubscriberMove
  | .sharedMemory => [.poll .ready, .recv .endOfStream .opened, .processDeath {}, .reset]
  | .unixDomainSocket => [.poll .ready, .recv .endOfStream .opened]

/-- A connected publisher dies, and the subscriber loses its connection and accepts
that of its successor before it is told. -/
def succession (transport : TransportType) (first second : PoolDescriptor) (sends : List PublisherMove)
    (moves : List SubscriberMove) : List SuccessionEvent :=
  [.subscriber .subscribe, .publisher (.advertise first), .publisher (.connect 0 {})] ++
    (accepting transport).map .subscriber ++ [.publisher (.kill 0 none)] ++ (ending transport).map .subscriber ++
    [.publisher (.cleanupDeadNode 0), .publisher (.advertise second), .publisher (.connect 1 {})] ++ sends.map .publisher ++
    (accepting transport ++ moves).map .subscriber

def wakeFirst : List SuccessionEvent :=
  succession .sharedMemory firstPool secondPool [.enqueue 1 ⟨2, 0, 1, 320⟩ kQueueWakeSize {}]
    [.poll .ready, .recv (.bytes kQueueWakeSize) .opened, .peek { refused := true }, .poll .timeout, .call 1]

set_option maxRecDepth 4000 in
theorem wakeFirst_runs :
    ∃ queue before socket dead after, SharedSubscriberQueue.create sampleQueue = .ok queue ∧
      execute step (start .sharedMemory 64 1 sampleQueue queue) wakeFirst = some before ∧
      before.phase = .deaths [⟨0, 1⟩] ∧ before.publishers[0]? = some dead ∧
      before.subscriber.connection = some socket ∧ socket.publisher = 1 ∧
      execute step before (processing {} [.enqueue 1 ⟨2, 1, 1, 336⟩ kQueueWakeSize {}]) = some after ∧
      before.subscriber.discoveredPool = secondPool ∧ dead.descriptor = firstPool :=
  ⟨_, _, _, _, _, rfl, rfl, rfl, rfl, rfl, rfl, rfl, rfl, rfl⟩

theorem late_notice_harmless_after_wake :
    ∃ queue before after, SharedSubscriberQueue.create sampleQueue = .ok queue ∧
      execute step (start .sharedMemory 64 1 sampleQueue queue) wakeFirst = some before ∧
      before.phase = .deaths [⟨0, 1⟩] ∧
      execute step before (processing {} [.enqueue 1 ⟨2, 1, 1, 336⟩ kQueueWakeSize {}]) = some after ∧
      Keeps before.subscriber after.subscriber := by
  obtain ⟨queue, before, socket, dead, after, created, run, phase, found, accepted, _, processed, discovered, own⟩ :=
    wakeFirst_runs
  refine ⟨queue, before, after, created, run, phase, processed,
    (late_notice_harmless run phase found accepted processed).mpr ⟨rfl, ?_, ?_⟩⟩
  · rw [discovered]
    decide
  · rw [discovered, own]
    decide

/-- The successor has not sent a Wake yet. -/
def acceptFirst : List SuccessionEvent := succession .sharedMemory firstPool secondPool [] [.poll .timeout, .call 1]

/-- The successor has written the first bytes of a message. -/
def receiveFirst : List SuccessionEvent :=
  succession .unixDomainSocket {} {} [.publishUds 1 [7] 1 5, .sendUds 1 8]
    [.poll .ready, .recv (.bytes 8) .opened, .recv .wouldBlock .opened, .poll .timeout, .call 1]

/-- On both transports the notice about the dead publisher takes down the
connection of its live successor. -/
theorem late_notice_drops_successor :
    (∃ queue before after successor, SharedSubscriberQueue.create sampleQueue = .ok queue ∧
      execute step (start .sharedMemory 64 1 sampleQueue queue) acceptFirst = some before ∧
      before.phase = .deaths [⟨0, 1⟩] ∧ before.publishers[1]? = some successor ∧ successor.status = .live ∧
      before.subscriber.connection = some { publisher := 1 } ∧
      execute step before (processing {} []) = some after ∧ after.subscriber.connection = none ∧
      ¬Keeps before.subscriber after.subscriber) ∧
    (∃ queue before after successor, SharedSubscriberQueue.create sampleQueue = .ok queue ∧
      execute step (start .unixDomainSocket 64 1 sampleQueue queue) receiveFirst = some before ∧
      before.phase = .deaths [⟨0, 0⟩] ∧ before.publishers[1]? = some successor ∧ successor.status = .live ∧
      before.subscriber.connection = some { publisher := 1 } ∧ before.subscriber.headerBuffer.length = 8 ∧
      execute step before (processing {} []) = some after ∧ after.subscriber.connection = none ∧
      after.subscriber.headerBuffer = [] ∧ ¬Keeps before.subscriber after.subscriber) := by
  refine ⟨⟨_, _, _, _, rfl, rfl, rfl, rfl, rfl, rfl, rfl, rfl, ?_⟩,
    ⟨_, _, _, _, rfl, rfl, rfl, rfl, rfl, rfl, rfl, rfl, rfl, rfl, ?_⟩⟩
  · intro keeps
    obtain ⟨_, _, _, still, _⟩ := keeps.connection
    cases still
  · intro keeps
    obtain ⟨_, _, _, still, _⟩ := keeps.connection
    cases still

end Notices

end RobotMiddleware.Proofs.LateDeathNotices
