import Mathlib.Data.List.Nodup
import RobotMiddleware.Lib.Transitions
import RobotMiddleware.Proofs.SuccessionInvariant

/-! When a subscriber can still learn the pool of a queued handle. A Wake is sent
only when an enqueue finds the ring empty, and the ring outlives its publishers.
A publisher whose first handle arrives behind those of a dead one is therefore
never announced, and its samples are stranded. As long as no enqueue finds only
handles of other pools, every queued handle can be taken. -/

namespace RobotMiddleware.Proofs.StrandedSamples
open Lib.Framing Lib.Transitions QueueContents QueueRefinement Succession SuccessionEffects SubscriberEffects
  SuccessionInvariant

/-- A complete Wake of the publisher is unread on its connection. -/
def Announces (state : Succession) (publisher : Nat) (record : PublisherRecord) : Prop :=
  ∃ frame, state.wake record = some frame ∧
    ∃ stream ∈ streams state, stream.publisher = publisher ∧ frame <+: stream.bytes

/-- The subscriber has a view of the pool of the publisher, or will get one from
its Wake. -/
def CanLearn (state : Succession) (publisher : Nat) (record : PublisherRecord) : Prop :=
  state.subscriber.poolView = some record.descriptor ∨ Announces state publisher record

def Connected (state : Succession) (publisher : Nat) : Prop :=
  ∃ stream ∈ streams state, stream.publisher = publisher ∧ stream.closed = false

def Queued (state : Succession) (poolId : UInt64) : Prop := ∃ handle ∈ stored state.queue, handle.poolId = poolId

/-- The subscriber can learn the pool of every handle of a connected publisher. -/
def NoStranded (state : Succession) : Prop :=
  ∀ (publisher : Nat) (record : PublisherRecord), state.publishers[publisher]? = some record →
    Connected state publisher → Queued state record.descriptor.poolId → CanLearn state publisher record

/-- An enqueue finds the ring empty, or with a handle of the same publisher. -/
def FindsOwn (state : Succession) : SuccessionEvent → Prop
  | .publisher move => ∀ (publisher : Nat) (record : PublisherRecord), enqueuer move = some publisher →
    state.publishers[publisher]? = some record → stored state.queue = [] ∨ Queued state record.descriptor.poolId
  | .subscriber _ => True

variable {before after : Succession}

section Publishers
variable {publisher : Nat} {record next : PublisherRecord} {bytes : Bytes} {closes : Bool} {opened : Option UnreadStream}

theorem touch_grows (publisher : Nat) (bytes : Bytes) (closes : Bool) (stream : UnreadStream) :
    stream.bytes <+: (touch publisher bytes closes stream).bytes := by
  simp only [touch]
  split
  · dsimp only
    split
    · exact List.prefix_rfl
    · exact List.prefix_append _ _
  · exact List.prefix_rfl

theorem touch_closed {stream : UnreadStream} (still : (touch publisher bytes closes stream).closed = false) :
    stream.closed = false := by
  simp only [touch] at still
  split at still
  · exact (Bool.or_eq_false_iff.mp still).1
  · exact still

theorem unlinked_unqueued (inv : Inv before) (found : before.publishers[publisher]? = some record)
    (unlinked : record.linked = false) : ¬Queued before record.descriptor.poolId := by
  rintro ⟨handle, present, same⟩
  obtain ⟨index, owner, also, own, linked⟩ := inv.belongs handle present
  have equal := inv.roster.distinct index publisher owner record also found (own.symm.trans same)
  rw [equal, found] at also
  cases also
  rw [unlinked] at linked
  cases linked

section Moved
variable (moved : Moved before after publisher record next bytes closes opened)
include moved

theorem Announces.grow {index : Nat} {old now : PublisherRecord} (same : now.descriptor = old.descriptor)
    (announces : Announces before index old) : Announces after index now := by
  obtain ⟨frame, frames, stream, present, own, announced⟩ := announces
  refine ⟨frame, (wake_eq moved.queueDescriptor same).trans frames, touch publisher bytes closes stream, ?_, ?_, ?_⟩
  · rw [moved.touched.streams]
    exact List.mem_append_left _ (List.mem_map_of_mem present)
  · rw [touch_publisher]
    exact own
  · exact announced.trans (touch_grows publisher bytes closes stream)

theorem moved_canLearn {index : Nat} {old now : PublisherRecord} (same : now.descriptor = old.descriptor)
    (learns : CanLearn before index old) : CanLearn after index now := by
  rcases learns with viewed | announces
  · left
    rw [(moved_statics moved).2.2.2.2.2, same]
    exact viewed
  · exact .inr (announces.grow moved same)

theorem moved_connected {index : Nat} (connected : Connected after index) :
    Connected before index ∨ index = publisher ∧ record.linked = false := by
  obtain ⟨stream, present, own, running⟩ := connected
  rw [moved.touched.streams] at present
  rcases List.mem_append.mp present with touched | new
  · obtain ⟨origin, member, rfl⟩ := List.mem_map.mp touched
    rw [touch_publisher] at own
    exact .inl ⟨origin, member, own, touch_closed running⟩
  · have opening : opened = some stream := by simpa using new
    exact .inr ⟨own.symm.trans (moved.opens stream opening).1, moved.unlinked (by simp [opening])⟩

/-- A handle in the queue was there, or the publisher has just put it there, with
a Wake if the queue was empty. -/
theorem moved_queued (inv : Inv before) {poolId : UInt64} (queued : Queued after poolId) :
    Queued before poolId ∨ poolId = record.descriptor.poolId ∧ record.connected = true ∧ ¬Fewer before after ∧
      (stored before.queue = [] → before.wake record = some bytes) := by
  obtain ⟨items, held⟩ := inv.held
  obtain ⟨rest, remaining, origin⟩ := moved.adds items held
  obtain ⟨handle, present, same⟩ := queued
  rw [remaining.stored] at present
  by_cases old : handle ∈ items
  · exact .inl ⟨handle, held.stored ▸ old, same⟩
  · rcases origin handle present with was | ⟨own, connected, announced⟩
    · exact absurd was old
    · refine .inr ⟨same.symm.trans own, connected, ?_, fun empty => announced (held.stored.symm.trans empty)⟩
      intro fewer
      obtain ⟨fewerItems, subset, left⟩ := fewer items held
      have equal : rest = fewerItems := remaining.stored.symm.trans left.stored
      exact old (subset (equal ▸ present))

theorem moved_announces (inv : Inv before) (joined : record.connected = true) (connected : Connected before publisher)
    (sent : before.wake record = some bytes) : Announces after publisher next := by
  obtain ⟨stream, present, own, running⟩ := connected
  obtain ⟨owner, frame, count, torn, wired⟩ := inv.wiring.wired stream present
  have same : owner = record := by
    have found := wired.found
    rw [own, moved.found] at found
    exact (Option.some.inj found).symm
  subst same
  have frames := wired.frames
  rw [sent] at frames
  cases frames
  refine ⟨bytes, (wake_eq moved.queueDescriptor moved.descriptor).trans sent, touch publisher bytes closes stream, ?_, ?_, ?_⟩
  · rw [moved.touched.streams]
    exact List.mem_append_left _ (List.mem_map_of_mem present)
  · rw [touch_publisher]
    exact own
  · have grown : (touch publisher bytes closes stream).bytes = repeated bytes (count + 1) [] := by
      simp only [touch, if_pos own, running, Bool.false_eq_true, if_false]
      rw [wired.bytes, wired.whole joined, repeated_append_frame]
    rw [grown]
    exact prefix_repeated (Nat.succ_pos count)

theorem moved_noStranded (inv : Inv before) (safe : NoStranded before)
    (own : stored before.queue = [] ∨ Queued before record.descriptor.poolId ∨ Fewer before after) : NoStranded after := by
  intro index now present connected queued
  obtain ⟨old, found, same⟩ : ∃ old, before.publishers[index]? = some old ∧ now.descriptor = old.descriptor := by
    rcases (moved_lookup moved _ _).mp present with ⟨rfl, rfl⟩ | ⟨_, found⟩
    · exact ⟨record, moved.found, moved.descriptor⟩
    · exact ⟨now, found, rfl⟩
  rw [same] at queued
  rcases moved_queued moved inv queued with was | ⟨pool, joined, more, announced⟩
  · rcases moved_connected moved connected with still | ⟨rfl, unlinked⟩
    · exact moved_canLearn moved same (safe index old found still was)
    · rw [moved.found] at found
      cases found
      exact absurd was (unlinked_unqueued inv moved.found unlinked)
  · have equal := inv.roster.distinct index publisher old record found moved.found pool
    subst equal
    rw [moved.found] at found
    cases found
    have still : Connected before index := by
      rcases moved_connected moved connected with still | ⟨_, unlinked⟩
      · exact still
      · rw [inv.roster.joined index record moved.found joined] at unlinked
        cases unlinked
    rcases own with empty | had | fewer
    · -- the first handle comes with a Wake
      have learns := moved_announces moved inv joined still (announced empty)
      rcases (moved_lookup moved _ _).mp present with ⟨_, rfl⟩ | ⟨other, _⟩
      · exact .inr learns
      · exact absurd rfl other
    · exact moved_canLearn moved same (safe index record moved.found still had)
    · exact absurd fewer more

end Moved

theorem movePublisher_noStranded (inv : Inv before) (safe : NoStranded before) {move : PublisherMove}
    (finds : FindsOwn before (.publisher move)) (taken : before.movePublisher move = some after) : NoStranded after := by
  cases movePublisher_effect inv.shm inv.roster.patient taken with
  | advertised descriptor mover admitted same =>
    subst same
    intro index record found connected queued
    have old : before.publishers[index]? = some record := by
      obtain ⟨stream, present, own, _⟩ := connected
      obtain ⟨owner, _, _, _, wired⟩ := inv.wiring.wired stream present
      have was := wired.found
      rw [own] at was
      rcases (advertised_lookup index record).mp found with had | ⟨last, _⟩
      · exact had
      · rw [last, List.getElem?_eq_none (Nat.le_refl _)] at was
        cases was
    exact safe index record old connected queued
  | moved moved mover =>
    refine moved_noStranded moved inv safe ?_
    rcases mover with enqueues | fewer
    · exact (finds _ _ enqueues moved.found).imp_right .inl
    · exact .inr (.inr fewer)
  | reported found mover killed same =>
    subst same
    exact safe

end Publishers

section Subscriber

theorem local_queued (inv : Inv before) (frame : Local before after) {poolId : UInt64} (queued : Queued after poolId) :
    Queued before poolId := by
  obtain ⟨items, held⟩ := inv.held
  obtain ⟨rest, subset, remaining⟩ := frame.fewer items held
  obtain ⟨handle, present, same⟩ := queued
  exact ⟨handle, held.stored ▸ subset (remaining.stored ▸ present), same⟩

theorem NoStranded.keep (safe : NoStranded before) (inv : Inv before) (frame : Local before after)
    (same : streams after = streams before) (view : after.subscriber.poolView = before.subscriber.poolView) :
    NoStranded after := by
  intro publisher record found connected queued
  rw [frame.publishers] at found
  have still : Connected before publisher := by
    unfold Connected at connected
    rwa [same] at connected
  rcases safe publisher record found still (local_queued inv frame queued) with viewed | ⟨frames, sent, announced⟩
  · exact .inl (view.trans viewed)
  · refine .inr ⟨frames, (wake_eq frame.queueDescriptor rfl).trans sent, ?_⟩
    rw [same]
    exact announced

/-- Who waits in the backlog is not viewed, so its Wake is unread there. -/
theorem waiting_announces (inv : Inv before) {socket : DataSocket} (waiting : socket ∈ before.backlog)
    {record : PublisherRecord} (found : before.publishers[socket.publisher]? = some record)
    (learns : CanLearn before socket.publisher record) :
    ∃ frame, before.wake record = some frame ∧ frame <+: socket.pending := by
  have listed : socket.publisher ∈ before.backlog.map (·.publisher) := List.mem_map_of_mem waiting
  rcases learns with viewed | ⟨frame, frames, stream, present, own, announced⟩
  · obtain ⟨_, index, owner, also, same, _, absent⟩ := inv.memory.viewed _ viewed
    have equal := inv.roster.distinct index socket.publisher owner record also found (by rw [same])
    exact absurd listed (equal ▸ absent)
  · refine ⟨frame, frames, ?_⟩
    -- each publisher has one stream
    have mine : (⟨socket.publisher, socket.closed, socket.pending⟩ : UnreadStream) ∈ streams before :=
      List.mem_append_right _ (List.mem_map.mpr ⟨socket, waiting, rfl⟩)
    rw [List.inj_on_of_nodup_map inv.wiring.owners present mine own] at announced
    exact announced

/-- The accepted connection is dropped, or is now that of a publisher whose pool
is viewed. -/
theorem NoStranded.narrow (safe : NoStranded before) (inv : Inv before) (frame : Local before after)
    (backlog : after.backlog = before.backlog)
    (accepted : ∀ socket, after.subscriber.connection = some socket → ∀ record : PublisherRecord,
      before.publishers[socket.publisher]? = some record → after.subscriber.poolView = some record.descriptor) :
    NoStranded after := by
  intro publisher record found connected queued
  rw [frame.publishers] at found
  obtain ⟨stream, present, own, running⟩ := connected
  rcases List.mem_append.mp present with current | waiting
  · obtain ⟨socket, connection, rfl⟩ : ∃ socket, after.subscriber.connection = some socket ∧
        stream = ⟨socket.publisher, socket.closed, after.subscriber.headerBuffer ++ socket.pending⟩ := by
      simpa [eq_comm] using current
    subst own
    exact .inl (accepted socket connection record found)
  · obtain ⟨socket, member, rfl⟩ := List.mem_map.mp waiting
    subst own
    rw [backlog] at member
    have mine : (⟨socket.publisher, socket.closed, socket.pending⟩ : UnreadStream) ∈ streams before :=
      List.mem_append_right _ (List.mem_map.mpr ⟨socket, member, rfl⟩)
    have learns := safe socket.publisher record found ⟨_, mine, rfl, running⟩ (local_queued inv frame queued)
    obtain ⟨sent, frames, announced⟩ := waiting_announces inv member found learns
    exact .inr ⟨sent, (wake_eq frame.queueDescriptor rfl).trans frames, _, present, rfl, announced⟩

theorem moveSubscriber_noStranded (inv : Inv before) (safe : NoStranded before) {move : SubscriberMove}
    (taken : before.moveSubscriber move = some after) : NoStranded after := by
  obtain ⟨frame, effect⟩ := moveSubscriber_effect inv.shm taken
  cases effect with
  | quiet same lost => exact safe.keep inv frame (streams_unchanged same) same.poolView
  | lost same => exact safe.keep inv frame (streams_unchanged same) same.poolView
  | subscribed same first =>
    subst same
    exact safe.keep inv frame rfl rfl
  | accepted socket rest waiting accepting same =>
    subst same
    exact safe.keep inv frame (streams_accepted (inv.idle (.inr accepting)) waiting) rfl
  | buffered socket count found same =>
    subst same
    exact safe.keep inv frame (streams_buffered found count) rfl
  | read socket count segment found full accepted error subscriber backlog =>
    obtain ⟨record, sent, copies, torn, wired, installed⟩ := read_installs inv found full rfl accepted
    rw [installed] at subscriber
    refine safe.narrow inv frame backlog ?_
    intro current connection owner present
    have same : current = { socket with pending := socket.pending.drop count } := by
      rw [subscriber] at connection
      exact (Option.some.inj connection).symm
    have viewed : after.subscriber.poolView = some record.descriptor := by rw [subscriber]
    rw [same] at present
    have equal : record = owner := Option.some.inj (wired.found.symm.trans present)
    rw [← equal]
    exact viewed
  | dropped connection header discovered view backlog quiet =>
    refine safe.narrow inv frame backlog ?_
    intro socket found
    rw [connection] at found
    cases found
  | forgot poolId reason resets connection header discovered view backlog quiet =>
    refine safe.narrow inv frame backlog ?_
    intro socket found
    rw [connection] at found
    cases found

end Subscriber

theorem step_noStranded (inv : Inv before) (safe : NoStranded before) {event : SuccessionEvent}
    (finds : FindsOwn before event) (taken : before.step event = some after) : NoStranded after := by
  cases event with
  | subscriber move => exact moveSubscriber_noStranded inv safe taken
  | publisher move => exact movePublisher_noStranded inv safe finds taken

/-- In every run in which no enqueue finds only handles of other pools, the
subscriber can learn the pool of every queued handle of a connected publisher. -/
theorem queued_sample_reachable {maxMessageSize topicId : UInt64} {descriptor : QueueDescriptor}
    {queue : SharedSubscriberQueue} (created : SharedSubscriberQueue.create descriptor = .ok queue)
    {events : List SuccessionEvent} {state : Succession}
    (finds : Along step FindsOwn (start .sharedMemory maxMessageSize topicId descriptor queue) events)
    (run : execute step (start .sharedMemory maxMessageSize topicId descriptor queue) events = some state)
    {publisher : Nat} {record : PublisherRecord} (found : state.publishers[publisher]? = some record)
    (connected : Connected state publisher) (queued : Queued state record.descriptor.poolId) :
    CanLearn state publisher record := by
  have kept (state : Succession) (event : SuccessionEvent) (next : Succession) (held : Inv state ∧ NoStranded state)
      (finds : FindsOwn state event) (taken : state.step event = some next) : Inv next ∧ NoStranded next :=
    ⟨step_inv held.1 taken, step_noStranded held.1 held.2 finds taken⟩
  have none : NoStranded (start .sharedMemory maxMessageSize topicId descriptor queue) := by
    intro publisher record found
    simp [start] at found
  exact (finds.invariant kept ⟨start_inv created, none⟩ run).2 publisher record found connected queued

def checkFindsOwn (state : Succession) : SuccessionEvent → Bool
  | .publisher move => ((enqueuer move).bind (state.publishers[·]?)).all fun record =>
    (stored state.queue).isEmpty || (stored state.queue).any fun handle => handle.poolId == record.descriptor.poolId
  | .subscriber _ => true

theorem findsOwn_of_check (state : Succession) (event : SuccessionEvent) (checked : checkFindsOwn state event = true) :
    FindsOwn state event := by
  cases event with
  | subscriber move => trivial
  | publisher move =>
    intro publisher record enqueues found
    simpa [checkFindsOwn, enqueues, found, Queued] using checked

def firstSample : List SuccessionEvent :=
  [.publisher (.advertise firstPool), .subscriber .subscribe, .publisher (.connect 0 {}),
    .publisher (.enqueue 0 ⟨1, 0, 1, 320⟩ kQueueWakeSize {})]

set_option maxRecDepth 4000 in
theorem firstSample_runs :
    ∃ queue state record, SharedSubscriberQueue.create sampleQueue = .ok queue ∧
      Along step FindsOwn (start .sharedMemory 64 1 sampleQueue queue) firstSample ∧
      execute step (start .sharedMemory 64 1 sampleQueue queue) firstSample = some state ∧
      state.publishers[0]? = some record ∧ Connected state 0 ∧ Queued state record.descriptor.poolId :=
  ⟨_, _, _, rfl, along_of_check findsOwn_of_check rfl, rfl, rfl, ⟨_, List.mem_singleton.mpr rfl, rfl, rfl⟩,
    ⟨⟨1, 0, 1, 320⟩, List.mem_singleton.mpr rfl, rfl⟩⟩

theorem queued_sample_reachable_first :
    ∃ queue state record, SharedSubscriberQueue.create sampleQueue = .ok queue ∧
      Along step FindsOwn (start .sharedMemory 64 1 sampleQueue queue) firstSample ∧
      execute step (start .sharedMemory 64 1 sampleQueue queue) firstSample = some state ∧
      state.publishers[0]? = some record ∧ Connected state 0 ∧ Queued state record.descriptor.poolId ∧
      CanLearn state 0 record := by
  obtain ⟨queue, state, record, created, finds, run, found, connected, queued⟩ := firstSample_runs
  exact ⟨queue, state, record, created, finds, run, found, connected, queued,
    queued_sample_reachable created finds run found connected queued⟩

/-- The publisher is killed before the subscriber takes the sample. Its successor
connects and enqueues behind that sample. The subscriber processes the death
notice, finds the pool of the dead publisher gone, and accepts the successor. -/
def succeedBehind : List SuccessionEvent :=
  firstSample ++
    [.publisher (.kill 0 none), .publisher (.cleanupDeadNode 0), .publisher (.advertise secondPool),
      .publisher (.connect 1 {}), .publisher (.enqueue 1 ⟨2, 0, 1, 320⟩ kQueueWakeSize {}),
      .subscriber (.call 1), .subscriber (.processDeath {}), .subscriber .reset, .subscriber (.processDeath {}),
      .subscriber (.peek {}), .subscriber (.poll .ready), .subscriber (.accept true), .subscriber (.poll .ready),
      .subscriber (.recv (.bytes kQueueWakeSize) .notFound),
      .subscriber (.call 0), .subscriber (.processDeath {}), .subscriber (.peek {}), .subscriber (.poll .ready),
      .subscriber (.accept true)]

set_option maxRecDepth 4000 in
/-- The subscriber polls the connection of the live successor, whose sample is
the only one in the queue, and has neither a view of its pool nor a byte to read. -/
theorem successor_stranded :
    ∃ queue state record, SharedSubscriberQueue.create sampleQueue = .ok queue ∧
      execute step (start .sharedMemory 64 1 sampleQueue queue) succeedBehind = some state ∧
      state.publishers[1]? = some record ∧ record.status = .live ∧ Connected state 1 ∧
      stored state.queue = [⟨2, 0, 1, 320⟩] ∧ Queued state record.descriptor.poolId ∧ state.phase = .polling ∧
      ¬CanLearn state 1 record := by
  refine ⟨_, _, _, rfl, rfl, rfl, rfl, ⟨_, List.mem_singleton.mpr rfl, rfl, rfl⟩, rfl,
    ⟨⟨2, 0, 1, 320⟩, List.mem_singleton.mpr rfl, rfl⟩, rfl, ?_⟩
  rintro (viewed | ⟨frame, frames, stream, present, _, announced⟩)
  · cases viewed
  · have nothing : stream.bytes = [] := by
      rw [List.mem_singleton.mp present]
      rfl
    rw [nothing] at announced
    have length := wake_length frames
    rw [List.prefix_nil.mp announced] at length
    cases length

/-- Handles, unread bytes, pool views and death notices belong to one publisher each. -/
structure KeptApart (state : Succession) : Prop where
  handles : ∀ handle ∈ stored state.queue, ∃! index : Nat, ∃ record : PublisherRecord, state.publishers[index]? = some record ∧
    handle.poolId = record.descriptor.poolId ∧ record.linked = true
  unread : ∀ stream ∈ streams state, ∃ record frame count torn, state.publishers[stream.publisher]? = some record ∧
    state.wake record = some frame ∧ stream.bytes = Lib.Framing.repeated frame count torn ∧ torn.length < frame.length ∧
    (record.connected = true → torn = [])
  viewed : ∀ view, state.subscriber.poolView = some view → ∃ record ∈ state.publishers, view = record.descriptor ∧
    record.linked = true
  dead : ∀ event ∈ pendingDeaths state, ∃ record : PublisherRecord, state.publishers[event.publisher]? = some record ∧
    record.status = .killed ∧ event.resourceId = record.descriptor.poolId

/-- Whatever publishers a topic has had and however they left, nothing of one is
taken for another's. -/
theorem publishers_kept_apart {maxMessageSize topicId : UInt64} {descriptor : QueueDescriptor} {queue : SharedSubscriberQueue}
    (created : SharedSubscriberQueue.create descriptor = .ok queue) {events : List SuccessionEvent} {state : Succession}
    (run : execute step (start .sharedMemory maxMessageSize topicId descriptor queue) events = some state) :
    KeptApart state := by
  have inv : Inv state := execute_invariant (fun _ _ _ held taken => step_inv held taken) (start_inv created) run
  refine ⟨fun handle present => ?_, fun stream present => ?_, fun view viewing => ?_, inv.dead⟩
  · obtain ⟨index, record, found, own, linked⟩ := inv.belongs handle present
    refine ⟨index, ⟨record, found, own, linked⟩, ?_⟩
    rintro other ⟨second, also, same, _⟩
    exact inv.roster.distinct other index second record also found (same.symm.trans own)
  · obtain ⟨record, frame, count, torn, wired⟩ := inv.wiring.wired stream present
    exact ⟨record, frame, count, torn, wired.found, wired.frames, wired.bytes, wired.short, wired.whole⟩
  · obtain ⟨_, index, record, found, same, linked, _⟩ := inv.memory.viewed view viewing
    exact ⟨record, List.mem_of_getElem? found, same, linked⟩

set_option maxRecDepth 4000 in
theorem publishers_kept_apart_succeeded : ∃ queue state, SharedSubscriberQueue.create sampleQueue = .ok queue ∧
    execute step (start .sharedMemory 64 1 sampleQueue queue) succeedBehind = some state ∧ state.publishers.length = 2 ∧
    stored state.queue = [⟨2, 0, 1, 320⟩] ∧ KeptApart state := by
  refine ⟨_, _, rfl, rfl, rfl, rfl, ?_⟩
  exact @publishers_kept_apart 64 1 sampleQueue _ rfl succeedBehind _ rfl

end RobotMiddleware.Proofs.StrandedSamples
