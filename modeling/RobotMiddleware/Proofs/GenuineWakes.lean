import RobotMiddleware.Lib.Transitions
import RobotMiddleware.Proofs.SuccessionInvariant

/-! When a genuine Wake is accepted. The subscriber remembers a pool from the
reply to its subscription and from Wakes, and it refuses a Wake with any other
pool. It forgets a publisher on the end of its connection or on a death notice,
but a publisher that never connected and leaves in order gives neither. If no
pool of a predecessor is remembered when the connection of the registered
publisher is accepted, all its Wakes are taken. -/

namespace RobotMiddleware.Proofs.GenuineWakes
open Lib.Transitions QueueRefinement Succession SuccessionEffects SubscriberEffects SuccessionInvariant

def RemembersOnly (subscriber : Subscriber) (descriptor : PoolDescriptor) : Prop :=
  subscriber.discoveredPool.poolId = 0 ∨ subscriber.discoveredPool.poolId = descriptor.poolId

/-- When the connection of the registered publisher is accepted, every predecessor
is forgotten. -/
def ForgotPredecessors (state : Succession) : SuccessionEvent → Prop
  | .subscriber (.accept true) => ∀ (socket : DataSocket) (rest : List DataSocket) (record : PublisherRecord),
    state.backlog = socket :: rest → state.registered = some socket.publisher →
    state.publishers[socket.publisher]? = some record → RemembersOnly state.subscriber record.descriptor
  | _ => True

/-- On the connection of the registered publisher no other pool is remembered. -/
def Attentive (state : Succession) : Prop :=
  ∀ (socket : DataSocket) (record : PublisherRecord), state.subscriber.connection = some socket →
    state.registered = some socket.publisher → state.publishers[socket.publisher]? = some record →
    RemembersOnly state.subscriber record.descriptor

variable {before after : Succession}

theorem movePublisher_attentive (inv : Inv before) (attentive : Attentive before) {move : PublisherMove}
    (taken : before.movePublisher move = some after) : Attentive after := by
  cases movePublisher_effect inv.shm inv.roster.patient taken with
  | advertised descriptor mover admitted same =>
    subst same
    intro socket record connected registered found
    -- the connection was there before the new publisher
    have accepted : before.subscriber.connection = some socket := connected
    obtain ⟨owner, _, _, _, wired⟩ := accepted_wired inv accepted
    have last : before.publishers.length = socket.publisher := Option.some.inj registered
    have inside : socket.publisher < before.publishers.length := (List.getElem?_eq_some_iff.mp wired.found).1
    omega
  | moved moved =>
    intro socket record connected registered found
    obtain ⟨change, changed, subscriber⟩ := moved.touched.accepted
    obtain ⟨origin, was, rfl⟩ : ∃ origin, before.subscriber.connection = some origin ∧ change origin = socket := by
      rw [subscriber] at connected
      exact Option.map_eq_some_iff.mp connected
    rw [(changed origin).1] at registered found
    have still : before.registered = some origin.publisher := by
      rcases moved.registered with same | none
      · exact same.symm.trans registered
      · rw [none] at registered
        cases registered
    obtain ⟨old, had, same⟩ : ∃ old, before.publishers[origin.publisher]? = some old ∧
        record.descriptor = old.descriptor := by
      rcases (moved_lookup moved _ _).mp found with ⟨own, rfl⟩ | ⟨_, had⟩
      · exact ⟨_, own ▸ moved.found, moved.descriptor⟩
      · exact ⟨record, had, rfl⟩
    have remembers := attentive origin old was still had
    rw [same]
    simpa only [RemembersOnly, (moved_statics moved).2.2.2.2.1] using remembers
  | reported found mover killed same =>
    subst same
    intro socket record _ registered
    cases registered

theorem Attentive.keep (attentive : Attentive before) (frame : Local before after)
    (connection : after.subscriber.connection.map (·.publisher) = before.subscriber.connection.map (·.publisher))
    (discovered : after.subscriber.discoveredPool = before.subscriber.discoveredPool) : Attentive after := by
  intro socket record connected registered found
  rw [frame.publishers] at found
  rw [frame.registered] at registered
  rw [connected] at connection
  obtain ⟨origin, was, same⟩ := Option.map_eq_some_iff.mp connection.symm
  dsimp only at same
  rw [← same] at registered found
  simpa only [RemembersOnly, discovered] using attentive origin record was registered found

theorem attentive_unconnected (none : after.subscriber.connection = none) : Attentive after := by
  intro socket record connected
  rw [none] at connected
  cases connected

theorem moveSubscriber_attentive (inv : Inv before) (attentive : Attentive before) {move : SubscriberMove}
    (forgot : ForgotPredecessors before (.subscriber move)) (taken : before.moveSubscriber move = some after) :
    Attentive after := by
  obtain ⟨frame, effect⟩ := moveSubscriber_effect inv.shm taken
  cases effect with
  | quiet same lost => exact attentive.keep frame (by rw [same.connection]) same.discoveredPool
  | lost same => exact attentive.keep frame (by rw [same.connection]) same.discoveredPool
  | subscribed same first =>
    subst same
    exact attentive_unconnected (inv.fresh first).1
  | accepted socket rest waiting accepting same =>
    subst same
    intro current record connected registered found
    cases connected
    cases move with
    | accept answer =>
      cases answer with
      | true => exact forgot socket rest record waiting registered found
      | false => simp [moveSubscriber, accepting, repeatLoop, inv.shm] at taken
    | recv =>
      simp only [moveSubscriber] at taken
      split at taken
      · simp [Succession.recv, accepting] at taken
      · cases taken
    | _ => simp [moveSubscriber, Succession.poll, accepting] at taken
  | buffered socket count found same =>
    subst same
    exact attentive.keep frame (by rw [found]; rfl) rfl
  | read socket count segment found full accepted error subscriber =>
    obtain ⟨record, sent, copies, torn, wired, installed⟩ := read_installs inv found full rfl accepted
    rw [installed] at subscriber
    intro current owner now registered present
    have same : current = { socket with pending := socket.pending.drop count } := by
      rw [subscriber] at now
      exact (Option.some.inj now).symm
    rw [frame.publishers, same] at present
    have equal : record = owner := Option.some.inj (wired.found.symm.trans present)
    right
    rw [subscriber, ← equal]
  | dropped connection => exact attentive_unconnected connection
  | forgot poolId reason resets connection => exact attentive_unconnected connection

theorem step_attentive (inv : Inv before) (attentive : Attentive before) {event : SuccessionEvent}
    (forgot : ForgotPredecessors before event) (taken : before.step event = some after) : Attentive after := by
  cases event with
  | subscriber move => exact moveSubscriber_attentive inv attentive forgot taken
  | publisher move => exact movePublisher_attentive inv attentive taken

/-- A pool with an id of its own is remembered with all its fields. -/
theorem remembers_of_only (inv : Inv before) {publisher : Nat} {record : PublisherRecord}
    (found : before.publishers[publisher]? = some record) (only : RemembersOnly before.subscriber record.descriptor) :
    before.subscriber.discoveredPool.shmName = [] ∧ before.subscriber.poolView = none ∨
      before.subscriber.discoveredPool = record.descriptor := by
  rcases inv.memory.remembered with ⟨unnamed, zero⟩ | ⟨index, owner, present, same⟩
  · refine .inl ⟨unnamed, ?_⟩
    cases viewing : before.subscriber.poolView with
    | none => rfl
    | some view =>
      -- a view is remembered, with the id of its pool
      obtain ⟨equal, index, owner, present, own, _⟩ := inv.memory.viewed view viewing
      rw [equal, own] at zero
      exact absurd zero (inv.roster.admitted index owner present).poolId
  · right
    rcases only with zero | own
    · rw [same] at zero
      exact absurd zero (inv.roster.admitted index owner present).poolId
    · rw [same] at own
      have equal := inv.roster.distinct index publisher owner record present found own
      rw [equal, found] at present
      cases present
      exact same

theorem wake_taken (inv : Inv before) {publisher : Nat} {record : PublisherRecord} {filled : Subscriber}
    (found : before.publishers[publisher]? = some record) (only : RemembersOnly before.subscriber record.descriptor)
    (same : filled = { before.subscriber with connection := filled.connection, headerBuffer := filled.headerBuffer })
    (frames : before.wake record = some filled.headerBuffer) : (filled.takeWake .opened).1 = .ok := by
  have admitted := inv.roster.admitted publisher record found
  have statics : filled.topicId = before.subscriber.topicId ∧ filled.queueId = before.subscriber.queueId ∧
      filled.discoveredPool = before.subscriber.discoveredPool ∧ filled.poolView = before.subscriber.poolView := by
    rw [same]
    exact ⟨rfl, rfl, rfl, rfl⟩
  obtain ⟨topic, queue, discovered, view⟩ := statics
  rw [← topic] at admitted
  rw [Succession.wake, ← inv.queueId.1, ← queue] at frames
  rw [takeWake_genuine admitted (queue ▸ inv.queueId.1 ▸ inv.queueId.2) frames]
  have opens : MemoryPoolView.openPool record.descriptor filled.topicId .opened = .ok := by
    rw [MemoryPoolView.openPool, if_neg]
    simp [admitted.poolId, admitted.topic, admitted.layoutVersion, admitted.segmentSize]
  rcases remembers_of_only inv found only with ⟨unnamed, unviewed⟩ | own
  · rw [if_neg (by simp [Subscriber.remembers, discovered, unnamed]), view, unviewed]
    simp only [opens]
  · rw [if_neg (by simp [Subscriber.remembers, discovered, own]), view]
    cases viewing : before.subscriber.poolView with
    | none => simp only [opens]
    | some pool =>
      have equal := (inv.memory.viewed pool viewing).1
      rw [← equal, own]
      simp

/-- In every run in which the subscriber has forgotten all predecessors when it
accepts the registered publisher, a `recv` that completes a Wake of that publisher
succeeds. -/
theorem genuine_wake_accepted {maxMessageSize topicId : UInt64} {descriptor : QueueDescriptor}
    {queue : SharedSubscriberQueue} (created : SharedSubscriberQueue.create descriptor = .ok queue)
    {events : List SuccessionEvent} {state : Succession}
    (forgot : Along step ForgotPredecessors (start .sharedMemory maxMessageSize topicId descriptor queue) events)
    (run : execute step (start .sharedMemory maxMessageSize topicId descriptor queue) events = some state)
    {socket : DataSocket} {record : PublisherRecord} {count : Nat}
    (connected : state.subscriber.connection = some socket) (registered : state.registered = some socket.publisher)
    (found : state.publishers[socket.publisher]? = some record)
    (complete : state.wake record = some (state.subscriber.headerBuffer ++ socket.pending.take count)) :
    (state.subscriber.receiveWake socket (.bytes count) .opened).1 = some .ok := by
  have kept (state : Succession) (event : SuccessionEvent) (next : Succession) (held : Inv state ∧ Attentive state)
      (forgot : ForgotPredecessors state event) (taken : state.step event = some next) : Inv next ∧ Attentive next :=
    ⟨step_inv held.1 taken, step_attentive held.1 held.2 forgot taken⟩
  have unconnected : Attentive (start .sharedMemory maxMessageSize topicId descriptor queue) := attentive_unconnected rfl
  obtain ⟨inv, attentive⟩ := forgot.invariant kept ⟨start_inv created, unconnected⟩ run
  have only := attentive socket record connected registered found
  have length := wake_length complete
  simp only [Subscriber.receiveWake]
  rw [if_neg (by omega)]
  exact congrArg some (wake_taken inv found only rfl complete)

def checkForgot (state : Succession) : SuccessionEvent → Bool
  | .subscriber (.accept true) =>
    (state.backlog.head?.bind fun socket => state.publishers[socket.publisher]?).all fun record =>
      state.subscriber.discoveredPool.poolId == 0 || state.subscriber.discoveredPool.poolId == record.descriptor.poolId
  | _ => true

theorem forgot_of_check (state : Succession) (event : SuccessionEvent) (checked : checkForgot state event = true) :
    ForgotPredecessors state event := by
  cases event with
  | publisher move => trivial
  | subscriber move =>
    cases move with
    | accept answer =>
      cases answer with
      | false => trivial
      | true =>
        intro socket rest record waiting _ found
        simpa [checkForgot, waiting, found, RemembersOnly] using checked
    | _ => trivial

/-- A call accepts the first connection and finds it readable. -/
def acceptFirst : List SuccessionEvent :=
  [.subscriber (.call 0), .subscriber (.processDeath {}), .subscriber (.peek {}), .subscriber (.poll .ready),
    .subscriber (.accept true), .subscriber (.poll .ready)]

/-- The publisher that the subscriber knows from its subscription is killed, and the
notice of its death comes before the connection of its successor. -/
def forgottenPublisher : List SuccessionEvent :=
  [.publisher (.advertise firstPool), .subscriber .subscribe, .publisher (.kill 0 none), .publisher (.cleanupDeadNode 0),
    .publisher (.advertise secondPool), .publisher (.connect 1 {}),
    .publisher (.enqueue 1 ⟨2, 0, 1, 320⟩ kQueueWakeSize {}), .subscriber (.call 1), .subscriber (.processDeath {}),
    .subscriber .reset] ++ acceptFirst.tail

set_option maxRecDepth 4000 in
theorem forgottenPublisher_runs :
    ∃ queue state socket record, SharedSubscriberQueue.create sampleQueue = .ok queue ∧
      Along step ForgotPredecessors (start .sharedMemory 64 1 sampleQueue queue) forgottenPublisher ∧
      execute step (start .sharedMemory 64 1 sampleQueue queue) forgottenPublisher = some state ∧
      state.subscriber.connection = some socket ∧ socket.publisher = 1 ∧ state.registered = some socket.publisher ∧
      state.publishers[socket.publisher]? = some record ∧
      state.wake record = some (state.subscriber.headerBuffer ++ socket.pending.take kQueueWakeSize) :=
  ⟨_, _, _, _, rfl, along_of_check forgot_of_check rfl, rfl, rfl, rfl, rfl, rfl, rfl⟩

theorem genuine_wake_accepted_succeeded :
    ∃ queue state socket, SharedSubscriberQueue.create sampleQueue = .ok queue ∧
      Along step ForgotPredecessors (start .sharedMemory 64 1 sampleQueue queue) forgottenPublisher ∧
      execute step (start .sharedMemory 64 1 sampleQueue queue) forgottenPublisher = some state ∧
      state.subscriber.connection = some socket ∧ socket.publisher = 1 ∧
      (state.subscriber.receiveWake socket (.bytes kQueueWakeSize) .opened).1 = some .ok := by
  obtain ⟨queue, state, socket, record, created, forgot, run, connected, second, registered, found, complete⟩ :=
    forgottenPublisher_runs
  exact ⟨queue, state, socket, created, forgot, run, connected, second,
    genuine_wake_accepted created forgot run connected registered found complete⟩

/-- The publisher that the subscriber knows from its subscription leaves in order
and has never connected. -/
def unknownPublisher : List SuccessionEvent :=
  [.publisher (.advertise firstPool), .subscriber .subscribe, .publisher (.destroy 0 {}), .publisher (.unadvertise 0),
    .publisher (.advertise secondPool), .publisher (.connect 1 {}),
    .publisher (.enqueue 1 ⟨2, 0, 1, 320⟩ kQueueWakeSize {})] ++ acceptFirst

set_option maxRecDepth 4000 in
/-- The first Wake of its successor is refused. -/
theorem genuine_wake_refused :
    ∃ queue state socket record, SharedSubscriberQueue.create sampleQueue = .ok queue ∧
      execute step (start .sharedMemory 64 1 sampleQueue queue) unknownPublisher = some state ∧
      state.subscriber.connection = some socket ∧ state.registered = some socket.publisher ∧
      state.publishers[socket.publisher]? = some record ∧ record.status = .live ∧
      state.wake record = some (state.subscriber.headerBuffer ++ socket.pending.take kQueueWakeSize) ∧
      state.subscriber.discoveredPool = firstPool ∧
      (state.subscriber.receiveWake socket (.bytes kQueueWakeSize) .opened).1 = some .invalidSharedMemory :=
  ⟨_, _, _, _, rfl, rfl, rfl, rfl, rfl, rfl, rfl, rfl, rfl⟩

end RobotMiddleware.Proofs.GenuineWakes
