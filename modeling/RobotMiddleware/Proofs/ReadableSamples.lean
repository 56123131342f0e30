import RobotMiddleware.Proofs.RecordedSamples
import RobotMiddleware.Proofs.SolePublisher
import RobotMiddleware.Proofs.TopicObligations

/-! Every sample that a connected subscriber has yet to take can be read, with the
sequence number and the size that its call gave it. Its chunk is referenced by the
subscriber's connection, so nothing overwrites it, and its size keeps to the limit
of the subscriber. -/

namespace RobotMiddleware.Proofs.ReadableSamples
open Std Lib.Transitions PoolRuns PublishedContents PublisherAccounting PublisherCalls QueueContents ReferenceAccounting
  QueueRefinement SubscriberSteps SolePublisher TopicInvariant TopicCalls TopicRuns TopicSizes TopicObligations RecordedSamples

variable {recorded next : RecordedTopic} {dispatch : Dispatch} {losses : List ChunkHandle → Prop}

/-- A connected endpoint has yet to take the sample, or it is being dispatched. -/
def Live (recorded : RecordedTopic) (dispatch : Dispatch) : Prop :=
  (∃ endpointId ∈ endpoints recorded.topic.publisher.connections, dispatch ∈ awaiting recorded.history endpointId) ∨
    ∃ progress, calling recorded.topic.phase = some (dispatch, progress)

variable {endpointId : UInt64} {subscriber : SubscriberEnd} {loans : List ChunkHandle}

theorem Matches.burden {history : SampleHistory}
    (same : Matches history endpointId subscriber) (waits : dispatch ∈ awaiting history endpointId) :
    dispatch.handle ∈ burden subscriber := by
  rcases List.mem_append.mp waits with inHand | queued
  · have member := List.mem_map_of_mem (f := Dispatch.handle) inHand
    rw [same.inHand] at member
    split at member
    · exact List.mem_append_left _ (List.mem_append_right _ member)
    · cases member
  · have member := List.mem_map_of_mem (f := Dispatch.handle) queued
    rw [same.queued] at member
    exact List.mem_append_left _ (List.mem_append_left _ member)

theorem Live.counted (live : Live recorded dispatch) (tracked : Tracked losses recorded.topic)
    (matched : Recorded recorded.history recorded.topic.subscribers) :
    dispatch.handle ∈ owed recorded.topic.publisher.connections ++ guards recorded.topic.phase := by
  rcases live with ⟨endpointId, joined, waits⟩ | ⟨progress, busy⟩
  · obtain ⟨connection, member, rfl⟩ := List.mem_map.mp joined
    obtain ⟨subscriber, found, _⟩ := tracked.covers.covered connection member
    exact tracked.counted member found (Matches.burden (matched.known _ _ found) waits)
  · refine List.mem_append_right _ ?_
    cases phase : recorded.topic.phase with
    | idle => rw [phase] at busy; cases busy
    | serving | waiting | enqueued => rw [phase] at busy; cases busy; simp [guards]

theorem carries_kept {before after : MemoryPool} {new : Option UInt32} {held : List ChunkHandle}
    (carries : Carries before dispatch) (retains : Retains new before after) (accounted : Accounted after held loans)
    (counted : dispatch.handle ∈ held) (old : some dispatch.handle.chunkIndex ≠ new) : Carries after dispatch := by
  obtain ⟨inside, _, published⟩ := accounted.published_of_held counted
  exact carries.retained retains old ((accounted.valid.headers _ inside).references.mpr published)

structure Readable (recorded : RecordedTopic) : Prop where
  tracked : Tracked (fun _ => True) recorded.topic
  fitting : Fitting recorded.topic
  matched : Recorded recorded.history recorded.topic.subscribers
  carried : ∀ dispatch, Live recorded dispatch → Carries recorded.topic.publisher.pool dispatch
  limited : ∀ (endpointId : UInt64) (subscriber : SubscriberEnd), recorded.topic.subscribers[endpointId]? = some subscriber →
    ∀ dispatch ∈ awaiting recorded.history endpointId, dispatch.payloadSize ≤ subscriber.maxMessageSize

/-- A step that publishes nothing and makes no other sample live. -/
theorem Readable.keep (readable : Readable recorded) (tracked : Tracked losses next.topic)
    (matched : Recorded next.history next.topic.subscribers)
    (retains : Retains none recorded.topic.publisher.pool next.topic.publisher.pool)
    (fewer : ∀ dispatch, Live next dispatch → Live recorded dispatch) (live : Live next dispatch) :
    Carries next.topic.publisher.pool dispatch :=
  carries_kept (readable.carried dispatch (fewer dispatch live)) retains tracked.settled.accounted
    (live.counted tracked matched) (by simp)

theorem HistoryStep.elsewhere {pool : MemoryPool} {other : UInt64} {new : List Dispatch}
    {before after : SampleHistory} (step : HistoryStep pool endpointId subscriber new before after) (apart : other ≠ endpointId) :
    awaiting after other = awaiting before other := by
  rw [awaiting, step.queued other apart, step.inHand other apart, awaiting]

theorem HistoryStep.waited {pool : MemoryPool} {other : UInt64} {new : List Dispatch}
    {before after : SampleHistory} (step : HistoryStep pool endpointId subscriber new before after)
    (waits : dispatch ∈ awaiting after other) : dispatch ∈ awaiting before other ∨ other = endpointId ∧ dispatch ∈ new := by
  by_cases same : other = endpointId
  · subst same
    rcases List.mem_append.mp (step.awaiting.subset waits) with old | added
    · exact .inl old
    · exact .inr ⟨rfl, added⟩
  · rw [HistoryStep.elsewhere step same] at waits
    exact .inl waits

theorem Live.earlier (joined : endpoints next.topic.publisher.connections ⊆ endpoints recorded.topic.publisher.connections)
    (waited : ∀ endpointId dispatch, dispatch ∈ awaiting next.history endpointId →
      dispatch ∈ awaiting recorded.history endpointId ∨ ∃ progress, calling recorded.topic.phase = some (dispatch, progress))
    (called : ∀ dispatch progress, calling next.topic.phase = some (dispatch, progress) →
      ∃ before, calling recorded.topic.phase = some (dispatch, before)) (live : Live next dispatch) : Live recorded dispatch := by
  rcases live with ⟨endpointId, present, waits⟩ | ⟨progress, busy⟩
  · rcases waited endpointId dispatch waits with old | new
    · exact .inl ⟨endpointId, joined present, old⟩
    · exact .inr new
  · exact .inr (called dispatch progress busy)

section Called
variable {answers : RefreshAnswers} {prepared : (PublishResult ⊕ Dispatch) × Publisher}
  (readable : Readable recorded) (idle : recorded.topic.phase = .idle)
  (effect : Prepared (recorded.topic.discoveryAnswers answers) recorded.topic.publisher prepared)
include readable idle effect

/-- A call that begins leaves the subscribers alone, so they stay covered. -/
theorem called_rejoined :
    Rejoined (fun _ => True) (Informed (recorded.topic.discoveryAnswers answers)) recorded.topic.subscribers
      recorded.topic.publisher prepared.2 := by
  obtain ⟨settled, covers⟩ := readable.tracked.idle idle
  exact Prepared.rejoined covers (discoveryAnswers_answers _ answers) trivial readable.tracked.usable settled effect

theorem called_joined (joined : endpointId ∈ endpoints prepared.2.connections)
    (waits : dispatch ∈ awaiting recorded.history endpointId) :
    endpointId ∈ endpoints recorded.topic.publisher.connections := by
  by_contra absent
  obtain ⟨subscriber, found, alive⟩ := (called_rejoined readable idle effect).added endpointId joined absent
  obtain ⟨empty, inHand, unseen, _⟩ := (readable.tracked.idle idle).2.untouched endpointId subscriber found alive absent
  have held := Matches.burden (readable.matched.known _ _ found) waits
  simp [burden, empty, inHand, unseen] at held

theorem called_owed (joined : endpointId ∈ endpoints prepared.2.connections)
    (waits : dispatch ∈ awaiting recorded.history endpointId) : dispatch.handle ∈ owed prepared.2.connections := by
  obtain ⟨connection, member, rfl⟩ := List.mem_map.mp joined
  obtain ⟨subscriber, found, lost, _, covered⟩ := (called_rejoined readable idle effect).covers.covered connection member
  obtain ⟨releases, _, balance⟩ := covered.balance
  have held := Matches.burden (readable.matched.known _ _ found) waits
  exact List.mem_flatMap.mpr
    ⟨connection, member, balance.mem_iff.mpr (List.mem_append_left _ (List.mem_append_left _ held))⟩

theorem called_carried (tracked : Tracked losses (SharedTopic.begin { recorded.topic with loans } prepared))
    (matched : Recorded recorded.history (SharedTopic.begin { recorded.topic with loans } prepared).subscribers)
    (live : Live ⟨SharedTopic.begin { recorded.topic with loans } prepared, recorded.history⟩ dispatch) :
    Carries (SharedTopic.begin { recorded.topic with loans } prepared).publisher.pool dispatch := by
  obtain ⟨middle, calls, _, last⟩ := effect.calls
  have retains := (calls.continues readable.tracked.settled).retains.trans last
  have published := effect.published
  obtain ⟨outcome | new, publisher⟩ := prepared
  · have kept := @Readable.keep recorded ⟨SharedTopic.begin { recorded.topic with loans } (.inl outcome, publisher), recorded.history⟩
    refine kept readable tracked matched retains ?_ live
    intro other live
    rcases live with ⟨endpointId, present, waits⟩ | ⟨progress, busy⟩
    · exact .inl ⟨endpointId, called_joined readable idle effect present waits, waits⟩
    · simp [SharedTopic.begin, idle, calling] at busy
  · have fresh := published new rfl
    rcases live with ⟨endpointId, present, waits⟩ | ⟨progress, busy⟩
    · have carries := readable.carried dispatch (.inl ⟨endpointId, called_joined readable idle effect present waits, waits⟩)
      have owing := called_owed readable idle effect present waits
      refine carries_kept carries retains tracked.settled.accounted (List.mem_append_left _ owing) ?_
      exact fun same => published_apart fresh tracked.settled owing (Option.some.inj same)
    · cases busy
      exact fresh.carries

end Called

theorem step_carried (readable : Readable recorded) (effect : RecordedEffect recorded next) (tracked : Tracked losses next.topic)
    (live : Live next dispatch) : Carries next.topic.publisher.pool dispatch := by
  have valid := readable.tracked.settled.accounted.valid
  have matched := step_recorded readable.matched effect
  cases effect with
  | subscribed => exact readable.keep tracked matched (.refl valid) (fun _ live => live) live
  | changed found pool _ same step _ _ =>
    refine readable.keep tracked matched (by rw [pool]; exact .refl valid) (fun other => ?_) live
    refine Live.earlier (by rw [same]; exact List.Subset.refl _) (fun _ _ waits => ?_) (fun _ progress busy => ⟨progress, busy⟩)
    rcases HistoryStep.waited step waits with old | ⟨_, new⟩
    · exact .inl old
    · cases new
  | called idle effect => exact called_carried readable idle effect tracked matched live
  | @enqueued dispatch progress endpointId remaining subscriber pool answer history busy _ _ _ retains step _ _ =>
    obtain ⟨result | result, queue⟩ := answer <;>
    · refine readable.keep tracked matched retains (fun other => ?_) live
      refine Live.earlier (List.Subset.refl _) (fun _ _ waits => ?_) (fun _ _ same => ?_)
      · rcases HistoryStep.waited step waits with old | ⟨_, new⟩
        · exact .inl old
        · exact .inr ⟨progress, by rw [List.mem_singleton.mp new]; exact busy⟩
      · cases same
        exact ⟨progress, busy⟩
  | @served dispatch progress noted remaining publisher busy _ _ same retains _ =>
    refine readable.keep tracked matched retains (fun other => ?_) live
    refine Live.earlier (by rw [same]; exact List.Subset.refl _) (fun _ _ waits => .inl waits) ?_
    rintro _ _ ⟨⟩
    exact ⟨progress, busy⟩
  | @finished dispatch progress phase =>
    have settled := readable.tracked.settled
    rw [phase] at settled
    refine readable.keep tracked matched (finishDispatch_continues settled progress).retains (fun other => ?_) live
    refine Live.earlier (List.map_subset _ (removeEndpoints_subset progress.failedEndpoints)) (fun _ _ waits => .inl waits) ?_
    rintro _ _ ⟨⟩

theorem step_limited (readable : Readable recorded) (effect : RecordedEffect recorded next)
    (found : next.topic.subscribers[endpointId]? = some subscriber)
    (waits : dispatch ∈ awaiting next.history endpointId) : dispatch.payloadSize ≤ subscriber.maxMessageSize := by
  have limited := readable.limited
  cases effect with
  | @subscribed other _ new empty idle =>
    rcases (lookup_insert _ _ _ _ _).mp found with ⟨rfl, rfl⟩ | ⟨_, old⟩
    · rw [readable.matched.unknown _ new] at waits
      cases waits
    · exact limited _ _ old _ waits
  | @changed other before later _ _ had _ _ _ step _ size =>
    have waited : dispatch ∈ awaiting recorded.history endpointId := by
      rcases HistoryStep.waited step waits with old | ⟨_, new⟩
      · exact old
      · cases new
    rcases (lookup_insert _ _ _ _ _).mp found with ⟨rfl, rfl⟩ | ⟨_, old⟩
    · rw [size]
      exact limited _ _ had _ waited
    · exact limited _ _ old _ waited
  | @called _ prepared _ _ _ => obtain ⟨outcome | new, publisher⟩ := prepared <;> exact limited _ _ found _ waits
  | @enqueued sample progress other remaining before pool answer history busy _ joined had _ step _ _ =>
    obtain ⟨wakes, same⟩ := afterEnqueue_subscribers { recorded.topic with publisher.pool := pool } sample progress other
      remaining before answer
    rw [same] at found
    obtain ⟨origin, was, size⟩ : ∃ origin, recorded.topic.subscribers[endpointId]? = some origin ∧
        subscriber.maxMessageSize = origin.maxMessageSize := by
      rcases (lookup_insert _ _ _ _ _).mp found with ⟨rfl, rfl⟩ | ⟨_, old⟩
      · exact ⟨before, had, rfl⟩
      · exact ⟨subscriber, old, rfl⟩
    rw [size]
    rcases HistoryStep.waited step waits with old | ⟨rfl, new⟩
    · exact limited _ _ was _ old
    · rw [List.mem_singleton.mp new]
      exact readable.fitting.limit busy joined was
  | served => exact limited _ _ found _ waits
  | finished => exact limited _ _ found _ waits

theorem step_readable (readable : Readable recorded) {move : TopicMove} (taken : recorded.step move = some next) :
    Readable next := by
  have effect := recorded_effect readable.tracked readable.matched taken
  have moved : recorded.topic.move move = some next.topic := by
    obtain ⟨following, moved, rfl⟩ := Option.map_eq_some_iff.mp taken
    exact moved
  have tracked := move_tracked readable.tracked moved
  exact ⟨tracked, move_fitting readable.tracked readable.fitting moved, step_recorded readable.matched effect,
    fun _ => step_carried readable effect tracked,
    fun _ _ found _ => step_limited readable effect found⟩

section Runs
variable {descriptor : PoolDescriptor} {config : PublisherConfig} {ownerPid : UInt64} {pool : MemoryPool}

theorem start_readable (created : MemoryPool.create descriptor config.memoryPool ownerPid = .ok pool)
    (topicId publisherId : UInt64) : Readable ⟨start config pool topicId publisherId, {}⟩ := by
  have tracked := start_inv created topicId publisherId
  refine ⟨⟨tracked.settled, ?_, by simp [start, TopicInvariant.AllUsable], tracked.gone, tracked.busy⟩, ?_, ?_, ?_, ?_⟩
  · refine ⟨fun connection present => ?_, tracked.covers.untouched⟩
    simp [start, Publisher.create] at present
  · exact ⟨fun connection present => by simp [start, Publisher.create] at present,
      fun connection present => by simp [start, Publisher.create] at present, by simp [start, calling]⟩
  · exact ⟨fun _ _ found => by simp [start] at found, fun _ _ => rfl⟩
  · rintro dispatch (⟨endpointId, joined, _⟩ | ⟨progress, busy⟩)
    · simp [start, Publisher.create, endpoints] at joined
    · simp [start, calling] at busy
  · intro endpointId subscriber found
    simp [start] at found

theorem recorded_run {topic final : SharedTopic} (history : SampleHistory) {events : List TopicEvent}
    (run : execute SharedTopic.step topic events = some final) :
    ∃ later, execute RecordedTopic.step ⟨topic, history⟩ (events.map .event) = some ⟨final, later⟩ := by
  induction events generalizing topic history with
  | nil => cases run; exact ⟨history, rfl⟩
  | cons event rest step =>
    obtain ⟨next, taken, remaining⟩ := execute_cons run
    obtain ⟨later, recorded⟩ := step (history.record topic next (.event event)) remaining
    refine ⟨later, ?_⟩
    simpa [execute, RecordedTopic.step, SharedTopic.move, taken] using recorded

/-- What a subscriber with this limit reads at the handle is what the call gave it. -/
def ReadsAs (pool : MemoryPool) (maxMessageSize : UInt64) (dispatch : Dispatch) : Prop :=
  (MemoryPoolView.read pool dispatch.handle maxMessageSize).error = .ok ∧
    (MemoryPoolView.read pool dispatch.handle maxMessageSize).sequence = dispatch.nextSequence ∧
    (MemoryPoolView.read pool dispatch.handle maxMessageSize).payloadSize = dispatch.payloadSize

theorem Readable.reads (readable : Readable recorded) (joined : endpointId ∈ endpoints recorded.topic.publisher.connections)
    (found : recorded.topic.subscribers[endpointId]? = some subscriber) (waits : dispatch ∈ awaiting recorded.history endpointId) :
    ReadsAs recorded.topic.publisher.pool subscriber.maxMessageSize dispatch :=
  (readable.carried dispatch (.inl ⟨endpointId, joined, waits⟩)).read readable.tracked.settled.accounted.valid
    (readable.limited endpointId subscriber found dispatch waits)

/-- A take of a connected subscriber, or of one that still has something in hand, reads its sample. -/
theorem Readable.inHand (readable : Readable recorded)
    (found : recorded.topic.subscribers[endpointId]? = some subscriber) (alive : subscriber.alive = true)
    (waits : dispatch ∈ awaiting recorded.history endpointId) :
    ReadsAs recorded.topic.publisher.pool subscriber.maxMessageSize dispatch := by
  refine readable.reads ?_ found waits
  -- an endpoint without a connection has nothing
  by_contra absent
  obtain ⟨empty, inHand, unseen, _⟩ := readable.tracked.covers.untouched endpointId subscriber found alive absent
  have held := Matches.burden (readable.matched.known _ _ found) waits
  simp [burden, empty, inHand, unseen] at held

/-- In every run of a topic without crashes, with subscribers of any size limits
that join and leave: each handle in the queue of a connected subscriber reads with
the sequence number and the size of the call that enqueued it, and so does the
handle that a take has in hand. In every run of the calls of a subscriber whose
topic has this pool only, each Wake is taken, and no call reports a broken handle or
segment if what it finds in the queue can be read. -/
theorem queued_samples_readable (created : MemoryPool.create descriptor config.memoryPool ownerPid = .ok pool)
    (topicId publisherId : UInt64) {events : List TopicEvent} {topic : SharedTopic}
    (run : execute SharedTopic.step (start config pool topicId publisherId) events = some topic) :
    (∃ history, execute RecordedTopic.step ⟨start config pool topicId publisherId, {}⟩ (events.map .event) = some ⟨topic, history⟩ ∧
      (∀ connection ∈ topic.publisher.connections, ∃ subscriber, topic.subscribers[connection.endpointId]? = some subscriber ∧
        (history.queued connection.endpointId).map (·.handle) = contents subscriber.queue ∧
        ∀ dispatch ∈ history.queued connection.endpointId,
          ReadsAs topic.publisher.pool subscriber.maxMessageSize dispatch) ∧
      ∀ (endpointId : UInt64) (subscriber : SubscriberEnd), topic.subscribers[endpointId]? = some subscriber →
        subscriber.alive = true → (history.inHand endpointId).map (·.handle) = subscriber.inHand ∧
        ∀ dispatch ∈ history.inHand endpointId, ReadsAs topic.publisher.pool subscriber.maxMessageSize dispatch) ∧
    ∀ (maxMessageSize : UInt64) (queueDescriptor : QueueDescriptor) (queue : SharedSubscriberQueue)
      (calls : List SuccessionEvent) (state : Succession), SharedSubscriberQueue.create queueDescriptor = .ok queue →
      execute Succession.step (Succession.start .sharedMemory maxMessageSize topicId queueDescriptor queue) calls = some state →
      (Along Succession.step (fun _ => OnlyPool pool.descriptor)
        (Succession.start .sharedMemory maxMessageSize topicId queueDescriptor queue) calls → TakesWakes state) ∧
      (Along Succession.step (Faultless pool.descriptor)
        (Succession.start .sharedMemory maxMessageSize topicId queueDescriptor queue) calls →
        ¬Alarming state.subscriber.lastError) := by
  refine ⟨?_, fun _ _ _ _ _ opened ran => sole_pool_quiet opened ran⟩
  obtain ⟨history, recorded⟩ := recorded_run {} run
  have readable : Readable ⟨topic, history⟩ := execute_invariant (fun _ _ _ held taken => step_readable held taken)
    (start_readable created topicId publisherId) recorded
  have inv : TopicRuns.Inv topic := execute_invariant (fun _ _ _ inv taken => step_inv inv (inv.effect taken))
    (start_inv created topicId publisherId) run
  refine ⟨history, recorded, ?_, ?_⟩
  · intro connection present
    obtain ⟨subscriber, found, _⟩ := inv.covers.covered connection present
    refine ⟨subscriber, found, ?_, ?_⟩
    · rw [(readable.matched.known _ _ found).queued, inv.stored found]
    · intro dispatch queued
      exact readable.reads (List.mem_map_of_mem present) found (List.mem_append_right _ queued)
  · intro endpointId subscriber found alive
    have listed := (readable.matched.known _ _ found).inHand
    rw [if_pos alive] at listed
    exact ⟨listed, fun dispatch held => readable.inHand found alive (List.mem_append_left _ held)⟩

end Runs

/-- One sample is published, and waits in the queue of its subscriber. -/
theorem published_runs : ∃ pool topic, MemoryPool.create SuccessionInvariant.firstPool sampleConfig 1 = .ok pool ∧
    execute SharedTopic.step (start ⟨64, sampleConfig⟩ pool 1 2) (takeAndDrop.take 5) = some topic ∧
    topic.publisher.connections.length = 1 ∧ pool.descriptor = SuccessionInvariant.firstPool ∧
    (MemoryPoolView.read topic.publisher.pool ⟨1, 0, 1, 320⟩ 64).error = .ok :=
  ⟨_, _, rfl, rfl, rfl, rfl, rfl⟩

/-- A subscriber to that pool receives the Wake and looks at the sample. -/
def receiveFirst : List SuccessionEvent :=
  [.publisher (.advertise SuccessionInvariant.firstPool), .subscriber .subscribe, .publisher (.connect 0 {}),
    .publisher (.enqueue 0 ⟨1, 0, 1, 320⟩ kQueueWakeSize {})] ++ GenuineWakes.acceptFirst ++
    [.subscriber (.recv (.bytes kQueueWakeSize) .opened), .subscriber (.peek {})]

set_option maxRecDepth 4000 in
theorem receiveFirst_runs : ∃ queue state, SharedSubscriberQueue.create sampleQueue = .ok queue ∧
    execute Succession.step (Succession.start .sharedMemory 64 1 sampleQueue queue) receiveFirst = some state ∧
    state.phase = .dequeuing ∧ (state.queue.tryDequeue {}).1 = some ⟨1, 0, 1, 320⟩ ∧ state.subscriber.maxMessageSize = 64 :=
  ⟨_, _, rfl, rfl, rfl, rfl, rfl⟩

theorem queued_samples_readable_sample :
    ∃ pool topic history queue state, MemoryPool.create SuccessionInvariant.firstPool sampleConfig 1 = .ok pool ∧
      execute SharedTopic.step (start ⟨64, sampleConfig⟩ pool 1 2) (takeAndDrop.take 5) = some topic ∧
      topic.publisher.connections.length = 1 ∧
      execute RecordedTopic.step ⟨start ⟨64, sampleConfig⟩ pool 1 2, {}⟩ ((takeAndDrop.take 5).map .event) =
        some ⟨topic, history⟩ ∧
      (∀ connection ∈ topic.publisher.connections, ∃ subscriber, topic.subscribers[connection.endpointId]? = some subscriber ∧
        (history.queued connection.endpointId).map (·.handle) = contents subscriber.queue ∧
        ∀ dispatch ∈ history.queued connection.endpointId,
          ReadsAs topic.publisher.pool subscriber.maxMessageSize dispatch) ∧
      execute Succession.step (Succession.start .sharedMemory 64 1 sampleQueue queue)
        (receiveFirst ++ [.subscriber (.dequeue {} topic.publisher.pool)]) = some state ∧
      TakesWakes state ∧ ¬Alarming state.subscriber.lastError := by
  obtain ⟨pool, topic, created, run, connected, described, reads⟩ := published_runs
  obtain ⟨queue, state, opened, received, phase, first, size⟩ := receiveFirst_runs
  have config : MemoryPool.create SuccessionInvariant.firstPool (PublisherConfig.mk 64 sampleConfig).memoryPool 1 = .ok pool :=
    created
  obtain ⟨⟨history, recorded, queued, _⟩, quiet⟩ := queued_samples_readable config 1 2 run
  have taken : execute Succession.step (Succession.start .sharedMemory 64 1 sampleQueue queue)
      (receiveFirst ++ [.subscriber (.dequeue {} topic.publisher.pool)]) = some (state.dequeue {} topic.publisher.pool) := by
    rw [execute_append, received]
    simp [execute, Succession.step, Succession.moveSubscriber, phase]
  obtain ⟨wakes, calm⟩ := quiet 64 sampleQueue queue _ _ opened taken
  rw [described] at wakes calm
  refine ⟨pool, topic, history, queue, _, created, run, connected, recorded, queued, taken, wakes ?_, calm ?_⟩
  · simp [receiveFirst, GenuineWakes.acceptFirst, Along, OnlyPool]
  · refine Along.append (by simp [receiveFirst, GenuineWakes.acceptFirst, Along, Faultless, OnlyPool]) received
      ⟨⟨trivial, fun handle found => ?_⟩, fun _ _ => trivial⟩
    rw [first] at found
    cases found
    rw [size]
    exact reads

/-- Whatever resets come in between: what a connected subscriber has in its queue, in
hand or in a view is published, and what it has yet to take reads as it was sent. -/
theorem resets_spare_samples {descriptor : PoolDescriptor} {config : PublisherConfig} {ownerPid : UInt64} {pool : MemoryPool}
    (created : MemoryPool.create descriptor config.memoryPool ownerPid = .ok pool) (topicId publisherId : UInt64)
    {moves : List TopicMove} (run : execute RecordedTopic.step ⟨start config pool topicId publisherId, {}⟩ moves = some recorded)
    {connection : DataConnection} (present : connection ∈ recorded.topic.publisher.connections) :
    ∃ subscriber, recorded.topic.subscribers[connection.endpointId]? = some subscriber ∧
      (recorded.history.queued connection.endpointId).map (·.handle) = stored subscriber.queue ∧
      (∀ handle ∈ burden subscriber, handle = handleOf recorded.topic.publisher.pool handle.chunkIndex ∧
        (recorded.topic.publisher.pool.chunkHeader handle.chunkIndex).state = .published) ∧
      ∀ dispatch ∈ awaiting recorded.history connection.endpointId,
        ReadsAs recorded.topic.publisher.pool subscriber.maxMessageSize dispatch := by
  have readable : Readable recorded := execute_invariant (fun _ _ _ held taken => step_readable held taken)
    (start_readable created topicId publisherId) run
  have tracked := readable.tracked
  obtain ⟨subscriber, found, _⟩ := tracked.covers.covered connection present
  refine ⟨subscriber, found, (readable.matched.known _ _ found).queued, fun handle held => ?_, fun dispatch =>
    readable.reads (List.mem_map_of_mem present) found⟩
  exact (tracked.settled.accounted.published_of_held (tracked.counted present found held)).2

/-- The mutex owner dies while the subscriber has a view. -/
def dieViewed : List TopicMove := (takeAndDrop.take 9).map .event ++ [.reset 1 (.ownerDeath 9 9 9 9 {} false [])]

theorem dieViewed_runs : ∃ pool recorded connection subscriber, MemoryPool.create sampleDescriptor sampleConfig 1 = .ok pool ∧
    execute RecordedTopic.step ⟨start ⟨64, sampleConfig⟩ pool 1 2, {}⟩ dieViewed = some recorded ∧
    connection ∈ recorded.topic.publisher.connections ∧
    recorded.topic.subscribers[connection.endpointId]? = some subscriber ∧ burden subscriber = [⟨1, 0, 1, 320⟩] :=
  ⟨_, _, _, _, rfl, rfl, List.mem_singleton.mpr rfl, rfl, rfl⟩

theorem resets_spare_samples_viewed : ∃ pool recorded connection subscriber,
    MemoryPool.create sampleDescriptor sampleConfig 1 = .ok pool ∧
    execute RecordedTopic.step ⟨start ⟨64, sampleConfig⟩ pool 1 2, {}⟩ dieViewed = some recorded ∧
    recorded.topic.subscribers[connection.endpointId]? = some subscriber ∧ burden subscriber = [⟨1, 0, 1, 320⟩] ∧
    connection ∈ recorded.topic.publisher.connections ∧ (recorded.topic.publisher.pool.chunkHeader 0).state = .published := by
  obtain ⟨pool, recorded, connection, subscriber, created, run, present, found, burdened⟩ := dieViewed_runs
  have config : MemoryPool.create sampleDescriptor (PublisherConfig.mk 64 sampleConfig).memoryPool 1 = .ok pool := created
  obtain ⟨_, again, _, held, _⟩ := resets_spare_samples config 1 2 run present
  rw [found] at again
  cases again
  exact ⟨pool, recorded, connection, subscriber, created, run, found, burdened, present, (held ⟨1, 0, 1, 320⟩ (by simp [burdened])).2⟩

end RobotMiddleware.Proofs.ReadableSamples
