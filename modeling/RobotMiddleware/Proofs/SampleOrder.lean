import RobotMiddleware.Proofs.ReadableSamples

/-! The order of the samples at one endpoint. A call gives its sample the number
after that of the last call, an endpoint is served once in a call, and queues keep
their order whatever is dropped or discarded; so the samples of an endpoint stand
in the order of their numbers, from the first that was taken to the last that
waits. -/

namespace RobotMiddleware.Proofs.SampleOrder
open Lib.Transitions PoolRuns PublishedContents PublisherAccounting PublisherCalls TopicInvariant TopicRuns TopicSizes TopicObligations
  RecordedSamples ReadableSamples QueueRefinement

variable {recorded next : RecordedTopic} {dispatch : Dispatch} {endpointId : UInt64}

def Finished (recorded : RecordedTopic) (dispatch : Dispatch) : Prop :=
  dispatch.nextSequence ≤ recorded.topic.publisher.sequence ∧ ∃ result, (dispatch, result) ∈ recorded.history.returned

/-- The endpoint has got the sample in the call in progress. -/
def Served (recorded : RecordedTopic) (endpointId : UInt64) (dispatch : Dispatch) : Prop :=
  endpointId ∉ pending recorded.topic.phase ∧ ∃ progress, calling recorded.topic.phase = some (dispatch, progress)

structure Numbered (sequence : UInt64) (dispatch : Dispatch) (progress : DispatchProgress) : Prop where
  next : dispatch.nextSequence = sequence + 1
  room : sequence ≠ sizeMax
  result : progress.result.sequence = dispatch.nextSequence

structure Ordered (recorded : RecordedTopic) : Prop where
  readable : Readable recorded
  sorted : ∀ endpointId, (samples recorded.history endpointId).Pairwise (·.nextSequence < ·.nextSequence)
  origin : ∀ endpointId, ∀ dispatch ∈ samples recorded.history endpointId,
    Finished recorded dispatch ∨ Served recorded endpointId dispatch
  numbered : ∀ dispatch progress, calling recorded.topic.phase = some (dispatch, progress) →
    Numbered recorded.topic.publisher.sequence dispatch progress
  distinct : (pending recorded.topic.phase).Nodup
  takes : ∀ endpointId, ∀ take ∈ recorded.history.taken endpointId, take.sequence = take.dispatch.nextSequence
  returned : ∀ call ∈ recorded.history.returned, call.2.sequence = call.1.nextSequence

theorem Numbered.above {sequence : UInt64} {progress : DispatchProgress} (numbered : Numbered sequence dispatch progress) :
    sequence < dispatch.nextSequence := by
  have room := numbered.room
  rw [numbered.next, UInt64.lt_iff_toNat_lt]
  have bound : sequence.toNat ≠ 2 ^ 64 - 1 := fun full => room (UInt64.toNat_inj.mp (by simpa [sizeMax] using full))
  have small := sequence.toNat_lt
  rw [UInt64.toNat_add]
  simp only [UInt64.reduceToNat]
  omega

section History
variable {pool : MemoryPool} {subscriber : SubscriberEnd} {new : List Dispatch} {before after : SampleHistory} {other : UInt64}
  (step : HistoryStep pool endpointId subscriber new before after)
include step

theorem HistoryStep.samples_elsewhere (apart : other ≠ endpointId) : samples after other = samples before other := by
  rw [samples, step.others other apart, HistoryStep.elsewhere step apart, samples]

theorem HistoryStep.sampled (present : dispatch ∈ samples after other) :
    dispatch ∈ samples before other ∨ other = endpointId ∧ dispatch ∈ new := by
  by_cases same : other = endpointId
  · subst same
    rcases List.mem_append.mp (step.samples.subset present) with old | added
    · exact .inl old
    · exact .inr ⟨rfl, added⟩
  · rw [HistoryStep.samples_elsewhere step same] at present
    exact .inl present

theorem HistoryStep.sorted (sorted : ∀ endpointId, (samples before endpointId).Pairwise (·.nextSequence < ·.nextSequence))
    (above : ∀ last ∈ new, ∀ sample ∈ samples before endpointId, sample.nextSequence < last.nextSequence)
    (single : new.length ≤ 1) (other : UInt64) : (samples after other).Pairwise (·.nextSequence < ·.nextSequence) := by
  by_cases same : other = endpointId
  · subst same
    refine List.Pairwise.sublist step.samples (List.pairwise_append.mpr ⟨sorted other, ?_, ?_⟩)
    · match new, single with
      | [], _ => exact .nil
      | [last], _ => exact List.pairwise_singleton _ _
    · exact fun sample old last added => above last added sample old
  · rw [HistoryStep.samples_elsewhere step same]
    exact sorted other

theorem HistoryStep.takes
    (takes : ∀ endpointId, ∀ take ∈ before.taken endpointId, take.sequence = take.dispatch.nextSequence)
    (reads : subscriber.alive = true → ∀ dispatch ∈ before.inHand endpointId, (MemoryPoolView.read pool dispatch.handle subscriber.maxMessageSize).sequence = dispatch.nextSequence)
    {take : Take} (present : take ∈ after.taken other) : take.sequence = take.dispatch.nextSequence := by
  by_cases same : other = endpointId
  · subst same
    rcases step.taken take present with old | ⟨alive, dispatch, held, rfl⟩
    · exact takes other take old
    · exact reads alive dispatch held
  · rw [step.others other same] at present
    exact takes other take present

end History

theorem Ordered.reads (ordered : Ordered recorded) {subscriber : SubscriberEnd}
    (found : recorded.topic.subscribers[endpointId]? = some subscriber) (alive : subscriber.alive = true) :
    ∀ dispatch ∈ recorded.history.inHand endpointId,
      (MemoryPoolView.read recorded.topic.publisher.pool dispatch.handle subscriber.maxMessageSize).sequence =
        dispatch.nextSequence :=
  fun _ held => (ordered.readable.inHand found alive (List.mem_append_left _ held)).2.1

theorem Ordered.finished_of_idle (ordered : Ordered recorded) (idle : calling recorded.topic.phase = none)
    (present : dispatch ∈ samples recorded.history endpointId) : Finished recorded dispatch := by
  rcases ordered.origin endpointId dispatch present with finished | ⟨_, progress, busy⟩
  · exact finished
  · rw [idle] at busy
    cases busy

/-- An endpoint whose turn is still to come has samples of earlier calls only. -/
theorem Ordered.finished_of_pending (ordered : Ordered recorded) (waits : endpointId ∈ pending recorded.topic.phase)
    (present : dispatch ∈ samples recorded.history endpointId) : Finished recorded dispatch := by
  rcases ordered.origin endpointId dispatch present with finished | ⟨passed, _⟩
  · exact finished
  · exact absurd waits passed

theorem called_ordered (ordered : Ordered recorded) {answers : RefreshAnswers} {prepared : (PublishResult ⊕ Dispatch) × Publisher}
    {loans : List ChunkHandle} (idle : recorded.topic.phase = .idle)
    (effect : Prepared (recorded.topic.discoveryAnswers answers) recorded.topic.publisher prepared)
    (readable : Readable ⟨SharedTopic.begin { recorded.topic with loans } prepared, recorded.history⟩) :
    Ordered ⟨SharedTopic.begin { recorded.topic with loans } prepared, recorded.history⟩ := by
  have silent : calling recorded.topic.phase = none := by rw [idle]; rfl
  have finished (endpointId : UInt64) (dispatch : Dispatch) (present : dispatch ∈ samples recorded.history endpointId) :=
    ordered.finished_of_idle silent present
  have sequence := effect.sequence
  have published := effect.published
  obtain ⟨outcome | new, publisher⟩ := prepared
  · refine ⟨readable, ordered.sorted, ?_, ?_, ?_, ordered.takes, ordered.returned⟩
    · intro endpointId dispatch present
      obtain ⟨passed, returned⟩ := finished endpointId dispatch present
      exact .inl ⟨by rw [← sequence] at passed; exact passed, returned⟩
    · intro dispatch progress busy
      simp [SharedTopic.begin, idle, calling] at busy
    · simp [SharedTopic.begin, idle, pending]
  · refine ⟨readable, ordered.sorted, ?_, ?_, readable.tracked.settled.distinct, ordered.takes, ordered.returned⟩
    · intro endpointId dispatch present
      obtain ⟨passed, returned⟩ := finished endpointId dispatch present
      exact .inl ⟨by rw [← sequence] at passed; exact passed, returned⟩
    · rintro dispatch progress ⟨⟩
      have fresh := published new rfl
      refine ⟨?_, ?_, rfl⟩
      · rw [fresh.next, ← sequence]
        rfl
      · have room := fresh.room
        rw [← sequence] at room
        exact room

theorem enqueued_ordered (ordered : Ordered recorded) {progress : DispatchProgress} {remaining : List UInt64}
    {subscriber : SubscriberEnd} {pool : MemoryPool} {answer : Option QueueEnqueueResult × SharedSubscriberQueue}
    {history : SampleHistory} (busy : calling recorded.topic.phase = some (dispatch, progress))
    (turn : pending recorded.topic.phase = endpointId :: remaining)
    (found : recorded.topic.subscribers[endpointId]? = some subscriber)
    (step : HistoryStep recorded.topic.publisher.pool endpointId subscriber [dispatch] recorded.history history)
    (waits : answer.1 = none → history = recorded.history)
    (readable : Readable ⟨SharedTopic.afterEnqueue { recorded.topic with publisher.pool := pool } dispatch progress endpointId
      remaining subscriber answer, history⟩) :
    Ordered ⟨SharedTopic.afterEnqueue { recorded.topic with publisher.pool := pool } dispatch progress endpointId
      remaining subscriber answer, history⟩ := by
  have numbered := ordered.numbered dispatch progress busy
  obtain ⟨first, others⟩ := List.nodup_cons.mp (turn ▸ ordered.distinct)
  obtain ⟨result | result, queue⟩ := answer
  · -- the call waits for room, and the endpoint keeps its turn
    cases waits rfl
    refine ⟨readable, ordered.sorted, ?_, ?_, ?_, ordered.takes, ordered.returned⟩
    · intro other sample present
      rcases ordered.origin other sample present with finished | ⟨passed, current, same⟩
      · exact .inl finished
      · rw [busy] at same
        cases same
        exact .inr ⟨by rw [turn] at passed; exact passed, progress, rfl⟩
    · rintro _ _ ⟨⟩
      exact numbered
    · have distinct := ordered.distinct
      rw [turn] at distinct
      exact distinct
  · have earlier (sample : Dispatch) (present : sample ∈ samples recorded.history endpointId) :=
      ordered.finished_of_pending (by rw [turn]; exact List.mem_cons_self) present
    refine ⟨readable, HistoryStep.sorted step ordered.sorted ?_ (by simp), ?_, ?_, others,
      fun _ _ present => HistoryStep.takes step ordered.takes (ordered.reads found) present, by rw [step.returned]; exact ordered.returned⟩
    · intro last added sample present
      rw [List.mem_singleton.mp added]
      exact UInt64.lt_of_le_of_lt (earlier sample present).1 numbered.above
    · intro other sample present
      rcases HistoryStep.sampled step present with old | ⟨rfl, added⟩
      · rcases ordered.origin other sample old with ⟨passed, returned⟩ | ⟨passed, current, same⟩
        · exact .inl ⟨passed, by rw [step.returned]; exact returned⟩
        · rw [busy] at same
          cases same
          rw [turn] at passed
          exact .inr ⟨fun later => passed (List.mem_cons_of_mem _ later), progress, rfl⟩
      · rw [List.mem_singleton.mp added]
        exact .inr ⟨first, progress, rfl⟩
    · rintro _ _ ⟨⟩
      exact numbered

theorem finished_ordered (ordered : Ordered recorded) {progress : DispatchProgress}
    (phase : recorded.topic.phase = .serving dispatch progress []) (readable : Readable
      ⟨{ recorded.topic with
         publisher := (recorded.topic.publisher.finishDispatch dispatch progress).2
         phase := .idle },
       { recorded.history with
         returned := recorded.history.returned ++
           [(dispatch, (recorded.topic.publisher.finishDispatch dispatch progress).1)] }⟩) :
    Ordered
      ⟨{ recorded.topic with
         publisher := (recorded.topic.publisher.finishDispatch dispatch progress).2
         phase := .idle },
       { recorded.history with
         returned := recorded.history.returned ++
           [(dispatch, (recorded.topic.publisher.finishDispatch dispatch progress).1)] }⟩ := by
  have numbered := ordered.numbered dispatch progress (by rw [phase]; rfl)
  have sequence : (recorded.topic.publisher.finishDispatch dispatch progress).2.sequence = dispatch.nextSequence :=
    List.foldlRecOn (motive := fun current : Publisher => current.sequence = dispatch.nextSequence) progress.failedEndpoints _ rfl
      fun _ kept _ _ => kept
  refine ⟨readable, ordered.sorted, ?_, by simp [calling], by simp [pending], ordered.takes, ?_⟩
  · intro endpointId sample present
    refine .inl ⟨?_, ?_⟩
    · rw [sequence]
      rcases ordered.origin endpointId sample present with ⟨passed, _⟩ | ⟨_, current, same⟩
      · exact UInt64.le_of_lt (UInt64.lt_of_le_of_lt passed numbered.above)
      · rw [phase] at same
        cases same
        exact UInt64.le_refl _
    · rcases ordered.origin endpointId sample present with ⟨_, result, returned⟩ | ⟨_, current, same⟩
      · exact ⟨result, List.mem_append_left _ returned⟩
      · rw [phase] at same
        cases same
        exact ⟨_, List.mem_append_right _ List.mem_cons_self⟩
  · intro call present
    rcases List.mem_append.mp present with old | last
    · exact ordered.returned call old
    · rw [List.mem_singleton.mp last]
      exact numbered.result

theorem step_ordered (ordered : Ordered recorded) {move : TopicMove} (taken : recorded.step move = some next) : Ordered next := by
  have readable := step_readable ordered.readable taken
  have effect := recorded_effect ordered.readable.tracked ordered.readable.matched taken
  cases effect with
  | subscribed =>
    exact ⟨readable, ordered.sorted, ordered.origin, ordered.numbered, ordered.distinct, ordered.takes, ordered.returned⟩
  | @changed endpointId subscriber later publisher history found pool sequence same step own size =>
    refine ⟨readable, HistoryStep.sorted step ordered.sorted (by simp) (by simp), ?_, ?_, ordered.distinct,
      fun _ _ present => HistoryStep.takes step ordered.takes (ordered.reads found) present,
      by rw [step.returned]; exact ordered.returned⟩
    · intro other sample present
      rcases HistoryStep.sampled step present with old | ⟨_, added⟩
      · rcases ordered.origin other sample old with ⟨passed, returned⟩ | served
        · exact .inl ⟨by rw [← sequence] at passed; exact passed, by rw [step.returned]; exact returned⟩
        · exact .inr served
      · cases added
    · intro dispatch progress busy
      have numbered := ordered.numbered dispatch progress busy
      rw [← sequence] at numbered
      exact numbered
  | called idle effect => exact called_ordered ordered idle effect readable
  | enqueued busy turn joined found retains step waits own => exact enqueued_ordered ordered busy turn found step waits readable
  | @served dispatch progress noted remaining publisher busy fewer sequence same retains result =>
    have numbered := ordered.numbered dispatch progress busy
    refine ⟨readable, ordered.sorted, ?_, ?_, ordered.distinct.sublist fewer, ordered.takes, ordered.returned⟩
    · intro endpointId sample present
      rcases ordered.origin endpointId sample present with ⟨passed, returned⟩ | ⟨passed, current, same⟩
      · exact .inl ⟨by rw [← sequence] at passed; exact passed, returned⟩
      · rw [busy] at same
        cases same
        exact .inr ⟨fun later => passed (fewer.subset later), noted, rfl⟩
    · rintro _ _ ⟨⟩
      rw [← sequence] at numbered
      exact ⟨numbered.next, numbered.room, result.trans numbered.result⟩
  | finished phase => exact finished_ordered ordered phase readable

section Runs
variable {descriptor : PoolDescriptor} {config : PublisherConfig} {ownerPid : UInt64} {pool : MemoryPool}

theorem start_ordered (created : MemoryPool.create descriptor config.memoryPool ownerPid = .ok pool) (topicId publisherId : UInt64) :
    Ordered ⟨start config pool topicId publisherId, {}⟩ := by
  refine ⟨start_readable created topicId publisherId, fun _ => .nil, ?_, ?_, List.nodup_nil, ?_, ?_⟩
  · intro endpointId dispatch present
    cases present
  · intro dispatch progress busy
    cases busy
  · intro endpointId take present
    cases present
  · intro call present
    cases present

/-- In every run of a topic, with copies and loans published in any order, calls
that fail, drops, waits and resets of the queues: the sequence numbers of the
samples that one subscriber takes increase strictly, and each is the one that the
call that published the sample has returned, or is about to return. -/
theorem takes_in_order (created : MemoryPool.create descriptor config.memoryPool ownerPid = .ok pool) (topicId publisherId : UInt64)
    {moves : List TopicMove} (run : execute RecordedTopic.step ⟨start config pool topicId publisherId, {}⟩ moves = some recorded)
    (endpointId : UInt64) : ((recorded.history.taken endpointId).map (·.sequence)).Pairwise (· < ·) ∧
    ∀ take ∈ recorded.history.taken endpointId,
      (∃ result, (take.dispatch, result) ∈ recorded.history.returned ∧ result.sequence = take.sequence) ∨
      ∃ progress, calling recorded.topic.phase = some (take.dispatch, progress) ∧ progress.result.sequence = take.sequence := by
  have ordered : Ordered recorded := execute_invariant (fun _ _ _ held taken => step_ordered held taken)
    (start_ordered created topicId publisherId) run
  have sampled (take : Take) (present : take ∈ recorded.history.taken endpointId) :
      take.dispatch ∈ samples recorded.history endpointId :=
    List.mem_append_left _ (List.mem_map_of_mem present)
  refine ⟨?_, ?_⟩
  · have sorted := (List.pairwise_append.mp (ordered.sorted endpointId)).1
    refine List.pairwise_map.mpr ((List.pairwise_map.mp sorted).imp_of_mem ?_)
    intro first second before after less
    rw [ordered.takes endpointId first before, ordered.takes endpointId second after]
    exact less
  · intro take present
    rw [ordered.takes endpointId take present]
    rcases ordered.origin endpointId take.dispatch (sampled take present) with ⟨_, result, returned⟩ | ⟨_, progress, busy⟩
    · exact .inl ⟨result, returned, ordered.returned _ returned⟩
    · exact .inr ⟨progress, busy, (ordered.numbered _ _ busy).result⟩

end Runs

/-- Two loans are published, the later one first, and the subscriber takes both. -/
def loansAndTakes : List TopicMove :=
  [.event (.subscribe 1 sampleQueue 64), .event (.loan 1), .event (.loan 1),
    .event (.publishLoanedSample ⟨1, 1, 1, 448⟩ 1 ⟨0, none, fun _ => true, 0⟩ 5), .event (.enqueue true {}), .event .settle,
    .event .finish,
    .event (.publishLoanedSample ⟨1, 0, 1, 320⟩ 1 ⟨0, none, fun _ => true, 0⟩ 6), .event (.enqueue true {}), .event .settle,
    .event .finish,
    .event (.subscriber 1 .acceptPendingConnection), .event (.subscriber 1 .receiveWakeAvailable),
    .event (.subscriber 1 (.dequeue {})), .event (.subscriber 1 .read),
    .event (.subscriber 1 (.dequeue {})), .event (.subscriber 1 .read)]

theorem loansAndTakes_runs : ∃ pool recorded, MemoryPool.create sampleDescriptor sampleConfig 1 = .ok pool ∧
    execute RecordedTopic.step ⟨start ⟨64, sampleConfig⟩ pool 1 2, {}⟩ loansAndTakes = some recorded ∧
    (recorded.history.taken 1).map (·.sequence) = [1, 2] :=
  ⟨_, _, rfl, rfl, by decide⟩

theorem takes_in_order_loans :
    ∃ pool recorded, MemoryPool.create sampleDescriptor sampleConfig 1 = .ok pool ∧
      execute RecordedTopic.step ⟨start ⟨64, sampleConfig⟩ pool 1 2, {}⟩ loansAndTakes = some recorded ∧
      (recorded.history.taken 1).map (·.sequence) = [1, 2] ∧
      ((recorded.history.taken 1).map (·.sequence)).Pairwise (· < ·) := by
  obtain ⟨pool, recorded, created, run, takes⟩ := loansAndTakes_runs
  have config : MemoryPool.create sampleDescriptor (PublisherConfig.mk 64 sampleConfig).memoryPool 1 = .ok pool := created
  exact ⟨pool, recorded, created, run, takes, (takes_in_order config 1 2 run 1).1⟩

end RobotMiddleware.Proofs.SampleOrder
