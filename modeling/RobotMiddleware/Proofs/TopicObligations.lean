import RobotMiddleware.Lib.Transitions
import RobotMiddleware.Proofs.TopicRuns

/-! Obligation conservation. Between two publisher calls, what a connection owes
is exactly what its subscriber has in its queue, in a take and in views, and what
is under way in Release frames. -/

namespace RobotMiddleware.Proofs.TopicObligations
open Lib.Framing Lib.Transitions QueueRefinement ReferenceAccounting PublisherAccounting ReleaseChannel TopicInvariant
  TopicRuns PoolRuns

/-- A topic as its publisher finds it: no subscribers yet. -/
def start (config : PublisherConfig) (pool : MemoryPool) (topicId endpointId : UInt64) : SharedTopic :=
  { publisher := Publisher.create config pool topicId endpointId }

variable {topic : SharedTopic}

theorem start_inv {descriptor : PoolDescriptor} {config : PublisherConfig} {ownerPid : UInt64} {pool : MemoryPool}
    (created : MemoryPool.create descriptor config.memoryPool ownerPid = .ok pool) (topicId endpointId : UInt64) :
    Inv (start config pool topicId endpointId) :=
  inv_initial (create_settled (create_valid created) (create_free created)) rfl

/-- Nothing is left on the way to or with any subscriber. -/
def Quiescent (topic : SharedTopic) : Prop :=
  topic.loans = [] ∧ ∀ connection ∈ topic.publisher.connections, unread connection = [] ∧
    ∀ subscriber, topic.subscribers[connection.endpointId]? = some subscriber →
      contents subscriber.queue = [] ∧ subscriber.inHand = [] ∧ subscriber.views = []

theorem balance_of_inv (inv : Inv topic) (idle : topic.phase = .idle) {connection : DataConnection}
    (present : connection ∈ topic.publisher.connections) : ∃ subscriber releases,
      topic.subscribers[connection.endpointId]? = some subscriber ∧
      unread connection = stream encodeQueueRelease releases ∧
      connection.outstanding.Perm (contents subscriber.queue ++ subscriber.inHand ++ subscriber.views ++ releases) := by
  obtain ⟨subscriber, found, lost, rfl, covered⟩ := (inv.idle idle).2.covered connection present
  obtain ⟨releases, read, balance⟩ := covered.balance
  rw [SubscriberSteps.burden, inv.stored found, List.append_nil] at balance
  exact ⟨subscriber, releases, found, read, balance⟩

theorem all_free (inv : Inv topic) (idle : topic.phase = .idle) (quiescent : Quiescent topic) (index : UInt32)
    (inside : index.toNat < topic.publisher.pool.directory.length) :
    (topic.publisher.pool.chunkHeader index).state = .free := by
  obtain ⟨settled, _⟩ := inv.idle idle
  obtain ⟨noLoans, quiet⟩ := quiescent
  have accounts := settled.accounts
  have nothing : owed topic.publisher.connections = [] := by
    refine List.flatMap_eq_nil_iff.mpr fun connection present => ?_
    obtain ⟨subscriber, releases, found, read, balance⟩ := balance_of_inv inv idle present
    obtain ⟨silent, empty⟩ := quiet connection present
    obtain ⟨queue, inHand, views⟩ := empty subscriber found
    have none : releases = [] := by
      cases releases with
      | nil => rfl
      | cons handle rest =>
        have size := QueueFrames.encodeQueueRelease_length handle
        rw [silent, stream_cons] at read
        simp [(List.append_eq_nil_iff.mp read.symm).1, kQueueReleaseSize] at size
    simpa [queue, inHand, views, none] using balance
  cases state : (topic.publisher.pool.chunkHeader index).state with
  | free => rfl
  | loaned =>
    have loan := settled.accounted.loaned index inside state
    simp [noLoans] at loan
  | published =>
    have held := (accounts.published index inside).mp state
    simp [nothing] at held
  | released => exact absurd state (accounts.reclaimed index inside)

/-- In every run of a topic, between two publisher calls: the outstanding list of
every connection is, as a multiset, what the subscriber has in its queue, what a
take of it has in hand, its active views, and the handles of the Release frames
that the publisher has not decoded; and when all of that is gone, every chunk is
free. -/
theorem obligations_conserved {descriptor : PoolDescriptor} {config : PublisherConfig} {ownerPid : UInt64}
    {pool : MemoryPool} (created : MemoryPool.create descriptor config.memoryPool ownerPid = .ok pool)
    (topicId endpointId : UInt64) {events : List TopicEvent}
    (run : execute SharedTopic.step (start config pool topicId endpointId) events = some topic)
    (idle : topic.phase = .idle) :
    (∀ connection ∈ topic.publisher.connections, ∃ subscriber releases,
      topic.subscribers[connection.endpointId]? = some subscriber ∧
      unread connection = stream encodeQueueRelease releases ∧
      connection.outstanding.Perm (contents subscriber.queue ++ subscriber.inHand ++ subscriber.views ++ releases)) ∧
    (Quiescent topic → ∀ index : UInt32, index.toNat < topic.publisher.pool.directory.length →
      (topic.publisher.pool.chunkHeader index).state = .free) := by
  have inv : Inv topic := execute_invariant (fun _ _ _ inv taken => step_inv inv (inv.effect taken))
    (start_inv created topicId endpointId) run
  refine ⟨?_, all_free inv idle⟩
  intro connection present
  exact balance_of_inv inv idle present

/-- One subscriber gets a sample, takes a view of it and drops it. -/
def takeAndDrop : List TopicEvent :=
  [.subscribe 1 sampleQueue 64,
    .publish (some [7]) 1 ⟨0, none, fun _ => true, 0⟩ 5, .enqueue true {}, .settle, .finish,
    .subscriber 1 .acceptPendingConnection, .subscriber 1 .receiveWakeAvailable, .subscriber 1 (.dequeue {}),
    .subscriber 1 .read, .subscriber 1 (.releaseView ⟨1, 0, 1, 320⟩)]

theorem takeAndDrop_runs : ∃ pool topic, MemoryPool.create sampleDescriptor sampleConfig 1 = .ok pool ∧
    execute SharedTopic.step (start ⟨64, sampleConfig⟩ pool 1 2) takeAndDrop = some topic ∧ topic.phase = .idle :=
  ⟨_, _, rfl, rfl, rfl⟩

theorem obligations_conserved_sample :
    ∃ pool topic, MemoryPool.create sampleDescriptor sampleConfig 1 = .ok pool ∧
      execute SharedTopic.step (start ⟨64, sampleConfig⟩ pool 1 2) takeAndDrop = some topic ∧ topic.phase = .idle ∧
      ∀ connection ∈ topic.publisher.connections, ∃ subscriber releases,
        topic.subscribers[connection.endpointId]? = some subscriber ∧
        unread connection = stream encodeQueueRelease releases ∧
        connection.outstanding.Perm (contents subscriber.queue ++ subscriber.inHand ++ subscriber.views ++ releases) := by
  obtain ⟨pool, topic, created, run, idle⟩ := takeAndDrop_runs
  have config : MemoryPool.create sampleDescriptor (PublisherConfig.mk 64 sampleConfig).memoryPool 1 = .ok pool := created
  exact ⟨pool, topic, created, run, idle, (obligations_conserved config 1 2 run idle).1⟩

end RobotMiddleware.Proofs.TopicObligations
