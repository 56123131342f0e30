import RobotMiddleware.Lib.Entries
import RobotMiddleware.Proofs.CounterWrap

/-! Where the endpoints come from. Every endpoint on record was created by one call
that the registry accepted, and it is still what that call asked for. So a topic
is described by the calls that created the endpoints on it. -/

namespace RobotMiddleware.Proofs.RegisteredEndpoints
open Std Lib.Index Lib.Entries Lib.Outcome Lib.Numbering RegistryState RegistryCalls RegistryIntegrity RegistryTopics RegistryJoins NodeRemoval RegistryEffects
  CounterWrap

/-- A call that creates an endpoint, with the id that it is given. -/
def registration (state : RegistryState) (operation : RegistryOperation) : Option (UInt64 × RegistryOperation) :=
  (newEndpoint state operation).map fun id => (id, operation)

variable {state after : RegistryState} {calls : List (UInt64 × RegistryOperation)} {issued last : Issued}

theorem fewer_of_effect {operation : RegistryOperation} (effect : Effect state operation after)
    (none : newEndpoint state operation = none) : Fewer state after := by
  cases effect with
  | nothing | registered | attached | renewed | detached => exact ⟨fun _ _ stored => stored, fun _ _ stored => stored, .refl state⟩
  | unregistered owned removes => exact removes.fewer
  | evaluated removes =>
    have fewer := removes.fewer
    exact ⟨fewer.publishers, fewer.subscribers, fewer.topics⟩
  | disconnected removes detached =>
    have fewer := removes.fewer
    rcases detached with rfl | rfl
    · exact fewer
    · exact ⟨fewer.publishers, fewer.subscribers, fewer.topics⟩
  | advertised done error => simp [newEndpoint, joining, done, accepted, error] at none
  | subscribed done error => simp [newEndpoint, joining, done, accepted, error] at none
  | unadvertised owned withdraws => exact withdraws.fewer
  | unsubscribed owned withdraws => exact withdraws.fewer

def advertising (connection : UInt64) (topic : TopicRecord) (publisher : PublisherEndpoint) : RegistryOperation :=
  .advertise connection publisher.nodeId topic.topicName topic.typeName topic.typeHash publisher.maxMessageSize
    publisher.transport publisher.pool

def subscribing (connection : UInt64) (topic : TopicRecord) (subscriber : SubscriberEndpoint) : RegistryOperation :=
  .subscribe connection subscriber.nodeId topic.topicName topic.typeName topic.typeHash subscriber.maxMessageSize
    subscriber.dataSocketPath subscriber.transport subscriber.queue

/-- Every endpoint on record has its call, and every call its own id. -/
structure Registered (calls : List (UInt64 × RegistryOperation)) (state : RegistryState) (issued : Issued) : Prop where
  publishers : ∀ (endpointId : UInt64) (publisher : PublisherEndpoint), state.publishers[endpointId]? = some publisher →
    publisher.endpointId = endpointId ∧ validPoolMetadata publisher.transport publisher.pool = true ∧
      ∃ topic connection, state.topics[publisher.topicId]? = some topic ∧
        (endpointId, advertising connection topic publisher) ∈ calls
  subscribers : ∀ (endpointId : UInt64) (subscriber : SubscriberEndpoint),
    state.subscribers[endpointId]? = some subscriber →
    subscriber.endpointId = endpointId ∧ validQueueMetadata subscriber.transport subscriber.queue = true ∧
      ∃ topic connection, state.topics[subscriber.topicId]? = some topic ∧
        (endpointId, subscribing connection topic subscriber) ∈ calls
  issued : ∀ call ∈ calls, call.1 ∈ issued.endpoints
  distinct : (calls.map Prod.fst).Nodup

theorem advertising_congr {topic old : TopicRecord} (same : bareTopic topic = bareTopic old) (connection : UInt64)
    (publisher : PublisherEndpoint) : advertising connection topic publisher = advertising connection old publisher := by
  simp only [bareTopic, TopicRecord.mk.injEq] at same
  simp only [advertising, same]

theorem subscribing_congr {topic old : TopicRecord} (same : bareTopic topic = bareTopic old) (connection : UInt64)
    (subscriber : SubscriberEndpoint) : subscribing connection topic subscriber = subscribing connection old subscriber := by
  simp only [bareTopic, TopicRecord.mk.injEq] at same
  simp only [subscribing, same]

section Registered
variable (registered : Registered calls state issued)
include registered

theorem Registered.fewer (consistent : Consistent after) (fewer : Fewer state after)
    (known : ∀ id, id ∈ issued.endpoints → id ∈ last.endpoints) : Registered calls after last := by
  refine ⟨fun endpoint publisher stored => ?_, fun endpoint subscriber stored => ?_,
    fun call member => known _ (registered.issued call member), registered.distinct⟩
  · obtain ⟨own, valid, old, connection, present, member⟩ :=
      registered.publishers endpoint publisher (fewer.publishers endpoint publisher stored)
    obtain ⟨topic, found, _⟩ := consistent.publisherTopics.holder stored
    obtain ⟨former, stands, same⟩ := fewer.topics _ topic found
    rw [present] at stands
    cases stands
    refine ⟨own, valid, topic, connection, found, ?_⟩
    rwa [advertising_congr same]
  · obtain ⟨own, valid, old, connection, present, member⟩ :=
      registered.subscribers endpoint subscriber (fewer.subscribers endpoint subscriber stored)
    obtain ⟨topic, found, _⟩ := consistent.subscriberTopics.holder stored
    obtain ⟨former, stands, same⟩ := fewer.topics _ topic found
    rw [present] at stands
    cases stands
    refine ⟨own, valid, topic, connection, found, ?_⟩
    rwa [subscribing_congr same]

/-- An endpoint that was there before another one joined still has its call. -/
theorem Registered.publisher_joins {nodeId : UInt64} (joins : Joins nodeId state after) {endpointId : UInt64}
    {publisher : PublisherEndpoint} (stored : state.publishers[endpointId]? = some publisher)
    (call : UInt64 × RegistryOperation) :
    publisher.endpointId = endpointId ∧ validPoolMetadata publisher.transport publisher.pool = true ∧
      ∃ topic connection, after.topics[publisher.topicId]? = some topic ∧
        (endpointId, advertising connection topic publisher) ∈ calls ++ [call] := by
  obtain ⟨own, valid, old, connection, present, member⟩ := registered.publishers endpointId publisher stored
  obtain ⟨topic, found, same⟩ := joins.topics _ old present
  refine ⟨own, valid, topic, connection, found, ?_⟩
  rw [advertising_congr same]
  exact List.mem_append_left _ member

theorem Registered.subscriber_joins {nodeId : UInt64} (joins : Joins nodeId state after) {endpointId : UInt64}
    {subscriber : SubscriberEndpoint} (stored : state.subscribers[endpointId]? = some subscriber)
    (call : UInt64 × RegistryOperation) :
    subscriber.endpointId = endpointId ∧ validQueueMetadata subscriber.transport subscriber.queue = true ∧
      ∃ topic connection, after.topics[subscriber.topicId]? = some topic ∧
        (endpointId, subscribing connection topic subscriber) ∈ calls ++ [call] := by
  obtain ⟨own, valid, old, connection, present, member⟩ := registered.subscribers endpointId subscriber stored
  obtain ⟨topic, found, same⟩ := joins.topics _ old present
  refine ⟨own, valid, topic, connection, found, ?_⟩
  rw [subscribing_congr same]
  exact List.mem_append_left _ member

theorem Registered.unused (counted : Counted state issued) (few : issued.endpoints.length < 2 ^ 64 - 1)
    (operation : RegistryOperation) : ((calls ++ [(state.nextEndpointId, operation)]).map Prod.fst).Nodup := by
  rw [List.map_append, List.map_singleton, List.nodup_append]
  refine ⟨registered.distinct, List.nodup_singleton _, fun id member other single same => ?_⟩
  obtain ⟨call, inside, rfl⟩ := List.mem_map.mp member
  rw [List.mem_singleton] at single
  rw [single] at same
  have taken := registered.issued call inside
  rw [same] at taken
  exact counted.endpoints.unissued few taken

end Registered

section Joins
variable {connection nodeId : UInt64} {topicName typeName typeHash dataSocketPath : Bytes} {maxMessageSize : UInt64}
  {transport : TransportType} {pool : SharedPoolMetadata} {queue : SharedQueueMetadata} {result : EndpointResult}

theorem Registered.advertised (registered : Registered calls state issued) (counted : Counted state issued)
    (few : issued.Few) (known : ∀ id, id ∈ issued.endpoints → id ∈ last.endpoints) (later : Counted after last)
    (joined : Advertised state connection nodeId topicName typeName typeHash maxMessageSize transport pool result after) :
    Registered (calls ++ [(state.nextEndpointId,
      .advertise connection nodeId topicName typeName typeHash maxMessageSize transport pool)]) after last := by
  have free := (counted.fresh few).publisher
  have present : after.publishers[state.nextEndpointId]? =
      some ⟨state.nextEndpointId, nodeId, result.topicId, maxMessageSize, transport, pool⟩ := by
    rw [joined.publishers]
    grind
  refine ⟨fun endpoint publisher stored => ?_, fun endpoint subscriber stored => ?_, ?_,
    registered.unused counted few.2.2.2 _⟩
  · by_cases new : endpoint = state.nextEndpointId
    · rw [new, present] at stored
      cases stored
      obtain ⟨topic, found, rfl, rfl, rfl, _⟩ := joined.topic
      exact ⟨new.symm, joined.valid, topic, connection, found, by simp [new, advertising]⟩
    · refine registered.publisher_joins joined.joins ?_ _
      rw [joined.publishers] at stored
      grind
  · rw [joined.subscribers] at stored
    exact registered.subscriber_joins joined.joins stored _
  · intro call member
    rcases List.mem_append.mp member with old | new
    · exact known _ (registered.issued call old)
    · rw [List.mem_singleton] at new
      subst call
      exact later.endpoints.used _ (.inl (mem_iff_found.mpr ⟨_, present⟩))

theorem Registered.subscribed (registered : Registered calls state issued) (counted : Counted state issued)
    (few : issued.Few) (known : ∀ id, id ∈ issued.endpoints → id ∈ last.endpoints) (later : Counted after last)
    (joined : Subscribed state connection nodeId topicName typeName typeHash maxMessageSize dataSocketPath transport queue
      result after) :
    Registered (calls ++ [(state.nextEndpointId,
      .subscribe connection nodeId topicName typeName typeHash maxMessageSize dataSocketPath transport queue)]) after
      last := by
  have free := (counted.fresh few).subscriber
  have present : after.subscribers[state.nextEndpointId]? =
      some ⟨state.nextEndpointId, nodeId, result.topicId, dataSocketPath, maxMessageSize, transport, queue⟩ := by
    rw [joined.subscribers]
    grind
  refine ⟨fun endpoint publisher stored => ?_, fun endpoint subscriber stored => ?_, ?_,
    registered.unused counted few.2.2.2 _⟩
  · rw [joined.publishers] at stored
    exact registered.publisher_joins joined.joins stored _
  · by_cases new : endpoint = state.nextEndpointId
    · rw [new, present] at stored
      cases stored
      obtain ⟨topic, found, rfl, rfl, rfl, _⟩ := joined.topic
      exact ⟨new.symm, joined.valid, topic, connection, found, by simp [new, subscribing]⟩
    · refine registered.subscriber_joins joined.joins ?_ _
      rw [joined.subscribers] at stored
      grind
  · intro call member
    rcases List.mem_append.mp member with old | new
    · exact known _ (registered.issued call old)
    · rw [List.mem_singleton] at new
      subst call
      exact later.endpoints.used _ (.inr (mem_iff_found.mpr ⟨_, present⟩))

end Joins

theorem accepted_some {topicName : Bytes} {answer : Except Exception (EndpointResult × RegistryState)} {id : UInt64}
    (registered : (accepted topicName answer).map (·.2.endpointId) = some id) :
    ∃ result after, answer = .ok (result, after) ∧ result.error = .ok ∧ result.endpointId = id := by
  unfold accepted at registered
  split at registered
  next result after =>
    split at registered
    next error =>
      cases registered
      exact ⟨result, after, rfl, error, rfl⟩
    · cases registered
  · cases registered

theorem perform_registered (registered : Registered calls state issued) (consistent : Consistent state)
    (counted : Counted state issued) (few : issued.Few) {operation : RegistryOperation}
    (done : state.perform operation = .ok after) (later : Counted after (issued.record state operation)) :
    Registered (calls ++ (registration state operation).toList) after (issued.record state operation) := by
  have fresh := counted.fresh few
  have known : ∀ id, id ∈ issued.endpoints → id ∈ (issued.record state operation).endpoints :=
    fun _ member => List.mem_append_left _ member
  obtain ⟨kept, effect⟩ := perform_effect consistent fresh done
  unfold registration
  cases creates : newEndpoint state operation with
  | none =>
    rw [Option.map_none, Option.toList_none, List.append_nil]
    exact registered.fewer kept (fewer_of_effect effect creates) known
  | some id =>
    cases operation with
    | advertise =>
      obtain ⟨result, last, step, error, rfl⟩ := accepted_some creates
      rw [perform, step] at done
      cases done
      obtain ⟨_, _, ⟨refused, _⟩ | ⟨_, joined⟩⟩ := advertise_joins consistent fresh step
      · exact absurd error refused
      · rw [joined.endpoint]
        exact registered.advertised counted few known later joined
    | subscribe =>
      obtain ⟨result, last, step, error, rfl⟩ := accepted_some creates
      rw [perform, step] at done
      cases done
      obtain ⟨_, _, ⟨refused, _⟩ | ⟨_, joined⟩⟩ := subscribe_joins consistent fresh step
      · exact absurd error refused
      · rw [joined.endpoint]
        exact registered.subscribed counted few known later joined
    | _ => cases creates

theorem serve_registered {operations : List RegistryOperation} (registered : Registered calls state issued)
    (consistent : Consistent state) (counted : Counted state issued)
    (served : serve state issued operations = .ok (after, last)) (few : last.Few) :
    Registered (calls ++ history registration state operations) after last := by
  induction operations generalizing state issued calls with
  | nil =>
    cases served
    rw [history, List.append_nil]
    exact registered
  | cons operation rest ih =>
    have earlier := serve_few served few
    obtain ⟨middle, done, _, issues, _⟩ := perform_total consistent (counted.fresh earlier) operation
    simp only [serve, done] at served
    simp only [history, done]
    rw [← List.append_assoc]
    exact ih (perform_registered registered consistent counted earlier done (counted.issues issues))
      (perform_effect consistent (counted.fresh earlier) done).1 (counted.issues issues) served

theorem reached_registered {liveness : LivenessConfig} {start : RegistryState} {operations : List RegistryOperation}
    (created : RegistryState.create liveness = .ok start) (served : serve start {} operations = .ok (state, issued))
    (few : issued.Few) : Registered (history registration start operations) state issued := by
  have none : Registered [] start {} := by
    unfold RegistryState.create at created
    split at created
    · cases created
    · cases created
      exact ⟨by simp, by simp, by simp, List.nodup_nil⟩
  exact serve_registered none (create_consistent created) (create_integrity created).2 served few

/-- What the owner of a publisher is told about the topic. -/
structure Resolves (state : RegistryState) (topicId : UInt64) (topic : TopicRecord) (result : DiscoveryResult) : Prop where
  error : result.error = if topic.subscriberEndpoints.isEmpty then .topicNotFound else .ok
  topic : result.topicId = topicId ∧ result.transport = topic.transport ∧ result.pool = topic.pool
  once : (result.subscribers.map (·.endpointId)).Nodup
  subscribers : ∀ entry, entry ∈ result.subscribers ↔ ∃ subscriber : SubscriberEndpoint,
    state.subscribers[entry.endpointId]? = some subscriber ∧ subscriber.topicId = topicId ∧
      entry = ⟨entry.endpointId, subscriber.dataSocketPath, subscriber.maxMessageSize, subscriber.queue⟩

/-- A topic as the calls describe it that created the endpoints on it. -/
structure Described (calls : List (UInt64 × RegistryOperation)) (state : RegistryState) (topicId : UInt64)
    (topic : TopicRecord) : Prop where
  maximum : IsLeast (Sizes state topicId) topic.maxMessageSize
  pool : topic.pool = attachedPool state topic
  publisher : ∀ endpointId, topic.publisherEndpoint = some endpointId ↔
    ∃ publisher, state.publishers[endpointId]? = some publisher ∧ publisher.topicId = topicId
  subscribers : ∀ endpointId, endpointId ∈ topic.subscriberEndpoints ↔
    ∃ subscriber, state.subscribers[endpointId]? = some subscriber ∧ subscriber.topicId = topicId
  advertised : ∀ (endpointId : UInt64) (publisher : PublisherEndpoint), state.publishers[endpointId]? = some publisher →
    publisher.topicId = topicId → publisher.transport = topic.transport ∧
      ∃ connection, ∀ call, (endpointId, call) ∈ calls ↔ call = advertising connection topic publisher
  subscribed : ∀ (endpointId : UInt64) (subscriber : SubscriberEndpoint),
    state.subscribers[endpointId]? = some subscriber → subscriber.topicId = topicId →
    subscriber.transport = topic.transport ∧
      ∃ connection, ∀ call, (endpointId, call) ∈ calls ↔ call = subscribing connection topic subscriber
  resolves : ∀ (endpointId : UInt64) (publisher : PublisherEndpoint) (node : NodeRecord),
    state.publishers[endpointId]? = some publisher → publisher.topicId = topicId →
    state.nodes[publisher.nodeId]? = some node →
    ∃ result, state.resolve node.controlConnection publisher.nodeId endpointId = .ok result ∧
      Resolves state topicId topic result

section Topics
variable {topicId : UInt64} {topic : TopicRecord}

theorem resolve_listed (consistent : Consistent state) (registered : Registered calls state issued)
    (found : state.topics[topicId]? = some topic) {endpointId : UInt64} {publisher : PublisherEndpoint} {node : NodeRecord}
    (present : state.publishers[endpointId]? = some publisher) (mine : publisher.topicId = topicId)
    (owner : state.nodes[publisher.nodeId]? = some node) :
    ∃ result, state.resolve node.controlConnection publisher.nodeId endpointId = .ok result ∧
      Resolves state topicId topic result := by
  have own := consistent.topicIds topicId topic found
  have owned : state.ownedNode node.controlConnection publisher.nodeId = some node := ownedNode_some.mpr ⟨owner, rfl⟩
  obtain ⟨entries, listed, keys, each⟩ : ∃ entries : List DiscoveredSubscriber,
      topic.subscriberEndpoints.toList.mapM state.discovered = .ok entries ∧
      entries.map (·.endpointId) = topic.subscriberEndpoints.toList ∧
      ∀ entry ∈ entries, state.discovered entry.endpointId = .ok entry := by
    refine mapM_keyed _ fun id member => ?_
    obtain ⟨subscriber, stored, _⟩ := (consistent.subscriberTopics.iff found).mp (ExtTreeSet.mem_toList.mp member)
    refine ⟨⟨subscriber.endpointId, subscriber.dataSocketPath, subscriber.maxMessageSize, subscriber.queue⟩, ?_,
      (registered.subscribers id subscriber stored).1⟩
    simp only [discovered, mapAt_ok stored]
    rfl
  have none (empty : topic.subscriberEndpoints.isEmpty = true) : entries = [] := by
    have nobody : topic.subscriberEndpoints.toList = [] := by
      rw [← List.isEmpty_iff, ExtTreeSet.isEmpty_toList, empty]
    rw [nobody] at keys
    exact List.map_eq_nil_iff.mp keys
  refine ⟨⟨if topic.subscriberEndpoints.isEmpty then .topicNotFound else .ok, topic.topicId, topic.transport, topic.pool,
    entries⟩, ?_, rfl, ⟨own, rfl, rfl⟩, ?_, fun entry => ?_⟩
  · simp only [resolve, owned, present, mine, mapAt_ok found, bind, Except.bind, ne_eq, not_true_eq_false, if_false]
    split
    next empty => rw [none empty]; rfl
    · rw [listed]
      rfl
  · rw [keys]
    exact nodup_members _
  · have member : entry.endpointId ∈ topic.subscriberEndpoints.toList ↔ entry.endpointId ∈ entries.map (·.endpointId) := by
      rw [keys]
    constructor
    · intro inside
      have known : entry.endpointId ∈ topic.subscriberEndpoints.toList := member.mpr (List.mem_map_of_mem inside)
      obtain ⟨subscriber, stored, its⟩ := (consistent.subscriberTopics.iff found).mp (ExtTreeSet.mem_toList.mp known)
      refine ⟨subscriber, stored, its, ?_⟩
      have same := each entry inside
      simp only [discovered, mapAt_ok stored, bind, Except.bind, pure, Except.pure, Except.ok.injEq] at same
      rw [(registered.subscribers _ subscriber stored).1] at same
      exact same.symm
    · rintro ⟨subscriber, stored, its, same⟩
      have present := (consistent.subscriberTopics.iff found).mpr ⟨subscriber, stored, its⟩
      obtain ⟨other, inside, key⟩ := List.mem_map.mp (member.mp (ExtTreeSet.mem_toList.mpr present))
      have found := each other inside
      rw [key] at found
      simp only [discovered, mapAt_ok stored, bind, Except.bind, pure, Except.pure, Except.ok.injEq] at found
      rw [(registered.subscribers _ subscriber stored).1, ← same] at found
      rwa [found]

theorem only_call {call other : RegistryOperation} {id : UInt64} (distinct : (calls.map Prod.fst).Nodup)
    (member : (id, call) ∈ calls) : (id, other) ∈ calls ↔ other = call := by
  constructor
  · intro present
    have same := List.inj_on_of_nodup_map distinct present member rfl
    simpa using same
  · rintro rfl
    exact member

/-- In every registry that has issued fewer than `2^64 - 1` ids of each kind, the
record of every topic is what the endpoints on it imply and what they were
registered with. -/
theorem topic_described {liveness : LivenessConfig} {start : RegistryState} {operations : List RegistryOperation}
    (created : RegistryState.create liveness = .ok start) (served : serve start {} operations = .ok (state, issued))
    (few : issued.Few) (found : state.topics[topicId]? = some topic) :
    Described (history registration start operations) state topicId topic := by
  obtain ⟨consistent, _⟩ := reached_consistent created served few
  have registered := reached_registered created served few
  have implied := consistent.implied topicId topic found
  refine ⟨implied.maximum, implied.pool, fun id => consistent.publisherTopics.iff found,
    fun id => consistent.subscriberTopics.iff found, fun id publisher stored mine => ?_,
    fun id subscriber stored mine => ?_, fun id publisher node stored mine owner => ?_⟩
  · obtain ⟨_, _, record, connection, present, member⟩ := registered.publishers id publisher stored
    rw [mine, found] at present
    cases present
    exact ⟨implied.transports _ _ (.publisher stored mine), connection, fun call => only_call registered.distinct member⟩
  · obtain ⟨_, _, record, connection, present, member⟩ := registered.subscribers id subscriber stored
    rw [mine, found] at present
    cases present
    exact ⟨implied.transports _ _ (.subscriber stored mine), connection, fun call => only_call registered.distinct member⟩
  · exact resolve_listed consistent registered found stored mine owner

/-- The topic of a publisher in shared memory. -/
theorem topic_described_seed : ∃ topic, seed.topics[(1 : UInt64)]? = some topic ∧
    Described (history registration { liveness := {} } seedRequests) seed 1 topic := by
  obtain ⟨issued, served, few⟩ := seed_served
  have created : RegistryState.create {} = .ok { liveness := {} } := rfl
  obtain ⟨topic, found⟩ : ∃ topic, seed.topics[(1 : UInt64)]? = some topic := ⟨_, rfl⟩
  exact ⟨topic, found, topic_described created served few found⟩

/-- Once the counters have gone round, a topic has a pool that its publisher was not registered with. -/
theorem topic_misdescribed : ∃ operations state issued topic,
    serve { liveness := {} } {} operations = .ok (state, issued) ∧ state.topics[(1 : UInt64)]? = some topic ∧
      ¬Described (history registration { liveness := {} } operations) state 1 topic := by
  obtain ⟨operations, issued, metrics, served⟩ := overwritten_reached
  obtain ⟨topic, found⟩ : ∃ topic, (overwritten metrics).topics[(1 : UInt64)]? = some topic := ⟨_, rfl⟩
  refine ⟨operations, _, issued, topic, served, found, fun described => ?_⟩
  obtain ⟨pools, publisher⟩ := overwritten_topic metrics
  rw [found, Option.map_some, Option.some.injEq] at pools publisher
  have implied := described.pool
  rw [attachedPool, publisher, pools, Option.bind_some, overwritten_publisher] at implied
  exact absurd implied (by decide)

end Topics

end RobotMiddleware.Proofs.RegisteredEndpoints
