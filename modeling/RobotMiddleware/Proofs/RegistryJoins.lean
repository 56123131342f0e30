import RobotMiddleware.Proofs.RegistryTopics

/-! What `advertise` and `subscribe` do: an endpoint with a new id joins its node
and its topic, which is there or is created for it, and the record of the topic
is again what its endpoints imply. -/

namespace RobotMiddleware.Proofs.RegistryJoins
open Std Lib.Index Lib.Numbering Lib.Outcome RegistryState RegistryCalls RegistryIntegrity RegistryTopics

variable {state before middle after : RegistryState} {topicId nodeId endpointId connection : UInt64}

/-- A table of endpoints has at most one new entry, which is for an endpoint of the node. -/
def Adds {β : Type} (owner : β → UInt64) (nodeId id : UInt64) (before after : ExtTreeMap UInt64 β) : Prop :=
  after = before ∨ ∃ value, before[id]? = none ∧ owner value = nodeId ∧ after = before.insertIfNew id value

/-- Only this node has changed, and no endpoint has left. -/
structure Joins (nodeId : UInt64) (before after : RegistryState) : Prop where
  others : ∀ id, id ≠ nodeId → after.nodes[id]? = before.nodes[id]?
  node : (after.nodes[nodeId]?).map bareNode = (before.nodes[nodeId]?).map bareNode
  publishers : Adds (·.nodeId) nodeId before.nextEndpointId before.publishers after.publishers
  subscribers : Adds (·.nodeId) nodeId before.nextEndpointId before.subscribers after.subscribers
  topics : ∀ (id : UInt64) (old : TopicRecord), before.topics[id]? = some old →
    ∃ topic, after.topics[id]? = some topic ∧ bareTopic topic = bareTopic old
  liveness : after.liveness = before.liveness

/-- The topic that an endpoint joins, which is there or is created for it. -/
structure Target (state : RegistryState) (topicName typeName typeHash : Bytes) (maxMessageSize : UInt64)
    (transport : TransportType) (topicId : UInt64) (record : TopicRecord) (middle : RegistryState) : Prop where
  core : Core middle
  others : InhabitedExcept middle topicId
  topic : middle.topics[topicId]? = some record
  nodes : middle.nodes = state.nodes
  publishers : middle.publishers = state.publishers
  subscribers : middle.subscribers = state.subscribers
  nextNodeId : middle.nextNodeId = state.nextNodeId
  nextSessionId : middle.nextSessionId = state.nextSessionId
  nextEndpointId : middle.nextEndpointId = state.nextEndpointId
  topics : Takes state.nextTopicId (if state.topicNames.contains topicName then none else some topicId)
    middle.nextTopicId (· ∈ state.topics) (· ∈ middle.topics)
  named : record.topicName = topicName ∧ record.typeName = typeName ∧ record.typeHash = typeHash ∧
    record.transport = transport
  known : ∀ id, id ≠ topicId → middle.topics[id]? = state.topics[id]?
  origin : state.topics[topicId]? = some record ∨ state.topics[topicId]? = none ∧ record.publisherEndpoint = none ∧
    record.maxMessageSize = maxMessageSize ∧ record.pool = {}
  liveness : middle.liveness = state.liveness

theorem findOrCreateTopic_target (integrity : Integrity state) (fresh : Fresh state) {topicName typeName typeHash : Bytes}
    {maxMessageSize : UInt64} {transport : TransportType} {topic : TopicRecord} {opens : TopicRecord → Prop}
    (accepted : Compatible state topicName typeName typeHash transport opens)
    (finds : Finds state topicName typeName typeHash maxMessageSize transport topicId topic middle) :
    Target state topicName typeName typeHash maxMessageSize transport topicId topic middle ∧
      (opens topic ∨ topic.publisherEndpoint = none) := by
  cases finds with
  | known named stored =>
    obtain ⟨record, found, name⟩ := (integrity.topicNames topicName topicId).mp named
    obtain ⟨other, again, type, hash, carrier, open_⟩ := accepted topicId named
    rw [stored] at found again
    cases found
    cases again
    exact ⟨⟨integrity.toCore, fun id record _ => integrity.inhabited id record, stored, rfl, rfl, rfl, rfl, rfl, rfl,
      .inl ⟨by simp [mem_iff_found.mpr ⟨_, named⟩], rfl, fun _ present => present⟩, ⟨name, type, hash, carrier⟩,
      fun _ _ => rfl, .inl stored, rfl⟩, .inl open_⟩
  | created unknown stored =>
    have free := fresh.topic
    have core := integrity.toCore.createTopic free
      { topicId := state.nextTopicId, topicName, typeName, typeHash, transport, maxMessageSize } rfl unknown rfl rfl
      (state.nextTopicId + 1)
    have new : topic = { topicId := state.nextTopicId, topicName, typeName, typeHash, transport, maxMessageSize } := by
      simp only [withTopic] at stored
      grind
    subst new
    refine ⟨⟨core, fun id record different present => ?_, stored, rfl, rfl, rfl, rfl, rfl, rfl,
      .inr ⟨?_, rfl, fun id present => ?_⟩, ⟨rfl, rfl, rfl, rfl⟩, fun id different => ?_, .inr ⟨free, rfl, rfl, rfl⟩, rfl⟩,
      .inr rfl⟩
    · have known := integrity.inhabited id record
      simp only [withTopic] at present
      grind
    · grind
    · simp only [withTopic] at present
      grind
    · simp only [withTopic]
      grind

/-- The tables once an endpoint has been entered. -/
structure Enters (state middle : RegistryState) (nodeId topicId : UInt64) (node : NodeRecord) (joined : TopicRecord)
    (after : RegistryState) : Prop where
  nodes : ∃ record, after.nodes = middle.nodes.insert nodeId record ∧ bareNode record = bareNode node
  topics : after.topics = middle.topics.insert topicId joined
  publishers : Adds (·.nodeId) nodeId state.nextEndpointId state.publishers after.publishers
  subscribers : Adds (·.nodeId) nodeId state.nextEndpointId state.subscribers after.subscribers
  nextNodeId : after.nextNodeId = middle.nextNodeId
  nextSessionId : after.nextSessionId = middle.nextSessionId
  nextTopicId : after.nextTopicId = middle.nextTopicId
  nextEndpointId : after.nextEndpointId = middle.nextEndpointId + 1
  liveness : after.liveness = middle.liveness

theorem Enters.found {node : NodeRecord} {joined : TopicRecord}
    (enters : Enters state middle nodeId topicId node joined after) : after.topics[topicId]? = some joined := by
  rw [enters.topics, ExtTreeMap.getElem?_insert_self]

section Adds
variable {β : Type} {owner : β → UInt64} {id key : UInt64} {table next : ExtTreeMap UInt64 β} {value : β}

theorem Adds.kept (adds : Adds owner nodeId id table next) (stored : table[key]? = some value) : next[key]? = some value := by
  rcases adds with rfl | ⟨new, unused, mine, rfl⟩
  · exact stored
  · grind

theorem Adds.new (adds : Adds owner nodeId id table next) (stored : next[key]? = some value) :
    table[key]? = some value ∨ owner value = nodeId := by
  rcases adds with rfl | ⟨new, unused, mine, rfl⟩
  · exact .inl stored
  · grind

theorem Adds.mem (adds : Adds owner nodeId id table next) (present : key ∈ next) : key = id ∨ key ∈ table := by
  rcases adds with rfl | ⟨new, unused, mine, rfl⟩
  · exact .inr present
  · grind

end Adds

section Join
variable {topicName typeName typeHash : Bytes} {maxMessageSize : UInt64} {transport : TransportType} {topic : TopicRecord}
  (target : Target state topicName typeName typeHash maxMessageSize transport topicId topic middle)
include target

/-- Every topic is found again behind the target, and the one that is joined keeps its name and type. -/
theorem Target.refinds {joined : TopicRecord} (same : bareTopic joined = bareTopic topic) (id : UInt64)
    (old : TopicRecord) (stored : state.topics[id]? = some old) :
    ∃ record, (middle.topics.insert topicId joined)[id]? = some record ∧ bareTopic record = bareTopic old := by
  by_cases here : id = topicId
  · subst id
    rcases target.origin with present | ⟨absent, _⟩
    · rw [stored] at present
      cases present
      exact ⟨joined, ExtTreeMap.getElem?_insert_self, same⟩
    · rw [absent] at stored
      cases stored
  · refine ⟨old, ?_, rfl⟩
    have known := target.known id here
    grind

theorem Target.least (consistent : Consistent state)
    (sizes : Sizes after topicId = {other | other = maxMessageSize ∨ other ∈ Sizes state topicId}) :
    IsLeast (Sizes after topicId) (min topic.maxMessageSize maxMessageSize) := by
  rw [sizes]
  rcases target.origin with stored | ⟨absent, _, same, _⟩
  · exact least_insert (consistent.implied topicId topic stored).maximum
  · rw [same, Std.min_self]
    refine ⟨.inl rfl, ?_⟩
    rintro other (rfl | member)
    · exact UInt64.le_refl _
    · -- Nobody is on a topic that has just been created.
      obtain ⟨_, uses⟩ := mem_sizes_uses.mp member
      obtain ⟨record, present⟩ := uses.found consistent.toCore
      rw [absent] at present
      cases present

variable {node : NodeRecord} {joined : TopicRecord} (enters : Enters state middle nodeId topicId node joined after)
include enters

theorem Target.joins (owner : state.nodes[nodeId]? = some node) (same : bareTopic joined = bareTopic topic) :
    Joins nodeId state after := by
  obtain ⟨record, nodes, bare⟩ := enters.nodes
  refine ⟨fun id different => ?_, ?_, enters.publishers, enters.subscribers, ?_, enters.liveness.trans target.liveness⟩
  · rw [nodes, target.nodes]
    grind
  · rw [nodes, ExtTreeMap.getElem?_insert_self, owner, Option.map_some, Option.map_some, bare]
  · rw [enters.topics]
    exact target.refinds same

theorem Target.integrity (core : Core after) (used : Inhabited joined) : Integrity after := by
  refine ⟨core, fun id stored present => ?_⟩
  have others := target.others id stored
  rw [enters.topics] at present
  grind

theorem Target.issues (owner : state.nodes[nodeId]? = some node) {operation : RegistryOperation} {result : EndpointResult}
    (nobody : newNode state operation = none) (answer : joining state operation = some (topicName, result))
    (own : result.topicId = topicId) (new : result.endpointId = state.nextEndpointId) : Issues state operation after := by
  obtain ⟨record, nodes, bare⟩ := enters.nodes
  have remain : Remain state after := by
    intro id found
    have session := congrArg NodeRecord.sessionId bare
    rw [nodes, target.nodes]
    simp only [bareNode] at session
    grind
  refine ⟨.inl ⟨by rw [nobody]; rfl, enters.nextNodeId.trans target.nextNodeId, remain.mem⟩,
    .inl ⟨by rw [nobody]; rfl, enters.nextSessionId.trans target.nextSessionId, remain.session⟩, ?_,
    .inr ⟨by rw [newEndpoint, answer, Option.map_some, new], by rw [enters.nextEndpointId, target.nextEndpointId], ?_⟩⟩
  · have kept : ∀ id, id ∈ after.topics → id ∈ middle.topics := by
      intro id present
      have stored := target.topic
      rw [enters.topics] at present
      grind
    subst own
    rw [newTopic, answer]
    rcases target.topics with ⟨given, same, old⟩ | ⟨given, moved, old⟩
    · exact .inl ⟨given, enters.nextTopicId.trans same, fun id present => old id (kept id present)⟩
    · exact .inr ⟨given, enters.nextTopicId.trans moved, fun id present => old id (kept id present)⟩
  · rintro id (publisher | subscriber)
    · exact (enters.publishers.mem publisher).imp_right .inl
    · exact (enters.subscribers.mem subscriber).imp_right .inr

/-- The records are implied again once an endpoint has joined the topic. -/
theorem Target.implied (consistent : Consistent state) (same : bareTopic joined = bareTopic topic)
    (uses : ∀ id size carrier, Uses after id size carrier ↔
      id = topicId ∧ size = maxMessageSize ∧ carrier = transport ∨ Uses state id size carrier)
    (maximum : joined.maxMessageSize = min topic.maxMessageSize maxMessageSize)
    (pool : joined.pool = attachedPool after joined) (id : UInt64) (record : TopicRecord)
    (stored : after.topics[id]? = some record) : Implied after id record := by
  rw [enters.topics] at stored
  by_cases here : id = topicId
  · subst id
    rw [ExtTreeMap.getElem?_insert_self, Option.some.injEq] at stored
    subst record
    have carrier : (bareTopic joined).transport = (bareTopic topic).transport := by rw [same]
    refine ⟨?_, pool, fun size other used => Eq.trans ?_ carrier.symm⟩
    · rw [maximum]
      refine target.least consistent (Set.ext fun size => ?_)
      simp only [Set.mem_ofPred_eq, mem_sizes_uses, uses, true_and, exists_or, exists_and_left, exists_eq, and_true]
    · rcases (uses topicId size other).mp used with ⟨_, _, rfl⟩ | former
      · exact target.named.2.2.2.symm
      · rcases target.origin with present | ⟨absent, _⟩
        · exact (consistent.implied topicId topic present).transports size other former
        · obtain ⟨record, present⟩ := former.found consistent.toCore
          rw [absent] at present
          cases present
  · have former : state.topics[id]? = some record := by
      rw [← target.known id here]
      grind
    refine (consistent.implied id record former).frame consistent.toCore former (fun size other => ?_)
      fun endpoint publisher present _ => enters.publishers.kept present
    simp only [uses, here, false_and, false_or]

end Join

theorem stored_insertIfNew {β : Type} {table : ExtTreeMap UInt64 β} {new : β} (unused : table[endpointId]? = none)
    (key : UInt64) (value : β) :
    (table.insertIfNew endpointId new)[key]? = some value ↔ key = endpointId ∧ value = new ∨ table[key]? = some value := by
  grind

theorem uses_publisher {publisher : PublisherEndpoint}
    (publishers : after.publishers = state.publishers.insertIfNew endpointId publisher)
    (subscribers : after.subscribers = state.subscribers) (unused : state.publishers[endpointId]? = none)
    (size : UInt64) (carrier : TransportType) : Uses after topicId size carrier ↔
      topicId = publisher.topicId ∧ size = publisher.maxMessageSize ∧ carrier = publisher.transport ∨
        Uses state topicId size carrier := by
  simp only [uses_iff, publishers, subscribers, stored_insertIfNew unused, or_and_right, exists_or, and_assoc,
    exists_and_left, exists_eq_left, @eq_comm _ topicId]
  exact or_assoc

theorem uses_subscriber {subscriber : SubscriberEndpoint} (publishers : after.publishers = state.publishers)
    (subscribers : after.subscribers = state.subscribers.insertIfNew endpointId subscriber)
    (unused : state.subscribers[endpointId]? = none) (size : UInt64) (carrier : TransportType) :
    Uses after topicId size carrier ↔
      topicId = subscriber.topicId ∧ size = subscriber.maxMessageSize ∧ carrier = subscriber.transport ∨
        Uses state topicId size carrier := by
  simp only [uses_iff, publishers, subscribers, stored_insertIfNew unused, or_and_right, exists_or, and_assoc,
    exists_and_left, exists_eq_left, @eq_comm _ topicId]
  exact or_left_comm

structure Advertised (state : RegistryState) (connection nodeId : UInt64) (topicName typeName typeHash : Bytes)
    (maxMessageSize : UInt64) (transport : TransportType) (pool : SharedPoolMetadata) (result : EndpointResult)
    (after : RegistryState) : Prop where
  owned : ∃ node, state.ownedNode connection nodeId = some node
  joins : Joins nodeId state after
  valid : validPoolMetadata transport pool = true
  endpoint : result.endpointId = state.nextEndpointId
  publishers : after.publishers = state.publishers.insertIfNew state.nextEndpointId
    ⟨state.nextEndpointId, nodeId, result.topicId, maxMessageSize, transport, pool⟩
  subscribers : after.subscribers = state.subscribers
  topic : ∃ topic, after.topics[result.topicId]? = some topic ∧ topic.topicName = topicName ∧ topic.typeName = typeName ∧
    topic.typeHash = typeHash ∧ topic.transport = transport

structure Subscribed (state : RegistryState) (connection nodeId : UInt64) (topicName typeName typeHash : Bytes)
    (maxMessageSize : UInt64) (dataSocketPath : Bytes) (transport : TransportType) (queue : SharedQueueMetadata)
    (result : EndpointResult) (after : RegistryState) : Prop where
  owned : ∃ node, state.ownedNode connection nodeId = some node
  joins : Joins nodeId state after
  valid : validQueueMetadata transport queue = true
  endpoint : result.endpointId = state.nextEndpointId
  publishers : after.publishers = state.publishers
  subscribers : after.subscribers = state.subscribers.insertIfNew state.nextEndpointId
    ⟨state.nextEndpointId, nodeId, result.topicId, dataSocketPath, maxMessageSize, transport, queue⟩
  topic : ∃ topic, after.topics[result.topicId]? = some topic ∧ topic.topicName = topicName ∧ topic.typeName = typeName ∧
    topic.typeHash = typeHash ∧ topic.transport = transport

section Requests
variable {topicName typeName typeHash dataSocketPath : Bytes} {maxMessageSize : UInt64} {transport : TransportType}
  {pool : SharedPoolMetadata} {queue : SharedQueueMetadata} {result : EndpointResult}

theorem advertise_joins (consistent : Consistent state) (fresh : Fresh state)
    (done : state.advertise connection nodeId topicName typeName typeHash maxMessageSize transport pool = .ok (result, after)) :
    Consistent after ∧
      Issues state (.advertise connection nodeId topicName typeName typeHash maxMessageSize transport pool) after ∧
      (result.error ≠ .ok ∧ after = state ∨ result.error = .ok ∧
        Advertised state connection nodeId topicName typeName typeHash maxMessageSize transport pool result after) := by
  cases advertise_cases done with
  | refused failed =>
    exact ⟨consistent, (Shrinks.refl _).issues rfl (by rw [joining, done]; exact if_neg failed), .inl ⟨failed, rfl⟩⟩
  | @joined node topicId topic middle owned valid accepted finds =>
    obtain ⟨target, vacant⟩ :=
      findOrCreateTopic_target consistent.toIntegrity fresh (advertiseMismatch_none.mp accepted) finds
    obtain rfl : topic.topicId = topicId := target.core.topicIds topicId topic target.topic
    have holder := (ownedNode_some.mp owned).1
    let publisher : PublisherEndpoint := ⟨middle.nextEndpointId, nodeId, topic.topicId, maxMessageSize, transport, pool⟩
    have core : Core (withPublisher middle topic.topicId topic node publisher) :=
      target.core.withPublisher (by rw [target.publishers, target.nextEndpointId, fresh.publisher])
        (by rw [target.nodes, holder]) target.topic (vacant.elim id id) rfl
    have publishers : (withPublisher middle topic.topicId topic node publisher).publishers =
        state.publishers.insertIfNew state.nextEndpointId publisher := by
      simp only [withPublisher, target.publishers, target.nextEndpointId]
    have enters : Enters state middle nodeId _ node _ (withPublisher middle topic.topicId topic node publisher) :=
      ⟨⟨_, rfl, rfl⟩, rfl, .inr ⟨publisher, fresh.publisher, rfl, publishers⟩, .inl target.subscribers, rfl, rfl, rfl, rfl, rfl⟩
    refine ⟨⟨target.integrity enters core (.inl rfl), target.implied enters consistent rfl (fun id => ?_) rfl ?_⟩,
      target.issues enters holder rfl (by rw [joining, done]; rfl) rfl target.nextEndpointId,
      .inr ⟨rfl, ⟨node, owned⟩, target.joins enters holder rfl, ?_, target.nextEndpointId, ?_, target.subscribers,
        ⟨_, enters.found, target.named⟩⟩⟩
    · exact uses_publisher publishers target.subscribers fresh.publisher
    · have stored : (withPublisher middle topic.topicId topic node publisher).publishers[middle.nextEndpointId]? =
          some publisher := by
        have unused := fresh.publisher
        rw [publishers, target.nextEndpointId]
        grind
      simp only [attachedPool, Option.bind_some]
      rw [stored]
      rfl
    · simp only [not_or, Bool.not_eq_true, Bool.not_eq_eq_eq_not] at valid
      simpa using valid.2.2.2.2
    · rw [publishers]
      simp only [publisher, target.nextEndpointId]

theorem subscribe_joins (consistent : Consistent state) (fresh : Fresh state)
    (done : state.subscribe connection nodeId topicName typeName typeHash maxMessageSize dataSocketPath transport queue =
      .ok (result, after)) :
    Consistent after ∧
      Issues state (.subscribe connection nodeId topicName typeName typeHash maxMessageSize dataSocketPath transport queue)
        after ∧
      (result.error ≠ .ok ∧ after = state ∨ result.error = .ok ∧
        Subscribed state connection nodeId topicName typeName typeHash maxMessageSize dataSocketPath transport queue result
          after) := by
  cases subscribe_cases done with
  | refused failed =>
    exact ⟨consistent, (Shrinks.refl _).issues rfl (by rw [joining, done]; exact if_neg failed), .inl ⟨failed, rfl⟩⟩
  | @joined node topicId topic middle owned valid accepted finds =>
    obtain ⟨target, _⟩ :=
      findOrCreateTopic_target consistent.toIntegrity fresh (subscribeMismatch_none.mp accepted) finds
    obtain rfl : topic.topicId = topicId := target.core.topicIds topicId topic target.topic
    have holder := (ownedNode_some.mp owned).1
    let subscriber : SubscriberEndpoint :=
      ⟨middle.nextEndpointId, nodeId, topic.topicId, dataSocketPath, maxMessageSize, transport, queue⟩
    have core : Core (withSubscriber middle topic.topicId topic node subscriber) :=
      target.core.withSubscriber (by rw [target.subscribers, target.nextEndpointId, fresh.subscriber])
        (by rw [target.nodes, holder]) target.topic rfl
    have subscribers : (withSubscriber middle topic.topicId topic node subscriber).subscribers =
        state.subscribers.insertIfNew state.nextEndpointId subscriber := by
      simp only [withSubscriber, target.subscribers, target.nextEndpointId]
    have enters : Enters state middle nodeId _ node _ (withSubscriber middle topic.topicId topic node subscriber) :=
      ⟨⟨_, rfl, rfl⟩, rfl, .inl target.publishers, .inr ⟨subscriber, fresh.subscriber, rfl, subscribers⟩, rfl, rfl, rfl, rfl, rfl⟩
    refine ⟨⟨target.integrity enters core (.inr ExtTreeSet.insert_ne_empty),
        target.implied enters consistent rfl (fun id => ?_) rfl ?_⟩,
      target.issues enters holder rfl (by rw [joining, done]; rfl) rfl target.nextEndpointId,
      .inr ⟨rfl, ⟨node, owned⟩, target.joins enters holder rfl, ?_, target.nextEndpointId, target.publishers, ?_,
        ⟨_, enters.found, target.named⟩⟩⟩
    · refine uses_subscriber ?_ subscribers fresh.subscriber
      exact target.publishers
    · have same : attachedPool (withSubscriber middle topic.topicId topic node subscriber) { topic with
          subscriberEndpoints := topic.subscriberEndpoints.insert middle.nextEndpointId
          maxMessageSize := min topic.maxMessageSize maxMessageSize } = attachedPool state topic := by
        simp only [attachedPool, withSubscriber, target.publishers]
      rw [same]
      rcases target.origin with present | ⟨_, vacant, _, unset⟩
      · exact (consistent.implied _ topic present).pool
      · simp only [attachedPool, vacant, unset, Option.bind_none, Option.map_none, Option.getD_none]
    · simp only [not_or, Bool.not_eq_true, Bool.not_eq_eq_eq_not] at valid
      simpa using valid.2.2.2.2.2
    · rw [subscribers]
      simp only [subscriber, target.nextEndpointId]

end Requests

end RobotMiddleware.Proofs.RegistryJoins
