import RobotMiddleware.Proofs.RegistryCalls

/-! Who owns an endpoint, and what a request can take away from whom. None of this
needs the ids to be fresh, so it holds however often the counters have wrapped. -/

namespace RobotMiddleware.Proofs.RegistryOwnership
open Std Lib.Index Lib.Outcome Lib.Loops RegistryState RegistryCalls

/-- The connection speaks for the node, and the publisher is one of the node's. -/
def Owns (state : RegistryState) (connection nodeId endpointId : UInt64) : Prop :=
  ∃ node publisher, state.ownedNode connection nodeId = some node ∧ state.publishers[endpointId]? = some publisher ∧
    publisher.nodeId = nodeId

/-- Nodes stand under their ids and are not dead, and a publisher is in the set of a
node that exists. -/
structure Anchored (state : RegistryState) : Prop where
  nodes : ∀ (id : UInt64) (node : NodeRecord), state.nodes[id]? = some node → node.nodeId = id ∧ node.liveness ≠ .dead
  listed : ∀ (endpointId : UInt64) (publisher : PublisherEndpoint), state.publishers[endpointId]? = some publisher →
    ∃ node, state.nodes[publisher.nodeId]? = some node ∧ endpointId ∈ node.publisherEndpoints

/-- No topic has a subscriber that it did not have before. -/
def Quieter (before after : RegistryState) : Prop :=
  ∀ (id : UInt64) (topic : TopicRecord) (endpointId : UInt64), after.topics[id]? = some topic →
    endpointId ∈ topic.subscriberEndpoints → ∃ old, before.topics[id]? = some old ∧ endpointId ∈ old.subscriberEndpoints

/-- A node is an old one with the connection it had, or was registered on the given one. -/
def Tended (connection : UInt64) (before after : RegistryState) : Prop :=
  ∀ (id : UInt64) (node : NodeRecord), after.nodes[id]? = some node →
    node.controlConnection = connection ∨ ∃ old, before.nodes[id]? = some old ∧ old.controlConnection = node.controlConnection

/-- Publishers and nodes are still there, and a node answers to the same connection. -/
structure Keeps (connection : UInt64) (before after : RegistryState) : Prop where
  anchored : Anchored before → Anchored after
  publishers : ∀ (endpointId : UInt64) (publisher : PublisherEndpoint), before.publishers[endpointId]? = some publisher →
    after.publishers[endpointId]? = some publisher
  nodes : ∀ (id : UInt64) (old : NodeRecord), before.nodes[id]? = some old →
    ∃ node, after.nodes[id]? = some node ∧ node.controlConnection = old.controlConnection
  tended : Tended connection before after

/-- Nothing is new, and only the nodes `ids` lose anything. -/
structure Loses (ids : List UInt64) (before after : RegistryState) : Prop where
  anchored : Anchored before → Anchored after
  publishers : Trims (·.nodeId) (· ∈ ids) before.publishers after.publishers
  nodes : ∀ (id : UInt64) (node : NodeRecord), after.nodes[id]? = some node →
    ∃ old, before.nodes[id]? = some old ∧ node.controlConnection = old.controlConnection
  topics : Quieter before after
  sparedNodes : ∀ id, id ∈ before.nodes → id ∉ ids → id ∈ after.nodes

variable {state before middle after : RegistryState} {connection nodeId endpointId : UInt64}

theorem Quieter.refl (state : RegistryState) : Quieter state state := fun _ topic _ found listed => ⟨topic, found, listed⟩

theorem Quieter.trans (first : Quieter before middle) (last : Quieter middle after) : Quieter before after := by
  intro id topic endpoint found listed
  obtain ⟨old, present, member⟩ := last id topic endpoint found listed
  exact first id old endpoint present member

theorem Keeps.refl (state : RegistryState) : Keeps connection state state :=
  ⟨id, fun _ _ found => found, fun _ node found => ⟨node, found, rfl⟩, fun _ node found => .inr ⟨node, found, rfl⟩⟩

theorem Keeps.trans (first : Keeps connection before middle) (last : Keeps connection middle after) :
    Keeps connection before after := by
  refine ⟨fun anchored => last.anchored (first.anchored anchored),
    fun endpoint publisher found => last.publishers _ _ (first.publishers _ _ found), fun id old found => ?_, fun id node found => ?_⟩
  · obtain ⟨between, present, same⟩ := first.nodes id old found
    obtain ⟨node, stands, again⟩ := last.nodes id between present
    exact ⟨node, stands, again.trans same⟩
  · rcases last.tended id node found with mine | ⟨between, stood, same⟩
    · exact .inl mine
    · rcases first.tended id between stood with mine | ⟨old, present, earlier⟩
      · exact .inl (same.symm.trans mine)
      · exact .inr ⟨old, present, earlier.trans same⟩

theorem Keeps.mem (keeps : Keeps connection before after) (present : nodeId ∈ before.nodes) : nodeId ∈ after.nodes := by
  obtain ⟨old, stood⟩ := mem_iff_found.mp present
  obtain ⟨node, stands, _⟩ := keeps.nodes nodeId old stood
  exact mem_iff_found.mpr ⟨node, stands⟩

theorem Anchored.congr (anchored : Anchored before) (nodes : after.nodes = before.nodes)
    (publishers : after.publishers = before.publishers) : Anchored after := by
  refine ⟨?_, ?_⟩
  · rw [nodes]
    exact anchored.nodes
  · rw [nodes, publishers]
    exact anchored.listed

/-- Only topics have changed. -/
theorem Loses.of_topics (nodes : after.nodes = before.nodes) (publishers : after.publishers = before.publishers)
    (topics : Quieter before after) : Loses [] before after := by
  refine ⟨fun anchored => anchored.congr nodes publishers, .of_eq publishers, ?_, topics, ?_⟩
  · rw [nodes]
    exact fun _ node found => ⟨node, found, rfl⟩
  · rw [nodes]
    exact fun _ present _ => present

theorem Loses.refl (state : RegistryState) : Loses [] state state := .of_topics rfl rfl (.refl state)

variable {ids : List UInt64} {topicId maxMessageSize : UInt64} {error : ErrorCode} {typeHash typeName topicName : Bytes}

theorem Loses.mono {more : List UInt64} (loses : Loses ids before after) (included : ∀ id ∈ ids, id ∈ more) :
    Loses more before after :=
  ⟨loses.anchored, loses.publishers.trans (.of_eq rfl) included included, loses.nodes, loses.topics,
    fun id present spared => loses.sparedNodes id present fun lost => spared (included _ lost)⟩

theorem Loses.trans {more : List UInt64} (first : Loses ids before middle) (last : Loses more middle after) :
    Loses (ids ++ more) before after := by
  refine ⟨fun anchored => last.anchored (first.anchored anchored),
    first.publishers.trans last.publishers (fun _ => List.mem_append_left _) fun _ => List.mem_append_right _, ?_,
    first.topics.trans last.topics, ?_⟩
  · intro id node found
    obtain ⟨between, present, same⟩ := last.nodes id node found
    obtain ⟨old, stood, before_same⟩ := first.nodes id between present
    exact ⟨old, stood, same.trans before_same⟩
  · intro id present spared
    simp only [List.mem_append, not_or] at spared
    exact last.sparedNodes _ (first.sparedNodes _ present spared.1) spared.2

theorem Loses.withMetrics (loses : Loses ids before after) (metrics : RegistryMetrics) :
    Loses ids before { after with metrics } :=
  ⟨fun anchored => (loses.anchored anchored).congr rfl rfl, loses.publishers, loses.nodes, loses.topics, loses.sparedNodes⟩

theorem Loses.tended (loses : Loses ids before after) : Tended connection before after := by
  intro id node found
  obtain ⟨old, present, same⟩ := loses.nodes id node found
  exact .inr ⟨old, present, same.symm⟩

theorem Loses.keeps (loses : Loses [] before after) : Keeps connection before after := by
  refine ⟨loses.anchored, fun _ _ found => loses.publishers.spares _ _ found (by simp), fun id old found => ?_, loses.tended⟩
  have still : id ∈ after.nodes := loses.sparedNodes id (mem_iff_found.mpr ⟨old, found⟩) (by simp)
  obtain ⟨node, present⟩ := mem_iff_found.mp still
  obtain ⟨former, stood, same⟩ := loses.nodes id node present
  rw [found] at stood
  cases stood
  exact ⟨node, present, same⟩

theorem Owns.node (owns : Owns state connection nodeId endpointId) :
    ∃ node publisher, state.nodes[nodeId]? = some node ∧ node.controlConnection = connection ∧
      state.publishers[endpointId]? = some publisher ∧ publisher.nodeId = nodeId := by
  obtain ⟨node, publisher, owned, found, mine⟩ := owns
  obtain ⟨stood, same⟩ := ownedNode_some.mp owned
  exact ⟨node, publisher, stood, same, found, mine⟩

theorem Owns.keep {caller : UInt64} (owns : Owns before connection nodeId endpointId) (keeps : Keeps caller before after) :
    Owns after connection nodeId endpointId := by
  obtain ⟨node, publisher, stood, same, found, mine⟩ := owns.node
  obtain ⟨now, present, kept⟩ := keeps.nodes nodeId node stood
  exact ⟨now, publisher, ownedNode_some.mpr ⟨present, kept.trans same⟩, keeps.publishers _ _ found, mine⟩

/-- A publisher that outlives a loss still belongs to whom it belonged to. -/
theorem Owns.outlive (owns : Owns before connection nodeId endpointId) (loses : Loses ids before after)
    (anchored : Anchored after) (still : endpointId ∈ after.publishers) : Owns after connection nodeId endpointId := by
  obtain ⟨node, publisher, stood, same, found, mine⟩ := owns.node
  obtain ⟨now, present⟩ := mem_iff_found.mp still
  have former := loses.publishers.within _ _ present
  rw [found] at former
  cases former
  obtain ⟨holder, held, _⟩ := anchored.listed _ _ present
  rw [mine] at held
  obtain ⟨old, was, kept⟩ := loses.nodes _ _ held
  rw [stood] at was
  cases was
  exact ⟨holder, publisher, ownedNode_some.mpr ⟨held, kept.trans same⟩, present, mine⟩

/-- Whoever owns an endpoint is the only one who does. -/
theorem Owns.unique {other : UInt64} {otherNode : UInt64} (owns : Owns state connection nodeId endpointId)
    (also : Owns state other otherNode endpointId) : other = connection ∧ otherNode = nodeId := by
  obtain ⟨node, publisher, stood, same, found, mine⟩ := owns.node
  obtain ⟨node', publisher', stood', same', found', mine'⟩ := also.node
  rw [found] at found'
  cases found'
  have nodes : otherNode = nodeId := mine'.symm.trans mine
  subst nodes
  rw [stood] at stood'
  cases stood'
  exact ⟨same'.symm.trans same, rfl⟩

theorem settle_loses (done : state.recomputeTopicMaxMessageSize topicId = .ok after) :
    Loses [] state (after.eraseTopicIfEmpty topicId) := by
  have only := settle_topicsOnly done
  refine .of_topics only.nodes only.publishers fun id topic endpoint found listed => ?_
  obtain ⟨old, stored, _, same⟩ := only.topics id topic found
  exact ⟨old, stored, same ▸ listed⟩

variable {node : NodeRecord} {transport : TransportType}

/-- A node may change as long as it keeps its id, its connection and its publishers. -/
theorem setNode_loses {old : NodeRecord} (found : state.nodes[nodeId]? = some old) (id : node.nodeId = old.nodeId)
    (control : node.controlConnection = old.controlConnection) (living : old.liveness ≠ .dead → node.liveness ≠ .dead)
    (listed : node.publisherEndpoints = old.publisherEndpoints) : Loses [] state (state.setNode nodeId node) := by
  refine ⟨fun anchored => ⟨fun other record present => ?_, fun endpoint publisher present => ?_⟩, .of_eq rfl,
    fun other record present => ?_, .refl state, fun other present _ => ?_⟩
  · have known := anchored.nodes
    simp only [RegistryState.setNode] at present
    grind
  · obtain ⟨holder, held, member⟩ := anchored.listed endpoint publisher present
    simp only [RegistryState.setNode]
    grind
  · simp only [RegistryState.setNode] at present
    grind
  · simp only [RegistryState.setNode]
    grind

section Left
variable {topic : TopicRecord}

theorem withoutPublisher_loses {publisher : PublisherEndpoint} (owner : state.nodes[publisher.nodeId]? = some node)
    (present : state.publishers[endpointId]? = some publisher) (found : state.topics[publisher.topicId]? = some topic) :
    Loses [publisher.nodeId] state (withoutPublisher state endpointId publisher node topic) := by
  refine ⟨fun anchored => ⟨fun other record stored => ?_, fun endpoint other stored => ?_⟩,
    .erase present (by simp), fun id record stored => ?_, fun id record endpoint stored listed => ?_, fun id stored _ => ?_⟩
  on_goal 1 => have ids := anchored.nodes
  on_goal 2 => have holders := anchored.listed
  all_goals
    simp only [withoutPublisher] at stored ⊢
    grind

theorem withoutSubscriber_loses {subscriber : SubscriberEndpoint} (owner : state.nodes[subscriber.nodeId]? = some node)
    (found : state.topics[subscriber.topicId]? = some topic) :
    Loses [] state (withoutSubscriber state endpointId subscriber node topic) := by
  refine ⟨fun anchored => ⟨fun other record stored => ?_, fun endpoint other stored => ?_⟩, .of_eq rfl,
    fun id record stored => ?_, fun id record endpoint stored listed => ?_, fun id stored _ => ?_⟩
  on_goal 1 => have ids := anchored.nodes
  on_goal 2 => have holders := anchored.listed
  all_goals
    simp only [withoutSubscriber] at stored ⊢
    grind

end Left

theorem unadvertise_effect (done : state.unadvertise connection nodeId endpointId = .ok (error, after)) :
    (error = .endpointNotFound ∧ after = state ∧ ¬Owns state connection nodeId endpointId) ∨
    (error = .ok ∧ Owns state connection nodeId endpointId ∧ Loses [nodeId] state after ∧
      (∀ id, id ∈ state.nodes → id ∈ after.nodes) ∧ after.publishers = state.publishers.erase endpointId) := by
  cases unadvertise_iff.mp done with
  | refused foreign =>
    refine .inl ⟨rfl, rfl, ?_⟩
    rintro ⟨node, publisher, owned, present, mine⟩
    exact foreign node publisher owned present mine
  | @left node publisher topic settled owned present mine found recomputed =>
    subst mine
    have only := settle_topicsOnly recomputed
    have loses := withoutPublisher_loses (ownedNode_some.mp owned).1 present found
    refine .inr ⟨rfl, ⟨node, publisher, owned, present, rfl⟩, loses.trans (settle_loses recomputed), fun id here => ?_,
      only.publishers⟩
    rw [only.nodes]
    simp only [withoutPublisher]
    grind

theorem unsubscribe_loses (done : state.unsubscribe connection nodeId endpointId = .ok (error, after)) : Loses [] state after := by
  cases unsubscribe_iff.mp done with
  | refused => exact .refl state
  | left owned present mine found recomputed =>
    subst mine
    exact (withoutSubscriber_loses (ownedNode_some.mp owned).1 found).trans (settle_loses recomputed)

theorem Loses.eraseNode (loses : Loses [nodeId] before after) (name : Bytes)
    (retired : Anchored before → ∀ (endpoint : UInt64) (publisher : PublisherEndpoint),
      after.publishers[endpoint]? = some publisher → publisher.nodeId ≠ nodeId) :
    Loses [nodeId] before { after with nodeNames := after.nodeNames.erase name, nodes := after.nodes.erase nodeId } := by
  refine ⟨fun anchored => ⟨fun id node found => ?_, fun endpoint publisher found => ?_⟩, loses.publishers,
    fun id node found => ?_, loses.topics, fun id present spared => ?_⟩
  · have known := (loses.anchored anchored).nodes id node
    grind
  · obtain ⟨holder, held, member⟩ := (loses.anchored anchored).listed endpoint publisher found
    have other := retired anchored endpoint publisher found
    grind
  · have known := loses.nodes id node
    grind
  · have known := loses.sparedNodes id present spared
    grind

theorem unadvertiseAll_effect {endpoints : List UInt64} (owned : state.ownedNode connection nodeId = some node)
    (done : leaveAll (·.unadvertise connection nodeId) endpoints state = .ok after) :
    Loses [nodeId] state after ∧
      ∀ endpointId ∈ endpoints, ∀ publisher, after.publishers[endpointId]? = some publisher → publisher.nodeId ≠ nodeId := by
  obtain ⟨was, control⟩ := ownedNode_some.mp owned
  have looped := leaveAll_each (fun now => Loses [nodeId] state now ∧ nodeId ∈ now.nodes)
    (fun endpoint now => ∀ publisher, now.publishers[endpoint]? = some publisher → publisher.nodeId ≠ nodeId)
    (fun held called => ?_) ⟨(Loses.refl state).mono (by simp), mem_iff_found.mpr ⟨node, was⟩⟩ done
  · exact ⟨looped.1.1, looped.2⟩
  · obtain ⟨lost, present⟩ := held
    rcases unadvertise_effect called with ⟨_, rfl, foreign⟩ | ⟨_, _, more, nodes, publishers⟩
    · refine ⟨⟨lost, present⟩, fun publisher found mine => foreign ?_, fun _ before => before⟩
      obtain ⟨record, stood⟩ := mem_iff_found.mp present
      obtain ⟨old, former, same⟩ := lost.nodes nodeId record stood
      rw [former] at was
      cases was
      exact ⟨record, publisher, ownedNode_some.mpr ⟨stood, same.trans control⟩, found, mine⟩
    · refine ⟨⟨(lost.trans more).mono (by simp), nodes _ present⟩, fun publisher found => ?_,
        fun other before publisher found => before publisher (more.publishers.within _ _ found)⟩
      rw [publishers] at found
      grind

theorem unregisterNode_effect (done : state.unregisterNode connection nodeId = .ok (error, after)) :
    (error = .notRegistered ∧ after = state) ∨
    (error = .ok ∧ (∃ node, state.ownedNode connection nodeId = some node) ∧ Loses [nodeId] state after) := by
  cases unregisterNode_iff.mp done with
  | refused => exact .inl ⟨rfl, rfl⟩
  | @left node withdrawn last owned unadvertised unsubscribed =>
    obtain ⟨lost, each⟩ := unadvertiseAll_effect owned unadvertised
    have more := leaveAll_keeps (Loses [] withdrawn) (fun held called => held.trans (unsubscribe_loses called)) (.refl withdrawn)
      unsubscribed
    have total : Loses [nodeId] state last := (lost.trans more).mono (by simp)
    refine .inr ⟨rfl, ⟨node, owned⟩, total.eraseNode node.nodeName ?_⟩
    -- A publisher of the node was in its set from the start, so the first loop took it.
    intro anchored endpoint publisher found mine
    obtain ⟨holder, held, member⟩ := anchored.listed endpoint publisher (total.publishers.within _ _ found)
    rw [mine, (ownedNode_some.mp owned).1] at held
    cases held
    exact each endpoint (ExtTreeSet.mem_toList.mpr member) publisher (more.publishers.within _ _ found) mine

theorem registerNode_keeps (name : Bytes) (now : Int) : Keeps connection state (state.registerNode connection name now).2 ∧
    Quieter state (state.registerNode connection name now).2 := by
  unfold registerNode
  split
  · exact ⟨.refl state, .refl state⟩
  split
  · exact ⟨.refl state, .refl state⟩
  refine ⟨⟨fun anchored => ⟨fun id node found => ?_, fun endpoint publisher found => ?_⟩, fun _ _ found => found,
    fun id node found => ⟨node, ?_, rfl⟩, fun id node found => ?_⟩, .refl state⟩
  · have known := anchored.nodes id node
    grind
  · obtain ⟨holder, held, member⟩ := anchored.listed endpoint publisher found
    refine ⟨holder, ?_, member⟩
    grind
  · grind
  · grind

theorem finds_loses {topic : TopicRecord}
    (finds : Finds state topicName typeName typeHash maxMessageSize transport topicId topic after) :
    Loses [] state after ∧ after.nodes = state.nodes ∧ after.topics[topicId]? = some topic := by
  cases finds with
  | known named stored => exact ⟨.refl state, rfl, stored⟩
  | created unknown stored =>
    refine ⟨.of_topics rfl rfl fun id other endpoint present listed => ?_, rfl, stored⟩
    simp only [withTopic] at present
    grind

/-- A new publisher enters its node's set and the table, unless its id is taken. -/
theorem withPublisher_keeps (publisher : PublisherEndpoint) {topic : TopicRecord}
    (owner : state.nodes[publisher.nodeId]? = some node) (found : state.topics[topicId]? = some topic) :
    Keeps connection state (withPublisher state topicId topic node publisher) ∧
      Quieter state (withPublisher state topicId topic node publisher) := by
  refine ⟨⟨fun anchored => ⟨fun id record present => ?_, fun endpoint other present => ?_⟩, fun endpoint other present => ?_,
    fun id record present => ?_, fun id record present => ?_⟩, fun id record endpoint present listed => ?_⟩
  on_goal 1 => have ids := anchored.nodes
  on_goal 2 => have holders := anchored.listed
  all_goals
    simp only [withPublisher] at present ⊢
    grind

theorem withSubscriber_keeps (subscriber : SubscriberEndpoint) (topic : TopicRecord)
    (owner : state.nodes[subscriber.nodeId]? = some node) :
    Keeps connection state (withSubscriber state topicId topic node subscriber) := by
  refine ⟨fun anchored => ⟨fun id record present => ?_, fun endpoint other present => ?_⟩, fun _ _ present => present,
    fun id record present => ?_, fun id record present => ?_⟩
  on_goal 1 => have ids := anchored.nodes
  on_goal 2 => have holders := anchored.listed
  all_goals
    simp only [withSubscriber] at present ⊢
    grind

theorem advertise_keeps {pool : SharedPoolMetadata} {result : EndpointResult}
    (done : state.advertise connection nodeId topicName typeName typeHash maxMessageSize transport pool =
      .ok (result, after)) : Keeps connection state after ∧ Quieter state after := by
  cases advertise_cases done with
  | refused => exact ⟨.refl state, .refl state⟩
  | @joined node topicId topic middle owned _ _ finds =>
    obtain ⟨found, nodes, current⟩ := finds_loses finds
    have owner : middle.nodes[nodeId]? = some node := by rw [nodes, (ownedNode_some.mp owned).1]
    obtain ⟨kept, quiet⟩ := withPublisher_keeps
      ⟨middle.nextEndpointId, nodeId, topic.topicId, maxMessageSize, transport, pool⟩ owner current
    exact ⟨found.keeps.trans kept, found.topics.trans quiet⟩

theorem subscribe_keeps {dataSocketPath : Bytes} {queue : SharedQueueMetadata} {result : EndpointResult}
    (done : state.subscribe connection nodeId topicName typeName typeHash maxMessageSize dataSocketPath transport queue =
      .ok (result, after)) : Keeps connection state after ∧ (result.error ≠ .ok → after = state) := by
  cases subscribe_cases done with
  | refused => exact ⟨.refl state, fun _ => rfl⟩
  | @joined node topicId topic middle owned _ _ finds =>
    obtain ⟨found, nodes, _⟩ := finds_loses finds
    have owner : middle.nodes[nodeId]? = some node := by rw [nodes, (ownedNode_some.mp owned).1]
    exact ⟨found.keeps.trans (withSubscriber_keeps _ topic owner), fun failed => absurd rfl failed⟩

theorem attachHeartbeat_loses (sessionId : UInt64) : Loses [] state (state.attachHeartbeat connection nodeId sessionId).2 := by
  rcases attachHeartbeat_cases connection nodeId sessionId with refused | ⟨node, found, _, _, _, accepted⟩
  · rw [refused]
    exact .refl state
  · rw [accepted]
    exact setNode_loses found rfl rfl id rfl

theorem heartbeat_loses (sessionId : UInt64) (now : Int) :
    Loses [] state (state.heartbeat connection nodeId sessionId now).2 := by
  rcases heartbeat_cases connection nodeId sessionId now with ⟨_, liveness, refused⟩ | ⟨node, renews, accepted⟩
  · rw [refused]
    exact .refl state
  · rw [accepted]
    have lost : Loses [] state (state.setNode nodeId { node with lastSeen := now, liveness := .alive }) :=
      setNode_loses renews.1 rfl rfl (by simp) rfl
    exact lost.withMetrics _

theorem mapNodes_loses (update : UInt64 → NodeRecord → NodeRecord) (same : ∀ id node, (update id node).nodeId = node.nodeId ∧
      (update id node).controlConnection = node.controlConnection ∧
      (update id node).publisherEndpoints = node.publisherEndpoints ∧
      (node.liveness ≠ .dead → (update id node).liveness ≠ .dead)) :
    Loses [] state { state with nodes := state.nodes.map update } := by
  refine ⟨fun anchored => ⟨fun id node found => ?_, fun endpoint publisher found => ?_⟩, .of_eq rfl, fun id node found => ?_,
    .refl state, fun id present _ => ?_⟩
  · have known := anchored.nodes id
    grind
  · have known := anchored.listed endpoint publisher found
    grind
  · grind
  · grind

theorem marked_loses (now : Int) : Loses [] state (marked state now) :=
  (mapNodes_loses
    (fun _ node => if newlySuspected state.liveness now node then { node with liveness := .suspected } else node)
    fun _ node => by split <;> simp).withMetrics _

theorem detachHeartbeatConnection_loses (connection : UInt64) : Loses [] state (state.detachHeartbeatConnection connection) :=
  mapNodes_loses _ fun _ node => by split <;> simp

theorem cleanupDeadNode_loses {cleanup : Option DeadNodeCleanup}
    (done : state.cleanupDeadNode nodeId = .ok (cleanup, after)) : Loses (cleanup.toList.map (·.nodeId)) state after := by
  cases cleanupDeadNode_iff.mp done with
  | absent => exact .refl state
  | @removed node plan error last found planned unregistered =>
    have names : plan.nodeId = node.nodeId := congrArg DeadNodeCleanup.nodeId (planFor_bare planned)
    simp only [Option.toList_some, List.map_cons, List.map_nil, names]
    rcases unregisterNode_effect unregistered with ⟨_, rfl⟩ | ⟨_, _, lost⟩
    · exact ((Loses.refl last).mono (by simp)).withMetrics _
    · exact lost.withMetrics _

theorem cleanupDeadNodes_loses {nodeIds : List UInt64} {cleanups : List DeadNodeCleanup}
    (done : state.cleanupDeadNodes nodeIds = .ok (cleanups, after)) : Loses (cleanups.map (·.nodeId)) state after := by
  induction nodeIds generalizing state cleanups with
  | nil =>
    cases done
    exact .refl _
  | cons id rest ih =>
    obtain ⟨cleanup, middle, others, first, remaining, rfl⟩ := cleanupDeadNodes_cons done
    rw [List.map_append]
    exact (cleanupDeadNode_loses first).trans (ih remaining)

theorem evaluateLiveness_loses {now : Int} {update : LivenessUpdate}
    (done : state.evaluateLiveness now = .ok (update, after)) : Loses (update.deadNodes.map (·.nodeId)) state after :=
  (marked_loses now).trans (cleanupDeadNodes_loses (evaluateLiveness_some done))

theorem disconnectConnection_loses {cleanups : List DeadNodeCleanup}
    (done : state.disconnectConnection connection = .ok (cleanups, after)) : Loses (cleanups.map (·.nodeId)) state after := by
  obtain ⟨middle, cleaned, rfl⟩ := disconnectConnection_some done
  have lost := cleanupDeadNodes_loses cleaned
  split
  · exact (lost.trans (detachHeartbeatConnection_loses connection)).mono (by simp)
  · exact lost

def Unserved (state : RegistryState) (endpointId : UInt64) : Prop :=
  ∀ (publisher : PublisherEndpoint) (topic : TopicRecord), state.publishers[endpointId]? = some publisher →
    state.topics[publisher.topicId]? = some topic → ∀ subscriber, subscriber ∉ topic.subscriberEndpoints

theorem Unserved.quieter (unserved : Unserved before endpointId) (quieter : Quieter before after)
    (same : ∀ publisher, after.publishers[endpointId]? = some publisher → before.publishers[endpointId]? = some publisher) :
    Unserved after endpointId := by
  intro publisher topic found current subscriber listed
  obtain ⟨old, stood, member⟩ := quieter _ topic subscriber current listed
  exact unserved publisher old (same publisher found) stood subscriber member

/-- `resolve` has nothing to report yet exactly when the owner of an endpoint asks
for a topic without subscribers. -/
theorem resolve_waits_iff {result : DiscoveryResult} (done : state.resolve connection nodeId endpointId = .ok result) :
    result.error = .topicNotFound ↔ Owns state connection nodeId endpointId ∧ Unserved state endpointId := by
  unfold resolve at done
  cases owned : state.ownedNode connection nodeId with
  | none =>
    simp only [owned, Except.ok.injEq] at done
    subst done
    simp [Owns, owned]
  | some node =>
    cases present : state.publishers[endpointId]? with
    | none =>
      simp only [owned, present, Except.ok.injEq] at done
      subst done
      simp [Owns, present]
    | some publisher =>
      simp only [owned, present] at done
      split at done
      next foreign =>
        simp only [Except.ok.injEq] at done
        subst done
        simp [Owns, owned, present, foreign]
      next own =>
        simp only [ne_eq, Decidable.not_not] at own
        have owns : Owns state connection nodeId endpointId := ⟨node, publisher, owned, present, own⟩
        obtain ⟨topic, found, done⟩ := bind_ok done
        have current := mapAt_some found
        have unserved : Unserved state endpointId ↔ topic.subscriberEndpoints.isEmpty = true := by
          rw [ExtTreeSet.isEmpty_iff, ExtTreeSet.eq_empty_iff_forall_not_mem]
          refine ⟨fun silent subscriber => silent publisher topic present current subscriber, fun silent => ?_⟩
          intro record other same stands
          rw [present] at same
          cases same
          rw [current] at stands
          cases stands
          exact silent
        split at done
        next empty =>
          simp only [pure, Except.pure, Except.ok.injEq] at done
          subst done
          simp [owns, unserved, empty]
        next served =>
          obtain ⟨subscribers, _, done⟩ := bind_ok done
          simp only [pure, Except.pure, Except.ok.injEq] at done
          subst done
          simp [unserved, served]

end RobotMiddleware.Proofs.RegistryOwnership
