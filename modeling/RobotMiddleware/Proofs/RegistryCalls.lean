import RobotMiddleware.Lib.Index
import RobotMiddleware.Lib.Loops
import RobotMiddleware.RegistryState

/-! What the calls of the registry do, case by case and whatever is in the tables.
The facts about a call are read off these cases. -/

namespace RobotMiddleware.Proofs.RegistryCalls
open Std Lib.Index Lib.Outcome Lib.Loops RegistryState

/-- What of a topic is fixed when it is created. -/
def bareTopic (topic : TopicRecord) : TopicRecord :=
  { topic with maxMessageSize := 0, publisherEndpoint := none, subscriberEndpoints := ∅, pool := {} }

def withPublisher (state : RegistryState) (topicId : UInt64) (topic : TopicRecord) (node : NodeRecord)
    (publisher : PublisherEndpoint) : RegistryState :=
  { state with
    nextEndpointId := state.nextEndpointId + 1
    publishers := state.publishers.insertIfNew state.nextEndpointId publisher
    topics := state.topics.insert topicId { topic with
      publisherEndpoint := some state.nextEndpointId, pool := publisher.pool
      maxMessageSize := min topic.maxMessageSize publisher.maxMessageSize }
    nodes := state.nodes.insert publisher.nodeId
      { node with publisherEndpoints := node.publisherEndpoints.insert state.nextEndpointId } }

def withSubscriber (state : RegistryState) (topicId : UInt64) (topic : TopicRecord) (node : NodeRecord)
    (subscriber : SubscriberEndpoint) : RegistryState :=
  { state with
    nextEndpointId := state.nextEndpointId + 1
    subscribers := state.subscribers.insertIfNew state.nextEndpointId subscriber
    topics := state.topics.insert topicId { topic with
      subscriberEndpoints := topic.subscriberEndpoints.insert state.nextEndpointId
      maxMessageSize := min topic.maxMessageSize subscriber.maxMessageSize }
    nodes := state.nodes.insert subscriber.nodeId
      { node with subscriberEndpoints := node.subscriberEndpoints.insert state.nextEndpointId } }

def expired (state : RegistryState) (now : Int) : List UInt64 :=
  ((state.nodes.toList.map Prod.snd).filter fun node => silentFor node.lastSeen now state.liveness.deadTimeout).map (·.nodeId)

def marked (state : RegistryState) (now : Int) : RegistryState :=
  { state with
    nodes := state.nodes.map fun _ node =>
      if newlySuspected state.liveness now node then { node with liveness := .suspected } else node
    metrics.suspectedCount := state.metrics.suspectedCount + UInt64.ofNat
      ((state.nodes.toList.map Prod.snd).filter (newlySuspected state.liveness now)).length }

def connected (state : RegistryState) (connection : UInt64) : List UInt64 :=
  (state.nodes.toList.filter fun entry => entry.2.controlConnection == connection).map Prod.fst

def withNode (state : RegistryState) (connection : UInt64) (nodeName : Bytes) (now : Int) : RegistryState :=
  { state with
    nextNodeId := state.nextNodeId + 1
    nextSessionId := state.nextSessionId + 1
    nodes := state.nodes.insertIfNew state.nextNodeId
      { nodeId := state.nextNodeId, sessionId := state.nextSessionId, nodeName, controlConnection := connection, lastSeen := now }
    nodeNames := state.nodeNames.insertIfNew nodeName state.nextNodeId }

/-- The caller knows the session of the node and is one of its two connections. -/
def Renews (state : RegistryState) (connection nodeId sessionId : UInt64) (node : NodeRecord) : Prop :=
  state.nodes[nodeId]? = some node ∧ node.sessionId = sessionId ∧
    (connection = node.controlConnection ∨ connection = node.heartbeatConnection)

variable {state after : RegistryState} {connection nodeId endpointId topicId maxMessageSize : UInt64}
  {topicName typeName typeHash dataSocketPath : Bytes} {transport : TransportType} {pool : SharedPoolMetadata}
  {queue : SharedQueueMetadata} {result : EndpointResult} {error : ErrorCode}

theorem mem_expired (ids : ∀ (id : UInt64) (node : NodeRecord), state.nodes[id]? = some node → node.nodeId = id)
    {now : Int} {id : UInt64} : id ∈ expired state now ↔
      ∃ node, state.nodes[id]? = some node ∧ silentFor node.lastSeen now state.liveness.deadTimeout = true := by
  simp only [expired, List.mem_map, List.mem_filter, Prod.exists,
    ExtTreeMap.mem_toList_iff_getElem?_eq_some]
  constructor
  · rintro ⟨node, ⟨⟨key, _, stored, rfl⟩, silent⟩, rfl⟩
    rw [ids _ _ stored]
    exact ⟨_, stored, silent⟩
  · rintro ⟨node, stored, silent⟩
    exact ⟨node, ⟨⟨id, node, stored, rfl⟩, silent⟩, ids _ _ stored⟩

theorem mem_connected {id : UInt64} :
    id ∈ connected state connection ↔ ∃ node, state.nodes[id]? = some node ∧ node.controlConnection = connection := by
  simp only [connected, List.mem_map, List.mem_filter, beq_iff_eq, Prod.exists,
    ExtTreeMap.mem_toList_iff_getElem?_eq_some]
  constructor
  · rintro ⟨key, node, ⟨stored, mine⟩, rfl⟩
    exact ⟨node, stored, mine⟩
  · rintro ⟨node, stored, mine⟩
    exact ⟨id, node, ⟨stored, mine⟩, rfl⟩

theorem registerNode_cases (connection : UInt64) (nodeName : Bytes) (now : Int) :
    (∃ error, error ≠ .ok ∧ state.registerNode connection nodeName now = ({ error }, state)) ∨
      state.nodeNames[nodeName]? = none ∧ state.registerNode connection nodeName now =
        ({ id := state.nextNodeId, sessionId := state.nextSessionId }, withNode state connection nodeName now) := by
  unfold registerNode
  split
  · exact .inl ⟨_, by decide, rfl⟩
  · split
    · exact .inl ⟨_, by decide, rfl⟩
    next unknown =>
      refine .inr ⟨?_, rfl⟩
      exact ExtTreeMap.getElem?_eq_none fun present => unknown (ExtTreeMap.mem_iff_contains.mp present)

theorem attachHeartbeat_cases (connection nodeId sessionId : UInt64) :
    state.attachHeartbeat connection nodeId sessionId = (.notRegistered, state) ∨
      ∃ node, state.nodes[nodeId]? = some node ∧ node.sessionId = sessionId ∧ connection ≠ 0 ∧
        (node.heartbeatConnection = 0 ∨ node.heartbeatConnection = connection) ∧
        state.attachHeartbeat connection nodeId sessionId =
          (.ok, state.setNode nodeId { node with heartbeatConnection := connection }) := by
  unfold attachHeartbeat
  cases found : state.nodes[nodeId]? with
  | none => exact .inl rfl
  | some node =>
    simp only
    split
    · exact .inl rfl
    next known =>
      split
      · exact .inl rfl
      next free =>
        simp only [ne_eq, not_or, Decidable.not_not] at known
        refine .inr ⟨node, rfl, known.1, known.2, ?_, rfl⟩
        by_cases none : node.heartbeatConnection = 0
        · exact .inl none
        · exact .inr (Decidable.byContradiction fun other => free ⟨none, other⟩)

theorem heartbeat_cases (connection nodeId sessionId : UInt64) (now : Int) :
    ((∀ node, ¬Renews state connection nodeId sessionId node) ∧ ∃ liveness,
      state.heartbeat connection nodeId sessionId now = ({ error := .notRegistered, state := liveness }, state)) ∨
    ∃ node, Renews state connection nodeId sessionId node ∧
      state.heartbeat connection nodeId sessionId now =
        ({}, { state.setNode nodeId { node with lastSeen := now, liveness := .alive } with
          metrics.heartbeatReceived := state.metrics.heartbeatReceived + 1 }) := by
  unfold heartbeat Renews
  cases found : state.nodes[nodeId]? with
  | none => exact .inl ⟨fun node renews => (Option.some_ne_none node) renews.1.symm, _, rfl⟩
  | some node =>
    simp only [Option.some.injEq]
    split
    next other =>
      refine .inl ⟨?_, _, rfl⟩
      rintro _ ⟨rfl, same, _⟩
      exact other same
    next session =>
      simp only [ne_eq, Decidable.not_not] at session
      split
      next foreign =>
        refine .inl ⟨?_, _, rfl⟩
        rintro _ ⟨rfl, _, control | attached⟩
        · exact foreign.1 control
        · exact foreign.2 attached
      next own =>
        refine .inr ⟨node, ⟨rfl, session, ?_⟩, rfl⟩
        by_cases control : connection = node.controlConnection
        · exact .inl control
        · exact .inr (Decidable.byContradiction fun other => own ⟨control, other⟩)

theorem mapAt_ok {β : Type} {map : ExtTreeMap UInt64 β} {key : UInt64} {value : β} (found : map[key]? = some value) :
    mapAt map key = .ok value := by
  rw [mapAt, found]

theorem mapAt_some {β : Type} {map : ExtTreeMap UInt64 β} {key : UInt64} {value : β} (found : mapAt map key = .ok value) :
    map[key]? = some value := by
  unfold mapAt at found
  cases looked : map[key]? with
  | none => simp [looked] at found
  | some =>
    simp only [looked, Except.ok.injEq] at found
    rw [found]

theorem ownedNode_some {node : NodeRecord} : state.ownedNode connection nodeId = some node ↔
    state.nodes[nodeId]? = some node ∧ node.controlConnection = connection := by
  unfold ownedNode
  cases state.nodes[nodeId]? with
  | none => simp
  | some =>
    simp only [ne_eq, ite_not, Option.ite_none_right_eq_some, Option.some.injEq]
    constructor
    · rintro ⟨owned, rfl⟩
      exact ⟨rfl, owned⟩
    · rintro ⟨rfl, owned⟩
      exact ⟨owned, rfl⟩

theorem setTopic_self {topic : TopicRecord} (found : state.topics[topicId]? = some topic) :
    state.setTopic topicId topic = state := by
  have same : state.topics.insert topicId topic = state.topics := by
    apply ExtTreeMap.ext_getElem?
    intro other
    grind
  rw [RegistryState.setTopic, same]

theorem recompute_some (done : state.recomputeTopicMaxMessageSize topicId = .ok after) :
    ∃ topic size, state.topics[topicId]? = some topic ∧
      after = state.setTopic topicId { topic with maxMessageSize := size } := by
  unfold recomputeTopicMaxMessageSize at done
  obtain ⟨topic, found, done⟩ := bind_ok done
  obtain ⟨limit, _, done⟩ := bind_ok done
  obtain ⟨maximum, _, done⟩ := bind_ok done
  cases done
  split
  · exact ⟨topic, maximum, mapAt_some found, rfl⟩
  · exact ⟨topic, topic.maxMessageSize, mapAt_some found, (setTopic_self (mapAt_some found)).symm⟩

/-- Nothing but topics has changed, and those that are left kept their names, types and subscribers. -/
structure TopicsOnly (before after : RegistryState) : Prop where
  nodes : after.nodes = before.nodes
  publishers : after.publishers = before.publishers
  subscribers : after.subscribers = before.subscribers
  liveness : after.liveness = before.liveness
  topics : ∀ (id : UInt64) (topic : TopicRecord), after.topics[id]? = some topic → ∃ old, before.topics[id]? = some old ∧
    bareTopic topic = bareTopic old ∧ topic.subscriberEndpoints = old.subscriberEndpoints

/-- What `unadvertise` and `unsubscribe` do last. -/
theorem settle_topicsOnly (done : state.recomputeTopicMaxMessageSize topicId = .ok after) :
    TopicsOnly state (after.eraseTopicIfEmpty topicId) := by
  obtain ⟨topic, size, found, rfl⟩ := recompute_some done
  have kept (id : UInt64) (record : TopicRecord)
      (stored : (state.topics.insert topicId { topic with maxMessageSize := size })[id]? = some record) :
      ∃ old, state.topics[id]? = some old ∧ bareTopic record = bareTopic old ∧
        record.subscriberEndpoints = old.subscriberEndpoints := by
    by_cases here : id = topicId
    · rw [here, ExtTreeMap.getElem?_insert_self, Option.some.injEq] at stored
      exact ⟨topic, here ▸ found, stored ▸ ⟨rfl, rfl⟩⟩
    · exact ⟨record, by grind, rfl, rfl⟩
  unfold eraseTopicIfEmpty RegistryState.setTopic
  split
  · exact ⟨rfl, rfl, rfl, rfl, kept⟩
  split
  · exact ⟨rfl, rfl, rfl, rfl, kept⟩
  · refine ⟨rfl, rfl, rfl, rfl, fun id record stored => kept id record ?_⟩
    grind

section Leaving

def withoutPublisher (state : RegistryState) (endpointId : UInt64) (publisher : PublisherEndpoint) (node : NodeRecord)
    (topic : TopicRecord) : RegistryState :=
  { state with
    nodes := state.nodes.insert publisher.nodeId
      { node with publisherEndpoints := node.publisherEndpoints.erase endpointId }
    publishers := state.publishers.erase endpointId
    topics := state.topics.insert publisher.topicId { topic with publisherEndpoint := none, pool := {} } }

def withoutSubscriber (state : RegistryState) (endpointId : UInt64) (subscriber : SubscriberEndpoint) (node : NodeRecord)
    (topic : TopicRecord) : RegistryState :=
  { state with
    nodes := state.nodes.insert subscriber.nodeId
      { node with subscriberEndpoints := node.subscriberEndpoints.erase endpointId }
    subscribers := state.subscribers.erase endpointId
    topics := state.topics.insert subscriber.topicId
      { topic with subscriberEndpoints := topic.subscriberEndpoints.erase endpointId } }

inductive Unadvertises (state : RegistryState) (connection nodeId endpointId : UInt64) : ErrorCode → RegistryState → Prop where
  | refused (foreign : ∀ node publisher, state.ownedNode connection nodeId = some node →
      state.publishers[endpointId]? = some publisher → publisher.nodeId ≠ nodeId) :
      Unadvertises state connection nodeId endpointId .endpointNotFound state
  | left {node : NodeRecord} {publisher : PublisherEndpoint} {topic : TopicRecord} {settled : RegistryState}
      (owned : state.ownedNode connection nodeId = some node) (present : state.publishers[endpointId]? = some publisher)
      (mine : publisher.nodeId = nodeId) (found : state.topics[publisher.topicId]? = some topic)
      (recomputed : (withoutPublisher state endpointId publisher node topic).recomputeTopicMaxMessageSize
        publisher.topicId = .ok settled) :
      Unadvertises state connection nodeId endpointId .ok (settled.eraseTopicIfEmpty publisher.topicId)

inductive Unsubscribes (state : RegistryState) (connection nodeId endpointId : UInt64) : ErrorCode → RegistryState → Prop where
  | refused (foreign : ∀ node subscriber, state.ownedNode connection nodeId = some node →
      state.subscribers[endpointId]? = some subscriber → subscriber.nodeId ≠ nodeId) :
      Unsubscribes state connection nodeId endpointId .endpointNotFound state
  | left {node : NodeRecord} {subscriber : SubscriberEndpoint} {topic : TopicRecord} {settled : RegistryState}
      (owned : state.ownedNode connection nodeId = some node) (present : state.subscribers[endpointId]? = some subscriber)
      (mine : subscriber.nodeId = nodeId) (found : state.topics[subscriber.topicId]? = some topic)
      (recomputed : (withoutSubscriber state endpointId subscriber node topic).recomputeTopicMaxMessageSize
        subscriber.topicId = .ok settled) :
      Unsubscribes state connection nodeId endpointId .ok (settled.eraseTopicIfEmpty subscriber.topicId)

theorem unadvertise_iff : state.unadvertise connection nodeId endpointId = .ok (error, after) ↔
    Unadvertises state connection nodeId endpointId error after := by
  unfold unadvertise
  constructor
  · intro done
    split at done
    next node publisher owned present =>
      split at done
      next foreign =>
        cases done
        exact .refused fun _ _ _ again => by grind
      next mine =>
        obtain rfl := Decidable.not_not.mp mine
        obtain ⟨topic, found, done⟩ := bind_ok done
        obtain ⟨settled, recomputed, done⟩ := bind_ok done
        cases done
        exact .left owned present rfl (mapAt_some found) recomputed
    next missing =>
      cases done
      exact .refused fun node publisher owned present => absurd present (missing node publisher owned)
  · rintro (foreign | ⟨owned, present, rfl, found, recomputed⟩)
    · split
      next node publisher owned present => rw [if_pos (foreign node publisher owned present)]
      next => rfl
    · unfold withoutPublisher at recomputed
      simp only [owned, present, ne_eq, not_true_eq_false, if_false, RegistryState.setNode, RegistryState.setTopic,
        mapAt_ok found, bind, Except.bind, recomputed]
      rfl

theorem unsubscribe_iff : state.unsubscribe connection nodeId endpointId = .ok (error, after) ↔
    Unsubscribes state connection nodeId endpointId error after := by
  unfold unsubscribe
  constructor
  · intro done
    split at done
    next node subscriber owned present =>
      split at done
      next foreign =>
        cases done
        exact .refused fun _ _ _ again => by grind
      next mine =>
        obtain rfl := Decidable.not_not.mp mine
        obtain ⟨topic, found, done⟩ := bind_ok done
        obtain ⟨settled, recomputed, done⟩ := bind_ok done
        cases done
        exact .left owned present rfl (mapAt_some found) recomputed
    next missing =>
      cases done
      exact .refused fun node subscriber owned present => absurd present (missing node subscriber owned)
  · rintro (foreign | ⟨owned, present, rfl, found, recomputed⟩)
    · split
      next node subscriber owned present => rw [if_pos (foreign node subscriber owned present)]
      next => rfl
    · unfold withoutSubscriber at recomputed
      simp only [owned, present, ne_eq, not_true_eq_false, if_false, RegistryState.setNode, RegistryState.setTopic,
        mapAt_ok found, bind, Except.bind, recomputed]
      rfl

/-- One of the two loops of `unregisterNode`. -/
def leaveAll (call : RegistryState → UInt64 → Except Exception (ErrorCode × RegistryState)) (endpoints : List UInt64)
    (state : RegistryState) : Except Exception RegistryState :=
  endpoints.foldlM (fun state endpointId => return (← call state endpointId).2) state

inductive Unregisters (state : RegistryState) (connection nodeId : UInt64) : ErrorCode → RegistryState → Prop where
  | refused (foreign : state.ownedNode connection nodeId = none) : Unregisters state connection nodeId .notRegistered state
  | left {node : NodeRecord} {withdrawn last : RegistryState} (owned : state.ownedNode connection nodeId = some node)
      (unadvertised : leaveAll (·.unadvertise connection nodeId) node.publisherEndpoints.toList state = .ok withdrawn)
      (unsubscribed : leaveAll (·.unsubscribe connection nodeId) node.subscriberEndpoints.toList withdrawn = .ok last) :
      Unregisters state connection nodeId .ok
        { last with nodeNames := last.nodeNames.erase node.nodeName, nodes := last.nodes.erase nodeId }

theorem unregisterNode_iff : state.unregisterNode connection nodeId = .ok (error, after) ↔
    Unregisters state connection nodeId error after := by
  unfold unregisterNode
  constructor
  · intro done
    split at done
    next foreign =>
      cases done
      exact .refused foreign
    next node owned =>
      obtain ⟨withdrawn, unadvertised, done⟩ := bind_ok done
      obtain ⟨last, unsubscribed, done⟩ := bind_ok done
      cases done
      exact .left owned unadvertised unsubscribed
  · rintro (foreign | ⟨owned, unadvertised, unsubscribed⟩)
    · simp only [foreign]
    · unfold leaveAll at unadvertised unsubscribed
      simp only [owned, bind, Except.bind, pure, Except.pure] at unadvertised unsubscribed ⊢
      rw [unadvertised]
      simp only [unsubscribed]

variable {call : RegistryState → UInt64 → Except Exception (ErrorCode × RegistryState)} {endpoints : List UInt64}

theorem leaveAll_each (inv : RegistryState → Prop) (achieved : UInt64 → RegistryState → Prop)
    (pass : ∀ {state endpointId error after}, inv state → call state endpointId = .ok (error, after) →
      inv after ∧ achieved endpointId after ∧ ∀ other, achieved other state → achieved other after)
    (begins : inv state) (done : leaveAll call endpoints state = .ok after) :
    inv after ∧ ∀ endpointId ∈ endpoints, achieved endpointId after := by
  have looped := @foldlM_each _ _ _ endpoints _ inv achieved state after (fun value endpoint next _ held step => by
    obtain ⟨⟨error, result⟩, called, step⟩ := bind_ok step
    cases step
    exact pass held called) begins done
  exact ⟨looped.1, looped.2.1⟩

theorem leaveAll_keeps (inv : RegistryState → Prop)
    (pass : ∀ {state endpointId error after}, inv state → call state endpointId = .ok (error, after) → inv after)
    (begins : inv state) (done : leaveAll call endpoints state = .ok after) : inv after :=
  (leaveAll_each inv (fun _ _ => True) (fun held called => ⟨pass held called, trivial, fun _ _ => trivial⟩) begins done).1

/-- Everything but the tables: the counters, the timing and the metrics. -/
def emptied (state : RegistryState) : RegistryState :=
  { state with nodes := ∅, nodeNames := ∅, topics := ∅, topicNames := ∅, publishers := ∅, subscribers := ∅ }

theorem settled_emptied (recomputed : state.recomputeTopicMaxMessageSize topicId = .ok after) (id : UInt64) :
    emptied (after.eraseTopicIfEmpty id) = emptied state := by
  obtain ⟨topic, size, _, rfl⟩ := recompute_some recomputed
  unfold eraseTopicIfEmpty
  split
  · rfl
  · split <;> rfl

theorem unadvertise_emptied (done : state.unadvertise connection nodeId endpointId = .ok (error, after)) :
    emptied after = emptied state := by
  cases unadvertise_iff.mp done with
  | refused => rfl
  | left _ _ _ _ recomputed => exact settled_emptied recomputed _

theorem unsubscribe_emptied (done : state.unsubscribe connection nodeId endpointId = .ok (error, after)) :
    emptied after = emptied state := by
  cases unsubscribe_iff.mp done with
  | refused => rfl
  | left _ _ _ _ recomputed => exact settled_emptied recomputed _

theorem unregisterNode_emptied (done : state.unregisterNode connection nodeId = .ok (error, after)) :
    emptied after = emptied state := by
  cases unregisterNode_iff.mp done with
  | refused => rfl
  | left _ unadvertised unsubscribed =>
    have first := leaveAll_keeps (fun now => emptied now = emptied state)
      (fun same called => (unadvertise_emptied called).trans same) rfl unadvertised
    have second := leaveAll_keeps (fun now => emptied now = emptied state)
      (fun same called => (unsubscribe_emptied called).trans same) first unsubscribed
    exact second

end Leaving

section Joining

/-- A topic that already has the name is of the same type and transport, and open to the caller. -/
def Compatible (state : RegistryState) (topicName typeName typeHash : Bytes) (transport : TransportType)
    (opens : TopicRecord → Prop) : Prop :=
  ∀ topicId, state.topicNames[topicName]? = some topicId →
    ∃ topic, state.topics[topicId]? = some topic ∧ topic.typeName = typeName ∧ topic.typeHash = typeHash ∧
      topic.transport = transport ∧ opens topic

/-- A topic that has the name has a record. -/
def Known (state : RegistryState) (topicName : Bytes) : Prop :=
  ∀ topicId, state.topicNames[topicName]? = some topicId → ∃ topic, state.topics[topicId]? = some topic

theorem Compatible.known {opens : TopicRecord → Prop}
    (compatible : Compatible state topicName typeName typeHash transport opens) : Known state topicName := by
  intro topicId named
  obtain ⟨topic, found, _⟩ := compatible topicId named
  exact ⟨topic, found⟩

theorem topicMismatch_none {topic : TopicRecord} : topicMismatch topic typeName typeHash transport = none ↔
    topic.typeName = typeName ∧ topic.typeHash = typeHash ∧ topic.transport = transport := by
  unfold topicMismatch
  split
  next differs => simp only [reduceCtorEq, false_iff]; grind
  next alike => split <;> grind

theorem topicMismatch_error {topic : TopicRecord} (refused : topicMismatch topic typeName typeHash transport = some result) :
    result.error ≠ .ok := by
  unfold topicMismatch at refused
  split at refused
  · cases refused; simp
  · split at refused
    · cases refused; simp
    · cases refused

theorem subscribeMismatch_none : state.subscribeMismatch topicName typeName typeHash transport = .ok none ↔
    Compatible state topicName typeName typeHash transport fun _ => True := by
  unfold subscribeMismatch Compatible
  cases named : state.topicNames[topicName]? with
  | none => simp
  | some topicId =>
    cases found : state.topics[topicId]? with
    | none => simp [mapAt, found, bind, Except.bind]
    | some topic => simp [mapAt, found, bind, Except.bind, pure, Except.pure, topicMismatch_none]

theorem subscribeMismatch_error
    (refused : state.subscribeMismatch topicName typeName typeHash transport = .ok (some result)) : result.error ≠ .ok := by
  unfold subscribeMismatch at refused
  split at refused
  · cases refused
  · obtain ⟨topic, _, refused⟩ := bind_ok refused
    exact topicMismatch_error (Except.ok.inj refused)

theorem advertiseMismatch_none : state.advertiseMismatch topicName typeName typeHash transport = .ok none ↔
    Compatible state topicName typeName typeHash transport (·.publisherEndpoint = none) := by
  unfold advertiseMismatch Compatible
  cases named : state.topicNames[topicName]? with
  | none => simp
  | some topicId =>
    cases found : state.topics[topicId]? with
    | none => simp [mapAt, found, bind, Except.bind]
    | some topic =>
      simp [mapAt, found, bind, Except.bind, pure, Except.pure, topicMismatch_none, Option.or_eq_none_iff, and_assoc]

theorem advertiseMismatch_error
    (refused : state.advertiseMismatch topicName typeName typeHash transport = .ok (some result)) : result.error ≠ .ok := by
  unfold advertiseMismatch at refused
  split at refused
  · cases refused
  · obtain ⟨topic, _, refused⟩ := bind_ok refused
    rcases Option.or_eq_some_iff.mp (Except.ok.inj refused) with mismatch | ⟨_, taken⟩
    · exact topicMismatch_error mismatch
    · split at taken
      · cases taken; simp
      · cases taken

def withTopic (state : RegistryState) (topicName typeName typeHash : Bytes) (maxMessageSize : UInt64)
    (transport : TransportType) : RegistryState :=
  { state with
    nextTopicId := state.nextTopicId + 1
    topics := state.topics.insertIfNew state.nextTopicId
      { topicId := state.nextTopicId, topicName, typeName, typeHash, transport, maxMessageSize }
    topicNames := state.topicNames.insertIfNew topicName state.nextTopicId }

/-- The topic that `findOrCreateTopic` returns, and the tables. -/
inductive Finds (state : RegistryState) (topicName typeName typeHash : Bytes) (maxMessageSize : UInt64)
    (transport : TransportType) : UInt64 → TopicRecord → RegistryState → Prop where
  | known {topicId : UInt64} {topic : TopicRecord} (named : state.topicNames[topicName]? = some topicId)
      (stored : state.topics[topicId]? = some topic) :
      Finds state topicName typeName typeHash maxMessageSize transport topicId topic state
  | created {topic : TopicRecord} (unknown : state.topicNames[topicName]? = none)
      (stored : (withTopic state topicName typeName typeHash maxMessageSize transport).topics[state.nextTopicId]? =
        some topic) :
      Finds state topicName typeName typeHash maxMessageSize transport state.nextTopicId topic
        (withTopic state topicName typeName typeHash maxMessageSize transport)

theorem findOrCreateTopic_iff {topic : TopicRecord} :
    state.findOrCreateTopic topicName typeName typeHash maxMessageSize transport = .ok (topicId, topic, after) ↔
      Finds state topicName typeName typeHash maxMessageSize transport topicId topic after := by
  unfold findOrCreateTopic
  constructor
  · intro done
    split at done
    next id named =>
      obtain ⟨record, found, done⟩ := bind_ok done
      cases done
      exact .known named (mapAt_some found)
    next unknown =>
      obtain ⟨record, found, done⟩ := bind_ok done
      cases done
      exact .created unknown (mapAt_some found)
  · rintro (⟨named, stored⟩ | ⟨unknown, stored⟩)
    · simp only [named, mapAt_ok stored]
      rfl
    · unfold withTopic at stored
      simp only [unknown, mapAt_ok stored]
      rfl

theorem findOrCreateTopic_total (names : Known state topicName)
    (typeName typeHash : Bytes) (maxMessageSize : UInt64) (transport : TransportType) :
    ∃ found, state.findOrCreateTopic topicName typeName typeHash maxMessageSize transport = .ok found := by
  unfold findOrCreateTopic
  cases named : state.topicNames[topicName]? with
  | some topicId =>
    obtain ⟨topic, found⟩ := names topicId named
    simp only [mapAt_ok found]
    exact ⟨_, rfl⟩
  | none =>
    -- The name is new, so the id of the next topic has a record once it is inserted.
    obtain ⟨topic, stored⟩ : ∃ topic, (state.topics.insertIfNew state.nextTopicId
        { topicId := state.nextTopicId, topicName, typeName, typeHash, transport, maxMessageSize })[state.nextTopicId]? =
        some topic :=
      mem_iff_found.mp (by simp)
    simp only [mapAt_ok stored]
    exact ⟨_, rfl⟩

inductive Advertises (state : RegistryState) (connection nodeId : UInt64) (topicName typeName typeHash : Bytes)
    (maxMessageSize : UInt64) (transport : TransportType) (pool : SharedPoolMetadata) :
    EndpointResult → RegistryState → Prop where
  | refused {result : EndpointResult} (failed : result.error ≠ .ok) :
      Advertises state connection nodeId topicName typeName typeHash maxMessageSize transport pool result state
  | joined {node : NodeRecord} {topicId : UInt64} {topic : TopicRecord} {middle : RegistryState}
      (owned : state.ownedNode connection nodeId = some node)
      (valid : ¬(topicName.isEmpty ∨ typeName.isEmpty ∨ typeHash.isEmpty ∨ maxMessageSize > uint32Max ∨
        !validPoolMetadata transport pool))
      (accepted : state.advertiseMismatch topicName typeName typeHash transport = .ok none)
      (finds : Finds state topicName typeName typeHash maxMessageSize transport topicId topic middle) :
      Advertises state connection nodeId topicName typeName typeHash maxMessageSize transport pool
        { topicId := topic.topicId, endpointId := middle.nextEndpointId, pool }
        (withPublisher middle topicId topic node
          ⟨middle.nextEndpointId, nodeId, topic.topicId, maxMessageSize, transport, pool⟩)

inductive Subscribes (state : RegistryState) (connection nodeId : UInt64) (topicName typeName typeHash : Bytes)
    (maxMessageSize : UInt64) (dataSocketPath : Bytes) (transport : TransportType) (queue : SharedQueueMetadata) :
    EndpointResult → RegistryState → Prop where
  | refused {result : EndpointResult} (failed : result.error ≠ .ok) :
      Subscribes state connection nodeId topicName typeName typeHash maxMessageSize dataSocketPath transport queue result state
  | joined {node : NodeRecord} {topicId : UInt64} {topic : TopicRecord} {middle : RegistryState}
      (owned : state.ownedNode connection nodeId = some node)
      (valid : ¬(topicName.isEmpty ∨ typeName.isEmpty ∨ typeHash.isEmpty ∨ dataSocketPath.isEmpty ∨
        maxMessageSize > uint32Max ∨ !validQueueMetadata transport queue))
      (accepted : state.subscribeMismatch topicName typeName typeHash transport = .ok none)
      (finds : Finds state topicName typeName typeHash maxMessageSize transport topicId topic middle) :
      Subscribes state connection nodeId topicName typeName typeHash maxMessageSize dataSocketPath transport queue
        { topicId := topic.topicId, endpointId := middle.nextEndpointId, pool := topic.pool }
        (withSubscriber middle topicId topic node
          ⟨middle.nextEndpointId, nodeId, topic.topicId, dataSocketPath, maxMessageSize, transport, queue⟩)

theorem advertise_cases
    (done : state.advertise connection nodeId topicName typeName typeHash maxMessageSize transport pool = .ok (result, after)) :
    Advertises state connection nodeId topicName typeName typeHash maxMessageSize transport pool result after := by
  unfold advertise at done
  split at done
  · cases done
    exact .refused (by decide)
  next node owned =>
    split at done
    · cases done
      exact .refused (by decide)
    next valid =>
      obtain ⟨refused, checked, done⟩ := bind_ok done
      cases refused with
      | some =>
        cases done
        exact .refused (advertiseMismatch_error checked)
      | none =>
        obtain ⟨⟨topicId, topic, middle⟩, found, done⟩ := bind_ok done
        cases done
        exact .joined owned valid checked (findOrCreateTopic_iff.mp found)

theorem advertise_total (names : Known state topicName)
    (connection nodeId : UInt64) (typeName typeHash : Bytes) (maxMessageSize : UInt64) (transport : TransportType)
    (pool : SharedPoolMetadata) :
    ∃ result after, state.advertise connection nodeId topicName typeName typeHash maxMessageSize transport pool =
      .ok (result, after) := by
  obtain ⟨⟨topicId, topic, middle⟩, found⟩ := findOrCreateTopic_total names typeName typeHash maxMessageSize transport
  obtain ⟨refused, checked⟩ : ∃ refused, state.advertiseMismatch topicName typeName typeHash transport = .ok refused := by
    unfold advertiseMismatch
    cases named : state.topicNames[topicName]? with
    | none => exact ⟨none, rfl⟩
    | some topicId =>
      obtain ⟨topic, stored⟩ := names topicId named
      simp only [mapAt_ok stored]
      exact ⟨_, rfl⟩
  unfold advertise
  split
  · exact ⟨_, _, rfl⟩
  split
  · exact ⟨_, _, rfl⟩
  simp only [checked, bind, Except.bind]
  cases refused with
  | some => exact ⟨_, _, rfl⟩
  | none =>
    simp only [found]
    exact ⟨_, _, rfl⟩

theorem subscribe_cases
    (done : state.subscribe connection nodeId topicName typeName typeHash maxMessageSize dataSocketPath transport queue =
      .ok (result, after)) :
    Subscribes state connection nodeId topicName typeName typeHash maxMessageSize dataSocketPath transport queue result
      after := by
  unfold subscribe at done
  split at done
  · cases done
    exact .refused (by decide)
  next node owned =>
    split at done
    · cases done
      exact .refused (by decide)
    next valid =>
      obtain ⟨refused, checked, done⟩ := bind_ok done
      cases refused with
      | some =>
        cases done
        exact .refused (subscribeMismatch_error checked)
      | none =>
        obtain ⟨⟨topicId, topic, middle⟩, found, done⟩ := bind_ok done
        cases done
        exact .joined owned valid checked (findOrCreateTopic_iff.mp found)

theorem subscribe_total (names : Known state topicName)
    (connection nodeId : UInt64) (typeName typeHash : Bytes) (maxMessageSize : UInt64) (dataSocketPath : Bytes)
    (transport : TransportType) (queue : SharedQueueMetadata) :
    ∃ result after, state.subscribe connection nodeId topicName typeName typeHash maxMessageSize dataSocketPath transport
      queue = .ok (result, after) := by
  obtain ⟨⟨topicId, topic, middle⟩, found⟩ := findOrCreateTopic_total names typeName typeHash maxMessageSize transport
  obtain ⟨refused, checked⟩ : ∃ refused, state.subscribeMismatch topicName typeName typeHash transport = .ok refused := by
    unfold subscribeMismatch
    cases named : state.topicNames[topicName]? with
    | none => exact ⟨none, rfl⟩
    | some topicId =>
      obtain ⟨topic, stored⟩ := names topicId named
      simp only [mapAt_ok stored]
      exact ⟨_, rfl⟩
  unfold subscribe
  split
  · exact ⟨_, _, rfl⟩
  split
  · exact ⟨_, _, rfl⟩
  simp only [checked, bind, Except.bind]
  cases refused with
  | some => exact ⟨_, _, rfl⟩
  | none =>
    simp only [found]
    exact ⟨_, _, rfl⟩

end Joining

section Cleanup
variable {node : NodeRecord} {plan : DeadNodeCleanup} {plans : List DeadNodeCleanup}

/-- The plan that `cleanupDeadNode` makes before the node goes. -/
def planFor (state : RegistryState) (node : NodeRecord) : Except Exception DeadNodeCleanup := do
  let cleanup ← node.publisherEndpoints.toList.foldlM state.cleanupPublisher
    { nodeId := node.nodeId, sessionId := node.sessionId, controlConnection := node.controlConnection,
      heartbeatConnection := node.heartbeatConnection }
  node.subscriberEndpoints.toList.foldlM state.cleanupSubscriber cleanup

def barePlan (plan : DeadNodeCleanup) : DeadNodeCleanup :=
  { plan with pools := [], queues := [], socketPaths := [], peerEvents := [] }

theorem cleanupPublisher_bare {next : DeadNodeCleanup} (done : state.cleanupPublisher plan endpointId = .ok next) :
    barePlan next = barePlan plan := by
  unfold cleanupPublisher at done
  split at done
  · cases done
    rfl
  · obtain ⟨topic, _, done⟩ := bind_ok done
    cases done
    rfl

theorem cleanupSubscriber_bare {next : DeadNodeCleanup} (done : state.cleanupSubscriber plan endpointId = .ok next) :
    barePlan next = barePlan plan := by
  unfold cleanupSubscriber at done
  split at done
  · cases done
    rfl
  · obtain ⟨topic, _, done⟩ := bind_ok done
    cases done
    rfl

theorem planFor_bare (planned : planFor state node = .ok plan) :
    barePlan plan = ⟨node.nodeId, node.sessionId, node.controlConnection, node.heartbeatConnection, [], [], [], []⟩ := by
  obtain ⟨first, published, subscribed⟩ := bind_ok planned
  have pools := @foldlM_keeps _ _ _ _ _ (fun plan => barePlan plan = barePlan _) _ _
    (fun _ _ _ _ same step => (cleanupPublisher_bare step).trans same) rfl published
  exact @foldlM_keeps _ _ _ _ _ (fun plan => barePlan plan = barePlan _) _ _
    (fun _ _ _ _ same step => (cleanupSubscriber_bare step).trans same) pools subscribed

inductive CleansUp (state : RegistryState) (nodeId : UInt64) : Option DeadNodeCleanup → RegistryState → Prop where
  | absent (missing : state.nodes[nodeId]? = none) : CleansUp state nodeId none state
  | removed {node : NodeRecord} {plan : DeadNodeCleanup} {error : ErrorCode} {last : RegistryState}
      (found : state.nodes[nodeId]? = some node) (planned : planFor state node = .ok plan)
      (unregistered : state.unregisterNode node.controlConnection node.nodeId = .ok (error, last)) :
      CleansUp state nodeId (some plan) { last with metrics.deadNodeCount := last.metrics.deadNodeCount + 1 }

theorem cleanupDeadNode_iff {cleanup : Option DeadNodeCleanup} : state.cleanupDeadNode nodeId = .ok (cleanup, after) ↔
    CleansUp state nodeId cleanup after := by
  unfold cleanupDeadNode
  constructor
  · intro done
    split at done
    next missing =>
      cases done
      exact .absent missing
    next node found =>
      obtain ⟨first, published, done⟩ := bind_ok done
      obtain ⟨plan, subscribed, done⟩ := bind_ok done
      obtain ⟨⟨error, last⟩, unregistered, done⟩ := bind_ok done
      cases done
      refine .removed found ?_ unregistered
      rw [planFor, published]
      exact subscribed
  · rintro (missing | ⟨found, planned, unregistered⟩)
    · rw [missing]
    · obtain ⟨first, published, subscribed⟩ := bind_ok planned
      simp only [found, published, subscribed, unregistered, bind, Except.bind]
      rfl

theorem cleanupDeadNodes_cons {rest : List UInt64} (done : state.cleanupDeadNodes (nodeId :: rest) = .ok (plans, after)) :
    ∃ cleanup middle others, state.cleanupDeadNode nodeId = .ok (cleanup, middle) ∧
      middle.cleanupDeadNodes rest = .ok (others, after) ∧ plans = cleanup.toList ++ others := by
  unfold cleanupDeadNodes at done
  obtain ⟨⟨cleanup, middle⟩, first, done⟩ := bind_ok done
  obtain ⟨⟨others, last⟩, remaining, done⟩ := bind_ok done
  cases done
  exact ⟨cleanup, middle, others, first, remaining, rfl⟩

theorem evaluateLiveness_some {now : Int} {update : LivenessUpdate} (done : state.evaluateLiveness now = .ok (update, after)) :
    (marked state now).cleanupDeadNodes (expired state now) = .ok (update.deadNodes, after) := by
  unfold evaluateLiveness at done
  obtain ⟨⟨deadNodes, cleaned⟩, called, done⟩ := bind_ok done
  cases done
  exact called

theorem disconnectConnection_some (done : state.disconnectConnection connection = .ok (plans, after)) :
    ∃ middle, state.cleanupDeadNodes (connected state connection) = .ok (plans, middle) ∧
      after = if plans.isEmpty then middle.detachHeartbeatConnection connection else middle := by
  unfold disconnectConnection at done
  obtain ⟨⟨cleanups, middle⟩, called, done⟩ := bind_ok done
  cases done
  exact ⟨middle, called, rfl⟩

end Cleanup

end RobotMiddleware.Proofs.RegistryCalls
