import Mathlib.Algebra.Ring.Nat
import RobotMiddleware.Lib.Numbering
import RobotMiddleware.Proofs.RegistryCalls

/-! Referential integrity of the registry. The names and the endpoint sets are
exact indices of the records, each request keeps them so, and no lookup fails. A
request takes at most one new id of each kind, and the ids in use are among those
issued, so the next ones are free as long as the counters have not gone round. -/

namespace RobotMiddleware.Proofs.RegistryIntegrity
open Std Lib.Index Lib.Outcome Lib.Numbering RegistryState RegistryCalls

/-- The six tables refer to each other exactly. -/
structure Core (state : RegistryState) : Prop where
  nodeNames : Inverse state.nodeNames state.nodes (·.nodeName)
  topicNames : Inverse state.topicNames state.topics (·.topicName)
  nodeIds : ∀ (id : UInt64) (node : NodeRecord), state.nodes[id]? = some node → node.nodeId = id
  topicIds : ∀ (id : UInt64) (topic : TopicRecord), state.topics[id]? = some topic → topic.topicId = id
  publisherNodes : Indexed state.publishers (·.nodeId) state.nodes fun node endpoint => endpoint ∈ node.publisherEndpoints
  publisherTopics : Indexed state.publishers (·.topicId) state.topics
    fun topic endpoint => topic.publisherEndpoint = some endpoint
  subscriberNodes : Indexed state.subscribers (·.nodeId) state.nodes
    fun node endpoint => endpoint ∈ node.subscriberEndpoints
  subscriberTopics : Indexed state.subscribers (·.topicId) state.topics
    fun topic endpoint => endpoint ∈ topic.subscriberEndpoints

/-- A topic that some endpoint uses. -/
def Inhabited (topic : TopicRecord) : Prop := topic.publisherEndpoint.isSome ∨ topic.subscriberEndpoints ≠ ∅

structure Integrity (state : RegistryState) : Prop extends Core state where
  inhabited : ∀ (id : UInt64) (topic : TopicRecord), state.topics[id]? = some topic → Inhabited topic

/-- No node is new, and those that are left kept their sessions. -/
def Remain (before after : RegistryState) : Prop :=
  ∀ (id : UInt64) (node : NodeRecord), after.nodes[id]? = some node →
    ∃ old, before.nodes[id]? = some old ∧ old.sessionId = node.sessionId

theorem Remain.mem {before after : RegistryState} (remain : Remain before after) (id : UInt64) (present : id ∈ after.nodes) :
    id ∈ before.nodes := by
  obtain ⟨node, found⟩ := mem_iff_found.mp present
  obtain ⟨old, stored, _⟩ := remain id node found
  exact mem_iff_found.mpr ⟨old, stored⟩

/-- No counter moved and no key is new. -/
structure Shrinks (before after : RegistryState) : Prop where
  nextNodeId : after.nextNodeId = before.nextNodeId
  nextSessionId : after.nextSessionId = before.nextSessionId
  nextTopicId : after.nextTopicId = before.nextTopicId
  nextEndpointId : after.nextEndpointId = before.nextEndpointId
  nodes : Remain before after
  topics : ∀ id, id ∈ after.topics → id ∈ before.topics
  publishers : ∀ id, id ∈ after.publishers → id ∈ before.publishers
  subscribers : ∀ id, id ∈ after.subscribers → id ∈ before.subscribers

theorem Shrinks.refl (state : RegistryState) : Shrinks state state :=
  ⟨rfl, rfl, rfl, rfl, fun _ node found => ⟨node, found, rfl⟩, fun _ present => present, fun _ present => present,
    fun _ present => present⟩

theorem Shrinks.trans {before middle after : RegistryState} (first : Shrinks before middle) (last : Shrinks middle after) :
    Shrinks before after := by
  refine ⟨last.nextNodeId.trans first.nextNodeId, last.nextSessionId.trans first.nextSessionId,
    last.nextTopicId.trans first.nextTopicId, last.nextEndpointId.trans first.nextEndpointId, fun id node found => ?_,
    fun id present => first.topics id (last.topics id present),
    fun id present => first.publishers id (last.publishers id present),
    fun id present => first.subscribers id (last.subscribers id present)⟩
  obtain ⟨between, stored, same⟩ := last.nodes id node found
  obtain ⟨old, there, equal⟩ := first.nodes id between stored
  exact ⟨old, there, equal.trans same⟩

variable {state : RegistryState} {topicId : UInt64} {publisher : PublisherEndpoint} {subscriber : SubscriberEndpoint}
  {topic : TopicRecord} {node : NodeRecord}

/-- Replacing a topic by one that lists the same endpoints keeps the tables tied. -/
theorem Core.setTopic (core : Core state) {old : TopicRecord}
    (found : state.topics[topicId]? = some old) (name : topic.topicName = old.topicName) (id : topic.topicId = old.topicId)
    (publisher : topic.publisherEndpoint = old.publisherEndpoint)
    (subscribers : topic.subscriberEndpoints = old.subscriberEndpoints) : Core (state.setTopic topicId topic) :=
  ⟨core.nodeNames, core.topicNames.replace found name, core.nodeIds, keyed_replace core.topicIds found id,
    core.publisherNodes, core.publisherTopics.replace found (by simp [publisher]), core.subscriberNodes,
    core.subscriberTopics.replace found (by simp [subscribers])⟩

theorem Core.setNode (core : Core state) {nodeId : UInt64} {old : NodeRecord}
    (found : state.nodes[nodeId]? = some old) (name : node.nodeName = old.nodeName) (id : node.nodeId = old.nodeId)
    (publishers : node.publisherEndpoints = old.publisherEndpoints)
    (subscribers : node.subscriberEndpoints = old.subscriberEndpoints) : Core (state.setNode nodeId node) :=
  ⟨core.nodeNames.replace found name, core.topicNames, keyed_replace core.nodeIds found id, core.topicIds,
    core.publisherNodes.replace found (by simp [publishers]), core.publisherTopics,
    core.subscriberNodes.replace found (by simp [subscribers]), core.subscriberTopics⟩

/-- Only this topic may have lost its last endpoint. -/
def InhabitedExcept (state : RegistryState) (topicId : UInt64) : Prop :=
  ∀ (id : UInt64) (topic : TopicRecord), id ≠ topicId → state.topics[id]? = some topic → Inhabited topic

theorem eraseTopicIfEmpty_integrity (core : Core state) (others : InhabitedExcept state topicId) :
    Integrity (state.eraseTopicIfEmpty topicId) := by
  unfold eraseTopicIfEmpty
  split
  next missing =>
    refine ⟨core, fun id topic present => others id topic ?_ present⟩
    rintro rfl
    rw [missing] at present
    cases present
  next topic found =>
    split
    next used =>
      refine ⟨core, fun id record present => ?_⟩
      by_cases same : id = topicId
      · subst id
        rw [found] at present
        cases present
        rcases used with publisher | subscribers
        · exact .inl publisher
        · exact .inr (by simpa [ExtTreeSet.isEmpty_iff] using subscribers)
      · exact others id record same present
    next unused =>
      simp only [not_or, Bool.not_eq_true, Option.isSome_eq_false_iff, Option.isNone_iff_eq_none, Bool.not_eq_false,
        Bool.not_eq_eq_eq_not, Bool.not_true, ExtTreeSet.isEmpty_iff] at unused
      refine ⟨⟨core.nodeNames, core.topicNames.erase found, core.nodeIds, ?_, core.publisherNodes,
        core.publisherTopics.eraseHolder found (by simp [unused.1]), core.subscriberNodes,
        core.subscriberTopics.eraseHolder found (by simp [unused.2])⟩, ?_⟩
      · intro id record present
        have known := core.topicIds id record
        grind
      · intro id record present
        have known := others id record
        grind

section Leave
variable {endpointId : UInt64}

theorem Core.withoutPublisher (core : Core state)
    (present : state.publishers[endpointId]? = some publisher) (owner : state.nodes[publisher.nodeId]? = some node)
    (found : state.topics[publisher.topicId]? = some topic) (current : topic.publisherEndpoint = some endpointId) :
    Core (withoutPublisher state endpointId publisher node topic) := by
  refine ⟨core.nodeNames.replace owner rfl, core.topicNames.replace found rfl,
    keyed_replace core.nodeIds owner rfl, keyed_replace core.topicIds found rfl,
    core.publisherNodes.detach present owner ?_, core.publisherTopics.detach present found ?_,
    core.subscriberNodes.replace owner fun _ => Iff.rfl, core.subscriberTopics.replace found fun _ => Iff.rfl⟩
  · intro other
    grind
  · intro other
    grind

theorem Core.withoutSubscriber (core : Core state)
    (present : state.subscribers[endpointId]? = some subscriber) (owner : state.nodes[subscriber.nodeId]? = some node)
    (found : state.topics[subscriber.topicId]? = some topic) :
    Core (withoutSubscriber state endpointId subscriber node topic) := by
  refine ⟨core.nodeNames.replace owner rfl, core.topicNames.replace found rfl,
    keyed_replace core.nodeIds owner rfl, keyed_replace core.topicIds found rfl,
    core.publisherNodes.replace owner fun _ => Iff.rfl, core.publisherTopics.replace found fun _ => Iff.rfl,
    core.subscriberNodes.detach present owner ?_, core.subscriberTopics.detach present found ?_⟩
  · intro other
    grind
  · intro other
    grind

end Leave

theorem Integrity.inhabitedExcept (integrity : Integrity state) {after : RegistryState}
    (changed : after.topics = state.topics.insert topicId topic) : InhabitedExcept after topicId := by
  intro id record different stored
  have known := integrity.inhabited id record
  rw [changed] at stored
  grind

theorem Integrity.eraseNode (integrity : Integrity state) {nodeId : UInt64}
    (found : state.nodes[nodeId]? = some node) (publishers : ∀ other, other ∉ node.publisherEndpoints)
    (subscribers : ∀ other, other ∉ node.subscriberEndpoints) :
    Integrity { state with nodeNames := state.nodeNames.erase node.nodeName, nodes := state.nodes.erase nodeId } := by
  refine ⟨⟨integrity.nodeNames.erase found, integrity.topicNames, ?_, integrity.topicIds,
    integrity.publisherNodes.eraseHolder found publishers, integrity.publisherTopics,
    integrity.subscriberNodes.eraseHolder found subscribers, integrity.subscriberTopics⟩, integrity.inhabited⟩
  intro id record stored
  have known := integrity.nodeIds id record
  grind

theorem Integrity.setMetrics (integrity : Integrity state) (metrics : RegistryMetrics) : Integrity { state with metrics } :=
  ⟨⟨integrity.nodeNames, integrity.topicNames, integrity.nodeIds, integrity.topicIds, integrity.publisherNodes,
    integrity.publisherTopics, integrity.subscriberNodes, integrity.subscriberTopics⟩, integrity.inhabited⟩

/-- A pass over the nodes that leaves their names, ids and endpoints. -/
theorem Integrity.mapNodes (integrity : Integrity state) {update : UInt64 → NodeRecord → NodeRecord}
    (name : ∀ id node, (update id node).nodeName = node.nodeName) (own : ∀ id node, (update id node).nodeId = node.nodeId)
    (publishers : ∀ id node, (update id node).publisherEndpoints = node.publisherEndpoints)
    (subscribers : ∀ id node, (update id node).subscriberEndpoints = node.subscriberEndpoints) (metrics : RegistryMetrics) :
    Integrity { state with nodes := state.nodes.map update, metrics } := by
  refine ⟨⟨integrity.nodeNames.map name, integrity.topicNames, ?_, integrity.topicIds,
    integrity.publisherNodes.map (by simp [publishers]), integrity.publisherTopics,
    integrity.subscriberNodes.map (by simp [subscribers]), integrity.subscriberTopics⟩, integrity.inhabited⟩
  intro id record stored
  have known := integrity.nodeIds id
  grind

theorem Core.registerNode (core : Core state) (fresh : state.nodes[state.nextNodeId]? = none) (node : NodeRecord)
    (own : node.nodeId = state.nextNodeId) (unknown : state.nodeNames[node.nodeName]? = none)
    (publishers : node.publisherEndpoints = ∅) (subscribers : node.subscriberEndpoints = ∅)
    (nextNodeId nextSessionId : UInt64) :
    Core { state with
      nextNodeId, nextSessionId
      nodes := state.nodes.insertIfNew state.nextNodeId node
      nodeNames := state.nodeNames.insertIfNew node.nodeName state.nextNodeId } := by
  refine ⟨core.nodeNames.insertIfNew unknown fresh, core.topicNames, ?_, core.topicIds,
    core.publisherNodes.insertHolder fresh (by simp [publishers]), core.publisherTopics,
    core.subscriberNodes.insertHolder fresh (by simp [subscribers]), core.subscriberTopics⟩
  intro id record stored
  have known := core.nodeIds id record
  grind

theorem Core.createTopic (core : Core state) (fresh : state.topics[state.nextTopicId]? = none) (topic : TopicRecord)
    (own : topic.topicId = state.nextTopicId) (unknown : state.topicNames[topic.topicName]? = none)
    (publisher : topic.publisherEndpoint = none) (subscribers : topic.subscriberEndpoints = ∅) (nextTopicId : UInt64) :
    Core { state with
      nextTopicId
      topics := state.topics.insertIfNew state.nextTopicId topic
      topicNames := state.topicNames.insertIfNew topic.topicName state.nextTopicId } := by
  refine ⟨core.nodeNames, core.topicNames.insertIfNew unknown fresh, core.nodeIds, ?_, core.publisherNodes,
    core.publisherTopics.insertHolder fresh (by simp [publisher]), core.subscriberNodes,
    core.subscriberTopics.insertHolder fresh (by simp [subscribers])⟩
  intro id record stored
  have known := core.topicIds id record
  grind

theorem Core.withPublisher (core : Core state) (fresh : state.publishers[state.nextEndpointId]? = none)
    (owner : state.nodes[publisher.nodeId]? = some node) (found : state.topics[topicId]? = some topic)
    (vacant : topic.publisherEndpoint = none) (itsTopic : publisher.topicId = topicId) :
    Core (withPublisher state topicId topic node publisher) := by
  subst itsTopic
  refine ⟨core.nodeNames.replace owner rfl, core.topicNames.replace found rfl,
    keyed_replace core.nodeIds owner rfl, keyed_replace core.topicIds found rfl,
    core.publisherNodes.attach fresh owner ?_, core.publisherTopics.attach fresh found ?_,
    core.subscriberNodes.replace owner fun _ => Iff.rfl, core.subscriberTopics.replace found fun _ => Iff.rfl⟩
  · intro other
    grind
  · intro other
    grind

theorem Core.withSubscriber (core : Core state) (fresh : state.subscribers[state.nextEndpointId]? = none)
    (owner : state.nodes[subscriber.nodeId]? = some node) (found : state.topics[topicId]? = some topic)
    (itsTopic : subscriber.topicId = topicId) : Core (withSubscriber state topicId topic node subscriber) := by
  subst itsTopic
  refine ⟨core.nodeNames.replace owner rfl, core.topicNames.replace found rfl,
    keyed_replace core.nodeIds owner rfl, keyed_replace core.topicIds found rfl,
    core.publisherNodes.replace owner fun _ => Iff.rfl, core.publisherTopics.replace found fun _ => Iff.rfl,
    core.subscriberNodes.attach fresh owner ?_, core.subscriberTopics.attach fresh found ?_⟩
  · intro other
    grind
  · intro other
    grind

theorem planFor_ok (integrity : Integrity state) (node : NodeRecord) : ∃ plan, planFor state node = .ok plan := by
  obtain ⟨first, published⟩ := @foldlM_ok _ _ _ state.cleanupPublisher node.publisherEndpoints.toList
    ⟨node.nodeId, node.sessionId, node.controlConnection, node.heartbeatConnection, [], [], [], []⟩
    fun plan endpointId _ => by
      unfold cleanupPublisher
      split
      · exact ⟨_, rfl⟩
      next publisher present =>
        obtain ⟨topic, found, _⟩ := integrity.publisherTopics.holder present
        rw [mapAt_ok found]
        exact ⟨_, rfl⟩
  obtain ⟨second, subscribed⟩ := @foldlM_ok _ _ _ state.cleanupSubscriber node.subscriberEndpoints.toList first
    fun plan endpointId _ => by
      unfold cleanupSubscriber
      split
      · exact ⟨_, rfl⟩
      next subscriber present =>
        obtain ⟨topic, found, _⟩ := integrity.subscriberTopics.holder present
        rw [mapAt_ok found]
        exact ⟨_, rfl⟩
  exact ⟨second, by rw [planFor, published]; exact subscribed⟩

theorem resolve_ok (integrity : Integrity state) (connection nodeId publisherEndpointId : UInt64) :
    ∃ result, state.resolve connection nodeId publisherEndpointId = .ok result := by
  unfold resolve
  split
  next node publisher owned present =>
    split
    · exact ⟨_, rfl⟩
    obtain ⟨topic, found, _⟩ := integrity.publisherTopics.holder present
    simp only [mapAt_ok found, bind, Except.bind]
    split
    · exact ⟨_, rfl⟩
    · obtain ⟨subscribers, listed⟩ : ∃ subscribers,
          topic.subscriberEndpoints.toList.mapM state.discovered = .ok subscribers := by
        refine mapM_ok _ fun endpointId member => ?_
        obtain ⟨subscriber, stored, _⟩ := (integrity.subscriberTopics.iff found).mp (ExtTreeSet.mem_toList.mp member)
        simp only [discovered, mapAt_ok stored]
        exact ⟨_, rfl⟩
      rw [listed]
      exact ⟨_, rfl⟩
  · exact ⟨_, rfl⟩

theorem queryTopic_ok (integrity : Integrity state) (topicName : Bytes) :
    ∃ result, state.queryTopic topicName = .ok result := by
  unfold queryTopic
  cases named : state.topicNames[topicName]? with
  | none => exact ⟨_, rfl⟩
  | some topicId =>
    obtain ⟨topic, found, _⟩ := (integrity.topicNames topicName topicId).mp named
    simp only [mapAt_ok found]
    exact ⟨_, rfl⟩

section Ids
variable {state after : RegistryState}

/-- The answer to a registration that was accepted. -/
def newNode : RegistryState → RegistryOperation → Option IdResult
  | state, .registerNode connection nodeName now =>
    let result := (state.registerNode connection nodeName now).1
    if result.error = .ok then some result else none
  | _, _ => none

def accepted (topicName : Bytes) : Except Exception (EndpointResult × RegistryState) → Option (Bytes × EndpointResult)
  | .ok (result, _) => if result.error = .ok then some (topicName, result) else none
  | .error _ => none

/-- The answer to an accepted call that creates an endpoint, with the name of the topic. -/
def joining : RegistryState → RegistryOperation → Option (Bytes × EndpointResult)
  | state, .advertise connection nodeId topicName typeName typeHash maxMessageSize transport pool =>
    accepted topicName (state.advertise connection nodeId topicName typeName typeHash maxMessageSize transport pool)
  | state, .subscribe connection nodeId topicName typeName typeHash maxMessageSize dataSocketPath transport queue =>
    accepted topicName
      (state.subscribe connection nodeId topicName typeName typeHash maxMessageSize dataSocketPath transport queue)
  | _, _ => none

/-- The id in the answer, if there was no topic of that name. -/
def newTopic (state : RegistryState) (operation : RegistryOperation) : Option UInt64 :=
  (joining state operation).bind fun (topicName, result) =>
    if state.topicNames.contains topicName then none else some result.topicId

def newEndpoint (state : RegistryState) (operation : RegistryOperation) : Option UInt64 :=
  (joining state operation).map (·.2.endpointId)

def HasSession (state : RegistryState) (sessionId : UInt64) : Prop :=
  ∃ (nodeId : UInt64) (node : NodeRecord), state.nodes[nodeId]? = some node ∧ node.sessionId = sessionId

theorem Remain.session (remain : Remain state after) (id : UInt64) (held : HasSession after id) : HasSession state id := by
  obtain ⟨nodeId, node, found, rfl⟩ := held
  exact ⟨nodeId, remain nodeId node found⟩

/-- The answer to a request gives out the ids that it takes, at most one of each kind. -/
structure Issues (before : RegistryState) (operation : RegistryOperation) (after : RegistryState) : Prop where
  nodes : Takes before.nextNodeId ((newNode before operation).map (·.id)) after.nextNodeId
    (· ∈ before.nodes) (· ∈ after.nodes)
  sessions : Takes before.nextSessionId ((newNode before operation).map (·.sessionId)) after.nextSessionId
    (HasSession before) (HasSession after)
  topics : Takes before.nextTopicId (newTopic before operation) after.nextTopicId (· ∈ before.topics) (· ∈ after.topics)
  endpoints : Takes before.nextEndpointId (newEndpoint before operation) after.nextEndpointId
    (fun id => id ∈ before.publishers ∨ id ∈ before.subscribers) (fun id => id ∈ after.publishers ∨ id ∈ after.subscribers)

variable {operation : RegistryOperation}

theorem Shrinks.issues (shrinks : Shrinks state after) (node : newNode state operation = none)
    (endpoint : joining state operation = none) : Issues state operation after := by
  refine ⟨.inl ⟨by rw [node]; rfl, shrinks.nextNodeId, shrinks.nodes.mem⟩,
    .inl ⟨by rw [node]; rfl, shrinks.nextSessionId, shrinks.nodes.session⟩,
    .inl ⟨by rw [newTopic, endpoint]; rfl, shrinks.nextTopicId, shrinks.topics⟩,
    .inl ⟨by rw [newEndpoint, endpoint]; rfl, shrinks.nextEndpointId, ?_⟩⟩
  rintro id (publisher | subscriber)
  · exact .inl (shrinks.publishers id publisher)
  · exact .inr (shrinks.subscribers id subscriber)

structure Fresh (state : RegistryState) : Prop where
  node : state.nodes[state.nextNodeId]? = none
  topic : state.topics[state.nextTopicId]? = none
  publisher : state.publishers[state.nextEndpointId]? = none
  subscriber : state.subscribers[state.nextEndpointId]? = none

/-- The ids that the registry has given out so far in its answers. -/
structure Issued where
  nodes : List UInt64 := []
  sessions : List UInt64 := []
  topics : List UInt64 := []
  endpoints : List UInt64 := []

def Issued.record (issued : Issued) (state : RegistryState) (operation : RegistryOperation) : Issued where
  nodes := issued.nodes ++ ((newNode state operation).map (·.id)).toList
  sessions := issued.sessions ++ ((newNode state operation).map (·.sessionId)).toList
  topics := issued.topics ++ (newTopic state operation).toList
  endpoints := issued.endpoints ++ (newEndpoint state operation).toList

def Issued.Few (issued : Issued) : Prop :=
  issued.nodes.length < 2 ^ 64 - 1 ∧ issued.sessions.length < 2 ^ 64 - 1 ∧ issued.topics.length < 2 ^ 64 - 1 ∧
    issued.endpoints.length < 2 ^ 64 - 1

def serve (state : RegistryState) (issued : Issued) : List RegistryOperation → Except Exception (RegistryState × Issued)
  | [] => .ok (state, issued)
  | operation :: rest =>
    match state.perform operation with
    | .error thrown => .error thrown
    | .ok after => serve after (issued.record state operation) rest

variable {issued : Issued}

/-- The counters stand behind the issued ids, which include all ids in use. -/
structure Counted (state : RegistryState) (issued : Issued) : Prop where
  nodes : Numbered state.nextNodeId issued.nodes (· ∈ state.nodes)
  sessions : Numbered state.nextSessionId issued.sessions (HasSession state)
  topics : Numbered state.nextTopicId issued.topics (· ∈ state.topics)
  endpoints : Numbered state.nextEndpointId issued.endpoints fun id => id ∈ state.publishers ∨ id ∈ state.subscribers

theorem Counted.issues (counted : Counted state issued) (issues : Issues state operation after) :
    Counted after (issued.record state operation) :=
  ⟨counted.nodes.takes issues.nodes, counted.sessions.takes issues.sessions, counted.topics.takes issues.topics,
    counted.endpoints.takes issues.endpoints⟩

theorem Counted.fresh (counted : Counted state issued) (few : issued.Few) : Fresh state := by
  obtain ⟨nodes, _, topics, endpoints⟩ := few
  have unused := counted.endpoints.fresh endpoints
  simp only [not_or] at unused
  exact ⟨ExtTreeMap.getElem?_eq_none (counted.nodes.fresh nodes), ExtTreeMap.getElem?_eq_none (counted.topics.fresh topics),
    ExtTreeMap.getElem?_eq_none unused.1, ExtTreeMap.getElem?_eq_none unused.2⟩

theorem Issued.Few.earlier (few : (issued.record state operation).Few) : issued.Few := by
  simp only [Issued.Few, Issued.record, List.length_append] at few ⊢
  omega

theorem create_integrity {liveness : LivenessConfig} (created : RegistryState.create liveness = .ok state) :
    Integrity state ∧ Counted state {} := by
  unfold RegistryState.create at created
  split at created
  · cases created
  · cases created
    refine ⟨⟨⟨?_, ?_, ?_, ?_, ?_, ?_, ?_, ?_⟩, ?_⟩, ?_⟩
    · intro key id
      simp
    · intro key id
      simp
    · simp
    · simp
    · intro element id
      simp
    · intro element id
      simp
    · intro element id
      simp
    · intro element id
      simp
    · simp
    · exact ⟨numbered_start (by simp), numbered_start (by simp [HasSession]), numbered_start (by simp), numbered_start (by simp)⟩

theorem serve_few {last : Issued} {operations : List RegistryOperation}
    (served : serve state issued operations = .ok (after, last)) (few : last.Few) : issued.Few := by
  induction operations generalizing state issued with
  | nil =>
    cases served
    exact few
  | cons operation rest ih =>
    unfold serve at served
    split at served
    · cases served
    · exact (ih served).earlier

end Ids

end RobotMiddleware.Proofs.RegistryIntegrity
