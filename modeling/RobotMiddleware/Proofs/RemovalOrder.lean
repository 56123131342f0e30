import RobotMiddleware.Proofs.CounterWrap

/-! Removing nodes is exact. What is left is described without the order in which
the nodes went or the way they went, so it does not depend on either. -/

namespace RobotMiddleware.Proofs.RemovalOrder
open Std Lib.Index Lib.Outcome RegistryState RegistryCalls RegistryIntegrity RegistryTopics NodeRemoval RegistryEffects CounterWrap

/-- The ways in which one node goes: it is cleaned up, or it is unregistered over its own connection. -/
inductive Removal where
  | cleanup (nodeId : UInt64)
  | unregister (nodeId : UInt64)
  deriving DecidableEq, Repr

def Removal.nodeId : Removal → UInt64
  | .cleanup nodeId | .unregister nodeId => nodeId

def removeNode (state : RegistryState) : Removal → Except Exception RegistryState
  | .cleanup nodeId => Prod.snd <$> state.cleanupDeadNode nodeId
  | .unregister nodeId =>
    match state.nodes[nodeId]? with
    | none => .ok state
    | some node => Prod.snd <$> state.unregisterNode node.controlConnection nodeId

def removeNodes (state : RegistryState) (removals : List Removal) : Except Exception RegistryState :=
  removals.foldlM removeNode state

/-- A topic that has endpoints left, with what they imply. -/
structure Remains (after : RegistryState) (topicId : UInt64) (old topic : TopicRecord) : Prop where
  inhabited : Inhabited topic
  identity : topic.topicId = old.topicId ∧ topic.topicName = old.topicName
  type : topic.typeName = old.typeName ∧ topic.typeHash = old.typeHash
  transport : topic.transport = old.transport
  publisher : topic.publisherEndpoint = old.publisherEndpoint.filter after.publishers.contains
  subscribers : ∀ endpointId, endpointId ∈ topic.subscriberEndpoints ↔
    endpointId ∈ old.subscriberEndpoints ∧ endpointId ∈ after.subscribers
  maximum : IsLeast (Sizes after topicId) topic.maxMessageSize
  pool : topic.pool = attachedPool after topic

structure Remainder (ids : List UInt64) (before after : RegistryState) : Prop where
  nodes : ∀ id : UInt64, after.nodes[id]? = if id ∈ ids then none else before.nodes[id]?
  nodeNames : ∀ name : Bytes, after.nodeNames[name]? = (before.nodeNames[name]?).filter fun id => id ∉ ids
  publishers : ∀ endpointId : UInt64, after.publishers[endpointId]? =
    (before.publishers[endpointId]?).filter fun publisher => publisher.nodeId ∉ ids
  subscribers : ∀ endpointId : UInt64, after.subscribers[endpointId]? =
    (before.subscribers[endpointId]?).filter fun subscriber => subscriber.nodeId ∉ ids
  topics : ∀ (id : UInt64) (topic : TopicRecord), after.topics[id]? = some topic ↔
    ∃ old, before.topics[id]? = some old ∧ Remains after id old topic
  topicNames : ∀ name : Bytes, after.topicNames[name]? = (before.topicNames[name]?).filter after.topics.contains

variable {state before after : RegistryState}

theorem removeNode_removes (consistent : Consistent state) (removal : Removal) :
    ∃ after, removeNode state removal = .ok after ∧ Consistent after ∧ Removes [removal.nodeId] state after := by
  cases removal with
  | cleanup nodeId =>
    obtain ⟨cleanup, after, done, kept, removes⟩ := cleanupDeadNode_removes consistent nodeId
    refine ⟨after, ?_, kept, removes⟩
    rw [removeNode, done]
    rfl
  | unregister nodeId =>
    cases found : state.nodes[nodeId]? with
    | none =>
      refine ⟨state, ?_, consistent, .absent consistent.toCore found⟩
      simp only [removeNode, found]
    | some node =>
      obtain ⟨after, done, kept, removes⟩ := unregisterNode_removes consistent (ownedNode_some.mpr ⟨found, rfl⟩)
      refine ⟨after, ?_, kept, removes⟩
      simp only [removeNode, found, done]
      rfl

theorem removeNodes_removes (consistent : Consistent state) (removals : List Removal) :
    ∃ after, removeNodes state removals = .ok after ∧ Consistent after ∧
      Removes (removals.map Removal.nodeId) state after := by
  induction removals generalizing state with
  | nil => exact ⟨state, rfl, consistent, .refl state⟩
  | cons removal rest ih =>
    obtain ⟨middle, done, kept, removes⟩ := removeNode_removes consistent removal
    obtain ⟨after, finished, final, more⟩ := ih kept
    refine ⟨after, ?_, final, removes.trans more⟩
    rw [removeNodes, List.foldlM_cons, done]
    exact finished

section Topics
variable {ids : List UInt64} {topicId : UInt64} {topic : TopicRecord}

theorem remains_of_found (first : Consistent before) (last : Consistent after) (removes : Removes ids before after)
    (found : after.topics[topicId]? = some topic) :
    ∃ old, before.topics[topicId]? = some old ∧ Remains after topicId old topic := by
  obtain ⟨old, stored, bare⟩ := removes.topics topicId topic found
  have implied := last.implied topicId topic found
  have same := bare
  simp only [bareTopic, TopicRecord.mk.injEq] at same
  refine ⟨old, stored, last.inhabited topicId topic found, ⟨same.1, same.2.1⟩, ⟨same.2.2.1, same.2.2.2.1⟩,
    same.2.2.2.2.1, ?_, fun endpoint => ?_, implied.maximum, implied.pool⟩
  · apply Option.ext
    intro endpoint
    rw [Option.filter_eq_some_iff, last.publisherTopics.iff found, first.publisherTopics.iff stored, removes.publishers.remains,
      ExtTreeMap.mem_iff_contains]
  · rw [last.subscriberTopics.iff found, first.subscriberTopics.iff stored, removes.subscribers.remains]

/-- What remains of a topic is determined by what it was and by the endpoints that are left. -/
theorem Remains.unique {old other : TopicRecord} (first : Remains after topicId old topic) (last : Remains after topicId old other) :
    topic = other := by
  have publisher : topic.publisherEndpoint = other.publisherEndpoint := first.publisher.trans last.publisher.symm
  apply bareTopic_ext
  · simp only [bareTopic, TopicRecord.mk.injEq]
    simp [first.identity, last.identity, first.type, last.type, first.transport, last.transport]
  · exact UInt64.le_antisymm (first.maximum.2 last.maximum.1) (last.maximum.2 first.maximum.1)
  · exact publisher
  · apply ExtTreeSet.ext_mem
    intro endpoint
    rw [first.subscribers, last.subscribers]
  · rw [first.pool, last.pool, attachedPool, attachedPool, publisher]

theorem found_of_remains (first : Consistent before) (last : Consistent after) (removes : Removes ids before after)
    {old : TopicRecord} (stored : before.topics[topicId]? = some old) (remains : Remains after topicId old topic) :
    after.topics[topicId]? = some topic := by
  obtain ⟨record, found⟩ := last.topic_exists.mpr ⟨_, remains.maximum.1⟩
  obtain ⟨again, present, known⟩ := remains_of_found first last removes found
  rw [stored] at present
  cases present
  rw [found, known.unique remains]

end Topics

theorem names_filter {κ ρ : Type} [Ord κ] [TransOrd κ] {names left : ExtTreeMap κ UInt64} {records kept : ExtTreeMap UInt64 ρ}
    {name : ρ → κ} {keep : UInt64 → Bool} (first : Inverse names records name) (last : Inverse left kept name)
    (former : ∀ (id : UInt64) (record : ρ), kept[id]? = some record →
      keep id ∧ ∃ old, records[id]? = some old ∧ name old = name record)
    (spared : ∀ (id : UInt64) (record : ρ), records[id]? = some record → keep id →
      ∃ new, kept[id]? = some new ∧ name new = name record) (key : κ) : left[key]? = (names[key]?).filter keep := by
  refine eq_filter (fun id stored => ?_) (fun id stored => ?_) fun id stored held => ?_
  · obtain ⟨record, found, rfl⟩ := (last key id).mp stored
    obtain ⟨_, old, present, same⟩ := former id record found
    exact (first _ id).mpr ⟨old, present, same⟩
  · obtain ⟨record, found, rfl⟩ := (last key id).mp stored
    exact (former id record found).1
  · obtain ⟨record, found, rfl⟩ := (first key id).mp stored
    obtain ⟨new, present, same⟩ := spared id record found held
    exact (last _ id).mpr ⟨new, present, same⟩

theorem remainder_of_removes {ids : List UInt64} (first : Consistent before) (last : Consistent after)
    (removes : Removes ids before after) : Remainder ids before after := by
  refine ⟨removes.nodes, ?_, removes.publishers, removes.subscribers, fun id topic => ⟨remains_of_found first last removes, ?_⟩, ?_⟩
  · refine names_filter first.nodeNames last.nodeNames (fun id record found => ?_) fun id record found kept => ?_
    · have here := removes.nodes id
      rw [found] at here
      split at here
      · cases here
      next outside => exact ⟨by simpa using outside, record, here.symm, rfl⟩
    · refine ⟨record, ?_, rfl⟩
      rw [removes.nodes, if_neg (by simpa using kept), found]
  · rintro ⟨old, stored, remains⟩
    exact found_of_remains first last removes stored remains
  · refine names_filter first.topicNames last.topicNames (fun id record found => ?_) fun id record found kept => ?_
    · obtain ⟨old, stored, remains⟩ := remains_of_found first last removes found
      exact ⟨ExtTreeMap.mem_iff_contains.mp (mem_iff_found.mpr ⟨record, found⟩), old, stored, remains.identity.2.symm⟩
    · obtain ⟨topic, stands⟩ := mem_iff_found.mp (ExtTreeMap.mem_iff_contains.mpr kept)
      obtain ⟨old, stored, remains⟩ := remains_of_found first last removes stands
      rw [found] at stored
      cases stored
      exact ⟨topic, stands, remains.identity.2⟩

theorem Removes.alike {ids more : List UInt64} {other : RegistryState} (same : ∀ id, id ∈ ids ↔ id ∈ more)
    (first : Consistent after) (last : Consistent other) (one : Removes ids state after) (two : Removes more state other) :
    Alike after other := by
  have nodes : other.nodes = after.nodes := by
    apply ExtTreeMap.ext_getElem?
    intro id
    rw [one.nodes, two.nodes]
    simp only [same]
  have publishers : other.publishers = after.publishers := by
    apply ExtTreeMap.ext_getElem?
    intro endpoint
    rw [one.publishers, two.publishers]
    simp only [same]
  have subscribers : other.subscribers = after.subscribers := by
    apply ExtTreeMap.ext_getElem?
    intro endpoint
    rw [one.subscribers, two.subscribers]
    simp only [same]
  obtain ⟨topics, nodeNames, topicNames⟩ := first.determined last nodes publishers subscribers
    fun id old topic stored found => by
      obtain ⟨former, present, bare⟩ := one.topics id old stored
      obtain ⟨again, stands, equal⟩ := two.topics id topic found
      rw [present] at stands
      cases stands
      exact equal.trans bare.symm
  exact ⟨nodes, nodeNames, topics, topicNames, publishers, subscribers, two.liveness.trans one.liveness.symm⟩

/-- In every registry that has issued fewer than `2^64 - 1` ids of each kind, nodes can be
removed in any order and either way: the tables that are left are the same, and
exactly the nodes, their endpoints and the topics without endpoints are gone. -/
theorem removal_exact {liveness : LivenessConfig} {start : RegistryState} {operations : List RegistryOperation}
    {issued : Issued} (created : RegistryState.create liveness = .ok start)
    (served : serve start {} operations = .ok (state, issued)) (few : issued.Few) (first last : List Removal)
    (same : ∀ id, id ∈ first.map Removal.nodeId ↔ id ∈ last.map Removal.nodeId) :
    ∃ one other, removeNodes state first = .ok one ∧ removeNodes state last = .ok other ∧ Alike one other ∧
      Remainder (first.map Removal.nodeId) state one := by
  obtain ⟨consistent, _⟩ := reached_consistent created served few
  obtain ⟨one, done, kept, removes⟩ := removeNodes_removes consistent first
  obtain ⟨other, finished, final, also⟩ := removeNodes_removes consistent last
  exact ⟨one, other, done, finished, Removes.alike same kept final removes also, remainder_of_removes consistent kept removes⟩

/-- Two nodes in either order, one of them cleaned up and one unregistered. -/
theorem removal_exact_seed : ∃ one other, removeNodes seed [.cleanup 1, .unregister 2] = .ok one ∧
    removeNodes seed [.unregister 2, .unregister 1] = .ok other ∧ Alike one other ∧ Remainder [1, 2] seed one := by
  obtain ⟨issued, served, few⟩ := seed_served
  have created : RegistryState.create {} = .ok { liveness := {} } := rfl
  exact removal_exact created served few [.cleanup 1, .unregister 2] [.unregister 2, .unregister 1]
    (by simp [Removal.nodeId, or_comm])

/-- Once the counters have gone round, a topic is left with a pool that its publisher does not have. -/
theorem removal_inexact : ∃ operations state issued after, serve { liveness := {} } {} operations = .ok (state, issued) ∧
    removeNodes state [.cleanup 2] = .ok after ∧ ¬Remainder [2] state after := by
  obtain ⟨operations, issued, metrics, served⟩ := overwritten_reached
  refine ⟨operations, _, issued, _, served, rfl, fun remainder => ?_⟩
  obtain ⟨old, _, remains⟩ := (remainder.topics 1 _).mp rfl
  have pools : otherPool = samplePool := remains.pool
  exact absurd pools (by decide)

end RobotMiddleware.Proofs.RemovalOrder
