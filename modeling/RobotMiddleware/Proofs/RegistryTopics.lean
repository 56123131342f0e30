import Mathlib.Order.Bounds.Basic
import RobotMiddleware.Proofs.RegistryIntegrity

/-! A topic's record is what its endpoints imply: the least of their sizes, the
pool of the publisher, and one transport for all of them. An endpoint that leaves
touches no record of another node, and the record of its topic is set right. -/

namespace RobotMiddleware.Proofs.RegistryTopics
open Std Lib.Index Lib.Outcome RegistryState RegistryCalls RegistryIntegrity

def Sizes (state : RegistryState) (topicId : UInt64) : Set UInt64 :=
  {size | (∃ (endpointId : UInt64) (publisher : PublisherEndpoint), state.publishers[endpointId]? = some publisher ∧
      publisher.topicId = topicId ∧ publisher.maxMessageSize = size) ∨
    ∃ (endpointId : UInt64) (subscriber : SubscriberEndpoint), state.subscribers[endpointId]? = some subscriber ∧
      subscriber.topicId = topicId ∧ subscriber.maxMessageSize = size}

def attachedPool (state : RegistryState) (topic : TopicRecord) : SharedPoolMetadata :=
  ((topic.publisherEndpoint.bind fun endpointId => state.publishers[endpointId]?).map (·.pool)).getD {}

/-- An endpoint on a topic, of either kind, with the size that it asks for and its transport. -/
@[mk_iff uses_iff]
inductive Uses (state : RegistryState) (topicId : UInt64) : UInt64 → TransportType → Prop
  | publisher {endpointId : UInt64} {publisher : PublisherEndpoint} (stored : state.publishers[endpointId]? = some publisher)
      (mine : publisher.topicId = topicId) : Uses state topicId publisher.maxMessageSize publisher.transport
  | subscriber {endpointId : UInt64} {subscriber : SubscriberEndpoint}
      (stored : state.subscribers[endpointId]? = some subscriber) (mine : subscriber.topicId = topicId) :
      Uses state topicId subscriber.maxMessageSize subscriber.transport

structure Implied (state : RegistryState) (topicId : UInt64) (topic : TopicRecord) : Prop where
  maximum : IsLeast (Sizes state topicId) topic.maxMessageSize
  pool : topic.pool = attachedPool state topic
  transports : ∀ size transport, Uses state topicId size transport → transport = topic.transport

structure Consistent (state : RegistryState) : Prop extends Integrity state where
  implied : ∀ (id : UInt64) (topic : TopicRecord), state.topics[id]? = some topic → Implied state id topic

def bareNode (node : NodeRecord) : NodeRecord := { node with publisherEndpoints := ∅, subscriberEndpoints := ∅ }

/-- No topic is new, and those that are left kept their names and types. -/
def FewerTopics (before after : RegistryState) : Prop :=
  ∀ (id : UInt64) (topic : TopicRecord), after.topics[id]? = some topic →
    ∃ old, before.topics[id]? = some old ∧ bareTopic topic = bareTopic old

/-- No endpoint and no topic is new. -/
structure Fewer (before after : RegistryState) : Prop where
  publishers : ∀ (endpointId : UInt64) (publisher : PublisherEndpoint), after.publishers[endpointId]? = some publisher →
    before.publishers[endpointId]? = some publisher
  subscribers : ∀ (endpointId : UInt64) (subscriber : SubscriberEndpoint),
    after.subscribers[endpointId]? = some subscriber → before.subscribers[endpointId]? = some subscriber
  topics : FewerTopics before after

/-- Only endpoints of this node have left. -/
structure Withdraws (nodeId : UInt64) (before after : RegistryState) : Prop where
  others : ∀ id, id ≠ nodeId → after.nodes[id]? = before.nodes[id]?
  node : (after.nodes[nodeId]?).map bareNode = (before.nodes[nodeId]?).map bareNode
  publishers : Trims (·.nodeId) (· = nodeId) before.publishers after.publishers
  subscribers : Trims (·.nodeId) (· = nodeId) before.subscribers after.subscribers
  topics : FewerTopics before after
  liveness : after.liveness = before.liveness

variable {state before middle after : RegistryState} {topicId nodeId endpointId connection : UInt64}

theorem FewerTopics.refl (state : RegistryState) : FewerTopics state state := fun _ topic found => ⟨topic, found, rfl⟩

theorem FewerTopics.trans (first : FewerTopics before middle) (last : FewerTopics middle after) :
    FewerTopics before after := by
  intro id topic found
  obtain ⟨between, stored, same⟩ := last id topic found
  obtain ⟨old, present, earlier⟩ := first id between stored
  exact ⟨old, present, same.trans earlier⟩

theorem Withdraws.refl (nodeId : UInt64) (state : RegistryState) : Withdraws nodeId state state :=
  ⟨fun _ _ => rfl, rfl, .of_eq rfl, .of_eq rfl, .refl state, rfl⟩

theorem Withdraws.trans (first : Withdraws nodeId before middle) (last : Withdraws nodeId middle after) :
    Withdraws nodeId before after where
  others id different := (last.others id different).trans (first.others id different)
  node := last.node.trans first.node
  publishers := first.publishers.trans last.publishers (fun _ => id) fun _ => id
  subscribers := first.subscribers.trans last.subscribers (fun _ => id) fun _ => id
  topics := first.topics.trans last.topics
  liveness := last.liveness.trans first.liveness

theorem Withdraws.fewer (withdraws : Withdraws nodeId before after) : Fewer before after :=
  ⟨withdraws.publishers.within, withdraws.subscribers.within, withdraws.topics⟩

/-- The node still answers to its connection when some of its endpoints have left. -/
theorem Withdraws.owned {node : NodeRecord} (withdraws : Withdraws nodeId before after)
    (owned : before.ownedNode connection nodeId = some node) :
    ∃ record, after.ownedNode connection nodeId = some record ∧ bareNode record = bareNode node := by
  obtain ⟨found, mine⟩ := ownedNode_some.mp owned
  have same := withdraws.node
  rw [found, Option.map_some, Option.map_eq_some_iff] at same
  obtain ⟨record, stored, bare⟩ := same
  have control : (bareNode record).controlConnection = (bareNode node).controlConnection := by rw [bare]
  have control : record.controlConnection = node.controlConnection := control
  exact ⟨record, ownedNode_some.mpr ⟨stored, control.trans mine⟩, bare⟩

variable {topic old : TopicRecord} {size : UInt64}

theorem least_insert {sizes : Set UInt64} {least : UInt64} (minimum : IsLeast sizes least) :
    IsLeast {other | other = size ∨ other ∈ sizes} (min least size) := by
  refine ⟨?_, ?_⟩
  · rcases Std.MinEqOr.min_eq_or least size with same | same
    · rw [same]
      exact .inr minimum.1
    · rw [same]
      exact .inl rfl
  · rintro other (rfl | member)
    · exact Std.min_le_right
    · exact UInt64.le_trans Std.min_le_left (minimum.2 member)

/-- The loop over the subscribers of a topic keeps the least size. -/
theorem subscriberMaximum_least (endpoints : List UInt64) (start : UInt64)
    (present : ∀ endpointId ∈ endpoints, ∃ subscriber, state.subscribers[endpointId]? = some subscriber) :
    ∃ maximum, endpoints.foldlM state.subscriberMaximum start = .ok maximum ∧
      IsLeast {size | size = start ∨ ∃ endpointId ∈ endpoints, ∃ subscriber,
        state.subscribers[endpointId]? = some subscriber ∧ subscriber.maxMessageSize = size} maximum := by
  induction endpoints generalizing start with
  | nil => exact ⟨start, rfl, by simp [IsLeast, lowerBounds]⟩
  | cons endpointId rest ih =>
    obtain ⟨subscriber, stored⟩ := present endpointId (by simp)
    obtain ⟨maximum, done, least⟩ := ih (min start subscriber.maxMessageSize) fun other member => present other (by simp [member])
    refine ⟨maximum, ?_, ?_, ?_⟩
    · rw [List.foldlM_cons, subscriberMaximum, mapAt_ok stored]
      exact done
    · rcases least.1 with first | ⟨other, member, record, found, size⟩
      · rcases Std.MinEqOr.min_eq_or start subscriber.maxMessageSize with same | same
        · exact .inl (first.trans same)
        · exact .inr ⟨endpointId, by simp, subscriber, stored, (first.trans same).symm⟩
      · exact .inr ⟨other, by simp [member], record, found, size⟩
    · have below : maximum ≤ min start subscriber.maxMessageSize := least.2 (.inl rfl)
      rintro size (rfl | ⟨other, member, record, found, rfl⟩)
      · exact UInt64.le_trans below Std.min_le_left
      · rcases List.mem_cons.mp member with rfl | later
        · rw [stored] at found
          cases found
          exact UInt64.le_trans below Std.min_le_right
        · exact least.2 (.inr ⟨other, later, record, found, rfl⟩)

theorem mem_sizes (core : Core state) (found : state.topics[topicId]? = some topic) :
    size ∈ Sizes state topicId ↔
      (∃ (endpointId : UInt64) (publisher : PublisherEndpoint), topic.publisherEndpoint = some endpointId ∧
        state.publishers[endpointId]? = some publisher ∧ publisher.maxMessageSize = size) ∨
      ∃ endpointId ∈ topic.subscriberEndpoints, ∃ subscriber,
        state.subscribers[endpointId]? = some subscriber ∧ subscriber.maxMessageSize = size := by
  constructor
  · rintro (⟨endpoint, publisher, stored, mine, same⟩ | ⟨endpoint, subscriber, stored, mine, same⟩)
    · exact .inl ⟨endpoint, publisher, (core.publisherTopics.iff found).mpr ⟨publisher, stored, mine⟩, stored, same⟩
    · exact .inr ⟨endpoint, (core.subscriberTopics.iff found).mpr ⟨subscriber, stored, mine⟩, subscriber, stored, same⟩
  · rintro (⟨endpoint, publisher, current, stored, same⟩ | ⟨endpoint, listed, subscriber, stored, same⟩)
    · obtain ⟨record, again, mine⟩ := (core.publisherTopics.iff found).mp current
      rw [stored] at again
      cases again
      exact .inl ⟨endpoint, publisher, stored, mine, same⟩
    · obtain ⟨record, again, mine⟩ := (core.subscriberTopics.iff found).mp listed
      rw [stored] at again
      cases again
      exact .inr ⟨endpoint, subscriber, stored, mine, same⟩

theorem le_sizeMax (size : UInt64) : size ≤ sizeMax := by
  rw [UInt64.le_iff_toNat_le]
  exact Nat.le_of_lt_succ size.toNat_lt

theorem publisherMaximum_ok (core : Core state) (found : state.topics[topicId]? = some topic) :
    ∃ limit, state.publisherMaximum topic = .ok limit ∧
      (topic.publisherEndpoint = none ∧ limit = sizeMax ∨
        ∃ (endpointId : UInt64) (publisher : PublisherEndpoint), topic.publisherEndpoint = some endpointId ∧
          state.publishers[endpointId]? = some publisher ∧ publisher.maxMessageSize = limit) := by
  unfold publisherMaximum
  cases current : topic.publisherEndpoint with
  | none => exact ⟨sizeMax, rfl, .inl ⟨rfl, rfl⟩⟩
  | some endpointId =>
    obtain ⟨publisher, present, _⟩ := (core.publisherTopics.iff found).mp current
    have size : min sizeMax publisher.maxMessageSize = publisher.maxMessageSize :=
      UInt64.le_antisymm Std.min_le_right (Std.le_min_iff.mpr ⟨le_sizeMax _, UInt64.le_refl _⟩)
    refine ⟨publisher.maxMessageSize, ?_, .inr ⟨endpointId, publisher, rfl, present, rfl⟩⟩
    simp only [mapAt_ok present, bind, Except.bind, size]
    rfl

/-- The recomputation changes nothing but the maximum, and finds the least size of a topic in use. -/
theorem recompute_least (core : Core state) (found : state.topics[topicId]? = some topic) :
    ∃ size, state.recomputeTopicMaxMessageSize topicId =
        .ok (state.setTopic topicId { topic with maxMessageSize := size }) ∧
      (Inhabited topic → IsLeast (Sizes state topicId) size) := by
  obtain ⟨limit, first, bound⟩ := publisherMaximum_ok core found
  obtain ⟨maximum, last, least⟩ := subscriberMaximum_least topic.subscriberEndpoints.toList limit
    fun endpoint member => by
      obtain ⟨subscriber, stored, _⟩ := (core.subscriberTopics.iff found).mp (ExtTreeSet.mem_toList.mp member)
      exact ⟨subscriber, stored⟩
  simp only [ExtTreeSet.mem_toList] at least
  have done : state.recomputeTopicMaxMessageSize topicId =
      .ok (if topic.publisherEndpoint.isSome || !topic.subscriberEndpoints.isEmpty then
        state.setTopic topicId { topic with maxMessageSize := maximum } else state) := by
    simp only [recomputeTopicMaxMessageSize, mapAt_ok found, first, last, bind, Except.bind]
    rfl
  rw [done]
  split
  case isFalse unused =>
    refine ⟨topic.maxMessageSize, congrArg Except.ok (setTopic_self found).symm, fun used => absurd ?_ unused⟩
    rcases used with publisher | subscribers
    · simp [publisher]
    · simp [subscribers]
  refine ⟨maximum, rfl, fun used => ⟨?_, ?_⟩⟩
  · rw [mem_sizes core found]
    rcases least.1 with reached | subscriber
    · rcases bound with ⟨absent, top⟩ | ⟨endpoint, publisher, current, stored, size⟩
      · -- Without a publisher some subscriber is there, and none is above the limit.
        have listed : topic.subscriberEndpoints ≠ ∅ := by
          rcases used with publisher | subscribers
          · simp [absent] at publisher
          · exact subscribers
        obtain ⟨endpoint, member⟩ : ∃ endpoint, endpoint ∈ topic.subscriberEndpoints := by
          simpa [ExtTreeSet.eq_empty_iff_forall_not_mem] using listed
        obtain ⟨subscriber, stored, _⟩ := (core.subscriberTopics.iff found).mp member
        have low : maximum ≤ subscriber.maxMessageSize := least.2 (.inr ⟨endpoint, member, subscriber, stored, rfl⟩)
        have high : subscriber.maxMessageSize ≤ maximum := by
          rw [reached, top]
          exact le_sizeMax _
        exact .inr ⟨endpoint, member, subscriber, stored, UInt64.le_antisymm high low⟩
      · exact .inl ⟨endpoint, publisher, current, stored, size.trans reached.symm⟩
    · exact .inr subscriber
  · intro size member
    rcases (mem_sizes core found).mp member with ⟨endpoint, publisher, current, stored, rfl⟩ | subscriber
    · rcases bound with ⟨absent, _⟩ | ⟨other, record, again, present, same⟩
      · rw [absent] at current
        cases current
      · rw [current] at again
        cases again
        rw [stored] at present
        cases present
        exact least.2 (.inl same)
    · exact least.2 (.inr subscriber)

theorem FewerTopics.insert (found : before.topics[topicId]? = some old)
    (changed : after.topics = before.topics.insert topicId topic) (same : bareTopic topic = bareTopic old) :
    FewerTopics before after := by
  intro id record stored
  rw [changed] at stored
  grind

theorem mem_sizes_uses : size ∈ Sizes state topicId ↔ ∃ transport, Uses state topicId size transport := by
  simp only [Sizes, Set.mem_ofPred_eq, uses_iff, exists_or]
  grind

theorem Uses.found {transport : TransportType} (uses : Uses state topicId size transport) (core : Core state) :
    ∃ topic, state.topics[topicId]? = some topic := by
  cases uses with
  | publisher stored mine =>
    obtain ⟨topic, found, _⟩ := core.publisherTopics.holder stored
    exact ⟨topic, mine ▸ found⟩
  | subscriber stored mine =>
    obtain ⟨topic, found, _⟩ := core.subscriberTopics.holder stored
    exact ⟨topic, mine ▸ found⟩

theorem Uses.within {transport : TransportType} (uses : Uses after topicId size transport)
    (publishers : ∀ (endpointId : UInt64) (publisher : PublisherEndpoint), publisher.topicId = topicId →
      after.publishers[endpointId]? = some publisher → before.publishers[endpointId]? = some publisher)
    (subscribers : ∀ (endpointId : UInt64) (subscriber : SubscriberEndpoint), subscriber.topicId = topicId →
      after.subscribers[endpointId]? = some subscriber → before.subscribers[endpointId]? = some subscriber) :
    Uses before topicId size transport := by
  cases uses with
  | publisher stored mine => exact .publisher (publishers _ _ mine stored) mine
  | subscriber stored mine => exact .subscriber (subscribers _ _ mine stored) mine

/-- What a topic's record has to be depends on its endpoints alone. -/
theorem Implied.frame (implied : Implied before topicId topic) (core : Core before)
    (found : before.topics[topicId]? = some topic)
    (same : ∀ size transport, Uses after topicId size transport ↔ Uses before topicId size transport)
    (kept : ∀ (endpointId : UInt64) (publisher : PublisherEndpoint), before.publishers[endpointId]? = some publisher →
      publisher.topicId = topicId → after.publishers[endpointId]? = some publisher) : Implied after topicId topic := by
  obtain ⟨maximum, pool, transports⟩ := implied
  refine ⟨?_, ?_, fun size transport uses => transports size transport ((same size transport).mp uses)⟩
  · have sizes : Sizes after topicId = Sizes before topicId := by
      ext size
      simp only [mem_sizes_uses, same]
    rw [sizes]
    exact maximum
  · rw [pool, attachedPool, attachedPool]
    cases current : topic.publisherEndpoint with
    | none => rfl
    | some endpoint =>
      obtain ⟨publisher, stored, mine⟩ := (core.publisherTopics.iff found).mp current
      rw [Option.bind_some, Option.bind_some, stored, kept endpoint publisher stored mine]

theorem Implied.congr (implied : Implied before topicId topic)
    (publishers : after.publishers = before.publishers) (subscribers : after.subscribers = before.subscribers) :
    Implied after topicId topic := by
  obtain ⟨maximum, pool, transports⟩ := implied
  refine ⟨?_, ?_, fun size transport uses => transports size transport (uses.within ?_ ?_)⟩
  · rwa [Sizes, publishers, subscribers]
  · rwa [attachedPool, publishers]
  · exact fun _ _ _ stored => publishers ▸ stored
  · exact fun _ _ _ stored => subscribers ▸ stored

/-- What `unadvertise` and `unsubscribe` do last sets the record of the topic right that an endpoint has left. -/
theorem settle_consistent (consistent : Consistent before) (core : Core state)
    (former : before.topics[topicId]? = some old) (topics : state.topics = before.topics.insert topicId topic)
    (bare : bareTopic topic = bareTopic old)
    (publishers : Trims (·.topicId) (· = topicId) before.publishers state.publishers)
    (subscribers : Trims (·.topicId) (· = topicId) before.subscribers state.subscribers)
    (pool : topic.pool = attachedPool state topic) :
    ∃ settled, state.recomputeTopicMaxMessageSize topicId = .ok settled ∧
      Consistent (settled.eraseTopicIfEmpty topicId) := by
  have found : state.topics[topicId]? = some topic := by rw [topics, ExtTreeMap.getElem?_insert_self]
  obtain ⟨size, exact, least⟩ := recompute_least core found
  have tied : Core (state.setTopic topicId { topic with maxMessageSize := size }) := core.setTopic found rfl rfl rfl rfl
  have integrity := eraseTopicIfEmpty_integrity tied fun id record different present => by
    have known := consistent.inhabitedExcept topics id record different
    simp only [RegistryState.setTopic] at present
    grind
  have only := settle_topicsOnly exact
  refine ⟨_, exact, integrity, fun id record stored => ?_⟩
  refine Implied.congr ?_ only.publishers only.subscribers
  have used := integrity.inhabited id record stored
  unfold eraseTopicIfEmpty RegistryState.setTopic at stored
  simp only [ExtTreeMap.getElem?_insert_self] at stored
  by_cases here : id = topicId
  · subst id
    split at stored
    · simp only [ExtTreeMap.getElem?_insert_self, Option.some.injEq] at stored
      subst record
      have carrier : (bareTopic topic).transport = (bareTopic old).transport := by rw [bare]
      refine ⟨least used, pool, fun size transport uses => Eq.trans ?_ carrier.symm⟩
      exact (consistent.implied topicId old former).transports size transport
        (uses.within (fun _ _ _ => publishers.within _ _) fun _ _ _ => subscribers.within _ _)
    · simp at stored
  · have stood : before.topics[id]? = some record := by
      split at stored <;> grind
    have publishing := fun endpoint publisher (mine : publisher.topicId = id) stored =>
      publishers.spares endpoint publisher stored (mine ▸ here)
    refine (consistent.implied id record stood).frame consistent.toCore stood (fun size transport => ⟨fun uses => ?_, fun uses => ?_⟩)
      fun endpoint publisher stored mine => publishing endpoint publisher mine stored
    · exact uses.within (fun _ _ _ => publishers.within _ _) fun _ _ _ => subscribers.within _ _
    · exact uses.within publishing fun _ _ mine stored => subscribers.spares _ _ stored (mine ▸ here)

theorem settle_withdraws (done : state.recomputeTopicMaxMessageSize topicId = .ok after) (nodeId : UInt64) :
    Withdraws nodeId state (after.eraseTopicIfEmpty topicId) := by
  have only := settle_topicsOnly done
  refine ⟨fun id _ => by rw [only.nodes], by rw [only.nodes], .of_eq only.publishers, .of_eq only.subscribers, fun id topic found => ?_,
    only.liveness⟩
  obtain ⟨old, stored, same, _⟩ := only.topics id topic found
  exact ⟨old, stored, same⟩

section Leave
variable {node : NodeRecord}

theorem withoutPublisher_withdraws {publisher : PublisherEndpoint}
    (present : state.publishers[endpointId]? = some publisher) (owner : state.nodes[publisher.nodeId]? = some node)
    (found : state.topics[publisher.topicId]? = some topic) :
    Withdraws publisher.nodeId state (withoutPublisher state endpointId publisher node topic) := by
  refine ⟨fun id different => ?_, ?_, .erase present rfl, .of_eq rfl, .insert found rfl rfl, rfl⟩
  · simp only [withoutPublisher]
    grind
  · simp only [withoutPublisher, ExtTreeMap.getElem?_insert_self, owner]
    rfl

theorem withoutSubscriber_withdraws {subscriber : SubscriberEndpoint}
    (present : state.subscribers[endpointId]? = some subscriber) (owner : state.nodes[subscriber.nodeId]? = some node)
    (found : state.topics[subscriber.topicId]? = some topic) :
    Withdraws subscriber.nodeId state (withoutSubscriber state endpointId subscriber node topic) := by
  refine ⟨fun id different => ?_, ?_, .of_eq rfl, .erase present rfl, .insert found rfl rfl, rfl⟩
  · simp only [withoutSubscriber]
    grind
  · simp only [withoutSubscriber, ExtTreeMap.getElem?_insert_self, owner]
    rfl

end Leave

/-- What a call of `unadvertise` or `unsubscribe` leaves behind: nothing has changed, or
the caller speaks for the node and only endpoints of that node have left. -/
structure Leaves (connection nodeId : UInt64) (before after : RegistryState) : Prop where
  consistent : Consistent after
  change : after = before ∨ (∃ node, before.ownedNode connection nodeId = some node) ∧ Withdraws nodeId before after

theorem Leaves.unchanged (consistent : Consistent state) : Leaves connection nodeId state state := ⟨consistent, .inl rfl⟩

theorem Leaves.withdraws (leaves : Leaves connection nodeId before after) : Withdraws nodeId before after := by
  rcases leaves.change with same | ⟨_, withdraws⟩
  · rw [same]
    exact .refl nodeId before
  · exact withdraws

theorem unadvertise_leaves (consistent : Consistent state) (connection nodeId endpointId : UInt64) :
    ∃ code after, state.unadvertise connection nodeId endpointId = .ok (code, after) ∧
      Leaves connection nodeId state after ∧ (state.ownedNode connection nodeId ≠ none →
        ∀ publisher, after.publishers[endpointId]? = some publisher → publisher.nodeId ≠ nodeId) := by
  by_cases owns : ∃ node publisher, state.ownedNode connection nodeId = some node ∧
      state.publishers[endpointId]? = some publisher ∧ publisher.nodeId = nodeId
  · obtain ⟨node, publisher, owned, present, rfl⟩ := owns
    obtain ⟨topic, found, current⟩ := consistent.publisherTopics.holder present
    have owner := (ownedNode_some.mp owned).1
    obtain ⟨settled, recomputed, kept⟩ := settle_consistent consistent
      (consistent.toCore.withoutPublisher present owner found current) found rfl rfl (.erase present rfl) (.of_eq rfl) rfl
    refine ⟨.ok, _, unadvertise_iff.mpr (.left owned present rfl found recomputed),
      ⟨kept, .inr ⟨⟨node, owned⟩, (withoutPublisher_withdraws present owner found).trans (settle_withdraws recomputed _)⟩⟩,
      fun _ record still => ?_⟩
    rw [(settle_topicsOnly recomputed).publishers] at still
    simp [withoutPublisher] at still
  · have foreign : ∀ node publisher, state.ownedNode connection nodeId = some node →
        state.publishers[endpointId]? = some publisher → publisher.nodeId ≠ nodeId :=
      fun node publisher owned present mine => owns ⟨node, publisher, owned, present, mine⟩
    refine ⟨.endpointNotFound, state, unadvertise_iff.mpr (.refused foreign), .unchanged consistent, fun owned record => ?_⟩
    obtain ⟨node, mine⟩ := Option.ne_none_iff_exists'.mp owned
    exact foreign node record mine

theorem unsubscribe_leaves (consistent : Consistent state) (connection nodeId endpointId : UInt64) :
    ∃ code after, state.unsubscribe connection nodeId endpointId = .ok (code, after) ∧
      Leaves connection nodeId state after ∧ (state.ownedNode connection nodeId ≠ none →
        ∀ subscriber, after.subscribers[endpointId]? = some subscriber → subscriber.nodeId ≠ nodeId) := by
  by_cases owns : ∃ node subscriber, state.ownedNode connection nodeId = some node ∧
      state.subscribers[endpointId]? = some subscriber ∧ subscriber.nodeId = nodeId
  · obtain ⟨node, subscriber, owned, present, rfl⟩ := owns
    obtain ⟨topic, found, _⟩ := consistent.subscriberTopics.holder present
    have owner := (ownedNode_some.mp owned).1
    obtain ⟨settled, recomputed, kept⟩ := settle_consistent consistent
      (consistent.toCore.withoutSubscriber present owner found) found rfl rfl (.of_eq rfl) (.erase present rfl)
      (consistent.implied _ topic found).pool
    refine ⟨.ok, _, unsubscribe_iff.mpr (.left owned present rfl found recomputed),
      ⟨kept, .inr ⟨⟨node, owned⟩, (withoutSubscriber_withdraws present owner found).trans (settle_withdraws recomputed _)⟩⟩,
      fun _ record still => ?_⟩
    rw [(settle_topicsOnly recomputed).subscribers] at still
    simp [withoutSubscriber] at still
  · have foreign : ∀ node subscriber, state.ownedNode connection nodeId = some node →
        state.subscribers[endpointId]? = some subscriber → subscriber.nodeId ≠ nodeId :=
      fun node subscriber owned present mine => owns ⟨node, subscriber, owned, present, mine⟩
    refine ⟨.endpointNotFound, state, unsubscribe_iff.mpr (.refused foreign), .unchanged consistent, fun owned record => ?_⟩
    obtain ⟨node, mine⟩ := Option.ne_none_iff_exists'.mp owned
    exact foreign node record mine

theorem Consistent.topic_exists (consistent : Consistent state) :
    (∃ topic, state.topics[topicId]? = some topic) ↔ (Sizes state topicId).Nonempty := by
  constructor
  · rintro ⟨topic, found⟩
    exact ⟨_, (consistent.implied topicId topic found).maximum.1⟩
  · rintro ⟨size, member⟩
    obtain ⟨_, uses⟩ := mem_sizes_uses.mp member
    exact uses.found consistent.toCore

theorem bareTopic_ext (bare : bareTopic topic = bareTopic old)
    (maximum : topic.maxMessageSize = old.maxMessageSize) (publisher : topic.publisherEndpoint = old.publisherEndpoint)
    (subscribers : topic.subscriberEndpoints = old.subscriberEndpoints) (pool : topic.pool = old.pool) : topic = old := by
  cases topic
  cases old
  simp only [bareTopic, TopicRecord.mk.injEq] at bare
  simp_all

/-- The endpoints and the name and type of a topic determine its record. -/
theorem Consistent.record_unique (first : Consistent before) (last : Consistent after)
    (publishers : after.publishers = before.publishers) (subscribers : after.subscribers = before.subscribers)
    (found : after.topics[topicId]? = some topic) (stored : before.topics[topicId]? = some old)
    (bare : bareTopic topic = bareTopic old) : topic = old := by
  have publisher : topic.publisherEndpoint = old.publisherEndpoint := by
    apply Option.ext
    intro endpoint
    have now := last.publisherTopics endpoint topicId
    have formerly := first.publisherTopics endpoint topicId
    simp only [found, stored, publishers, Option.some.injEq, exists_eq_left'] at now formerly
    rw [← now, ← formerly]
  have listed : topic.subscriberEndpoints = old.subscriberEndpoints := by
    apply ExtTreeSet.ext_mem
    intro endpoint
    have now := last.subscriberTopics endpoint topicId
    have formerly := first.subscriberTopics endpoint topicId
    simp only [found, stored, subscribers, Option.some.injEq, exists_eq_left'] at now formerly
    rw [← now, ← formerly]
  have implied := (last.implied topicId topic found).congr publishers.symm subscribers.symm
  have former := first.implied topicId old stored
  refine bareTopic_ext bare ?_ publisher listed ?_
  · exact UInt64.le_antisymm (implied.maximum.2 former.maximum.1) (former.maximum.2 implied.maximum.1)
  · rw [implied.pool, former.pool, attachedPool, attachedPool, publisher]

theorem Consistent.determined (first : Consistent before) (last : Consistent after) (nodes : after.nodes = before.nodes)
    (publishers : after.publishers = before.publishers) (subscribers : after.subscribers = before.subscribers)
    (bare : ∀ (id : UInt64) (old topic : TopicRecord), before.topics[id]? = some old → after.topics[id]? = some topic →
      bareTopic topic = bareTopic old) :
    after.topics = before.topics ∧ after.nodeNames = before.nodeNames ∧ after.topicNames = before.topicNames := by
  have topics : after.topics = before.topics := by
    apply ExtTreeMap.ext_getElem?
    intro id
    have same := @Consistent.topic_exists _ id first
    rw [Sizes, ← publishers, ← subscribers, ← Sizes, ← last.topic_exists] at same
    cases stored : before.topics[id]? with
    | none =>
      cases found : after.topics[id]? with
      | none => rfl
      | some topic => simp [stored, found] at same
    | some old =>
      cases found : after.topics[id]? with
      | none => simp [stored, found] at same
      | some topic =>
        rw [first.record_unique last publishers subscribers found stored (bare id old topic stored found)]
  refine ⟨topics, ?_, ?_⟩
  · have names := last.nodeNames
    rw [nodes] at names
    exact names.unique first.nodeNames
  · have names := last.topicNames
    rw [topics] at names
    exact names.unique first.topicNames

end RobotMiddleware.Proofs.RegistryTopics
