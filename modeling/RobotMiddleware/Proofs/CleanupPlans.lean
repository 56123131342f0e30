import RobotMiddleware.Proofs.RegisteredEndpoints

/-! The plans for the nodes that go in one call. A plan lists the resources of its
node, and an event for every endpoint that shares a topic in the other role. The
plans are made one after the other, but nothing that an earlier one takes away
is missing in a later one, except for events to nodes that go as well. -/

namespace RobotMiddleware.Proofs.CleanupPlans
open Std Lib.Index Lib.Entries Lib.Outcome RegistryState RegistryCalls RegistryIntegrity RegistryTopics NodeRemoval RegistryEffects
  RegisteredEndpoints

/-- Endpoints know their ids, their descriptors fit their transports, and no id is in use twice. -/
structure Sound (state : RegistryState) : Prop where
  publishers : ∀ (endpointId : UInt64) (publisher : PublisherEndpoint), state.publishers[endpointId]? = some publisher →
    publisher.endpointId = endpointId ∧ validPoolMetadata publisher.transport publisher.pool = true
  subscribers : ∀ (endpointId : UInt64) (subscriber : SubscriberEndpoint),
    state.subscribers[endpointId]? = some subscriber →
    subscriber.endpointId = endpointId ∧ validQueueMetadata subscriber.transport subscriber.queue = true
  apart : ∀ endpointId, endpointId ∈ state.publishers → endpointId ∉ state.subscribers

def publisherPools (state : RegistryState) (endpointId : UInt64) : List SharedPoolMetadata :=
  ((state.publishers[endpointId]?).toList.filter fun publisher => !publisher.pool.shmName.isEmpty).map (·.pool)

def publisherEvents (state : RegistryState) (endpointId : UInt64) : List PeerEventRecord :=
  (state.publishers[endpointId]?).toList.flatMap fun publisher =>
    (state.topics[publisher.topicId]?).toList.flatMap fun topic =>
      topic.subscriberEndpoints.toList.filterMap fun subscriberId =>
        (state.subscribers[subscriberId]?).map fun subscriber =>
          { kind := .publisherDead, targetNodeId := subscriber.nodeId, targetEndpointId := subscriberId,
            deadEndpointId := endpointId, topicId := publisher.topicId, resourceId := publisher.pool.poolId }

def subscriberQueues (state : RegistryState) (endpointId : UInt64) : List SharedQueueMetadata :=
  ((state.subscribers[endpointId]?).toList.filter fun subscriber => !subscriber.queue.shmName.isEmpty).map (·.queue)

def subscriberPaths (state : RegistryState) (endpointId : UInt64) : List Bytes :=
  (state.subscribers[endpointId]?).toList.map (·.dataSocketPath)

def subscriberEvents (state : RegistryState) (endpointId : UInt64) : List PeerEventRecord :=
  (state.subscribers[endpointId]?).toList.flatMap fun subscriber =>
    (state.topics[subscriber.topicId]?).toList.flatMap fun topic =>
      ((topic.publisherEndpoint.bind fun publisherId => state.publishers[publisherId]?).map fun publisher =>
        { kind := .subscriberDead, targetNodeId := publisher.nodeId, targetEndpointId := publisher.endpointId,
          deadEndpointId := endpointId, topicId := subscriber.topicId, resourceId := subscriber.queue.queueId }).toList

def planOf (state : RegistryState) (node : NodeRecord) : DeadNodeCleanup where
  nodeId := node.nodeId
  sessionId := node.sessionId
  controlConnection := node.controlConnection
  heartbeatConnection := node.heartbeatConnection
  pools := node.publisherEndpoints.toList.flatMap (publisherPools state)
  queues := node.subscriberEndpoints.toList.flatMap (subscriberQueues state)
  socketPaths := node.subscriberEndpoints.toList.flatMap (subscriberPaths state)
  peerEvents := node.publisherEndpoints.toList.flatMap (publisherEvents state) ++
    node.subscriberEndpoints.toList.flatMap (subscriberEvents state)

variable {state before after : RegistryState} {nodeId : UInt64} {node : NodeRecord}

theorem cleanupPublisher_eq (integrity : Integrity state) (cleanup : DeadNodeCleanup) (endpointId : UInt64) :
    state.cleanupPublisher cleanup endpointId = .ok { cleanup with
      pools := cleanup.pools ++ publisherPools state endpointId
      peerEvents := cleanup.peerEvents ++ publisherEvents state endpointId } := by
  unfold cleanupPublisher publisherPools publisherEvents
  cases present : state.publishers[endpointId]? with
  | none => simp
  | some publisher =>
    obtain ⟨topic, found, _⟩ := integrity.publisherTopics.holder present
    simp only [mapAt_ok found, found, bind, Except.bind, pure, Except.pure, Option.toList_some, List.flatMap_singleton]
    cases named : publisher.pool.shmName.isEmpty <;> simp [named]

theorem cleanupSubscriber_eq (integrity : Integrity state) (cleanup : DeadNodeCleanup) (endpointId : UInt64) :
    state.cleanupSubscriber cleanup endpointId = .ok { cleanup with
      queues := cleanup.queues ++ subscriberQueues state endpointId
      socketPaths := cleanup.socketPaths ++ subscriberPaths state endpointId
      peerEvents := cleanup.peerEvents ++ subscriberEvents state endpointId } := by
  unfold cleanupSubscriber subscriberQueues subscriberPaths subscriberEvents
  cases present : state.subscribers[endpointId]? with
  | none => simp
  | some subscriber =>
    obtain ⟨topic, found, _⟩ := integrity.subscriberTopics.holder present
    simp only [mapAt_ok found, found, bind, Except.bind, pure, Except.pure, Option.toList_some, List.flatMap_singleton,
      List.map_singleton]
    cases named : subscriber.queue.shmName.isEmpty <;> simp [named]

theorem cleanupPublishers_eq (integrity : Integrity state) (endpoints : List UInt64) (cleanup : DeadNodeCleanup) :
    endpoints.foldlM state.cleanupPublisher cleanup = .ok { cleanup with
      pools := cleanup.pools ++ endpoints.flatMap (publisherPools state)
      peerEvents := cleanup.peerEvents ++ endpoints.flatMap (publisherEvents state) } := by
  induction endpoints generalizing cleanup with
  | nil => simp [pure, Except.pure]
  | cons endpointId rest ih =>
    rw [List.foldlM_cons, cleanupPublisher_eq integrity]
    simp only [bind, Except.bind, ih, List.flatMap_cons, List.append_assoc]

theorem cleanupSubscribers_eq (integrity : Integrity state) (endpoints : List UInt64) (cleanup : DeadNodeCleanup) :
    endpoints.foldlM state.cleanupSubscriber cleanup = .ok { cleanup with
      queues := cleanup.queues ++ endpoints.flatMap (subscriberQueues state)
      socketPaths := cleanup.socketPaths ++ endpoints.flatMap (subscriberPaths state)
      peerEvents := cleanup.peerEvents ++ endpoints.flatMap (subscriberEvents state) } := by
  induction endpoints generalizing cleanup with
  | nil => simp [pure, Except.pure]
  | cons endpointId rest ih =>
    rw [List.foldlM_cons, cleanupSubscriber_eq integrity]
    simp only [bind, Except.bind, ih, List.flatMap_cons, List.append_assoc]

theorem cleanupDeadNode_plan (consistent : Consistent state) (found : state.nodes[nodeId]? = some node) :
    ∃ after, state.cleanupDeadNode nodeId = .ok (some (planOf state node), after) ∧ Consistent after ∧
      Removes [nodeId] state after := by
  obtain ⟨cleanup, after, done, kept, removes⟩ := cleanupDeadNode_removes consistent nodeId
  refine ⟨after, ?_, kept, removes⟩
  rw [done]
  simp only [cleanupDeadNode, found, cleanupPublishers_eq consistent.toIntegrity,
    cleanupSubscribers_eq consistent.toIntegrity] at done
  obtain ⟨first, published, done⟩ := bind_ok done
  cases published
  obtain ⟨second, subscribed, done⟩ := bind_ok done
  cases subscribed
  obtain ⟨last, _, done⟩ := bind_ok done
  cases done
  simp [planOf]

/-- An event for an endpoint about one of this node's that shares its topic in the other role. -/
inductive Peers (state : RegistryState) (nodeId : UInt64) : PeerEventRecord → Prop where
  | publisherDead {dead target : UInt64} {publisher : PublisherEndpoint} {subscriber : SubscriberEndpoint}
      (gone : state.publishers[dead]? = some publisher) (mine : publisher.nodeId = nodeId)
      (told : state.subscribers[target]? = some subscriber) (shared : subscriber.topicId = publisher.topicId) :
      Peers state nodeId ⟨.publisherDead, subscriber.nodeId, target, dead, publisher.topicId, publisher.pool.poolId⟩
  | subscriberDead {dead target : UInt64} {publisher : PublisherEndpoint} {subscriber : SubscriberEndpoint}
      (gone : state.subscribers[dead]? = some subscriber) (mine : subscriber.nodeId = nodeId)
      (told : state.publishers[target]? = some publisher) (shared : publisher.topicId = subscriber.topicId) :
      Peers state nodeId ⟨.subscriberDead, publisher.nodeId, target, dead, subscriber.topicId, subscriber.queue.queueId⟩

variable {event : PeerEventRecord}

theorem Peers.congr (publishers : before.publishers = after.publishers)
    (subscribers : before.subscribers = after.subscribers) (due : Peers before nodeId event) : Peers after nodeId event
    := by
  cases due with
  | publisherDead gone mine told shared => exact .publisherDead (publishers ▸ gone) mine (subscribers ▸ told) shared
  | subscriberDead gone mine told shared => exact .subscriberDead (subscribers ▸ gone) mine (publishers ▸ told) shared

theorem mem_publisherEvents (core : Core state) {endpointId : UInt64} :
    event ∈ publisherEvents state endpointId ↔ ∃ (publisher : PublisherEndpoint) (target : UInt64) (subscriber : SubscriberEndpoint),
      state.publishers[endpointId]? = some publisher ∧ state.subscribers[target]? = some subscriber ∧
      subscriber.topicId = publisher.topicId ∧
      event = ⟨.publisherDead, subscriber.nodeId, target, endpointId, publisher.topicId, publisher.pool.poolId⟩ := by
  simp only [publisherEvents, List.mem_flatMap, Option.mem_toList, List.mem_filterMap, Option.map_eq_some_iff,
    ExtTreeSet.mem_toList]
  constructor
  · rintro ⟨publisher, present, topic, found, target, listed, subscriber, stored, rfl⟩
    obtain ⟨record, again, mine⟩ := (core.subscriberTopics.iff found).mp listed
    rw [stored] at again
    cases again
    exact ⟨publisher, target, subscriber, present, stored, mine, rfl⟩
  · rintro ⟨publisher, target, subscriber, present, stored, shared, rfl⟩
    obtain ⟨topic, found, _⟩ := core.subscriberTopics.holder stored
    have listed := (core.subscriberTopics.iff found).mpr ⟨subscriber, stored, rfl⟩
    rw [shared] at found
    exact ⟨publisher, present, topic, found, target, listed, subscriber, stored, rfl⟩

theorem mem_subscriberEvents (core : Core state) (sound : Sound state) {endpointId : UInt64} :
    event ∈ subscriberEvents state endpointId ↔ ∃ (subscriber : SubscriberEndpoint) (target : UInt64) (publisher : PublisherEndpoint),
      state.subscribers[endpointId]? = some subscriber ∧ state.publishers[target]? = some publisher ∧
      publisher.topicId = subscriber.topicId ∧
      event = ⟨.subscriberDead, publisher.nodeId, target, endpointId, subscriber.topicId, subscriber.queue.queueId⟩ := by
  simp only [subscriberEvents, List.mem_flatMap, Option.mem_toList, Option.map_eq_some_iff, Option.bind_eq_some_iff]
  constructor
  · rintro ⟨subscriber, present, topic, found, publisher, ⟨target, attached, stored⟩, rfl⟩
    obtain ⟨record, again, mine⟩ := (core.publisherTopics.iff found).mp attached
    rw [stored] at again
    cases again
    rw [(sound.publishers target publisher stored).1]
    exact ⟨subscriber, target, publisher, present, stored, mine, rfl⟩
  · rintro ⟨subscriber, target, publisher, present, stored, shared, rfl⟩
    obtain ⟨topic, found, _⟩ := core.publisherTopics.holder stored
    have attached := (core.publisherTopics.iff found).mpr ⟨publisher, stored, rfl⟩
    rw [shared] at found
    refine ⟨subscriber, present, topic, found, publisher, ⟨target, attached, stored⟩, ?_⟩
    rw [(sound.publishers target publisher stored).1]

theorem mem_planEvents (core : Core state) (sound : Sound state) (found : state.nodes[nodeId]? = some node) : event ∈
    (planOf state node).peerEvents ↔ Peers state nodeId event := by
  simp only [planOf, List.mem_append, List.mem_flatMap, ExtTreeSet.mem_toList, core.publisherNodes.iff found,
    core.subscriberNodes.iff found, mem_publisherEvents core, mem_subscriberEvents core sound]
  constructor
  · rintro (⟨dead, ⟨publisher, gone, mine⟩, _, target, subscriber, again, told, shared, rfl⟩ |
      ⟨dead, ⟨subscriber, gone, mine⟩, _, target, publisher, again, told, shared, rfl⟩)
    · rw [gone] at again
      cases again
      exact .publisherDead gone mine told shared
    · rw [gone] at again
      cases again
      exact .subscriberDead gone mine told shared
  · intro due
    cases due with
    | @publisherDead dead target publisher subscriber gone mine told shared =>
      exact .inl ⟨dead, ⟨publisher, gone, mine⟩, publisher, target, subscriber, gone, told, shared, rfl⟩
    | @subscriberDead dead target publisher subscriber gone mine told shared =>
      exact .inr ⟨dead, ⟨subscriber, gone, mine⟩, subscriber, target, publisher, gone, told, shared, rfl⟩

def endpoints (event : PeerEventRecord) : UInt64 × UInt64 := (event.targetEndpointId, event.deadEndpointId)

theorem publisherEvents_once (state : RegistryState) (endpointId : UInt64) :
    ((publisherEvents state endpointId).map endpoints).Nodup := by
  unfold publisherEvents
  cases state.publishers[endpointId]? with
  | none => exact List.nodup_nil
  | some publisher =>
    simp only [Option.toList_some, List.flatMap_singleton]
    cases state.topics[publisher.topicId]? with
    | none => exact List.nodup_nil
    | some topic =>
      simp only [Option.toList_some, List.flatMap_singleton, List.map_filterMap, Option.map_map]
      refine List.Nodup.filterMap ?_ (nodup_members _)
      intro first second pair held also
      obtain ⟨_, _, rfl⟩ := Option.map_eq_some_iff.mp held
      obtain ⟨_, _, same⟩ := Option.map_eq_some_iff.mp also
      exact (congrArg Prod.fst same).symm

theorem subscriberEvents_once (state : RegistryState) (endpointId : UInt64) :
    ((subscriberEvents state endpointId).map endpoints).Nodup := by
  unfold subscriberEvents
  cases state.subscribers[endpointId]? with
  | none => exact List.nodup_nil
  | some subscriber =>
    simp only [Option.toList_some, List.flatMap_singleton]
    cases state.topics[subscriber.topicId]? with
    | none => exact List.nodup_nil
    | some topic =>
      simp only [Option.toList_some, List.flatMap_singleton]
      cases topic.publisherEndpoint.bind fun publisherId => state.publishers[publisherId]? with
      | none => exact List.nodup_nil
      | some => exact List.nodup_singleton _

theorem nodup_flatMap_dead {ids : List UInt64} {events : UInt64 → List PeerEventRecord} (distinct : ids.Nodup)
    (once : ∀ id, ((events id).map endpoints).Nodup)
    (about : ∀ id, ∀ event ∈ events id, event.deadEndpointId = id) : ((ids.flatMap events).map endpoints).Nodup := by
  rw [List.map_flatMap, List.nodup_flatMap]
  refine ⟨fun id _ => once id, distinct.imp fun different pair first last => different ?_⟩
  obtain ⟨event, member, rfl⟩ := List.mem_map.mp first
  obtain ⟨other, present, same⟩ := List.mem_map.mp last
  rw [← about _ event member, ← about _ other present]
  exact (congrArg Prod.snd same).symm

theorem planEvents_once (core : Core state) (sound : Sound state) (node : NodeRecord) :
    ((planOf state node).peerEvents.map endpoints).Nodup := by
  have publishers (id : UInt64) : ∀ event ∈ publisherEvents state id, event.deadEndpointId = id ∧ id ∈ state.publishers := by
    intro event member
    obtain ⟨publisher, _, _, gone, _, _, rfl⟩ := (mem_publisherEvents core).mp member
    exact ⟨rfl, mem_iff_found.mpr ⟨publisher, gone⟩⟩
  have subscribers (id : UInt64) : ∀ event ∈ subscriberEvents state id, event.deadEndpointId = id ∧ id ∈ state.subscribers := by
    intro event member
    obtain ⟨subscriber, _, _, gone, _, _, rfl⟩ := (mem_subscriberEvents core sound).mp member
    exact ⟨rfl, mem_iff_found.mpr ⟨subscriber, gone⟩⟩
  simp only [planOf, List.map_append, List.nodup_append]
  refine ⟨nodup_flatMap_dead (nodup_members _) (publisherEvents_once state) fun id event member => (publishers id event member).1,
    nodup_flatMap_dead (nodup_members _) (subscriberEvents_once state) fun id event member => (subscribers id event member).1, ?_⟩
  -- An endpoint has one role.
  intro pair first other last same
  subst other
  obtain ⟨event, member, rfl⟩ := List.mem_map.mp first
  obtain ⟨id, _, inside⟩ := List.mem_flatMap.mp member
  obtain ⟨another, present, same⟩ := List.mem_map.mp last
  obtain ⟨key, _, within⟩ := List.mem_flatMap.mp present
  obtain ⟨dead, published⟩ := publishers id event inside
  obtain ⟨gone, subscribed⟩ := subscribers key another within
  have one : key = id := by rw [← dead, ← gone]; exact congrArg Prod.snd same
  exact sound.apart id published (one ▸ subscribed)

theorem Sound.fewer (sound : Sound before) (fewer : Fewer before after) : Sound after where
  publishers endpoint publisher stored := sound.publishers endpoint publisher (fewer.publishers endpoint publisher stored)
  subscribers endpoint subscriber stored :=
    sound.subscribers endpoint subscriber (fewer.subscribers endpoint subscriber stored)
  apart endpoint published subscribed := by
    obtain ⟨publisher, stored⟩ := mem_iff_found.mp published
    obtain ⟨subscriber, present⟩ := mem_iff_found.mp subscribed
    exact sound.apart endpoint (mem_iff_found.mpr ⟨publisher, fewer.publishers endpoint publisher stored⟩)
      (mem_iff_found.mpr ⟨subscriber, fewer.subscribers endpoint subscriber present⟩)

theorem sound_of_registered {calls : List (UInt64 × RegistryOperation)} {issued : Issued}
    (registered : Registered calls state issued) : Sound state where
  publishers endpoint publisher stored :=
    ⟨(registered.publishers endpoint publisher stored).1, (registered.publishers endpoint publisher stored).2.1⟩
  subscribers endpoint subscriber stored :=
    ⟨(registered.subscribers endpoint subscriber stored).1, (registered.subscribers endpoint subscriber stored).2.1⟩
  apart endpoint published subscribed := by
    obtain ⟨publisher, stored⟩ := mem_iff_found.mp published
    obtain ⟨subscriber, present⟩ := mem_iff_found.mp subscribed
    obtain ⟨_, _, _, _, _, advertised⟩ := registered.publishers endpoint publisher stored
    obtain ⟨_, _, _, _, _, listed⟩ := registered.subscribers endpoint subscriber present
    cases (only_call registered.distinct advertised).mp listed

section Earlier
variable {ids : List UInt64}

theorem planOf_resources (consistent : Consistent before) (removes : Removes ids before after) (outside : nodeId ∉ ids)
    (found : before.nodes[nodeId]? = some node) (events : List PeerEventRecord) :
    { planOf after node with peerEvents := events } = { planOf before node with peerEvents := events } := by
  have publishers : ∀ endpoint ∈ node.publisherEndpoints.toList, after.publishers[endpoint]? = before.publishers[endpoint]? := by
    intro endpoint member
    obtain ⟨publisher, stored, mine⟩ := (consistent.publisherNodes.iff found).mp (ExtTreeSet.mem_toList.mp member)
    rw [removes.publishers.kept stored (mine ▸ outside), stored]
  have subscribers : ∀ endpoint ∈ node.subscriberEndpoints.toList,
      after.subscribers[endpoint]? = before.subscribers[endpoint]? := by
    intro endpoint member
    obtain ⟨subscriber, stored, mine⟩ := (consistent.subscriberNodes.iff found).mp (ExtTreeSet.mem_toList.mp member)
    rw [removes.subscribers.kept stored (mine ▸ outside), stored]
  have pools : node.publisherEndpoints.toList.flatMap (publisherPools after) =
      node.publisherEndpoints.toList.flatMap (publisherPools before) :=
    List.flatMap_congr fun endpoint member => by rw [publisherPools, publishers endpoint member]; rfl
  have queues : node.subscriberEndpoints.toList.flatMap (subscriberQueues after) =
      node.subscriberEndpoints.toList.flatMap (subscriberQueues before) :=
    List.flatMap_congr fun endpoint member => by rw [subscriberQueues, subscribers endpoint member]; rfl
  have paths : node.subscriberEndpoints.toList.flatMap (subscriberPaths after) =
      node.subscriberEndpoints.toList.flatMap (subscriberPaths before) :=
    List.flatMap_congr fun endpoint member => by rw [subscriberPaths, subscribers endpoint member]; rfl
  simp only [planOf, pools, queues, paths]

theorem peers_removes (removes : Removes ids before after) (outside : nodeId ∉ ids) :
    Peers after nodeId event ↔ Peers before nodeId event ∧ event.targetNodeId ∉ ids := by
  constructor
  · intro due
    cases due with
    | publisherDead gone mine told shared =>
      obtain ⟨present, left⟩ := removes.subscribers.former told
      exact ⟨.publisherDead (removes.publishers.former gone).1 mine present shared, left⟩
    | subscriberDead gone mine told shared =>
      obtain ⟨present, left⟩ := removes.publishers.former told
      exact ⟨.subscriberDead (removes.subscribers.former gone).1 mine present shared, left⟩
  · rintro ⟨due, left⟩
    cases due with
    | publisherDead gone mine told shared =>
      exact .publisherDead (removes.publishers.kept gone (mine ▸ outside)) mine (removes.subscribers.kept told left) shared
    | subscriberDead gone mine told shared =>
      exact .subscriberDead (removes.subscribers.kept gone (mine ▸ outside)) mine (removes.publishers.kept told left) shared

end Earlier

theorem Peers.node_unique (sound : Sound state) {other : UInt64} {another : PeerEventRecord}
    (first : Peers state nodeId event) (last : Peers state other another)
    (same : event.deadEndpointId = another.deadEndpointId) : nodeId = other := by
  cases first with
  | publisherDead gone mine =>
    cases last with
    | publisherDead stood own =>
      simp only at same
      rw [same, stood] at gone
      cases gone
      exact mine.symm.trans own
    | subscriberDead stood own =>
      simp only at same
      rw [same] at gone
      exact absurd (mem_iff_found.mpr ⟨_, stood⟩) (sound.apart _ (mem_iff_found.mpr ⟨_, gone⟩))
  | subscriberDead gone mine =>
    cases last with
    | publisherDead stood own =>
      simp only at same
      rw [same] at gone
      exact absurd (mem_iff_found.mpr ⟨_, gone⟩) (sound.apart _ (mem_iff_found.mpr ⟨_, stood⟩))
    | subscriberDead stood own =>
      simp only at same
      rw [same, stood] at gone
      cases gone
      exact mine.symm.trans own

/-- A plan for one of several nodes that go together. -/
structure Planned (state : RegistryState) (ids : List UInt64) (plan : DeadNodeCleanup) : Prop where
  resources : ∃ node, state.nodes[plan.nodeId]? = some node ∧ plan = { planOf state node with peerEvents := plan.peerEvents }
  origin : ∀ event ∈ plan.peerEvents, Peers state plan.nodeId event
  complete : ∀ event, Peers state plan.nodeId event → event.targetNodeId ∉ ids → event ∈ plan.peerEvents
  once : (plan.peerEvents.map endpoints).Nodup

theorem planOf_planned (core : Core state) (sound : Sound state) (found : state.nodes[nodeId]? = some node)
    (ids : List UInt64) : Planned state ids (planOf state node) := by
  have own : (planOf state node).nodeId = nodeId := core.nodeIds nodeId node found
  refine ⟨⟨node, by rw [own, found], rfl⟩, fun event member => ?_, fun event due _ => ?_, planEvents_once core sound node⟩
  · rw [own]
    exact (mem_planEvents core sound found).mp member
  · rw [own] at due
    exact (mem_planEvents core sound found).mpr due

theorem Planned.earlier {ids more : List UInt64} {plan : DeadNodeCleanup} (consistent : Consistent before)
    (removes : Removes ids before after) (planned : Planned after more plan) (outside : plan.nodeId ∉ ids) :
    Planned before (ids ++ more) plan := by
  obtain ⟨node, found, resources⟩ := planned.resources
  rw [removes.nodes, if_neg outside] at found
  refine ⟨⟨node, found, ?_⟩, fun event member => ?_, fun event due spared => ?_, planned.once⟩
  · rw [← planOf_resources consistent removes outside found]
    exact resources
  · exact ((peers_removes removes outside).mp (planned.origin event member)).1
  · rw [List.mem_append, not_or] at spared
    exact planned.complete event ((peers_removes removes outside).mpr ⟨due, spared.1⟩) spared.2

theorem cleanupDeadNodes_plans (consistent : Consistent state) (sound : Sound state) {ids : List UInt64}
    (distinct : ids.Nodup) (known : ∀ id ∈ ids, id ∈ state.nodes) :
    ∃ plans after, state.cleanupDeadNodes ids = .ok (plans, after) ∧ plans.map (·.nodeId) = ids ∧
      ∀ plan ∈ plans, Planned state ids plan := by
  induction ids generalizing state with
  | nil => exact ⟨[], state, rfl, rfl, by simp⟩
  | cons nodeId rest ih =>
    obtain ⟨absent, others⟩ := List.nodup_cons.mp distinct
    obtain ⟨node, found⟩ := mem_iff_found.mp (known nodeId (by simp))
    obtain ⟨middle, done, kept, removes⟩ := cleanupDeadNode_plan consistent found
    have remain : ∀ id ∈ rest, id ∈ middle.nodes := by
      intro id member
      obtain ⟨record, stored⟩ := mem_iff_found.mp (known id (by simp [member]))
      refine mem_iff_found.mpr ⟨record, ?_⟩
      rw [removes.nodes, if_neg, stored]
      rintro single
      rw [List.mem_singleton] at single
      exact absent (single ▸ member)
    obtain ⟨plans, after, finished, names, each⟩ := ih kept (sound.fewer removes.fewer) others remain
    refine ⟨planOf state node :: plans, after, ?_, ?_, ?_⟩
    · simp only [cleanupDeadNodes, done, finished, bind, Except.bind]
      rfl
    · rw [List.map_cons, names]
      exact congrArg (· :: rest) (consistent.nodeIds nodeId node found)
    · simp only [List.mem_cons, forall_eq_or_imp]
      refine ⟨planOf_planned consistent.toCore sound found _, fun plan member => ?_⟩
      refine (each plan member).earlier consistent removes ?_
      have inside : plan.nodeId ∈ rest := names ▸ List.mem_map_of_mem member
      rw [List.mem_singleton]
      exact fun same => absent (same ▸ inside)

def poolsOf (state : RegistryState) (nodeId : UInt64) : List SharedPoolMetadata :=
  ((state.publishers.toList.map Prod.snd).filter fun publisher =>
    publisher.nodeId == nodeId && publisher.transport == .sharedMemory).map (·.pool)

def queuesOf (state : RegistryState) (nodeId : UInt64) : List SharedQueueMetadata :=
  ((state.subscribers.toList.map Prod.snd).filter fun subscriber =>
    subscriber.nodeId == nodeId && subscriber.transport == .sharedMemory).map (·.queue)

def pathsOf (state : RegistryState) (nodeId : UInt64) : List Bytes :=
  ((state.subscribers.toList.map Prod.snd).filter fun subscriber => subscriber.nodeId == nodeId).map (·.dataSocketPath)

theorem name_nonempty {name : Bytes} (valid : isValidSharedMemoryName name = true) : name.isEmpty = false := by
  cases name with
  | nil => simp [isValidSharedMemoryName] at valid
  | cons => rfl

theorem pool_named {transport : TransportType} {pool : SharedPoolMetadata} (valid : validPoolMetadata transport pool = true) :
    (!pool.shmName.isEmpty) = (transport == .sharedMemory) := by
  cases transport with
  | unixDomainSocket =>
    simp only [validPoolMetadata, Bool.and_eq_true] at valid
    rw [valid.1.1.1]
    rfl
  | sharedMemory =>
    simp only [validPoolMetadata, Bool.and_eq_true] at valid
    rw [name_nonempty valid.1.1.1]
    rfl

theorem queue_named {transport : TransportType} {queue : SharedQueueMetadata}
    (valid : validQueueMetadata transport queue = true) : (!queue.shmName.isEmpty) = (transport == .sharedMemory) := by
  cases transport with
  | unixDomainSocket =>
    simp only [validQueueMetadata, Bool.and_eq_true] at valid
    rw [valid.1.1.1.1.1.1]
    rfl
  | sharedMemory =>
    simp only [validQueueMetadata, Bool.and_eq_true] at valid
    rw [name_nonempty valid.1.1.1.1.1.1.1]
    rfl

section Resources
variable (core : Core state) (found : state.nodes[nodeId]? = some node)
include core found

theorem publishers_listed : (node.publisherEndpoints.toList.flatMap fun endpointId => (state.publishers[endpointId]?).toList).Perm
    ((state.publishers.toList.map Prod.snd).filter fun publisher => publisher.nodeId == nodeId) := by
  rw [← List.filterMap_eq_flatMap_toList]
  refine filterMap_members fun endpoint => ?_
  simpa using core.publisherNodes.iff found

theorem subscribers_listed :
    (node.subscriberEndpoints.toList.flatMap fun endpointId => (state.subscribers[endpointId]?).toList).Perm
    ((state.subscribers.toList.map Prod.snd).filter fun subscriber => subscriber.nodeId == nodeId) := by
  rw [← List.filterMap_eq_flatMap_toList]
  refine filterMap_members fun endpoint => ?_
  simpa using core.subscriberNodes.iff found

theorem planOf_pools (sound : Sound state) : (planOf state node).pools.Perm (poolsOf state nodeId) := by
  have pools := ((publishers_listed core found).filter fun publisher => !publisher.pool.shmName.isEmpty).map (·.pool)
  rw [List.filter_flatMap, List.map_flatMap, List.filter_filter] at pools
  refine pools.trans (.of_eq (congrArg _ (List.filter_congr fun publisher member => ?_)))
  obtain ⟨⟨endpoint, _⟩, stored, rfl⟩ := List.mem_map.mp member
  have valid := (sound.publishers endpoint _ (ExtTreeMap.mem_toList_iff_getElem?_eq_some.mp stored)).2
  rw [pool_named valid, Bool.and_comm]

theorem planOf_queues (sound : Sound state) : (planOf state node).queues.Perm (queuesOf state nodeId) := by
  have queues := ((subscribers_listed core found).filter fun subscriber => !subscriber.queue.shmName.isEmpty).map (·.queue)
  rw [List.filter_flatMap, List.map_flatMap, List.filter_filter] at queues
  refine queues.trans (.of_eq (congrArg _ (List.filter_congr fun subscriber member => ?_)))
  obtain ⟨⟨endpoint, _⟩, stored, rfl⟩ := List.mem_map.mp member
  have valid := (sound.subscribers endpoint _ (ExtTreeMap.mem_toList_iff_getElem?_eq_some.mp stored)).2
  rw [queue_named valid, Bool.and_comm]

theorem planOf_socketPaths : (planOf state node).socketPaths.Perm (pathsOf state nodeId) := by
  have paths := (subscribers_listed core found).map (·.dataSocketPath)
  rw [List.map_flatMap] at paths
  exact paths

end Resources

end RobotMiddleware.Proofs.CleanupPlans
