import RobotMiddleware.Proofs.CleanupPlans
import RobotMiddleware.Proofs.ServerEffects

/-! What the server queues for the nodes that are left. The plans of one call are
applied once all its nodes are gone, so an event is queued exactly if its target
is left, and every pair of endpoints that shared a topic is named once. -/

namespace RobotMiddleware.Proofs.QueuedEvents
open Std Lib.Index Lib.Loops RegistryServer RegistryState RegistryCalls RegistryIntegrity RegistryTopics NodeRemoval RegistryEffects
  RegisteredEndpoints CleanupPlans CounterWrap ServerEffects

def waiting (server : RegistryServer) (nodeId : UInt64) : List PeerEventRecord := (server.peerEvents[nodeId]?).getD []

variable {server : RegistryServer} {nodeId : UInt64}

@[simp] theorem addPeerEvent_state (event : PeerEventRecord) : (server.addPeerEvent event).state = server.state := by
  unfold addPeerEvent
  split <;> rfl

@[simp] theorem addPeerEvents_state (events : List PeerEventRecord) :
    (events.foldl addPeerEvent server).state = server.state := by
  induction events generalizing server with
  | nil => rfl
  | cons event rest ih => rw [List.foldl_cons, ih, addPeerEvent_state]

/-- An event goes to its target only, and only if that is registered. -/
theorem addPeerEvent_other (event : PeerEventRecord) (other : event.targetNodeId ≠ nodeId ∨ nodeId ∉ server.state.nodes) :
    (server.addPeerEvent event).peerEvents[nodeId]? = server.peerEvents[nodeId]? := by
  unfold addPeerEvent
  split
  · rfl
  next known =>
    simp only [Bool.not_eq_true', Bool.not_eq_false] at known
    have different : event.targetNodeId ≠ nodeId := by
      rcases other with different | absent
      · exact different
      · rintro rfl
        exact absent (ExtTreeMap.contains_iff_mem.mp known)
    simp [ExtTreeMap.getElem?_insert, different]

theorem waiting_addPeerEvent {event : PeerEventRecord} (known : event.targetNodeId ∈ server.state.nodes)
    (room : (waiting server event.targetNodeId).length ≠ kMaxEventsPerNode) :
    waiting (server.addPeerEvent event) event.targetNodeId = waiting server event.targetNodeId ++ [event] := by
  unfold waiting at room
  simp [waiting, addPeerEvent, ExtTreeMap.contains_iff_mem.mpr known, room]

theorem waiting_grows (server : RegistryServer) (event : PeerEventRecord) (nodeId : UInt64) :
    (waiting server nodeId).length ≤ (waiting (server.addPeerEvent event) nodeId).length := by
  by_cases target : event.targetNodeId = nodeId ∧ nodeId ∈ server.state.nodes
  · obtain ⟨rfl, known⟩ := target
    by_cases full : ((server.peerEvents[event.targetNodeId]?).getD []).length = kMaxEventsPerNode
    · simp [waiting, addPeerEvent, ExtTreeMap.contains_iff_mem.mpr known, full, kMaxEventsPerNode]
    · rw [waiting_addPeerEvent known full]
      simp
  · have other : event.targetNodeId ≠ nodeId ∨ nodeId ∉ server.state.nodes := by
      rw [← not_and_or]
      exact target
    rw [waiting, waiting, addPeerEvent_other event other]

theorem waiting_grow (events : List PeerEventRecord) (nodeId : UInt64) :
    (waiting server nodeId).length ≤ (waiting (events.foldl addPeerEvent server) nodeId).length := by
  induction events generalizing server with
  | nil => exact Nat.le_refl _
  | cons event rest ih => exact (waiting_grows server event nodeId).trans ih

theorem waiting_addPeerEvents (events : List PeerEventRecord) (known : nodeId ∈ server.state.nodes)
    (room : (waiting (events.foldl addPeerEvent server) nodeId).length < kMaxEventsPerNode) :
    waiting (events.foldl addPeerEvent server) nodeId =
      waiting server nodeId ++ events.filter fun event => event.targetNodeId == nodeId := by
  induction events generalizing server with
  | nil => simp
  | cons event rest ih =>
    rw [List.foldl_cons] at room ⊢
    rw [ih (by rwa [addPeerEvent_state]) room]
    have before : (waiting server nodeId).length < kMaxEventsPerNode :=
      calc (waiting server nodeId).length ≤ (waiting (server.addPeerEvent event) nodeId).length := waiting_grows server event nodeId
        _ ≤ (waiting (rest.foldl addPeerEvent (server.addPeerEvent event)) nodeId).length := waiting_grow rest nodeId
        _ < kMaxEventsPerNode := room
    by_cases target : event.targetNodeId = nodeId
    · subst nodeId
      rw [waiting_addPeerEvent known (Nat.ne_of_lt before)]
      simp
    · rw [waiting, addPeerEvent_other event (.inl target)]
      simp [waiting, target]

theorem addPeerEvents_absent (events : List PeerEventRecord) (absent : nodeId ∉ server.state.nodes) :
    (events.foldl addPeerEvent server).peerEvents[nodeId]? = server.peerEvents[nodeId]? := by
  induction events generalizing server with
  | nil => rfl
  | cons event rest ih => rw [List.foldl_cons, ih (by rwa [addPeerEvent_state]), addPeerEvent_other event (.inr absent)]

theorem applyCleanup_tables (server : RegistryServer) (plan : DeadNodeCleanup) :
    (server.applyCleanup plan).state = server.state ∧
      (server.applyCleanup plan).peerEvents = (plan.peerEvents.foldl addPeerEvent server).peerEvents.erase plan.nodeId := by
  obtain ⟨state, events, _⟩ := cleanupPending_effect
    { plan.peerEvents.foldl addPeerEvent server with
      peerEvents := (plan.peerEvents.foldl addPeerEvent server).peerEvents.erase plan.nodeId }
  exact ⟨state.trans (addPeerEvents_state _), events⟩

theorem closeCleanupConnections_tables (server : RegistryServer) (plan : DeadNodeCleanup) (exceptFd : Option Nat) :
    (server.closeCleanupConnections plan exceptFd).state = server.state ∧
      (server.closeCleanupConnections plan exceptFd).peerEvents = server.peerEvents := by
  refine @foldl_keeps _ _ _ _ (fun now : RegistryServer => now.state = server.state ∧ now.peerEvents = server.peerEvents) _
    (fun now connection _ same => ?_) ⟨rfl, rfl⟩
  unfold closeConnection
  split
  · exact same
  · split
    · exact same
    · split
      · exact same
      · unfold dropClient
        split <;> exact same

theorem applyCleanups_cons (server : RegistryServer) (plan : DeadNodeCleanup) (rest : List DeadNodeCleanup)
    (exceptFd : Option Nat) : server.applyCleanups (plan :: rest) exceptFd =
      ((server.applyCleanup plan).closeCleanupConnections plan exceptFd).applyCleanups rest exceptFd := rfl

theorem cleaned_tables (server : RegistryServer) (plan : DeadNodeCleanup) (exceptFd : Option Nat) :
    ((server.applyCleanup plan).closeCleanupConnections plan exceptFd).state = server.state ∧
      ((server.applyCleanup plan).closeCleanupConnections plan exceptFd).peerEvents =
        (plan.peerEvents.foldl addPeerEvent server).peerEvents.erase plan.nodeId := by
  obtain ⟨state, events⟩ := applyCleanup_tables server plan
  obtain ⟨same, kept⟩ := closeCleanupConnections_tables (server.applyCleanup plan) plan exceptFd
  exact ⟨same.trans state, kept.trans events⟩

theorem applyCleanups_state (server : RegistryServer) (plans : List DeadNodeCleanup) (exceptFd : Option Nat) :
    (server.applyCleanups plans exceptFd).state = server.state := by
  induction plans generalizing server with
  | nil => rfl
  | cons plan rest ih => rw [applyCleanups_cons, ih, (cleaned_tables server plan exceptFd).1]

/-- The plans are applied one after the other, and a node that is left gets the events of all of them. -/
theorem waiting_applyCleanups (plans : List DeadNodeCleanup) (exceptFd : Option Nat) (known : nodeId ∈ server.state.nodes)
    (left : nodeId ∉ plans.map (·.nodeId))
    (room : (waiting (server.applyCleanups plans exceptFd) nodeId).length < kMaxEventsPerNode) :
    waiting (server.applyCleanups plans exceptFd) nodeId =
      waiting server nodeId ++ (plans.flatMap (·.peerEvents)).filter fun event => event.targetNodeId == nodeId := by
  induction plans generalizing server with
  | nil => simp [applyCleanups]
  | cons plan rest ih =>
    rw [List.map_cons, List.mem_cons, not_or] at left
    obtain ⟨other, others⟩ := left
    obtain ⟨state, events⟩ := cleaned_tables server plan exceptFd
    have first : waiting ((server.applyCleanup plan).closeCleanupConnections plan exceptFd) nodeId =
        waiting (plan.peerEvents.foldl addPeerEvent server) nodeId := by
      rw [waiting, events, ExtTreeMap.getElem?_erase, if_neg]
      · rfl
      · rw [Std.compare_eq_iff_eq]
        exact Ne.symm other
    rw [applyCleanups_cons] at room ⊢
    have next := ih (by rwa [state]) others room
    have fits : (waiting (plan.peerEvents.foldl addPeerEvent server) nodeId).length < kMaxEventsPerNode := by
      rw [← first]
      refine Nat.lt_of_le_of_lt ?_ room
      rw [next, List.length_append]
      exact Nat.le_add_right _ _
    rw [next, first, waiting_addPeerEvents plan.peerEvents known fits, List.flatMap_cons, List.filter_append, List.append_assoc]

theorem applyCleanups_absent (plans : List DeadNodeCleanup) (exceptFd : Option Nat) (absent : nodeId ∉ server.state.nodes) :
    (server.applyCleanups plans exceptFd).peerEvents[nodeId]? =
      if nodeId ∈ plans.map (·.nodeId) then none else server.peerEvents[nodeId]? := by
  induction plans generalizing server with
  | nil => simp [applyCleanups]
  | cons plan rest ih =>
    obtain ⟨state, events⟩ := cleaned_tables server plan exceptFd
    rw [applyCleanups_cons, ih (by rwa [state]), events, ExtTreeMap.getElem?_erase, addPeerEvents_absent _ absent]
    by_cases same : plan.nodeId = nodeId
    · simp [same]
    · simp [same, Ne.symm same]

inductive Batch where
  | expiry (now : Int)
  | disconnection (connection : UInt64)
  deriving DecidableEq, Repr

def removeBatch (state : RegistryState) : Batch → Except Exception (List DeadNodeCleanup × RegistryState)
  | .expiry now => (fun result => (result.1.deadNodes, result.2)) <$> state.evaluateLiveness now
  | .disconnection connection => state.disconnectConnection connection

/-- The plan of a node lists exactly what the node has. -/
structure Exact (state : RegistryState) (plan : DeadNodeCleanup) : Prop where
  node : ∃ node, state.nodes[plan.nodeId]? = some node ∧ plan.sessionId = node.sessionId ∧
    plan.controlConnection = node.controlConnection ∧ plan.heartbeatConnection = node.heartbeatConnection
  pools : plan.pools.Perm (poolsOf state plan.nodeId)
  queues : plan.queues.Perm (queuesOf state plan.nodeId)
  socketPaths : plan.socketPaths.Perm (pathsOf state plan.nodeId)

/-- An event for a node that is left, about an endpoint that is gone. -/
inductive Due (state after : RegistryState) (nodeId : UInt64) : PeerEventRecord → Prop where
  | publisherDead {dead target : UInt64} {publisher : PublisherEndpoint} {subscriber : SubscriberEndpoint}
      (stood : state.publishers[dead]? = some publisher) (gone : dead ∉ after.publishers)
      (told : after.subscribers[target]? = some subscriber) (mine : subscriber.nodeId = nodeId)
      (shared : subscriber.topicId = publisher.topicId) :
      Due state after nodeId ⟨.publisherDead, nodeId, target, dead, publisher.topicId, publisher.pool.poolId⟩
  | subscriberDead {dead target : UInt64} {publisher : PublisherEndpoint} {subscriber : SubscriberEndpoint}
      (stood : state.subscribers[dead]? = some subscriber) (gone : dead ∉ after.subscribers)
      (told : after.publishers[target]? = some publisher) (mine : publisher.nodeId = nodeId)
      (shared : publisher.topicId = subscriber.topicId) :
      Due state after nodeId ⟨.subscriberDead, nodeId, target, dead, subscriber.topicId, subscriber.queue.queueId⟩

/-- The nodes that are left have been told what is gone, once for each pair of endpoints. -/
structure Notified (state after : RegistryState) (before final : RegistryServer) : Prop where
  left : ∀ nodeId, nodeId ∈ after.nodes → ∃ queued, waiting final nodeId = waiting before nodeId ++ queued ∧
    (queued.map endpoints).Nodup ∧ ∀ event, event ∈ queued ↔ Due state after nodeId event
  absent : ∀ nodeId : UInt64, nodeId ∉ after.nodes →
    final.peerEvents[nodeId]? = if nodeId ∈ state.nodes then none else before.peerEvents[nodeId]?

structure Departs (ids : List UInt64) (before after : RegistryState) : Prop where
  nodes : ∀ id, id ∈ after.nodes ↔ id ∈ before.nodes ∧ id ∉ ids
  publishers : ∀ endpointId : UInt64, after.publishers[endpointId]? =
    (before.publishers[endpointId]?).filter fun publisher => publisher.nodeId ∉ ids
  subscribers : ∀ endpointId : UInt64, after.subscribers[endpointId]? =
    (before.subscribers[endpointId]?).filter fun subscriber => subscriber.nodeId ∉ ids

section Batches
variable {state after : RegistryState} {ids : List UInt64} {plans : List DeadNodeCleanup}

theorem departs_of_removes (removes : Removes ids state after) : Departs ids state after := by
  refine ⟨fun id => ?_, removes.publishers, removes.subscribers⟩
  rw [mem_iff_found, mem_iff_found, removes.nodes]
  split
  next inside => simp [inside]
  next outside => simp [outside]

theorem Departs.publisher_left (departs : Departs ids state after) {endpointId : UInt64} {publisher : PublisherEndpoint} :
    after.publishers[endpointId]? = some publisher ↔
      state.publishers[endpointId]? = some publisher ∧ publisher.nodeId ∉ ids := by
  rw [departs.publishers, Option.filter_eq_some_iff]
  simp

theorem Departs.subscriber_left (departs : Departs ids state after) {endpointId : UInt64} {subscriber : SubscriberEndpoint} :
    after.subscribers[endpointId]? = some subscriber ↔
      state.subscribers[endpointId]? = some subscriber ∧ subscriber.nodeId ∉ ids := by
  rw [departs.subscribers, Option.filter_eq_some_iff]
  simp

theorem Departs.publisher_gone (departs : Departs ids state after) {endpointId : UInt64} {publisher : PublisherEndpoint}
    (stood : state.publishers[endpointId]? = some publisher) : endpointId ∉ after.publishers ↔ publisher.nodeId ∈ ids := by
  rw [mem_iff_found, departs.publishers, stood]
  simp [Option.filter_some]

theorem Departs.subscriber_gone (departs : Departs ids state after) {endpointId : UInt64} {subscriber : SubscriberEndpoint}
    (stood : state.subscribers[endpointId]? = some subscriber) : endpointId ∉ after.subscribers ↔ subscriber.nodeId ∈ ids := by
  rw [mem_iff_found, departs.subscribers, stood]
  simp [Option.filter_some]

theorem marked_planned {now : Int} {plan : DeadNodeCleanup} (planned : Planned (marked state now) ids plan) :
    Planned state ids plan := by
  obtain ⟨record, found, resources⟩ := planned.resources
  simp only [marked, ExtTreeMap.getElem?_map, Option.map_eq_some_iff] at found
  obtain ⟨node, stored, rfl⟩ := found
  have same : planOf (marked state now)
      (if newlySuspected state.liveness now node then { node with liveness := .suspected } else node) = planOf state node := by
    split <;> rfl
  have publishers : (marked state now).publishers = state.publishers := rfl
  have subscribers : (marked state now).subscribers = state.subscribers := rfl
  refine ⟨⟨node, stored, ?_⟩, fun event member => (planned.origin event member).congr publishers subscribers,
    fun event due => planned.complete event (due.congr publishers.symm subscribers.symm), planned.once⟩
  rw [← same]
  exact resources

theorem keys_nodup : (state.nodes.toList.map Prod.fst).Nodup := by
  rw [ExtTreeMap.map_fst_toList_eq_keys]
  exact ExtTreeMap.nodup_keys

theorem expired_nodup (core : Core state) (now : Int) : (expired state now).Nodup := by
  have keys : (state.nodes.toList.map Prod.snd).map (·.nodeId) = state.nodes.toList.map Prod.fst := by
    rw [List.map_map]
    refine List.map_congr_left fun entry member => ?_
    exact core.nodeIds _ _ (ExtTreeMap.mem_toList_iff_getElem?_eq_some.mp member)
  refine List.Nodup.sublist (List.filter_sublist.map _) ?_
  rw [keys]
  exact keys_nodup

theorem connected_nodup (connection : UInt64) : (connected state connection).Nodup :=
  List.Nodup.sublist (List.filter_sublist.map _) keys_nodup

theorem removeBatch_plans (consistent : Consistent state) (sound : Sound state) (batch : Batch) :
    ∃ ids plans after, removeBatch state batch = .ok (plans, after) ∧ plans.map (·.nodeId) = ids ∧ ids.Nodup ∧
      (∀ id ∈ ids, id ∈ state.nodes) ∧ Departs ids state after ∧ ∀ plan ∈ plans, Planned state ids plan := by
  cases batch with
  | expiry now =>
    have marks := consistent_marked consistent now
    have known : ∀ id ∈ expired state now, id ∈ (marked state now).nodes := by
      intro id member
      obtain ⟨node, stored, _⟩ := (mem_expired consistent.nodeIds).mp member
      simpa [marked] using mem_iff_found.mpr ⟨node, stored⟩
    obtain ⟨plans, after, done, names, planned⟩ := cleanupDeadNodes_plans marks ⟨sound.publishers, sound.subscribers, sound.apart⟩
      (expired_nodup consistent.toCore now) known
    obtain ⟨update, last, evaluated, cleaned, _, removes⟩ := evaluateLiveness_removes consistent now
    rw [done] at cleaned
    cases cleaned
    have departs := departs_of_removes removes
    refine ⟨expired state now, update.deadNodes, after, ?_, names, expired_nodup consistent.toCore now, fun id member => ?_,
      ⟨fun id => ?_, departs.publishers, departs.subscribers⟩, fun plan member => marked_planned (planned plan member)⟩
    · rw [removeBatch, evaluated]
      rfl
    · simpa [marked] using known id member
    · rw [departs.nodes]
      simp [marked]
  | disconnection connection =>
    have known : ∀ id ∈ connected state connection, id ∈ state.nodes := by
      intro id member
      obtain ⟨node, stored, _⟩ := mem_connected.mp member
      exact mem_iff_found.mpr ⟨node, stored⟩
    obtain ⟨plans, after, done, names, planned⟩ := cleanupDeadNodes_plans consistent sound (connected_nodup connection) known
    obtain ⟨cleanups, middle, cleaned, removes, _, disconnected⟩ := disconnectConnection_removes consistent connection
    rw [done] at cleaned
    cases cleaned
    have departs := departs_of_removes removes
    refine ⟨connected state connection, plans, _, disconnected, names, connected_nodup connection, known, ?_, planned⟩
    split
    · refine ⟨fun id => ?_, departs.publishers, departs.subscribers⟩
      rw [← departs.nodes]
      simp [detachHeartbeatConnection]
    · exact departs

theorem mem_queued (departs : Departs ids state after) (names : plans.map (·.nodeId) = ids)
    (planned : ∀ plan ∈ plans, Planned state ids plan) (left : nodeId ∈ after.nodes) {event : PeerEventRecord} :
    (event ∈ (plans.flatMap (·.peerEvents)).filter fun event => event.targetNodeId == nodeId) ↔ Due state after nodeId event := by
  have outside := ((departs.nodes nodeId).mp left).2
  have plan_of {id : UInt64} (member : id ∈ ids) : ∃ plan ∈ plans, plan.nodeId = id := by
    rw [← names] at member
    exact List.mem_map.mp member
  simp only [List.mem_filter, List.mem_flatMap, beq_iff_eq]
  constructor
  · rintro ⟨⟨plan, member, inside⟩, rfl⟩
    have removed : plan.nodeId ∈ ids := names ▸ List.mem_map_of_mem member
    have due := (planned plan member).origin event inside
    cases due with
    | publisherDead stood mine told shared =>
      exact .publisherDead stood ((departs.publisher_gone stood).mpr (mine ▸ removed))
        (departs.subscriber_left.mpr ⟨told, outside⟩) rfl shared
    | subscriberDead stood mine told shared =>
      exact .subscriberDead stood ((departs.subscriber_gone stood).mpr (mine ▸ removed))
        (departs.publisher_left.mpr ⟨told, outside⟩) rfl shared
  · intro due
    cases due with
    | publisherDead stood gone told mine shared =>
      subst nodeId
      obtain ⟨plan, member, named⟩ := plan_of ((departs.publisher_gone stood).mp gone)
      refine ⟨⟨plan, member, (planned plan member).complete _ ?_ outside⟩, rfl⟩
      exact .publisherDead stood named.symm (departs.subscriber_left.mp told).1 shared
    | subscriberDead stood gone told mine shared =>
      subst nodeId
      obtain ⟨plan, member, named⟩ := plan_of ((departs.subscriber_gone stood).mp gone)
      refine ⟨⟨plan, member, (planned plan member).complete _ ?_ outside⟩, rfl⟩
      exact .subscriberDead stood named.symm (departs.publisher_left.mp told).1 shared

theorem events_once (sound : Sound state) (names : plans.map (·.nodeId) = ids) (distinct : ids.Nodup)
    (planned : ∀ plan ∈ plans, Planned state ids plan) : ((plans.flatMap (·.peerEvents)).map endpoints).Nodup := by
  rw [List.map_flatMap, List.nodup_flatMap]
  refine ⟨fun plan member => (planned plan member).once, ?_⟩
  have apart : plans.Pairwise fun first last => first.nodeId ≠ last.nodeId := by
    rw [← names] at distinct
    exact List.pairwise_map.mp distinct
  refine apart.imp_of_mem fun first last different pair one other => different ?_
  obtain ⟨event, inside, rfl⟩ := List.mem_map.mp one
  obtain ⟨another, within, same⟩ := List.mem_map.mp other
  exact ((planned _ first).origin event inside).node_unique sound ((planned _ last).origin another within)
    (congrArg Prod.snd same).symm

theorem exact_of_planned (core : Core state) (sound : Sound state) {plan : DeadNodeCleanup}
    (planned : Planned state ids plan) : Exact state plan := by
  obtain ⟨node, found, resources⟩ := planned.resources
  refine ⟨⟨node, found, ?_⟩, ?_, ?_, ?_⟩
  · rw [resources]
    exact ⟨rfl, rfl, rfl⟩
  · have pools := planOf_pools core found sound
    rwa [show plan.pools = (planOf state node).pools by rw [resources]]
  · have queues := planOf_queues core found sound
    rwa [show plan.queues = (planOf state node).queues by rw [resources]]
  · have paths := planOf_socketPaths core found
    rwa [show plan.socketPaths = (planOf state node).socketPaths by rw [resources]]

/-- In every registry that has issued fewer than `2^64 - 1` ids of each kind, a call that
removes nodes returns a plan for each of them, the plans list what the nodes have,
and once they are applied every node that is left has been told. -/
theorem cleanup_exact {liveness : LivenessConfig} {start : RegistryState} {operations : List RegistryOperation}
    {issued : Issued} (created : RegistryState.create liveness = .ok start)
    (served : serve start {} operations = .ok (state, issued)) (few : issued.Few) (batch : Batch) :
    ∃ plans after, removeBatch state batch = .ok (plans, after) ∧ (plans.map (·.nodeId)).Nodup ∧
      (∀ id, id ∈ plans.map (·.nodeId) ↔ id ∈ state.nodes ∧ id ∉ after.nodes) ∧ (∀ plan ∈ plans, Exact state plan) ∧
      ∀ (server : RegistryServer) (exceptFd : Option Nat), server.state = after →
        (∀ id ∈ after.nodes, (waiting (server.applyCleanups plans exceptFd) id).length < kMaxEventsPerNode) →
        Notified state after server (server.applyCleanups plans exceptFd) := by
  obtain ⟨consistent, _⟩ := reached_consistent created served few
  have sound := sound_of_registered (reached_registered created served few)
  obtain ⟨ids, plans, after, done, names, distinct, known, departs, planned⟩ := removeBatch_plans consistent sound batch
  have removed (id : UInt64) : id ∈ ids ↔ id ∈ state.nodes ∧ id ∉ after.nodes := by
    rw [departs.nodes]
    exact ⟨fun member => ⟨known id member, fun left => left.2 member⟩, fun gone => by_contra fun outside => gone.2 ⟨gone.1, outside⟩⟩
  refine ⟨plans, after, done, names ▸ distinct, fun id => ?_, fun plan member =>
    exact_of_planned consistent.toCore sound (planned plan member), fun server exceptFd same room => ⟨fun id left => ?_, fun id absent => ?_⟩⟩
  · rw [names]
    exact removed id
  · have outside : id ∉ plans.map (·.nodeId) := by
      rw [names, removed]
      exact fun gone => gone.2 left
    refine ⟨_, waiting_applyCleanups plans exceptFd (same ▸ left) outside (room id left), ?_, fun event => ?_⟩
    · exact (events_once sound names distinct planned).sublist (List.filter_sublist.map _)
    · exact mem_queued departs names planned left
  · rw [applyCleanups_absent plans exceptFd (same ▸ absent), names]
    simp only [removed, absent, not_false_eq_true, and_true]

end Batches

/-- A publisher and a subscriber on one topic, over two connections. -/
def pairRequests : List RegistryOperation :=
  [.registerNode 7 [97] 0, .advertise 7 1 [116] [1] [2] 64 .sharedMemory samplePool, .registerNode 8 [98] 0,
    .subscribe 8 2 [116] [1] [2] 64 [47, 120] .sharedMemory ⟨[47, 113], 9, 4096, 4, 3, 1, 5⟩]

def pair : RegistryState := ((serve { liveness := {} } {} pairRequests).toOption.map Prod.fst).getD { liveness := {} }

set_option maxRecDepth 4000 in
theorem pair_served : ∃ issued, serve { liveness := {} } {} pairRequests = .ok (pair, issued) ∧ issued.Few := by
  refine ⟨_, rfl, ?_, ?_, ?_, ?_⟩
  all_goals decide

/-- The subscriber is told that the publisher is gone, and nobody else is left. -/
theorem pair_told : ∃ plans after, removeBatch pair (.disconnection 7) = .ok (plans, after) ∧ after.nodes.keys = [2] ∧
    waiting (applyCleanups { state := after } plans none) 2 = [⟨.publisherDead, 2, 2, 1, 1, 5⟩] :=
  ⟨_, _, rfl, by decide, by decide⟩

theorem cleanup_exact_pair : ∃ plans after, removeBatch pair (.disconnection 7) = .ok (plans, after) ∧
    (∀ plan ∈ plans, Exact pair plan) ∧
    Notified pair after { state := after } (applyCleanups { state := after } plans none) := by
  obtain ⟨issued, served, few⟩ := pair_served
  have created : RegistryState.create {} = .ok { liveness := {} } := rfl
  obtain ⟨plans, after, done, _, _, exact, notified⟩ := cleanup_exact created served few (.disconnection 7)
  obtain ⟨_, _, again, nodes, told⟩ := pair_told
  rw [done] at again
  cases again
  refine ⟨plans, after, done, exact, notified { state := after } none rfl fun id left => ?_⟩
  rw [← ExtTreeMap.mem_keys, nodes, List.mem_singleton] at left
  rw [left, told]
  decide

/-- Once the counters have gone round, the plan of a node can list the pool of another one. -/
theorem cleanup_inexact : ∃ operations state issued plans after,
    serve { liveness := {} } {} operations = .ok (state, issued) ∧
      removeBatch state (.disconnection 8) = .ok (plans, after) ∧ ¬∀ plan ∈ plans, Exact state plan := by
  obtain ⟨operations, issued, metrics, served⟩ := overwritten_reached
  obtain ⟨plan, after, done, pools, none⟩ : ∃ plan after,
      removeBatch (overwritten metrics) (.disconnection 8) = .ok ([plan], after) ∧ plan.pools = [samplePool] ∧
      poolsOf (overwritten metrics) plan.nodeId = [] := ⟨_, _, rfl, rfl, rfl⟩
  refine ⟨operations, _, issued, [plan], after, served, done, fun exact => ?_⟩
  have listed := (exact plan (by simp)).pools
  rw [pools, none] at listed
  exact absurd listed.length_eq (by decide)

end RobotMiddleware.Proofs.QueuedEvents
