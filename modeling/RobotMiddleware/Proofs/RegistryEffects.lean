import RobotMiddleware.Proofs.NodeRemoval

/-! What each request to the registry does, and that a registry whose counters have
not gone round stays consistent whatever it is asked. -/

namespace RobotMiddleware.Proofs.RegistryEffects
open Std Lib.Index Lib.Outcome RegistryState RegistryCalls RegistryIntegrity RegistryTopics RegistryJoins NodeRemoval

variable {state after : RegistryState} {nodeId connection : UInt64}

/-- A pass over the nodes that leaves their names, ids and endpoints. -/
theorem consistent_mapNodes (consistent : Consistent state) {update : UInt64 → NodeRecord → NodeRecord}
    (name : ∀ id node, (update id node).nodeName = node.nodeName) (own : ∀ id node, (update id node).nodeId = node.nodeId)
    (publishers : ∀ id node, (update id node).publisherEndpoints = node.publisherEndpoints)
    (subscribers : ∀ id node, (update id node).subscriberEndpoints = node.subscriberEndpoints) (metrics : RegistryMetrics) :
    Consistent { state with nodes := state.nodes.map update, metrics } :=
  ⟨consistent.toIntegrity.mapNodes name own publishers subscribers metrics,
    fun id topic stored => (consistent.implied id topic stored).congr rfl rfl⟩

theorem consistent_marked (consistent : Consistent state) (now : Int) : Consistent (marked state now) := by
  refine consistent_mapNodes consistent ?_ ?_ ?_ ?_ _
  all_goals
    intro id node
    split <;> rfl

theorem consistent_detached (consistent : Consistent state) (connection : UInt64) :
    Consistent (state.detachHeartbeatConnection connection) := by
  refine consistent_mapNodes consistent ?_ ?_ ?_ ?_ state.metrics
  all_goals
    intro id node
    split <;> rfl

theorem cleanupDeadNodes_emptied {ids : List UInt64} {plans : List DeadNodeCleanup}
    (done : state.cleanupDeadNodes ids = .ok (plans, after)) : ∃ metrics, emptied after = { emptied state with metrics } := by
  induction ids generalizing state plans with
  | nil =>
    cases done
    exact ⟨_, rfl⟩
  | cons nodeId rest ih =>
    obtain ⟨cleanup, middle, others, first, remaining, _⟩ := cleanupDeadNodes_cons done
    obtain ⟨metrics, same⟩ := ih remaining
    cases cleanupDeadNode_iff.mp first with
    | absent => exact ⟨metrics, same⟩
    | @removed _ _ _ last _ _ unregistered =>
      refine ⟨metrics, same.trans ?_⟩
      rw [← unregisterNode_emptied unregistered]
      rfl

theorem evaluateLiveness_removes (consistent : Consistent state) (now : Int) :
    ∃ update after, state.evaluateLiveness now = .ok (update, after) ∧
      (marked state now).cleanupDeadNodes (expired state now) = .ok (update.deadNodes, after) ∧ Consistent after ∧
      Removes (expired state now) (marked state now) after := by
  obtain ⟨cleanups, after, done, kept, removes⟩ :=
    cleanupDeadNodes_removes (consistent_marked consistent now) (expired state now)
  obtain ⟨suspected, evaluated⟩ : ∃ suspectedNodes,
      state.evaluateLiveness now = .ok ({ suspectedNodes, deadNodes := cleanups }, after) := by
    unfold marked expired at done
    simp only [evaluateLiveness, done, bind, Except.bind]
    exact ⟨_, rfl⟩
  exact ⟨_, after, evaluated, done, kept, removes⟩

theorem disconnectConnection_removes (consistent : Consistent state) (connection : UInt64) :
    ∃ cleanups middle, state.cleanupDeadNodes (connected state connection) = .ok (cleanups, middle) ∧
      Removes (connected state connection) state middle ∧ Consistent middle ∧
      state.disconnectConnection connection =
        .ok (cleanups, if cleanups.isEmpty then middle.detachHeartbeatConnection connection else middle) := by
  obtain ⟨cleanups, middle, done, kept, removes⟩ := cleanupDeadNodes_removes consistent (connected state connection)
  refine ⟨cleanups, middle, done, removes, kept, ?_⟩
  unfold connected at done
  simp only [disconnectConnection, done, bind, Except.bind]
  rfl

theorem consistent_setNode (consistent : Consistent state) {old node : NodeRecord} (found : state.nodes[nodeId]? = some old)
    (name : node.nodeName = old.nodeName) (id : node.nodeId = old.nodeId)
    (publishers : node.publisherEndpoints = old.publisherEndpoints)
    (subscribers : node.subscriberEndpoints = old.subscriberEndpoints) : Consistent (state.setNode nodeId node) :=
  ⟨⟨consistent.toCore.setNode found name id publishers subscribers, consistent.inhabited⟩,
    fun id topic stored => (consistent.implied id topic stored).congr rfl rfl⟩

inductive Effect (state : RegistryState) : RegistryOperation → RegistryState → Prop where
  /-- It was refused, or it only asks. -/
  | nothing (operation : RegistryOperation) : Effect state operation state
  | registered (connection : UInt64) (nodeName : Bytes) (now : Int) :
      Effect state (.registerNode connection nodeName now) (withNode state connection nodeName now)
  | unregistered {connection nodeId : UInt64} {node : NodeRecord} {after : RegistryState}
      (owned : state.ownedNode connection nodeId = some node) (removes : Removes [nodeId] state after) :
      Effect state (.unregisterNode connection nodeId) after
  | attached {connection nodeId sessionId : UInt64} {node : NodeRecord} (found : state.nodes[nodeId]? = some node) :
      Effect state (.attachHeartbeat connection nodeId sessionId)
        (state.setNode nodeId { node with heartbeatConnection := connection })
  | renewed {connection nodeId sessionId : UInt64} {node : NodeRecord} (now : Int)
      (renews : Renews state connection nodeId sessionId node) (metrics : RegistryMetrics) :
      Effect state (.heartbeat connection nodeId sessionId now)
        { state.setNode nodeId { node with lastSeen := now, liveness := .alive } with metrics }
  | evaluated {now : Int} {after : RegistryState} (removes : Removes (expired state now) (marked state now) after) :
      Effect state (.evaluateLiveness now) after
  | disconnected {connection : UInt64} {middle after : RegistryState}
      (removes : Removes (connected state connection) state middle)
      (detached : after = middle ∨ after = middle.detachHeartbeatConnection connection) :
      Effect state (.disconnectConnection connection) after
  | detached (connection : UInt64) :
      Effect state (.detachHeartbeatConnection connection) (state.detachHeartbeatConnection connection)
  | advertised {connection nodeId : UInt64} {topicName typeName typeHash : Bytes} {maxMessageSize : UInt64}
      {transport : TransportType} {pool : SharedPoolMetadata} {result : EndpointResult} {after : RegistryState}
      (done : state.advertise connection nodeId topicName typeName typeHash maxMessageSize transport pool =
        .ok (result, after))
      (accepted : result.error = .ok)
      (joined : Advertised state connection nodeId topicName typeName typeHash maxMessageSize transport pool result after) :
      Effect state (.advertise connection nodeId topicName typeName typeHash maxMessageSize transport pool) after
  | subscribed {connection nodeId : UInt64} {topicName typeName typeHash : Bytes} {maxMessageSize : UInt64}
      {dataSocketPath : Bytes} {transport : TransportType} {queue : SharedQueueMetadata} {result : EndpointResult}
      {after : RegistryState}
      (done : state.subscribe connection nodeId topicName typeName typeHash maxMessageSize dataSocketPath transport queue =
        .ok (result, after))
      (accepted : result.error = .ok)
      (joined : Subscribed state connection nodeId topicName typeName typeHash maxMessageSize dataSocketPath transport queue
        result after) :
      Effect state
        (.subscribe connection nodeId topicName typeName typeHash maxMessageSize dataSocketPath transport queue) after
  | unadvertised {connection nodeId endpointId : UInt64} {node : NodeRecord} {after : RegistryState}
      (owned : state.ownedNode connection nodeId = some node) (withdraws : Withdraws nodeId state after) :
      Effect state (.unadvertise connection nodeId endpointId) after
  | unsubscribed {connection nodeId endpointId : UInt64} {node : NodeRecord} {after : RegistryState}
      (owned : state.ownedNode connection nodeId = some node) (withdraws : Withdraws nodeId state after) :
      Effect state (.unsubscribe connection nodeId endpointId) after

theorem consistent_withNode (consistent : Consistent state) (fresh : Fresh state) {nodeName : Bytes}
    (unknown : state.nodeNames[nodeName]? = none) (connection : UInt64) (now : Int) :
    Consistent (withNode state connection nodeName now) := by
  have core := consistent.toCore.registerNode fresh.node
    { nodeId := state.nextNodeId, sessionId := state.nextSessionId, nodeName, controlConnection := connection, lastSeen := now }
    rfl unknown rfl rfl (state.nextNodeId + 1) (state.nextSessionId + 1)
  exact ⟨⟨core, consistent.inhabited⟩, fun id topic stored => (consistent.implied id topic stored).congr rfl rfl⟩

variable {metrics : RegistryMetrics} {issued : Issued} {operations : List RegistryOperation}

theorem bare_kept (others : ∀ id, id ≠ nodeId → after.nodes[id]? = state.nodes[id]?)
    (same : (after.nodes[nodeId]?).map bareNode = (state.nodes[nodeId]?).map bareNode) {id : UInt64} {node : NodeRecord}
    (found : after.nodes[id]? = some node) : ∃ old, state.nodes[id]? = some old ∧ bareNode old = bareNode node := by
  by_cases here : id = nodeId
  · subst id
    rw [found, Option.map_some, eq_comm, Option.map_eq_some_iff] at same
    exact same
  · rw [others id here] at found
    exact ⟨node, found, rfl⟩

theorem shrinks_of_emptied (same : emptied after = { emptied state with metrics }) (nodes : Remain state after)
    (fewer : Fewer state after) : Shrinks state after := by
  simp only [emptied, RegistryState.mk.injEq] at same
  refine ⟨same.1, same.2.1, same.2.2.1, same.2.2.2.1, nodes, fun id present => ?_, fun id present => ?_, fun id present => ?_⟩
  · obtain ⟨topic, found⟩ := mem_iff_found.mp present
    obtain ⟨old, stored, _⟩ := fewer.topics id topic found
    exact mem_iff_found.mpr ⟨old, stored⟩
  · obtain ⟨publisher, found⟩ := mem_iff_found.mp present
    exact mem_iff_found.mpr ⟨publisher, fewer.publishers id publisher found⟩
  · obtain ⟨subscriber, found⟩ := mem_iff_found.mp present
    exact mem_iff_found.mpr ⟨subscriber, fewer.subscribers id subscriber found⟩

theorem withdraws_shrinks (withdraws : Withdraws nodeId state after) (same : emptied after = emptied state) :
    Shrinks state after := by
  refine shrinks_of_emptied same (fun id node found => ?_) withdraws.fewer
  obtain ⟨old, stored, bare⟩ := bare_kept withdraws.others withdraws.node found
  have session : (bareNode old).sessionId = (bareNode node).sessionId := by rw [bare]
  exact ⟨old, stored, session⟩

theorem removes_shrinks {ids : List UInt64} (removes : Removes ids state after)
    (same : emptied after = { emptied state with metrics }) : Shrinks state after := by
  refine shrinks_of_emptied same (fun id node found => ?_) removes.fewer
  have nodes := removes.nodes id
  grind

theorem shrinks_of_nodes {nodes : ExtTreeMap UInt64 NodeRecord} (remain : Remain state { state with nodes, metrics }) :
    Shrinks state { state with nodes, metrics } :=
  ⟨rfl, rfl, rfl, rfl, remain, fun _ present => present, fun _ present => present, fun _ present => present⟩

theorem setNode_shrinks {old node : NodeRecord} (found : state.nodes[nodeId]? = some old)
    (session : old.sessionId = node.sessionId) :
    Shrinks state { state with nodes := state.nodes.insert nodeId node, metrics } := by
  refine shrinks_of_nodes fun id record stored => ?_
  simp only at stored
  grind

theorem mapNodes_shrinks {update : UInt64 → NodeRecord → NodeRecord}
    (session : ∀ id node, (update id node).sessionId = node.sessionId) :
    Shrinks state { state with nodes := state.nodes.map update, metrics } := by
  refine shrinks_of_nodes fun id node found => ?_
  simp only [ExtTreeMap.getElem?_map, Option.map_eq_some_iff] at found
  obtain ⟨old, stored, rfl⟩ := found
  exact ⟨old, stored, (session id old).symm⟩

theorem withNode_issues {nodeName : Bytes} {now : Int} (given : newNode state (.registerNode connection nodeName now) =
    some { id := state.nextNodeId, sessionId := state.nextSessionId }) :
    Issues state (.registerNode connection nodeName now) (withNode state connection nodeName now) := by
  refine ⟨.inr ⟨by rw [given]; rfl, rfl, fun id present => ?_⟩, .inr ⟨by rw [given]; rfl, rfl, fun id held => ?_⟩,
    .inl ⟨rfl, rfl, fun _ present => present⟩, .inl ⟨rfl, rfl, fun _ present => present⟩⟩
  · simp only [withNode] at present
    grind
  · obtain ⟨nodeId, node, found, rfl⟩ := held
    simp only [withNode, ExtTreeMap.getElem?_insertIfNew] at found
    split at found
    · cases found
      exact .inl rfl
    · exact .inr ⟨nodeId, node, found, rfl⟩

/-- Every request is served and has its effect. It leaves records that their endpoints imply, and takes
at most one id of each kind. -/
theorem perform_total (consistent : Consistent state) (fresh : Fresh state) (operation : RegistryOperation) :
    ∃ after, state.perform operation = .ok after ∧ Consistent after ∧ Issues state operation after ∧
      Effect state operation after := by
  have unchanged (served : state.perform operation = .ok state) (node : newNode state operation = none)
      (endpoint : joining state operation = none) : ∃ after, state.perform operation = .ok after ∧ Consistent after ∧
        Issues state operation after ∧ Effect state operation after :=
    ⟨state, served, consistent, (Shrinks.refl state).issues node endpoint, .nothing operation⟩
  have names (topicName : Bytes) : Known state topicName := by
    intro topicId named
    obtain ⟨topic, found, _⟩ := (consistent.topicNames topicName topicId).mp named
    exact ⟨topic, found⟩
  cases operation with
  | registerNode connection nodeName now =>
    rcases registerNode_cases connection nodeName now with ⟨error, failed, refused⟩ | ⟨unknown, accepted⟩
    · exact unchanged (by rw [perform, refused]) (by rw [newNode, refused]; exact if_neg failed) rfl
    · have given : newNode state (.registerNode connection nodeName now) =
          some { id := state.nextNodeId, sessionId := state.nextSessionId } := by
        rw [newNode, accepted]
        rfl
      exact ⟨_, by rw [perform, accepted], consistent_withNode consistent fresh unknown connection now,
        withNode_issues given, .registered connection nodeName now⟩
  | unregisterNode connection nodeId =>
    cases owned : state.ownedNode connection nodeId with
    | none => exact unchanged (by rw [perform, unregisterNode_iff.mpr (.refused owned)]; rfl) rfl rfl
    | some node =>
      obtain ⟨after, unregistered, kept, removes⟩ := unregisterNode_removes consistent owned
      have same : emptied after = emptied state := unregisterNode_emptied unregistered
      exact ⟨after, by rw [perform, unregistered]; rfl, kept, (removes_shrinks removes same).issues rfl rfl,
        .unregistered owned removes⟩
  | attachHeartbeat connection nodeId sessionId =>
    rcases attachHeartbeat_cases connection nodeId sessionId with refused | ⟨node, found, _, _, _, accepted⟩
    · exact unchanged (by rw [perform, refused]) rfl rfl
    · refine ⟨_, rfl, ?_⟩
      rw [accepted]
      exact ⟨consistent_setNode consistent found rfl rfl rfl rfl, (setNode_shrinks found (by rfl)).issues rfl rfl,
        .attached found⟩
  | heartbeat connection nodeId sessionId now =>
    rcases heartbeat_cases connection nodeId sessionId now with ⟨_, liveness, refused⟩ | ⟨node, renews, accepted⟩
    · exact unchanged (by rw [perform, refused]) rfl rfl
    · have renewed : Consistent (state.setNode nodeId { node with lastSeen := now, liveness := .alive }) :=
        consistent_setNode consistent renews.1 rfl rfl rfl rfl
      refine ⟨_, rfl, ?_⟩
      rw [accepted]
      exact ⟨consistent_withMetrics renewed _, (setNode_shrinks renews.1 (by rfl)).issues rfl rfl, .renewed now renews _⟩
  | evaluateLiveness now =>
    obtain ⟨update, after, evaluated, cleaned, kept, removes⟩ := evaluateLiveness_removes consistent now
    obtain ⟨metrics, same⟩ := cleanupDeadNodes_emptied cleaned
    have marks : Shrinks state (marked state now) := mapNodes_shrinks fun _ _ => by split <;> rfl
    exact ⟨after, by rw [perform, evaluated]; rfl, kept, (marks.trans (removes_shrinks removes same)).issues rfl rfl,
      .evaluated removes⟩
  | disconnectConnection connection =>
    obtain ⟨cleanups, middle, cleaned, removes, kept, disconnected⟩ := disconnectConnection_removes consistent connection
    obtain ⟨metrics, same⟩ := cleanupDeadNodes_emptied cleaned
    have shrinks := removes_shrinks removes same
    have detaches : Shrinks middle (middle.detachHeartbeatConnection connection) :=
      mapNodes_shrinks fun _ _ => by split <;> rfl
    refine ⟨_, by rw [perform, disconnected]; rfl, ?_⟩
    dsimp only
    split
    · exact ⟨consistent_detached kept connection, (shrinks.trans detaches).issues rfl rfl, .disconnected removes (.inr rfl)⟩
    · exact ⟨kept, shrinks.issues rfl rfl, .disconnected removes (.inl rfl)⟩
  | detachHeartbeatConnection connection =>
    exact ⟨_, rfl, consistent_detached consistent connection,
      (mapNodes_shrinks fun _ _ => by split <;> rfl).issues rfl rfl, .detached connection⟩
  | advertise connection nodeId topicName typeName typeHash maxMessageSize transport pool =>
    obtain ⟨result, after, done⟩ :=
      advertise_total (names topicName) connection nodeId typeName typeHash maxMessageSize transport pool
    obtain ⟨kept, issues, ⟨_, rfl⟩ | ⟨accepted, joined⟩⟩ := advertise_joins consistent fresh done
    · exact ⟨after, by rw [perform, done]; rfl, kept, issues, .nothing _⟩
    · exact ⟨after, by rw [perform, done]; rfl, kept, issues, .advertised done accepted joined⟩
  | unadvertise connection nodeId endpointId =>
    obtain ⟨code, after, done, ⟨kept, rfl | ⟨⟨node, owned⟩, withdraws⟩⟩, _⟩ :=
      unadvertise_leaves consistent connection nodeId endpointId
    · exact unchanged (by rw [perform, done]; rfl) rfl rfl
    · exact ⟨after, by rw [perform, done]; rfl, kept, (withdraws_shrinks withdraws (unadvertise_emptied done)).issues rfl rfl,
        .unadvertised owned withdraws⟩
  | subscribe connection nodeId topicName typeName typeHash maxMessageSize dataSocketPath transport queue =>
    obtain ⟨result, after, done⟩ :=
      subscribe_total (names topicName) connection nodeId typeName typeHash maxMessageSize dataSocketPath transport queue
    obtain ⟨kept, issues, ⟨_, rfl⟩ | ⟨accepted, joined⟩⟩ := subscribe_joins consistent fresh done
    · exact ⟨after, by rw [perform, done]; rfl, kept, issues, .nothing _⟩
    · exact ⟨after, by rw [perform, done]; rfl, kept, issues, .subscribed done accepted joined⟩
  | unsubscribe connection nodeId endpointId =>
    obtain ⟨code, after, done, ⟨kept, rfl | ⟨⟨node, owned⟩, withdraws⟩⟩, _⟩ :=
      unsubscribe_leaves consistent connection nodeId endpointId
    · exact unchanged (by rw [perform, done]; rfl) rfl rfl
    · exact ⟨after, by rw [perform, done]; rfl, kept, (withdraws_shrinks withdraws (unsubscribe_emptied done)).issues rfl rfl,
        .unsubscribed owned withdraws⟩
  | resolve connection nodeId publisherEndpointId =>
    obtain ⟨result, done⟩ := resolve_ok consistent.toIntegrity connection nodeId publisherEndpointId
    exact unchanged (by rw [perform, done]; rfl) rfl rfl
  | queryTopic topicName =>
    obtain ⟨result, done⟩ := queryTopic_ok consistent.toIntegrity topicName
    exact unchanged (by rw [perform, done]; rfl) rfl rfl

theorem perform_effect (consistent : Consistent state) (fresh : Fresh state) {operation : RegistryOperation}
    (done : state.perform operation = .ok after) : Consistent after ∧ Effect state operation after := by
  obtain ⟨_, again, kept, _, effect⟩ := perform_total consistent fresh operation
  rw [done] at again
  cases again
  exact ⟨kept, effect⟩

def history {α : Type} (observe : RegistryState → RegistryOperation → Option α) (state : RegistryState) :
    List RegistryOperation → List α
  | [] => []
  | operation :: rest =>
    match state.perform operation with
    | .error _ => []
    | .ok after => (observe state operation).toList ++ history observe after rest

theorem create_consistent {liveness : LivenessConfig} (created : RegistryState.create liveness = .ok state) :
    Consistent state := by
  refine ⟨(create_integrity created).1, fun id topic stored => ?_⟩
  unfold RegistryState.create at created
  split at created
  · cases created
  · cases created
    simp at stored

theorem serve_consistent {last : Issued} (consistent : Consistent state)
    (counted : Counted state issued) (served : serve state issued operations = .ok (after, last)) (few : last.Few) :
    Consistent after ∧ Counted after last := by
  induction operations generalizing state issued with
  | nil =>
    cases served
    exact ⟨consistent, counted⟩
  | cons operation rest ih =>
    have fresh := counted.fresh (serve_few served few)
    obtain ⟨middle, done, kept, issues, _⟩ := perform_total consistent fresh operation
    simp only [serve, done] at served
    exact ih kept (counted.issues issues) served

/-- What was issued and is not registered before is not registered after. -/
def Retires (issued : Issued) (before after : RegistryState) : Prop :=
  (∀ id ∈ issued.nodes, id ∉ before.nodes → id ∉ after.nodes) ∧
    (∀ id ∈ issued.sessions, ¬HasSession before id → ¬HasSession after id) ∧
    (∀ id ∈ issued.topics, id ∉ before.topics → id ∉ after.topics) ∧
    ∀ id ∈ issued.endpoints, ¬(id ∈ before.publishers ∨ id ∈ before.subscribers) →
      ¬(id ∈ after.publishers ∨ id ∈ after.subscribers)

theorem serve_retires {last : Issued} (consistent : Consistent state) (counted : Counted state issued)
    (served : serve state issued operations = .ok (after, last)) (few : last.Few) : Retires issued state after := by
  induction operations generalizing state issued with
  | nil =>
    cases served
    exact ⟨fun _ _ => id, fun _ _ => id, fun _ _ => id, fun _ _ => id⟩
  | cons operation rest ih =>
    obtain ⟨nodes, sessions, topics, endpoints⟩ := serve_few served few
    obtain ⟨middle, done, kept, issues, _⟩ := perform_total consistent (counted.fresh (serve_few served few)) operation
    simp only [serve, done] at served
    obtain ⟨laterNodes, laterSessions, laterTopics, laterEndpoints⟩ := ih kept (counted.issues issues) served
    refine ⟨fun id member gone => laterNodes id (List.mem_append_left _ member) ?_,
      fun id member gone => laterSessions id (List.mem_append_left _ member) ?_,
      fun id member gone => laterTopics id (List.mem_append_left _ member) ?_,
      fun id member gone => laterEndpoints id (List.mem_append_left _ member) ?_⟩
    · exact counted.nodes.retired nodes issues.nodes member gone
    · exact counted.sessions.retired sessions issues.sessions member gone
    · exact counted.topics.retired topics issues.topics member gone
    · exact counted.endpoints.retired endpoints issues.endpoints member gone

/-- A registry that has not used up its ids is consistent, and the next ids are free. -/
theorem reached_consistent {liveness : LivenessConfig} {start : RegistryState}
    (created : RegistryState.create liveness = .ok start)
    (served : serve start {} operations = .ok (state, issued)) (few : issued.Few) : Consistent state ∧ Fresh state := by
  obtain ⟨consistent, counted⟩ := serve_consistent (create_consistent created) (create_integrity created).2 served few
  exact ⟨consistent, counted.fresh few⟩

/-- In every registry that has issued fewer than `2^64 - 1` ids of each kind, the
tables refer to each other exactly, no two answers gave out the same id, and
whatever request comes next is served without an exception. -/
theorem registry_integrity {liveness : LivenessConfig} {start : RegistryState} {operations : List RegistryOperation}
    {issued : Issued} (created : RegistryState.create liveness = .ok start)
    (served : serve start {} operations = .ok (state, issued)) (few : issued.Few) :
    Integrity state ∧
      (issued.nodes.Nodup ∧ issued.sessions.Nodup ∧ issued.topics.Nodup ∧ issued.endpoints.Nodup) ∧
      ∀ operation, ∃ after, state.perform operation = .ok after := by
  obtain ⟨consistent, counted⟩ := serve_consistent (create_consistent created) (create_integrity created).2 served few
  refine ⟨consistent.toIntegrity, ⟨counted.nodes.nodup few.1, counted.sessions.nodup few.2.1, counted.topics.nodup few.2.2.1,
    counted.endpoints.nodup few.2.2.2⟩, fun operation => ?_⟩
  obtain ⟨after, done, _⟩ := perform_total consistent (counted.fresh few) operation
  exact ⟨after, done⟩

/-- A node that advertises a topic and subscribes to it. -/
def sampleRequests : List RegistryOperation :=
  [.registerNode 7 [110] 0, .advertise 7 1 [116] [1] [2] 64 .unixDomainSocket {},
    .subscribe 7 1 [116] [1] [2] 64 [47, 115] .unixDomainSocket {}]

theorem registry_integrity_sample :
    ∃ state, serve { liveness := {} } {} sampleRequests = .ok (state, ⟨[1], [1], [1], [1, 2]⟩) ∧
      Integrity state ∧ [(1 : UInt64), 2].Nodup ∧ ∀ operation, ∃ after, state.perform operation = .ok after := by
  obtain ⟨state, served⟩ : ∃ state, serve { liveness := {} } {} sampleRequests = .ok (state, ⟨[1], [1], [1], [1, 2]⟩) :=
    ⟨_, rfl⟩
  have created : RegistryState.create {} = .ok { liveness := {} } := rfl
  have few : Issued.Few ⟨[1], [1], [1], [1, 2]⟩ := ⟨by decide, by decide, by decide, by decide⟩
  obtain ⟨integrity, ⟨_, _, _, endpoints⟩, total⟩ := registry_integrity created served few
  exact ⟨state, served, integrity, endpoints, total⟩

/-- The id of a removed node, topic or endpoint never comes to mean another one. -/
theorem removed_ids_never_return {liveness : LivenessConfig} {start after : RegistryState}
    {operations later : List RegistryOperation} {issued last : Issued} (created : RegistryState.create liveness = .ok start)
    (served : serve start {} operations = .ok (state, issued)) (continued : serve state issued later = .ok (after, last))
    (few : last.Few) : Retires issued state after := by
  obtain ⟨consistent, counted⟩ :=
    serve_consistent (create_consistent created) (create_integrity created).2 served (serve_few continued few)
  exact serve_retires consistent counted continued few

/-- The node leaves, and another one takes its name. -/
theorem departure_served : ∃ state issued after last,
    serve { liveness := {} } {} (sampleRequests ++ [.unregisterNode 7 1]) = .ok (state, issued) ∧
      serve state issued [.registerNode 7 [110] 0] = .ok (after, last) ∧ last.Few ∧ 1 ∈ issued.nodes ∧ 1 ∉ state.nodes := by
  refine ⟨_, _, _, _, rfl, rfl, ⟨?_, ?_, ?_, ?_⟩, ?_, ?_⟩
  all_goals decide

theorem removed_ids_never_return_sample : ∃ state issued after last,
    serve state issued [.registerNode 7 [110] 0] = .ok (after, last) ∧ 1 ∈ issued.nodes ∧ 1 ∉ after.nodes := by
  obtain ⟨state, issued, after, last, served, continued, few, known, gone⟩ := departure_served
  have created : RegistryState.create {} = .ok { liveness := {} } := rfl
  exact ⟨state, issued, after, last, continued, known,
    (removed_ids_never_return created served continued few).1 1 known gone⟩

end RobotMiddleware.Proofs.RegistryEffects
