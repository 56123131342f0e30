import RobotMiddleware.Proofs.PendingDiscoveries
import RobotMiddleware.Proofs.QueuedEvents
import RobotMiddleware.RegistrySession

/-! A run of the server is a run of the registry: an action makes at most one of
the registry's calls. So as long as no counter goes round, what holds of every
registry holds of the server's. -/

namespace RobotMiddleware.Proofs.ServerOperations
open Std Lib.Outcome Lib.Numbering RegistryServer RegistryState RegistryCalls RegistryIntegrity RegistryTopics NodeRemoval RegistryEffects RegisteredEndpoints
  CleanupPlans ServerEffects PendingDiscoveries QueuedEvents

section Actions
variable {server next : RegistryServer} {action : ServerAction}

theorem act_calls (done : act server action = some next) : Calls server.state next.state := by
  cases act_cases done with
  | accepted | moved | unknown => exact .inl rfl
  | requested found handled => exact (handleFrame_effect handled).2.calls
  | refused => exact .inl (by simp [refuseInput])
  | @removed fd client plans state found called =>
    rw [applyCleanups_state]
    exact calls_ok (.disconnectConnection client.connectionId) called rfl
  | @expired now update state called =>
    rw [applyCleanups_state]
    exact calls_ok (.evaluateLiveness now) called rfl

end Actions

structure Onward (before after : RegistryState) : Prop where
  nodes : before.nextNodeId ≤ after.nextNodeId
  sessions : before.nextSessionId ≤ after.nextSessionId
  topics : before.nextTopicId ≤ after.nextTopicId
  endpoints : before.nextEndpointId ≤ after.nextEndpointId

instance (before after : RegistryState) : Decidable (Onward before after) :=
  decidable_of_iff (before.nextNodeId ≤ after.nextNodeId ∧ before.nextSessionId ≤ after.nextSessionId ∧
    before.nextTopicId ≤ after.nextTopicId ∧ before.nextEndpointId ≤ after.nextEndpointId)
    ⟨fun ⟨nodes, sessions, topics, endpoints⟩ => ⟨nodes, sessions, topics, endpoints⟩,
      fun onward => ⟨onward.nodes, onward.sessions, onward.topics, onward.endpoints⟩⟩

structure Reliable (state : RegistryState) (issued : Issued) : Prop where
  consistent : Consistent state
  counted : Counted state issued
  few : issued.Few
  registered : ∃ calls, Registered calls state issued

structure Gone (state : RegistryState) (issued : Issued) (endpointId : UInt64) : Prop where
  issued : endpointId ∈ issued.endpoints
  publisher : endpointId ∉ state.publishers
  subscriber : endpointId ∉ state.subscribers

section Registries
variable {state after : RegistryState} {issued : Issued} {operation : RegistryOperation}

theorem create_reliable {liveness : LivenessConfig} (created : RegistryState.create liveness = .ok state) :
    Reliable state {} := by
  have few : (({} : Issued)).Few := by
    refine ⟨?_, ?_, ?_, ?_⟩
    all_goals decide
  have served : serve state {} [] = .ok (state, {}) := rfl
  exact ⟨create_consistent created, (create_integrity created).2, few, _, reached_registered created served few⟩

theorem perform_reliable (reliable : Reliable state issued) (done : state.perform operation = .ok after)
    (onward : Onward state after) : Reliable after (issued.record state operation) := by
  obtain ⟨consistent, counted, few, calls, registered⟩ := reliable
  have fresh := counted.fresh few
  obtain ⟨middle, again, _, issues, _⟩ := perform_total consistent fresh operation
  rw [done] at again
  cases again
  have later := counted.issues issues
  have still : (issued.record state operation).Few :=
    ⟨counted.nodes.still_few later.nodes few.1 onward.nodes, counted.sessions.still_few later.sessions few.2.1 onward.sessions,
      counted.topics.still_few later.topics few.2.2.1 onward.topics,
      counted.endpoints.still_few later.endpoints few.2.2.2 onward.endpoints⟩
  exact ⟨(RegistryEffects.perform_effect consistent fresh done).1, later, still, _,
    perform_registered registered consistent counted few done later⟩

/-- An endpoint that is gone does not come back, since its id is not issued again. -/
theorem perform_gone (reliable : Reliable state issued) (done : state.perform operation = .ok after) {endpointId : UInt64}
    (gone : Gone state issued endpointId) : Gone after (issued.record state operation) endpointId := by
  obtain ⟨middle, again, _, issues, _⟩ := perform_total reliable.consistent (reliable.counted.fresh reliable.few) operation
  rw [done] at again
  cases again
  have absent := reliable.counted.endpoints.retired reliable.few.2.2.2 issues.endpoints gone.issued
    (not_or.mpr ⟨gone.publisher, gone.subscriber⟩)
  rw [not_or] at absent
  exact ⟨List.mem_append_left _ gone.issued, absent.1, absent.2⟩

end Registries

section Removals
variable {state after : RegistryState} {plans : List DeadNodeCleanup} {nodeId : UInt64}

/-- What is queued for a node that is left, when others go. -/
structure Announced (state after : RegistryState) (events : List PeerEventRecord) : Prop where
  once : (events.map endpoints).Nodup
  stood : ∀ event ∈ events, event.deadEndpointId ∈ state.publishers ∨ event.deadEndpointId ∈ state.subscribers
  gone : ∀ event ∈ events, event.deadEndpointId ∉ after.publishers ∧ event.deadEndpointId ∉ after.subscribers

theorem announced_none : Announced state after [] := ⟨List.nodup_nil, by simp, by simp⟩

theorem removeBatch_announced (consistent : Consistent state) (sound : Sound state) {batch : Batch}
    (done : removeBatch state batch = .ok (plans, after)) (left : nodeId ∈ after.nodes) :
    nodeId ∉ plans.map (·.nodeId) ∧
      Announced state after ((plans.flatMap (·.peerEvents)).filter fun event => event.targetNodeId == nodeId) := by
  obtain ⟨ids, _, _, again, names, distinct, _, departs, planned⟩ := removeBatch_plans consistent sound batch
  rw [done] at again
  cases again
  have fewerPublishers {endpointId : UInt64} (present : endpointId ∈ after.publishers) : endpointId ∈ state.publishers := by
    obtain ⟨publisher, found⟩ := Lib.Index.mem_iff_found.mp present
    exact Lib.Index.mem_iff_found.mpr ⟨publisher, (departs.publisher_left.mp found).1⟩
  have fewerSubscribers {endpointId : UInt64} (present : endpointId ∈ after.subscribers) : endpointId ∈ state.subscribers := by
    obtain ⟨subscriber, found⟩ := Lib.Index.mem_iff_found.mp present
    exact Lib.Index.mem_iff_found.mpr ⟨subscriber, (departs.subscriber_left.mp found).1⟩
  refine ⟨names ▸ ((departs.nodes nodeId).mp left).2,
    (events_once sound names distinct planned).sublist (List.filter_sublist.map _), fun event queued => ?_, fun event queued => ?_⟩
  · cases (mem_queued departs names planned left).mp queued with
    | publisherDead stood => exact .inl (Lib.Index.mem_iff_found.mpr ⟨_, stood⟩)
    | subscriberDead stood => exact .inr (Lib.Index.mem_iff_found.mpr ⟨_, stood⟩)
  · cases (mem_queued departs names planned left).mp queued with
    | publisherDead stood gone =>
      exact ⟨gone, fun present => sound.apart _ (Lib.Index.mem_iff_found.mpr ⟨_, stood⟩) (fewerSubscribers present)⟩
    | subscriberDead stood gone =>
      exact ⟨fun present => sound.apart _ (fewerPublishers present) (Lib.Index.mem_iff_found.mpr ⟨_, stood⟩), gone⟩

end Removals

section Runs
variable {server next : RegistryServer} {issued : Issued} {action : ServerAction} {nodeId : UInt64}

theorem Reliable.sound {state : RegistryState} (reliable : Reliable state issued) : Sound state := by
  obtain ⟨calls, registered⟩ := reliable.registered
  exact sound_of_registered registered

/-- What an action keeps of a registry whose counters have not gone round. -/
theorem act_reliable (reliable : Reliable server.state issued) (done : act server action = some next)
    (onward : Onward server.state next.state) :
    ∃ later, Reliable next.state later ∧ (∀ endpointId ∈ issued.endpoints, endpointId ∈ later.endpoints) ∧
      ∀ endpointId, Gone server.state issued endpointId → Gone next.state later endpointId := by
  rcases act_calls done with same | ⟨operation, performed⟩
  · rw [same]
    exact ⟨issued, reliable, fun _ member => member, fun _ gone => gone⟩
  · exact ⟨_, perform_reliable reliable performed onward, fun _ member => List.mem_append_left _ member,
      fun _ gone => perform_gone reliable performed gone⟩

/-- A heartbeat for the node that the registry accepts. -/
def Accepted (server : RegistryServer) (nodeId : UInt64) : ServerAction → Prop
  | .request fd frame now => ∃ client sessionId, server.clients[fd]? = some client ∧
      requestOf frame = some (.heartbeat nodeId sessionId) ∧
      (server.state.heartbeat client.connectionId nodeId sessionId now).1.error = .ok
  | _ => False

/-- Nothing is taken from the list of a node but by a heartbeat, as long as it is
registered. -/
theorem request_waiting {connection : UInt64} {now : Int} {request : Option Request} (consistent : Consistent server.state)
    (serves : Serves connection now request server next) (stays : nodeId ∈ next.state.nodes)
    (refused : ∀ sessionId, request = some (.heartbeat nodeId sessionId) →
      (server.state.heartbeat connection nodeId sessionId now).1.error ≠ .ok) :
    waiting next nodeId = waiting server nodeId := by
  rcases serves.events nodeId with same | ⟨_, emptied⟩
  · rw [waiting, waiting, same]
  · cases emptied with
    | unregistered done =>
      obtain ⟨after, reached⟩ : ∃ after, after = next.state := ⟨_, rfl⟩
      rw [← reached] at done stays
      cases unregisterNode_iff.mp done with
      | left owned =>
        obtain ⟨_, again, _, removes⟩ := unregisterNode_removes consistent owned
        rw [done] at again
        cases again
        rw [Lib.Index.mem_iff_found, removes.nodes] at stays
        simp at stays
    | heartbeat sessionId accepted => exact absurd accepted (refused sessionId rfl)

theorem act_waiting (reliable : Reliable server.state issued) (done : act server action = some next)
    (stays : nodeId ∈ next.state.nodes) (room : (waiting next nodeId).length < kMaxEventsPerNode)
    (refused : ¬Accepted server nodeId action) :
    waiting next nodeId = waiting server nodeId ++ server.eventsFor action nodeId ∧
      Announced server.state next.state (server.eventsFor action nodeId) := by
  have quiet (same : waiting next nodeId = waiting server nodeId) (none : server.cleanupsOf action = []) :
      waiting next nodeId = waiting server nodeId ++ server.eventsFor action nodeId ∧
        Announced server.state next.state (server.eventsFor action nodeId) := by
    have nothing : server.eventsFor action nodeId = [] := by rw [eventsFor, none]; rfl
    rw [nothing, List.append_nil]
    exact ⟨same, announced_none⟩
  cases act_cases done with
  | accepted | moved => exact quiet rfl rfl
  | @requested fd frame now client _ found handled =>
    obtain ⟨calls, tended, events⟩ := (handleFrame_effect handled).2
    refine quiet (@request_waiting server next nodeId client.connectionId now _ reliable.consistent ⟨calls, tended, events⟩ stays
      fun sessionId asked accepted => ?_) rfl
    exact refused ⟨client, sessionId, found, asked, accepted⟩
  | refused => exact quiet (by simp [waiting, refuseInput]) rfl
  | unknown absent => exact quiet rfl (by simp [cleanupsOf, absent])
  | @removed fd client plans state found called =>
    have applied : server.cleanupsOf (.remove fd) = plans := by simp [cleanupsOf, found, called, Except.toOption]
    rw [applyCleanups_state] at stays
    obtain ⟨left, announced⟩ := removeBatch_announced reliable.consistent reliable.sound
      (show removeBatch server.state (.disconnection client.connectionId) = .ok (plans, state) from called) stays
    rw [eventsFor, applied, applyCleanups_state, waiting_applyCleanups plans (some fd) stays left room]
    refine ⟨?_, announced⟩
    congr 1
    unfold waiting dropClient
    split <;> rfl
  | @expired now update state called =>
    have applied : server.cleanupsOf (.expire now) = update.deadNodes := by simp [cleanupsOf, called, Except.toOption]
    rw [applyCleanups_state] at stays
    have removed : removeBatch server.state (.expiry now) = .ok (update.deadNodes, state) := by
      rw [removeBatch, called]
      rfl
    obtain ⟨left, announced⟩ := removeBatch_announced reliable.consistent reliable.sound removed stays
    rw [eventsFor, applied, applyCleanups_state, waiting_applyCleanups update.deadNodes none stays left room]
    exact ⟨rfl, announced⟩

end Runs

end RobotMiddleware.Proofs.ServerOperations
