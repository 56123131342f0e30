import RobotMiddleware.Proofs.PeerDelivery

/-! Once the endpoint ids have gone round, a second publisher can have the id of one
whose end has been announced. The session then takes the second announcement for
the first one and drops it. -/

namespace RobotMiddleware.Proofs.ReissuedEndpoints
open Std Lib.Index Lib.Loops Lib.Outcome Lib.Transitions RegistryServer RegistryState RegistryCalls RegistryIntegrity RegistryOwnership RegistryTopics
  RegistryEffects NodeFrames CounterWrap QueuedEvents ServerEffects PendingDiscoveries ServerOperations PeerDelivery

structure Idle (server : RegistryServer) : Prop where
  connection : ∃ client, server.clients[9]? = some client ∧ client.connectionId = 9
  pending : server.pending = ∅
  events : server.peerEvents = ∅

/-- The server with other tables in the registry, when it has answered the visitor. -/
def Follows (server : RegistryServer) (state : RegistryState) (next : RegistryServer) : Prop :=
  ∃ client : ClientConnection, client.connectionId = 9 ∧ next = { server with state, clients := server.clients.insert 9 client }

section Requests
variable {server next last : RegistryServer} {state after : RegistryState}

theorem insert_again {β : Type} (map : ExtTreeMap Nat β) (key : Nat) (first last : β) :
    (map.insert key first).insert key last = map.insert key last := by
  refine ExtTreeMap.ext_getElem? fun other => ?_
  grind

theorem Follows.state_eq (follows : Follows server state next) : next.state = state := by
  obtain ⟨_, _, rfl⟩ := follows
  rfl

theorem Follows.idle (follows : Follows server state next) (idle : Idle server) : Idle next := by
  obtain ⟨client, number, rfl⟩ := follows
  exact ⟨⟨client, by simp, number⟩, idle.pending, idle.events⟩

theorem Follows.trans (first : Follows server state next) (second : Follows next after last) : Follows server after last := by
  obtain ⟨client, _, rfl⟩ := first
  obtain ⟨other, number, rfl⟩ := second
  exact ⟨other, number, by rw [insert_again]⟩

theorem queueResponse_follows (idle : Idle server) (state : RegistryState) (requestId : UInt32) (error : ErrorCode) (body : Bytes) :
    Follows server state (queueResponse { server with state } 9 requestId error body) := by
  obtain ⟨client, found, number⟩ := idle.connection
  refine ⟨note (.answered requestId error) { client with output := client.output ++ responseFrame requestId error body }, number, ?_⟩
  simp only [queueResponse, modifyClient, found, setClient]

theorem cleanupPending_idle (idle : server.pending = ∅) : server.cleanupPending = server := by
  rw [cleanupPending, idle]
  rfl

theorem completePending_idle (idle : server.pending = ∅) : server.completePending = .ok server := by
  rw [completePending, idle]
  rfl

end Requests

/-- A session whose node is there, in such a server. -/
structure Ready (system : SessionSystem) : Prop where
  idle : Idle system.server
  registered : system.session.nodeId ∈ system.server.state.nodes
  room : system.session.peerEvents.length < kMaxPendingPeerEvents

/-- The server has got there in steps that do not concern the session, and has other tables. -/
structure Reaches (system : SessionSystem) (state : RegistryState) (server : RegistryServer) : Prop where
  run : ∃ events, execute SessionSystem.step system events = some { system with server } ∧
    Along SessionSystem.step Steady system events
  follows : Follows system.server state server
  registered : system.session.nodeId ∈ state.nodes

section Visits
variable {system : SessionSystem} {server last : RegistryServer} {state after : RegistryState} {nodeId : UInt64}

theorem Reaches.refl (ready : Ready system) : Reaches system system.server.state system.server := by
  obtain ⟨client, found, number⟩ := ready.idle.connection
  refine ⟨⟨[], rfl, trivial⟩, ⟨client, number, ?_⟩, ready.registered⟩
  have still : system.server.clients.insert 9 client = system.server.clients := by
    refine ExtTreeMap.ext_getElem? fun other => ?_
    grind
  rw [still]

theorem Reaches.trans (first : Reaches system state server) (second : Reaches { system with server } after last) :
    Reaches system after last := by
  obtain ⟨⟨events, run, steady⟩, follows, _⟩ := first
  obtain ⟨⟨further, rest, still⟩, more, registered⟩ := second
  refine ⟨⟨events ++ further, ?_, steady.append run still⟩, follows.trans more, registered⟩
  rw [execute_append, run]
  exact rest

theorem Reaches.ready (reaches : Reaches system state server) (ready : Ready system) : Ready { system with server } := by
  refine ⟨reaches.follows.idle ready.idle, ?_, ready.room⟩
  have registered := reaches.registered
  rw [← reaches.follows.state_eq] at registered
  exact registered

/-- A request of the visitor: its frame is noted on the connection and dispatched, and the session's
node is still there. -/
theorem request_reaches {request : Request} (ready : Ready system) (short : request.payload.length ≤ kMaxControlPayloadSize)
    (visitor : ∀ nodeId sessionId, request ≠ .heartbeat nodeId sessionId) (stays : system.session.nodeId ∈ state.nodes)
    (answered : ∀ noted, Idle noted → noted.state = system.server.state →
      ∃ next, noted.perform 9 9 1 0 request = .ok next ∧ Follows noted state next) :
    ∃ server, Reaches system state server := by
  obtain ⟨client, found, number⟩ := ready.idle.connection
  let heard := note (.received (controlFrame request.opcode.value 1 request.payload)) client
  have notes : Follows system.server system.server.state (system.server.setClient 9 heard) := ⟨heard, number, rfl⟩
  obtain ⟨server, performed, follows⟩ := answered _ (notes.idle ready.idle) rfl
  have acted : act system.server (asks 9 1 request) = some server := by
    simp only [act, asks, found, Option.bind_some, receiveFrame, number,
      handleFrame_request (requestOf_request request 1 short)]
    exact congrArg Except.toOption performed
  have taken : system.step (.server (asks 9 1 request)) = some { system with server } := by
    have nothing : system.server.eventsFor (asks 9 1 request) system.session.nodeId = [] := rfl
    rw [SessionSystem.step, acted, nothing, List.append_nil]
    rfl
  have onward := notes.trans follows
  refine ⟨server, ⟨[.server (asks 9 1 request)], by rw [execute, taken]; rfl, ⟨?_, fun next done => ?_, fun next done => ?_⟩,
    fun _ _ => trivial⟩, onward, stays⟩
  · intro action same accepted
    cases same
    obtain ⟨client, sessionId, _, asked, _⟩ := accepted
    rw [requestOf_request request 1 short] at asked
    exact visitor _ _ (Option.some.inj asked)
  · rw [taken] at done
    cases done
    rw [← onward.state_eq] at stays
    exact stays
  · rw [taken] at done
    cases done
    refine ⟨?_, ready.room⟩
    rw [waiting, (onward.idle ready.idle).events]
    exact Nat.zero_lt_succ _

theorem registerNode_reaches (ready : Ready system) :
    ∃ server, Reaches system (system.server.state.registerNode 9 [118] 0).2 server := by
  refine @request_reaches _ _ (.registerNode [118]) ready (by simp [Request.payload, writeString, kMaxControlPayloadSize])
    (by simp) ((registerNode_keeps _ _).1.mem ready.registered) fun noted idle same => ⟨_, rfl, ?_⟩
  rw [← same]
  exact queueResponse_follows idle _ _ _ _

theorem subscribe_reaches (ready : Ready system) {result : EndpointResult}
    (done : system.server.state.subscribe 9 nodeId [118] [1] [1] 0 [47] .unixDomainSocket {} = .ok (result, after)) :
    ∃ server, Reaches system after server := by
  refine @request_reaches _ _ (.subscribeTopic nodeId [118] [1] [1] 0 [47] 1 {}) ready
    (by simp [Request.payload, writeU64, writeU32, writeU16, writeString, kMaxControlPayloadSize]) (by simp)
    ((subscribe_keeps done).1.mem ready.registered) fun noted idle same => ?_
  have known : transportType 1 = some .unixDomainSocket := by decide
  have answered := queueResponse_follows idle after 1 result.error (endpointBody result)
  refine ⟨queueResponse { noted with state := after } 9 1 result.error (endpointBody result), ?_, answered⟩
  rw [RegistryServer.perform, if_neg (by decide), subscribeTopic, known]
  simp only [same, done, bind, Except.bind]
  split
  · rw [completePending_idle (answered.idle idle).pending]
  · rfl

theorem unregisterNode_reaches (ready : Ready system) {error : ErrorCode} (stays : system.session.nodeId ∈ after.nodes)
    (done : system.server.state.unregisterNode 9 nodeId = .ok (error, after)) : ∃ server, Reaches system after server := by
  refine @request_reaches _ _ (.unregisterNode nodeId) ready
    (by simp [Request.payload, writeU64, kMaxControlPayloadSize]) (by simp) stays fun noted idle same => ?_
  refine ⟨queueResponse { noted with state := after } 9 1 error [], ?_, queueResponse_follows idle _ _ _ _⟩
  have events : (if error = ErrorCode.ok then noted.peerEvents.erase nodeId else noted.peerEvents) = noted.peerEvents := by
    rw [idle.events]
    split
    · refine ExtTreeMap.ext_getElem? fun other => ?_
      simp
    · rfl
  have quiet : ({ noted with state := after } : RegistryServer).cleanupPending = { noted with state := after } :=
    cleanupPending_idle idle.pending
  rw [RegistryServer.perform, same, done]
  simp only [bind, Except.bind, pure, Except.pure, events]
  rw [quiet]

theorem visit_reaches {count : Nat} (welcomes : Welcomes (count + 1) system.server.state) (ready : Ready system) :
    ∃ server after, Reaches system after server ∧ Consistent after ∧
      Alike system.server.state after ∧ Ahead 1 system.server.state after ∧ after.metrics = system.server.state.metrics := by
  obtain ⟨result, second, after, subscribed, unregistered, kept, alike, ahead, metrics⟩ := visit_calls welcomes
  have registered : (system.server.state.registerNode 9 [118] 0).2 = visited system.server.state :=
    Except.ok.inj (visit_registers welcomes.unknownNode)
  rw [← registered] at subscribed
  have last : system.session.nodeId ∈ after.nodes := by
    rw [alike.nodes]
    exact ready.registered
  obtain ⟨one, registers⟩ := registerNode_reaches ready
  rw [← registers.follows.state_eq] at subscribed
  obtain ⟨two, subscribes⟩ := @subscribe_reaches { system with server := one } _ _ (registers.ready ready) _ subscribed
  have twice := registers.trans subscribes
  rw [← twice.follows.state_eq] at unregistered
  obtain ⟨three, unregisters⟩ :=
    @unregisterNode_reaches { system with server := two } _ _ (twice.ready ready) _ last unregistered
  exact ⟨three, after, twice.trans unregisters, kept, alike, ahead, metrics⟩

theorem visits_reach {count : Nat} (welcomes : Welcomes count system.server.state) (ready : Ready system) :
    ∃ server after, Reaches system after server ∧ Alike system.server.state after ∧
      Ahead (UInt64.ofNat count) system.server.state after ∧ after.metrics = system.server.state.metrics := by
  obtain ⟨final, ⟨same, reaches, metrics⟩, alike, ahead⟩ := @visits_pass SessionSystem (·.server.state) Ready
    (fun _ system last => last = { system with server := last.server } ∧ Reaches system last.server.state last.server ∧
      last.server.state.metrics = system.server.state.metrics)
    (fun ready => ⟨rfl, .refl ready, rfl⟩) (fun {count system} welcomes ready => by
      obtain ⟨server, after, reaches, kept, alike, ahead, metrics⟩ := visit_reaches welcomes ready
      have tables := reaches.follows.state_eq
      subst tables
      refine ⟨{ system with server }, reaches.ready ready, kept, alike, ahead, fun last more => ?_⟩
      obtain ⟨same, further, kept⟩ := more
      exact ⟨same, reaches.trans further, kept.trans metrics⟩) count system welcomes ready
  exact ⟨final.server, _, reaches, alike, ahead, metrics⟩

end Visits

def gathering : List ServerAction :=
  [.accept 1, .accept 2, .accept 3, .accept 4, .accept 5, .accept 6, .accept 7, .accept 8, .accept 9,
    asks 1 1 (.registerNode [97])]

@[irreducible] def gathered : RegistryServer :=
  (execute act { state := { liveness := {} } } gathering).getD { state := { liveness := {} } }

/-- A session for a node on the second one. -/
def opening : SessionSystem where
  server := (act gathered (asks 2 1 (.registerNode [98]))).getD gathered
  session := { nodeId := 2, sessionId := 2, nextRequestId := 2 }

/-- The first node publishes and the second one subscribes. The first is lost, and the
session is told. -/
def firstEnd : List SessionEvent :=
  [.server (asks 1 2 (.advertiseTopic 1 [116] [1] [2] 64 2 samplePool)),
    .server (asks 2 2 (.subscribeTopic 2 [116] [1] [2] 64 [47, 120] 2 ⟨[47, 113], 9, 4096, 4, 3, 1, 5⟩)),
    .server (asks 3 1 (.attachHeartbeat 2 2)), .server (.remove 1), .heartbeat 3 0, .response [.received 62 15, .received 0 61]]

@[irreducible] def informed : SessionSystem := (execute SessionSystem.step opening firstEnd).getD opening

/-- The visitor leaves. A third node publishes on the topic, is lost, and the session
is told again. -/
def secondEnd : List SessionEvent :=
  [.server (.remove 9), .server (asks 4 1 (.registerNode [99])),
    .server (asks 4 2 (.advertiseTopic 1 [116] [1] [2] 64 2 otherPool)), .server (.remove 4), .heartbeat 3 0,
    .response [.received 62 15, .received 0 61]]

theorem some_getD {α : Type} {value : Option α} (other : α) (there : value.isSome = true) : value = some (value.getD other) := by
  cases value with
  | none => cases there
  | some _ => rfl

theorem opening_evaluated :
    checkAlong act counting { state := { liveness := {} } } gathering = true ∧
      counting gathered (asks 2 1 (.registerNode [98])) = true ∧
      gathered.state.nodes.contains opening.session.nodeId = false ∧
      opening.server.state.nodes.contains opening.session.nodeId = true ∧
      (execute act { state := { liveness := {} } } gathering).isSome = true ∧
      (act gathered (asks 2 1 (.registerNode [98]))).isSome = true ∧
      checkAlong SessionSystem.step (fun system event => steady system event && proceeds system event) opening firstEnd = true ∧
      (execute SessionSystem.step opening firstEnd).isSome = true := by
  decide +kernel

theorem opening_opened : Opened Counting opening := by
  obtain ⟨counted, last, absent, present, gathers, opens, _⟩ := opening_evaluated
  refine ⟨⟨{}, { state := { liveness := {} } }, gathering, gathered, asks 2 1 (.registerNode [98]), rfl,
    along_of_check counting_sound counted, by unfold gathered; exact some_getD _ gathers, counting_sound _ _ last,
    some_getD gathered opens, ?_⟩, ExtTreeMap.contains_iff_mem.mp present, rfl, rfl, rfl, rfl⟩
  rw [← ExtTreeMap.contains_iff_mem, absent]
  decide

theorem informed_run : execute SessionSystem.step opening firstEnd = some informed := by
  obtain ⟨_, _, _, _, _, _, _, runs⟩ := opening_evaluated
  unfold informed
  exact some_getD opening runs

theorem informed_evaluated :
    (informed.server.state.nextNodeId = 3 ∧ informed.server.state.nextSessionId = 3 ∧
        informed.server.state.nextTopicId = 2 ∧ informed.server.state.nextEndpointId = 3) ∧
      welcoming (2 ^ 64 - 2) informed.server.state = true ∧
      ((informed.server.clients[9]?).map (·.connectionId)) = some 9 ∧ informed.server.pending.isEmpty = true ∧
      informed.server.peerEvents.isEmpty = true ∧
      informed.server.state.nodes.contains informed.session.nodeId = true ∧
      informed.session.peerEvents.length < kMaxPendingPeerEvents := by
  decide +kernel

theorem informed_ready : Ready informed := by
  obtain ⟨_, _, connection, pending, events, present, room⟩ := informed_evaluated
  obtain ⟨client, found, number⟩ := Option.map_eq_some_iff.mp connection
  exact ⟨⟨⟨client, found, number⟩, ExtTreeMap.isEmpty_iff.mp pending, ExtTreeMap.isEmpty_iff.mp events⟩,
    ExtTreeMap.contains_iff_mem.mp present, room⟩

theorem informed_steady :
    Along SessionSystem.step (fun system event => Steady system event ∧ Proceeds system event) opening firstEnd := by
  obtain ⟨_, _, _, _, _, _, checked, _⟩ := opening_evaluated
  refine along_of_check (fun system event checked => ?_) checked
  obtain ⟨first, last⟩ := Bool.and_eq_true_iff.mp checked
  exact ⟨steady_sound system event first, proceeds_sound system event last⟩

theorem informed_consistent : Consistent informed.server.state := by
  have delivers : Delivers informed :=
    informed_steady.invariant (fun _ _ _ delivers allowed done => step_delivers delivers allowed.1 allowed.2 done)
      (opened_delivers opening_opened) informed_run
  obtain ⟨issued, reliable, _⟩ := delivers.reliable
  exact reliable.consistent

/-- The tables are those that the session was informed by, and the next endpoint gets the id of
the first publisher. -/
def turned : RegistryState :=
  { informed.server.state with nextNodeId := 1, nextSessionId := 1, nextTopicId := 0, nextEndpointId := 1 }

theorem eq_turned {after : RegistryState} (alike : Alike informed.server.state after)
    (ahead : Ahead (UInt64.ofNat (2 ^ 64 - 2)) informed.server.state after)
    (metrics : after.metrics = informed.server.state.metrics) : after = turned := by
  have round : UInt64.ofNat (2 ^ 64 - 2) = 18446744073709551614 := by decide
  rw [eq_of_alike alike ahead, round, turned, metrics]
  simp only [informed_evaluated.1]
  congr 1

def visitedBy (client : ClientConnection) : SessionSystem :=
  { informed with
    server := { informed.server with state := turned, clients := informed.server.clients.insert 9 client } }

section Leaving
variable {server : RegistryServer} {client : ClientConnection}

theorem erase_inserted {β : Type} (map : ExtTreeMap Nat β) (key : Nat) (value : β) : (map.insert key value).erase key = map.erase key := by
  refine ExtTreeMap.ext_getElem? fun other => ?_
  grind

theorem remove_forgets (number : client.connectionId = 9) :
    act { server with clients := server.clients.insert 9 client } (.remove 9) =
      act { server with clients := server.clients.insert 9 { connectionId := 9 } } (.remove 9) := by
  have dropped (client : ClientConnection) :
      ({ server with clients := server.clients.insert 9 client } : RegistryServer).dropClient 9 =
        { server with
          pending := server.pending.filter fun _ request => request.fd != 9
          clients := server.clients.erase 9 } := by
    simp [dropClient, erase_inserted]
  simp only [act, removeClient, ExtTreeMap.getElem?_insert_self, dropped, number]

theorem visitor_leaves (system : SessionSystem) (server : RegistryServer) (number : client.connectionId = 9) :
    ({ system with server := { server with clients := server.clients.insert 9 client } } : SessionSystem).step
        (.server (.remove 9)) =
      ({ system with server := { server with clients := server.clients.insert 9 { connectionId := 9 } } } : SessionSystem).step
        (.server (.remove 9)) := by
  have same : ({ server with clients := server.clients.insert 9 client } : RegistryServer).eventsFor (.remove 9)
        system.session.nodeId =
      ({ server with clients := server.clients.insert 9 { connectionId := 9 } } : RegistryServer).eventsFor (.remove 9)
        system.session.nodeId := by
    simp only [eventsFor, cleanupsOf, ExtTreeMap.getElem?_insert_self, number]
  simp only [SessionSystem.step, remove_forgets number, same]

end Leaving

theorem secondEnd_evaluated :
    checkAlong SessionSystem.step steady (visitedBy { connectionId := 9 }) secondEnd = true ∧
      (execute SessionSystem.step (visitedBy { connectionId := 9 }) secondEnd).map (fun final =>
        (final.queued, final.returned.map Prod.snd ++ final.session.peerEvents ++ flight final ++
          (waiting final.server final.session.nodeId).map MessageBodies.peerEvent)) =
        some ([⟨.publisherDead, 2, 2, 1, 1, 5⟩, ⟨.publisherDead, 2, 2, 1, 1, 6⟩], [⟨.publisherDead, 2, 1, 1, 5⟩]) := by
  decide +kernel

theorem secondEnd_steady : Along SessionSystem.step Steady (visitedBy { connectionId := 9 }) secondEnd :=
  along_of_check steady_sound secondEnd_evaluated.1

theorem secondEnd_run : ∃ final, execute SessionSystem.step (visitedBy { connectionId := 9 }) secondEnd = some final ∧
    final.queued = [⟨.publisherDead, 2, 2, 1, 1, 5⟩, ⟨.publisherDead, 2, 2, 1, 1, 6⟩] ∧
    final.returned.map Prod.snd ++ final.session.peerEvents ++ flight final ++
      (waiting final.server final.session.nodeId).map MessageBodies.peerEvent = [⟨.publisherDead, 2, 1, 1, 5⟩] := by
  obtain ⟨final, run, same⟩ := Option.map_eq_some_iff.mp secondEnd_evaluated.2
  exact ⟨final, run, congrArg Prod.fst same, congrArg Prod.snd same⟩

theorem secondEnd_from {client : ClientConnection} (number : client.connectionId = 9) :
    execute SessionSystem.step (visitedBy client) secondEnd =
        execute SessionSystem.step (visitedBy { connectionId := 9 }) secondEnd ∧
      Along SessionSystem.step Steady (visitedBy client) secondEnd := by
  have leaves : (visitedBy client).step (.server (.remove 9)) = (visitedBy { connectionId := 9 }).step (.server (.remove 9)) :=
    visitor_leaves informed { informed.server with state := turned } number
  obtain ⟨first, rest⟩ := secondEnd_steady
  rw [← leaves] at rest
  refine ⟨by rw [secondEnd, execute, execute, leaves], ⟨?_, ?_, ?_⟩, rest⟩
  · rintro action same accepted
    cases same
    exact accepted
  · rw [leaves]
    exact first.registered
  · rw [leaves]
    exact first.room

/-- A session and a registry, with no list ever full, and an event that was queued
for the session's node and is nowhere. -/
theorem reissued_endpoint_lost :
    ∃ system events final, Opened (fun _ _ => True) system ∧ Along SessionSystem.step Steady system events ∧
      execute SessionSystem.step system events = some final ∧
      ∃ event ∈ final.queued, MessageBodies.peerEvent event ∉ final.returned.map Prod.snd ++ final.session.peerEvents ++
        flight final ++ (waiting final.server final.session.nodeId).map MessageBodies.peerEvent := by
  obtain ⟨server, after, ⟨⟨visits, run, steady⟩, ⟨client, number, same⟩, _⟩, alike, ahead, metrics⟩ :=
    visits_reach (welcomes_of_check informed_consistent informed_evaluated.2.1) informed_ready
  rw [eq_turned alike ahead metrics] at same
  obtain ⟨final, lastRun, queued, places⟩ := secondEnd_run
  obtain ⟨asLast, lastSteady⟩ := secondEnd_from number
  have visited : ({ informed with server } : SessionSystem) = visitedBy client := by rw [same, visitedBy]
  rw [visited] at run
  have first : Along SessionSystem.step Steady opening firstEnd :=
    informed_steady.imp fun _ _ allowed => allowed.1
  obtain ⟨liveness, start, actions, before, action, created, _, reached, _, registers, absent⟩ := opening_opened.registered
  refine ⟨opening, firstEnd ++ (visits ++ secondEnd), final, ⟨⟨liveness, start, actions, before, action, created,
    along_of_forall (fun _ _ => trivial) start actions, reached, trivial, registers, absent⟩, opening_opened.present,
    opening_opened.unused⟩, first.append informed_run (steady.append run lastSteady), ?_,
    ⟨.publisherDead, 2, 2, 1, 1, 6⟩, by simp [queued], ?_⟩
  · rw [execute_append, informed_run, Option.bind_some, execute_append, run, Option.bind_some, asLast, lastRun]
  · rw [places]
    decide

end RobotMiddleware.Proofs.ReissuedEndpoints
