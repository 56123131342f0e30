import RobotMiddleware.Lib.Delivery
import RobotMiddleware.Proofs.ResponseStreams
import RobotMiddleware.Proofs.ServerOperations

/-! The way of a peer event from the registry to the endpoint that it is for. The
session and the registry together are a relay: cleanups queue events, a heartbeat
launches them, its response lands them and the endpoints take theirs. The list of
the session drops an event that it holds already, so this rests on every pair of
endpoints being announced once. -/

namespace RobotMiddleware.Proofs.PeerDelivery
open Std Lib.Delivery Lib.Outcome Lib.Transitions RegistryServer RegistryState RegistryCalls RegistryIntegrity RegistryClient RegistrySession
  SessionSystem CleanupPlans QueuedEvents ServerEffects ControlFrames MessageBodies PendingDiscoveries ResponseStreams
  ServerOperations

/-- What `heartbeatLoop` compares, but for the kind. -/
def key (event : PeerEvent) : UInt64 × UInt64 := (event.targetEndpointId, event.deadEndpointId)

section Merging
variable {held : List PeerEvent}

theorem addPeerEvent_length (held : List PeerEvent) (event : PeerEvent) : held.length ≤ (RegistrySession.addPeerEvent held event).length := by
  unfold RegistrySession.addPeerEvent
  split
  · exact Nat.le_refl _
  · split
    next full => simp [full, kMaxPendingPeerEvents]
    next => simp

theorem addPeerEvents_length (held events : List PeerEvent) :
    held.length ≤ (events.foldl RegistrySession.addPeerEvent held).length := by
  induction events generalizing held with
  | nil => exact Nat.le_refl _
  | cons event rest ih => exact (addPeerEvent_length held event).trans (ih _)

/-- Events that are new are added at the end, as long as the list does not fill up. -/
theorem addPeerEvents_new {events : List PeerEvent} (new : ((held ++ events).map key).Nodup)
    (room : (events.foldl RegistrySession.addPeerEvent held).length < kMaxPendingPeerEvents) :
    events.foldl RegistrySession.addPeerEvent held = held ++ events := by
  induction events generalizing held with
  | nil => simp
  | cons event rest ih =>
    rw [List.foldl_cons] at room ⊢
    have unknown : held.any (duplicate event) = false := by
      rw [List.any_eq_false]
      intro existing member same
      simp only [duplicate, Bool.and_eq_true, beq_iff_eq] at same
      rw [List.map_append, List.nodup_append] at new
      refine new.2.2 (key existing) (List.mem_map_of_mem member) (key event) (by simp) ?_
      rw [key, key, same.1.2, same.2]
    have short : held.length ≠ kMaxPendingPeerEvents := by
      have grown := (addPeerEvent_length held event).trans (addPeerEvents_length _ rest)
      omega
    have added : RegistrySession.addPeerEvent held event = held ++ [event] := by simp [RegistrySession.addPeerEvent, unknown, short]
    rw [added] at room ⊢
    rw [ih (by rwa [List.append_assoc]) room, List.append_assoc]
    rfl

end Merging

def heard (requestId : UInt32) (bytes : Bytes) : List PeerEvent :=
  match front bytes with
  | .frame response _ => (heartbeatEvents requestId response).getD []
  | _ => []

def flight (system : SessionSystem) : List PeerEvent := system.awaited.elim [] fun awaited => heard awaited.1 awaited.2

def relayOf (system : SessionSystem) : Relay UInt64 PeerEvent where
  queued := system.queued.map peerEvent
  waiting := (waiting system.server system.session.nodeId).map peerEvent
  flying := flight system
  held := system.session.peerEvents
  returned := system.returned

/-- The session's node stays registered, only the session makes its heartbeats, and no
list fills up. -/
structure Steady (system : SessionSystem) (event : SessionEvent) : Prop where
  own : ∀ action, event = .server action → ¬Accepted system.server system.session.nodeId action
  registered : ∀ next, system.step event = some next → system.session.nodeId ∈ next.server.state.nodes
  room : ∀ next, system.step event = some next →
    (waiting next.server system.session.nodeId).length < kMaxEventsPerNode ∧
      next.session.peerEvents.length < kMaxPendingPeerEvents

def Proceeds (system : SessionSystem) (event : SessionEvent) : Prop :=
  ∀ next, system.step event = some next → Onward system.server.state next.server.state

structure Delivers (system : SessionSystem) : Prop where
  reliable : ∃ issued, Reliable system.server.state issued ∧
    ∀ event ∈ system.queued, Gone system.server.state issued event.deadEndpointId
  once : (system.queued.map endpoints).Nodup
  ordered : Ordered PeerEvent.targetEndpointId (relayOf system)
  room : (waiting system.server system.session.nodeId).length < kMaxEventsPerNode
  framed : ∀ requestId bytes, system.awaited = some (requestId, bytes) →
    ∃ payload, encodeControlFrame Opcode.response.value requestId payload = some bytes

section Steps
variable {system next : SessionSystem} {action : ServerAction}

theorem keys_queued (system : SessionSystem) : (relayOf system).queued.map key = system.queued.map endpoints := by
  rw [relayOf, List.map_map]
  rfl

theorem Delivers.distinct (delivers : Delivers system) : ((relayOf system).places.map key).Nodup := by
  have once := delivers.once
  rw [← keys_queued] at once
  exact ((delivers.ordered.perm.map key).nodup_iff).mpr once

theorem server_delivers (delivers : Delivers system) (steady : Steady system (.server action))
    (done : system.step (.server action) = some next) (onward : Onward system.server.state next.server.state) :
    Delivers next := by
  have registered := steady.registered next done
  have room := (steady.room next done).1
  obtain ⟨server, acted, rfl⟩ := Option.map_eq_some_iff.mp done
  obtain ⟨issued, reliable, gone⟩ := delivers.reliable
  obtain ⟨later, still, issuedAlso, goneAlso⟩ := act_reliable reliable acted onward
  obtain ⟨grown, announced⟩ := act_waiting reliable acted registered room (steady.own action rfl)
  refine ⟨⟨later, still, fun event member => ?_⟩, ?_, ?_, room, delivers.framed⟩
  · rcases List.mem_append.mp member with old | new
    · exact goneAlso _ (gone event old)
    · obtain ⟨publisher, subscriber⟩ := announced.gone event new
      exact ⟨issuedAlso _ (reliable.counted.endpoints.used _ (announced.stood event new)), publisher, subscriber⟩
  · -- An endpoint that dies now was there, and those that were announced before were not.
    rw [List.map_append, List.nodup_append]
    refine ⟨delivers.once, announced.once, fun first old last new same => ?_⟩
    obtain ⟨former, before, rfl⟩ := List.mem_map.mp old
    obtain ⟨event, now, rfl⟩ := List.mem_map.mp new
    have dead : former.deadEndpointId = event.deadEndpointId := congrArg Prod.snd same
    have absent := gone former before
    rw [dead] at absent
    exact (announced.stood event now).elim absent.publisher absent.subscriber
  · have moved : Move PeerEvent.targetEndpointId (relayOf system)
        (relayOf { system with server, queued := system.queued ++ system.server.eventsFor action system.session.nodeId }) := by
      simp only [relayOf, grown, List.map_append]
      exact .enqueue (relayOf system) _
    exact delivers.ordered.move moved

theorem requestOf_request (request : Request) (requestId : UInt32) (short : request.payload.length ≤ kMaxControlPayloadSize) :
    requestOf (controlFrame request.opcode.value requestId request.payload) = some request := by
  have known : requestOpcode request.opcode.value = some request.opcode := by cases request <;> rfl
  simp only [requestOf, controlFrame, known, Option.bind_some]
  exact decode_encode_request request short

theorem requestOf_heartbeat (session : RegistrySession) :
    requestOf session.heartbeatFrame = some (.heartbeat session.nodeId session.sessionId) := by
  refine requestOf_request (.heartbeat session.nodeId session.sessionId) session.nextRequestId ?_
  simp [Request.payload, Request.writeIds, writeU64, kMaxControlPayloadSize]

theorem handleFrame_request {server : RegistryServer} {fd : Nat} {connection : UInt64} {frame : ControlFrame} {now : Int}
    {request : Request} (decoded : requestOf frame = some request) :
    server.handleFrame fd connection frame now = server.perform fd connection frame.header.requestId now request := by
  obtain ⟨opcode, known, payload⟩ := Option.bind_eq_some_iff.mp decoded
  simp only [handleFrame, known, payload]

/-- The registry answers a heartbeat. If it accepts it, all that waits for the node goes
into the response. -/
theorem heartbeat_acts {server after : RegistryServer} {session : RegistrySession} {fd : Nat} {now : Int}
    (done : act server (.request fd session.heartbeatFrame now) = some after) :
    ∃ error liveness events,
      sentTo fd server after = some (responseFrame session.nextRequestId error (heartbeatBody liveness events)) ∧
      (error = .ok ∧ liveness = .alive ∧ events = waiting server session.nodeId ∧ waiting after session.nodeId = [] ∨
        error ≠ .ok ∧ waiting after session.nodeId = waiting server session.nodeId) := by
  obtain ⟨client, found, done⟩ := Option.bind_eq_some_iff.mp done
  have handled := toOption_some done
  rw [RegistryServer.receiveFrame, handleFrame_request (requestOf_heartbeat session)] at handled
  simp only [RegistryServer.perform, Except.ok.injEq] at handled
  -- The frame is answered on the connection on which it came.
  have sent (body : Bytes) (error : ErrorCode) (state : RegistryState) (peerEvents : ExtTreeMap UInt64 (List PeerEventRecord)) :
      sentTo fd server (queueResponse { server.setClient fd (note (.received session.heartbeatFrame) client) with
        state, peerEvents } fd session.nextRequestId error body) = some (responseFrame session.nextRequestId error body) := by
    simp only [sentTo, found, queueResponse, modifyClient_clients, ↓reduceIte, setClient, ExtTreeMap.getElem?_insert_self,
      Option.map_some, note, Option.bind_eq_bind, Option.bind_some, List.drop_left]
    rfl
  by_cases accepted : (server.state.heartbeat client.connectionId session.nodeId session.sessionId now).1.error = .ok
  · have alive : (server.state.heartbeat client.connectionId session.nodeId session.sessionId now).1.state = .alive := by
      unfold RegistryState.heartbeat at accepted ⊢
      grind
    simp only [setClient, accepted, ↓reduceIte, alive, RegistryServer.takePeerEvents] at handled
    subst after
    refine ⟨.ok, .alive, waiting server session.nodeId, sent _ _ _ _, .inl ⟨rfl, rfl, rfl, ?_⟩⟩
    simp [waiting]
  · simp only [setClient, accepted, ↓reduceIte] at handled
    subst after
    refine ⟨_, _, [], sent _ _ _ _, .inr ⟨accepted, ?_⟩⟩
    simp [waiting]

theorem heard_encoded {requestId : UInt32} {payload bytes : Bytes}
    (encoded : encodeControlFrame Opcode.response.value requestId payload = some bytes) :
    heard requestId bytes =
      (heartbeatEvents requestId (controlFrame Opcode.response.value requestId payload)).getD [] := by
  have whole := front_frame encoded []
  rw [List.append_nil] at whole
  simp only [heard, whole]

theorem heard_accepted (requestId : UInt32) {events : List PeerEventRecord} (short : events.length ≤ kMaxEventsPerNode) :
    heard requestId (responseFrame requestId .ok (heartbeatBody .alive events)) = events.map peerEvent := by
  obtain ⟨payload, encoded, outcome⟩ := responseFrame_encoded requestId .ok (heartbeatBody .alive events)
  have fits := heartbeat_fits short .alive
  have size : (heartbeatBody .alive events).length < 2 ^ 32 := by
    simp only [encodeResponsePayload, List.length_append, kMaxControlPayloadSize] at fits
    omega
  have read : readHeartbeat (heartbeatBody .alive events) = .ok (⟨.alive, events.map peerEvent⟩, []) :=
    heartbeat_ends (by simp) size
  rw [frameOutcome, if_pos fits, outcomeOf, if_pos rfl] at outcome
  rw [heard_encoded encoded, heartbeatEvents, outcome]
  simp only [decodeBody, read]
  rfl

theorem heard_refused (requestId : UInt32) {error : ErrorCode} (refused : error ≠ .ok) (body : Bytes) :
    heard requestId (responseFrame requestId error body) = [] := by
  obtain ⟨payload, encoded, outcome⟩ := responseFrame_encoded requestId error body
  obtain ⟨number, message, same⟩ : ∃ number message, frameOutcome error body = .refused number message := by
    unfold frameOutcome outcomeOf
    rw [if_neg refused]
    split
    · exact ⟨_, _, rfl⟩
    · exact ⟨_, _, rfl⟩
  rw [heard_encoded encoded, heartbeatEvents, outcome, same]
  rfl

theorem heartbeat_delivers {fd : Nat} {now : Int} (delivers : Delivers system) (steady : Steady system (.heartbeat fd now))
    (done : system.step (.heartbeat fd now) = some next) (onward : Onward system.server.state next.server.state) :
    Delivers next := by
  have room := (steady.room next done).1
  simp only [SessionSystem.step, sendHeartbeat] at done
  split at done
  · cases done
  next idle =>
  simp only [Bool.or_eq_true, Bool.not_eq_true', Option.isSome_iff_ne_none, not_or, Bool.not_eq_false, not_not] at idle
  split at done
  · cases done
    exact ⟨delivers.reliable, delivers.once, delivers.ordered, delivers.room, delivers.framed⟩
  obtain ⟨server, acted, done⟩ := Option.bind_eq_some_iff.mp done
  obtain ⟨bytes, sent, done⟩ := Option.bind_eq_some_iff.mp done
  cases done
  obtain ⟨issued, reliable, gone⟩ := delivers.reliable
  obtain ⟨later, still, _, goneAlso⟩ := act_reliable reliable acted onward
  obtain ⟨error, liveness, events, answer, answered⟩ := heartbeat_acts acted
  rw [sent] at answer
  cases answer
  refine ⟨⟨later, still, fun event member => goneAlso _ (gone event member)⟩, delivers.once, ?_, room, ?_⟩
  · have moved : Move PeerEvent.targetEndpointId (relayOf system)
        (relayOf { system with
          server
          session := { system.session with nextRequestId := system.session.nextRequestId + 1 }
          awaited := some (system.session.nextRequestId,
            responseFrame system.session.nextRequestId error (heartbeatBody liveness events)) }) := by
      have empty : (relayOf system).flying = [] := by simp [relayOf, flight, idle.2]
      rcases answered with ⟨rfl, rfl, rfl, taken⟩ | ⟨refused, kept⟩
      · simp only [relayOf, flight, Option.elim_some, taken, List.map_nil, heard_accepted _ delivers.room.le]
        exact .launch (relayOf system) empty
      · simp only [relayOf, flight, idle.2, Option.elim_none, Option.elim_some, kept, heard_refused _ refused]
        exact .rest _
    exact delivers.ordered.move moved
  · intro requestId bytes awaited
    cases awaited
    obtain ⟨payload, encoded, _⟩ := responseFrame_encoded system.session.nextRequestId error (heartbeatBody liveness events)
    exact ⟨payload, encoded⟩

theorem response_delivers {answers : List ReadAnswer} (delivers : Delivers system) (steady : Steady system (.response answers))
    (done : system.step (.response answers) = some next) : Delivers next := by
  have room := (steady.room next done).2
  simp only [SessionSystem.step, receiveResponse] at done
  obtain ⟨⟨requestId, bytes⟩, awaited, done⟩ := Option.bind_eq_some_iff.mp done
  obtain ⟨payload, encoded⟩ := delivers.framed requestId bytes awaited
  simp only at done
  split at done
  next frame rest received =>
    cases done
    have sound : Incoming.Sound ⟨bytes, 0⟩ := Nat.zero_le _
    obtain ⟨thrown, wrong, -⟩ | ⟨whole, -⟩ := receiveFrame_alone encoded sound rfl received
    · cases wrong
    cases whole
    have flying : (relayOf system).flying =
        (heartbeatEvents requestId (controlFrame Opcode.response.value requestId payload)).getD [] := by
      simp only [relayOf, flight, awaited, Option.elim_some, heard_encoded encoded]
    simp only [receiveHeartbeat] at room ⊢
    cases read : heartbeatEvents requestId (controlFrame Opcode.response.value requestId payload) with
    | none =>
      rw [read, Option.getD_none] at flying
      have same : relayOf { system with session := { system.session with looping := false }, awaited := none } =
          relayOf system := by
        simp only [relayOf, flight, Option.elim_none]
        simp only [relayOf, flight] at flying
        rw [flying]
      exact ⟨delivers.reliable, delivers.once, same ▸ delivers.ordered, delivers.room, by simp⟩
    | some events =>
      simp only [read] at room
      rw [read, Option.getD_some] at flying
      -- None of them is held already, since no two events in the places name the same endpoints.
      have new : ((system.session.peerEvents ++ events).map key).Nodup := by
        have distinct := delivers.distinct
        simp only [Relay.places, flying, List.map_append] at distinct
        rw [List.map_append]
        have inner := (List.nodup_append.mp distinct).1
        rw [List.append_assoc] at inner
        exact (List.nodup_append.mp inner).2.1
      have landed : relayOf { system with
            session := { system.session with peerEvents := events.foldl RegistrySession.addPeerEvent system.session.peerEvents }
            awaited := none } =
          { relayOf system with held := (relayOf system).held ++ (relayOf system).flying, flying := [] } := by
        rw [addPeerEvents_new new room, flying]
        rfl
      exact ⟨delivers.reliable, delivers.once, landed ▸ delivers.ordered.move (.land _), delivers.room, by simp⟩
  next => cases done

theorem take_delivers {target : UInt64} (delivers : Delivers system) (done : system.step (.take target) = some next) :
    Delivers next := by
  cases done
  exact ⟨delivers.reliable, delivers.once, delivers.ordered.move (.take (relayOf system) target), delivers.room, delivers.framed⟩

theorem step_delivers {event : SessionEvent} (delivers : Delivers system) (steady : Steady system event)
    (proceeds : Proceeds system event) (done : system.step event = some next) : Delivers next := by
  cases event with
  | server => exact server_delivers delivers steady done (proceeds next done)
  | heartbeat => exact heartbeat_delivers delivers steady done (proceeds next done)
  | response => exact response_delivers delivers steady done
  | take => exact take_delivers delivers done

end Steps

def Counting (server : RegistryServer) (action : ServerAction) : Prop :=
  ∀ next, act server action = some next → Onward server.state next.state

/-- A session whose node has just been registered with a server whose actions have met
the condition so far. -/
structure Opened (condition : RegistryServer → ServerAction → Prop) (system : SessionSystem) : Prop where
  registered : ∃ liveness start actions before action, RegistryServer.create liveness = .ok start ∧
    Along act condition start actions ∧ execute act start actions = some before ∧ condition before action ∧
    act before action = some system.server ∧ system.session.nodeId ∉ before.state.nodes
  present : system.session.nodeId ∈ system.server.state.nodes
  unused : system.session.peerEvents = [] ∧ system.awaited = none ∧ system.queued = [] ∧ system.returned = []

/-- Every event that was queued for the node is in exactly one place: on the server,
in a response, in the session's list or returned. Each target was returned its own
events, in the order in which they were queued. -/
structure Delivered (system : SessionSystem) : Prop where
  once : (system.queued.map peerEvent).Nodup
  placed : (system.returned.map Prod.snd ++ system.session.peerEvents ++ flight system ++
    (waiting system.server system.session.nodeId).map peerEvent).Perm (system.queued.map peerEvent)
  own : ∀ entry ∈ system.returned, entry.2.targetEndpointId = entry.1
  order : ∀ target, ((system.returned.filter fun entry => entry.1 == target).map Prod.snd) <+:
    (system.queued.map peerEvent).filter fun event => event.targetEndpointId == target

section Runs
variable {system final : SessionSystem} {server next : RegistryServer} {issued : Issued} {action : ServerAction} {nodeId : UInt64}

theorem waiting_registered (reliable : Reliable server.state issued) (books : Bookkeeping server)
    (done : act server action = some next) (absent : nodeId ∉ server.state.nodes) (present : nodeId ∈ next.state.nodes) :
    waiting next nodeId = [] := by
  have none : waiting server nodeId = [] := by
    unfold waiting
    cases found : server.peerEvents[nodeId]? with
    | none => rfl
    | some records => exact absurd (books.events nodeId records found).1 absent
  have removal {batch : Batch} {plans : List DeadNodeCleanup} {after : RegistryState}
      (removed : removeBatch server.state batch = .ok (plans, after)) : nodeId ∉ after.nodes := by
    obtain ⟨_, _, _, again, _, _, _, departs, _⟩ := removeBatch_plans reliable.consistent reliable.sound batch
    rw [removed] at again
    cases again
    exact fun left => absent ((departs.nodes nodeId).mp left).1
  cases act_cases done with
  | accepted | moved | unknown => exact absurd present absent
  | @requested fd frame now client _ found handled =>
    obtain ⟨calls, tended, events⟩ := (handleFrame_effect handled).2
    rw [@request_waiting server next nodeId client.connectionId now _ reliable.consistent ⟨calls, tended, events⟩ present
      fun sessionId _ accepted => ?_, none]
    rw [RegistryState.heartbeat, ExtTreeMap.getElem?_eq_none absent] at accepted
    cases accepted
  | refused => exact absurd (by simpa [refuseInput] using present) absent
  | @removed _ client plans state _ called =>
    rw [applyCleanups_state] at present
    have removed : removeBatch server.state (.disconnection client.connectionId) = .ok (plans, state) := called
    exact absurd present (removal removed)
  | @expired now update state called =>
    rw [applyCleanups_state] at present
    have removed : removeBatch server.state (.expiry now) = .ok (update.deadNodes, state) := by
      rw [removeBatch, called]
      rfl
    exact absurd present (removal removed)

theorem counting_reliable {liveness : LivenessConfig} {start : RegistryServer} {actions : List ServerAction}
    (created : RegistryServer.create liveness = .ok start) (counting : Along act Counting start actions)
    (run : execute act start actions = some server) : Bookkeeping server ∧ ∃ issued, Reliable server.state issued := by
  have begins : Bookkeeping start ∧ ∃ issued, Reliable start.state issued := by
    refine ⟨create_books created, {}, ?_⟩
    unfold RegistryServer.create at created
    obtain ⟨state, made, created⟩ := bind_ok created
    cases created
    exact create_reliable made
  have kept : ∀ server action next, (Bookkeeping server ∧ ∃ issued, Reliable server.state issued) → Counting server action →
      act server action = some next → Bookkeeping next ∧ ∃ issued, Reliable next.state issued := by
    rintro server action next ⟨books, issued, reliable⟩ counting done
    obtain ⟨later, still, _⟩ := act_reliable reliable done (counting next done)
    exact ⟨act_books books done, later, still⟩
  exact counting.invariant kept begins run

theorem opened_delivers (opened : Opened Counting system) : Delivers system := by
  obtain ⟨liveness, start, actions, before, action, created, counting, run, onward, done, absent⟩ := opened.registered
  obtain ⟨events, awaited, queued, returned⟩ := opened.unused
  obtain ⟨books, issued, reliable⟩ := counting_reliable created counting run
  obtain ⟨later, still, _⟩ := act_reliable reliable done (onward _ done)
  have none := waiting_registered reliable books done absent opened.present
  refine ⟨⟨later, still, by simp [queued]⟩, by simp [queued], ⟨fun target => ?_, by simp [relayOf, returned]⟩, ?_, by simp [awaited]⟩
  · simp [relayOf, Relay.places, flight, events, awaited, queued, returned, none]
  · rw [none]
    decide

theorem Delivers.delivered (delivers : Delivers system) : Delivered system := by
  refine ⟨?_, delivers.ordered.perm, delivers.ordered.own, fun target => ?_⟩
  · have once := delivers.once
    rw [← keys_queued] at once
    exact once.of_map
  · have order := delivers.ordered.order target
    have mine : ((system.returned.filter fun entry => entry.1 == target).map Prod.snd) =
        (system.returned.map Prod.snd).filter fun event => event.targetEndpointId == target := by
      rw [List.filter_map]
      congr 1
      refine List.filter_congr fun entry member => ?_
      rw [Function.comp_apply, delivers.ordered.own entry member]
    rw [mine]
    simp only [Relay.places, relayOf, List.filter_append, List.append_assoc] at order
    rw [← order]
    exact List.prefix_append _ _

/-- In every run of a session and the registry in which no list fills up and no counter
goes round, every peer event for the session's node is delivered on its way: it is never
in two places and never lost, and goes to its own endpoint in turn. -/
theorem peer_events_delivered {events : List SessionEvent} (opened : Opened Counting system)
    (steady : Along SessionSystem.step (fun system event => Steady system event ∧ Proceeds system event) system events)
    (run : execute SessionSystem.step system events = some final) : Delivered final :=
  (steady.invariant (fun _ _ _ delivers steady done => step_delivers delivers steady.1 steady.2 done) (opened_delivers opened)
    run).delivered

end Runs

def accepts (server : RegistryServer) (nodeId : UInt64) : ServerAction → Bool
  | .request fd frame now =>
    match server.clients[fd]?, requestOf frame with
    | some client, some (.heartbeat node sessionId) =>
      node == nodeId && (server.state.heartbeat client.connectionId node sessionId now).1.error == .ok
    | _, _ => false
  | _ => false

theorem accepts_of_accepted {server : RegistryServer} {nodeId : UInt64} {action : ServerAction}
    (accepted : Accepted server nodeId action) : accepts server nodeId action = true := by
  cases action with
  | request =>
    obtain ⟨client, sessionId, found, asked, fine⟩ := accepted
    simp [accepts, found, asked, fine]
  | _ => exact accepted.elim

def steady (system : SessionSystem) (event : SessionEvent) : Bool :=
  (match event with
    | .server action => !accepts system.server system.session.nodeId action
    | _ => true) &&
  (system.step event).all fun next => next.server.state.nodes.contains system.session.nodeId &&
    decide ((waiting next.server system.session.nodeId).length < kMaxEventsPerNode) &&
    decide (next.session.peerEvents.length < kMaxPendingPeerEvents)

theorem steady_sound (system : SessionSystem) (event : SessionEvent) (checked : steady system event = true) :
    Steady system event := by
  obtain ⟨own, all⟩ := Bool.and_eq_true_iff.mp checked
  have each (next : SessionSystem) (done : system.step event = some next) := by
    rw [done, Option.all_some] at all
    exact all
  simp only [Bool.and_eq_true, decide_eq_true_eq] at each
  refine ⟨?_, fun next done => ?_, fun next done => ?_⟩
  · rintro action rfl accepted
    simp [accepts_of_accepted accepted] at own
  · exact ExtTreeMap.contains_iff_mem.mp (each next done).1.1
  · exact ⟨(each next done).1.2, (each next done).2⟩

def proceeds (system : SessionSystem) (event : SessionEvent) : Bool :=
  (system.step event).all fun next => decide (Onward system.server.state next.server.state)

theorem proceeds_sound (system : SessionSystem) (event : SessionEvent) (checked : proceeds system event = true) :
    Proceeds system event := by
  intro next done
  simpa [proceeds, done] using checked

def counting (server : RegistryServer) (action : ServerAction) : Bool :=
  (act server action).all fun next => decide (Onward server.state next.state)

theorem counting_sound (server : RegistryServer) (action : ServerAction) (checked : counting server action = true) :
    Counting server action := by
  intro next done
  simpa [counting, done] using checked

/-- A publisher is there, and a second node registers. -/
def publisherActions : List ServerAction :=
  [.accept 1, asks 1 1 (.registerNode [97]), asks 1 2 (.advertiseTopic 1 [116] [1] [2] 64 1 {}), .accept 2]

/-- The second node subscribes, and hears of the publisher's end. -/
def subscriberEvents : List SessionEvent :=
  [.server (asks 2 2 (.subscribeTopic 2 [116] [1] [2] 64 [47] 1 {})), .server (.accept 3),
    .server (asks 3 1 (.attachHeartbeat 2 2)), .server (.remove 1), .heartbeat 3 0, .response [.received 62 15, .received 0 61],
    .take 2]

theorem peer_events_delivered_subscriber :
    ∃ system final, Opened Counting system ∧
      Along SessionSystem.step (fun system event => Steady system event ∧ Proceeds system event) system subscriberEvents ∧
      execute SessionSystem.step system subscriberEvents = some final ∧
      final.returned = [(2, ⟨.publisherDead, 2, 1, 1, 0⟩)] ∧ Delivered final := by
  have along : checkAlong act counting { state := { liveness := {} } } publisherActions = true := by decide +kernel
  have seen : ((execute act { state := { liveness := {} } } publisherActions).bind fun before =>
      (act before (asks 2 1 (.registerNode [98]))).bind fun server =>
        (execute SessionSystem.step { server, session := ⟨2, 2, 1, true, []⟩ } subscriberEvents).map fun final =>
          (!before.state.nodes.contains 2 && counting before (asks 2 1 (.registerNode [98])) && server.state.nodes.contains 2 &&
            checkAlong SessionSystem.step (fun system event => steady system event && proceeds system event)
              { server, session := ⟨2, 2, 1, true, []⟩ } subscriberEvents,
            final.returned)) =
      some (true, [(2, ⟨.publisherDead, 2, 1, 1, 0⟩)]) := by decide +kernel
  obtain ⟨before, reached, seen⟩ := Option.bind_eq_some_iff.mp seen
  obtain ⟨server, registers, seen⟩ := Option.bind_eq_some_iff.mp seen
  obtain ⟨final, run, seen⟩ := Option.map_eq_some_iff.mp seen
  simp only [Prod.mk.injEq, Bool.and_eq_true, Bool.not_eq_true'] at seen
  obtain ⟨⟨⟨⟨absent, counted⟩, present⟩, checked⟩, returned⟩ := seen
  have opened : Opened Counting { server, session := ⟨2, 2, 1, true, []⟩ } := by
    refine ⟨⟨{}, _, publisherActions, before, _, rfl, along_of_check counting_sound along, reached, counting_sound _ _ counted,
      registers, ?_⟩, ExtTreeMap.contains_iff_mem.mp present, rfl, rfl, rfl, rfl⟩
    rw [← ExtTreeMap.contains_iff_mem, absent]
    decide
  have steadily : Along SessionSystem.step (fun system event => Steady system event ∧ Proceeds system event)
      { server, session := ⟨2, 2, 1, true, []⟩ } subscriberEvents := by
    refine along_of_check (fun system event checked => ?_) checked
    obtain ⟨first, last⟩ := Bool.and_eq_true_iff.mp checked
    exact ⟨steady_sound system event first, proceeds_sound system event last⟩
  exact ⟨_, final, opened, steadily, run, returned, peer_events_delivered opened steadily run⟩

end RobotMiddleware.Proofs.PeerDelivery
