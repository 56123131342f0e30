import RobotMiddleware.Proofs.PollLoop
import RobotMiddleware.Proofs.ServerEffects

/-! The tables of waiting requests and undelivered events agree with the
connections and the registry in every state between two actions. In the middle of
a cleanup they may name what is already gone; each cleanup removes its share. -/

namespace RobotMiddleware.Proofs.PendingDiscoveries
open Std Lib.Index Lib.Outcome Lib.Loops Lib.Transitions RegistryServer RegistryOwnership ServerEffects PollLoop

/-- A request that waits: its connection is open and owns the publisher, whose
topic has no subscriber. -/
structure Waits (server : RegistryServer) (endpointId : UInt64) (request : PendingDiscovery) : Prop where
  endpoint : request.publisherEndpointId = endpointId
  client : ∃ client, server.clients[request.fd]? = some client ∧ client.connectionId = request.connectionId
  owner : Owns server.state request.connectionId request.nodeId endpointId
  unserved : Unserved server.state endpointId

structure Bookkeeping (server : RegistryServer) : Prop where
  anchored : Anchored server.state
  pending : ∀ (endpointId : UInt64) (request : PendingDiscovery), server.pending[endpointId]? = some request →
    Waits server endpointId request
  events : ∀ (id : UInt64) (records : List PeerEventRecord), server.peerEvents[id]? = some records →
    id ∈ server.state.nodes ∧ records.length ≤ kMaxEventsPerNode

/-- The middle of a cleanup: requests may wait for publishers that are gone, and
events for the nodes `gone`. -/
structure Loose (gone : List UInt64) (server : RegistryServer) : Prop where
  anchored : Anchored server.state
  pending : ∀ (endpointId : UInt64) (request : PendingDiscovery), server.pending[endpointId]? = some request →
    endpointId ∈ server.state.publishers → Waits server endpointId request
  events : ∀ (id : UInt64) (records : List PeerEventRecord), server.peerEvents[id]? = some records →
    (id ∈ server.state.nodes ∨ id ∈ gone) ∧ records.length ≤ kMaxEventsPerNode

def Published (server : RegistryServer) : Prop :=
  ∀ endpointId, endpointId ∈ server.pending → endpointId ∈ server.state.publishers

def Open (before after : RegistryServer) : Prop :=
  ∀ (fd : Nat) (client : ClientConnection), before.clients[fd]? = some client →
    ∃ now, after.clients[fd]? = some now ∧ now.connectionId = client.connectionId

variable {server before after next : RegistryServer} {fd : Nat} {connection : UInt64} {requestId : UInt32}
  {endpointId : UInt64} {request : PendingDiscovery} {gone : List UInt64}

theorem Open.of_attends {kind : JournalEntry → Prop} (attends : Attends kind before after) : Open before after := by
  intro fd client found
  obtain ⟨now, present, continues⟩ := attends.kept fd client found
  exact ⟨now, present, continues.connectionId⟩

theorem Open.setClient {client new : ClientConnection} (found : server.clients[fd]? = some client)
    (same : new.connectionId = client.connectionId) : Open server (server.setClient fd new) := by
  intro other old present
  simp only [RegistryServer.setClient]
  by_cases here : other = fd
  · subst other
    rw [found] at present
    cases present
    exact ⟨new, ExtTreeMap.getElem?_insert_self, same⟩
  · exact ⟨old, by grind, rfl⟩

theorem Open.modifyClient {update : ClientConnection → ClientConnection}
    (same : ∀ client, (update client).connectionId = client.connectionId) : Open server (server.modifyClient fd update) := by
  intro other client found
  rw [modifyClient_clients]
  by_cases here : other = fd
  · subst other
    exact ⟨update client, by simp [found], same client⟩
  · exact ⟨client, by simp [here, found], rfl⟩

theorem Open.client (still : Open before after)
    (held : ∃ client, before.clients[request.fd]? = some client ∧ client.connectionId = request.connectionId) :
    ∃ client, after.clients[request.fd]? = some client ∧ client.connectionId = request.connectionId := by
  obtain ⟨client, found, same⟩ := held
  obtain ⟨now, present, kept⟩ := still request.fd client found
  exact ⟨now, present, kept.trans same⟩

theorem Waits.published (waits : Waits server endpointId request) : endpointId ∈ server.state.publishers := by
  obtain ⟨_, publisher, _, found, _⟩ := waits.owner
  exact mem_iff_found.mpr ⟨publisher, found⟩

theorem Waits.open (waits : Waits before endpointId request) (still : Open before after) (state : after.state = before.state) :
    Waits after endpointId request := by
  refine ⟨waits.endpoint, still.client waits.client, ?_, ?_⟩
  · rw [state]
    exact waits.owner
  · rw [state]
    exact waits.unserved

variable {state : RegistryState}

theorem Waits.keep {caller : UInt64} (waits : Waits server endpointId request) (keeps : Keeps caller server.state state)
    (quieter : Quieter server.state state) : Waits { server with state } endpointId request := by
  refine ⟨waits.endpoint, waits.client, waits.owner.keep keeps, waits.unserved.quieter quieter fun publisher found => ?_⟩
  obtain ⟨_, former, _, present, _⟩ := waits.owner
  have kept := keeps.publishers _ _ present
  rw [kept] at found
  cases found
  exact present

theorem Waits.outlive {ids : List UInt64} (waits : Waits server endpointId request)
    (loses : Loses ids server.state state) (anchored : Anchored state) (still : endpointId ∈ state.publishers) :
    Waits { server with state } endpointId request :=
  ⟨waits.endpoint, waits.client, waits.owner.outlive loses anchored still,
    waits.unserved.quieter loses.topics (loses.publishers.within _)⟩

theorem Bookkeeping.published (books : Bookkeeping server) : Published server := by
  intro endpointId waiting
  obtain ⟨request, found⟩ := mem_iff_found.mp waiting
  exact (books.pending endpointId request found).published

theorem Bookkeeping.loose (books : Bookkeeping server) : Loose [] server :=
  ⟨books.anchored, fun _ _ found _ => books.pending _ _ found,
    fun id records found => (books.events id records found).imp_left .inl⟩

theorem Loose.tight (loose : Loose [] server) (published : Published server) : Bookkeeping server := by
  refine ⟨loose.anchored, fun endpointId request found => loose.pending _ _ found (published _ ?_), fun id records found => ?_⟩
  · exact mem_iff_found.mpr ⟨request, found⟩
  · obtain ⟨present, short⟩ := loose.events id records found
    exact ⟨present.resolve_right (by simp), short⟩

theorem Bookkeeping.fewer (books : Bookkeeping before) (still : Open before after) (state : after.state = before.state)
    (pending : ∀ (endpointId : UInt64) (request : PendingDiscovery), after.pending[endpointId]? = some request →
      before.pending[endpointId]? = some request) (events : after.peerEvents = before.peerEvents) : Bookkeeping after := by
  refine ⟨state ▸ books.anchored, fun endpointId request found => ?_, fun id records found => ?_⟩
  · exact (books.pending _ _ (pending _ _ found)).open still state
  · rw [events] at found
    rw [state]
    exact books.events id records found

theorem queueResponse_books (books : Bookkeeping server) (error : ErrorCode) (body : Bytes) :
    Bookkeeping (server.queueResponse fd requestId error body) :=
  books.fewer (.of_attends (queueResponse_attends server fd requestId error body)) (by simp) (by simp) (by simp)

/-- The registry has lost some nodes, and the tables do not know it yet. -/
theorem Bookkeeping.lose {ids : List UInt64} (books : Bookkeeping server)
    (loses : Loses ids server.state state) : Loose ids { server with state } := by
  have anchored := loses.anchored books.anchored
  refine ⟨anchored, fun endpointId request found still => (books.pending _ _ found).outlive loses anchored still, ?_⟩
  intro id records found
  obtain ⟨present, short⟩ := books.events id records found
  refine ⟨?_, short⟩
  by_cases lost : id ∈ ids
  · exact .inr lost
  · exact .inl (loses.sparedNodes id present lost)

theorem addPeerEvent_loose (loose : Loose gone server) (event : PeerEventRecord) :
    Loose gone (server.addPeerEvent event) ∧ (server.addPeerEvent event).state = server.state ∧
      (server.addPeerEvent event).pending = server.pending := by
  unfold addPeerEvent
  split
  · exact ⟨loose, rfl, rfl⟩
  next known =>
    simp only [Bool.not_eq_true', Bool.not_eq_false] at known
    refine ⟨⟨loose.anchored, fun endpointId request found still => ?_, fun id records found => ?_⟩, rfl, rfl⟩
    · have waits := loose.pending endpointId request found still
      exact ⟨waits.endpoint, waits.client, waits.owner, waits.unserved⟩
    · simp only [ExtTreeMap.getElem?_insert] at found
      split at found
      next same =>
        have same := LawfulEqOrd.eq_of_compare same
        subst id
        cases found
        refine ⟨.inl (ExtTreeMap.contains_iff_mem.mp known), ?_⟩
        have short : ((server.peerEvents[event.targetNodeId]?).getD []).length ≤ kMaxEventsPerNode := by
          cases stored : server.peerEvents[event.targetNodeId]? with
          | none => simp
          | some records => exact (loose.events _ records stored).2
        -- A full list gives up its oldest event first.
        split
        next full => simp [full, kMaxEventsPerNode]
        next room =>
          simp only [List.length_append, List.length_singleton]
          omega
      next => exact loose.events id records found

theorem cleanupPending_loose (loose : Loose gone server) : Loose gone server.cleanupPending ∧ Published server.cleanupPending := by
  obtain ⟨state, events, attends, pending⟩ := cleanupPending_effect server
  refine ⟨⟨state ▸ loose.anchored, fun endpointId request found still => ?_, fun id records found => ?_⟩, ?_⟩
  · rw [state] at still
    rw [pending, if_pos still] at found
    exact (loose.pending _ _ found still).open (.of_attends attends) state
  · rw [events] at found
    rw [state]
    exact loose.events id records found
  · intro endpointId waiting
    obtain ⟨request, found⟩ := mem_iff_found.mp waiting
    rw [state]
    by_contra absent
    rw [pending, if_neg absent] at found
    cases found

theorem Loose.forget {id : UInt64} (loose : Loose (id :: gone) server) :
    Loose gone { server with peerEvents := server.peerEvents.erase id } := by
  refine ⟨loose.anchored, fun endpointId request found still => ?_, fun other records found => ?_⟩
  · have waits := loose.pending endpointId request found still
    exact ⟨waits.endpoint, waits.client, waits.owner, waits.unserved⟩
  · simp only [ExtTreeMap.getElem?_erase] at found
    split at found
    · cases found
    next different =>
      obtain ⟨present, short⟩ := loose.events other records found
      refine ⟨present.imp_right fun member => ?_, short⟩
      rcases List.mem_cons.mp member with rfl | member
      · simp at different
      · exact member

theorem applyCleanup_loose {cleanup : DeadNodeCleanup} (loose : Loose (cleanup.nodeId :: gone) server) :
    Loose gone (server.applyCleanup cleanup) ∧ Published (server.applyCleanup cleanup) := by
  have added : Loose (cleanup.nodeId :: gone) (cleanup.peerEvents.foldl addPeerEvent server) :=
    foldl_keeps (fun _ event _ held => (addPeerEvent_loose held event).1) loose
  exact cleanupPending_loose added.forget

theorem dropClient_loose (loose : Loose gone server) (fd : Nat) :
    Loose gone (server.dropClient fd) ∧ (Published server → Published (server.dropClient fd)) := by
  unfold dropClient
  split
  · refine ⟨⟨loose.anchored, fun endpointId request found still => ?_, loose.events⟩, fun published endpointId waiting => ?_⟩
    · have kept : server.pending[endpointId]? = some request ∧ request.fd ≠ fd := by grind
      have waits := loose.pending endpointId request kept.1 still
      refine ⟨waits.endpoint, ?_, waits.owner, waits.unserved⟩
      obtain ⟨client, present, same⟩ := waits.client
      have different := kept.2
      exact ⟨client, by grind, same⟩
    · exact published endpointId (by grind)
  · exact ⟨loose, fun published => published⟩

theorem closeConnection_loose (exceptFd : Option Nat) (loose : Loose gone server) (connectionId : UInt64) :
    Loose gone (closeConnection exceptFd server connectionId) ∧
      (Published server → Published (closeConnection exceptFd server connectionId)) := by
  have unchanged : Loose gone server ∧ (Published server → Published server) := ⟨loose, fun published => published⟩
  unfold closeConnection
  split
  · exact unchanged
  cases server.fdForConnection connectionId with
  | none => exact unchanged
  | some fd =>
    simp only
    split
    · exact unchanged
    · exact dropClient_loose loose fd

theorem closeCleanupConnections_loose (loose : Loose gone server) (published : Published server) (cleanup : DeadNodeCleanup)
    (exceptFd : Option Nat) :
    Loose gone (server.closeCleanupConnections cleanup exceptFd) ∧
      Published (server.closeCleanupConnections cleanup exceptFd) := by
  refine @foldl_keeps _ _ _ _ (fun now => Loose gone now ∧ Published now) server (fun now id _ held => ?_) ⟨loose, published⟩
  obtain ⟨kept, still⟩ := closeConnection_loose exceptFd held.1 id
  exact ⟨kept, still held.2⟩

theorem applyCleanups_books {cleanups : List DeadNodeCleanup} (exceptFd : Option Nat)
    (loose : Loose (cleanups.map (·.nodeId)) server) (published : cleanups = [] → Published server) :
    Bookkeeping (server.applyCleanups cleanups exceptFd) := by
  induction cleanups generalizing server with
  | nil => exact loose.tight (published rfl)
  | cons cleanup rest ih =>
    rw [List.map_cons] at loose
    obtain ⟨cleaned, tidy⟩ := applyCleanup_loose loose
    obtain ⟨closed, still⟩ := closeCleanupConnections_loose cleaned tidy cleanup exceptFd
    exact ih closed fun _ => still

theorem cleaned_books {cleanups : List DeadNodeCleanup} (exceptFd : Option Nat)
    (books : Bookkeeping server) (loses : Loses (cleanups.map (·.nodeId)) server.state state) :
    Bookkeeping (applyCleanups { server with state } cleanups exceptFd) := by
  refine applyCleanups_books exceptFd (books.lose loses) fun none endpointId waiting => ?_
  subst cleanups
  obtain ⟨publisher, found⟩ := mem_iff_found.mp (books.published endpointId waiting)
  exact mem_iff_found.mpr ⟨publisher, loses.publishers.spares endpointId publisher found (by simp)⟩

theorem dropClient_books (books : Bookkeeping server) (fd : Nat) : Bookkeeping (server.dropClient fd) := by
  obtain ⟨kept, published⟩ := dropClient_loose books.loose fd
  exact kept.tight (published books.published)

theorem erasePending_books (books : Bookkeeping server) (endpointId : UInt64) : Bookkeeping (server.erasePending endpointId) := by
  obtain ⟨state, events, attends, pending⟩ := erasePending_effect server endpointId
  refine books.fewer (.of_attends attends) state (fun other request found => ?_) events
  rw [pending] at found
  grind

theorem effect_books {request : Option Request} (books : Bookkeeping server)
    (client : ∃ client, server.clients[fd]? = some client ∧ client.connectionId = connection)
    (effect : RequestEffect server fd connection requestId request next) : Bookkeeping next := by
  cases effect with
  | answered _ keeps quieter events =>
    refine queueResponse_books ⟨keeps.anchored books.anchored, fun endpointId request found => ?_, fun id records found => ?_⟩ _ _
    · have waits := (books.pending endpointId request found).keep keeps quieter
      exact ⟨waits.endpoint, waits.client, waits.owner, waits.unserved⟩
    · exact (books.events id records (events id records found)).imp_left keeps.mem
  | unregistered _ loses =>
    obtain ⟨cleaned, published⟩ := cleanupPending_loose (books.lose loses).forget
    exact queueResponse_books (cleaned.tight published) _ _
  | unknownNode =>
    obtain ⟨cleaned, published⟩ := cleanupPending_loose books.loose
    exact queueResponse_books (cleaned.tight published) _ _
  | @unadvertised nodeId endpointId state owns loses nodes publishers =>
    have anchored := loses.anchored books.anchored
    refine queueResponse_books ?_ _ _
    obtain ⟨sameState, events, attends, pending⟩ := erasePending_effect { server with state } endpointId
    refine ⟨sameState ▸ anchored, fun other request found => ?_, fun id records found => ?_⟩
    · rw [pending] at found
      have kept : server.pending[other]? = some request ∧ other ≠ endpointId := by grind
      have waits := books.pending other request kept.1
      have still : other ∈ state.publishers := by
        have published := waits.published
        have different := kept.2
        rw [publishers]
        grind
      exact (waits.outlive loses anchored still).open (.of_attends attends) sameState
    · rw [events] at found
      rw [sameState]
      exact (books.events id records found).imp_left (nodes id)
  | unknownEndpoint => exact queueResponse_books (erasePending_books books _) _ _
  | subscribed keeps completed =>
    obtain ⟨state, events, attends, left, _⟩ := completePending_effect completed
    simp only [queueResponse_state, queueResponse_peerEvents, queueResponse_pending] at state events left
    refine ⟨state ▸ keeps.anchored books.anchored, fun endpointId request found => ?_, fun id records found => ?_⟩
    · obtain ⟨former, result, resolved, nothing⟩ := left endpointId request found
      have waits := books.pending endpointId request former
      obtain ⟨owns, unserved⟩ := (resolve_waits_iff resolved).mp nothing
      rw [waits.endpoint] at owns unserved
      have still := (Open.of_attends attends).client
        ((Open.of_attends (queueResponse_attends _ fd requestId .ok _)).client waits.client)
      exact ⟨waits.endpoint, still, state ▸ owns, state ▸ unserved⟩
    · rw [events] at found
      rw [state]
      exact (books.events id records found).imp_left keeps.mem
  | @waits nodeId endpointId owns unserved =>
    refine ⟨books.anchored, fun other request found => ?_, books.events⟩
    simp only [ExtTreeMap.getElem?_insert] at found
    split at found
    next same =>
      have same := LawfulEqOrd.eq_of_compare same
      subst other
      cases found
      exact ⟨rfl, client, owns, unserved⟩
    next =>
      have waits := books.pending other request found
      exact ⟨waits.endpoint, waits.client, waits.owner, waits.unserved⟩

theorem noted_books {client : ClientConnection} (books : Bookkeeping server) (found : server.clients[fd]? = some client)
    (frame : ControlFrame) : Bookkeeping (server.setClient fd (note (.received frame) client)) :=
  books.fewer (.setClient found rfl) rfl (fun _ _ present => present) rfl

theorem act_books {action : ServerAction} (books : Bookkeeping server) (done : act server action = some next) :
    Bookkeeping next := by
  cases act_cases done with
  | @accepted fd absent =>
    refine books.fewer (fun other client found => ⟨client, ?_, rfl⟩) rfl (fun _ _ found => found) rfl
    simp only [acceptConnection]
    grind
  | moved found => exact books.fewer (.setClient found rfl) rfl (fun _ _ found => found) rfl
  | @requested fd frame _ client _ found handled =>
    refine effect_books (noted_books books found frame) ⟨_, ExtTreeMap.getElem?_insert_self, ?_⟩ (handleFrame_effect handled).1
    rfl
  | @refused fd requestId error =>
    have answered : Bookkeeping (server.queueResponse fd requestId error []) := queueResponse_books books _ _
    exact answered.fewer (.modifyClient fun _ => rfl) (by simp [refuseInput]) (by simp [refuseInput]) (by simp [refuseInput])
  | unknown => exact books
  | @removed fd client plans state _ called =>
    have dropped := dropClient_books books fd
    have same : (server.dropClient fd).state = server.state := by
      unfold dropClient
      split <;> rfl
    rw [← same] at called
    exact cleaned_books (some fd) dropped (disconnectConnection_loses called)
  | expired called => exact cleaned_books none books (evaluateLiveness_loses called)

theorem create_books {liveness : LivenessConfig} (created : RegistryServer.create liveness = .ok server) : Bookkeeping server := by
  unfold RegistryServer.create at created
  obtain ⟨state, made, created⟩ := bind_ok created
  simp only [pure, Except.pure, Except.ok.injEq] at created
  subst server
  unfold RegistryState.create at made
  split at made
  · cases made
  · cases made
    refine ⟨⟨?_, ?_⟩, ?_, ?_⟩
    all_goals
      intro _ _ found
      simp at found

section HeartbeatSize
open Lib

theorem eventBody_length (event : PeerEventRecord) : (eventBody event).length = 34 := by
  simp [eventBody, writeU16, writeU64, BigEndian.encode_length]

theorem heartbeatBody_length (liveness : LivenessState) (records : List PeerEventRecord) :
    (heartbeatBody liveness records).length = 6 + 34 * records.length := by
  have events : (records.flatMap eventBody).length = 34 * records.length := by
    induction records with
    | nil => rfl
    | cons event rest ih =>
      rw [List.flatMap_cons, List.length_append, eventBody_length, ih, List.length_cons]
      omega
  simp [heartbeatBody, writeU16, writeU32, BigEndian.encode_length, events]
  omega

theorem heartbeat_fits {records : List PeerEventRecord} (short : records.length ≤ kMaxEventsPerNode)
    (liveness : LivenessState) :
    (encodeResponsePayload .ok (heartbeatBody liveness records)).length ≤ kMaxControlPayloadSize := by
  have size := heartbeatBody_length liveness records
  simp only [encodeResponsePayload, responseMessage, ite_true, writeString, writeU16, List.length_append,
    BigEndian.encode_length, List.length_nil, size]
  simp only [kMaxEventsPerNode, kMaxControlPayloadSize] at short ⊢
  omega

end HeartbeatSize

/-- Bookkeeping of the server, in every state between two events of the poll loop. -/
theorem tables_agree {liveness : LivenessConfig} {start server : RegistryServer} {events : List ServerEvent}
    (created : RegistryServer.create liveness = .ok start) (run : execute step start events = some server) :
    (∀ (endpointId : UInt64) (request : PendingDiscovery), server.pending[endpointId]? = some request →
      Waits server endpointId request ∧
      ∀ result, server.state.resolve request.connectionId request.nodeId endpointId = .ok result →
        result.error = .topicNotFound) ∧
    ∀ (id : UInt64) (records : List PeerEventRecord), server.peerEvents[id]? = some records →
      id ∈ server.state.nodes ∧ records.length ≤ kMaxEventsPerNode ∧
      ∀ (liveness : LivenessState) (requestId : UInt32),
        encodeControlFrame Opcode.response.value requestId (encodeResponsePayload .ok (heartbeatBody liveness records)) =
          some (responseFrame requestId .ok (heartbeatBody liveness records)) := by
  have books : Bookkeeping server :=
    execute_invariant (fun _ _ _ held taken => step_keeps (fun _ _ _ => act_books) held taken) (create_books created) run
  refine ⟨fun endpointId request found => ?_, fun id records found => ?_⟩
  · have waits := books.pending endpointId request found
    exact ⟨waits, fun result resolved => (resolve_waits_iff resolved).mpr ⟨waits.owner, waits.unserved⟩⟩
  · obtain ⟨present, short⟩ := books.events id records found
    refine ⟨present, short, fun liveness requestId => ?_⟩
    have fits := heartbeat_fits short liveness
    simp [responseFrame, encodeControlFrame, Nat.not_lt.mpr fits]

def sentBytes (requestId : UInt32) (request : Request) : Bytes :=
  (encodeControlFrame request.opcode.value requestId request.payload).getD []

def sends (fd : Nat) (requestId : UInt32) (request : Request) : ServerEvent :=
  .ready fd (some [.bytes (sentBytes requestId request)]) none false 0

def asks (fd : Nat) (requestId : UInt32) (request : Request) : ServerAction :=
  .request fd (controlFrame request.opcode.value requestId request.payload) 0

/-- Node 1 waits for a subscriber of its topic. Node 2 subscribes to the topic of
node 3, whose connection then fails. -/
def waitingRun : List ServerEvent :=
  [.accept 1, sends 1 1 (.registerNode [97]), sends 1 2 (.advertiseTopic 1 [116] [1] [2] 64 1 {}),
    sends 1 3 (.resolveEndpoint 1 1), .accept 2, sends 2 1 (.registerNode [98]), .accept 3, sends 3 1 (.registerNode [99]),
    sends 3 2 (.advertiseTopic 3 [118] [1] [2] 64 1 {}), sends 2 2 (.subscribeTopic 2 [118] [1] [2] 64 [47] 1 {}),
    .ready 3 (some [.failed]) none false 0]

theorem waitingRun_runs :
    ∃ server, execute step { state := { liveness := {} } } waitingRun = some server ∧
      server.pending[(1 : UInt64)]? = some ⟨1, 1, 1, 1, 3⟩ ∧
      server.peerEvents[(2 : UInt64)]? = some [⟨.publisherDead, 2, 3, 2, 2, 0⟩] := by
  have seen : ((execute step { state := { liveness := {} } } waitingRun).map fun server =>
      (server.pending[(1 : UInt64)]?, server.peerEvents[(2 : UInt64)]?)) =
      some (some ⟨1, 1, 1, 1, 3⟩, some [⟨.publisherDead, 2, 3, 2, 2, 0⟩]) := by decide +kernel
  obtain ⟨server, run, same⟩ := Option.map_eq_some_iff.mp seen
  exact ⟨server, run, congrArg Prod.fst same, congrArg Prod.snd same⟩

theorem tables_agree_waiting :
    ∃ server, RegistryServer.create {} = .ok { state := { liveness := {} } } ∧
      execute step { state := { liveness := {} } } waitingRun = some server ∧ Waits server 1 ⟨1, 1, 1, 1, 3⟩ ∧
      2 ∈ server.state.nodes := by
  obtain ⟨server, run, pending, events⟩ := waitingRun_runs
  have created : RegistryServer.create {} = .ok { state := { liveness := {} } } := rfl
  obtain ⟨waiting, undelivered⟩ := tables_agree created run
  exact ⟨server, created, run, (waiting 1 _ pending).1, (undelivered 2 _ events).1⟩

end RobotMiddleware.Proofs.PendingDiscoveries
