import RobotMiddleware.Proofs.PendingDiscoveries

/-! A request on one connection and the requests that wait on the others. The
table of waiting requests is keyed by endpoint alone, and UnadvertiseTopic erases
an entry before it knows whether the caller owns the endpoint. -/

namespace RobotMiddleware.Proofs.ClientIsolation
open Std Lib.Index Lib.Outcome Lib.Transitions RegistryServer RegistryOwnership ServerEffects PollLoop PendingDiscoveries

def errorOf : JournalEntry → Option ErrorCode
  | .answered _ error => some error
  | _ => none

/-- The error of the first response that the connection got in between. -/
def answerTo (server next : RegistryServer) (fd : Nat) : Option ErrorCode :=
  (server.clients[fd]?).bind fun old => (next.clients[fd]?).bind fun now =>
    (now.journal.drop old.journal.length).findSome? errorOf

def IsSubscribe : Option Request → Prop
  | some (.subscribeTopic ..) => True
  | _ => False

/-- The request leaves the entries of other connections alone, unless it is a
successful SubscribeTopic that answers them; and a request that is answered with an
error leaves the whole table alone. -/
structure Isolated (server next : RegistryServer) (fd : Nat) (connection : UInt64) (request : Option Request) : Prop where
  kept : ∀ (endpointId : UInt64) (entry : PendingDiscovery), server.pending[endpointId]? = some entry →
    entry.connectionId ≠ connection → next.pending[endpointId]? = some entry ∨
      (IsSubscribe request ∧ answerTo server next fd = some .ok ∧ next.pending[endpointId]? = none ∧
        Replied server next entry.fd entry.requestId)
  unaltered : ∀ (endpointId : UInt64) (entry : PendingDiscovery), next.pending[endpointId]? = some entry →
    entry.connectionId ≠ connection → server.pending[endpointId]? = some entry
  failed : ∀ error, answerTo server next fd = some error → error ≠ .ok → next.pending = server.pending

/-- The caller owns the endpoint that it unadvertises, if a request waits for it. -/
def Rightful (server : RegistryServer) (connection : UInt64) (request : Option Request) : Prop :=
  ∀ nodeId endpointId, request = some (.unadvertiseTopic nodeId endpointId) → endpointId ∈ server.pending →
    Owns server.state connection nodeId endpointId

variable {server next : RegistryServer} {fd : Nat} {client : ClientConnection} {connection : UInt64}

theorem answerTo_eq {old now : ClientConnection} {entries : List JournalEntry} (found : server.clients[fd]? = some old)
    (present : next.clients[fd]? = some now) (journal : now.journal = old.journal ++ entries) :
    answerTo server next fd = entries.findSome? errorOf := by
  simp only [answerTo, found, present, Option.bind_some, journal, List.drop_left]

theorem findSome_withdrawals {entries : List JournalEntry} (only : ∀ entry ∈ entries, IsWithdrawal entry)
    (rest : List JournalEntry) : (entries ++ rest).findSome? errorOf = rest.findSome? errorOf := by
  induction entries with
  | nil => rfl
  | cons entry tail ih =>
    have withdrawn := only entry (by simp)
    have remaining := ih fun other member => only other (by simp [member])
    cases entry with
    | withdrawn =>
      rw [List.cons_append, List.findSome?_cons]
      exact remaining
    | received frame | malformed requestId | answered requestId error => exact withdrawn.elim

def noted (server : RegistryServer) (fd : Nat) (client : ClientConnection) (frame : ControlFrame) : RegistryServer :=
  server.setClient fd (note (.received frame) client)

section Answer
variable {frame : ControlFrame} {middle : RegistryServer} (requestId : UInt32) (error : ErrorCode) (body : Bytes)

/-- A handler that withdraws requests at most and then queues its response. -/
theorem answerTo_queued (found : server.clients[fd]? = some client)
    (attends : Attends IsWithdrawal (noted server fd client frame) middle) :
    answerTo server (middle.queueResponse fd requestId error body) fd = some error := by
  obtain ⟨between, present, continues⟩ := attends.kept fd _ ExtTreeMap.getElem?_insert_self
  obtain ⟨entries, appended, only⟩ := continues.journal
  have stored : (middle.queueResponse fd requestId error body).clients[fd]? = some (note (.answered requestId error)
      { between with output := between.output ++ responseFrame requestId error body }) := by
    rw [queueResponse, modifyClient_clients, if_pos rfl, present]
    rfl
  have journal : (note (.answered requestId error)
      { between with output := between.output ++ responseFrame requestId error body }).journal =
      client.journal ++ (.received frame :: (entries ++ [.answered requestId error])) := by
    simp [note, appended]
  rw [answerTo_eq found stored journal, List.findSome?_cons]
  simp [errorOf, findSome_withdrawals only]

theorem answerTo_first (found : server.clients[fd]? = some client)
    (attends : Attends IsReply (middle.queueResponse fd requestId error body) next)
    (same : middle.clients = (noted server fd client frame).clients) : answerTo server next fd = some error := by
  have stored : (middle.queueResponse fd requestId error body).clients[fd]? =
      some (note (.answered requestId error) { note (.received frame) client with
        output := client.output ++ responseFrame requestId error body }) := by
    rw [queueResponse, modifyClient_clients, if_pos rfl, same, noted, RegistryServer.setClient,
      ExtTreeMap.getElem?_insert_self]
    rfl
  obtain ⟨now, present, continues⟩ := attends.kept fd _ stored
  obtain ⟨entries, appended, _⟩ := continues.journal
  have journal : now.journal = client.journal ++ (.received frame :: .answered requestId error :: entries) := by
    simp [appended, note]
  rw [answerTo_eq found present journal]
  rfl

end Answer

theorem others_endpoint {endpointId nodeId : UInt64} (books : Bookkeeping server)
    (owns : Owns server.state connection nodeId endpointId) {entry : PendingDiscovery}
    (found : server.pending[endpointId]? = some entry) : entry.connectionId = connection :=
  (owns.unique (books.pending endpointId entry found).owner).1

theorem isolated_of_same {request : Option Request} (same : next.pending = server.pending) :
    Isolated server next fd connection request :=
  ⟨fun _ _ found _ => .inl (same ▸ found), fun _ _ found _ => same ▸ found, fun _ _ _ => same⟩

theorem cleanupPending_same (books : Bookkeeping server) : server.cleanupPending.pending = server.pending := by
  obtain ⟨_, _, _, pending⟩ := cleanupPending_effect server
  apply ExtTreeMap.ext_getElem?
  intro endpointId
  rw [pending]
  split
  · rfl
  next absent =>
    cases found : server.pending[endpointId]? with
    | none => rfl
    | some request => exact absurd (books.pending endpointId request found).published absent

theorem isolated_of_ok {request : Option Request} (answer : answerTo server next fd = some .ok)
    (kept : ∀ (endpointId : UInt64) (entry : PendingDiscovery), server.pending[endpointId]? = some entry →
      entry.connectionId ≠ connection → next.pending[endpointId]? = some entry)
    (fewer : ∀ (endpointId : UInt64) (entry : PendingDiscovery), next.pending[endpointId]? = some entry →
      server.pending[endpointId]? = some entry) : Isolated server next fd connection request := by
  refine ⟨fun endpointId entry present foreign => .inl (kept endpointId entry present foreign),
    fun endpointId entry present _ => fewer endpointId entry present, fun error told wrong => ?_⟩
  rw [answer] at told
  cases told
  exact absurd rfl wrong

section Cases
variable {frame : ControlFrame} {request : Option Request} {state : RegistryState} {nodeId endpointId : UInt64}
  (books : Bookkeeping server) (found : server.clients[fd]? = some client)
include found

theorem unknownEndpoint_isolated :
    Isolated server ((erasePending (noted server fd client frame) endpointId).queueResponse fd frame.header.requestId
      .endpointNotFound []) fd client.connectionId request ↔ endpointId ∉ server.pending := by
  obtain ⟨_, _, attends, pending⟩ := erasePending_effect (noted server fd client frame) endpointId
  have answer := answerTo_queued frame.header.requestId .endpointNotFound [] found attends
  have erased : (queueResponse (erasePending (noted server fd client frame) endpointId) fd frame.header.requestId
      .endpointNotFound []).pending = server.pending.erase endpointId := by
    rw [queueResponse_pending, pending]
    rfl
  constructor
  · intro isolated waiting
    have unchanged := isolated.failed _ answer (by simp)
    rw [erased] at unchanged
    rw [← unchanged] at waiting
    exact absurd waiting (by simp)
  · intro absent
    refine isolated_of_same ?_
    rw [erased]
    apply ExtTreeMap.ext_getElem?
    intro other
    grind

theorem noted_attends : Attends (fun _ => True) server { noted server fd client frame with state } := by
  refine ⟨fun other old stood => ?_, fun other absent => ?_⟩
  · by_cases same : other = fd
    · subst other
      rw [found] at stood
      cases stood
      exact ⟨_, ExtTreeMap.getElem?_insert_self, note_continues (.received frame) trivial rfl client⟩
    · refine ⟨old, ?_, .refl old⟩
      simp only [noted, RegistryServer.setClient]
      grind
  · have different : other ≠ fd := by
      rintro rfl
      rw [found] at absent
      cases absent
    simp only [noted, RegistryServer.setClient]
    grind

theorem subscribed_isolated {body : Bytes}
    (completed : (queueResponse { noted server fd client frame with state } fd frame.header.requestId .ok body).completePending
      = .ok next) (subscribes : IsSubscribe request) : Isolated server next fd client.connectionId request := by
  obtain ⟨_, _, attends, left, gone⟩ := completePending_effect completed
  have answer := answerTo_first frame.header.requestId .ok body found attends rfl
  have queued := queueResponse_attends { noted server fd client frame with state } fd frame.header.requestId .ok body
  refine ⟨fun endpointId entry present _ => ?_, fun endpointId entry present _ => ?_, fun error told wrong => ?_⟩
  · rcases gone endpointId entry (by rw [queueResponse_pending]; exact present) with still | ⟨erased, replied⟩
    · exact .inl still
    · exact .inr ⟨subscribes, answer, erased, (replied.earlier queued).earlier (noted_attends found)⟩
  · have former := (left endpointId entry present).1
    rw [queueResponse_pending] at former
    exact former
  · rw [answer] at told
    cases told
    exact absurd rfl wrong

include books

theorem unregistered_isolated {node : NodeRecord}
    (owned : server.state.ownedNode client.connectionId nodeId = some node) (loses : Loses [nodeId] server.state state) :
    Isolated server ((cleanupPending { noted server fd client frame with
        state, peerEvents := server.peerEvents.erase nodeId }).queueResponse fd frame.header.requestId .ok [])
      fd client.connectionId request := by
  obtain ⟨_, _, attends, pending⟩ := cleanupPending_effect
    { noted server fd client frame with state, peerEvents := server.peerEvents.erase nodeId }
  refine isolated_of_ok (answerTo_queued frame.header.requestId .ok [] found (attends.of_clients rfl))
    (fun endpointId entry present foreign => ?_) (fun endpointId entry present => ?_)
  · -- The node that goes is the caller's, so a publisher of anybody else stays.
    obtain ⟨holder, publisher, stood, control, published, mine⟩ := (books.pending endpointId entry present).owner.node
    have spared : publisher.nodeId ∉ [nodeId] := by
      intro member
      simp only [List.mem_singleton] at member
      obtain ⟨record, same⟩ := RegistryCalls.ownedNode_some.mp owned
      rw [← member, mine, stood] at record
      cases record
      exact foreign (control.symm.trans same)
    have still : endpointId ∈ state.publishers :=
      mem_iff_found.mpr ⟨publisher, loses.publishers.spares endpointId publisher published spared⟩
    rw [queueResponse_pending, pending, if_pos still]
    exact present
  · rw [queueResponse_pending, pending] at present
    split at present
    · exact present
    · cases present

theorem unadvertised_isolated (owns : Owns server.state client.connectionId nodeId endpointId) :
    Isolated server ((erasePending { noted server fd client frame with state } endpointId).queueResponse fd
      frame.header.requestId .ok []) fd client.connectionId request := by
  obtain ⟨_, _, attends, pending⟩ := erasePending_effect { noted server fd client frame with state } endpointId
  refine isolated_of_ok (answerTo_queued frame.header.requestId .ok [] found (attends.of_clients rfl))
    (fun other entry present foreign => ?_) (fun other entry present => ?_)
  · have different : other ≠ endpointId := by
      rintro rfl
      exact foreign (others_endpoint books owns present)
    rw [queueResponse_pending, pending]
    simp only [noted, RegistryServer.setClient]
    grind
  · rw [queueResponse_pending, pending] at present
    simp only [noted, RegistryServer.setClient] at present
    grind

theorem waits_isolated (owns : Owns server.state client.connectionId nodeId endpointId) {requestId : UInt32} :
    Isolated server { noted server fd client frame with
        pending := server.pending.insert endpointId ⟨fd, client.connectionId, nodeId, endpointId, requestId⟩ }
      fd client.connectionId request := by
  refine ⟨fun other entry present foreign => .inl ?_, fun other entry present foreign => ?_, fun error told _ => ?_⟩
  · have different : other ≠ endpointId := by
      rintro rfl
      exact foreign (others_endpoint books owns present)
    grind
  · simp only [ExtTreeMap.getElem?_insert] at present
    split at present
    · cases present
      exact absurd rfl foreign
    · exact present
  · -- A request that starts to wait has not been answered at all.
    rw [answerTo_eq found (ExtTreeMap.getElem?_insert_self : (server.clients.insert fd _)[fd]? = _)
      (show (note (.received frame) client).journal = client.journal ++ [.received frame] from rfl)] at told
    cases told

theorem effect_isolated
    (effect : RequestEffect (noted server fd client frame) fd client.connectionId frame.header.requestId request next) :
    Isolated server next fd client.connectionId request ↔ Rightful server client.connectionId request := by
  cases effect with
  | answered other =>
    exact ⟨fun _ nodeId endpointId same => absurd same (other nodeId endpointId),
      fun _ => isolated_of_same (queueResponse_pending _ _ _ _ _)⟩
  | unregistered owned loses => exact ⟨fun _ _ _ same => (nomatch same), fun _ => unregistered_isolated books found owned loses⟩
  | unknownNode =>
    refine ⟨fun _ _ _ same => (nomatch same), fun _ => isolated_of_same ?_⟩
    rw [queueResponse_pending]
    exact cleanupPending_same (noted_books books found frame)
  | unadvertised owns =>
    refine ⟨fun _ _ _ same _ => ?_, fun _ => unadvertised_isolated books found owns⟩
    cases same
    exact owns
  | @unknownEndpoint nodeId endpointId foreign =>
    rw [unknownEndpoint_isolated found]
    constructor
    · intro absent _ _ same waiting
      cases same
      exact absurd waiting absent
    · exact fun rightful waiting => foreign (rightful nodeId endpointId rfl waiting)
  | subscribed _ completed => exact ⟨fun _ _ _ same => (nomatch same), fun _ => subscribed_isolated found completed trivial⟩
  | waits owns => exact ⟨fun _ _ _ same => (nomatch same), fun _ => waits_isolated books found owns⟩

end Cases

/-- A request leaves the waiting requests of other connections alone exactly when
it is not an UnadvertiseTopic for an endpoint that somebody waits for and the caller
does not own. Input that is no frame at all changes no entry. -/
theorem pending_isolation {liveness : LivenessConfig} {start server next : RegistryServer} {actions : List ServerAction}
    {client : ClientConnection} {frame : ControlFrame} {now : Int} (created : RegistryServer.create liveness = .ok start)
    (run : execute act start actions = some server) (found : server.clients[fd]? = some client)
    (handled : act server (.request fd frame now) = some next) :
    (Isolated server next fd client.connectionId (requestOf frame) ↔
      Rightful server client.connectionId (requestOf frame)) ∧
    ∀ requestId error, (server.refuseInput fd requestId error).pending = server.pending := by
  have books : Bookkeeping server := execute_invariant (fun _ _ _ => act_books) (create_books created) run
  refine ⟨?_, fun requestId error => by simp [refuseInput]⟩
  obtain ⟨_, present, done⟩ := Option.bind_eq_some_iff.mp handled
  rw [found] at present
  cases present
  exact effect_isolated books found (handleFrame_effect (toOption_some done)).1

/-- Connection 1 advertises a topic and waits for a subscriber; connection 2 is new. -/
def waitingActions : List ServerAction :=
  [.accept 1, asks 1 1 (.registerNode [97]), asks 1 2 (.advertiseTopic 1 [116] [1] [2] 64 1 {}),
    asks 1 3 (.resolveEndpoint 1 1), .accept 2]

theorem waitingActions_run (endpointId : UInt64) (left : Option PendingDiscovery)
    (seen : ((execute act { state := { liveness := {} } } waitingActions).bind fun server =>
      (act server (asks 2 1 (.unadvertiseTopic 1 endpointId))).map fun next =>
        ((server.clients[2]?).map (·.connectionId), server.pending[(1 : UInt64)]?, next.pending[(1 : UInt64)]?)) =
      some (some 2, some ⟨1, 1, 1, 1, 3⟩, left)) :
    ∃ server next client, execute act { state := { liveness := {} } } waitingActions = some server ∧
      server.clients[2]? = some client ∧ client.connectionId = 2 ∧
      act server (asks 2 1 (.unadvertiseTopic 1 endpointId)) = some next ∧
      server.pending[(1 : UInt64)]? = some ⟨1, 1, 1, 1, 3⟩ ∧ next.pending[(1 : UInt64)]? = left := by
  obtain ⟨server, run, seen⟩ := Option.bind_eq_some_iff.mp seen
  obtain ⟨next, handled, seen⟩ := Option.map_eq_some_iff.mp seen
  simp only [Prod.mk.injEq] at seen
  obtain ⟨client, found, same⟩ := Option.map_eq_some_iff.mp seen.1
  exact ⟨server, next, client, run, found, same, handled, seen.2.1, seen.2.2⟩

/-- A client that owns nothing takes the request of another client off the table. -/
theorem pending_isolation_broken :
    ∃ server next client, execute act { state := { liveness := {} } } waitingActions = some server ∧
      server.clients[2]? = some client ∧ act server (asks 2 1 (.unadvertiseTopic 1 1)) = some next ∧
      requestOf (controlFrame 4 1 (Request.unadvertiseTopic 1 1).payload) = some (.unadvertiseTopic 1 1) ∧
      ¬Isolated server next 2 client.connectionId (some (.unadvertiseTopic 1 1)) := by
  obtain ⟨server, next, client, run, found, same, handled, waiting, gone⟩ := waitingActions_run 1 none (by decide +kernel)
  refine ⟨server, next, client, run, found, handled, by decide +kernel, fun isolated => ?_⟩
  rcases isolated.kept 1 _ waiting (by rw [same]; decide) with still | ⟨subscribes, _⟩
  · rw [gone] at still
    cases still
  · exact subscribes

/-- An endpoint that nobody waits for. -/
theorem pending_isolation_unowned :
    ∃ server next client, execute act { state := { liveness := {} } } waitingActions = some server ∧
      server.clients[2]? = some client ∧ act server (asks 2 1 (.unadvertiseTopic 1 7)) = some next ∧
      Isolated server next 2 client.connectionId (some (.unadvertiseTopic 1 7)) := by
  obtain ⟨server, next, client, run, found, same, handled, _, _⟩ :=
    waitingActions_run 7 (some ⟨1, 1, 1, 1, 3⟩) (by decide +kernel)
  have created : RegistryServer.create {} = .ok { state := { liveness := {} } } := rfl
  have request : requestOf (controlFrame 4 1 (Request.unadvertiseTopic 1 7).payload) = some (.unadvertiseTopic 1 7) := by
    decide +kernel
  have absent : (7 : UInt64) ∉ server.pending := by
    have seen : (execute act { state := { liveness := {} } } waitingActions).map (·.pending.contains 7) = some false := by
      decide +kernel
    rw [run, Option.map_some, Option.some.injEq] at seen
    intro waiting
    rw [ExtTreeMap.contains_iff_mem.mpr waiting] at seen
    cases seen
  have isolation := (pending_isolation created run found handled).1
  have sent : (Request.unadvertiseTopic 1 7).opcode.value = 4 := rfl
  rw [sent, request] at isolation
  refine ⟨server, next, client, run, found, handled, isolation.mpr fun nodeId endpointId asked waiting => ?_⟩
  cases asked
  exact absurd waiting absent

end RobotMiddleware.Proofs.ClientIsolation
