import RobotMiddleware.Lib.Entries
import RobotMiddleware.Proofs.PendingDiscoveries

/-! Every request on an open connection is answered once, waits, or was withdrawn
because its publisher endpoint is gone. Only two requests lose another one: a
second ResolveEndpoint that takes the place of the first, and an UnadvertiseTopic
from a caller that does not own the endpoint. -/

namespace RobotMiddleware.Proofs.RequestAccounting
open Std Lib.Entries Lib.Index Lib.Loops Lib.Outcome Lib.Transitions
open RegistryServer RegistryOwnership ServerEffects PollLoop PendingDiscoveries

def askedIds (journal : List JournalEntry) : List UInt32 :=
  journal.filterMap fun
    | .received frame => some frame.header.requestId
    | .malformed requestId => some requestId
    | _ => none

def answeredIds (journal : List JournalEntry) : List UInt32 :=
  journal.filterMap fun
    | .answered requestId _ => some requestId
    | _ => none

def withdrawnIds (journal : List JournalEntry) : List UInt32 :=
  journal.filterMap fun
    | .withdrawn requestId => some requestId
    | _ => none

def waitingIds (pending : ExtTreeMap UInt64 PendingDiscovery) (fd : Nat) : List UInt32 :=
  (pending.toList.filter fun entry => entry.2.fd == fd).map fun entry => entry.2.requestId

/-- Each id is accounted for on each connection. `due` is the request that is being
handled and has no answer yet. -/
def Accounted (due : Option (Nat × UInt32)) (server : RegistryServer) : Prop :=
  ∀ (fd : Nat) (client : ClientConnection) (id : UInt32), server.clients[fd]? = some client →
    (answeredIds client.journal).count id + (withdrawnIds client.journal).count id + (waitingIds server.pending fd).count id +
      (if due = some (fd, id) then 1 else 0) = (askedIds client.journal).count id

variable {server next : RegistryServer} {fd : Nat} {connection : UInt64} {requestId : UInt32} {endpointId : UInt64}
  {due : Option (Nat × UInt32)}

section Waiting
variable {pending : ExtTreeMap UInt64 PendingDiscovery} {request : PendingDiscovery}

theorem count_perm_cons {entries more : List (UInt64 × PendingDiscovery)} (fd : Nat) (id : UInt32)
    (perm : more.Perm ((endpointId, request) :: entries)) :
    ((more.filter fun entry => entry.2.fd == fd).map fun entry => entry.2.requestId).count id =
      ((entries.filter fun entry => entry.2.fd == fd).map fun entry => entry.2.requestId).count id +
        if request.fd = fd ∧ request.requestId = id then 1 else 0 := by
  rw [((perm.filter _).map _).count_eq, List.filter_cons]
  by_cases here : request.fd = fd
  · simp [here, List.count_cons]
  · simp [here]

theorem waiting_insert (absent : pending[endpointId]? = none) (fd : Nat) (id : UInt32) :
    (waitingIds (pending.insert endpointId request) fd).count id =
      (waitingIds pending fd).count id + if request.fd = fd ∧ request.requestId = id then 1 else 0 :=
  count_perm_cons fd id (toList_insert absent)

theorem waiting_erase (found : pending[endpointId]? = some request) (fd : Nat) (id : UInt32) :
    (waitingIds pending fd).count id =
      (waitingIds (pending.erase endpointId) fd).count id + if request.fd = fd ∧ request.requestId = id then 1 else 0 :=
  count_perm_cons fd id (toList_erase found)

theorem waiting_drop {gone : Nat} (different : fd ≠ gone) :
    waitingIds (pending.filter fun _ request => request.fd != gone) fd = waitingIds pending fd := by
  unfold waitingIds
  rw [ExtTreeMap.toList_filter, List.filter_filter]
  congr 2
  funext entry
  by_cases here : entry.2.fd = fd
  · simp [here, different]
  · simp [here]

end Waiting

/-- The account after entries were written into the journal of one connection. Each
id has to balance: what the entries settle and what waits now, against what they
ask and what waited before. -/
theorem Accounted.append {former : Option (Nat × UInt32)} (accounted : Accounted former server)
    {update : ClientConnection → ClientConnection} {entries : List JournalEntry}
    (clients : ∀ other : Nat, next.clients[other]? =
      if other = fd then (server.clients[fd]?).map update else server.clients[other]?)
    (journal : ∀ client, (update client).journal = client.journal ++ entries)
    (balance : ∀ other id, (if other = fd then (answeredIds entries).count id + (withdrawnIds entries).count id else 0) +
        (waitingIds next.pending other).count id + (if due = some (other, id) then 1 else 0) =
      (if other = fd then (askedIds entries).count id else 0) + (waitingIds server.pending other).count id +
        if former = some (other, id) then 1 else 0) : Accounted due next := by
  intro other client id found
  have even := balance other id
  rw [clients] at found
  by_cases same : other = fd
  · subst other
    rw [if_pos rfl] at found
    obtain ⟨old, stood, rfl⟩ := Option.map_eq_some_iff.mp found
    have before := accounted fd old id stood
    rw [journal]
    simp only [answeredIds, withdrawnIds, askedIds, List.filterMap_append, List.count_append, ite_true] at before even ⊢
    omega
  · rw [if_neg same] at found
    have before := accounted other client id found
    simp only [if_neg same] at even
    omega

theorem Accounted.retable (accounted : Accounted due server) (state : RegistryState)
    (peerEvents : ExtTreeMap UInt64 (List PeerEventRecord)) : Accounted due { server with state, peerEvents } :=
  fun other client id found => accounted other client id found

def Settles (requestId : UInt32) (entry : JournalEntry) : Prop :=
  entry = .withdrawn requestId ∨ ∃ error, entry = .answered requestId error

theorem Settles.counts {entry : JournalEntry} (settles : Settles requestId entry) (id : UInt32) :
    (answeredIds [entry]).count id + (withdrawnIds [entry]).count id = (if requestId = id then 1 else 0) ∧
      (askedIds [entry]).count id = 0 := by
  rcases settles with rfl | ⟨error, rfl⟩ <;> by_cases own : requestId = id <;> simp [answeredIds, withdrawnIds, askedIds, own]

/-- One request is settled, which was being handled or waited until now. -/
theorem Accounted.settle {former : Option (Nat × UInt32)} (accounted : Accounted former server)
    {update : ClientConnection → ClientConnection} {entry : JournalEntry} (settles : Settles requestId entry)
    (clients : ∀ other : Nat, next.clients[other]? =
      if other = fd then (server.clients[fd]?).map update else server.clients[other]?)
    (journal : ∀ client, (update client).journal = client.journal ++ [entry])
    (balance : ∀ other id, (waitingIds next.pending other).count id + (if fd = other ∧ requestId = id then 1 else 0) +
        (if due = some (other, id) then 1 else 0) =
      (waitingIds server.pending other).count id + if former = some (other, id) then 1 else 0) : Accounted due next := by
  refine accounted.append clients journal fun other id => ?_
  obtain ⟨settled, nothing⟩ := settles.counts id
  have even := balance other id
  rw [settled, nothing]
  by_cases same : other = fd
  · subst other
    simp only [true_and, ite_true] at even ⊢
    omega
  · have different : fd ≠ other := fun equal => same equal.symm
    simp only [same, different, false_and, ite_false] at even ⊢
    omega

theorem queueResponse_accounted (accounted : Accounted (some (fd, requestId)) server) (error : ErrorCode) (body : Bytes) :
    Accounted none (server.queueResponse fd requestId error body) :=
  accounted.settle (.inr ⟨error, rfl⟩) (modifyClient_clients server _) (fun _ => rfl) fun other id => by simp

theorem Accounted.release (accounted : Accounted due server) {request : PendingDiscovery}
    (found : server.pending[endpointId]? = some request) {update : ClientConnection → ClientConnection} {entry : JournalEntry}
    (settles : Settles request.requestId entry) (clients : ∀ other : Nat, next.clients[other]? =
      if other = request.fd then (server.clients[request.fd]?).map update else server.clients[other]?)
    (journal : ∀ client, (update client).journal = client.journal ++ [entry])
    (pending : next.pending = server.pending.erase endpointId) : Accounted due next := by
  refine accounted.settle settles clients journal fun other id => ?_
  rw [pending, waiting_erase found other id]

theorem erasePending_accounted (accounted : Accounted due server) (gone : endpointId ∉ server.state.publishers) :
    Accounted due (server.erasePending endpointId) := by
  unfold erasePending
  cases found : server.pending[endpointId]? with
  | none => exact accounted
  | some =>
    have absent : server.state.publishers.contains endpointId = false :=
      Bool.eq_false_iff.mpr fun present => gone (ExtTreeMap.contains_iff_mem.mp present)
    simp only [absent, Bool.false_eq_true, ite_false]
    exact accounted.release found (.inl rfl) (modifyClient_clients _ _) (fun _ => rfl) (modifyClient_pending _ _)

theorem completeOne_accounted (accounted : Accounted due server) {request : PendingDiscovery}
    (found : server.pending[endpointId]? = some request) (done : server.completeOne endpointId request = .ok next) :
    Accounted due next ∧ ∀ other : UInt64, other ≠ endpointId → next.pending[other]? = server.pending[other]? := by
  unfold completeOne at done
  obtain ⟨result, _, done⟩ := bind_ok done
  split at done
  · cases done
    exact ⟨accounted, fun _ _ => rfl⟩
  · cases done
    refine ⟨accounted.release found (.inr ⟨result.error, rfl⟩) (modifyClient_clients _ _) (fun _ => rfl) ?_, fun other different => ?_⟩
    · simp
    · simp only [queueResponse_pending]
      grind

/-- Every request is still on the table when its turn comes, as the keys differ. -/
theorem completePending_accounted (accounted : Accounted due server) (done : server.completePending = .ok next) :
    Accounted due next := by
  unfold completePending at done
  have apart : server.pending.toList.Pairwise fun first last => first.1 ≠ last.1 := by
    refine ExtTreeMap.distinct_keys_toList.imp ?_
    intro first last different same
    exact different (by rw [same]; exact ReflOrd.compare_self)
  have looped := @foldlM_rest _ _ _ server.pending.toList
    (fun (now : RegistryServer) (entry : UInt64 × PendingDiscovery) => now.completeOne entry.1 entry.2)
    (fun rest now => Accounted due now ∧ (rest.Pairwise fun first last => first.1 ≠ last.1) ∧
      ∀ entry ∈ rest, now.pending[entry.1]? = some entry.2) server next (fun entry rest now after held step => ?_)
    ⟨accounted, apart, fun _ member => ExtTreeMap.mem_toList_iff_getElem?_eq_some.mp member⟩ done
  · exact looped.1
  · obtain ⟨kept, apart, there⟩ := held
    obtain ⟨first, others⟩ := List.pairwise_cons.mp apart
    obtain ⟨settled, same⟩ := completeOne_accounted kept (there entry (by simp)) step
    refine ⟨settled, others, fun other member => ?_⟩
    rw [same other.1 (first other member).symm]
    exact there other (by simp [member])

theorem dropClient_accounted (accounted : Accounted due server) (fd : Nat) : Accounted due (server.dropClient fd) := by
  unfold dropClient
  split
  · intro other client id found
    have kept : server.clients[other]? = some client ∧ other ≠ fd := by grind
    simp only [waiting_drop kept.2]
    exact accounted other client id kept.1
  · exact accounted

theorem tidies_accounted {before after : RegistryServer} (step : Tidies before after) (accounted : Accounted due before) :
    Accounted due after := by
  cases step with
  | addEvent event =>
    unfold addPeerEvent
    split
    · exact accounted
    · exact accounted.retable _ _
  | forgetEvents => exact accounted.retable _ _
  | withdraw gone => exact erasePending_accounted accounted gone
  | drop fd => exact dropClient_accounted accounted fd

theorem cleanupPending_accounted (accounted : Accounted due server) : Accounted due server.cleanupPending :=
  chain_keeps tidies_accounted (cleanupPending_tidied server) accounted

/-- A resolve comes when nothing waits for the endpoint yet, unless the caller does
not own it and is told so; an unadvertise of an endpoint that somebody waits for
comes from its owner. -/
def OrderlyRequest (server : RegistryServer) (connection : UInt64) : Option Request → Prop
  | some (.resolveEndpoint nodeId endpointId) =>
    endpointId ∈ server.pending → ¬Owns server.state connection nodeId endpointId
  | some (.unadvertiseTopic nodeId endpointId) => endpointId ∈ server.pending → Owns server.state connection nodeId endpointId
  | _ => True

def Orderly (server : RegistryServer) : ServerAction → Prop
  | .request fd frame _ =>
    ∀ client, server.clients[fd]? = some client → OrderlyRequest server client.connectionId (requestOf frame)
  | _ => True

theorem effect_accounted {request : Option Request} (accounted : Accounted (some (fd, requestId)) server)
    (orderly : OrderlyRequest server connection request)
    (effect : RequestEffect server fd connection requestId request next) : Accounted none next := by
  cases effect with
  | @answered _ state peerEvents => exact queueResponse_accounted (accounted.retable state peerEvents) _ _
  | @unregistered nodeId _ state =>
    exact queueResponse_accounted (cleanupPending_accounted (accounted.retable state (server.peerEvents.erase nodeId))) _ _
  | unknownNode => exact queueResponse_accounted (cleanupPending_accounted accounted) _ _
  | @unadvertised nodeId endpointId state _ _ _ publishers =>
    refine queueResponse_accounted (erasePending_accounted (accounted.retable state server.peerEvents) ?_) _ _
    rw [publishers]
    simp
  | @unknownEndpoint nodeId endpointId foreign =>
    have absent : server.pending[endpointId]? = none := by
      by_contra waiting
      exact foreign (orderly (mem_iff_found.mpr (Option.ne_none_iff_exists'.mp waiting)))
    have unchanged : server.erasePending endpointId = server := by
      rw [erasePending, absent]
    rw [unchanged]
    exact queueResponse_accounted accounted _ _
  | @subscribed _ _ _ _ _ _ _ _ state _ _ _ completed =>
    exact completePending_accounted (queueResponse_accounted (accounted.retable state server.peerEvents) _ _) completed
  | @waits nodeId endpointId owns _ =>
    have absent : server.pending[endpointId]? = none := by
      by_contra waiting
      exact orderly (mem_iff_found.mpr (Option.ne_none_iff_exists'.mp waiting)) owns
    intro other client id found
    have before := accounted other client id found
    simp only [waiting_insert absent other id]
    simp only [Option.some.injEq, Prod.mk.injEq, reduceCtorEq, ite_false] at before ⊢
    omega

theorem received_accounted (accounted : Accounted none server) {client : ClientConnection}
    (found : server.clients[fd]? = some client) (frame : ControlFrame) :
    Accounted (some (fd, frame.header.requestId)) (server.setClient fd (note (.received frame) client)) := by
  refine @Accounted.append _ _ fd _ _ accounted (note (.received frame)) [.received frame] (fun other => ?_) (fun _ => rfl)
    fun other id => ?_
  · simp only [RegistryServer.setClient]
    grind
  · by_cases same : other = fd
    · subst other
      by_cases own : frame.header.requestId = id
      · simp [answeredIds, withdrawnIds, askedIds, own, RegistryServer.setClient]
        omega
      · simp [answeredIds, withdrawnIds, askedIds, own, RegistryServer.setClient]
    · have different : fd ≠ other := fun equal => same equal.symm
      simp [same, different, RegistryServer.setClient]

theorem refuse_accounted (accounted : Accounted none server) (error : ErrorCode) :
    Accounted none (server.refuseInput fd requestId error) := by
  refine @Accounted.append _ _ fd _ _ accounted (fun client => note (.malformed requestId)
    { note (.answered requestId error) { client with output := client.output ++ responseFrame requestId error [] } with
      closeAfterWrite := true, input := [] }) [.answered requestId error, .malformed requestId] (fun other => ?_)
    (fun client => by simp [note]) fun other id => ?_
  · rw [refuseInput, modifyClient_clients, queueResponse, modifyClient_clients, modifyClient_clients]
    by_cases same : other = fd
    · simp only [same, ite_true, Option.map_map]
      rfl
    · simp only [same, ite_false]
  · have kept : (server.refuseInput fd requestId error).pending = server.pending := by simp [refuseInput]
    rw [kept]
    by_cases same : other = fd
    · by_cases own : requestId = id <;> simp [answeredIds, withdrawnIds, askedIds, own, same]
    · simp [same]

theorem act_accounted {action : ServerAction} (books : Bookkeeping server) (accounted : Accounted none server)
    (orderly : Orderly server action) (done : act server action = some next) : Accounted none next := by
  cases act_cases done with
  | @accepted fd vacant =>
    -- Whoever waits has an open connection, so nobody waits on the new one.
    have silent : waitingIds server.pending fd = [] := by
      simp only [waitingIds, List.map_eq_nil_iff, List.filter_eq_nil_iff, beq_iff_eq]
      rintro ⟨endpoint, request⟩ member here
      obtain ⟨client, found, _⟩ := (books.pending endpoint request
        (ExtTreeMap.mem_toList_iff_getElem?_eq_some.mp member)).client
      simp only at here
      rw [here, vacant] at found
      cases found
    intro other client id found
    simp only [acceptConnection, ExtTreeMap.getElem?_insert] at found ⊢
    split at found
    next same =>
      have same := LawfulEqOrd.eq_of_compare same
      subst other
      cases found
      simp [silent, answeredIds, withdrawnIds, askedIds]
    next => exact accounted other client id found
  | @moved fd outputOffset input output closeAfterWrite client found =>
    refine @Accounted.append _ _ fd _ _ accounted
      (fun client => { client with input, output, outputOffset, closeAfterWrite }) [] (fun other => ?_) (fun _ => by simp)
      fun other id => by simp [answeredIds, withdrawnIds, askedIds, RegistryServer.setClient]
    simp only [RegistryServer.setClient]
    grind
  | @requested fd frame _ client _ found handled =>
    exact effect_accounted (received_accounted accounted found frame) (orderly client found)
      (handleFrame_effect handled).1
  | refused => exact refuse_accounted accounted _
  | unknown => exact accounted
  | @removed fd _ plans state =>
    have dropped := dropClient_accounted accounted fd
    exact chain_keeps tidies_accounted (applyCleanups_tidied _ plans (some fd))
      (dropped.retable state (server.dropClient fd).peerEvents)
  | @expired _ update state =>
    exact chain_keeps tidies_accounted (applyCleanups_tidied _ update.deadNodes none)
      (accounted.retable state server.peerEvents)

/-- What an action does to a connection that stays open. Only the poll loop takes off the
output, and it leaves the journal. -/
def Records : ServerAction → ClientConnection → ClientConnection → Prop
  | .transfer .., old, new => new.journal = old.journal
  | _, old, new => Grows (fun _ => True) old new

theorem act_records {action : ServerAction} {old new : ClientConnection} (done : act server action = some next)
    (found : server.clients[fd]? = some old) (still : next.clients[fd]? = some new) : Records action old new := by
  have trimmed (trims : Trims server next) : Grows (fun _ => True) old new := by
    obtain ⟨former, stood, continues⟩ := trims fd new still
    rw [found] at stood
    cases stood
    exact continues.grows.mono fun _ _ => trivial
  have attended (attends : Attends (fun _ => True) server next) : Grows (fun _ => True) old new := by
    obtain ⟨now, present, continues⟩ := attends.kept fd old found
    rw [still] at present
    cases present
    exact continues.grows
  cases act_cases done with
  | @accepted other absent =>
    simp only [acceptConnection] at still
    obtain rfl : new = old := by grind
    exact (.refl new : Grows (fun _ => True) new new)
  | @moved other _ _ _ _ client stood =>
    simp only [RegistryServer.setClient] at still
    show new.journal = old.journal
    grind
  | @requested other frame _ client _ stood handled =>
    have noted : Attends (fun _ => True) server (server.modifyClient other (note (.received frame))) :=
      modifyClient_attends server other (note_continues (.received frame) trivial rfl)
    rw [modifyClient, stood] at noted
    exact attended (noted.trans ((effect_attends (handleFrame_effect handled).1).mono fun _ _ => trivial))
  | @refused other requestId error =>
    simp only [refuseInput, queueResponse, modifyClient_clients] at still
    change Grows (fun _ => True) old new
    by_cases here : fd = other
    · subst other
      simp only [ite_true, found, Option.map_some, Option.some.injEq] at still
      subst new
      exact ⟨[(.answered requestId error, responseFrame requestId error []), (.malformed requestId, [])], by simp [note],
        by simp [note], by simp [Queues]⟩
    · simp only [here, ite_false, found, Option.some.injEq] at still
      rw [still]
      exact .refl new
  | unknown => exact attended (.refl server)
  | removed => exact trimmed (removeClient_trims (toOption_some done)).1
  | expired => exact trimmed (expireDeadNodes_trims (toOption_some done))

/-- One answer per request. In every run whose requests are orderly, the requests
that came on an open connection are, each of them once, those that were answered,
those that were withdrawn with their publisher endpoint, and those that wait. An answer
comes into the journal together with its response frame at the end of the output. -/
theorem replies_conserved {liveness : LivenessConfig} {start server : RegistryServer} {actions : List ServerAction}
    {client : ClientConnection} (created : RegistryServer.create liveness = .ok start)
    (orderly : Along act Orderly start actions) (run : execute act start actions = some server)
    (found : server.clients[fd]? = some client) :
    (answeredIds client.journal ++ withdrawnIds client.journal ++ waitingIds server.pending fd).Perm
      (askedIds client.journal) ∧
    ∀ action next new, act server action = some next → next.clients[fd]? = some new → Records action client new := by
  refine ⟨?_, fun action next new done still => act_records done found still⟩
  have begins : Bookkeeping start ∧ Accounted none start := by
    refine ⟨create_books created, fun other client id present => ?_⟩
    simp [create_clients created] at present
  have kept : ∀ now action after, Bookkeeping now ∧ Accounted none now → Orderly now action → act now action = some after →
      Bookkeeping after ∧ Accounted none after :=
    fun now action after held allowed taken => ⟨act_books held.1 taken, act_accounted held.1 held.2 allowed taken⟩
  have holds := orderly.invariant kept begins run
  rw [List.perm_iff_count]
  intro id
  have even := holds.2 fd client id found
  simp only [List.count_append, reduceCtorEq, ite_false] at even ⊢
  omega

/-- A publisher asks twice for the subscribers of its endpoint. -/
def resolvedTwice : List ServerAction :=
  [.accept 1, asks 1 1 (.registerNode [97]), asks 1 2 (.advertiseTopic 1 [116] [1] [2] 64 1 {}),
    asks 1 3 (.resolveEndpoint 1 1), asks 1 4 (.resolveEndpoint 1 1)]

/-- The first of the two requests is forgotten: it is not answered and does not wait. -/
theorem replies_lost :
    ∃ server client, execute act { state := { liveness := {} } } resolvedTwice = some server ∧
      server.clients[1]? = some client ∧
      ¬(answeredIds client.journal ++ withdrawnIds client.journal ++ waitingIds server.pending 1).Perm
        (askedIds client.journal) := by
  have seen : ((execute act { state := { liveness := {} } } resolvedTwice).bind fun server =>
      (server.clients[1]?).map fun client => (answeredIds client.journal ++ withdrawnIds client.journal ++
        waitingIds server.pending 1, askedIds client.journal)) = some ([1, 2, 4], [1, 2, 3, 4]) := by decide +kernel
  obtain ⟨server, run, seen⟩ := Option.bind_eq_some_iff.mp seen
  obtain ⟨client, found, same⟩ := Option.map_eq_some_iff.mp seen
  simp only [Prod.mk.injEq] at same
  refine ⟨server, client, run, found, ?_⟩
  rw [same.1, same.2]
  decide

def owns (state : RegistryState) (connection nodeId endpointId : UInt64) : Bool :=
  (state.ownedNode connection nodeId).isSome && (state.publishers[endpointId]?).any fun publisher => publisher.nodeId == nodeId

theorem owns_iff (state : RegistryState) (connection nodeId endpointId : UInt64) :
    owns state connection nodeId endpointId = true ↔ Owns state connection nodeId endpointId := by
  simp only [owns, Owns, Bool.and_eq_true, Option.isSome_iff_exists, Option.any_eq_true, beq_iff_eq]
  constructor
  · rintro ⟨⟨node, mine⟩, publisher, found, same⟩
    exact ⟨node, publisher, mine, found, same⟩
  · rintro ⟨node, publisher, mine, found, same⟩
    exact ⟨⟨node, mine⟩, publisher, found, same⟩

def orderlyCheck (server : RegistryServer) : ServerAction → Bool
  | .request fd frame _ =>
    (server.clients[fd]?).all fun client =>
      match requestOf frame with
      | some (.resolveEndpoint nodeId endpointId) =>
        !server.pending.contains endpointId || !owns server.state client.connectionId nodeId endpointId
      | some (.unadvertiseTopic nodeId endpointId) =>
        !server.pending.contains endpointId || owns server.state client.connectionId nodeId endpointId
      | _ => true
  | _ => true

theorem orderlyCheck_sound (server : RegistryServer) (action : ServerAction) (checked : orderlyCheck server action = true) :
    Orderly server action := by
  cases action with
  | request fd frame now =>
    intro client found
    simp only [orderlyCheck, found, Option.all_some] at checked
    cases asked : requestOf frame with
    | none => trivial
    | some request =>
      rw [asked] at checked
      cases request with
      | resolveEndpoint =>
        simp only [Bool.or_eq_true, Bool.not_eq_true'] at checked
        intro waiting owned
        rw [ExtTreeMap.contains_iff_mem.mpr waiting, (owns_iff _ _ _ _).mpr owned] at checked
        simp at checked
      | unadvertiseTopic =>
        simp only [Bool.or_eq_true, Bool.not_eq_true'] at checked
        intro waiting
        rw [ExtTreeMap.contains_iff_mem.mpr waiting] at checked
        exact (owns_iff _ _ _ _).mp (by simpa using checked)
      | _ => trivial
  | _ => trivial

/-- One resolve is answered when another node subscribes, and a second one waits for
a topic that has no subscriber. -/
def resolvedOnce : List ServerAction :=
  [.accept 1, asks 1 1 (.registerNode [97]), asks 1 2 (.advertiseTopic 1 [116] [1] [2] 64 1 {}),
    asks 1 3 (.resolveEndpoint 1 1), .accept 2, asks 2 1 (.registerNode [98]),
    asks 2 2 (.subscribeTopic 2 [116] [1] [2] 64 [47] 1 {}), asks 1 4 (.advertiseTopic 1 [117] [1] [2] 64 1 {}),
    asks 1 5 (.resolveEndpoint 1 3)]

theorem replies_conserved_resolved :
    ∃ server client next new, execute act { state := { liveness := {} } } resolvedOnce = some server ∧
      server.clients[1]? = some client ∧ act server (asks 1 6 .listNodes) = some next ∧ next.clients[1]? = some new ∧
      answeredIds client.journal ++ withdrawnIds client.journal ++ waitingIds server.pending 1 = [1, 2, 3, 4, 5] ∧
      answeredIds new.journal = [1, 2, 3, 4, 6] ∧
      (answeredIds client.journal ++ withdrawnIds client.journal ++ waitingIds server.pending 1).Perm
        (askedIds client.journal) ∧ Records (asks 1 6 .listNodes) client new := by
  have seen : ((execute act { state := { liveness := {} } } resolvedOnce).bind fun server =>
      (server.clients[1]?).bind fun client => (act server (asks 1 6 .listNodes)).bind fun next =>
        (next.clients[1]?).map fun new => (answeredIds client.journal ++ withdrawnIds client.journal ++
          waitingIds server.pending 1, answeredIds new.journal)) = some ([1, 2, 3, 4, 5], [1, 2, 3, 4, 6]) := by
    decide +kernel
  have created : RegistryServer.create {} = .ok { state := { liveness := {} } } := rfl
  have orderly : Along act Orderly { state := { liveness := {} } } resolvedOnce :=
    along_of_check orderlyCheck_sound (by decide +kernel)
  obtain ⟨server, run, seen⟩ := Option.bind_eq_some_iff.mp seen
  obtain ⟨client, found, seen⟩ := Option.bind_eq_some_iff.mp seen
  obtain ⟨next, done, seen⟩ := Option.bind_eq_some_iff.mp seen
  obtain ⟨new, still, same⟩ := Option.map_eq_some_iff.mp seen
  simp only [Prod.mk.injEq] at same
  obtain ⟨balanced, records⟩ := replies_conserved created orderly run found
  exact ⟨server, client, next, new, run, found, done, still, same.1, same.2, balanced, records _ next new done still⟩

end RobotMiddleware.Proofs.RequestAccounting
