import RobotMiddleware.Lib.Transitions
import RobotMiddleware.Proofs.NodeFrames
import RobotMiddleware.ServerActions

/-! What the server does to its tables: first the helpers that every handler
uses, then one description of all that a request can do. -/

namespace RobotMiddleware.Proofs.ServerEffects
open Std Lib.Outcome Lib.Loops Lib.Transitions RegistryServer RegistryOwnership NodeFrames

/-- The request in a frame; without one the frame is answered with an error. -/
def requestOf (frame : ControlFrame) : Option Request :=
  (requestOpcode frame.header.opcode).bind fun opcode => decodeRequest opcode frame.payload

def IsReply : JournalEntry → Prop
  | .answered _ _ | .withdrawn _ => True
  | .received _ | .malformed _ => False

def IsWithdrawal : JournalEntry → Prop
  | .withdrawn _ => True
  | _ => False

/-- What an entry of the journal puts on the output: an answer its response, and others nothing. -/
def Queues : JournalEntry × Bytes → Prop
  | (.answered requestId error, queued) => ∃ body, queued = responseFrame requestId error body
  | (_, queued) => queued = []

/-- The journal has got entries of one kind, and the output what they queue. -/
def Grows (kind : JournalEntry → Prop) (old new : ClientConnection) : Prop :=
  ∃ entries : List (JournalEntry × Bytes), new.journal = old.journal ++ entries.map Prod.fst ∧
    new.output = old.output ++ entries.flatMap Prod.snd ∧ ∀ entry ∈ entries, kind entry.1 ∧ Queues entry

structure Continues (kind : JournalEntry → Prop) (old new : ClientConnection) : Prop where
  connectionId : new.connectionId = old.connectionId
  input : new.input = old.input
  outputOffset : new.outputOffset = old.outputOffset
  closeAfterWrite : new.closeAfterWrite = old.closeAfterWrite
  grows : Grows kind old new

structure Attends (kind : JournalEntry → Prop) (before after : RegistryServer) : Prop where
  kept : ∀ (fd : Nat) (old : ClientConnection), before.clients[fd]? = some old →
    ∃ new, after.clients[fd]? = some new ∧ Continues kind old new
  same : ∀ (fd : Nat), before.clients[fd]? = none → after.clients[fd]? = none

/-- In between, the connection got a response to this request. -/
def Replied (before after : RegistryServer) (fd : Nat) (requestId : UInt32) : Prop :=
  ∀ client, before.clients[fd]? = some client → ∃ now replies error, after.clients[fd]? = some now ∧
    now.journal = client.journal ++ replies ∧ .answered requestId error ∈ replies

variable {server before middle after next : RegistryServer} {fd : Nat} {connection : UInt64} {requestId : UInt32}
  {kind other : JournalEntry → Prop} {old between new : ClientConnection}

theorem Grows.refl (client : ClientConnection) : Grows kind client client := ⟨[], by simp, by simp, by simp⟩

theorem Grows.trans (first : Grows kind old between) (last : Grows kind between new) : Grows kind old new := by
  obtain ⟨replies, appended, queued, only⟩ := first
  obtain ⟨more, again, further, also⟩ := last
  refine ⟨replies ++ more, by simp [again, appended], by simp [further, queued], fun entry member => ?_⟩
  rcases List.mem_append.mp member with early | late
  · exact only entry early
  · exact also entry late

theorem Grows.mono (weaker : ∀ entry, kind entry → other entry) (grows : Grows kind old new) : Grows other old new := by
  obtain ⟨entries, appended, queued, only⟩ := grows
  exact ⟨entries, appended, queued, fun entry member => ⟨weaker _ (only entry member).1, (only entry member).2⟩⟩

theorem Continues.journal (continues : Continues kind old new) :
    ∃ entries, new.journal = old.journal ++ entries ∧ ∀ entry ∈ entries, kind entry := by
  obtain ⟨entries, appended, _, only⟩ := continues.grows
  refine ⟨_, appended, fun entry member => ?_⟩
  obtain ⟨pair, listed, rfl⟩ := List.mem_map.mp member
  exact (only pair listed).1

theorem Continues.refl (client : ClientConnection) : Continues kind client client := ⟨rfl, rfl, rfl, rfl, .refl client⟩

theorem Continues.trans (first : Continues kind old between) (last : Continues kind between new) : Continues kind old new :=
  ⟨last.connectionId.trans first.connectionId, last.input.trans first.input, last.outputOffset.trans first.outputOffset,
    last.closeAfterWrite.trans first.closeAfterWrite, first.grows.trans last.grows⟩

theorem Attends.refl (server : RegistryServer) : Attends kind server server :=
  ⟨fun _ old found => ⟨old, found, .refl old⟩, fun _ absent => absent⟩

theorem Attends.trans (first : Attends kind before middle) (last : Attends kind middle after) : Attends kind before after := by
  refine ⟨fun fd old found => ?_, fun fd absent => last.same fd (first.same fd absent)⟩
  obtain ⟨between, present, continues⟩ := first.kept fd old found
  obtain ⟨new, stands, again⟩ := last.kept fd between present
  exact ⟨new, stands, continues.trans again⟩

theorem Attends.of_clients (attends : Attends kind before after) {other : RegistryServer}
    (same : other.clients = before.clients) : Attends kind other after := by
  refine ⟨?_, ?_⟩
  · rw [same]
    exact attends.kept
  · rw [same]
    exact attends.same

theorem Attends.mono (weaker : ∀ entry, kind entry → other entry) (attends : Attends kind before after) :
    Attends other before after := by
  refine ⟨fun fd old found => ?_, attends.same⟩
  obtain ⟨new, present, continues⟩ := attends.kept fd old found
  exact ⟨new, present, continues.connectionId, continues.input, continues.outputOffset, continues.closeAfterWrite,
    continues.grows.mono weaker⟩

theorem Attends.reply (attends : Attends IsWithdrawal before after) : Attends IsReply before after :=
  attends.mono fun entry withdrawn => by cases entry <;> trivial

theorem Replied.earlier (replied : Replied middle after fd requestId) (attends : Attends kind before middle) :
    Replied before after fd requestId := by
  intro client found
  obtain ⟨between, present, continues⟩ := attends.kept fd client found
  obtain ⟨now, replies, error, stands, journal, member⟩ := replied between present
  obtain ⟨first, appended, _⟩ := continues.journal
  exact ⟨now, first ++ replies, error, stands, by rw [journal, appended, List.append_assoc], by simp [member]⟩

theorem Replied.later (replied : Replied before middle fd requestId) (attends : Attends kind middle after) :
    Replied before after fd requestId := by
  intro client found
  obtain ⟨between, replies, error, present, journal, member⟩ := replied client found
  obtain ⟨now, stands, continues⟩ := attends.kept fd between present
  obtain ⟨more, appended, _⟩ := continues.journal
  exact ⟨now, replies ++ more, error, stands, by rw [appended, journal, List.append_assoc], by simp [member]⟩

section Modify
variable (server) (update : ClientConnection → ClientConnection)

@[simp] theorem modifyClient_state : (server.modifyClient fd update).state = server.state := by
  unfold modifyClient
  split <;> rfl

@[simp] theorem modifyClient_pending : (server.modifyClient fd update).pending = server.pending := by
  unfold modifyClient
  split <;> rfl

@[simp] theorem modifyClient_peerEvents : (server.modifyClient fd update).peerEvents = server.peerEvents := by
  unfold modifyClient
  split <;> rfl

theorem modifyClient_clients (other : Nat) :
    (server.modifyClient fd update).clients[other]? =
      if other = fd then (server.clients[fd]?).map update else server.clients[other]? := by
  unfold modifyClient
  cases found : server.clients[fd]? with
  | none => grind
  | some =>
    simp only [RegistryServer.setClient]
    grind

end Modify

theorem modifyClient_attends (server : RegistryServer) (fd : Nat) {update : ClientConnection → ClientConnection}
    (continues : ∀ client, Continues kind client (update client)) : Attends kind server (server.modifyClient fd update) := by
  refine ⟨fun other old found => ?_, fun other absent => ?_⟩
  · rw [modifyClient_clients]
    by_cases same : other = fd
    · subst other
      exact ⟨update old, by simp [found], continues old⟩
    · exact ⟨old, by simp [same, found], .refl old⟩
  · rw [modifyClient_clients]
    by_cases same : other = fd
    · subst other
      simp [absent]
    · simp [same, absent]

theorem note_continues (entry : JournalEntry) (allowed : kind entry) (silent : Queues (entry, [])) (client : ClientConnection) :
    Continues kind client (note entry client) :=
  ⟨rfl, rfl, rfl, rfl, [(entry, [])], rfl, by simp [note], by simp [allowed, silent]⟩

section QueueResponse
variable (server) (fd) (requestId) (error : ErrorCode) (body : Bytes)

@[simp] theorem queueResponse_state : (server.queueResponse fd requestId error body).state = server.state :=
  modifyClient_state server _

@[simp] theorem queueResponse_pending : (server.queueResponse fd requestId error body).pending = server.pending :=
  modifyClient_pending server _

@[simp] theorem queueResponse_peerEvents : (server.queueResponse fd requestId error body).peerEvents = server.peerEvents :=
  modifyClient_peerEvents server _

theorem queueResponse_attends : Attends IsReply server (server.queueResponse fd requestId error body) :=
  modifyClient_attends server fd fun _ => ⟨rfl, rfl, rfl, rfl,
    [(.answered requestId error, responseFrame requestId error body)], rfl, by simp [note], by simp [IsReply, Queues]⟩

theorem queueResponse_replied : Replied server (server.queueResponse fd requestId error body) fd requestId := by
  intro client found
  refine ⟨note (.answered requestId error) { client with output := client.output ++ responseFrame requestId error body },
    [.answered requestId error], error, ?_, rfl, by simp⟩
  rw [queueResponse, modifyClient_clients, if_pos rfl, found]
  rfl

end QueueResponse

theorem refuseInput_marked {client : ClientConnection} (found : server.clients[fd]? = some client) (requestId : UInt32)
    (error : ErrorCode) :
    ∃ still, (server.refuseInput fd requestId error).clients[fd]? = some still ∧ still.closeAfterWrite = true := by
  simp only [refuseInput, queueResponse, modifyClient_clients, ite_true, found, Option.map_some]
  exact ⟨_, rfl, rfl⟩

section ErasePending
variable (server) (endpointId : UInt64)

theorem erasePending_effect :
    (server.erasePending endpointId).state = server.state ∧ (server.erasePending endpointId).peerEvents = server.peerEvents ∧
      Attends IsWithdrawal server (server.erasePending endpointId) ∧
      (server.erasePending endpointId).pending = server.pending.erase endpointId := by
  unfold erasePending
  cases found : server.pending[endpointId]? with
  | none =>
    refine ⟨rfl, rfl, .refl server, ?_⟩
    apply ExtTreeMap.ext_getElem?
    intro other
    grind
  | some request =>
    simp only
    split
    · exact ⟨rfl, rfl, (Attends.refl _).of_clients rfl, rfl⟩
    · refine ⟨by simp, by simp, ?_, by simp⟩
      exact (modifyClient_attends _ _ (note_continues (.withdrawn request.requestId) trivial rfl)).of_clients rfl

@[simp] theorem erasePending_state : (server.erasePending endpointId).state = server.state := (erasePending_effect server endpointId).1

end ErasePending

/-- `cleanupPending` keeps exactly the requests whose publisher is there. -/
theorem cleanupPending_effect (server : RegistryServer) :
    server.cleanupPending.state = server.state ∧ server.cleanupPending.peerEvents = server.peerEvents ∧
      Attends IsWithdrawal server server.cleanupPending ∧
      ∀ endpointId : UInt64, server.cleanupPending.pending[endpointId]? =
        if endpointId ∈ server.state.publishers then server.pending[endpointId]? else none := by
  have looped := @foldl_each _ _ server.pending.toList
    (fun now entry => if now.state.publishers.contains entry.1 then now else now.erasePending entry.1)
    (fun now => now.state = server.state ∧ now.peerEvents = server.peerEvents ∧ Attends IsWithdrawal server now ∧
      ∀ endpointId : UInt64, (endpointId ∈ server.state.publishers → now.pending[endpointId]? = server.pending[endpointId]?) ∧
        ∀ request, now.pending[endpointId]? = some request → server.pending[endpointId]? = some request)
    (fun entry now => entry.1 ∉ server.state.publishers → now.pending[entry.1]? = none) server
    (fun now entry _ held => ?_) ⟨rfl, rfl, .refl server, fun _ => ⟨fun _ => rfl, fun _ found => found⟩⟩
  · obtain ⟨⟨state, events, attends, kept⟩, each, _⟩ := looped
    refine ⟨state, events, attends, fun endpointId => ?_⟩
    split
    next published => exact (kept endpointId).1 published
    next gone =>
      by_contra remains
      obtain ⟨request, present⟩ := Option.ne_none_iff_exists'.mp remains
      have member := ExtTreeMap.mem_toList_iff_getElem?_eq_some.mpr ((kept endpointId).2 request present)
      have absent := each _ member gone
      exact remains absent
  · obtain ⟨state, events, attends, kept⟩ := held
    obtain ⟨sameState, sameEvents, replied, pending⟩ := erasePending_effect now entry.1
    by_cases published : now.state.publishers.contains entry.1
    · simp only [published, ite_true]
      refine ⟨⟨state, events, attends, kept⟩, fun gone => absurd ?_ gone, fun _ before => before⟩
      rw [← state]
      exact ExtTreeMap.contains_iff_mem.mp published
    · simp only [published, Bool.false_eq_true, ite_false]
      rw [state] at published
      refine ⟨⟨sameState.trans state, sameEvents.trans events, attends.trans replied, fun endpointId => ?_⟩, fun _ => ?_,
        fun other before gone => ?_⟩
      · have known := kept endpointId
        rw [pending]
        grind
      · rw [pending]
        grind
      · have known := before gone
        rw [pending]
        grind

theorem completeOne_effect {endpointId : UInt64} {request : PendingDiscovery}
    (done : server.completeOne endpointId request = .ok next) :
    ∃ result, server.state.resolve request.connectionId request.nodeId request.publisherEndpointId = .ok result ∧
      ((result.error = .topicNotFound ∧ next = server) ∨
        (result.error ≠ .topicNotFound ∧ next.state = server.state ∧ next.peerEvents = server.peerEvents ∧
          Attends IsReply server next ∧ Replied server next request.fd request.requestId ∧
          next.pending = server.pending.erase endpointId)) := by
  unfold completeOne at done
  obtain ⟨result, resolved, done⟩ := bind_ok done
  refine ⟨result, resolved, ?_⟩
  split at done
  next waits =>
    simp only [pure, Except.pure, Except.ok.injEq] at done
    exact .inl ⟨waits, done.symm⟩
  next answered =>
    simp only [pure, Except.pure, Except.ok.injEq] at done
    subst next
    refine .inr ⟨answered, by simp, by simp, ?_, ?_, by simp⟩
    · exact ⟨(queueResponse_attends server _ _ _ _).kept, (queueResponse_attends server _ _ _ _).same⟩
    · exact queueResponse_replied server _ _ _ _

/-- A request that `completePending` leaves still has nothing to be told, and any
other one got its response. -/
theorem completePending_effect (done : server.completePending = .ok next) :
    next.state = server.state ∧ next.peerEvents = server.peerEvents ∧ Attends IsReply server next ∧
      (∀ (endpointId : UInt64) (request : PendingDiscovery), next.pending[endpointId]? = some request →
        server.pending[endpointId]? = some request ∧
        ∃ result, server.state.resolve request.connectionId request.nodeId request.publisherEndpointId = .ok result ∧
          result.error = .topicNotFound) ∧
      ∀ (endpointId : UInt64) (request : PendingDiscovery), server.pending[endpointId]? = some request →
        next.pending[endpointId]? = some request ∨
          (next.pending[endpointId]? = none ∧ Replied server next request.fd request.requestId) := by
  unfold completePending at done
  have looped := @foldlM_each _ _ _ server.pending.toList
    (fun (now : RegistryServer) (entry : UInt64 × PendingDiscovery) => now.completeOne entry.1 entry.2)
    (fun now => now.state = server.state ∧ now.peerEvents = server.peerEvents ∧ Attends IsReply server now ∧
      (∀ (endpointId : UInt64) (request : PendingDiscovery), now.pending[endpointId]? = some request →
        server.pending[endpointId]? = some request) ∧
      ∀ (endpointId : UInt64) (request : PendingDiscovery), server.pending[endpointId]? = some request →
        now.pending[endpointId]? = some request ∨
          (now.pending[endpointId]? = none ∧ Replied server now request.fd request.requestId))
    (fun entry now => now.pending[entry.1]? = none ∨
      ∃ result, server.state.resolve entry.2.connectionId entry.2.nodeId entry.2.publisherEndpointId = .ok result ∧
        result.error = .topicNotFound) server next
    (fun now entry after member held step => ?_)
    ⟨rfl, rfl, .refl server, fun _ _ found => found, fun _ _ found => .inl found⟩ done
  · obtain ⟨⟨state, events, attends, fewer, kept⟩, each, _⟩ := looped
    refine ⟨state, events, attends, fun endpointId request found => ?_, kept⟩
    have former := fewer endpointId request found
    refine ⟨former, ?_⟩
    rcases each _ (ExtTreeMap.mem_toList_iff_getElem?_eq_some.mpr former) with gone | waits
    · rw [found] at gone
      cases gone
    · exact waits
  · obtain ⟨state, events, attends, fewer, kept⟩ := held
    obtain ⟨endpoint, request⟩ := entry
    obtain ⟨result, resolved, effect⟩ := completeOne_effect step
    rw [state] at resolved
    rcases effect with ⟨waits, rfl⟩ | ⟨_, sameState, sameEvents, replies, replied, pending⟩
    · exact ⟨⟨state, events, attends, fewer, kept⟩, .inr ⟨result, resolved, waits⟩, fun _ before => before⟩
    refine ⟨⟨sameState.trans state, sameEvents.trans events, attends.trans replies, fun other record found => ?_,
      fun other record found => ?_⟩, .inl ?_, fun other before => ?_⟩
    · rw [pending] at found
      exact fewer other record (by grind)
    · by_cases same : other = endpoint
      · subst other
        have own := ExtTreeMap.mem_toList_iff_getElem?_eq_some.mp member
        rw [own] at found
        cases found
        exact .inr ⟨by rw [pending]; grind, replied.earlier attends⟩
      · rcases kept other record found with still | ⟨gone, told⟩
        · exact .inl (by rw [pending]; grind)
        · exact .inr ⟨by rw [pending]; grind, told.later replies⟩
    · rw [pending]
      grind
    · rcases before with gone | waits
      · exact .inl (by rw [pending]; grind)
      · exact .inr waits

/-- One thing that a cleanup does to the tables. -/
inductive Tidies : RegistryServer → RegistryServer → Prop where
  | addEvent (server : RegistryServer) (event : PeerEventRecord) : Tidies server (server.addPeerEvent event)
  | forgetEvents (server : RegistryServer) (nodeId : UInt64) :
      Tidies server { server with peerEvents := server.peerEvents.erase nodeId }
  | withdraw (server : RegistryServer) {endpointId : UInt64} (gone : endpointId ∉ server.state.publishers) :
      Tidies server (server.erasePending endpointId)
  | drop (server : RegistryServer) (fd : Nat) : Tidies server (server.dropClient fd)

section Cleanups
open Relation

theorem cleanupPending_tidied (server : RegistryServer) : ReflTransGen Tidies server server.cleanupPending := by
  refine foldl_keeps (fun now entry _ chain => ?_) .refl
  by_cases published : now.state.publishers.contains entry.1
  · simp only [published, ite_true]
    exact chain
  · simp only [published, Bool.false_eq_true, ite_false]
    exact chain.tail (.withdraw now fun member => published (ExtTreeMap.contains_iff_mem.mpr member))

theorem applyCleanup_tidied (server : RegistryServer) (cleanup : DeadNodeCleanup) :
    ReflTransGen Tidies server (server.applyCleanup cleanup) := by
  have added : ReflTransGen Tidies server (cleanup.peerEvents.foldl addPeerEvent server) :=
    foldl_keeps (fun now event _ chain => chain.tail (.addEvent now event)) .refl
  exact (added.tail (.forgetEvents _ cleanup.nodeId)).trans (cleanupPending_tidied _)

theorem closeConnection_tidied (exceptFd : Option Nat) (server : RegistryServer) (connectionId : UInt64) :
    ReflTransGen Tidies server (closeConnection exceptFd server connectionId) := by
  unfold closeConnection
  split
  · exact .refl
  cases server.fdForConnection connectionId with
  | none => exact .refl
  | some fd =>
    simp only
    split
    · exact .refl
    · exact .single (.drop server fd)

theorem applyCleanups_tidied (server : RegistryServer) (cleanups : List DeadNodeCleanup) (exceptFd : Option Nat) :
    ReflTransGen Tidies server (server.applyCleanups cleanups exceptFd) := by
  refine foldl_keeps (fun now cleanup _ chain => ?_) .refl
  refine foldl_keeps (fun now id _ chain => ?_) (chain.trans (applyCleanup_tidied now cleanup))
  exact chain.trans (closeConnection_tidied exceptFd now id)

theorem removeClient_cases (done : server.removeClient fd = .ok next) : server.clients[fd]? = none ∧ next = server ∨
    ∃ client plans state, server.clients[fd]? = some client ∧
      server.state.disconnectConnection client.connectionId = .ok (plans, state) ∧
      next = applyCleanups { server.dropClient fd with state } plans (some fd) := by
  unfold removeClient at done
  cases found : server.clients[fd]? with
  | none =>
    simp only [found, Except.ok.injEq] at done
    exact .inl ⟨rfl, done.symm⟩
  | some client =>
    simp only [found] at done
    obtain ⟨⟨plans, state⟩, called, done⟩ := bind_ok done
    have same : (server.dropClient fd).state = server.state := by
      unfold dropClient
      split <;> rfl
    rw [same] at called
    cases done
    exact .inr ⟨client, plans, state, rfl, called, rfl⟩

theorem expireDeadNodes_cases {now : Int} (done : server.expireDeadNodes now = .ok next) :
    ∃ update state, server.state.evaluateLiveness now = .ok (update, state) ∧
      next = applyCleanups { server with state } update.deadNodes none := by
  unfold expireDeadNodes at done
  obtain ⟨⟨update, state⟩, called, done⟩ := bind_ok done
  cases done
  exact ⟨update, state, called, rfl⟩

end Cleanups

/-- Some connections may have gone, and the others have only been replied to. -/
def Trims (before after : RegistryServer) : Prop :=
  ∀ (fd : Nat) (new : ClientConnection), after.clients[fd]? = some new →
    ∃ old, before.clients[fd]? = some old ∧ Continues IsReply old new

theorem Trims.trans (first : Trims before middle) (last : Trims middle after) : Trims before after := by
  intro fd new found
  obtain ⟨between, present, continues⟩ := last fd new found
  obtain ⟨old, stood, earlier⟩ := first fd between present
  exact ⟨old, stood, earlier.trans continues⟩

theorem Attends.trims (attends : Attends IsReply before after) : Trims before after := by
  intro fd new found
  cases stood : before.clients[fd]? with
  | none =>
    rw [attends.same fd stood] at found
    cases found
  | some old =>
    obtain ⟨now, present, continues⟩ := attends.kept fd old stood
    rw [found] at present
    cases present
    exact ⟨old, rfl, continues⟩

theorem dropClient_trims (server : RegistryServer) (fd : Nat) :
    Trims server (server.dropClient fd) ∧ (server.dropClient fd).clients[fd]? = none := by
  unfold dropClient
  split
  · refine ⟨fun other new found => ⟨new, ?_, .refl new⟩, ?_⟩
    · grind
    · simp
  next absent => exact ⟨(Attends.refl server).trims, by grind⟩

theorem tidies_trims (step : Tidies before after) : Trims before after := by
  cases step with
  | addEvent event =>
    unfold addPeerEvent
    split
    · exact (Attends.refl _).trims
    · exact ((Attends.refl _).of_clients rfl).trims
  | forgetEvents => exact ((Attends.refl _).of_clients rfl).trims
  | withdraw => exact (erasePending_effect before _).2.2.1.reply.trims
  | drop fd => exact (dropClient_trims before fd).1

theorem tidied_trims (tidied : Relation.ReflTransGen Tidies before after) : Trims before after :=
  chain_keeps (fun step trims => Trims.trans trims (tidies_trims step)) tidied (Attends.refl before).trims

/-- A connection that is removed is gone, and the others stay as they are or go too. -/
theorem removeClient_trims (done : server.removeClient fd = .ok next) : Trims server next ∧ next.clients[fd]? = none := by
  rcases removeClient_cases done with ⟨absent, rfl⟩ | ⟨client, plans, state, _, _, rfl⟩
  · exact ⟨(Attends.refl _).trims, absent⟩
  obtain ⟨dropped, gone⟩ := dropClient_trims server fd
  have rest := tidied_trims (applyCleanups_tidied { server.dropClient fd with state } plans (some fd))
  refine ⟨Trims.trans dropped rest, ?_⟩
  by_contra remains
  obtain ⟨new, present⟩ := Option.ne_none_iff_exists'.mp remains
  obtain ⟨old, stood, _⟩ := rest fd new present
  have stood : (server.dropClient fd).clients[fd]? = some old := stood
  rw [gone] at stood
  cases stood

theorem expireDeadNodes_trims {now : Int} (done : server.expireDeadNodes now = .ok next) : Trims server next := by
  obtain ⟨update, state, _, rfl⟩ := expireDeadNodes_cases done
  have trimmed := tidied_trims (applyCleanups_tidied { server with state } update.deadNodes none)
  exact trimmed

/-- All that one request can do. Most requests are answered at once and take
nothing from anyone; the rest are the ones that touch the waiting requests. -/
inductive RequestEffect (server : RegistryServer) (fd : Nat) (connection : UInt64) (requestId : UInt32) :
    Option Request → RegistryServer → Prop where
  | answered {request : Option Request} {state : RegistryState} {peerEvents : ExtTreeMap UInt64 (List PeerEventRecord)}
      {error : ErrorCode} {body : Bytes} (other : ∀ nodeId endpointId, request ≠ some (.unadvertiseTopic nodeId endpointId))
      (keeps : Keeps connection server.state state) (quieter : Quieter server.state state)
      (events : ∀ (id : UInt64) (records : List PeerEventRecord), peerEvents[id]? = some records →
        server.peerEvents[id]? = some records) :
      RequestEffect server fd connection requestId request
        (queueResponse { server with state, peerEvents } fd requestId error body)
  | unregistered {nodeId : UInt64} {node : NodeRecord} {state : RegistryState}
      (owned : server.state.ownedNode connection nodeId = some node) (loses : Loses [nodeId] server.state state) :
      RequestEffect server fd connection requestId (some (.unregisterNode nodeId))
        ((cleanupPending { server with state, peerEvents := server.peerEvents.erase nodeId }).queueResponse fd requestId
          .ok [])
  | unknownNode {nodeId : UInt64} :
      RequestEffect server fd connection requestId (some (.unregisterNode nodeId))
        (server.cleanupPending.queueResponse fd requestId .notRegistered [])
  | unadvertised {nodeId endpointId : UInt64} {state : RegistryState}
      (owns : Owns server.state connection nodeId endpointId)
      (loses : Loses [nodeId] server.state state) (nodes : ∀ id, id ∈ server.state.nodes → id ∈ state.nodes)
      (publishers : state.publishers = server.state.publishers.erase endpointId) :
      RequestEffect server fd connection requestId (some (.unadvertiseTopic nodeId endpointId))
        ((erasePending { server with state } endpointId).queueResponse fd requestId .ok [])
  | unknownEndpoint {nodeId endpointId : UInt64} (foreign : ¬Owns server.state connection nodeId endpointId) :
      RequestEffect server fd connection requestId (some (.unadvertiseTopic nodeId endpointId))
        ((server.erasePending endpointId).queueResponse fd requestId .endpointNotFound [])
  | subscribed {nodeId : UInt64} {topicName typeName typeHash : Bytes} {maxMessageSize : UInt64} {dataSocketPath : Bytes}
      {transport : UInt16} {queue : SharedQueueMetadata} {state : RegistryState} {body : Bytes} {next : RegistryServer}
      (keeps : Keeps connection server.state state)
      (completed : (queueResponse { server with state } fd requestId .ok body).completePending = .ok next) :
      RequestEffect server fd connection requestId
        (some (.subscribeTopic nodeId topicName typeName typeHash maxMessageSize dataSocketPath transport queue)) next
  | waits {nodeId endpointId : UInt64} (owns : Owns server.state connection nodeId endpointId)
      (unserved : Unserved server.state endpointId) :
      RequestEffect server fd connection requestId (some (.resolveEndpoint nodeId endpointId))
        { server with pending := server.pending.insert endpointId ⟨fd, connection, nodeId, endpointId, requestId⟩ }

theorem effect_attends {request : Option Request} (effect : RequestEffect server fd connection requestId request next) :
    Attends IsReply server next := by
  cases effect with
  | answered => exact (queueResponse_attends _ _ _ _ _).of_clients rfl
  | @unregistered nodeId _ state =>
    have cleaned := (cleanupPending_effect { server with state, peerEvents := server.peerEvents.erase nodeId }).2.2.1.reply
    exact (cleaned.trans (queueResponse_attends _ _ _ _ _)).of_clients rfl
  | unknownNode => exact (cleanupPending_effect server).2.2.1.reply.trans (queueResponse_attends _ _ _ _ _)
  | @unadvertised nodeId endpointId state =>
    have erased := (erasePending_effect { server with state } endpointId).2.2.1.reply
    exact (erased.trans (queueResponse_attends _ _ _ _ _)).of_clients rfl
  | unknownEndpoint => exact (erasePending_effect server _).2.2.1.reply.trans (queueResponse_attends _ _ _ _ _)
  | subscribed _ completed =>
    have completed := (completePending_effect completed).2.2.1
    exact ((queueResponse_attends _ _ _ _ _).trans completed).of_clients rfl
  | waits => exact (Attends.refl _).of_clients rfl

/-- How an action changes the lists of events, other than by what it queues: a node
that unregisters has its list removed, and a heartbeat that is accepted takes it. -/
inductive Empties (state after : RegistryState) (connection : UInt64) (now : Int) (nodeId : UInt64) : Option Request → Prop where
  | unregistered (done : state.unregisterNode connection nodeId = .ok (.ok, after)) :
      Empties state after connection now nodeId (some (.unregisterNode nodeId))
  | heartbeat (sessionId : UInt64) (accepted : (state.heartbeat connection nodeId sessionId now).1.error = .ok) :
      Empties state after connection now nodeId (some (.heartbeat nodeId sessionId))

/-- At most one of the registry's calls has been made. -/
def Calls (before after : RegistryState) : Prop := after = before ∨ ∃ operation, before.perform operation = .ok after

/-- What a request does to the registry and to the lists of events. -/
structure Serves (connection : UInt64) (now : Int) (request : Option Request) (server next : RegistryServer) : Prop where
  calls : Calls server.state next.state
  tended : Tended connection server.state next.state
  events : ∀ nodeId : UInt64, next.peerEvents[nodeId]? = server.peerEvents[nodeId]? ∨
    next.peerEvents[nodeId]? = none ∧ Empties server.state next.state connection now nodeId request

section Registry
variable {state after : RegistryState}

theorem tended_of_leaves {gone : List UInt64} (leaves : Leaves gone state after) : Tended connection state after := by
  intro id node found
  obtain ⟨_, old, present, same⟩ := leaves.former found
  exact .inr ⟨old, present, control_eq (connections_eq same)⟩

theorem calls_ok {result : Type} {call : Except Exception (result × RegistryState)} {value : result}
    (operation : RegistryOperation) (done : call = .ok (value, after))
    (performs : state.perform operation = call.map Prod.snd) : Calls state after :=
  .inr ⟨operation, by rw [performs, done]; rfl⟩

theorem advertiseTopic_effect {nodeId : UInt64} {topicName typeName typeHash : Bytes}
    {maxMessageSize : UInt64} {transport : UInt16} {pool : SharedPoolMetadata} {result : EndpointResult}
    (done : state.advertiseTopic connection nodeId topicName typeName typeHash maxMessageSize transport pool =
      .ok (result, after)) : Keeps connection state after ∧ Quieter state after ∧ Calls state after := by
  unfold RegistryState.advertiseTopic at done
  cases known : transportType transport with
  | none =>
    simp only [known, RegistryState.unknownTransport, Except.ok.injEq, Prod.mk.injEq] at done
    rw [← done.2]
    exact ⟨.refl state, .refl state, .inl rfl⟩
  | some =>
    simp only [known] at done
    obtain ⟨keeps, quieter⟩ := advertise_keeps done
    exact ⟨keeps, quieter, calls_ok (.advertise ..) done rfl⟩

theorem subscribeTopic_effect {nodeId : UInt64} {topicName typeName typeHash dataSocketPath : Bytes}
    {maxMessageSize : UInt64} {transport : UInt16} {queue : SharedQueueMetadata} {result : EndpointResult}
    (done : state.subscribeTopic connection nodeId topicName typeName typeHash maxMessageSize dataSocketPath transport
      queue = .ok (result, after)) :
    Keeps connection state after ∧ (result.error ≠ .ok → after = state) ∧ Calls state after := by
  unfold RegistryState.subscribeTopic at done
  cases known : transportType transport with
  | none =>
    simp only [known, RegistryState.unknownTransport, Except.ok.injEq, Prod.mk.injEq] at done
    rw [← done.2]
    exact ⟨.refl state, fun _ => rfl, .inl rfl⟩
  | some =>
    simp only [known] at done
    obtain ⟨keeps, failed⟩ := subscribe_keeps done
    exact ⟨keeps, failed, calls_ok (.subscribe ..) done rfl⟩

end Registry

section Perform
variable {now : Int}

theorem answered_effect {request : Option Request} {state : RegistryState} {error : ErrorCode} {body : Bytes}
    (other : ∀ nodeId endpointId, request ≠ some (.unadvertiseTopic nodeId endpointId))
    (keeps : Keeps connection server.state state) (quieter : Quieter server.state state) (calls : Calls server.state state) :
    RequestEffect server fd connection requestId request (queueResponse { server with state } fd requestId error body) ∧
      Serves connection now request server (queueResponse { server with state } fd requestId error body) := by
  refine ⟨.answered other keeps quieter fun _ _ found => found, ?_, ?_, fun _ => .inl (by simp)⟩
  · rwa [queueResponse_state]
  · rw [queueResponse_state]
    exact keeps.tended

theorem read_effect {request : Option Request} (error : ErrorCode) (body : Bytes)
    (other : ∀ nodeId endpointId, request ≠ some (.unadvertiseTopic nodeId endpointId)) :
    RequestEffect server fd connection requestId request (server.queueResponse fd requestId error body) ∧
      Serves connection now request server (server.queueResponse fd requestId error body) :=
  answered_effect other (.refl _) (.refl _) (.inl rfl)

theorem perform_effect {request : Request} (done : server.perform fd connection requestId now request = .ok next) :
    RequestEffect server fd connection requestId (some request) next ∧ Serves connection now (some request) server next := by
  cases request with
  | registerNode nodeName =>
    cases done
    obtain ⟨keeps, quieter⟩ := registerNode_keeps nodeName now
    exact answered_effect (by simp) keeps quieter (.inr ⟨.registerNode connection nodeName now, rfl⟩)
  | unregisterNode nodeId =>
    simp only [perform] at done
    obtain ⟨⟨error, state⟩, called, done⟩ := bind_ok done
    cases done
    obtain ⟨same, events, _⟩ := cleanupPending_effect { server with
      state, peerEvents := if error = ErrorCode.ok then server.peerEvents.erase nodeId else server.peerEvents }
    refine ⟨?_, ?_, ?_, fun other => ?_⟩
    · rcases unregisterNode_effect called with ⟨rfl, rfl⟩ | ⟨rfl, ⟨node, owned⟩, loses⟩
      · exact .unknownNode
      · exact .unregistered owned loses
    · rw [queueResponse_state, same]
      exact calls_ok (.unregisterNode connection nodeId) called rfl
    · rw [queueResponse_state, same]
      rcases unregisterNode_leaves called with ⟨_, stays⟩ | left
      · exact tended_of_leaves stays
      · exact tended_of_leaves left
    · rw [queueResponse_peerEvents, queueResponse_state, events, same]
      simp only
      split
      next fine =>
        subst error
        by_cases mine : nodeId = other
        · subst other
          exact .inr ⟨by simp, .unregistered called⟩
        · exact .inl (by simp [ExtTreeMap.getElem?_erase, mine])
      next => exact .inl rfl
  | advertiseTopic =>
    simp only [perform] at done
    split at done
    · cases done
      exact read_effect _ _ (by simp)
    · obtain ⟨⟨result, state⟩, called, done⟩ := bind_ok done
      cases done
      obtain ⟨keeps, quieter, calls⟩ := advertiseTopic_effect called
      exact answered_effect (by simp) keeps quieter calls
  | unadvertiseTopic nodeId endpointId =>
    simp only [perform] at done
    obtain ⟨⟨error, state⟩, called, done⟩ := bind_ok done
    cases done
    refine ⟨?_, ?_, ?_, fun _ => .inl ?_⟩
    · rcases unadvertise_effect called with ⟨rfl, rfl, foreign⟩ | ⟨rfl, owns, loses, nodes, publishers⟩
      · exact .unknownEndpoint foreign
      · exact .unadvertised owns loses nodes publishers
    · rw [queueResponse_state, erasePending_state]
      exact calls_ok (.unadvertise connection nodeId endpointId) called rfl
    · rw [queueResponse_state, erasePending_state]
      exact tended_of_leaves (unadvertise_stays called)
    · rw [queueResponse_peerEvents, (erasePending_effect _ endpointId).2.1]
  | subscribeTopic =>
    simp only [perform] at done
    split at done
    · cases done
      exact read_effect _ _ (by simp)
    · obtain ⟨⟨result, state⟩, called, done⟩ := bind_ok done
      obtain ⟨keeps, failed, calls⟩ := subscribeTopic_effect called
      simp only at done
      split at done
      next success =>
        rw [success] at done
        obtain ⟨same, events, _⟩ := completePending_effect done
        rw [queueResponse_state] at same
        refine ⟨.subscribed keeps done, ?_, ?_, fun _ => .inl (by rw [events, queueResponse_peerEvents])⟩
        · rwa [same]
        · rw [same]
          exact keeps.tended
      next refused =>
        cases done
        rw [failed refused]
        exact read_effect _ _ (by simp)
  | unsubscribeTopic nodeId endpointId =>
    simp only [perform] at done
    obtain ⟨⟨error, state⟩, called, done⟩ := bind_ok done
    cases done
    have loses := unsubscribe_loses called
    exact answered_effect (by simp) loses.keeps loses.topics
      (calls_ok (.unsubscribe connection nodeId endpointId) called rfl)
  | resolveEndpoint =>
    simp only [perform] at done
    obtain ⟨result, called, done⟩ := bind_ok done
    split at done
    next waiting =>
      cases done
      obtain ⟨owns, unserved⟩ := (resolve_waits_iff called).mp waiting
      exact ⟨.waits owns unserved, .inl rfl, (Keeps.refl _).tended, fun _ => .inl rfl⟩
    next =>
      cases done
      exact read_effect _ _ (by simp)
  | queryTopic =>
    simp only [perform] at done
    obtain ⟨found, _, done⟩ := bind_ok done
    cases found with
    | none =>
      cases done
      exact read_effect _ _ (by simp)
    | some topic =>
      cases done
      exact read_effect _ _ (by simp)
  | listNodes | listTopics | queryStats =>
    cases done
    exact read_effect _ _ (by simp)
  | attachHeartbeat nodeId sessionId =>
    cases done
    have loses := @attachHeartbeat_loses server.state connection nodeId sessionId
    exact answered_effect (by simp) loses.keeps loses.topics
      (.inr ⟨.attachHeartbeat connection nodeId sessionId, rfl⟩)
  | heartbeat nodeId sessionId =>
    simp only [perform, Except.ok.injEq] at done
    subst next
    have loses := @heartbeat_loses server.state connection nodeId sessionId now
    split
    next accepted =>
      refine ⟨.answered (by simp) loses.keeps loses.topics fun id records found => by grind, ?_, ?_, fun other => ?_⟩
      · exact .inr ⟨.heartbeat connection nodeId sessionId now, by rw [queueResponse_state]; rfl⟩
      · rw [queueResponse_state]
        exact loses.tended
      · rw [queueResponse_peerEvents]
        by_cases mine : nodeId = other
        · subst other
          exact .inr ⟨by simp [takePeerEvents], .heartbeat sessionId accepted⟩
        · exact .inl (by simp [takePeerEvents, ExtTreeMap.getElem?_erase, mine])
    next =>
      exact answered_effect (by simp) loses.keeps loses.topics
        (.inr ⟨.heartbeat connection nodeId sessionId now, rfl⟩)

theorem handleFrame_effect {frame : ControlFrame} (done : server.handleFrame fd connection frame now = .ok next) :
    RequestEffect server fd connection frame.header.requestId (requestOf frame) next ∧
      Serves connection now (requestOf frame) server next := by
  unfold handleFrame at done
  unfold requestOf
  cases known : requestOpcode frame.header.opcode with
  | none =>
    simp only [known, Except.ok.injEq] at done
    exact done ▸ read_effect _ _ (by simp)
  | some opcode =>
    simp only [known] at done
    simp only [Option.bind_some]
    cases decoded : decodeRequest opcode frame.payload with
    | none =>
      simp only [decoded, Except.ok.injEq] at done
      exact done ▸ read_effect _ _ (by simp)
    | some =>
      simp only [decoded] at done
      exact perform_effect done

end Perform

inductive Acts (server : RegistryServer) : ServerAction → RegistryServer → Prop where
  | accepted {fd : Nat} (absent : server.clients[fd]? = none) : Acts server (.accept fd) (server.acceptConnection fd)
  | moved {fd outputOffset : Nat} {input output : Bytes} {closeAfterWrite : Bool} {client : ClientConnection}
      (found : server.clients[fd]? = some client) :
      Acts server (.transfer fd input output outputOffset closeAfterWrite)
        (server.setClient fd { client with input, output, outputOffset, closeAfterWrite })
  | requested {fd : Nat} {frame : ControlFrame} {now : Int} {client : ClientConnection} {next : RegistryServer}
      (found : server.clients[fd]? = some client)
      (handled : (server.setClient fd (note (.received frame) client)).handleFrame fd client.connectionId frame now = .ok next) :
      Acts server (.request fd frame now) next
  | refused {fd : Nat} {requestId : UInt32} {error : ErrorCode} :
      Acts server (.refuse fd requestId error) (server.refuseInput fd requestId error)
  | unknown {fd : Nat} (absent : server.clients[fd]? = none) : Acts server (.remove fd) server
  | removed {fd : Nat} {client : ClientConnection} {plans : List DeadNodeCleanup} {state : RegistryState}
      (found : server.clients[fd]? = some client)
      (called : server.state.disconnectConnection client.connectionId = .ok (plans, state)) :
      Acts server (.remove fd) (applyCleanups { server.dropClient fd with state } plans (some fd))
  | expired {now : Int} {update : LivenessUpdate} {state : RegistryState}
      (called : server.state.evaluateLiveness now = .ok (update, state)) :
      Acts server (.expire now) (applyCleanups { server with state } update.deadNodes none)

theorem act_cases {action : ServerAction} (done : act server action = some next) : Acts server action next := by
  cases action with
  | accept fd =>
    simp only [act] at done
    split at done
    · cases done
    next absent =>
      cases done
      exact .accepted (by grind)
  | transfer =>
    obtain ⟨client, found, rfl⟩ := Option.map_eq_some_iff.mp done
    exact .moved found
  | request =>
    obtain ⟨client, found, done⟩ := Option.bind_eq_some_iff.mp done
    exact .requested found (toOption_some done)
  | refuse =>
    simp only [act] at done
    split at done
    · cases done
      exact .refused
    · cases done
  | remove fd =>
    rcases removeClient_cases (toOption_some done) with ⟨absent, rfl⟩ | ⟨client, plans, state, found, called, rfl⟩
    · exact .unknown absent
    · exact .removed found called
  | expire now =>
    obtain ⟨update, state, called, rfl⟩ := expireDeadNodes_cases (toOption_some done)
    exact .expired called

end RobotMiddleware.Proofs.ServerEffects
