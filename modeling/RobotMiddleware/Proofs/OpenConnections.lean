import RobotMiddleware.Proofs.PendingDiscoveries
import RobotMiddleware.Proofs.QueuedEvents

/-! A node and the connection that registered it. A connection that is lost takes
its nodes with it; a node that dies closes its connections, and nothing looks for
other nodes on them. -/

namespace RobotMiddleware.Proofs.OpenConnections
open Std Lib.Outcome Lib.Loops Lib.Transitions RegistryServer RegistryState RegistryOwnership NodeFrames ServerEffects
  PendingDiscoveries QueuedEvents

def IsOpen (server : RegistryServer) (connectionId : UInt64) : Prop :=
  ∃ (fd : Nat) (client : ClientConnection), server.clients[fd]? = some client ∧ client.connectionId = connectionId

def Connected (server : RegistryServer) : Prop :=
  ∀ (id : UInt64) (node : NodeRecord), server.state.nodes[id]? = some node → IsOpen server node.controlConnection

section Server
variable {server next : RegistryServer} {fd : Nat} {connectionId : UInt64}

theorem IsOpen.stay (opened : IsOpen server connectionId) (still : Open server next) : IsOpen next connectionId := by
  obtain ⟨fd, client, found, same⟩ := opened
  obtain ⟨now, present, kept⟩ := still fd client found
  exact ⟨fd, now, present, kept.trans same⟩

theorem dropClient_open (opened : IsOpen server connectionId)
    (other : ∀ client, server.clients[fd]? = some client → client.connectionId ≠ connectionId) :
    IsOpen (server.dropClient fd) connectionId := by
  obtain ⟨kept, client, found, same⟩ := opened
  have different : kept ≠ fd := by
    rintro rfl
    exact other client found same
  refine ⟨kept, client, ?_, same⟩
  unfold dropClient
  split
  · simp only
    grind
  · exact found

theorem fdForConnection_some (found : server.fdForConnection connectionId = some fd) :
    ∃ client, server.clients[fd]? = some client ∧ client.connectionId = connectionId := by
  obtain ⟨⟨_, client⟩, first, rfl⟩ := Option.map_eq_some_iff.mp found
  have same := List.find?_some first
  have member := List.mem_of_find?_eq_some first
  exact ⟨client, ExtTreeMap.mem_toList_iff_getElem?_eq_some.mp member, by simpa using same⟩

theorem closeConnection_open (exceptFd : Option Nat) (opened : IsOpen server connectionId) {closing : UInt64}
    (other : closing ≠ 0 → closing ≠ connectionId) : IsOpen (closeConnection exceptFd server closing) connectionId := by
  unfold closeConnection
  split
  · exact opened
  next nonzero =>
    cases looked : server.fdForConnection closing with
    | none => exact opened
    | some fd =>
      simp only
      split
      · exact opened
      obtain ⟨holder, held, same⟩ := fdForConnection_some looked
      refine dropClient_open opened fun client found => ?_
      rw [held] at found
      cases found
      rw [same]
      exact other nonzero

theorem addPeerEvent_open (event : PeerEventRecord) : Open server (server.addPeerEvent event) := by
  unfold addPeerEvent
  split
  · exact fun _ client found => ⟨client, found, rfl⟩
  · exact fun _ client found => ⟨client, found, rfl⟩

theorem applyCleanup_open (opened : IsOpen server connectionId) (plan : DeadNodeCleanup) :
    IsOpen (server.applyCleanup plan) connectionId := by
  have queued : IsOpen (plan.peerEvents.foldl addPeerEvent server) connectionId :=
    @foldl_keeps _ _ _ _ (fun now => IsOpen now connectionId) server (fun _ event _ held => held.stay (addPeerEvent_open event))
      opened
  have withdrawn := (cleanupPending_effect
    { plan.peerEvents.foldl addPeerEvent server with
      peerEvents := (plan.peerEvents.foldl addPeerEvent server).peerEvents.erase plan.nodeId }).2.2.1
  exact queued.stay (.of_attends (withdrawn.of_clients rfl))

theorem applyCleanups_open (plans : List DeadNodeCleanup) (exceptFd : Option Nat) (opened : IsOpen server connectionId)
    (spared : ∀ plan ∈ plans, ∀ closing ∈ closed plan, closing ≠ 0 → closing ≠ connectionId) :
    IsOpen (server.applyCleanups plans exceptFd) connectionId := by
  refine @foldl_keeps _ _ plans _ (fun now => IsOpen now connectionId) server (fun now plan member held => ?_) opened
  exact @foldl_keeps _ _ (closed plan) _ (fun now => IsOpen now connectionId) _
    (fun now closing listed held => closeConnection_open exceptFd held (spared plan member closing listed))
    (applyCleanup_open held plan)

end Server

/-- No node that stays is controlled over a connection of a node that goes. -/
def Separate (state : RegistryState) (goes : NodeRecord → Prop) : Prop :=
  ∀ gone ∈ state.nodes.toList, ∀ left ∈ state.nodes.toList, goes gone.2 → ¬goes left.2 →
    ∀ closing ∈ connections gone.2, closing ≠ 0 → closing ≠ left.2.controlConnection

/-- What goes with an action shares no connection with what stays. -/
def Unshared (server : RegistryServer) : ServerAction → Prop
  | .expire now => Separate server.state (Expired server.state now)
  | .remove fd => ∀ client ∈ server.clients[fd]?, Separate server.state fun node => node.controlConnection = client.connectionId
  | _ => True

section Steps
variable {server next : RegistryServer}

theorem cleaned_connected {goes : NodeRecord → Prop} {plans : List DeadNodeCleanup} {exceptFd : Option Nat}
    (departed : Departed goes before server.state plans) (separate : Separate before goes)
    (opened : ∀ (id : UInt64) (node : NodeRecord), before.nodes[id]? = some node → ¬goes node →
      IsOpen server node.controlConnection) : Connected (server.applyCleanups plans exceptFd) := by
  intro id node found
  rw [applyCleanups_state] at found
  obtain ⟨old, present, left, same⟩ := departed.left id node found
  rw [← same]
  refine applyCleanups_open plans exceptFd (opened id old present left) fun plan member closing listed nonzero => ?_
  obtain ⟨other, dead, stood, gone, closes⟩ := departed.planned plan member
  rw [closes] at listed
  exact separate (other, dead) (ExtTreeMap.mem_toList_iff_getElem?_eq_some.mpr stood) (id, old)
    (ExtTreeMap.mem_toList_iff_getElem?_eq_some.mpr present) gone left closing listed nonzero

theorem Connected.open (connected : Connected server) (still : Open server next) (state : next.state = server.state) :
    Connected next := by
  intro id node found
  rw [state] at found
  exact (connected id node found).stay still

theorem act_connected {action : ServerAction} (books : Bookkeeping server) (connected : Connected server)
    (unshared : Unshared server action) (done : act server action = some next) : Connected next := by
  cases act_cases done with
  | @accepted fd absent =>
    refine connected.open (fun other client found => ⟨client, ?_, rfl⟩) rfl
    simp only [acceptConnection]
    grind
  | moved found => exact connected.open (.setClient found rfl) rfl
  | @requested fd frame _ client _ found handled =>
    have noted : Connected (server.setClient fd (note (.received frame) client)) := connected.open (.setClient found rfl) rfl
    obtain ⟨effect, serves⟩ := handleFrame_effect handled
    have still := Open.of_attends (effect_attends effect)
    intro id node present
    rcases serves.tended id node present with own | ⟨old, stood, same⟩
    · rw [own]
      exact IsOpen.stay ⟨fd, note (.received frame) client, ExtTreeMap.getElem?_insert_self, rfl⟩ still
    · rw [← same]
      exact (noted id old stood).stay still
  | @refused fd requestId error =>
    have answered : Connected (server.queueResponse fd requestId error []) :=
      connected.open (.of_attends (queueResponse_attends server fd requestId error [])) (by simp)
    exact answered.open (.modifyClient fun _ => rfl) (by simp [refuseInput])
  | unknown => exact connected
  | @removed fd client plans state found called =>
    refine cleaned_connected (disconnectConnection_departed books.anchored called) (unshared client found)
      fun id node present left => ?_
    have dropped : IsOpen (server.dropClient fd) node.controlConnection := by
      refine dropClient_open (connected id node present) fun other held => ?_
      rw [found] at held
      cases held
      exact fun equal => left equal.symm
    exact dropped
  | expired called =>
    exact cleaned_connected (evaluateLiveness_departed books.anchored called) unshared fun id node present _ =>
      connected id node present

end Steps

/-- In a run in which no node that stays is controlled over a connection of a node
that goes, the control connection of every node is open. -/
theorem control_connections_open {liveness : LivenessConfig} {server final : RegistryServer} {actions : List ServerAction}
    (created : RegistryServer.create liveness = .ok server) (unshared : Along act Unshared server actions)
    (run : execute act server actions = some final) :
    ∀ (id : UInt64) (node : NodeRecord), final.state.nodes[id]? = some node →
      ∃ (fd : Nat) (client : ClientConnection), final.clients[fd]? = some client ∧
        client.connectionId = node.controlConnection := by
  have start : Connected server := by
    intro id node found
    unfold RegistryServer.create at created
    obtain ⟨state, made, created⟩ := bind_ok created
    cases created
    unfold RegistryState.create at made
    split at made
    · cases made
    · cases made
      simp at found
  have begins : Bookkeeping server ∧ Connected server := ⟨create_books created, start⟩
  have kept : ∀ server action next, Bookkeeping server ∧ Connected server → Unshared server action →
      act server action = some next → Bookkeeping next ∧ Connected next :=
    fun _ _ _ held allowed done => ⟨act_books held.1 done, act_connected held.1 held.2 allowed done⟩
  exact (unshared.invariant kept begins run).2

def separate (state : RegistryState) (goes : NodeRecord → Bool) : Bool :=
  state.nodes.toList.all fun gone => state.nodes.toList.all fun left => !goes gone.2 || goes left.2 ||
    (connections gone.2).all fun closing => closing == 0 || closing != left.2.controlConnection

def unshared (server : RegistryServer) : ServerAction → Bool
  | .expire now => separate server.state fun node => RegistryState.silentFor node.lastSeen now server.state.liveness.deadTimeout
  | .remove fd => (server.clients[fd]?).all fun client =>
    separate server.state fun node => node.controlConnection == client.connectionId
  | _ => true

theorem separate_sound {state : RegistryState} {goes : NodeRecord → Bool} (checked : separate state goes = true) :
    Separate state fun node => goes node = true := by
  intro gone dead left kept goesNow stays closing listed nonzero
  have one := List.all_eq_true.mp checked gone dead
  have both := List.all_eq_true.mp one left kept
  simp only [goesNow, Bool.eq_false_iff.mpr stays, Bool.not_true, Bool.false_or, List.all_eq_true] at both
  simpa [nonzero] using both closing listed

theorem unshared_sound (server : RegistryServer) (action : ServerAction) (checked : unshared server action = true) :
    Unshared server action := by
  cases action with
  | expire now =>
    simp only [unshared] at checked
    exact separate_sound checked
  | remove fd =>
    intro client found
    simp only [unshared, Option.mem_def.mp found, Option.all_some] at checked
    have sound := separate_sound checked
    simp only [beq_iff_eq] at sound
    exact sound
  | accept | transfer | request | refuse => trivial

def asksAt (now : Int) (fd : Nat) (requestId : UInt32) (request : Request) : ServerAction :=
  .request fd (controlFrame request.opcode.value requestId request.payload) now

def separateRun : List ServerAction :=
  [.accept 1, asksAt 0 1 1 (.registerNode [97]), .accept 2, asksAt 0 2 1 (.registerNode [98]), .accept 3,
    asksAt 0 3 1 (.attachHeartbeat 2 2), asksAt 1000000000 3 2 (.heartbeat 2 2), .expire 1500000000]

theorem control_connections_open_separate :
    ∃ final, RegistryServer.create {} = .ok { state := { liveness := {} } } ∧
      Along act Unshared { state := { liveness := {} } } separateRun ∧
      execute act { state := { liveness := {} } } separateRun = some final ∧ 1 ∉ final.clients ∧
      ∃ node : NodeRecord, final.state.nodes[(2 : UInt64)]? = some node ∧
        ∃ (fd : Nat) (client : ClientConnection), final.clients[fd]? = some client ∧
          client.connectionId = node.controlConnection := by
  have created : RegistryServer.create {} = .ok { state := { liveness := {} } } := rfl
  have along : Along act Unshared { state := { liveness := {} } } separateRun :=
    along_of_check unshared_sound (by decide +kernel)
  have seen : ((execute act { state := { liveness := {} } } separateRun).bind fun final =>
      (final.state.nodes[(2 : UInt64)]?).map fun _ => final.clients.contains 1) = some false := by decide +kernel
  obtain ⟨final, run, seen⟩ := Option.bind_eq_some_iff.mp seen
  obtain ⟨node, found, closed⟩ := Option.map_eq_some_iff.mp seen
  refine ⟨final, created, along, run, fun still => ?_, node, found, control_connections_open created along run 2 node found⟩
  rw [ExtTreeMap.contains_iff_mem.mpr still] at closed
  cases closed

/-- Two nodes on one connection. The first dies, the second is seen in time. -/
def sharedRun : List ServerAction :=
  [.accept 1, asksAt 0 1 1 (.registerNode [97]), asksAt 0 1 2 (.registerNode [98]), .accept 2,
    asksAt 0 2 1 (.attachHeartbeat 2 2), asksAt 1000000000 2 2 (.heartbeat 2 2), .expire 1500000000]

/-- The second node is left alone: its connection was closed with the first one. -/
theorem control_connection_closed :
    ∃ final, RegistryServer.create {} = .ok { state := { liveness := {} } } ∧
      execute act { state := { liveness := {} } } sharedRun = some final ∧
      ∃ node : NodeRecord, final.state.nodes[(2 : UInt64)]? = some node ∧
        ¬∃ (fd : Nat) (client : ClientConnection), final.clients[fd]? = some client ∧
          client.connectionId = node.controlConnection := by
  have seen : ((execute act { state := { liveness := {} } } sharedRun).bind fun final =>
      (final.state.nodes[(2 : UInt64)]?).map fun node =>
        final.clients.toList.all fun entry => entry.2.connectionId != node.controlConnection) = some true := by
    decide +kernel
  obtain ⟨final, run, seen⟩ := Option.bind_eq_some_iff.mp seen
  obtain ⟨node, found, closed⟩ := Option.map_eq_some_iff.mp seen
  refine ⟨final, rfl, run, node, found, ?_⟩
  rintro ⟨fd, client, opened, same⟩
  have other := List.all_eq_true.mp closed (fd, client) (ExtTreeMap.mem_toList_iff_getElem?_eq_some.mpr opened)
  simp [same] at other

end RobotMiddleware.Proofs.OpenConnections
