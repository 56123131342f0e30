import RobotMiddleware.Proofs.NodeFrames
import RobotMiddleware.Proofs.RegistryEffects

/-! What is left of a connection once it is gone. The nodes registered over it are
removed. Its heartbeat bindings are released only if there was no such node, so a
connection that registered one node and beats for another leaves a binding behind. -/

namespace RobotMiddleware.Proofs.Disconnections
open Std Lib.Index Lib.Outcome RegistryState RegistryOwnership NodeFrames
open RegistryIntegrity (Issued serve)
open RegistryCalls (connected mem_connected)
open RegistryEffects (disconnectConnection_removes reached_consistent)
open RegistryTopics (bareNode)

def Untraced (state : RegistryState) (connection : UInt64) : Prop :=
  ∀ (id : UInt64) (node : NodeRecord), state.nodes[id]? = some node →
    node.controlConnection ≠ connection ∧ node.heartbeatConnection ≠ connection

/-- If any node was registered over the connection, it beats for such nodes only. Number
0 stands for no heartbeat connection, and there releasing a binding changes nothing. -/
def Undivided (state : RegistryState) (connection : UInt64) : Prop :=
  (connection = 0 ∨ ∃ (id : UInt64) (node : NodeRecord), state.nodes[id]? = some node ∧ node.controlConnection = connection) →
    ∀ (id : UInt64) (node : NodeRecord), state.nodes[id]? = some node → node.heartbeatConnection = connection →
      node.controlConnection = connection

/-- A node that is left and had no other heartbeat connection accepts any new one. -/
def Reattachable (before after : RegistryState) (connection : UInt64) : Prop :=
  ∀ (id : UInt64) (node : NodeRecord), after.nodes[id]? = some node → ∃ old, before.nodes[id]? = some old ∧
    (old.heartbeatConnection = connection ∨ old.heartbeatConnection = 0 →
      ∀ fresh, fresh ≠ 0 → (after.attachHeartbeat fresh id node.sessionId).1 = .ok)

variable {state after : RegistryState} {connection : UInt64} {cleanups : List DeadNodeCleanup}

theorem connected_nil_iff : connected state connection = [] ↔
    ∀ (id : UInt64) (node : NodeRecord), state.nodes[id]? = some node → node.controlConnection ≠ connection := by
  rw [List.eq_nil_iff_forall_not_mem]
  constructor
  · intro absent id node found mine
    exact absent id (mem_connected.mpr ⟨node, found, mine⟩)
  · intro foreign id member
    obtain ⟨node, found, mine⟩ := mem_connected.mp member
    exact foreign id node found mine

theorem cleanupDeadNodes_some {nodeId : UInt64} {rest : List UInt64} (present : nodeId ∈ state.nodes)
    (done : state.cleanupDeadNodes (nodeId :: rest) = .ok (cleanups, after)) : cleanups ≠ [] := by
  obtain ⟨node, found⟩ := mem_iff_found.mp present
  unfold cleanupDeadNodes at done
  obtain ⟨⟨cleanup, cleaned⟩, called, done⟩ := bind_ok done
  obtain ⟨⟨others, final⟩, _, done⟩ := bind_ok done
  cases done
  simp only [cleanupDeadNode, found] at called
  obtain ⟨pools, _, called⟩ := bind_ok called
  obtain ⟨queues, _, called⟩ := bind_ok called
  obtain ⟨⟨error, left⟩, _, called⟩ := bind_ok called
  cases called
  simp

/-- A disconnection either releases heartbeat bindings or removes nodes, never both. -/
theorem disconnectConnection_cases (anchored : Anchored state)
    (done : state.disconnectConnection connection = .ok (cleanups, after)) :
    connected state connection = [] ∧ cleanups = [] ∧ after = state.detachHeartbeatConnection connection ∨
      connected state connection ≠ [] ∧ cleanups ≠ [] ∧ Leaves (connected state connection) state after := by
  unfold disconnectConnection at done
  obtain ⟨⟨plans, cleaned⟩, called, done⟩ := bind_ok done
  simp only [pure, Except.pure, Except.ok.injEq, Prod.mk.injEq] at done
  obtain ⟨rfl, rfl⟩ := done
  change state.cleanupDeadNodes (connected state connection) = .ok (plans, cleaned) at called
  cases listed : connected state connection with
  | nil =>
    rw [listed] at called
    cases called
    exact .inl ⟨rfl, rfl, rfl⟩
  | cons nodeId rest =>
    rw [listed] at called
    obtain ⟨leaves, _⟩ := cleanupDeadNodes_leaves anchored called
    have first : nodeId ∈ connected state connection := by simp [listed]
    obtain ⟨node, found, _⟩ := mem_connected.mp first
    have some := cleanupDeadNodes_some (mem_iff_found.mpr ⟨node, found⟩) called
    refine .inr ⟨by simp, some, ?_⟩
    rw [if_neg (by simpa using some)]
    exact leaves

theorem detached_node {id : UInt64} {node : NodeRecord}
    (found : (state.detachHeartbeatConnection connection).nodes[id]? = some node) : ∃ old, state.nodes[id]? = some old ∧
      node = if old.heartbeatConnection = connection then { old with heartbeatConnection := 0 } else old := by
  simp only [detachHeartbeatConnection, ExtTreeMap.getElem?_map, Option.map_eq_some_iff] at found
  obtain ⟨old, stood, same⟩ := found
  exact ⟨old, stood, same.symm⟩

theorem disconnectConnection_left (anchored : Anchored state) (undivided : Undivided state connection)
    (done : state.disconnectConnection connection = .ok (cleanups, after)) {id : UInt64} {node : NodeRecord}
    (found : after.nodes[id]? = some node) : ∃ old, state.nodes[id]? = some old ∧
      old.controlConnection ≠ connection ∧ node.controlConnection = old.controlConnection ∧
      node.sessionId = old.sessionId ∧
      node.heartbeatConnection = if old.heartbeatConnection = connection then 0 else old.heartbeatConnection := by
  rcases disconnectConnection_cases anchored done with ⟨none, _, rfl⟩ | ⟨some, _, leaves⟩
  · obtain ⟨old, stood, rfl⟩ := detached_node found
    refine ⟨old, stood, connected_nil_iff.mp none id old stood, ?_⟩
    split <;> exact ⟨rfl, rfl, rfl⟩
  · obtain ⟨remains, old, stood, same⟩ := leaves.former found
    have foreign : old.controlConnection ≠ connection := fun mine => remains (mem_connected.mpr ⟨old, stood, mine⟩)
    have silent : old.heartbeatConnection ≠ connection := by
      intro beats
      obtain ⟨first, member⟩ := List.exists_mem_of_ne_nil _ some
      exact foreign (undivided (.inr ⟨first, mem_connected.mp member⟩) id old stood beats)
    obtain ⟨control, heartbeat⟩ : old.controlConnection = node.controlConnection ∧
        old.heartbeatConnection = node.heartbeatConnection := by
      simpa [connections] using connections_eq same
    have session : (bareNode old).sessionId = (bareNode node).sessionId := by rw [same]
    exact ⟨old, stood, foreign, control.symm, session.symm, by rw [if_neg silent, heartbeat]⟩

theorem detach_untraced (untraced : Untraced state connection) : state.detachHeartbeatConnection connection = state := by
  have same : (state.nodes.map fun _ node =>
      if node.heartbeatConnection = connection then { node with heartbeatConnection := 0 } else node) = state.nodes := by
    apply ExtTreeMap.ext_getElem?
    intro id
    rw [ExtTreeMap.getElem?_map]
    cases found : state.nodes[id]? with
    | none => rfl
    | some node => rw [Option.map_some, if_neg (untraced id node found).2]
  unfold detachHeartbeatConnection
  rw [same]

theorem disconnect_untraced (untraced : Untraced state connection) :
    state.disconnectConnection connection = .ok ([], state) := by
  have none : connected state connection = [] := connected_nil_iff.mpr fun id node found => (untraced id node found).1
  unfold connected at none
  simp only [disconnectConnection, none, cleanupDeadNodes, bind, Except.bind, pure, Except.pure, List.isEmpty_nil, if_true,
    detach_untraced untraced]

theorem attach_free {id sessionId fresh : UInt64} {node : NodeRecord} (found : state.nodes[id]? = some node)
    (session : node.sessionId = sessionId) (free : node.heartbeatConnection = 0) (real : fresh ≠ 0) :
    (state.attachHeartbeat fresh id sessionId).1 = .ok := by
  simp [attachHeartbeat, found, session, free, real]

/-- A node of another connection for which the gone one beat still names it, if nodes were
removed or if the number to take back is the one that is put there. -/
theorem undivided_of_untraced (anchored : Anchored state)
    (done : state.disconnectConnection connection = .ok (cleanups, after)) (untraced : Untraced after connection) :
    Undivided state connection := by
  intro owns id node found beats
  by_contra foreign
  rcases disconnectConnection_cases anchored done with ⟨none, _, rfl⟩ | ⟨_, _, leaves⟩
  · have zero : connection = 0 := owns.resolve_right fun ⟨other, record, stood, mine⟩ =>
      connected_nil_iff.mp none other record stood mine
    have present : (state.detachHeartbeatConnection connection).nodes[id]? = some { node with heartbeatConnection := 0 } := by
      simp [detachHeartbeatConnection, ExtTreeMap.getElem?_map, found, beats]
    exact (untraced id _ present).2 zero.symm
  · have remains : id ∉ connected state connection := by
      intro member
      obtain ⟨record, stood, mine⟩ := mem_connected.mp member
      rw [found] at stood
      cases stood
      exact foreign mine
    obtain ⟨record, present, same⟩ := leaves.kept remains found
    have bound : record.heartbeatConnection = node.heartbeatConnection := by
      simpa [connections] using (List.cons.inj (connections_eq same)).2
    exact (untraced id record present).2 (bound.trans beats)

/-- In every state that requests lead to, disconnecting a connection leaves no trace of it,
and doing so again does nothing, if and only if it does not both own a node and beat for a
node of another connection. The call returns as long as the id counters have not gone round. -/
theorem disconnect_removes_traces {liveness : LivenessConfig} {initial : RegistryState} {operations : List RegistryOperation}
    {issued : Issued} (created : RegistryState.create liveness = .ok initial)
    (served : serve initial {} operations = .ok (state, issued)) :
    (issued.Few → ∃ cleanups after, state.disconnectConnection connection = .ok (cleanups, after)) ∧
      ∀ cleanups after, state.disconnectConnection connection = .ok (cleanups, after) →
        (Untraced after connection ∧ Reattachable state after connection ∧
          after.disconnectConnection connection = .ok ([], after) ↔ Undivided state connection) := by
  constructor
  · intro few
    obtain ⟨cleanups, middle, _, _, _, done⟩ :=
      disconnectConnection_removes (reached_consistent created served few).1 connection
    exact ⟨_, _, done⟩
  · intro cleanups after done
    have anchored := serve_anchored created served
    refine ⟨fun holds => undivided_of_untraced anchored done holds.1, fun undivided => ?_⟩
    have left := @disconnectConnection_left state after connection cleanups anchored undivided done
    have untraced : Untraced after connection := by
      intro id node found
      obtain ⟨old, stood, foreign, control, _, heartbeat⟩ := left found
      refine ⟨by rw [control]; exact foreign, ?_⟩
      rw [heartbeat]
      split
      next beats => exact fun zero => foreign (undivided (.inl zero.symm) id old stood beats)
      next other => exact other
    refine ⟨untraced, fun id node found => ?_, disconnect_untraced untraced⟩
    obtain ⟨old, stood, _, _, _, heartbeat⟩ := left found
    refine ⟨old, stood, fun free fresh some => attach_free found rfl ?_ some⟩
    rw [heartbeat]
    split
    · rfl
    next other => exact free.resolve_left other

theorem undivided_of_listed (listed : state.nodes.toList.all fun entry =>
    entry.2.heartbeatConnection != connection || entry.2.controlConnection == connection) : Undivided state connection := by
  intro _ id node found beats
  have entry := List.all_eq_true.mp listed (id, node) (ExtTreeMap.mem_toList_iff_getElem?_eq_some.mpr found)
  simpa [beats] using entry

/-- Node 1 uses connection 7 for everything, node 2 beats over a connection of its own. -/
def separated : List RegistryOperation :=
  [.registerNode 7 [97] 0, .registerNode 8 [98] 0, .attachHeartbeat 7 1 1, .attachHeartbeat 9 2 2]

theorem disconnect_removes_traces_separated : ∃ state issued, RegistryState.create {} = .ok { liveness := {} } ∧
    serve { liveness := {} } {} separated = .ok (state, issued) ∧ Undivided state 7 ∧
      ∃ cleanups after, state.disconnectConnection 7 = .ok (cleanups, after) ∧ Untraced after 7 ∧
        Reattachable state after 7 ∧ after.disconnectConnection 7 = .ok ([], after) := by
  obtain ⟨state, issued, served, few, listed⟩ : ∃ state issued,
      serve { liveness := {} } {} separated = .ok (state, issued) ∧ issued.Few ∧
        state.nodes.toList.all fun entry => entry.2.heartbeatConnection != 7 || entry.2.controlConnection == 7 :=
    ⟨_, _, rfl, ⟨by decide, by decide, by decide, by decide⟩, by decide +kernel⟩
  have created : RegistryState.create {} = .ok { liveness := {} } := rfl
  have undivided := undivided_of_listed listed
  obtain ⟨returns, traces⟩ := disconnect_removes_traces created served
  obtain ⟨cleanups, after, done⟩ := returns few
  exact ⟨state, issued, created, served, undivided, cleanups, after, done, (traces cleanups after done).mpr undivided⟩

/-- Connection 7 registered node 1 and beats for node 2 of connection 8. -/
def divided : List RegistryOperation := [.registerNode 7 [97] 0, .registerNode 8 [98] 0, .attachHeartbeat 7 2 2]

/-- The binding of node 2 stays when connection 7 goes, which keeps a new connection from
beating for the node, and the second disconnection releases it. -/
theorem divided_disconnection_leaves_binding : ∃ state issued, serve { liveness := {} } {} divided = .ok (state, issued) ∧
    ∃ cleanups after, state.disconnectConnection 7 = .ok (cleanups, after) ∧ ¬Untraced after 7 ∧
      (after.attachHeartbeat 9 2 2).1 = .notRegistered ∧
      ∃ again, after.disconnectConnection 7 = .ok ([], again) ∧ again ≠ after := by
  obtain ⟨state, issued, served, cleanups, after, done, bound, refused, again, released, free⟩ : ∃ state issued,
      serve { liveness := {} } {} divided = .ok (state, issued) ∧
      ∃ cleanups after, state.disconnectConnection 7 = .ok (cleanups, after) ∧
        (after.nodes[(2 : UInt64)]?).map (·.heartbeatConnection) = some 7 ∧
        (after.attachHeartbeat 9 2 2).1 = .notRegistered ∧
        ∃ again, after.disconnectConnection 7 = .ok ([], again) ∧
          (again.nodes[(2 : UInt64)]?).map (·.heartbeatConnection) = some 0 :=
    ⟨_, _, rfl, _, _, rfl, rfl, rfl, _, rfl, rfl⟩
  refine ⟨state, issued, served, cleanups, after, done, fun untraced => ?_, refused, again, released, fun same => ?_⟩
  · obtain ⟨node, found, beats⟩ := Option.map_eq_some_iff.mp bound
    exact (untraced 2 node found).2 beats
  · rw [same, bound] at free
    cases free

end RobotMiddleware.Proofs.Disconnections
