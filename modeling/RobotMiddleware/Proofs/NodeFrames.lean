import RobotMiddleware.Proofs.RegistryOwnership
import RobotMiddleware.Proofs.RegistryTopics

/-! What happens to the records of nodes, whatever ids have been issued. Requests
change the endpoint sets of their node, and a cleanup removes nodes and names the
connections that go with them. -/

namespace RobotMiddleware.Proofs.NodeFrames
open Std Lib.Index Lib.Outcome Lib.Loops RegistryState RegistryOwnership RegistryCalls RegistryIntegrity
open RegistryTopics (bareNode)

def connections (node : NodeRecord) : List UInt64 := [node.controlConnection, node.heartbeatConnection]

/-- These nodes have gone, and the others have not changed but for their endpoints. -/
def Leaves (gone : List UInt64) (before after : RegistryState) : Prop :=
  ∀ id : UInt64, (after.nodes[id]?).map bareNode = if id ∈ gone then none else (before.nodes[id]?).map bareNode

variable {node old : NodeRecord} {now : Int}

theorem connections_eq (same : bareNode old = bareNode node) : connections old = connections node := by
  have bare : connections (bareNode old) = connections (bareNode node) := by rw [same]
  exact bare

theorem control_eq (same : connections old = connections node) : old.controlConnection = node.controlConnection :=
  (List.cons.inj same).1

variable {state before middle after : RegistryState} {connection nodeId endpointId : UInt64} {error : ErrorCode}

section Leaving
variable {id : UInt64} {gone later : List UInt64}

theorem Leaves.of_nodes (same : after.nodes = before.nodes) : Leaves [] before after := by
  intro id
  simp [same]

theorem Leaves.of_erase (same : after.nodes = before.nodes.erase nodeId) : Leaves [nodeId] before after := by
  intro id
  rw [same, ExtTreeMap.getElem?_erase]
  by_cases here : compare nodeId id = .eq
  · simp [LawfulEqCmp.eq_of_compare here]
  · have other : id ≠ nodeId := fun same => here (by rw [same]; exact Std.ReflCmp.compare_self)
    simp [here, other]

theorem Leaves.refl (state : RegistryState) : Leaves [] state state := .of_nodes rfl

theorem Leaves.trans (first : Leaves gone before middle) (last : Leaves later middle after) : Leaves (gone ++ later) before after := by
  intro id
  rw [last id, first id]
  by_cases early : id ∈ gone <;> by_cases late : id ∈ later <;> simp [early, late]

theorem Leaves.former (leaves : Leaves gone before after) (found : after.nodes[id]? = some node) :
    id ∉ gone ∧ ∃ old, before.nodes[id]? = some old ∧ bareNode old = bareNode node := by
  have same := leaves id
  rw [found, Option.map_some] at same
  split at same
  next => cases same
  next remains => exact ⟨remains, Option.map_eq_some_iff.mp same.symm⟩

theorem Leaves.kept (leaves : Leaves gone before after) (remains : id ∉ gone) (found : before.nodes[id]? = some old) :
    ∃ node, after.nodes[id]? = some node ∧ bareNode node = bareNode old := by
  have same := leaves id
  rw [if_neg remains, found] at same
  exact Option.map_eq_some_iff.mp same

end Leaving

theorem setNode_stays (found : state.nodes[nodeId]? = some old)
    (same : bareNode old = bareNode node) : Leaves [] state (state.setNode nodeId node) := by
  intro id
  simp only [RegistryState.setNode, ExtTreeMap.getElem?_insert, List.not_mem_nil, if_false]
  split
  next here =>
    rw [← LawfulEqCmp.eq_of_compare here, found, Option.map_some, Option.map_some, same]
  next => rfl

theorem unadvertise_stays (done : state.unadvertise connection nodeId endpointId = .ok (error, after)) : Leaves [] state after := by
  cases unadvertise_iff.mp done with
  | refused => exact .refl state
  | @left node publisher topic _ owned _ mine _ recomputed =>
    subst mine
    have left : Leaves [] state (withoutPublisher state endpointId publisher node topic) := setNode_stays (ownedNode_some.mp owned).1 rfl
    exact left.trans (.of_nodes (settle_topicsOnly recomputed).nodes)

theorem unsubscribe_stays (done : state.unsubscribe connection nodeId endpointId = .ok (error, after)) : Leaves [] state after := by
  cases unsubscribe_iff.mp done with
  | refused => exact .refl state
  | @left node subscriber topic _ owned _ mine _ recomputed =>
    subst mine
    have left : Leaves [] state (withoutSubscriber state endpointId subscriber node topic) := setNode_stays (ownedNode_some.mp owned).1 rfl
    exact left.trans (.of_nodes (settle_topicsOnly recomputed).nodes)

theorem unregisterNode_leaves (done : state.unregisterNode connection nodeId = .ok (error, after)) :
    state.ownedNode connection nodeId = none ∧ Leaves [] state after ∨ Leaves [nodeId] state after := by
  cases unregisterNode_iff.mp done with
  | refused foreign => exact .inl ⟨foreign, .refl state⟩
  | @left node withdrawn last owned unadvertised unsubscribed =>
    have first := leaveAll_keeps (Leaves [] state) (fun held called => held.trans (unadvertise_stays called)) (.refl state)
      unadvertised
    have left := leaveAll_keeps (Leaves [] state) (fun held called => held.trans (unsubscribe_stays called)) first unsubscribed
    exact .inr (left.trans (.of_erase rfl))

def closed (plan : DeadNodeCleanup) : List UInt64 := [plan.controlConnection, plan.heartbeatConnection]

theorem cleanupDeadNode_leaves (anchored : Anchored state) {cleanup : Option DeadNodeCleanup}
    (done : state.cleanupDeadNode nodeId = .ok (cleanup, after)) :
    Leaves [nodeId] state after ∧
      ∀ plan ∈ cleanup, ∃ node, state.nodes[nodeId]? = some node ∧ closed plan = connections node := by
  cases cleanupDeadNode_iff.mp done with
  | absent missing =>
    refine ⟨fun id => ?_, by simp⟩
    split
    next here => rw [List.mem_singleton.mp here, missing, Option.map_none]
    next => rfl
  | @removed node plan error last found planned unregistered =>
    rw [(anchored.nodes nodeId node found).1] at unregistered
    have owned : state.ownedNode node.controlConnection nodeId = some node := ownedNode_some.mpr ⟨found, rfl⟩
    have left : Leaves [nodeId] state last := (unregisterNode_leaves unregistered).resolve_left (by simp [owned])
    refine ⟨left, fun other same => ⟨node, found, ?_⟩⟩
    cases same
    have names := planFor_bare planned
    simp only [barePlan, DeadNodeCleanup.mk.injEq] at names
    rw [closed, connections, names.2.2.1, names.2.2.2.1]

theorem cleanupDeadNodes_leaves (anchored : Anchored state) {nodeIds : List UInt64} {cleanups : List DeadNodeCleanup}
    (done : state.cleanupDeadNodes nodeIds = .ok (cleanups, after)) :
    Leaves nodeIds state after ∧
      ∀ plan ∈ cleanups, ∃ id ∈ nodeIds, ∃ node, state.nodes[id]? = some node ∧ closed plan = connections node := by
  induction nodeIds generalizing state cleanups with
  | nil =>
    cases done
    exact ⟨.refl _, by simp⟩
  | cons first rest ih =>
    obtain ⟨cleanup, middle, others, called, remaining, rfl⟩ := cleanupDeadNodes_cons done
    obtain ⟨left, planned⟩ := cleanupDeadNode_leaves anchored called
    obtain ⟨leaves, more⟩ := ih ((cleanupDeadNode_loses called).anchored anchored) remaining
    refine ⟨left.trans leaves, fun plan member => ?_⟩
    rcases List.mem_append.mp member with here | later
    · obtain ⟨node, found, same⟩ := planned plan (Option.mem_toList.mp here)
      exact ⟨first, by simp, node, found, same⟩
    · obtain ⟨id, listed, node, found, same⟩ := more plan later
      obtain ⟨_, old, stood, earlier⟩ := left.former found
      exact ⟨id, by simp [listed], old, stood, same.trans (connections_eq earlier).symm⟩

/-- The nodes of one kind have gone. The plans name their connections, and a node
that is left is of the other kind. -/
structure Departed (goes : NodeRecord → Prop) (before after : RegistryState) (plans : List DeadNodeCleanup) : Prop where
  planned : ∀ plan ∈ plans, ∃ (id : UInt64) (node : NodeRecord),
    before.nodes[id]? = some node ∧ goes node ∧ closed plan = connections node
  left : ∀ (id : UInt64) (node : NodeRecord), after.nodes[id]? = some node →
    ∃ old, before.nodes[id]? = some old ∧ ¬goes old ∧ old.controlConnection = node.controlConnection

def Expired (state : RegistryState) (now : Int) (node : NodeRecord) : Prop :=
  silentFor node.lastSeen now state.liveness.deadTimeout = true

theorem marked_found {id : UInt64} (found : (marked state now).nodes[id]? = some node) :
    ∃ old, state.nodes[id]? = some old ∧ connections old = connections node := by
  simp only [marked, ExtTreeMap.getElem?_map, Option.map_eq_some_iff] at found
  obtain ⟨old, stood, rfl⟩ := found
  refine ⟨old, stood, ?_⟩
  split <;> rfl

theorem evaluateLiveness_departed (anchored : Anchored state) {update : LivenessUpdate}
    (done : state.evaluateLiveness now = .ok (update, after)) :
    Departed (Expired state now) state after update.deadNodes := by
  obtain ⟨leaves, planned⟩ := cleanupDeadNodes_leaves ((marked_loses now).anchored anchored) (evaluateLiveness_some done)
  have listed := @mem_expired _ (fun id node found => (anchored.nodes id node found).1) now
  refine ⟨fun plan member => ?_, fun id node found => ?_⟩
  · obtain ⟨id, dead, node, found, closes⟩ := planned plan member
    obtain ⟨old, stood, expired⟩ := listed.mp dead
    obtain ⟨former, present, same⟩ := marked_found found
    rw [stood] at present
    cases present
    exact ⟨id, old, stood, expired, closes.trans same.symm⟩
  · obtain ⟨remains, between, stood, kept⟩ := leaves.former found
    obtain ⟨old, present, same⟩ := marked_found stood
    refine ⟨old, present, fun expired => ?_, control_eq (same.trans (connections_eq kept))⟩
    exact remains (listed.mpr ⟨old, present, expired⟩)

theorem disconnectConnection_departed (anchored : Anchored state) {cleanups : List DeadNodeCleanup}
    (done : state.disconnectConnection connection = .ok (cleanups, after)) :
    Departed (fun node => node.controlConnection = connection) state after cleanups := by
  obtain ⟨cleaned, called, rfl⟩ := disconnectConnection_some done
  obtain ⟨leaves, planned⟩ := cleanupDeadNodes_leaves anchored called
  refine ⟨fun plan member => ?_, fun id node found => ?_⟩
  · obtain ⟨id, lost, node, found, closes⟩ := planned plan member
    obtain ⟨old, stood, mine⟩ := mem_connected.mp lost
    rw [found] at stood
    cases stood
    exact ⟨id, node, found, mine, closes⟩
  · obtain ⟨between, stood, kept⟩ : ∃ between, cleaned.nodes[id]? = some between ∧
        between.controlConnection = node.controlConnection := by
      split at found
      · simp only [detachHeartbeatConnection, ExtTreeMap.getElem?_map, Option.map_eq_some_iff] at found
        obtain ⟨between, stood, rfl⟩ := found
        refine ⟨between, stood, ?_⟩
        split <;> rfl
      · exact ⟨node, found, rfl⟩
    obtain ⟨remains, old, present, same⟩ := leaves.former stood
    refine ⟨old, present, fun mine => ?_, (control_eq (connections_eq same)).trans kept⟩
    exact remains (mem_connected.mpr ⟨old, present, mine⟩)

theorem heartbeat_alive {sessionId : UInt64} (accepted : (state.heartbeat connection nodeId sessionId now).1.error = .ok) :
    (state.heartbeat connection nodeId sessionId now).1.state = .alive := by
  rcases heartbeat_cases connection nodeId sessionId now with ⟨_, liveness, refused⟩ | ⟨node, _, renewed⟩
  · rw [refused] at accepted
    cases accepted
  · rw [renewed]

theorem perform_anchored {operation : RegistryOperation} (anchored : Anchored state)
    (done : state.perform operation = .ok after) : Anchored after := by
  cases operation with
  | registerNode connection nodeName now =>
    cases done
    exact (registerNode_keeps nodeName now).1.anchored anchored
  | unregisterNode =>
    obtain ⟨⟨error, result⟩, called, rfl⟩ := map_ok done
    rcases unregisterNode_effect called with ⟨_, rfl⟩ | ⟨_, _, loses⟩
    · exact anchored
    · exact loses.anchored anchored
  | attachHeartbeat connection nodeId sessionId =>
    cases done
    exact (attachHeartbeat_loses sessionId).anchored anchored
  | heartbeat connection nodeId sessionId now =>
    cases done
    exact (heartbeat_loses sessionId now).anchored anchored
  | evaluateLiveness now =>
    obtain ⟨⟨update, result⟩, called, rfl⟩ := map_ok done
    exact (evaluateLiveness_loses called).anchored anchored
  | disconnectConnection =>
    obtain ⟨⟨plans, result⟩, called, rfl⟩ := map_ok done
    exact (disconnectConnection_loses called).anchored anchored
  | detachHeartbeatConnection connection =>
    cases done
    exact (detachHeartbeatConnection_loses connection).anchored anchored
  | advertise =>
    obtain ⟨⟨result, next⟩, called, rfl⟩ := map_ok done
    exact (advertise_keeps called).1.anchored anchored
  | unadvertise =>
    obtain ⟨⟨error, result⟩, called, rfl⟩ := map_ok done
    rcases unadvertise_effect called with ⟨_, rfl, _⟩ | ⟨_, _, loses, _⟩
    · exact anchored
    · exact loses.anchored anchored
  | subscribe =>
    obtain ⟨⟨result, next⟩, called, rfl⟩ := map_ok done
    exact (subscribe_keeps called).1.anchored anchored
  | unsubscribe =>
    obtain ⟨⟨error, result⟩, called, rfl⟩ := map_ok done
    exact (unsubscribe_loses called).anchored anchored
  | resolve | queryTopic =>
    obtain ⟨_, _, rfl⟩ := map_ok done
    exact anchored

theorem create_anchored {liveness : LivenessConfig} (created : RegistryState.create liveness = .ok state) : Anchored state := by
  unfold RegistryState.create at created
  split at created
  · cases created
  · cases created
    exact ⟨by simp, by simp⟩

theorem serve_invariant {inv : RegistryState → Prop} {issued last : Issued} {operations : List RegistryOperation}
    (kept : ∀ {before operation after}, inv before → before.perform operation = .ok after → inv after) (start : inv state)
    (served : serve state issued operations = .ok (after, last)) : inv after := by
  induction operations generalizing state issued with
  | nil =>
    cases served
    exact start
  | cons operation rest ih =>
    cases performed : state.perform operation with
    | error =>
      simp only [serve, performed] at served
      cases served
    | ok next =>
      simp only [serve, performed] at served
      exact ih (kept start performed) served

theorem serve_anchored {liveness : LivenessConfig} {initial : RegistryState} {operations : List RegistryOperation}
    {issued : Issued} (created : RegistryState.create liveness = .ok initial)
    (served : serve initial {} operations = .ok (state, issued)) : Anchored state :=
  serve_invariant perform_anchored (create_anchored created) served

end RobotMiddleware.Proofs.NodeFrames
