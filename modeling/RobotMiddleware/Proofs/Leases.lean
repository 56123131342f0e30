import Mathlib.Algebra.Ring.Int.Defs
import RobotMiddleware.Proofs.CounterWrap

/-! The lease of a node. The last time at which the registry has seen a node, by its
registration or by a heartbeat that it accepted, decides whether the next check
suspects or removes the node, and an id that is gone does not come back. -/

namespace RobotMiddleware.Proofs.Leases
open Std Lib.Index Lib.Numbering RegistryState RegistryCalls RegistryIntegrity RegistryTopics NodeRemoval RegistryEffects CounterWrap

def timeOf : RegistryOperation → Option Int
  | .registerNode _ _ now | .heartbeat _ _ _ now | .evaluateLiveness now => some now
  | _ => none

def sighting (state : RegistryState) : RegistryOperation → Option (UInt64 × Int)
  | .registerNode connection nodeName now =>
    let result := (state.registerNode connection nodeName now).1
    if result.error = .ok then some (result.id, now) else none
  | .heartbeat connection nodeId sessionId now =>
    if (state.heartbeat connection nodeId sessionId now).1.error = .ok then some (nodeId, now) else none
  | _ => none

/-- What the registry knows of its nodes, given the times so far and what was seen at them. -/
structure Lease (config : LivenessConfig) (times : List Int) (seen : List (UInt64 × Int)) (state : RegistryState)
    (issued : Issued) : Prop where
  liveness : state.liveness = config
  latest : ∀ (id : UInt64) (node : NodeRecord), state.nodes[id]? = some node →
    IsGreatest {time | (id, time) ∈ seen} node.lastSeen
  suspected : ∀ (id : UInt64) (node : NodeRecord), state.nodes[id]? = some node → node.liveness = .alive ∨
    node.liveness = .suspected ∧ ∃ time ∈ times, silentFor node.lastSeen time config.suspectTimeout = true
  timed : ∀ entry ∈ seen, entry.2 ∈ times
  issued : ∀ entry ∈ seen, entry.1 ∈ issued.nodes

/-- A node that is left is as old as it was, and is at most newly suspected. -/
structure Ages (timeout : Int64) (times : List Int) (old node : NodeRecord) : Prop where
  lastSeen : node.lastSeen = old.lastSeen
  liveness : node.liveness = old.liveness ∨
    node.liveness = .suspected ∧ ∃ time ∈ times, silentFor old.lastSeen time timeout = true

variable {state after : RegistryState} {config : LivenessConfig} {timeout : Int64} {times : List Int}
  {seen : List (UInt64 × Int)} {issued last : Issued} {operation : RegistryOperation} {nodeId id : UInt64} {node : NodeRecord}

theorem Ages.refl (node : NodeRecord) : Ages timeout times node node := ⟨rfl, .inl rfl⟩

theorem ages_of_bare (others : ∀ id, id ≠ nodeId → after.nodes[id]? = state.nodes[id]?)
    (same : (after.nodes[nodeId]?).map bareNode = (state.nodes[nodeId]?).map bareNode)
    (found : after.nodes[id]? = some node) : ∃ old, state.nodes[id]? = some old ∧ Ages timeout times old node := by
  obtain ⟨old, stored, bare⟩ := bare_kept others same found
  simp only [bareNode, NodeRecord.mk.injEq] at bare
  exact ⟨old, stored, bare.2.2.2.2.2.2.1.symm, .inl bare.2.2.2.2.2.1.symm⟩

theorem found_of_removes {ids : List UInt64} (removes : Removes ids state after) (found : after.nodes[id]? = some node) :
    state.nodes[id]? = some node := by
  rw [removes.nodes] at found
  split at found
  · cases found
  · exact found

theorem detached_ages {connection : UInt64} (found : (state.detachHeartbeatConnection connection).nodes[id]? = some node) :
    ∃ old, state.nodes[id]? = some old ∧ Ages timeout times old node := by
  simp only [detachHeartbeatConnection, ExtTreeMap.getElem?_map, Option.map_eq_some_iff] at found
  obtain ⟨old, stored, rfl⟩ := found
  refine ⟨old, stored, ?_⟩
  split
  · exact ⟨rfl, .inl rfl⟩
  · exact .refl old

theorem marked_ages {now : Int} (found : (marked state now).nodes[id]? = some node) :
    ∃ old, state.nodes[id]? = some old ∧ Ages state.liveness.suspectTimeout [now] old node := by
  simp only [marked, ExtTreeMap.getElem?_map, Option.map_eq_some_iff] at found
  obtain ⟨old, stored, rfl⟩ := found
  refine ⟨old, stored, ?_⟩
  split
  next silent =>
    simp only [newlySuspected, Bool.and_eq_true] at silent
    exact ⟨rfl, .inr ⟨rfl, now, by simp, silent.1⟩⟩
  · exact .refl old

theorem effect_ages (effect : Effect state operation after)
    (quiet : ∀ connection nodeName now, operation ≠ .registerNode connection nodeName now)
    (silent : ∀ connection nodeId sessionId now, operation ≠ .heartbeat connection nodeId sessionId now)
    (found : after.nodes[id]? = some node) :
    ∃ old, state.nodes[id]? = some old ∧ Ages state.liveness.suspectTimeout (timeOf operation).toList old node := by
  cases effect with
  | nothing => exact ⟨node, found, .refl node⟩
  | registered connection nodeName now => exact absurd rfl (quiet connection nodeName now)
  | @renewed connection nodeId sessionId _ now => exact absurd rfl (silent connection nodeId sessionId now)
  | unregistered owned removes => exact ⟨node, found_of_removes removes found, .refl node⟩
  | @attached connection nodeId sessionId record stored =>
    simp only [RegistryState.setNode, ExtTreeMap.getElem?_insert] at found
    split at found
    next same =>
      have same := LawfulEqOrd.eq_of_compare same
      subst id
      cases found
      exact ⟨record, stored, rfl, .inl rfl⟩
    · exact ⟨node, found, .refl node⟩
  | evaluated removes => exact marked_ages (found_of_removes removes found)
  | disconnected removes detached =>
    rcases detached with rfl | rfl
    · exact ⟨node, found_of_removes removes found, .refl node⟩
    · obtain ⟨old, stored, ages⟩ := detached_ages found
      exact ⟨old, found_of_removes removes stored, ages⟩
  | detached => exact detached_ages found
  | advertised done accepted joined => exact ages_of_bare joined.joins.others joined.joins.node found
  | subscribed done accepted joined => exact ages_of_bare joined.joins.others joined.joins.node found
  | unadvertised owned withdraws => exact ages_of_bare withdraws.others withdraws.node found
  | unsubscribed owned withdraws => exact ages_of_bare withdraws.others withdraws.node found

theorem effect_liveness (effect : Effect state operation after) : after.liveness = state.liveness := by
  cases effect with
  | nothing | registered | attached | renewed | detached => rfl
  | unregistered owned removes => exact removes.liveness
  | evaluated removes => exact removes.liveness
  | disconnected removes detached =>
    rcases detached with rfl | rfl
    · exact removes.liveness
    · exact removes.liveness
  | advertised done accepted joined => exact joined.joins.liveness
  | subscribed done accepted joined => exact joined.joins.liveness
  | unadvertised owned withdraws => exact withdraws.liveness
  | unsubscribed owned withdraws => exact withdraws.liveness

theorem Lease.aged (lease : Lease config times seen state issued) (liveness : after.liveness = state.liveness)
    {more : List Int} (known : ∀ id, id ∈ issued.nodes → id ∈ last.nodes)
    (ages : ∀ (id : UInt64) (node : NodeRecord), after.nodes[id]? = some node →
      ∃ old, state.nodes[id]? = some old ∧ Ages state.liveness.suspectTimeout more old node) :
    Lease config (times ++ more) seen after last := by
  refine ⟨liveness.trans lease.liveness, fun id node found => ?_, fun id node found => ?_,
    fun entry member => List.mem_append_left _ (lease.timed entry member), fun entry member => known _ (lease.issued entry member)⟩
  · obtain ⟨old, stored, ages⟩ := ages id node found
    rw [ages.lastSeen]
    exact lease.latest id old stored
  · obtain ⟨old, stored, ages⟩ := ages id node found
    rw [ages.lastSeen]
    rcases ages.liveness with same | ⟨newly, time, member, silent⟩
    · rw [same]
      refine (lease.suspected id old stored).imp_right fun ⟨suspected, time, member, silent⟩ => ?_
      exact ⟨suspected, time, List.mem_append_left _ member, silent⟩
    · rw [lease.liveness] at silent
      exact .inr ⟨newly, time, List.mem_append_right _ member, silent⟩

theorem Lease.shown (lease : Lease config times seen state issued) {now : Int} (bounded : ∀ time ∈ times, time ≤ now)
    (others : ∀ id, id ≠ nodeId → after.nodes[id]? = state.nodes[id]?) (here : after.nodes[nodeId]? = some node)
    (renewed : node.lastSeen = now ∧ node.liveness = .alive) (liveness : after.liveness = state.liveness)
    (known : ∀ id, id ∈ issued.nodes → id ∈ last.nodes) (mine : nodeId ∈ last.nodes) :
    Lease config (times ++ [now]) (seen ++ [(nodeId, now)]) after last := by
  refine ⟨liveness.trans lease.liveness, fun id record found => ?_, fun id record found => ?_, fun entry member => ?_,
    fun entry member => ?_⟩
  · by_cases same : id = nodeId
    · subst id
      rw [here] at found
      cases found
      rw [renewed.1]
      refine ⟨by simp, fun time member => ?_⟩
      rcases List.mem_append.mp member with earlier | new
      · exact bounded time (lease.timed _ earlier)
      · cases List.mem_singleton.mp new
        exact Int.le_refl _
    · rw [others id same] at found
      obtain ⟨member, most⟩ := lease.latest id record found
      refine ⟨List.mem_append_left _ member, fun time inside => most ?_⟩
      simpa [same] using inside
  · by_cases same : id = nodeId
    · subst id
      rw [here] at found
      cases found
      exact .inl renewed.2
    · rw [others id same] at found
      refine (lease.suspected id record found).imp_right fun ⟨suspected, time, member, silent⟩ => ?_
      exact ⟨suspected, time, List.mem_append_left _ member, silent⟩
  · rcases List.mem_append.mp member with old | new
    · exact List.mem_append_left _ (lease.timed entry old)
    · rw [List.mem_singleton.mp new]
      simp
  · rcases List.mem_append.mp member with old | new
    · exact known _ (lease.issued entry old)
    · rw [List.mem_singleton.mp new]
      exact mine

theorem perform_lease (lease : Lease config times seen state issued) (consistent : Consistent state)
    (counted : Counted state issued) (few : issued.Few) (done : state.perform operation = .ok after)
    (later : Counted after (issued.record state operation))
    (forward : ∀ now, timeOf operation = some now → ∀ time ∈ times, time ≤ now) :
    Lease config (times ++ (timeOf operation).toList) (seen ++ (sighting state operation).toList) after
      (issued.record state operation) := by
  have fresh := counted.fresh few
  have known : ∀ id, id ∈ issued.nodes → id ∈ (issued.record state operation).nodes :=
    fun _ member => List.mem_append_left _ member
  obtain ⟨_, effect⟩ := perform_effect consistent fresh done
  have liveness := effect_liveness effect
  cases operation with
  | registerNode connection nodeName now =>
    simp only [perform, Except.ok.injEq] at done
    rcases registerNode_cases connection nodeName now with ⟨error, failed, refused⟩ | ⟨_, accepted⟩
    · rw [refused] at done
      subst after
      rw [sighting, refused, if_neg failed, Option.toList_none, List.append_nil]
      exact lease.aged rfl known fun id node found => ⟨node, found, .refl node⟩
    · rw [accepted] at done
      subst after
      have free := fresh.node
      have here : (withNode state connection nodeName now).nodes[state.nextNodeId]? =
          some { nodeId := state.nextNodeId, sessionId := state.nextSessionId, nodeName, controlConnection := connection, lastSeen := now } := by
        simp only [withNode]
        grind
      rw [sighting, accepted]
      refine lease.shown (forward now rfl) (fun id other => ?_) here ⟨rfl, rfl⟩ rfl known
        (later.nodes.used _ (mem_iff_found.mpr ⟨_, here⟩))
      simp only [withNode]
      grind
  | heartbeat connection nodeId sessionId now =>
    simp only [perform, Except.ok.injEq] at done
    rcases heartbeat_cases connection nodeId sessionId now with ⟨_, _, refused⟩ | ⟨node, renews, accepted⟩
    · rw [refused] at done
      subst after
      rw [sighting, refused, if_neg (by simp), Option.toList_none, List.append_nil]
      exact lease.aged rfl known fun id node found => ⟨node, found, .refl node⟩
    · rw [accepted] at done
      subst after
      rw [sighting, accepted]
      refine lease.shown (forward now rfl) (fun id other => ?_) ExtTreeMap.getElem?_insert_self ⟨rfl, rfl⟩ rfl known
        (known _ (counted.nodes.used _ (mem_iff_found.mpr ⟨_, renews.1⟩)))
      simp only [RegistryState.setNode]
      grind
  | _ =>
    change Lease config _ (seen ++ []) after _
    rw [List.append_nil]
    exact lease.aged liveness known fun id node found => effect_ages effect (by simp) (by simp) found

theorem serve_lease {operations : List RegistryOperation} (lease : Lease config times seen state issued)
    (consistent : Consistent state) (counted : Counted state issued)
    (served : serve state issued operations = .ok (after, last)) (few : last.Few)
    (ordered : (times ++ operations.filterMap timeOf).Pairwise (· ≤ ·)) :
    Lease config (times ++ operations.filterMap timeOf) (seen ++ history sighting state operations) after last := by
  induction operations generalizing state issued times seen with
  | nil =>
    cases served
    rw [List.filterMap_nil, history, List.append_nil, List.append_nil]
    exact lease
  | cons operation rest ih =>
    have earlier := serve_few served few
    obtain ⟨middle, done, _, issues, _⟩ := perform_total consistent (counted.fresh earlier) operation
    have split : (operation :: rest).filterMap timeOf = (timeOf operation).toList ++ rest.filterMap timeOf := by
      cases found : timeOf operation <;> simp [found]
    simp only [serve, done] at served
    simp only [history, done]
    rw [split, ← List.append_assoc, ← List.append_assoc]
    rw [split, ← List.append_assoc] at ordered
    refine ih (perform_lease lease consistent counted earlier done (counted.issues issues) fun now timed time member => ?_)
      (perform_effect consistent (counted.fresh earlier) done).1 (counted.issues issues) served ordered
    rw [timed] at ordered
    exact (List.pairwise_append.mp (List.pairwise_append.mp ordered).1).2.2 time member now (by simp)

structure Refused (state : RegistryState) (nodeId : UInt64) : Prop where
  heartbeat : ∀ connection sessionId now, (state.heartbeat connection nodeId sessionId now).1.error = .notRegistered
  attachHeartbeat : ∀ connection sessionId, (state.attachHeartbeat connection nodeId sessionId).1 = .notRegistered
  unregisterNode : ∀ connection, state.unregisterNode connection nodeId = .ok (.notRegistered, state)
  advertise : ∀ connection topicName typeName typeHash maxMessageSize transport pool,
    state.advertise connection nodeId topicName typeName typeHash maxMessageSize transport pool =
      .ok ({ error := .notRegistered }, state)
  subscribe : ∀ connection topicName typeName typeHash maxMessageSize dataSocketPath transport queue,
    state.subscribe connection nodeId topicName typeName typeHash maxMessageSize dataSocketPath transport queue =
      .ok ({ error := .notRegistered }, state)
  unadvertise : ∀ connection endpointId, state.unadvertise connection nodeId endpointId = .ok (.endpointNotFound, state)
  unsubscribe : ∀ connection endpointId, state.unsubscribe connection nodeId endpointId = .ok (.endpointNotFound, state)
  resolve : ∀ connection endpointId, state.resolve connection nodeId endpointId = .ok { error := .endpointNotFound }

structure RefusedSession (state : RegistryState) (sessionId : UInt64) : Prop where
  heartbeat : ∀ connection nodeId now, (state.heartbeat connection nodeId sessionId now).1.error = .notRegistered
  attachHeartbeat : ∀ connection nodeId, (state.attachHeartbeat connection nodeId sessionId).1 = .notRegistered

theorem refused_of_gone (gone : nodeId ∉ state.nodes) : Refused state nodeId := by
  have absent : state.nodes[nodeId]? = none := ExtTreeMap.getElem?_eq_none gone
  have nobody (connection : UInt64) : state.ownedNode connection nodeId = none := by rw [ownedNode, absent]
  refine ⟨?_, ?_, ?_, ?_, ?_, ?_, ?_, ?_⟩
  · intro connection sessionId now
    rw [RegistryState.heartbeat, absent]
  · intro connection sessionId
    rw [RegistryState.attachHeartbeat, absent]
  · intro connection
    rw [RegistryState.unregisterNode, nobody]
  · intros
    rw [RegistryState.advertise, nobody]
  · intros
    rw [RegistryState.subscribe, nobody]
  · intro connection endpointId
    rw [RegistryState.unadvertise, nobody]
  · intro connection endpointId
    rw [RegistryState.unsubscribe, nobody]
  · intro connection endpointId
    rw [RegistryState.resolve, nobody]

theorem refusedSession_of_gone {session : UInt64} (gone : ¬HasSession state session) : RefusedSession state session := by
  refine ⟨fun connection nodeId now => ?_, fun connection nodeId => ?_⟩
  · rcases heartbeat_cases connection nodeId session now with ⟨_, _, refused⟩ | ⟨node, renews, _⟩
    · rw [refused]
    · exact absurd ⟨nodeId, node, renews.1, renews.2.1⟩ gone
  · rcases attachHeartbeat_cases connection nodeId session with refused | ⟨node, found, same, _⟩
    · rw [refused]
    · exact absurd ⟨nodeId, node, found, same⟩ gone

def milliseconds (timeout : Int64) : Int := timeout.toInt * 1000000

/-- When the next check removes or suspects a node, and which heartbeats are accepted. -/
structure Timely (config : LivenessConfig) (times : List Int) (seen : List (UInt64 × Int)) (state : RegistryState) : Prop where
  check : ∀ now < 2 ^ 63, (∀ time ∈ times, time ≤ now) → ∃ update after, state.evaluateLiveness now = .ok (update, after) ∧
    (∀ id, id ∈ after.nodes ↔ id ∈ state.nodes ∧ ∃ time, (id, time) ∈ seen ∧ now - milliseconds config.deadTimeout < time) ∧
    ∀ (id : UInt64) (node : NodeRecord), after.nodes[id]? = some node → ∃ last, IsGreatest {time | (id, time) ∈ seen} last ∧
      node.liveness = if last ≤ now - milliseconds config.suspectTimeout then .suspected else .alive
  accepts : ∀ connection nodeId sessionId now, connection ≠ 0 →
    ((state.heartbeat connection nodeId sessionId now).1.error = .ok ↔ ∃ node : NodeRecord, state.nodes[nodeId]? = some node ∧
      node.sessionId = sessionId ∧ (connection = node.controlConnection ∨
        node.heartbeatConnection ≠ 0 ∧ connection = node.heartbeatConnection))

/-- Timeouts that are at least one millisecond and, in nanoseconds, fit into 64 bits. -/
structure Measurable (config : LivenessConfig) : Prop where
  suspect : 0 < config.suspectTimeout
  order : config.suspectTimeout < config.deadTimeout
  dead : config.deadTimeout ≤ 9223372036854

theorem silentFor_iff {since now : Int} (past : 0 ≤ since ∧ since < 2 ^ 63) (present : 0 ≤ now ∧ now < 2 ^ 63)
    (positive : 0 < timeout) (bounded : timeout ≤ 9223372036854) :
    silentFor since now timeout = true ↔ since ≤ now - milliseconds timeout := by
  have low : 0 < timeout.toInt := Int64.lt_iff_toInt_lt.mp positive
  have high : timeout.toInt ≤ 9223372036854 := Int64.le_iff_toInt_le.mp bounded
  have factor : (1000000 : Int64).toInt = 1000000 := rfl
  have size : Int64.size = 2 ^ 64 := rfl
  rw [silentFor, decide_eq_true_eq, Int64.le_iff_toInt_le, Int64.toInt_mul, Int64.toInt_ofInt, factor, size,
    Int.bmod_eq_of_le (by omega) (by omega), Int.bmod_eq_of_le (by omega) (by omega), milliseconds]
  omega

theorem heartbeat_accepted {connection sessionId : UInt64} {now : Int} (real : connection ≠ 0) :
    (state.heartbeat connection nodeId sessionId now).1.error = .ok ↔ ∃ node : NodeRecord, state.nodes[nodeId]? = some node ∧
      node.sessionId = sessionId ∧ (connection = node.controlConnection ∨
        node.heartbeatConnection ≠ 0 ∧ connection = node.heartbeatConnection) := by
  rcases heartbeat_cases connection nodeId sessionId now with ⟨nobody, _, refused⟩ | ⟨node, renews, accepted⟩
  · rw [refused]
    refine ⟨fun error => absurd error (by simp), ?_⟩
    rintro ⟨node, found, session, caller⟩
    exact absurd ⟨found, session, caller.imp_right And.right⟩ (nobody node)
  · rw [accepted]
    refine ⟨fun _ => ⟨node, renews.1, renews.2.1, renews.2.2.imp_right fun attached => ⟨?_, attached⟩⟩, fun _ => rfl⟩
    rw [← attached]
    exact real

section Check
variable (lease : Lease config times seen state issued) (consistent : Consistent state) (measurable : Measurable config)
  (clock : ∀ time ∈ times, 0 ≤ time) {now : Int} (small : now < 2 ^ 63) (bounded : ∀ time ∈ times, time ≤ now)
include lease clock small bounded

/-- A node was last seen at one of the times so far, so 64 bits hold what is compared. -/
theorem Lease.silent {time : Int} (stored : state.nodes[id]? = some node) (inside : time = now ∨ time ∈ times)
    (positive : 0 < timeout) (fits : timeout ≤ 9223372036854) :
    silentFor node.lastSeen time timeout = true ↔ node.lastSeen ≤ time - milliseconds timeout := by
  have within (time : Int) (member : time ∈ times) : 0 ≤ time ∧ time < 2 ^ 63 :=
    ⟨clock time member, Int.lt_of_le_of_lt (bounded time member) small⟩
  have since := lease.timed _ (lease.latest id node stored).1
  refine silentFor_iff (within _ since) ?_ positive fits
  rcases inside with rfl | earlier
  · exact ⟨Int.le_trans (clock _ since) (bounded _ since), small⟩
  · exact within _ earlier

include measurable

theorem Lease.judged (stored : state.nodes[id]? = some node) :
    (if newlySuspected config now node then { node with liveness := .suspected } else node).liveness =
      if node.lastSeen ≤ now - milliseconds config.suspectTimeout then .suspected else .alive := by
  obtain ⟨suspect, order, dead⟩ := measurable
  have soon : config.suspectTimeout ≤ 9223372036854 := Int64.le_trans (Int64.le_of_lt order) dead
  have judged := lease.silent clock small bounded stored (.inl rfl) suspect soon
  rw [newlySuspected]
  rcases lease.suspected id node stored with alive | ⟨suspected, time, member, earlier⟩
  · by_cases overdue : silentFor node.lastSeen now config.suspectTimeout = true
    · simp [alive, overdue, judged.mp overdue]
    · simp [alive, overdue, mt judged.mpr overdue]
  · -- A suspected node has been silent since an earlier check.
    have long := (lease.silent clock small bounded stored (.inr member) suspect soon).mp earlier
    have before := bounded time member
    have overdue : node.lastSeen ≤ now - milliseconds config.suspectTimeout := by omega
    simp [suspected, overdue]

include consistent

theorem Lease.expired (id : UInt64) : id ∈ expired state now ↔
    ∃ node, state.nodes[id]? = some node ∧ node.lastSeen ≤ now - milliseconds config.deadTimeout := by
  obtain ⟨suspect, order, dead⟩ := measurable
  rw [mem_expired consistent.nodeIds, lease.liveness]
  refine exists_congr fun node => and_congr_right fun stored => ?_
  exact lease.silent clock small bounded stored (.inl rfl) (Int64.lt_trans suspect order) dead

theorem Lease.check :
    ∃ update after, state.evaluateLiveness now = .ok (update, after) ∧
      (∀ id, id ∈ after.nodes ↔ id ∈ state.nodes ∧ ∃ time, (id, time) ∈ seen ∧ now - milliseconds config.deadTimeout < time) ∧
      ∀ (id : UInt64) (node : NodeRecord), after.nodes[id]? = some node → ∃ last, IsGreatest {time | (id, time) ∈ seen} last ∧
        node.liveness = if last ≤ now - milliseconds config.suspectTimeout then .suspected else .alive := by
  obtain ⟨update, after, done, _, _, removes⟩ := evaluateLiveness_removes consistent now
  refine ⟨update, after, done, fun id => ?_, fun id node found => ?_⟩
  · have silent := lease.expired consistent measurable clock small bounded id
    rw [mem_iff_found, mem_iff_found, removes.nodes]
    constructor
    · rintro ⟨node, found⟩
      split at found
      · cases found
      next spared =>
        obtain ⟨old, stored, _⟩ := marked_ages found
        refine ⟨⟨old, stored⟩, old.lastSeen, (lease.latest id old stored).1, ?_⟩
        by_contra overdue
        exact spared (silent.mpr ⟨old, stored, by omega⟩)
    · rintro ⟨⟨old, stored⟩, time, member, recent⟩
      rw [if_neg]
      · simp [marked, stored]
      · intro gone
        obtain ⟨node, found, overdue⟩ := silent.mp gone
        rw [stored] at found
        cases found
        have least := (lease.latest id old stored).2 member
        omega
  · rw [removes.nodes] at found
    split at found
    · cases found
    simp only [marked, ExtTreeMap.getElem?_map, Option.map_eq_some_iff] at found
    obtain ⟨old, stored, rfl⟩ := found
    rw [lease.liveness]
    exact ⟨old.lastSeen, lease.latest id old stored, lease.judged measurable clock small bounded stored⟩

end Check

/-- In every registry that has issued fewer than `2^64 - 1` ids of each kind, whose timeouts
64 bits hold in nanoseconds and whose clock has not gone back, the leases of the nodes
decide, and what is gone is refused from then on. -/
theorem lease_semantics {liveness : LivenessConfig} {start : RegistryState} {operations : List RegistryOperation}
    (created : RegistryState.create liveness = .ok start) (served : serve start {} operations = .ok (state, issued))
    (few : issued.Few) (fits : liveness.deadTimeout ≤ 9223372036854)
    (ordered : (operations.filterMap timeOf).Pairwise (· ≤ ·)) (clock : ∀ time ∈ operations.filterMap timeOf, 0 ≤ time) :
    Timely liveness (operations.filterMap timeOf) (history sighting start operations) state ∧
      ∀ later final more, serve state issued later = .ok (final, more) → more.Few →
        (∀ id ∈ issued.nodes, id ∉ state.nodes → Refused final id) ∧
        ∀ session ∈ issued.sessions, ¬HasSession state session → RefusedSession final session := by
  obtain ⟨first, measurable⟩ : Lease liveness [] [] start {} ∧ Measurable liveness := by
    unfold RegistryState.create at created
    split at created
    · cases created
    next valid =>
      cases created
      simp only [validLivenessConfig, Bool.not_eq_true', Bool.not_eq_false, Bool.and_eq_true, decide_eq_true_eq] at valid
      exact ⟨⟨rfl, by simp, by simp, by simp, by simp⟩, Int64.lt_trans valid.1.1 valid.1.2, valid.2, fits⟩
  obtain ⟨consistent, counted⟩ := serve_consistent (create_consistent created) (create_integrity created).2 served few
  have lease := serve_lease first (create_consistent created) (create_integrity created).2 served few ordered
  rw [List.nil_append, List.nil_append] at lease
  refine ⟨⟨fun now small bounded => lease.check consistent measurable clock small bounded,
    fun _ _ _ _ real => heartbeat_accepted real⟩, ?_⟩
  intro later final more continued enough
  obtain ⟨nodes, sessions, _⟩ := serve_retires consistent counted continued enough
  exact ⟨fun id known gone => refused_of_gone (nodes id known gone),
    fun session known gone => refusedSession_of_gone (sessions session known gone)⟩

/-- Two nodes, of which only the second sends a heartbeat before the check. -/
def silentNeighbour : List RegistryOperation :=
  [.registerNode 7 [97] 0, .registerNode 8 [98] 0, .heartbeat 8 2 2 1000000000, .evaluateLiveness 1500000000]

theorem lease_semantics_neighbour : ∃ state issued, serve { liveness := {} } {} silentNeighbour = .ok (state, issued) ∧
    state.nodes.toList.map (fun entry => (entry.1, entry.2.sessionId)) = [(2, 2)] ∧
    Timely {} [0, 0, 1000000000, 1500000000] [(1, 0), (2, 0), (2, 1000000000)] state ∧
      Refused state 1 ∧ RefusedSession state 1 := by
  obtain ⟨state, issued, served, few, known, left⟩ : ∃ state issued,
      serve { liveness := {} } {} silentNeighbour = .ok (state, issued) ∧ issued.Few ∧
      (1 ∈ issued.nodes ∧ 1 ∈ issued.sessions) ∧
        state.nodes.toList.map (fun entry => (entry.1, entry.2.sessionId)) = [(2, 2)] :=
    ⟨_, _, rfl, ⟨by decide, by decide, by decide, by decide⟩, by decide, by decide +kernel⟩
  have created : RegistryState.create {} = .ok { liveness := {} } := rfl
  obtain ⟨timely, gone⟩ := lease_semantics created served few (by decide) (by decide) (by decide)
  obtain ⟨nodes, sessions⟩ := gone [] state issued rfl few
  have only (id : UInt64) (node : NodeRecord) (found : state.nodes[id]? = some node) : id = 2 ∧ node.sessionId = 2 := by
    have member : (id, node.sessionId) ∈ state.nodes.toList.map fun entry => (entry.1, entry.2.sessionId) :=
      List.mem_map.mpr ⟨(id, node), ExtTreeMap.mem_toList_iff_getElem?_eq_some.mpr found, rfl⟩
    simpa [left] using member
  refine ⟨state, issued, served, left, timely, nodes 1 known.1 fun present => ?_, sessions 1 known.2 ?_⟩
  · obtain ⟨node, found⟩ := mem_iff_found.mp present
    exact absurd (only 1 node found).1 (by decide)
  · rintro ⟨id, node, found, same⟩
    exact absurd ((only id node found).2.symm.trans same) (by decide)

/-- A valid configuration whose last timeout is negative once it is counted in nanoseconds. -/
def excessive : LivenessConfig := ⟨1, 2, 10000000000000⟩

/-- A node is removed one nanosecond after it was registered. -/
theorem lease_cut_short : ∃ state issued, RegistryState.create excessive = .ok { liveness := excessive } ∧
    serve { liveness := excessive } {} [.registerNode 7 [97] 0] = .ok (state, issued) ∧ issued.Few ∧
    ¬Timely excessive [0] [(1, 0)] state := by
  obtain ⟨state, issued, served, few, present, gone⟩ : ∃ state issued,
      serve { liveness := excessive } {} [.registerNode 7 [97] 0] = .ok (state, issued) ∧ issued.Few ∧
      1 ∈ state.nodes ∧ (state.evaluateLiveness 1).map (fun result => result.2.nodes.contains 1) = .ok false :=
    ⟨_, _, rfl, ⟨by decide, by decide, by decide, by decide⟩, by decide, by decide +kernel⟩
  refine ⟨state, issued, rfl, served, few, fun timely => ?_⟩
  obtain ⟨update, after, done, nodes, _⟩ := timely.check 1 (by decide) (by decide)
  have stays : after.nodes.contains 1 = true :=
    ExtTreeMap.contains_iff_mem.mpr ((nodes 1).mpr ⟨present, 0, by simp, by decide⟩)
  rw [done] at gone
  simp [Except.map, stays] at gone

end RobotMiddleware.Proofs.Leases
