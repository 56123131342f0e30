import RobotMiddleware.Proofs.CounterWrap

/-! A connection reaches only the nodes that were registered over it. Whatever ids
a request carries, the records of every other node stay as they are, and its
publishers stay on their topics with their pools. -/

namespace RobotMiddleware.Proofs.ForeignNodes
open Std Lib.Index Lib.Outcome RegistryState RegistryCalls RegistryIntegrity RegistryTopics RegistryJoins NodeRemoval RegistryEffects CounterWrap

/-- The connection on which a request is made that acts for its sender. -/
def issuedOn : RegistryOperation → Option UInt64
  | .registerNode connection _ _ | .unregisterNode connection _ | .disconnectConnection connection
  | .advertise connection .. | .unadvertise connection .. | .subscribe connection .. | .unsubscribe connection .. =>
    some connection
  | _ => none

structure Unchanged (nodeId : UInt64) (before after : RegistryState) : Prop where
  node : after.nodes[nodeId]? = before.nodes[nodeId]?
  publishers : ∀ (endpointId : UInt64) (publisher : PublisherEndpoint), publisher.nodeId = nodeId →
    (after.publishers[endpointId]? = some publisher ↔ before.publishers[endpointId]? = some publisher)
  subscribers : ∀ (endpointId : UInt64) (subscriber : SubscriberEndpoint), subscriber.nodeId = nodeId →
    (after.subscribers[endpointId]? = some subscriber ↔ before.subscribers[endpointId]? = some subscriber)

/-- A request has left a node alone, apart from its heartbeat connection when that is the one that is lost. -/
structure Spared (operation : RegistryOperation) (nodeId : UInt64) (node : NodeRecord) (before after : RegistryState) :
    Prop where
  node : after.nodes[nodeId]? = some node ∨ operation = .disconnectConnection node.heartbeatConnection ∧
    after.nodes[nodeId]? = some { node with heartbeatConnection := 0 }
  publishers : ∀ (endpointId : UInt64) (publisher : PublisherEndpoint), publisher.nodeId = nodeId →
    (after.publishers[endpointId]? = some publisher ↔ before.publishers[endpointId]? = some publisher)
  subscribers : ∀ (endpointId : UInt64) (subscriber : SubscriberEndpoint), subscriber.nodeId = nodeId →
    (after.subscribers[endpointId]? = some subscriber ↔ before.subscribers[endpointId]? = some subscriber)
  topics : ∀ (endpointId : UInt64) (publisher : PublisherEndpoint), before.publishers[endpointId]? = some publisher →
    publisher.nodeId = nodeId → ∃ old topic, before.topics[publisher.topicId]? = some old ∧
      after.topics[publisher.topicId]? = some topic ∧ old.publisherEndpoint = some endpointId ∧
      topic.publisherEndpoint = some endpointId ∧ old.pool = publisher.pool ∧ topic.pool = publisher.pool

variable {state before middle after : RegistryState} {nodeId connection : UInt64} {node : NodeRecord}

theorem unchanged_of_removes {ids : List UInt64} (removes : Removes ids before after) (outside : nodeId ∉ ids) :
    Unchanged nodeId before after := by
  refine ⟨?_, fun endpoint publisher mine => ⟨fun stored => (removes.publishers.former stored).1, fun stored => ?_⟩,
    fun endpoint subscriber mine => ⟨fun stored => (removes.subscribers.former stored).1, fun stored => ?_⟩⟩
  · rw [removes.nodes, if_neg outside]
  · exact removes.publishers.kept stored (mine ▸ outside)
  · exact removes.subscribers.kept stored (mine ▸ outside)

theorem unchanged_of_withdraws {other : UInt64} (withdraws : Withdraws other before after) (different : nodeId ≠ other) :
    Unchanged nodeId before after := by
  refine ⟨withdraws.others nodeId different, fun endpoint publisher mine => ⟨withdraws.publishers.within _ _, fun stored => ?_⟩,
    fun endpoint subscriber mine => ⟨withdraws.subscribers.within _ _, fun stored => ?_⟩⟩
  · exact withdraws.publishers.spares _ _ stored (by rwa [mine])
  · exact withdraws.subscribers.spares _ _ stored (by rwa [mine])

theorem unchanged_of_joins {other : UInt64} (joins : Joins other before after) (different : nodeId ≠ other) :
    Unchanged nodeId before after := by
  refine ⟨joins.others nodeId different, fun endpoint publisher mine => ⟨fun stored => ?_, joins.publishers.kept⟩,
    fun endpoint subscriber mine => ⟨fun stored => ?_, joins.subscribers.kept⟩⟩
  · rcases joins.publishers.new stored with former | new
    · exact former
    · exact absurd (mine.symm.trans new) different
  · rcases joins.subscribers.new stored with former | new
    · exact former
    · exact absurd (mine.symm.trans new) different

theorem foreign_other {other : UInt64} {record : NodeRecord} (owned : state.ownedNode connection other = some record)
    (found : state.nodes[nodeId]? = some node) (foreign : node.controlConnection ≠ connection) : nodeId ≠ other := by
  rintro rfl
  obtain ⟨stored, mine⟩ := ownedNode_some.mp owned
  rw [found] at stored
  cases stored
  exact foreign mine

theorem publisher_on_topic (consistent : Consistent state) {endpointId : UInt64} {publisher : PublisherEndpoint}
    (stored : state.publishers[endpointId]? = some publisher) :
    ∃ topic, state.topics[publisher.topicId]? = some topic ∧ topic.publisherEndpoint = some endpointId ∧
      topic.pool = publisher.pool := by
  obtain ⟨topic, found, _⟩ := consistent.publisherTopics.holder stored
  have attached := (consistent.publisherTopics.iff found).mpr ⟨publisher, stored, rfl⟩
  refine ⟨topic, found, attached, ?_⟩
  rw [(consistent.implied _ topic found).pool, attachedPool, attached, Option.bind_some, stored]
  rfl

theorem Unchanged.detached (unchanged : Unchanged nodeId before middle) (first : Consistent before) (last : Consistent after)
    {operation : RegistryOperation} (publishers : after.publishers = middle.publishers)
    (subscribers : after.subscribers = middle.subscribers)
    (left : after.nodes[nodeId]? = some node ∨ operation = .disconnectConnection node.heartbeatConnection ∧
      after.nodes[nodeId]? = some { node with heartbeatConnection := 0 }) : Spared operation nodeId node before after := by
  have kept := unchanged.publishers
  rw [← publishers] at kept
  refine ⟨left, kept, ?_, fun endpoint publisher stored mine => ?_⟩
  · rw [subscribers]
    exact unchanged.subscribers
  · obtain ⟨old, present, attached, same⟩ := publisher_on_topic first stored
    obtain ⟨topic, stands, still, pool⟩ := publisher_on_topic last ((kept endpoint publisher mine).mpr stored)
    exact ⟨old, topic, present, stands, attached, still, same, pool⟩

theorem Unchanged.spared (unchanged : Unchanged nodeId before after) (first : Consistent before) (last : Consistent after)
    (operation : RegistryOperation) (found : before.nodes[nodeId]? = some node) :
    Spared operation nodeId node before after :=
  unchanged.detached first last rfl rfl (.inl (unchanged.node.trans found))

theorem effect_spares {operation : RegistryOperation} (first : Consistent before) (fresh : Fresh before)
    (last : Consistent after) (effect : Effect before operation after) (sender : issuedOn operation = some connection)
    (found : before.nodes[nodeId]? = some node) (foreign : node.controlConnection ≠ connection) :
    Spared operation nodeId node before after := by
  cases effect with
  | nothing => exact Unchanged.spared ⟨rfl, fun _ _ _ => Iff.rfl, fun _ _ _ => Iff.rfl⟩ first last _ found
  | registered connection nodeName now =>
    have unchanged : Unchanged nodeId before (withNode before connection nodeName now) := by
      refine ⟨?_, fun _ _ _ => Iff.rfl, fun _ _ _ => Iff.rfl⟩
      have free := fresh.node
      simp only [withNode]
      grind
    exact unchanged.spared first last _ found
  | unregistered owned removes =>
    cases sender
    have other := foreign_other owned found foreign
    exact (unchanged_of_removes removes (by simpa using other)).spared first last _ found
  | disconnected removes detached =>
    cases sender
    have outside : nodeId ∉ connected before connection := by
      intro member
      obtain ⟨record, stored, mine⟩ := mem_connected.mp member
      rw [found] at stored
      cases stored
      exact foreign mine
    have unchanged := unchanged_of_removes removes outside
    rcases detached with rfl | rfl
    · exact unchanged.spared first last _ found
    · refine unchanged.detached first last rfl rfl ?_
      simp only [detachHeartbeatConnection, ExtTreeMap.getElem?_map, unchanged.node, found, Option.map_some]
      split
      next lost => exact .inr ⟨by rw [lost], rfl⟩
      · exact .inl rfl
  | advertised done accepted joined =>
    cases sender
    obtain ⟨record, owned⟩ := joined.owned
    exact (unchanged_of_joins joined.joins (foreign_other owned found foreign)).spared first last _ found
  | subscribed done accepted joined =>
    cases sender
    obtain ⟨record, owned⟩ := joined.owned
    exact (unchanged_of_joins joined.joins (foreign_other owned found foreign)).spared first last _ found
  | unadvertised owned withdraws =>
    cases sender
    exact (unchanged_of_withdraws withdraws (foreign_other owned found foreign)).spared first last _ found
  | unsubscribed owned withdraws =>
    cases sender
    exact (unchanged_of_withdraws withdraws (foreign_other owned found foreign)).spared first last _ found
  | attached | renewed | evaluated | detached => cases sender

/-- In every registry that has issued fewer than `2^64 - 1` ids of each kind, a request
on one connection leaves the nodes of all others alone. -/
theorem foreign_nodes_spared {liveness : LivenessConfig} {start : RegistryState} {operations : List RegistryOperation}
    {issued : Issued} (created : RegistryState.create liveness = .ok start)
    (served : serve start {} operations = .ok (state, issued)) (few : issued.Few) {operation : RegistryOperation}
    (sender : issuedOn operation = some connection) (found : state.nodes[nodeId]? = some node)
    (foreign : node.controlConnection ≠ connection) :
    ∃ after, state.perform operation = .ok after ∧ Spared operation nodeId node state after := by
  obtain ⟨consistent, fresh⟩ := reached_consistent created served few
  obtain ⟨after, done, _⟩ := perform_total consistent fresh operation
  obtain ⟨kept, effect⟩ := perform_effect consistent fresh done
  exact ⟨after, done, effect_spares consistent fresh kept effect sender found foreign⟩

/-- The connection of the second node is lost. -/
theorem foreign_nodes_spared_seed : ∃ node after, seed.nodes[(1 : UInt64)]? = some node ∧
    seed.perform (.disconnectConnection 8) = .ok after ∧ Spared (.disconnectConnection 8) 1 node seed after := by
  obtain ⟨issued, served, few⟩ := seed_served
  have created : RegistryState.create {} = .ok { liveness := {} } := rfl
  obtain ⟨node, found, foreign⟩ : ∃ node, seed.nodes[(1 : UInt64)]? = some node ∧ node.controlConnection ≠ 8 :=
    ⟨_, rfl, by decide⟩
  have sender : issuedOn (.disconnectConnection 8) = some 8 := rfl
  obtain ⟨after, done, spared⟩ := foreign_nodes_spared created served few sender found foreign
  exact ⟨node, after, found, done, spared⟩

/-- Once the counters have gone round, a publisher on one connection takes the topic of a publisher on another. -/
theorem foreign_node_touched : ∃ operations state issued node,
    serve { liveness := {} } {} operations = .ok (state, issued) ∧ issuedOn intrusion = some 8 ∧
      state.nodes[(1 : UInt64)]? = some node ∧ node.controlConnection ≠ 8 ∧
      ¬∃ after, state.perform intrusion = .ok after ∧ Spared intrusion 1 node state after := by
  obtain ⟨issued, metrics, served⟩ := counters_wrap
  obtain ⟨node, found, foreign⟩ : ∃ node, (wrapped metrics).nodes[(1 : UInt64)]? = some node ∧ node.controlConnection ≠ 8 :=
    ⟨_, rfl, by simp⟩
  refine ⟨_, _, issued, node, served, rfl, found, foreign, ?_⟩
  rintro ⟨after, done, spared⟩
  rw [intrusion_served] at done
  cases done
  have mine : (wrapped metrics).publishers[(1 : UInt64)]? = some ⟨1, 1, 1, 64, .sharedMemory, samplePool⟩ := rfl
  obtain ⟨old, topic, _, stands, _, _, _, pool⟩ := spared.topics 1 _ mine rfl
  have other := (overwritten_topic metrics).1
  rw [stands, Option.map_some, Option.some.injEq, pool] at other
  exact absurd other (by decide)

end RobotMiddleware.Proofs.ForeignNodes
