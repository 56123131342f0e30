import RobotMiddleware.Proofs.RegistryJoins

/-! Nodes that go, one or several. Exactly the nodes and their endpoints are gone
from the tables, and the topics that are left are what their endpoints imply. -/

namespace RobotMiddleware.Proofs.NodeRemoval
open Std Lib.Index Lib.Outcome Lib.Loops RegistryState RegistryCalls RegistryIntegrity RegistryTopics

/-- A table without the records of these owners. -/
def Cleared {β : Type} (owner : β → UInt64) (ids : List UInt64) (before after : ExtTreeMap UInt64 β) : Prop :=
  ∀ key : UInt64, after[key]? = (before[key]?).filter fun record => owner record ∉ ids

structure Removes (ids : List UInt64) (before after : RegistryState) : Prop where
  nodes : ∀ id : UInt64, after.nodes[id]? = if id ∈ ids then none else before.nodes[id]?
  publishers : Cleared (·.nodeId) ids before.publishers after.publishers
  subscribers : Cleared (·.nodeId) ids before.subscribers after.subscribers
  topics : FewerTopics before after
  liveness : after.liveness = before.liveness

theorem eq_filter {ρ : Type} {left found : Option ρ} {keep : ρ → Bool} (fewer : ∀ record, left = some record → found = some record)
    (kept : ∀ record, left = some record → keep record)
    (spared : ∀ record, found = some record → keep record → left = some record) : left = found.filter keep := by
  apply Option.ext
  intro record
  rw [Option.filter_eq_some_iff]
  exact ⟨fun stored => ⟨fewer record stored, kept record stored⟩, fun ⟨stored, held⟩ => spared record stored held⟩

section Tables
variable {β : Type} {owner : β → UInt64} {ids more : List UInt64} {table between rest : ExtTreeMap UInt64 β} {key : UInt64}
  {record : β}

theorem Cleared.former (cleared : Cleared owner ids table rest) (stored : rest[key]? = some record) :
    table[key]? = some record ∧ owner record ∉ ids := by
  rw [cleared key, Option.filter_eq_some_iff] at stored
  exact ⟨stored.1, by simpa using stored.2⟩

theorem Cleared.remains (cleared : Cleared owner ids table rest) {holds : β → Prop} :
    (∃ record, rest[key]? = some record ∧ holds record) ↔ (∃ record, table[key]? = some record ∧ holds record) ∧ key ∈ rest := by
  constructor
  · rintro ⟨record, present, held⟩
    exact ⟨⟨record, (cleared.former present).1, held⟩, mem_iff_found.mpr ⟨record, present⟩⟩
  · rintro ⟨⟨record, present, held⟩, left⟩
    obtain ⟨other, still⟩ := mem_iff_found.mp left
    have former := (cleared.former still).1
    rw [present] at former
    cases former
    exact ⟨record, still, held⟩

theorem Cleared.kept (cleared : Cleared owner ids table rest) (stored : table[key]? = some record)
    (spared : owner record ∉ ids) : rest[key]? = some record := by
  rw [cleared key, Option.filter_eq_some_iff]
  exact ⟨stored, by simpa using spared⟩

theorem Cleared.of_trims (trims : Trims owner (· ∈ ids) table rest)
    (gone : ∀ (key : UInt64) (record : β), rest[key]? = some record → owner record ∉ ids) : Cleared owner ids table rest := by
  refine fun key => eq_filter (trims.within key) (fun record stored => ?_) fun record stored held => ?_
  · simpa using gone key record stored
  · exact trims.spares key record stored (by simpa using held)

theorem Cleared.trans (first : Cleared owner ids table between) (last : Cleared owner more between rest) :
    Cleared owner (ids ++ more) table rest := by
  intro key
  rw [last key, first key, Option.filter_filter]
  congr 1
  funext record
  simp

/-- A node that is not there has no endpoints. -/
theorem Cleared.absent {σ : Type} {holders : ExtTreeMap UInt64 σ} {member : σ → UInt64 → Prop} {id : UInt64}
    (indexed : Indexed table owner holders member) (missing : holders[id]? = none) : Cleared owner [id] table table := by
  refine .of_trims (.of_eq rfl) fun key record stored same => ?_
  obtain ⟨holder, found, _⟩ := indexed.holder stored
  rw [List.mem_singleton.mp same, missing] at found
  cases found

end Tables

variable {state before middle after : RegistryState} {nodeId connection : UInt64} {ids : List UInt64}

theorem Removes.refl (state : RegistryState) : Removes [] state state :=
  ⟨by simp, .of_trims (.of_eq rfl) (by simp), .of_trims (.of_eq rfl) (by simp), .refl state, rfl⟩

theorem Removes.trans {more : List UInt64} (first : Removes ids before middle) (last : Removes more middle after) :
    Removes (ids ++ more) before after := by
  refine ⟨fun id => ?_, first.publishers.trans last.publishers, first.subscribers.trans last.subscribers,
    first.topics.trans last.topics, last.liveness.trans first.liveness⟩
  rw [last.nodes, first.nodes]
  grind

theorem Removes.fewer (removes : Removes ids before after) : Fewer before after :=
  ⟨fun _ _ stored => (removes.publishers.former stored).1, fun _ _ stored => (removes.subscribers.former stored).1, removes.topics⟩

theorem Removes.withMetrics (removes : Removes ids before after) (metrics : RegistryMetrics) :
    Removes ids before { after with metrics } :=
  ⟨removes.nodes, removes.publishers, removes.subscribers, removes.topics, removes.liveness⟩

theorem consistent_withMetrics (consistent : Consistent state) (metrics : RegistryMetrics) :
    Consistent { state with metrics } :=
  ⟨consistent.toIntegrity.setMetrics metrics, fun id topic stored => (consistent.implied id topic stored).congr rfl rfl⟩

theorem Removes.absent (core : Core state) (missing : state.nodes[nodeId]? = none) : Removes [nodeId] state state := by
  refine ⟨fun id => ?_, .absent core.publisherNodes missing, .absent core.subscriberNodes missing, .refl state, rfl⟩
  simp only [List.mem_singleton]
  split
  next same => rw [same, missing]
  · rfl

theorem removes_of_withdraws (withdraws : Withdraws nodeId before after) (name : Bytes)
    (publishers : ∀ (endpointId : UInt64) (publisher : PublisherEndpoint), after.publishers[endpointId]? = some publisher →
      publisher.nodeId ≠ nodeId) (subscribers : ∀ (endpointId : UInt64) (subscriber : SubscriberEndpoint),
      after.subscribers[endpointId]? = some subscriber → subscriber.nodeId ≠ nodeId) :
    Removes [nodeId] before
      { after with nodeNames := after.nodeNames.erase name, nodes := after.nodes.erase nodeId } := by
  refine ⟨fun id => ?_, .of_trims ?_ ?_, .of_trims ?_ ?_, withdraws.topics, withdraws.liveness⟩
  · have others := withdraws.others id
    simp only [List.mem_singleton]
    grind
  · simpa using withdraws.publishers
  · simpa using publishers
  · simpa using withdraws.subscribers
  · simpa using subscribers

/-- A loop of `unregisterNode` ends, and no endpoint that it has gone over is the node's. -/
theorem leaveAll_withdraws {call : RegistryState → UInt64 → Except Exception (ErrorCode × RegistryState)}
    {gone : UInt64 → RegistryState → Prop}
    (each : ∀ state endpointId, Consistent state → ∃ code after, call state endpointId = .ok (code, after) ∧
      Leaves connection nodeId state after ∧ (state.ownedNode connection nodeId ≠ none → gone endpointId after))
    (stays : ∀ {before after endpointId}, Withdraws nodeId before after → gone endpointId before → gone endpointId after)
    (consistent : Consistent state) (owned : state.ownedNode connection nodeId ≠ none) (endpoints : List UInt64) :
    ∃ after, leaveAll call endpoints state = .ok after ∧ Consistent after ∧ Withdraws nodeId state after ∧
      ∀ endpointId ∈ endpoints, gone endpointId after := by
  induction endpoints generalizing state with
  | nil => exact ⟨state, rfl, consistent, .refl nodeId state, by simp⟩
  | cons endpointId rest ih =>
    obtain ⟨code, middle, called, leaves, left⟩ := each state endpointId consistent
    obtain ⟨node, mine⟩ := Option.ne_none_iff_exists'.mp owned
    obtain ⟨record, still, _⟩ := leaves.withdraws.owned mine
    obtain ⟨after, done, kept, withdraws, others⟩ := ih leaves.consistent (by simp [still])
    refine ⟨after, ?_, kept, leaves.withdraws.trans withdraws, ?_⟩
    · rw [leaveAll, List.foldlM_cons, called]
      exact done
    · simp only [List.mem_cons, forall_eq_or_imp]
      exact ⟨stays withdraws (left owned), others⟩

theorem unregisterNode_removes (consistent : Consistent state) {node : NodeRecord}
    (owned : state.ownedNode connection nodeId = some node) :
    ∃ after, state.unregisterNode connection nodeId = .ok (.ok, after) ∧ Consistent after ∧ Removes [nodeId] state after := by
  obtain ⟨middle, unadvertised, kept, first, publishers⟩ := @leaveAll_withdraws _ _ _ (·.unadvertise connection nodeId)
    (fun endpointId now => ∀ publisher, now.publishers[endpointId]? = some publisher → publisher.nodeId ≠ nodeId)
    (fun _ endpointId held => unadvertise_leaves held connection nodeId endpointId)
    (fun withdraws before publisher stored => before publisher (withdraws.publishers.within _ _ stored)) consistent
    (by simp [owned]) node.publisherEndpoints.toList
  obtain ⟨between, still, same⟩ := first.owned owned
  obtain ⟨last, unsubscribed, settled, second, subscribers⟩ := @leaveAll_withdraws _ _ _ (·.unsubscribe connection nodeId)
    (fun endpointId now => ∀ subscriber, now.subscribers[endpointId]? = some subscriber → subscriber.nodeId ≠ nodeId)
    (fun _ endpointId held => unsubscribe_leaves held connection nodeId endpointId)
    (fun withdraws before subscriber stored => before subscriber (withdraws.subscribers.within _ _ stored)) kept
    (by simp [still]) node.subscriberEndpoints.toList
  have withdraws := first.trans second
  have holder := (ownedNode_some.mp owned).1
  -- An endpoint of the node was in its sets from the start, so one of the loops has gone over it.
  have noPublisher (endpoint : UInt64) (publisher : PublisherEndpoint)
      (stored : last.publishers[endpoint]? = some publisher) : publisher.nodeId ≠ nodeId := by
    intro mine
    have listed := (consistent.publisherNodes.iff holder).mpr ⟨publisher, withdraws.publishers.within _ _ stored, mine⟩
    exact publishers endpoint (ExtTreeSet.mem_toList.mpr listed) publisher (second.publishers.within _ _ stored) mine
  have noSubscriber (endpoint : UInt64) (subscriber : SubscriberEndpoint)
      (stored : last.subscribers[endpoint]? = some subscriber) : subscriber.nodeId ≠ nodeId := by
    intro mine
    have listed := (consistent.subscriberNodes.iff holder).mpr ⟨subscriber, withdraws.subscribers.within _ _ stored, mine⟩
    exact subscribers endpoint (ExtTreeSet.mem_toList.mpr listed) subscriber stored mine
  obtain ⟨record, remains, bare⟩ := withdraws.owned owned
  have stored := (ownedNode_some.mp remains).1
  have name : (bareNode record).nodeName = (bareNode node).nodeName := by rw [bare]
  have name : record.nodeName = node.nodeName := name
  refine ⟨_, unregisterNode_iff.mpr (.left owned unadvertised unsubscribed), ?_,
    removes_of_withdraws withdraws _ noPublisher noSubscriber⟩
  rw [← name]
  refine ⟨settled.eraseNode stored (fun endpoint listed => ?_) fun endpoint listed => ?_,
    fun id topic found => (settled.implied id topic found).congr rfl rfl⟩
  · obtain ⟨publisher, present, mine⟩ := (settled.publisherNodes.iff stored).mp listed
    exact noPublisher endpoint publisher present mine
  · obtain ⟨subscriber, present, mine⟩ := (settled.subscriberNodes.iff stored).mp listed
    exact noSubscriber endpoint subscriber present mine

theorem cleanupDeadNode_removes (consistent : Consistent state) (nodeId : UInt64) :
    ∃ cleanup after, state.cleanupDeadNode nodeId = .ok (cleanup, after) ∧ Consistent after ∧
      Removes [nodeId] state after := by
  cases found : state.nodes[nodeId]? with
  | none => exact ⟨none, state, cleanupDeadNode_iff.mpr (.absent found), consistent, .absent consistent.toCore found⟩
  | some node =>
    obtain ⟨plan, planned⟩ := planFor_ok consistent.toIntegrity node
    obtain ⟨last, unregistered, kept, removes⟩ := unregisterNode_removes consistent (ownedNode_some.mpr ⟨found, rfl⟩)
    rw [← consistent.nodeIds nodeId node found] at unregistered
    exact ⟨some plan, _, cleanupDeadNode_iff.mpr (.removed found planned unregistered), consistent_withMetrics kept _,
      removes.withMetrics _⟩

theorem cleanupDeadNodes_removes (consistent : Consistent state) (nodeIds : List UInt64) :
    ∃ cleanups after, state.cleanupDeadNodes nodeIds = .ok (cleanups, after) ∧ Consistent after ∧
      Removes nodeIds state after := by
  induction nodeIds generalizing state with
  | nil => exact ⟨[], state, rfl, consistent, .refl state⟩
  | cons nodeId rest ih =>
    obtain ⟨cleanup, middle, done, kept, removes⟩ := cleanupDeadNode_removes consistent nodeId
    obtain ⟨cleanups, last, finished, final, more⟩ := ih kept
    refine ⟨cleanup.toList ++ cleanups, last, ?_, final, removes.trans more⟩
    simp only [cleanupDeadNodes, done, finished, bind, Except.bind]
    rfl

end RobotMiddleware.Proofs.NodeRemoval
