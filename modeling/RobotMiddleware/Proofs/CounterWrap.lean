import RobotMiddleware.Proofs.RegistryEffects

/-! The 64-bit counters go round. A client that registers, subscribes to a topic of
its own and unregisters again leaves the tables as they were and every counter one
further, so after enough such visits the registry issues an id that is in use. -/

namespace RobotMiddleware.Proofs.CounterWrap
open Std Lib.Index Lib.Outcome RegistryState RegistryCalls RegistryIntegrity RegistryTopics RegistryJoins NodeRemoval RegistryEffects

/-- The same tables, whatever the counters and the metrics say. -/
structure Alike (before after : RegistryState) : Prop where
  nodes : after.nodes = before.nodes
  nodeNames : after.nodeNames = before.nodeNames
  topics : after.topics = before.topics
  topicNames : after.topicNames = before.topicNames
  publishers : after.publishers = before.publishers
  subscribers : after.subscribers = before.subscribers
  liveness : after.liveness = before.liveness

/-- Every counter is this much further. -/
structure Ahead (count : UInt64) (before after : RegistryState) : Prop where
  nodes : after.nextNodeId = before.nextNodeId + count
  sessions : after.nextSessionId = before.nextSessionId + count
  topics : after.nextTopicId = before.nextTopicId + count
  endpoints : after.nextEndpointId = before.nextEndpointId + count

def visit (nodeId : UInt64) : List RegistryOperation :=
  [.registerNode 9 [118] 0, .subscribe 9 nodeId [118] [1] [1] 0 [47] .unixDomainSocket {}, .unregisterNode 9 nodeId]

def visitor (state : RegistryState) : NodeRecord :=
  { nodeId := state.nextNodeId, sessionId := state.nextSessionId, nodeName := [118], controlConnection := 9, lastSeen := 0 }

def visitorTopic (state : RegistryState) : TopicRecord :=
  ⟨state.nextTopicId, [118], [1], [1], .unixDomainSocket, 0, none, ∅, {}⟩

def visited (state : RegistryState) : RegistryState :=
  { state with
    nextNodeId := state.nextNodeId + 1
    nextSessionId := state.nextSessionId + 1
    nodes := state.nodes.insertIfNew state.nextNodeId (visitor state)
    nodeNames := state.nodeNames.insertIfNew [118] state.nextNodeId }

variable {state middle after : RegistryState} {count : Nat}

theorem visit_registers (unknown : state.nodeNames[([118] : Bytes)]? = none) :
    state.perform (.registerNode 9 [118] 0) = .ok (visited state) := by
  have absent : state.nodeNames.contains ([118] : Bytes) = false := by
    rw [ExtTreeMap.contains_eq_isSome_getElem?, unknown]
    rfl
  simp [perform, registerNode, absent, visited, visitor]

theorem visited_owned (fresh : Fresh state) : (visited state).ownedNode 9 state.nextNodeId = some (visitor state) := by
  have free := fresh.node
  refine ownedNode_some.mpr ⟨?_, rfl⟩
  simp only [visited]
  grind

theorem visit_subscribes (fresh : Fresh state) (unknown : state.topicNames[([118] : Bytes)]? = none) :
    ∃ result after, (visited state).subscribe 9 state.nextNodeId [118] [1] [1] 0 [47] .unixDomainSocket {} =
        .ok (result, after) ∧ result.error = .ok ∧ after.nextNodeId = state.nextNodeId + 1 ∧
      after.nextSessionId = state.nextSessionId + 1 ∧ after.nextTopicId = state.nextTopicId + 1 ∧
      after.nextEndpointId = state.nextEndpointId + 1 ∧ after.metrics = state.metrics := by
  have free := fresh.topic
  have created : (state.topics.insertIfNew state.nextTopicId (visitorTopic state))[state.nextTopicId]? =
      some (visitorTopic state) := by
    grind
  have names : (visited state).topicNames[([118] : Bytes)]? = none := unknown
  unfold subscribe
  simp only [visited_owned fresh]
  rw [if_neg (by decide)]
  simp only [subscribeMismatch, findOrCreateTopic, names, bind, Except.bind]
  unfold visitorTopic at created
  simp only [visited, mapAt_ok created]
  exact ⟨_, _, rfl, rfl, rfl, rfl, rfl, rfl, rfl⟩

section Departure
variable {result : EndpointResult}

theorem departed_alike (consistent : Consistent state) (fresh : Fresh state) (final : Consistent after)
    (joined : Subscribed (visited state) 9 state.nextNodeId [118] [1] [1] 0 [47] .unixDomainSocket {} result middle)
    (removes : Removes [state.nextNodeId] middle after) : Alike state after := by
  have free := fresh.node
  have stayed := Removes.absent consistent.toCore free
  have nodes : after.nodes = state.nodes := by
    apply ExtTreeMap.ext_getElem?
    intro id
    have others := joined.joins.others id
    rw [removes.nodes]
    simp only [visited] at others
    grind
  have publishers : after.publishers = state.publishers := by
    apply ExtTreeMap.ext_getElem?
    intro endpoint
    rw [removes.publishers endpoint, joined.publishers]
    exact (stayed.publishers endpoint).symm
  have subscribers : after.subscribers = state.subscribers := by
    apply ExtTreeMap.ext_getElem?
    intro endpoint
    have unused := fresh.subscriber
    rw [removes.subscribers endpoint, joined.subscribers, stayed.subscribers endpoint]
    simp only [visited]
    by_cases new : endpoint = state.nextEndpointId
    · subst endpoint
      rw [unused]
      grind
    · congr 1
      grind
  obtain ⟨topics, nodeNames, topicNames⟩ := consistent.determined final nodes publishers subscribers
    fun id old topic stored found => by
      obtain ⟨between, met, bare⟩ := removes.topics id topic found
      obtain ⟨record, kept, former⟩ := joined.joins.topics id old stored
      rw [met] at kept
      cases kept
      exact bare.trans former
  exact ⟨nodes, nodeNames, topics, topicNames, publishers, subscribers, removes.liveness.trans joined.joins.liveness⟩

/-- The visitor, with its subscriber, still answers to its connection. -/
theorem subscribed_owned (fresh : Fresh state)
    (joined : Subscribed (visited state) 9 state.nextNodeId [118] [1] [1] 0 [47] .unixDomainSocket {} result middle) :
    ∃ node, middle.ownedNode 9 state.nextNodeId = some node := by
  obtain ⟨holder, _⟩ := ownedNode_some.mp (visited_owned fresh)
  have bare := joined.joins.node
  rw [holder, Option.map_some, Option.map_eq_some_iff] at bare
  obtain ⟨node, stays, same⟩ := bare
  have control : node.controlConnection = 9 := congrArg NodeRecord.controlConnection same
  exact ⟨node, ownedNode_some.mpr ⟨stays, control⟩⟩

end Departure

structure FreeAt (state : RegistryState) (offset : UInt64) : Prop where
  node : state.nodes[state.nextNodeId + offset]? = none
  topic : state.topics[state.nextTopicId + offset]? = none
  publisher : state.publishers[state.nextEndpointId + offset]? = none
  subscriber : state.subscribers[state.nextEndpointId + offset]? = none

structure Welcomes (count : Nat) (state : RegistryState) : Prop where
  consistent : Consistent state
  free : ∀ index < count, FreeAt state (UInt64.ofNat index)
  freeNode : ∀ index ≤ count, state.nodes[state.nextNodeId + UInt64.ofNat index]? = none
  unknownNode : state.nodeNames[([118] : Bytes)]? = none
  unknownTopic : state.topicNames[([118] : Bytes)]? = none

/-- So many ids from the next one on are not in the table. -/
def behind {β : Type} (count : Nat) (next : UInt64) (table : ExtTreeMap UInt64 β) : Bool :=
  table.keys.all fun id => id < next && next.toNat + count ≤ 2 ^ 64 + id.toNat

theorem absent_of_behind {β : Type} {index : Nat} {next : UInt64} {table : ExtTreeMap UInt64 β}
    (checked : behind count next table = true) (small : index < count) : table[next + UInt64.ofNat index]? = none := by
  refine ExtTreeMap.getElem?_eq_none fun present => ?_
  have known := List.all_eq_true.mp checked _ (ExtTreeMap.mem_keys.mpr present)
  simp only [Bool.and_eq_true, decide_eq_true_eq, UInt64.lt_iff_toNat_lt, UInt64.toNat_add, UInt64.toNat_ofNat'] at known
  have bound := next.toNat_lt
  omega

def welcoming (count : Nat) (state : RegistryState) : Bool :=
  behind (count + 1) state.nextNodeId state.nodes && behind count state.nextTopicId state.topics &&
    behind count state.nextEndpointId state.publishers && behind count state.nextEndpointId state.subscribers &&
    state.nodeNames[([118] : Bytes)]?.isNone && state.topicNames[([118] : Bytes)]?.isNone

theorem welcomes_of_check (consistent : Consistent state) (checked : welcoming count state = true) :
    Welcomes count state := by
  simp only [welcoming, Bool.and_eq_true, Option.isNone_iff_eq_none] at checked
  obtain ⟨⟨⟨⟨⟨nodes, topics⟩, publishers⟩, subscribers⟩, node⟩, topic⟩ := checked
  refine ⟨consistent, fun index small => ?_, fun index small => absent_of_behind nodes (by omega), node, topic⟩
  exact ⟨absent_of_behind nodes (by omega), absent_of_behind topics small, absent_of_behind publishers small,
    absent_of_behind subscribers small⟩

theorem Welcomes.fresh (welcomes : Welcomes (count + 1) state) : Fresh state := by
  have now := welcomes.free 0 (by omega)
  exact ⟨by simpa using now.node, by simpa using now.topic, by simpa using now.publisher, by simpa using now.subscriber⟩

/-- A visit leaves no trace but in the counters. -/
theorem visit_calls (welcomes : Welcomes (count + 1) state) :
    ∃ result middle after, (visited state).subscribe 9 state.nextNodeId [118] [1] [1] 0 [47] .unixDomainSocket {} =
        .ok (result, middle) ∧ middle.unregisterNode 9 state.nextNodeId = .ok (.ok, after) ∧ Consistent after ∧
      Alike state after ∧ Ahead 1 state after ∧ after.metrics = state.metrics := by
  have fresh := welcomes.fresh
  have present := (perform_effect welcomes.consistent fresh (visit_registers welcomes.unknownNode)).1
  have freshAgain : Fresh (visited state) := by
    refine ⟨?_, fresh.topic, fresh.publisher, fresh.subscriber⟩
    have next : state.nodes[state.nextNodeId + 1]? = none := welcomes.freeNode 1 (by omega)
    have different : state.nextNodeId ≠ state.nextNodeId + 1 := by grind
    simp only [visited]
    grind
  obtain ⟨result, middle, subscribed, accepted, nodes, sessions, topics, endpoints, metrics⟩ :=
    visit_subscribes fresh welcomes.unknownTopic
  obtain ⟨kept, _, refused | ⟨_, joined⟩⟩ := subscribe_joins present freshAgain subscribed
  · exact absurd accepted refused.1
  obtain ⟨node, owned⟩ := subscribed_owned fresh joined
  obtain ⟨after, unregistered, final, removes⟩ := unregisterNode_removes kept owned
  have counters := unregisterNode_emptied unregistered
  have same : (emptied after).metrics = (emptied middle).metrics := by rw [counters]
  simp only [emptied, RegistryState.mk.injEq] at counters
  exact ⟨result, middle, after, subscribed, unregistered, final, departed_alike welcomes.consistent fresh final joined removes,
    ⟨counters.1.trans nodes, counters.2.1.trans sessions, counters.2.2.1.trans topics, counters.2.2.2.1.trans endpoints⟩,
    same.trans metrics⟩

def visits : Nat → UInt64 → List RegistryOperation
  | 0, _ => []
  | count + 1, nodeId => visit nodeId ++ visits count (nodeId + 1)

theorem FreeAt.alike {offset : UInt64} (free : FreeAt state (offset + 1)) (alike : Alike state after)
    (ahead : Ahead 1 state after) : FreeAt after offset := by
  have shift (id : UInt64) : id + 1 + offset = id + (offset + 1) := by grind
  refine ⟨?_, ?_, ?_, ?_⟩
  · rw [alike.nodes, ahead.nodes, shift]
    exact free.node
  · rw [alike.topics, ahead.topics, shift]
    exact free.topic
  · rw [alike.publishers, ahead.endpoints, shift]
    exact free.publisher
  · rw [alike.subscribers, ahead.endpoints, shift]
    exact free.subscriber

theorem Alike.trans (first : Alike state middle) (last : Alike middle after) : Alike state after :=
  ⟨last.nodes.trans first.nodes, last.nodeNames.trans first.nodeNames, last.topics.trans first.topics,
    last.topicNames.trans first.topicNames, last.publishers.trans first.publishers,
    last.subscribers.trans first.subscribers, last.liveness.trans first.liveness⟩

theorem serve_append {issued more : Issued} {operations rest : List RegistryOperation}
    (served : serve state issued operations = .ok (middle, more)) :
    serve state issued (operations ++ rest) = serve middle more rest := by
  induction operations generalizing state issued with
  | nil =>
    cases served
    rfl
  | cons operation others ih =>
    rw [List.cons_append, serve]
    rw [serve] at served
    cases done : state.perform operation with
    | error => simp [done] at served
    | ok after =>
      simp only [done] at served ⊢
      exact ih served

theorem Welcomes.next (welcomes : Welcomes (count + 1) state) (kept : Consistent after)
    (alike : Alike state after) (ahead : Ahead 1 state after) : Welcomes count after := by
  refine ⟨kept, fun index small => FreeAt.alike ?_ alike ahead, fun index small => ?_, ?_, ?_⟩
  · have later := welcomes.free (index + 1) (by omega)
    rwa [UInt64.ofNat_add] at later
  · have later := welcomes.freeNode (index + 1) (by omega)
    have shift : state.nextNodeId + 1 + UInt64.ofNat index = state.nextNodeId + UInt64.ofNat (index + 1) := by
      rw [UInt64.ofNat_add]
      grind
    rw [alike.nodes, ahead.nodes, shift]
    exact later
  · rw [alike.nodeNames]
    exact welcomes.unknownNode
  · rw [alike.topicNames]
    exact welcomes.unknownTopic

theorem Ahead.trans {first last : UInt64} (before : Ahead first state middle)
    (ahead : Ahead last middle after) : Ahead (last + first) state after := by
  obtain ⟨nodes, sessions, topics, endpoints⟩ := ahead
  have shift (id : UInt64) : id + first + last = id + (last + first) := by grind
  exact ⟨by rw [nodes, before.nodes, shift], by rw [sessions, before.sessions, shift], by rw [topics, before.topics, shift],
    by rw [endpoints, before.endpoints, shift]⟩

theorem eq_of_alike {count : UInt64} (alike : Alike state after) (ahead : Ahead count state after) :
    after = { state with
      nextNodeId := state.nextNodeId + count, nextSessionId := state.nextSessionId + count
      nextTopicId := state.nextTopicId + count, nextEndpointId := state.nextEndpointId + count, metrics := after.metrics } := by
  obtain ⟨nodes, nodeNames, topics, topicNames, publishers, subscribers, liveness⟩ := alike
  obtain ⟨nextNode, nextSession, nextTopic, nextEndpoint⟩ := ahead
  cases after
  simp only at *
  subst_vars
  rfl

theorem visits_pass {σ : Type} {tables : σ → RegistryState} {Ready : σ → Prop} {Passes : Nat → σ → σ → Prop}
    (none : ∀ {system}, Ready system → Passes 0 system system)
    (visit : ∀ {count system}, Welcomes (count + 1) (tables system) → Ready system → ∃ next, Ready next ∧
      Consistent (tables next) ∧ Alike (tables system) (tables next) ∧ Ahead 1 (tables system) (tables next) ∧
      ∀ last, Passes count next last → Passes (count + 1) system last)
    {count : Nat} {system : σ} (welcomes : Welcomes count (tables system)) (ready : Ready system) :
    ∃ last, Passes count system last ∧ Alike (tables system) (tables last) ∧
      Ahead (UInt64.ofNat count) (tables system) (tables last) := by
  induction count generalizing system with
  | zero => exact ⟨system, none ready, ⟨rfl, rfl, rfl, rfl, rfl, rfl, rfl⟩, by simp, by simp, by simp, by simp⟩
  | succ count ih =>
    obtain ⟨next, still, kept, alike, ahead, more⟩ := visit welcomes ready
    obtain ⟨last, passes, after, further⟩ := ih (welcomes.next kept alike ahead) still
    refine ⟨last, more last passes, alike.trans after, ?_⟩
    rw [UInt64.ofNat_add]
    exact ahead.trans further

theorem visits_alike (welcomes : Welcomes count state) (issued : Issued) :
    ∃ after more, serve state issued (visits count state.nextNodeId) = .ok (after, more) ∧ Alike state after ∧
      Ahead (UInt64.ofNat count) state after := by
  obtain ⟨⟨after, more⟩, served, alike, ahead⟩ := @visits_pass (RegistryState × Issued) Prod.fst (fun _ => True)
    (fun count system last => serve system.1 system.2 (visits count system.1.nextNodeId) = .ok last)
    (fun _ => rfl) (fun {count system} welcomes _ => by
      obtain ⟨result, middle, after, subscribed, unregistered, kept, alike, ahead, _⟩ := visit_calls welcomes
      have second : (visited system.1).perform
          (.subscribe 9 system.1.nextNodeId [118] [1] [1] 0 [47] .unixDomainSocket {}) = .ok middle := by
        rw [perform, subscribed]
        rfl
      have third : middle.perform (.unregisterNode 9 system.1.nextNodeId) = .ok after := by
        rw [perform, unregistered]
        rfl
      obtain ⟨more, served⟩ : ∃ more, serve system.1 system.2 (visit system.1.nextNodeId) = .ok (after, more) := by
        simp only [visit, serve, visit_registers welcomes.unknownNode, second, third]
        exact ⟨_, rfl⟩
      refine ⟨(after, more), trivial, kept, alike, ahead, fun last rest => ?_⟩
      rw [visits, serve_append served, ← ahead.nodes]
      exact rest) count (state, issued) welcomes trivial
  exact ⟨after, more, served, alike, ahead⟩

def samplePool : SharedPoolMetadata := ⟨[47, 112], 5, 4096, 1⟩

/-- A node with a publisher, and one with two subscribers. -/
def seedRequests : List RegistryOperation :=
  [.registerNode 7 [97] 0, .advertise 7 1 [116] [1] [2] 64 .sharedMemory samplePool, .registerNode 8 [98] 0,
    .subscribe 8 2 [120] [1] [2] 64 [47, 120] .unixDomainSocket {},
    .subscribe 8 2 [121] [1] [2] 64 [47, 121] .unixDomainSocket {}]

def seed : RegistryState := ((serve { liveness := {} } {} seedRequests).toOption.map Prod.fst).getD { liveness := {} }

set_option maxRecDepth 4000 in
theorem seed_served : ∃ issued, serve { liveness := {} } {} seedRequests = .ok (seed, issued) ∧ issued.Few := by
  refine ⟨_, rfl, ?_, ?_, ?_, ?_⟩
  all_goals decide

theorem seed_counters : seed.nextNodeId = 3 ∧ seed.nextSessionId = 3 ∧ seed.nextTopicId = 4 ∧ seed.nextEndpointId = 4 := by
  decide

/-- The seed, with the counters as they are when the topic and endpoint ids have gone round. -/
def wrapped (metrics : RegistryMetrics) : RegistryState :=
  { seed with nextNodeId := 0, nextSessionId := 0, nextTopicId := 1, nextEndpointId := 1, metrics }

theorem eq_wrapped {state : RegistryState} (alike : Alike seed state) (ahead : Ahead (UInt64.ofNat (2 ^ 64 - 3)) seed state) :
    state = wrapped state.metrics := by
  rw [eq_of_alike alike ahead]
  simp only [seed_counters]
  rfl

/-- The next topic and the next endpoint get the ids of the first ones, which are still there. -/
theorem counters_wrap : ∃ issued metrics, serve { liveness := {} } {} (seedRequests ++ visits (2 ^ 64 - 3) 3) =
    .ok (wrapped metrics, issued) := by
  obtain ⟨issued, served, few⟩ := seed_served
  have created : RegistryState.create {} = .ok { liveness := {} } := rfl
  obtain ⟨consistent, _⟩ := reached_consistent created served few
  have welcomes : Welcomes (2 ^ 64 - 3) seed := welcomes_of_check consistent (by decide +kernel)
  obtain ⟨after, more, visited, alike, ahead⟩ := visits_alike welcomes issued
  rw [seed_counters.1] at visited
  rw [serve_append served, visited, eq_wrapped alike ahead]
  exact ⟨more, after.metrics, rfl⟩

def otherPool : SharedPoolMetadata := ⟨[47, 113], 6, 8192, 1⟩

/-- The second node advertises a new topic, which gets the id of the first node's. -/
def intrusion : RegistryOperation := .advertise 8 2 [117] [1] [2] 32 .sharedMemory otherPool

/-- The registry after that: the record of the first topic has been written over. -/
def overwritten (metrics : RegistryMetrics) : RegistryState :=
  ((wrapped metrics).perform intrusion).toOption.getD (wrapped metrics)

theorem intrusion_served (metrics : RegistryMetrics) : (wrapped metrics).perform intrusion = .ok (overwritten metrics) := rfl

theorem overwritten_topic (metrics : RegistryMetrics) :
    ((overwritten metrics).topics[(1 : UInt64)]?).map (·.pool) = some otherPool ∧
      ((overwritten metrics).topics[(1 : UInt64)]?).map (·.publisherEndpoint) = some (some 1) := ⟨rfl, rfl⟩

theorem overwritten_publisher (metrics : RegistryMetrics) :
    (overwritten metrics).publishers[(1 : UInt64)]? = some ⟨1, 1, 1, 64, .sharedMemory, samplePool⟩ := rfl

theorem overwritten_reached : ∃ operations issued metrics,
    serve { liveness := {} } {} operations = .ok (overwritten metrics, issued) := by
  obtain ⟨issued, metrics, served⟩ := counters_wrap
  refine ⟨seedRequests ++ visits (2 ^ 64 - 3) 3 ++ [intrusion], issued.record (wrapped metrics) intrusion, metrics, ?_⟩
  rw [serve_append served, serve, intrusion_served]
  rfl

end RobotMiddleware.Proofs.CounterWrap
