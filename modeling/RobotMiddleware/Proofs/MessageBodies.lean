import RobotMiddleware.Proofs.ControlFrames
import RobotMiddleware.Proofs.CounterWrap
import RobotMiddleware.Proofs.NodeFrames
import RobotMiddleware.RegistryClient

/-! The two ends of the control protocol agree on every body. What the client
writes is read by `dispatch` to its last byte and not before, and what the server
writes into an Ok response is read by the client. -/

namespace RobotMiddleware.Proofs.MessageBodies
open Lib Lib.Codec PayloadReader RegistryClient RegistryState ControlFrames NodeFrames
open RegistryIntegrity (Issued serve)

section Requests

theorem readInteger_local (width : Nat) : Local (readInteger width) := by
  intro data value left rest read
  unfold readInteger at read ⊢
  split at read
  · cases read
  next enough =>
    cases read
    rw [if_neg (by simp only [List.length_append]; omega), List.take_append_of_le_length (by omega),
      List.drop_append_of_le_length (by omega)]

theorem readU16_local : Local readU16 := (readInteger_local 2).map
theorem readU32_local : Local readU32 := (readInteger_local 4).map
theorem readU64_local : Local readU64 := (readInteger_local 8).map

theorem readString_local : Local readString := by
  refine readU32_local.bind fun size data value left rest read => ?_
  split at read
  · cases read
  next enough =>
    cases read
    rw [if_neg (by simp only [List.length_append]; omega), List.take_append_of_le_length (by omega),
      List.drop_append_of_le_length (by omega)]

theorem readIds_local (request : UInt64 → UInt64 → Request) : Local (Request.readIds request) :=
  readU64_local.bind fun _ => readU64_local.bind fun _ => .pure _

theorem read_local (opcode : Opcode) : Local (Request.read opcode) := by
  cases opcode with
  | registerNode => exact readString_local.bind fun _ => .pure _
  | unregisterNode => exact readU64_local.bind fun _ => .pure _
  | advertiseTopic =>
    exact readU64_local.bind fun _ => readString_local.bind fun _ => readString_local.bind fun _ =>
      readString_local.bind fun _ => readU64_local.bind fun _ => readU16_local.bind fun _ => readString_local.bind fun _ =>
      readU64_local.bind fun _ => readU64_local.bind fun _ => readU16_local.bind fun _ => .pure _
  | subscribeTopic =>
    exact readU64_local.bind fun _ => readString_local.bind fun _ => readString_local.bind fun _ =>
      readString_local.bind fun _ => readU64_local.bind fun _ => readString_local.bind fun _ => readU16_local.bind fun _ =>
      readString_local.bind fun _ => readU64_local.bind fun _ => readU64_local.bind fun _ => readU32_local.bind fun _ =>
      readU16_local.bind fun _ => readU16_local.bind fun _ => readU64_local.bind fun _ => .pure _
  | unadvertiseTopic => exact readIds_local .unadvertiseTopic
  | unsubscribeTopic => exact readIds_local .unsubscribeTopic
  | resolveEndpoint => exact readIds_local .resolveEndpoint
  | attachHeartbeat => exact readIds_local .attachHeartbeat
  | heartbeat => exact readIds_local .heartbeat
  | listNodes => exact .pure _
  | listTopics => exact .pure _
  | queryTopic => exact readString_local.bind fun _ => .pure _
  | queryStats => exact .pure _
  | response =>
    intro data value left rest read
    cases read

theorem decode_part (request : Request) (short : request.payload.length ≤ kMaxControlPayloadSize) {part rest : Bytes}
    (cut : part ++ rest = request.payload) (more : rest ≠ []) : decodeRequest request.opcode part = none := by
  have whole := read_request request short []
  rw [List.append_nil, ← cut] at whole
  have never := (read_local request.opcode).unread whole more
  unfold decodeRequest readAll
  split
  next value read => exact absurd read (never value)
  · rfl

end Requests

section Fields
variable {α : Type} {what : String} {data : Bytes} {value : α}

theorem expect_reads {reader : PayloadReader α} (read : Reads reader data value) : Reads (expect what reader) data value := by
  intro rest
  have taken : reader (data ++ rest) = some (value, rest) := read rest
  simp only [expect, taken]
  rfl

theorem accept_reads {choice : Option α} (known : choice = some value) : Reads (accept what choice) [] value := by
  intro rest
  simp only [accept, known]
  rfl

theorem require_reads {condition : Bool} (holds : condition = true) : Reads (require what condition) [] () :=
  accept_reads (by rw [holds]; rfl)

theorem empty_ends (what : String) (value : α) : Ends (readEmpty what >>= fun _ => pure value) [] value := rfl

theorem readPool_reads {pool : SharedPoolMetadata} (short : (poolBody pool).length < 2 ^ 32) :
    Reads readPool (poolBody pool) pool := by
  simp only [poolBody, List.length_append, writeString_length] at short
  simp only [poolBody, List.append_assoc]
  refine Reads.bind (readString_write (by omega)) ?_
  refine Reads.bind (readU64_write pool.poolId) ?_
  refine Reads.bind (readU64_write pool.segmentSize) ?_
  exact Reads.done (readU16_write pool.layoutVersion) (Reads.pure _)

theorem entry_length {ι : Type} {encode : ι → Bytes} {items : List ι} {item : ι} (member : item ∈ items) :
    (encode item).length ≤ (items.flatMap encode).length := by
  induction items with
  | nil => cases member
  | cons first rest ih =>
    rw [List.flatMap_cons, List.length_append]
    rcases List.mem_cons.mp member with rfl | later
    · omega
    · have within := ih later
      omega

theorem count_length {ι : Type} {encode : ι → Bytes} (items : List ι) (nonempty : ∀ item, 0 < (encode item).length) :
    items.length ≤ (items.flatMap encode).length := by
  induction items with
  | nil => simp
  | cons first =>
    have one := nonempty first
    rw [List.flatMap_cons, List.length_append, List.length_cons]
    omega

theorem entries_read {ι : Type} {encode : ι → Bytes} {decoded : ι → α} {reader : ResponseReader α} {items : List ι}
    (nonempty : ∀ item, 0 < (encode item).length) (short : (items.flatMap encode).length < 2 ^ 32)
    (each : ∀ item, (encode item).length < 2 ^ 32 → item ∈ items → Reads reader (encode item) (decoded item)) :
    Reads (many reader (UInt32.ofNat items.length).toNat) (items.flatMap encode) (items.map decoded) := by
  have few := count_length items nonempty
  have count : (UInt32.ofNat items.length).toNat = items.length := by
    rw [UInt32.toNat_ofNat']
    omega
  rw [count]
  refine Reads.many fun item member => each item ?_ member
  have within : (encode item).length ≤ (items.flatMap encode).length := entry_length member
  omega

end Fields

section Responses

def peerEvent (event : PeerEventRecord) : PeerEvent :=
  ⟨event.kind, event.targetEndpointId, event.deadEndpointId, event.topicId, event.resourceId⟩

def subscriber (record : DiscoveredSubscriber) : RegistryClient.Subscriber :=
  ⟨record.endpointId, record.dataSocketPath, record.maxMessageSize, record.queue⟩

def nodeInfo (node : NodeRecord) : NodeInfo := ⟨node.nodeId, node.nodeName, node.liveness⟩

def topicName (topic : TopicRecord) : TopicInfo := { topicId := topic.topicId, topicName := topic.topicName }

def topicInfo (topic : TopicRecord) : TopicInfo :=
  { topicId := topic.topicId, topicName := topic.topicName, typeName := topic.typeName, typeHash := topic.typeHash
    transport := topic.transport.value, maxMessageSize := topic.maxMessageSize
    publisherCount := if topic.publisherEndpoint.isSome then 1 else 0
    subscriberCount := UInt64.ofNat topic.subscriberEndpoints.size, pool := poolDescriptor topic.topicId topic.pool }

def statsInfo (state : RegistryState) : StatsInfo :=
  ⟨UInt64.ofNat state.nodes.size, UInt64.ofNat state.topics.size, UInt64.ofNat state.publishers.size,
    UInt64.ofNat state.subscribers.size, state.metrics.heartbeatReceived, state.metrics.suspectedCount,
    state.metrics.deadNodeCount⟩

theorem livenessState_value {liveness : LivenessState} (living : liveness ≠ .dead) :
    livenessState liveness.value = some liveness := by
  cases liveness with
  | alive | suspected => rfl
  | dead => exact absurd rfl living

theorem peerEventKind_value (kind : PeerEventKind) : peerEventKind kind.value = some kind := by
  cases kind <;> rfl

theorem registration_ends {nodeId sessionId : UInt64} (node : nodeId ≠ 0) (session : sessionId ≠ 0) :
    Ends readRegistration (writeU64 nodeId ++ writeU64 sessionId) ⟨nodeId, sessionId⟩ := by
  refine Reads.ends (expect_reads (readU64_write nodeId)) ?_
  refine Reads.last (expect_reads (readU64_write sessionId)) ?_
  exact Reads.check (require_reads (by simp [node, session])) (empty_ends _ _)

theorem endpoint_ends {result : EndpointResult} (short : (endpointBody result).length < 2 ^ 32) :
    Ends readEndpoint (endpointBody result)
      ⟨result.topicId, result.endpointId, poolDescriptor result.topicId result.pool⟩ := by
  simp only [endpointBody, List.length_append] at short
  simp only [endpointBody, List.append_assoc]
  refine Reads.ends (expect_reads (readU64_write result.topicId)) ?_
  refine Reads.ends (expect_reads (readU64_write result.endpointId)) ?_
  exact Reads.last (expect_reads (readPool_reads (by omega))) (empty_ends _ _)

theorem peerEvent_reads (event : PeerEventRecord) : Reads readPeerEvent (eventBody event) (peerEvent event) := by
  simp only [eventBody, List.append_assoc]
  refine Reads.bind (expect_reads (readU16_write event.kind.value)) ?_
  refine Reads.bind (expect_reads (readU64_write event.targetEndpointId)) ?_
  refine Reads.bind (expect_reads (readU64_write event.deadEndpointId)) ?_
  refine Reads.bind (expect_reads (readU64_write event.topicId)) ?_
  refine Reads.done (expect_reads (readU64_write event.resourceId)) ?_
  exact Reads.done (accept_reads (peerEventKind_value event.kind)) (Reads.pure _)

theorem heartbeat_ends {liveness : LivenessState} (living : liveness ≠ .dead) {events : List PeerEventRecord}
    (short : (heartbeatBody liveness events).length < 2 ^ 32) :
    Ends readHeartbeat (heartbeatBody liveness events) ⟨liveness, events.map peerEvent⟩ := by
  simp only [heartbeatBody, List.length_append] at short
  simp only [heartbeatBody, List.append_assoc]
  refine Reads.ends (expect_reads (readU16_write liveness.value)) ?_
  refine Reads.ends (expect_reads (readU32_write (UInt32.ofNat events.length))) ?_
  refine Reads.check (accept_reads (livenessState_value living)) ?_
  exact Reads.last (entries_read (fun event => by simp [eventBody, writeU16, writeU64]) (by omega)
    fun event _ _ => peerEvent_reads event) (empty_ends _ _)

theorem subscriber_reads {record : DiscoveredSubscriber} (short : (subscriberBody record).length < 2 ^ 32) :
    Reads readSubscriber (subscriberBody record) (subscriber record) := by
  simp only [subscriberBody, List.length_append, writeString_length] at short
  simp only [subscriberBody, List.append_assoc]
  refine Reads.bind (expect_reads (readU64_write record.endpointId)) ?_
  refine Reads.bind (expect_reads (readString_write (by omega))) ?_
  refine Reads.bind (expect_reads (readU64_write record.maxMessageSize)) ?_
  refine Reads.bind (expect_reads (readString_write (by omega))) ?_
  refine Reads.bind (expect_reads (readU64_write record.queue.queueId)) ?_
  refine Reads.bind (expect_reads (readU64_write record.queue.segmentSize)) ?_
  refine Reads.bind (expect_reads (readU32_write record.queue.capacity)) ?_
  refine Reads.bind (expect_reads (readU16_write record.queue.layoutVersion)) ?_
  refine Reads.bind (expect_reads (readU16_write record.queue.overflowPolicy)) ?_
  exact Reads.done (expect_reads (readU64_write record.queue.blockTimeoutMs)) (Reads.pure _)

theorem discovery_ends {result : DiscoveryResult} (found : result.subscribers ≠ [])
    (short : (discoveryBody result).length < 2 ^ 32) :
    Ends readDiscovery (discoveryBody result)
      ⟨result.topicId, result.transport.value, poolDescriptor result.topicId result.pool,
        result.subscribers.map subscriber⟩ := by
  simp only [discoveryBody, List.length_append] at short
  simp only [discoveryBody, List.append_assoc]
  refine Reads.ends (expect_reads (readU64_write result.topicId)) ?_
  refine Reads.ends (expect_reads (readU16_write result.transport.value)) ?_
  refine Reads.ends (expect_reads (readPool_reads (by omega))) ?_
  refine Reads.ends (expect_reads (readU32_write (UInt32.ofNat result.subscribers.length))) ?_
  refine Reads.last (entries_read (fun record => by simp [subscriberBody, writeU64]) (by omega)
    fun record fits _ => subscriber_reads fits) ?_
  exact Reads.check (require_reads (by simpa using found)) (empty_ends _ _)

theorem node_reads {node : NodeRecord} (living : node.liveness ≠ .dead)
    (short : (writeU64 node.nodeId ++ writeString node.nodeName ++ writeU16 node.liveness.value).length < 2 ^ 32) :
    Reads readNode (writeU64 node.nodeId ++ writeString node.nodeName ++ writeU16 node.liveness.value) (nodeInfo node) := by
  simp only [List.length_append, writeString_length] at short
  simp only [List.append_assoc]
  refine Reads.bind (expect_reads (readU64_write node.nodeId)) ?_
  refine Reads.bind (expect_reads (readString_write (by omega))) ?_
  refine Reads.done (expect_reads (readU16_write node.liveness.value)) ?_
  exact Reads.done (accept_reads (livenessState_value living)) (Reads.pure _)

theorem nodes_end {nodes : List NodeRecord} (living : ∀ node ∈ nodes, node.liveness ≠ .dead)
    (short : (nodesBody nodes).length < 2 ^ 32) : Ends readNodes (nodesBody nodes) (nodes.map nodeInfo) := by
  simp only [nodesBody, List.length_append] at short
  refine Reads.ends (expect_reads (readU32_write (UInt32.ofNat nodes.length))) ?_
  exact Reads.last (entries_read (fun node => by simp [writeU64]) (by omega)
    fun node fits member => node_reads (living node member) fits) (empty_ends _ _)

theorem topicName_reads {topic : TopicRecord}
    (short : (writeU64 topic.topicId ++ writeString topic.topicName).length < 2 ^ 32) :
    Reads readTopicName (writeU64 topic.topicId ++ writeString topic.topicName) (topicName topic) := by
  simp only [List.length_append, writeString_length] at short
  refine Reads.bind (expect_reads (readU64_write topic.topicId)) ?_
  exact Reads.done (expect_reads (readString_write (by omega))) (Reads.pure _)

theorem topics_end {topics : List TopicRecord} (short : (topicsBody topics).length < 2 ^ 32) :
    Ends readTopics (topicsBody topics) (topics.map topicName) := by
  simp only [topicsBody, List.length_append] at short
  refine Reads.ends (expect_reads (readU32_write (UInt32.ofNat topics.length))) ?_
  exact Reads.last (entries_read (fun topic => by simp [writeU64]) (by omega)
    fun topic fits _ => topicName_reads fits) (empty_ends _ _)

theorem topic_ends {topic : TopicRecord} (short : (topicBody topic).length < 2 ^ 32) :
    Ends readTopic (topicBody topic) (topicInfo topic) := by
  simp only [topicBody, List.length_append, writeString_length] at short
  simp only [topicBody, List.append_assoc]
  refine Reads.ends (expect_reads (readU64_write topic.topicId)) ?_
  refine Reads.ends (expect_reads (readString_write (by omega))) ?_
  refine Reads.ends (expect_reads (readString_write (by omega))) ?_
  refine Reads.ends (expect_reads (readString_write (by omega))) ?_
  refine Reads.ends (expect_reads (readU16_write topic.transport.value)) ?_
  refine Reads.ends (expect_reads (readU64_write topic.maxMessageSize)) ?_
  refine Reads.ends (expect_reads (readU64_write (if topic.publisherEndpoint.isSome then 1 else 0))) ?_
  refine Reads.ends (expect_reads (readU64_write (UInt64.ofNat topic.subscriberEndpoints.size))) ?_
  exact Reads.last (expect_reads (readPool_reads (by omega))) (empty_ends _ _)

theorem stats_end (state : RegistryState) : Ends readStats state.statsBody (statsInfo state) := by
  simp only [statsBody, List.append_assoc]
  refine Reads.ends (expect_reads (readU64_write (UInt64.ofNat state.nodes.size))) ?_
  refine Reads.ends (expect_reads (readU64_write (UInt64.ofNat state.topics.size))) ?_
  refine Reads.ends (expect_reads (readU64_write (UInt64.ofNat state.publishers.size))) ?_
  refine Reads.ends (expect_reads (readU64_write (UInt64.ofNat state.subscribers.size))) ?_
  refine Reads.ends (expect_reads (readU64_write state.metrics.heartbeatReceived)) ?_
  refine Reads.ends (expect_reads (readU64_write state.metrics.suspectedCount)) ?_
  exact Reads.last (expect_reads (readU64_write state.metrics.deadNodeCount)) (empty_ends _ _)

theorem decodeResponse_encode (error : ErrorCode) (body : Bytes) :
    decodeResponsePayload (encodeResponsePayload error body) = some ⟨error.value, responseMessage error, body⟩ := by
  have short : (responseMessage error).length < 2 ^ 32 := by cases error <;> decide +kernel
  unfold decodeResponsePayload encodeResponsePayload
  rw [StateT.run'_eq, StateT.run, List.append_assoc, bind_read (readU16_write error.value _),
    bind_read (readString_write short body)]
  rfl

end Responses

/-- If an Ok response with this body fits a frame, the client finds the body in it
and reads the value out of it. -/
def Agrees {α : Type} (reader : ResponseReader α) (body : Bytes) (value : α) : Prop :=
  (encodeResponsePayload .ok body).length ≤ kMaxControlPayloadSize →
    decodeResponsePayload (encodeResponsePayload .ok body) = some ⟨ErrorCode.ok.value, [], body⟩ ∧
      decodeBody reader body = .ok value

theorem agrees_of_ends {α : Type} {reader : ResponseReader α} {body : Bytes} {value : α}
    (ends : body.length < 2 ^ 32 → Ends reader body value) : Agrees reader body value := by
  intro fits
  have short : body.length < 2 ^ 32 := by
    simp only [encodeResponsePayload, List.length_append, kMaxControlPayloadSize] at fits
    omega
  refine ⟨decodeResponse_encode .ok body, ?_⟩
  have read : reader body = .ok (value, []) := ends short
  simp only [decodeBody, read]
  rfl

/-- What a request says gets to the server, whole or not at all. -/
structure RequestsAgree : Prop where
  whole : ∀ request : Request, request.payload.length ≤ kMaxControlPayloadSize →
    decodeRequest request.opcode request.payload = some request
  part : ∀ (request : Request) (part rest : Bytes), request.payload.length ≤ kMaxControlPayloadSize →
    part ++ rest = request.payload → rest ≠ [] → decodeRequest request.opcode part = none

/-- What the server answers in a state gets to the client. -/
structure ResponsesAgree (state : RegistryState) : Prop where
  registration : ∀ connection nodeName now, (state.registerNode connection nodeName now).1.error = .ok →
    (state.registerNode connection nodeName now).1.id ≠ 0 → (state.registerNode connection nodeName now).1.sessionId ≠ 0 →
    Agrees readRegistration
      (writeU64 (state.registerNode connection nodeName now).1.id ++
        writeU64 (state.registerNode connection nodeName now).1.sessionId)
      ⟨(state.registerNode connection nodeName now).1.id, (state.registerNode connection nodeName now).1.sessionId⟩
  endpoint : ∀ result : EndpointResult, Agrees readEndpoint (endpointBody result)
    ⟨result.topicId, result.endpointId, poolDescriptor result.topicId result.pool⟩
  discovery : ∀ result : DiscoveryResult, result.subscribers ≠ [] → Agrees readDiscovery (discoveryBody result)
    ⟨result.topicId, result.transport.value, poolDescriptor result.topicId result.pool, result.subscribers.map subscriber⟩
  heartbeat : ∀ connection nodeId sessionId now events, (state.heartbeat connection nodeId sessionId now).1.error = .ok →
    Agrees readHeartbeat (heartbeatBody (state.heartbeat connection nodeId sessionId now).1.state events)
      ⟨(state.heartbeat connection nodeId sessionId now).1.state, events.map peerEvent⟩
  nodes : Agrees readNodes (nodesBody state.listNodes) (state.listNodes.map nodeInfo)
  topics : Agrees readTopics (topicsBody state.listTopics) (state.listTopics.map topicName)
  topic : ∀ topic : TopicRecord, Agrees readTopic (topicBody topic) (topicInfo topic)
  stats : Agrees readStats state.statsBody (statsInfo state)

/-- The two ends agree on every body, whatever requests the registry has served; a
registration has to carry ids other than zero. -/
theorem bodies_agree {liveness : LivenessConfig} {initial state : RegistryState} {operations : List RegistryOperation}
    {issued : Issued} (created : RegistryState.create liveness = .ok initial)
    (served : serve initial {} operations = .ok (state, issued)) : RequestsAgree ∧ ResponsesAgree state := by
  have anchored := serve_anchored created served
  refine ⟨⟨decode_encode_request, fun request part rest short => decode_part request short⟩, ?_⟩
  refine
    { registration := fun connection nodeName now _ node session => agrees_of_ends fun _ => registration_ends node session
      endpoint := fun result => agrees_of_ends endpoint_ends
      discovery := fun result found => agrees_of_ends (discovery_ends found)
      heartbeat := fun connection nodeId sessionId now events accepted => agrees_of_ends ?_
      nodes := agrees_of_ends (nodes_end ?_)
      topics := agrees_of_ends topics_end
      topic := fun topic => agrees_of_ends topic_ends
      stats := agrees_of_ends fun _ => stats_end state }
  · rw [heartbeat_alive accepted]
    exact heartbeat_ends (by simp)
  · intro node listed
    rw [listNodes, (List.mergeSort_perm _ _).mem_iff, List.mem_map] at listed
    obtain ⟨⟨id, record⟩, member, rfl⟩ := listed
    exact (anchored.nodes id record (Std.ExtTreeMap.mem_toList_iff_getElem?_eq_some.mp member)).2

/-- The next registration gets the ids 3 and 3, and the client reads them. -/
theorem bodies_agree_seed :
    ∃ issued, RegistryState.create {} = .ok { liveness := {} } ∧
      serve { liveness := {} } {} CounterWrap.seedRequests = .ok (CounterWrap.seed, issued) ∧
      RequestsAgree ∧ ResponsesAgree CounterWrap.seed ∧
      decodeBody readRegistration (writeU64 3 ++ writeU64 3) = .ok ⟨3, 3⟩ := by
  obtain ⟨issued, served, _⟩ := CounterWrap.seed_served
  have created : RegistryState.create {} = .ok { liveness := {} } := rfl
  obtain ⟨requests, responses⟩ := bodies_agree created served
  have registered : (CounterWrap.seed.registerNode 9 [99] 0).1 = { id := 3, sessionId := 3 } := rfl
  have read := responses.registration 9 [99] 0
  rw [registered] at read
  exact ⟨issued, created, served, requests, responses, (read rfl (by decide) (by decide) (by decide)).2⟩

/-- Once the counters have gone round, the server issues the ids 0 and 0, which the
client does not take. -/
theorem registration_refused :
    ∃ (operations : List RegistryOperation) (issued : Issued) (state : RegistryState),
      serve { liveness := {} } {} operations = .ok (state, issued) ∧
      (state.registerNode 9 [99] 0).1 = { error := .ok, id := 0, sessionId := 0 } ∧
      decodeBody readRegistration (writeU64 0 ++ writeU64 0) =
        .error "registry response has an invalid registration payload" := by
  obtain ⟨issued, metrics, served⟩ := CounterWrap.counters_wrap
  exact ⟨_, issued, CounterWrap.wrapped metrics, served, rfl, rfl⟩

end RobotMiddleware.Proofs.MessageBodies
