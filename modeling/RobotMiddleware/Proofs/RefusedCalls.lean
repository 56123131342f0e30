import RobotMiddleware.Proofs.RegistryEffects
import RobotMiddleware.RegistryServer

/-! Calls of the registry that report an error. Each of them returns before its
first store, and for `advertise` and `subscribe` the conditions under which they
do not are spelled out. -/

namespace RobotMiddleware.Proofs.RefusedCalls
open Std Lib.Index Lib.Outcome RegistryState RegistryCalls RegistryIntegrity

/-- A call of the registry that reports an error code. The transport is the value of
the enumeration's underlying type, with or without an enumerator. -/
inductive RegistryCall where
  | registerNode (connection : UInt64) (nodeName : Bytes) (now : Int)
  | unregisterNode (connection nodeId : UInt64)
  | attachHeartbeat (connection nodeId sessionId : UInt64)
  | heartbeat (connection nodeId sessionId : UInt64) (now : Int)
  | advertise (connection nodeId : UInt64) (topicName typeName typeHash : Bytes) (maxMessageSize : UInt64)
      (transport : UInt16) (pool : SharedPoolMetadata)
  | unadvertise (connection nodeId endpointId : UInt64)
  | subscribe (connection nodeId : UInt64) (topicName typeName typeHash : Bytes) (maxMessageSize : UInt64)
      (dataSocketPath : Bytes) (transport : UInt16) (queue : SharedQueueMetadata)
  | unsubscribe (connection nodeId endpointId : UInt64)

def reported (called : Except Exception (EndpointResult × RegistryState)) : Except Exception (ErrorCode × RegistryState) := do
  let (result, after) ← called
  pure (result.error, after)

def answer (state : RegistryState) : RegistryCall → Except Exception (ErrorCode × RegistryState)
  | .registerNode connection nodeName now =>
    let (result, after) := state.registerNode connection nodeName now
    .ok (result.error, after)
  | .unregisterNode connection nodeId => state.unregisterNode connection nodeId
  | .attachHeartbeat connection nodeId sessionId => .ok (state.attachHeartbeat connection nodeId sessionId)
  | .heartbeat connection nodeId sessionId now =>
    let (result, after) := state.heartbeat connection nodeId sessionId now
    .ok (result.error, after)
  | .advertise connection nodeId topicName typeName typeHash maxMessageSize transport pool =>
    reported (state.advertiseTopic connection nodeId topicName typeName typeHash maxMessageSize transport pool)
  | .unadvertise connection nodeId endpointId => state.unadvertise connection nodeId endpointId
  | .subscribe connection nodeId topicName typeName typeHash maxMessageSize dataSocketPath transport queue =>
    reported
      (state.subscribeTopic connection nodeId topicName typeName typeHash maxMessageSize dataSocketPath transport queue)
  | .unsubscribe connection nodeId endpointId => state.unsubscribe connection nodeId endpointId

def Owns (state : RegistryState) (connection nodeId : UInt64) : Prop :=
  ∃ node, state.nodes[nodeId]? = some node ∧ node.controlConnection = connection

structure MayAdvertise (state : RegistryState) (connection nodeId : UInt64) (topicName typeName typeHash : Bytes)
    (maxMessageSize : UInt64) (transport : TransportType) (pool : SharedPoolMetadata) : Prop where
  owned : Owns state connection nodeId
  named : topicName ≠ [] ∧ typeName ≠ [] ∧ typeHash ≠ []
  sized : maxMessageSize ≤ uint32Max
  metadata : validPoolMetadata transport pool = true
  compatible : Compatible state topicName typeName typeHash transport (·.publisherEndpoint = none)

structure MaySubscribe (state : RegistryState) (connection nodeId : UInt64) (topicName typeName typeHash : Bytes)
    (maxMessageSize : UInt64) (dataSocketPath : Bytes) (transport : TransportType) (queue : SharedQueueMetadata) :
    Prop where
  owned : Owns state connection nodeId
  named : topicName ≠ [] ∧ typeName ≠ [] ∧ typeHash ≠ [] ∧ dataSocketPath ≠ []
  sized : maxMessageSize ≤ uint32Max
  metadata : validQueueMetadata transport queue = true
  compatible : Compatible state topicName typeName typeHash transport fun _ => True

variable {state after : RegistryState} {connection nodeId maxMessageSize : UInt64}
  {topicName typeName typeHash dataSocketPath : Bytes} {transport : TransportType} {pool : SharedPoolMetadata}
  {queue : SharedQueueMetadata} {result : EndpointResult} {error : ErrorCode}

theorem owns_iff : Owns state connection nodeId ↔ ∃ node, state.ownedNode connection nodeId = some node := by
  constructor
  · rintro ⟨node, found, mine⟩
    exact ⟨node, ownedNode_some.mpr ⟨found, mine⟩⟩
  · rintro ⟨node, owned⟩
    exact ⟨node, ownedNode_some.mp owned⟩

theorem advertise_accepted :
    (∃ result after, state.advertise connection nodeId topicName typeName typeHash maxMessageSize transport pool =
        .ok (result, after) ∧ result.error = .ok) ↔
      MayAdvertise state connection nodeId topicName typeName typeHash maxMessageSize transport pool := by
  constructor
  · rintro ⟨result, after, done, succeeded⟩
    cases advertise_cases done with
    | refused failed => exact absurd succeeded failed
    | @joined node _ _ _ owned valid accepted _ =>
      simp only [List.isEmpty_iff, gt_iff_lt, Bool.not_eq_true', not_or, Bool.not_eq_false, UInt64.not_lt] at valid
      obtain ⟨topic, type, hash, sized, metadata⟩ := valid
      exact ⟨owns_iff.mpr ⟨node, owned⟩, ⟨topic, type, hash⟩, sized, metadata, advertiseMismatch_none.mp accepted⟩
  · rintro ⟨owned, ⟨topic, type, hash⟩, sized, metadata, compatible⟩
    obtain ⟨node, owned⟩ := owns_iff.mp owned
    obtain ⟨⟨topicId, record, created⟩, found⟩ :=
      findOrCreateTopic_total compatible.known typeName typeHash maxMessageSize transport
    unfold advertise
    rw [owned]
    simp only
    rw [if_neg (by simp [topic, type, hash, metadata, UInt64.not_lt.mpr sized])]
    simp only [advertiseMismatch_none.mpr compatible, found, bind, Except.bind]
    exact ⟨_, _, rfl, rfl⟩

theorem subscribe_accepted :
    (∃ result after, state.subscribe connection nodeId topicName typeName typeHash maxMessageSize dataSocketPath transport
        queue = .ok (result, after) ∧ result.error = .ok) ↔
      MaySubscribe state connection nodeId topicName typeName typeHash maxMessageSize dataSocketPath transport queue := by
  constructor
  · rintro ⟨result, after, done, succeeded⟩
    cases subscribe_cases done with
    | refused failed => exact absurd succeeded failed
    | @joined node _ _ _ owned valid accepted _ =>
      simp only [List.isEmpty_iff, gt_iff_lt, Bool.not_eq_true', not_or, Bool.not_eq_false, UInt64.not_lt] at valid
      obtain ⟨topic, type, hash, path, sized, metadata⟩ := valid
      exact ⟨owns_iff.mpr ⟨node, owned⟩, ⟨topic, type, hash, path⟩, sized, metadata, subscribeMismatch_none.mp accepted⟩
  · rintro ⟨owned, ⟨topic, type, hash, path⟩, sized, metadata, compatible⟩
    obtain ⟨node, owned⟩ := owns_iff.mp owned
    obtain ⟨⟨topicId, record, created⟩, found⟩ :=
      findOrCreateTopic_total compatible.known typeName typeHash maxMessageSize transport
    unfold subscribe
    rw [owned]
    simp only
    rw [if_neg (by simp [topic, type, hash, path, metadata, UInt64.not_lt.mpr sized])]
    simp only [subscribeMismatch_none.mpr compatible, found, bind, Except.bind]
    exact ⟨_, _, rfl, rfl⟩

theorem unknownTransport_refused : (state.unknownTransport connection nodeId).1.error ≠ .ok := by
  unfold unknownTransport
  simp only
  split <;> simp

theorem answer_refused {call : RegistryCall} (answered : answer state call = .ok (error, after)) (failed : error ≠ .ok) :
    after = state := by
  cases call with
  | registerNode connection nodeName now =>
    rcases @registerNode_cases state connection nodeName now with ⟨reported, _, same⟩ | ⟨_, same⟩
    · simp only [answer, same, Except.ok.injEq, Prod.mk.injEq] at answered
      exact answered.2.symm
    · simp only [answer, same, Except.ok.injEq, Prod.mk.injEq] at answered
      exact absurd answered.1.symm failed
  | unregisterNode =>
    cases unregisterNode_iff.mp answered with
    | refused => rfl
    | left => exact absurd rfl failed
  | attachHeartbeat connection nodeId sessionId =>
    rcases @attachHeartbeat_cases state connection nodeId sessionId with same | ⟨node, _, _, _, _, same⟩
    · simp only [answer, same, Except.ok.injEq, Prod.mk.injEq] at answered
      exact answered.2.symm
    · simp only [answer, same, Except.ok.injEq, Prod.mk.injEq] at answered
      exact absurd answered.1.symm failed
  | heartbeat connection nodeId sessionId now =>
    rcases @heartbeat_cases state connection nodeId sessionId now with ⟨_, liveness, same⟩ | ⟨node, _, same⟩
    · simp only [answer, same, Except.ok.injEq, Prod.mk.injEq] at answered
      exact answered.2.symm
    · simp only [answer, same, Except.ok.injEq, Prod.mk.injEq] at answered
      exact absurd answered.1.symm failed
  | advertise =>
    obtain ⟨⟨result, final⟩, done, same⟩ := bind_ok answered
    cases same
    unfold advertiseTopic at done
    split at done
    · cases done; rfl
    · cases advertise_cases done with
      | refused => rfl
      | joined => exact absurd rfl failed
  | unadvertise =>
    cases unadvertise_iff.mp answered with
    | refused => rfl
    | left => exact absurd rfl failed
  | subscribe =>
    obtain ⟨⟨result, final⟩, done, same⟩ := bind_ok answered
    cases same
    unfold subscribeTopic at done
    split at done
    · cases done; rfl
    · cases subscribe_cases done with
      | refused => rfl
      | joined => exact absurd rfl failed
  | unsubscribe =>
    cases unsubscribe_iff.mp answered with
    | refused => rfl
    | left => exact absurd rfl failed

theorem reported_ok {called : Except Exception (EndpointResult × RegistryState)} :
    (∃ after, reported called = .ok (.ok, after)) ↔ ∃ result after, called = .ok (result, after) ∧ result.error = .ok := by
  constructor
  · rintro ⟨after, answered⟩
    obtain ⟨⟨result, final⟩, done, same⟩ := bind_ok answered
    simp only [pure, Except.pure, Except.ok.injEq, Prod.mk.injEq] at same
    exact ⟨result, final, done, same.1⟩
  · rintro ⟨result, after, rfl, accepted⟩
    refine ⟨after, ?_⟩
    rw [← accepted]
    rfl

theorem reported_known {value : UInt16} {call : TransportType → Except Exception (EndpointResult × RegistryState)}
    {may : TransportType → Prop}
    (accepted : ∀ transport, (∃ result after, call transport = .ok (result, after) ∧ result.error = .ok) ↔ may transport) :
    (∃ after, reported (match transportType value with
      | none => .ok (state.unknownTransport connection nodeId)
      | some transport => call transport) = .ok (.ok, after)) ↔
      ∃ transport, transportType value = some transport ∧ may transport := by
  rw [reported_ok]
  cases known : transportType value with
  | none =>
    have refused := @unknownTransport_refused state connection nodeId
    simp only [Except.ok.injEq, reduceCtorEq, false_and, exists_false, iff_false]
    rintro ⟨result, after, same, accepted⟩
    rw [same] at refused
    exact refused accepted
  | some => simp only [Option.some.injEq, exists_eq_left', accepted]

/-- In whatever state the registry is, a call that reports an error leaves all of it as
it was, and `advertise` and `subscribe` succeed exactly if the caller owns the node, the
arguments and the metadata are valid and a topic of that name is compatible. -/
theorem failed_calls_change_nothing (state : RegistryState) :
    (∀ call error after, answer state call = .ok (error, after) → error ≠ .ok → after = state) ∧
    (∀ connection nodeId topicName typeName typeHash maxMessageSize value pool,
      (∃ after, answer state (.advertise connection nodeId topicName typeName typeHash maxMessageSize value pool) =
          .ok (.ok, after)) ↔
        ∃ transport, transportType value = some transport ∧
          MayAdvertise state connection nodeId topicName typeName typeHash maxMessageSize transport pool) ∧
    (∀ connection nodeId topicName typeName typeHash maxMessageSize dataSocketPath value queue,
      (∃ after, answer state
          (.subscribe connection nodeId topicName typeName typeHash maxMessageSize dataSocketPath value queue) =
          .ok (.ok, after)) ↔
        ∃ transport, transportType value = some transport ∧
          MaySubscribe state connection nodeId topicName typeName typeHash maxMessageSize dataSocketPath transport queue) :=
  ⟨fun _ _ _ => answer_refused, fun _ _ _ _ _ _ _ _ => reported_known fun _ => advertise_accepted,
    fun _ _ _ _ _ _ _ _ _ => reported_known fun _ => subscribe_accepted⟩

/-- Node 1 of connection 7 publishes the only topic. -/
def occupied : RegistryState :=
  let node : NodeRecord := { nodeId := 1, sessionId := 1, nodeName := [97], controlConnection := 7, lastSeen := 0 }
  let topic : TopicRecord :=
    { topicId := 1, topicName := [116], typeName := [1], typeHash := [2], transport := .unixDomainSocket, maxMessageSize := 64 }
  let publisher : PublisherEndpoint :=
    { endpointId := 1, nodeId := 1, topicId := 1, maxMessageSize := 64, transport := .unixDomainSocket, pool := {} }
  { nextNodeId := 2
    nextSessionId := 2
    nextTopicId := 2
    nextEndpointId := 2
    nodes := .insert ∅ 1 { node with publisherEndpoints := .insert ∅ 1 }
    nodeNames := .insert ∅ [97] 1
    topics := .insert ∅ 1 { topic with publisherEndpoint := some 1 }
    topicNames := .insert ∅ [116] 1
    publishers := .insert ∅ 1 publisher
    liveness := {} }

theorem failed_calls_change_nothing_occupied :
    answer occupied (.advertise 7 1 [116] [1] [2] 64 1 {}) = .ok (.duplicatePublisher, occupied) ∧
      MaySubscribe occupied 7 1 [116] [1] [2] 64 [47] .unixDomainSocket {} := by
  obtain ⟨refused, _, joins⟩ := failed_calls_change_nothing occupied
  have taken : Prod.fst <$> answer occupied (.advertise 7 1 [116] [1] [2] 64 1 {}) = .ok .duplicatePublisher := by
    decide +kernel
  have joined : Prod.fst <$> answer occupied (.subscribe 7 1 [116] [1] [2] 64 [47] 1 {}) = .ok .ok := by decide +kernel
  constructor
  · obtain ⟨⟨error, after⟩, done, rfl⟩ := map_ok taken
    rw [done, refused _ _ _ done (by decide)]
  · obtain ⟨⟨error, after⟩, done, rfl⟩ := map_ok joined
    obtain ⟨transport, known, may⟩ := (joins 7 1 [116] [1] [2] 64 [47] 1 {}).mp ⟨after, done⟩
    cases known
    exact may

end RobotMiddleware.Proofs.RefusedCalls
