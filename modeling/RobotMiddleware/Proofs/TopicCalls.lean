import RobotMiddleware.Proofs.PublisherCalls
import RobotMiddleware.Proofs.TopicInvariant

/-! The calls of the publisher, seen from the subscribers. A call keeps the account
of every connection that it keeps, and it drops a connection only when the
subscriber is gone or no longer registered. -/

namespace RobotMiddleware.Proofs.TopicCalls
open Std QueueRefinement ReferenceAccounting PublisherAccounting PublisherCalls ReleaseChannel SubscriberSteps TopicInvariant

variable {publisher after last : Publisher} {guards loans : List ChunkHandle}
  {subscribers : ExtTreeMap UInt64 SubscriberEnd} {asked : Prop} {answers : DiscoveryAnswers}
  {losses : List ChunkHandle → Prop}

/-- The publisher has learnt that the subscriber is gone: from its socket, or from
the registry if it `asked` there. -/
def Departed (asked : Prop) (subscriber : SubscriberEnd) : Prop :=
  subscriber.alive = false ∧ subscriber.views = [] ∨ asked ∧ subscriber.registered = false

/-- The connections after a part of a call. -/
structure Rejoined (losses : List ChunkHandle → Prop) (asked : Prop) (subscribers : ExtTreeMap UInt64 SubscriberEnd)
    (publisher after : Publisher) : Prop where
  covers : Covers losses subscribers after.connections (·.outstanding)
  dropped : ∀ endpointId ∈ endpoints publisher.connections, endpointId ∉ endpoints after.connections →
    ∀ subscriber, subscribers[endpointId]? = some subscriber → Departed asked subscriber
  added : ∀ endpointId ∈ endpoints after.connections, endpointId ∉ endpoints publisher.connections →
    ∃ subscriber, subscribers[endpointId]? = some subscriber ∧ subscriber.alive = true

theorem Departed.gone {subscriber : SubscriberEnd} (departed : Departed asked subscriber) (usable : Usable sound subscriber) :
    subscriber.alive = false := by
  rcases departed with ⟨gone, _⟩ | ⟨_, unlisted⟩
  · exact gone
  · cases alive : subscriber.alive with
    | false => rfl
    | true =>
      rw [(usable.live alive).1] at unlisted
      cases unlisted

theorem Rejoined.refl (covers : Covers losses subscribers publisher.connections (·.outstanding)) :
    Rejoined losses asked subscribers publisher publisher :=
  ⟨covers, fun _ present absent => absurd present absent, fun _ present absent => absurd present absent⟩

theorem Rejoined.trans (first : Rejoined losses asked subscribers publisher after)
    (second : Rejoined losses asked subscribers after last) : Rejoined losses asked subscribers publisher last := by
  refine ⟨second.covers, ?_, ?_⟩
  · intro endpointId present absent
    by_cases between : endpointId ∈ endpoints after.connections
    · exact second.dropped endpointId between absent
    · exact first.dropped endpointId present between
  · intro endpointId present absent
    by_cases between : endpointId ∈ endpoints after.connections
    · exact first.added endpointId between absent
    · exact second.added endpointId present between

private theorem filtered_out (keep : UInt64 → Bool) {connections : List DataConnection} {endpointId : UInt64}
    (present : endpointId ∈ endpoints connections)
    (absent : endpointId ∉ endpoints (connections.filter fun connection => keep connection.endpointId)) :
    keep endpointId = false := by
  obtain ⟨connection, member, rfl⟩ := List.mem_map.mp present
  by_contra kept
  exact absent (List.mem_map.mpr ⟨connection, List.mem_filter.mpr ⟨member, by simpa using kept⟩, rfl⟩)

theorem removeEndpoints_kept (endpointIds : List UInt64) {endpointId : UInt64}
    (present : endpointId ∈ endpoints publisher.connections) (other : endpointId ∉ endpointIds) :
    endpointId ∈ endpoints (endpointIds.foldl Publisher.removeEndpoint publisher).connections := by
  refine List.foldlRecOn (motive := fun current : Publisher => endpointId ∈ endpoints current.connections) endpointIds _
    present ?_
  intro current member removed listed
  by_contra absent
  rw [removeEndpoint_connections] at absent
  have same : endpointId = removed := by simpa using filtered_out (fun id => !id == removed) member absent
  exact other (same ▸ listed)

/-- The registry and the sockets answer as this topic lets them. -/
structure Answers (subscribers : ExtTreeMap UInt64 SubscriberEnd) (answers : DiscoveryAnswers) : Prop where
  noPeers : answers.peerEvents = some []
  complete : ∀ discovery, answers.discovery = .ok discovery → ∀ endpointId subscriber,
    subscribers[endpointId]? = some subscriber → subscriber.registered = true →
      endpointId ∈ discovery.subscribers.map (·.endpointId)
  reachable : ∀ endpointId, answers.connects endpointId = true →
    ∃ subscriber, subscribers[endpointId]? = some subscriber ∧ subscriber.alive = true

def Informed (answers : DiscoveryAnswers) : Prop := ∃ discovery, answers.discovery = .ok discovery

section Covers
variable (covers : Covers losses subscribers publisher.connections (·.outstanding))
include covers

/-- The connections that stay keep their account, and the others were dropped for
a reason. -/
private theorem rejoined_of_dropped (usable : AllUsable sound subscribers)
    (covered : ∀ connection ∈ after.connections, ∃ subscriber, subscribers[connection.endpointId]? = some subscriber ∧
      ∃ lost, losses lost ∧ Covered lost connection.outstanding connection subscriber)
    (fewer : endpoints after.connections ⊆ endpoints publisher.connections)
    (dropped : ∀ endpointId ∈ endpoints publisher.connections, endpointId ∉ endpoints after.connections →
      ∀ subscriber, subscribers[endpointId]? = some subscriber → Departed asked subscriber) :
    Rejoined losses asked subscribers publisher after := by
  refine ⟨⟨covered, ?_⟩, dropped, fun endpointId present absent => absurd (fewer present) absent⟩
  intro endpointId subscriber found alive absent
  by_cases was : endpointId ∈ endpoints publisher.connections
  · rw [(dropped endpointId was absent subscriber found).gone (usable endpointId subscriber found)] at alive
    cases alive
  · exact covers.untouched endpointId subscriber found alive was

theorem drain_rejoined (asked : Prop) (usable : AllUsable sound subscribers) (settled : Settled publisher guards loans) :
    Rejoined losses asked subscribers publisher publisher.drainReleasesNonBlocking := by
  obtain ⟨kept, left⟩ := drainConnections_mem publisher.pool publisher.connections
  have parts := drainConnections_endpoints publisher.pool publisher.connections
  -- every socket is drained on its own
  have drained (connection : DataConnection) (present : connection ∈ publisher.connections) :
      ∃ subscriber, subscribers[connection.endpointId]? = some subscriber ∧ ∃ lost, losses lost ∧ ∀ current,
        ((receiveReleases current connection connection.incoming).1 = true →
          subscriber.alive = false ∧ subscriber.views = []) ∧
        Covered lost (receiveReleases current connection connection.incoming).2.2.outstanding
          (receiveReleases current connection connection.incoming).2.2 subscriber := by
    obtain ⟨subscriber, found, lost, allowed, covered⟩ := covers.covered connection present
    refine ⟨subscriber, found, lost, allowed, covered.drain ?_⟩
    intro handle outstanding
    exact genuine_of_held settled.accounted (List.mem_append_left _ (List.mem_flatMap.mpr ⟨connection, present, outstanding⟩))
  refine rejoined_of_dropped covers usable ?_ (fun _ stays => parts.subset (List.mem_append_left _ stays)) ?_
  · intro connection present
    obtain ⟨origin, member, current, rfl⟩ := kept connection present
    obtain ⟨subscriber, found, lost, allowed, covered⟩ := drained origin member
    exact ⟨subscriber, by rw [receiveReleases_endpoint]; exact found, lost, allowed, (covered current).2⟩
  · intro endpointId was absent subscriber found
    rcases List.mem_append.mp (parts.mem_iff.mpr was) with stays | leaves
    · exact absurd stays absent
    · obtain ⟨origin, member, current, rfl, disconnected⟩ := left endpointId leaves
      obtain ⟨other, same, lost, _, covered⟩ := drained origin member
      rw [found] at same
      cases same
      exact .inl ((covered current).1 disconnected)

theorem removeEndpoint_covers {endpointId : UInt64}
    (gone : ∀ subscriber, subscribers[endpointId]? = some subscriber → subscriber.alive = false) :
    Covers losses subscribers (publisher.removeEndpoint endpointId).connections (·.outstanding) := by
  rw [removeEndpoint_connections]
  refine ⟨fun connection present => covers.covered connection (List.mem_of_mem_filter present), ?_⟩
  intro other subscriber found alive absent
  by_cases was : other ∈ endpoints publisher.connections
  · have removed : other = endpointId := by simpa using filtered_out (fun id => !id == endpointId) was absent
    subst removed
    rw [gone subscriber found] at alive
    cases alive
  · exact covers.untouched other subscriber found alive was

theorem removeEndpoints_covers {endpointIds : List UInt64}
    (gone : ∀ endpointId ∈ endpointIds, ∀ subscriber, subscribers[endpointId]? = some subscriber →
      subscriber.alive = false) :
    Covers losses subscribers (endpointIds.foldl Publisher.removeEndpoint publisher).connections (·.outstanding) :=
  List.foldlRecOn (motive := fun current : Publisher => Covers losses subscribers current.connections (·.outstanding))
    endpointIds _ covers fun _ kept endpointId present => removeEndpoint_covers kept (gone endpointId present)

variable (answered : Answers subscribers answers)
include answered

theorem dropVanished_rejoined (usable : AllUsable sound subscribers) {discovery : RegistryDiscovery} (found : answers.discovery = .ok discovery) :
    Rejoined losses (Informed answers) subscribers publisher (publisher.dropVanished discovery.subscribers) := by
  have kept : (publisher.dropVanished discovery.subscribers).connections = publisher.connections.filter fun connection =>
      !!(discovery.subscribers.map (·.endpointId)).contains connection.endpointId :=
    dropConnections_kept _ publisher.pool publisher.connections
  refine rejoined_of_dropped covers usable ?_ ?_ ?_
  · rw [kept]
    exact fun connection present => covers.covered connection (List.mem_of_mem_filter present)
  · rw [kept]
    exact (List.filter_sublist.map _).subset
  · rw [kept]
    intro endpointId was absent subscriber held
    have unlisted := filtered_out (fun id => !!(discovery.subscribers.map (·.endpointId)).contains id) was absent
    rw [Bool.not_not, Bool.eq_false_iff, ne_eq, List.contains_iff_mem] at unlisted
    refine .inr ⟨⟨discovery, found⟩, ?_⟩
    by_contra registered
    exact unlisted (answered.complete discovery found endpointId subscriber held (by simpa using registered))

theorem connectSubscriber_rejoined (none : losses []) (entry : RegistrySubscriber) :
    Rejoined losses asked subscribers publisher (Publisher.connectSubscriber answers.connects publisher entry) := by
  unfold Publisher.connectSubscriber
  split
  · exact .refl covers
  next new =>
    split
    next connected =>
      obtain ⟨subscriber, found, alive⟩ := answered.reachable _ connected
      have absent : entry.endpointId ∉ endpoints publisher.connections := by
        simp only [not_or, List.any_eq_true, beq_iff_eq, not_exists, not_and] at new
        simpa [endpoints] using new.1
      have untouched := covers.untouched _ subscriber found alive absent
      have grown (endpointId : UInt64) (present : endpointId ∈ endpoints publisher.connections)
          (added : DataConnection) : endpointId ∈ endpoints (publisher.connections ++ [added]) := by
        simp only [endpoints, List.map_append, List.mem_append] at present ⊢
        exact .inl present
      refine ⟨⟨?_, ?_⟩, ?_, ?_⟩
      · intro connection present
        rcases List.mem_append.mp present with old | added
        · exact covers.covered connection old
        · rw [List.mem_singleton.mp added]
          refine ⟨subscriber, found, [], none, ⟨[], rfl, ?_⟩, by simp [kQueueReleaseSize], by simp, by simp⟩
          simp [burden, untouched.empty, untouched.idle, untouched.unseen]
      · intro endpointId other present live outside
        exact covers.untouched endpointId other present live fun inside => outside (grown endpointId inside _)
      · exact fun endpointId present outside => absurd (grown endpointId present _) outside
      · intro endpointId present outside
        simp only [endpoints, List.map_append, List.mem_append, List.map_cons, List.map_nil, List.mem_singleton] at present
        rcases present with old | rfl
        · exact absurd old outside
        · exact ⟨subscriber, found, alive⟩
    · exact ⟨covers, fun _ present absent => absurd present absent, fun _ present absent => absurd present absent⟩

theorem Calls.rejoined (none : losses []) (usable : AllUsable sound subscribers) (settled : Settled publisher guards loans)
    (calls : Calls answers publisher after) : Rejoined losses (Informed answers) subscribers publisher after := by
  refine (Calls.invariant
    (fun next => Rejoined losses (Informed answers) subscribers publisher next ∧ Settled next guards loans) calls ?_
    ⟨.refl covers, settled⟩).1
  intro before next stage ⟨rejoined, settled⟩
  refine ⟨rejoined.trans ?_, (stage.continues settled).settled⟩
  cases stage with
  | drained => exact drain_rejoined rejoined.covers _ usable settled
  | removed told => simp [answered.noPeers] at told
  | pruned found => exact dropVanished_rejoined rejoined.covers answered usable found
  | joined => exact connectSubscriber_rejoined rejoined.covers answered none _

theorem Prepared.rejoined {prepared : (PublishResult ⊕ Dispatch) × Publisher} (none : losses [])
    (usable : AllUsable sound subscribers) (settled : Settled publisher guards loans)
    (effect : Prepared answers publisher prepared) :
    Rejoined losses (Informed answers) subscribers publisher prepared.2 := by
  obtain ⟨middle, calls, same, _⟩ := effect.calls
  have rejoined := Calls.rejoined covers answered none usable settled calls
  exact ⟨by rw [same]; exact rejoined.covers, by rw [same]; exact rejoined.dropped, by rw [same]; exact rejoined.added⟩

end Covers

end RobotMiddleware.Proofs.TopicCalls
