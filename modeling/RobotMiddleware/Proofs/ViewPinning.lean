import RobotMiddleware.Proofs.TopicObligations

/-! When a view pins its chunk. The reference of a view is an entry of its
subscriber's connection and nothing else. The publisher drops the whole
connection when the registry no longer lists the subscriber, or when its queue is
found closed, and a view that outlives its subscriber is then left without its
chunk. As long as no such view is active at these two points, every view pins its
chunk. -/

namespace RobotMiddleware.Proofs.ViewPinning
open Std Lib.Transitions PoolRuns QueueRefinement ReferenceAccounting PublisherAccounting PublisherCalls ReleaseChannel TopicInvariant
  TopicCalls TopicEffects TopicRuns TopicObligations PoolLifecycle

/-- The chunk is published with the generation of the handle, so `allocate` does
not hand it out. -/
structure Pinned (pool : MemoryPool) (handle : ChunkHandle) : Prop where
  inside : handle.chunkIndex.toNat < pool.directory.length
  current : handle = handleOf pool handle.chunkIndex
  published : (pool.chunkHeader handle.chunkIndex).state = .published
  notHandedOut : ∀ payloadSize, (pool.allocate payloadSize).1.error = .ok →
    (pool.allocate payloadSize).1.handle.chunkIndex ≠ handle.chunkIndex

/-- No view outlives its subscriber at the two points where the publisher drops
connections: a call that may ask the registry, for subscribers that have
unsubscribed, and the end of a dispatch, for endpoints that failed in it. -/
def NoViewLeftBehind (topic : SharedTopic) : TopicEvent → Prop
  | .publish .. | .publishLoanedSample .. =>
    ∀ (endpointId : UInt64) (subscriber : SubscriberEnd), topic.subscribers[endpointId]? = some subscriber →
      subscriber.registered = false → subscriber.views = []
  | .finish =>
    ∀ endpointId ∈ failing topic.phase, ∀ subscriber : SubscriberEnd, topic.subscribers[endpointId]? = some subscriber →
      subscriber.views = []
  | _ => True

def ViewsConnected (topic : SharedTopic) : Prop :=
  ∀ (endpointId : UInt64) (subscriber : SubscriberEnd), topic.subscribers[endpointId]? = some subscriber → subscriber.views ≠ [] →
    endpointId ∈ endpoints topic.publisher.connections

variable {topic next : SharedTopic} {pool : MemoryPool} {endpointId : UInt64} {subscriber after : SubscriberEnd}
  {handle : ChunkHandle}

theorem step_views {connected : Bool} {sent : List SocketEvent} {step : SubscriberStep}
    (moved : subscriber.step connected pool step = some (after, sent)) :
    after.views ⊆ subscriber.views ∨ subscriber.alive = true ∧ subscriber.inHand ≠ [] := by
  cases step with
  | read =>
    simp only [SubscriberEnd.step] at moved
    split at moved
    next handle rest alive inHand => exact .inr ⟨alive, by simp [inHand]⟩
    next => cases moved
  | releaseView =>
    simp only [SubscriberEnd.step] at moved
    split at moved
    · cases moved
      exact .inl List.erase_subset
    · cases moved
  | dequeue attempt | closeAndDrain attempt =>
    simp only [SubscriberEnd.step] at moved
    split at moved
    · split at moved <;> cases moved <;> exact .inl (List.Subset.refl _)
    · cases moved
  | releaseDrained =>
    simp only [SubscriberEnd.step] at moved
    split at moved
    · cases moved
      exact .inl (List.Subset.refl _)
    · cases moved
  | acceptPendingConnection | receiveWakeAvailable | unsubscribe | hangUp | pause =>
    simp only [SubscriberEnd.step, Option.ite_none_right_eq_some, Option.some.injEq, Prod.mk.injEq] at moved
    grind

/-- The publisher's side changes, and it drops only connections without views. -/
theorem ViewsConnected.redirect (joined : ViewsConnected topic) (same : next.subscribers = topic.subscribers)
    (dropped : ∀ endpointId ∈ endpoints topic.publisher.connections, endpointId ∉ endpoints next.publisher.connections →
      ∀ subscriber : SubscriberEnd, topic.subscribers[endpointId]? = some subscriber → subscriber.views = []) :
    ViewsConnected next := by
  intro endpointId subscriber found active
  rw [same] at found
  by_contra absent
  exact active (dropped endpointId (joined endpointId subscriber found active) absent subscriber found)

/-- One subscriber changes, and it has a connection if it has views. -/
theorem ViewsConnected.insert (joined : ViewsConnected topic)
    (same : endpoints next.publisher.connections = endpoints topic.publisher.connections)
    (updated : next.subscribers = topic.subscribers.insert endpointId after)
    (own : after.views ≠ [] → endpointId ∈ endpoints topic.publisher.connections) : ViewsConnected next := by
  intro id other found active
  rw [same]
  rw [updated] at found
  rcases (lookup_insert _ _ _ _ _).mp found with ⟨rfl, rfl⟩ | ⟨_, old⟩
  · exact own active
  · exact joined id other old active

/-- Nobody departs with a view when no unsubscribed subscriber has one. -/
theorem noViews_of_departed {asked : Prop} (departed : Departed asked subscriber)
    (left : asked → subscriber.registered = false → subscriber.views = []) : subscriber.views = [] := by
  rcases departed with ⟨_, none⟩ | ⟨called, unlisted⟩
  · exact none
  · exact left called unlisted

theorem moved_viewsConnected (inv : Inv topic) (joined : ViewsConnected topic) {step : SubscriberStep}
    {sent : List SocketEvent} (found : topic.subscribers[endpointId]? = some subscriber)
    (taken : subscriber.step (connected topic endpointId) topic.publisher.pool step = some (after, sent)) :
    ViewsConnected
      { topic with
        subscribers := topic.subscribers.insert endpointId after
        publisher := topic.publisher.arrive endpointId sent } := by
  refine joined.insert (arrive_endpoints _ _ _) rfl ?_
  intro active
  rcases step_views taken with fewer | ⟨alive, taking⟩
  · refine joined endpointId subscriber found fun none => active ?_
    rw [none] at fewer
    exact List.subset_nil.mp fewer
  · -- without a connection there is nothing to take
    by_contra absent
    exact taking (inv.covers.untouched endpointId subscriber found alive absent).idle

/-- A publisher call, which may ask the registry only if no view is left behind. -/
theorem ViewsConnected.relink {asked : Prop} (joined : ViewsConnected topic) (same : next.subscribers = topic.subscribers)
    (left : asked → ∀ (endpointId : UInt64) (subscriber : SubscriberEnd),
      topic.subscribers[endpointId]? = some subscriber → subscriber.registered = false → subscriber.views = [])
    (rejoined : Rejoined (· = []) asked topic.subscribers topic.publisher next.publisher) : ViewsConnected next :=
  joined.redirect same fun endpointId present absent subscriber found =>
    noViews_of_departed (rejoined.dropped endpointId present absent subscriber found) fun called =>
      left called endpointId subscriber found

theorem informed_asks {answers : RefreshAnswers} (informed : Informed (topic.discoveryAnswers answers)) :
    answers.refused = none := by
  obtain ⟨discovery, answered⟩ := informed
  simp only [SharedTopic.discoveryAnswers] at answered
  split at answered
  · cases answered
  next asked => exact asked

theorem called_viewsConnected (inv : Inv topic) (joined : ViewsConnected topic) {event : TopicEvent} {answers : RefreshAnswers}
    {prepared : (PublishResult ⊕ Dispatch) × Publisher} {loans : List ChunkHandle} (left : NoViewLeftBehind topic event)
    (asking : answers.refused = none → Asks event) (idle : topic.phase = .idle)
    (effect : Prepared (topic.discoveryAnswers answers) topic.publisher prepared) :
    ViewsConnected (SharedTopic.begin { topic with loans } prepared) := by
  obtain ⟨settled, covers⟩ := inv.idle idle
  have rejoined := Prepared.rejoined covers (discoveryAnswers_answers topic answers) (by rfl) inv.usable settled effect
  have unseen (informed : Informed (topic.discoveryAnswers answers)) (endpointId : UInt64) (subscriber : SubscriberEnd)
      (found : topic.subscribers[endpointId]? = some subscriber) (unlisted : subscriber.registered = false) :
      subscriber.views = [] := by
    have asks := asking (informed_asks informed)
    cases event with
    | publish | publishLoanedSample => exact left endpointId subscriber found unlisted
    | _ => exact asks.elim
  obtain ⟨outcome | dispatch, publisher⟩ := prepared
  · exact joined.relink rfl unseen rejoined
  · exact joined.relink rfl unseen rejoined

theorem afterEnqueue_viewsConnected {dispatch : Dispatch} {progress : DispatchProgress} {remaining : List UInt64}
    {answer : Option QueueEnqueueResult × SharedSubscriberQueue} (joined : ViewsConnected topic)
    (found : topic.subscribers[endpointId]? = some subscriber) :
    ViewsConnected (topic.afterEnqueue dispatch progress endpointId remaining subscriber answer) := by
  obtain ⟨result | result, queue⟩ := answer <;>
    exact joined.insert rfl rfl fun active => joined endpointId subscriber found active

theorem step_viewsConnected (inv : Inv topic) (joined : ViewsConnected topic) {event : TopicEvent}
    (left : NoViewLeftBehind topic event) (effect : TopicEffect topic event next) : ViewsConnected next := by
  cases effect with
  | subscribed => exact joined.insert rfl rfl fun active => absurd rfl active
  | moved found taken => exact moved_viewsConnected inv joined found taken
  | called _ asking idle effect => exact called_viewsConnected inv joined left asking idle effect.toPrepared
  | skipped => exact joined
  | @offered _ _ _ _ _ _ _ pool _ _ _ _ found _ _ =>
    have reserved : ViewsConnected { topic with publisher.pool := pool } := joined
    exact afterEnqueue_viewsConnected reserved found
  | resumed _ found _ => exact afterEnqueue_viewsConnected joined found
  | settled =>
    refine joined.redirect rfl fun endpointId present absent => absurd ?_ absent
    rw [replaceConnection_endpoints]
    exact present
  | finished phase =>
    refine joined.redirect rfl fun endpointId present absent => left endpointId ?_
    rw [phase]
    by_contra kept
    exact absent (removeEndpoints_kept _ present kept)

/-- The handle of a view on a connection is one that the pool counts. -/
theorem pinned_of_connected (inv : Inv topic) (joined : ViewsConnected topic)
    (found : topic.subscribers[endpointId]? = some subscriber) (active : handle ∈ subscriber.views) :
    Pinned topic.publisher.pool handle := by
  have present := joined endpointId subscriber found (List.ne_nil_of_mem active)
  obtain ⟨connection, member, rfl⟩ := List.mem_map.mp present
  have counted := inv.counted member found (List.mem_append_right _ active)
  obtain ⟨inside, current, published⟩ := inv.settled.accounted.published_of_held counted
  refine ⟨inside, current, published, ?_⟩
  intro payloadSize accepted same
  have valid := inv.settled.accounted.valid
  obtain ⟨index, _, _, idle, _, _, _, named⟩ := allocate_ok accepted valid
  rw [named] at same
  have chunk : index = handle.chunkIndex := same
  exact (valid.headers _ inside).references.mpr published (chunk ▸ idle)

/-- In every run in which no view is left behind, every active view pins its
chunk in every state. -/
theorem active_view_pinned {descriptor : PoolDescriptor} {config : PublisherConfig} {ownerPid : UInt64}
    (created : MemoryPool.create descriptor config.memoryPool ownerPid = .ok pool) (topicId publisherId : UInt64)
    {events : List TopicEvent} (attended : Along SharedTopic.step NoViewLeftBehind (start config pool topicId publisherId) events)
    (run : execute SharedTopic.step (start config pool topicId publisherId) events = some topic)
    (found : topic.subscribers[endpointId]? = some subscriber) (active : handle ∈ subscriber.views) :
    Pinned topic.publisher.pool handle := by
  have kept (topic : SharedTopic) (event : TopicEvent) (next : SharedTopic) (held : Inv topic ∧ ViewsConnected topic)
      (left : NoViewLeftBehind topic event) (taken : topic.step event = some next) : Inv next ∧ ViewsConnected next :=
    ⟨step_inv held.1 (held.1.effect taken), step_viewsConnected held.1 held.2 left (held.1.effect taken)⟩
  have none : ViewsConnected (start config pool topicId publisherId) := by
    intro endpointId subscriber found
    simp [start] at found
  obtain ⟨inv, joined⟩ := attended.invariant kept ⟨start_inv created topicId publisherId, none⟩ run
  exact pinned_of_connected inv joined found active

def noViews (topic : SharedTopic) : Bool := topic.subscribers.toList.all fun entry => entry.2.views.isEmpty

theorem noViewLeftBehind_of_noViews (topic : SharedTopic) (event : TopicEvent) (checked : (match event with
      | .publish .. | .publishLoanedSample .. | .finish => noViews topic
      | _ => true) = true) : NoViewLeftBehind topic event := by
  have unseen (none : noViews topic = true) (endpointId : UInt64) (subscriber : SubscriberEnd)
      (found : topic.subscribers[endpointId]? = some subscriber) : subscriber.views = [] := by
    have listed := ExtTreeMap.mem_toList_iff_getElem?_eq_some.mpr found
    simpa using List.all_eq_true.mp none _ listed
  cases event with
  | publish | publishLoanedSample => exact fun endpointId subscriber found _ => unseen checked endpointId subscriber found
  | finish => exact fun endpointId _ subscriber found => unseen checked endpointId subscriber found
  | _ => trivial

def takeView : List TopicEvent :=
  [.subscribe 1 sampleQueue 64,
    .publish (some [7]) 1 ⟨0, none, fun _ => true, 0⟩ 5, .enqueue true {}, .settle, .finish,
    .subscriber 1 .acceptPendingConnection, .subscriber 1 .receiveWakeAvailable, .subscriber 1 (.dequeue {}),
    .subscriber 1 .read]

theorem takeView_runs :
    ∃ pool topic subscriber, MemoryPool.create sampleDescriptor sampleConfig 1 = .ok pool ∧
      Along SharedTopic.step NoViewLeftBehind (start ⟨64, sampleConfig⟩ pool 1 2) takeView ∧
      execute SharedTopic.step (start ⟨64, sampleConfig⟩ pool 1 2) takeView = some topic ∧
      topic.subscribers[(1 : UInt64)]? = some subscriber ∧ ⟨1, 0, 1, 320⟩ ∈ subscriber.views :=
  ⟨_, _, _, rfl, along_of_check noViewLeftBehind_of_noViews rfl, rfl, rfl, List.mem_singleton.mpr rfl⟩

theorem active_view_pinned_sample :
    ∃ pool topic subscriber, MemoryPool.create sampleDescriptor sampleConfig 1 = .ok pool ∧
      Along SharedTopic.step NoViewLeftBehind (start ⟨64, sampleConfig⟩ pool 1 2) takeView ∧
      execute SharedTopic.step (start ⟨64, sampleConfig⟩ pool 1 2) takeView = some topic ∧
      topic.subscribers[(1 : UInt64)]? = some subscriber ∧ ⟨1, 0, 1, 320⟩ ∈ subscriber.views ∧
      Pinned topic.publisher.pool ⟨1, 0, 1, 320⟩ := by
  obtain ⟨pool, topic, subscriber, created, attended, run, found, active⟩ := takeView_runs
  have config : MemoryPool.create sampleDescriptor (PublisherConfig.mk 64 sampleConfig).memoryPool 1 = .ok pool := created
  exact ⟨pool, topic, subscriber, created, attended, run, found, active,
    active_view_pinned config 1 2 attended run found active⟩

/-- The subscriber of an active view is destroyed and unsubscribes, another one
subscribes, and the publisher publishes again. -/
def outliveSubscriber : List TopicEvent :=
  takeView ++
    [.subscriber 1 (.closeAndDrain {}), .subscriber 1 .unsubscribe,
      .subscribe 2 ⟨[slash, 114], 2, 304, 2, kQueueLayoutVersion, .dropOldest, 10⟩ 64,
      .publish (some [9]) 1 ⟨2000000, none, fun _ => true, 2000000⟩ 6]

/-- The chunk of the view is given back and handed out for the new sample. -/
theorem outlived_view_unpinned :
    ∃ pool topic subscriber, MemoryPool.create sampleDescriptor sampleConfig 1 = .ok pool ∧
      execute SharedTopic.step (start ⟨64, sampleConfig⟩ pool 1 2) outliveSubscriber = some topic ∧
      topic.subscribers[(1 : UInt64)]? = some subscriber ∧ ⟨1, 0, 1, 320⟩ ∈ subscriber.views ∧
      handleOf topic.publisher.pool 0 = ⟨1, 0, 2, 320⟩ ∧ ¬ Pinned topic.publisher.pool ⟨1, 0, 1, 320⟩ := by
  refine ⟨_, _, _, rfl, rfl, rfl, List.mem_singleton.mpr rfl, rfl, ?_⟩
  intro pinned
  have current : (⟨1, 0, 1, 320⟩ : ChunkHandle) = ⟨1, 0, 2, 320⟩ := pinned.current
  exact absurd current (by decide)

end RobotMiddleware.Proofs.ViewPinning
