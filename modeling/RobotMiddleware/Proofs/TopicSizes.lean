import RobotMiddleware.Proofs.TopicRuns

/-! The sizes of samples. A connection bears the limit of its subscriber, the
publisher negotiates the least limit whenever it joins a subscriber, and a sample
that it dispatches keeps to what was negotiated. -/

namespace RobotMiddleware.Proofs.TopicSizes
open Std PublisherAccounting PublisherCalls QueueContents ReferenceAccounting SubscriberSteps TopicInvariant TopicCalls
  TopicEffects TopicRuns

variable {before after connections : List DataConnection} {subscribers : ExtTreeMap UInt64 SubscriberEnd}
  {publisher next : Publisher} {answers : DiscoveryAnswers}

theorem inherits_map {change : DataConnection → DataConnection}
    (same : ∀ connection ∈ before, connection.endpointId = (change connection).endpointId ∧
      connection.maxMessageSize = (change connection).maxMessageSize) : Inherits before (before.map change) := by
  intro connection present
  obtain ⟨origin, member, rfl⟩ := List.mem_map.mp present
  exact ⟨origin, member, same origin member⟩

theorem arrive_inherits (publisher : Publisher) (endpointId : UInt64) (sent : List SocketEvent) :
    Inherits publisher.connections (publisher.arrive endpointId sent).connections := by
  refine inherits_map fun connection _ => ?_
  split <;> exact ⟨rfl, rfl⟩

def Sized (subscribers : ExtTreeMap UInt64 SubscriberEnd) (connections : List DataConnection) : Prop :=
  ∀ connection ∈ connections, ∀ subscriber, subscribers[connection.endpointId]? = some subscriber →
    connection.maxMessageSize = subscriber.maxMessageSize

theorem Sized.inherits (sized : Sized subscribers before) (inherits : Inherits before after) : Sized subscribers after := by
  intro connection present subscriber found
  obtain ⟨origin, member, endpoint, size⟩ := inherits connection present
  rw [← size]
  exact sized origin member subscriber (endpoint ▸ found)

theorem Sized.insert (sized : Sized subscribers connections) {endpointId : UInt64} {subscriber : SubscriberEnd}
    (kept : ∀ connection ∈ connections, connection.endpointId = endpointId →
      ∃ old, subscribers[endpointId]? = some old ∧ subscriber.maxMessageSize = old.maxMessageSize) :
    Sized (subscribers.insert endpointId subscriber) connections := by
  intro connection present other found
  rcases (lookup_insert _ _ _ _ _).mp found with ⟨same, rfl⟩ | ⟨_, old⟩
  · obtain ⟨old, held, size⟩ := kept connection present same
    rw [size]
    exact sized connection present old (same ▸ held)
  · exact sized connection present other old

/-- The registry lists subscribers with their limits. -/
def ListsLimits (subscribers : ExtTreeMap UInt64 SubscriberEnd) (answers : DiscoveryAnswers) : Prop :=
  ∀ discovery, answers.discovery = .ok discovery → ∀ entry ∈ discovery.subscribers, ∀ subscriber,
    subscribers[entry.endpointId]? = some subscriber → entry.maxMessageSize = subscriber.maxMessageSize

theorem discoveryAnswers_limits (topic : SharedTopic) (answers : RefreshAnswers) :
    ListsLimits topic.subscribers (topic.discoveryAnswers answers) := by
  intro discovery answered entry listed subscriber found
  simp only [SharedTopic.discoveryAnswers] at answered
  split at answered
  · cases answered
  · cases answered
    simp only [SharedTopic.listed, List.mem_map, List.mem_filter] at listed
    obtain ⟨⟨endpointId, other⟩, ⟨present, _⟩, rfl⟩ := listed
    rw [ExtTreeMap.mem_toList_iff_getElem?_eq_some.mp present] at found
    cases found
    rfl

theorem Stage.sized (stage : Stage answers publisher next) (limits : ListsLimits subscribers answers)
    (sized : Sized subscribers publisher.connections) : Sized subscribers next.connections := by
  cases stage with
  | drained => exact sized.inherits (drain_inherits publisher)
  | removed | pruned =>
    refine sized.inherits (inherits_of_subset ?_)
    simp only [Publisher.removeEndpoint, Publisher.dropVanished, dropConnections_kept]
    exact List.filter_sublist.subset
  | joined answered listed =>
    unfold Publisher.connectSubscriber
    split
    · exact sized
    split
    · intro connection present subscriber found
      rcases List.mem_append.mp present with old | added
      · exact sized connection old subscriber found
      · rw [List.mem_singleton.mp added] at found ⊢
        exact limits _ answered _ listed subscriber found
    · exact sized

theorem Calls.sized (calls : Calls answers publisher next) (limits : ListsLimits subscribers answers)
    (sized : Sized subscribers publisher.connections) : Sized subscribers next.connections :=
  Calls.invariant (fun current => Sized subscribers current.connections) calls
    (fun _ _ stage held => Stage.sized stage limits held) sized

def calling : PublisherPhase → Option (Dispatch × DispatchProgress)
  | .idle => none
  | .serving dispatch progress _ | .waiting dispatch progress _ _ | .enqueued dispatch progress _ _ _ =>
    some (dispatch, progress)

structure Fitting (topic : SharedTopic) : Prop where
  sized : Sized topic.subscribers topic.publisher.connections
  negotiated : Negotiated topic.publisher
  fits : ∀ call, calling topic.phase = some call → call.1.payloadSize ≤ topic.publisher.negotiatedMaxMessageSize

variable {topic following : SharedTopic} {losses : List ChunkHandle → Prop} {endpointId : UInt64}
  {subscriber : SubscriberEnd} {event : TopicEvent}

theorem Fitting.limit (fitting : Fitting topic) {call : Dispatch × DispatchProgress} (busy : calling topic.phase = some call)
    (joined : endpointId ∈ endpoints topic.publisher.connections)
    (found : topic.subscribers[endpointId]? = some subscriber) : call.1.payloadSize ≤ subscriber.maxMessageSize := by
  obtain ⟨connection, member, rfl⟩ := List.mem_map.mp joined
  rw [← fitting.sized connection member subscriber found]
  exact UInt64.le_trans (fitting.fits call busy) (fitting.negotiated connection member)

theorem Fitting.update (fitting : Fitting topic) {after : SubscriberEnd}
    (found : topic.subscribers[endpointId]? = some subscriber) (same : after.maxMessageSize = subscriber.maxMessageSize) :
    Sized (topic.subscribers.insert endpointId after) topic.publisher.connections :=
  fitting.sized.insert fun _ _ _ => ⟨subscriber, found, same⟩

theorem begin_fitting (fitting : Fitting topic) {answers : RefreshAnswers} {loans : List ChunkHandle}
    {prepared : (PublishResult ⊕ Dispatch) × Publisher} (idle : topic.phase = .idle)
    (effect : Prepared (topic.discoveryAnswers answers) topic.publisher prepared) :
    Fitting (SharedTopic.begin { topic with loans } prepared) := by
  obtain ⟨middle, calls, same, _⟩ := effect.calls
  have sized : Sized topic.subscribers prepared.2.connections := by
    rw [same]
    exact Calls.sized calls (discoveryAnswers_limits topic answers) fitting.sized
  have negotiated := effect.negotiated fitting.negotiated
  have published := effect.published
  obtain ⟨outcome | dispatch, publisher⟩ := prepared
  · exact ⟨sized, negotiated, by simp [SharedTopic.begin, idle, calling]⟩
  · refine ⟨sized, negotiated, ?_⟩
    rintro call ⟨⟩
    exact (published dispatch rfl).fits

theorem afterEnqueue_fitting {dispatch : Dispatch} {progress : DispatchProgress} {remaining : List UInt64}
    {answer : Option QueueEnqueueResult × SharedSubscriberQueue} (fitting : Fitting topic)
    (found : topic.subscribers[endpointId]? = some subscriber) (busy : calling topic.phase = some (dispatch, progress)) :
    Fitting (topic.afterEnqueue dispatch progress endpointId remaining subscriber answer) := by
  have fits := fitting.fits _ busy
  obtain ⟨result | result, queue⟩ := answer <;>
  · refine ⟨fitting.update found rfl, fitting.negotiated, ?_⟩
    rintro call ⟨⟩
    exact fits

theorem settled_fitting (fitting : Fitting topic) {dispatch : Dispatch} {progress : DispatchProgress}
    {remaining : List UInt64} {result : QueueEnqueueResult} {connection : DataConnection}
    (phase : topic.phase = .enqueued dispatch progress endpointId remaining result)
    (chosen : topic.connection endpointId = some connection) :
    Fitting
      { topic with
        publisher := SharedTopic.replaceConnection topic.publisher
          (settleEnqueue topic.publisher.pool connection dispatch.handle progress result).1
          (settleEnqueue topic.publisher.pool connection dispatch.handle progress result).2.1
        phase := .serving dispatch
          (settleEnqueue topic.publisher.pool connection dispatch.handle progress result).2.2 remaining } := by
  have served := settleEnqueue_connection topic.publisher.pool connection dispatch.handle progress result
  have inherits : Inherits topic.publisher.connections (SharedTopic.replaceConnection topic.publisher
      (settleEnqueue topic.publisher.pool connection dispatch.handle progress result).1
      (settleEnqueue topic.publisher.pool connection dispatch.handle progress result).2.1).connections := by
    intro other present
    obtain ⟨origin, member, rfl⟩ := List.mem_map.mp present
    split
    · exact ⟨connection, (connection_some chosen).1, by rw [served], by rw [served]⟩
    · exact ⟨origin, member, rfl, rfl⟩
  refine ⟨fitting.sized.inherits inherits, negotiated_inherits fitting.negotiated inherits rfl, ?_⟩
  rintro call ⟨⟩
  exact fitting.fits (dispatch, progress) (by rw [phase]; rfl)

theorem finished_fitting (fitting : Fitting topic) (dispatch : Dispatch) (progress : DispatchProgress) :
    Fitting { topic with publisher := (topic.publisher.finishDispatch dispatch progress).2, phase := .idle } := by
  have inherits := inherits_of_subset (@removeEndpoints_subset { topic.publisher with
    pool := (releaseReference topic.publisher.pool dispatch.handle).2, sequence := dispatch.nextSequence }
    progress.failedEndpoints)
  have same : (topic.publisher.finishDispatch dispatch progress).2.negotiatedMaxMessageSize =
      topic.publisher.negotiatedMaxMessageSize :=
    List.foldlRecOn (motive := fun current : Publisher =>
      current.negotiatedMaxMessageSize = topic.publisher.negotiatedMaxMessageSize) progress.failedEndpoints _ rfl
      fun _ kept _ _ => kept
  exact ⟨fitting.sized.inherits inherits, negotiated_inherits fitting.negotiated inherits same, by simp [calling]⟩

theorem step_fitting (tracked : Tracked losses topic) (fitting : Fitting topic) (effect : TopicEffect topic event following) :
    Fitting following := by
  cases effect with
  | subscribed new =>
    refine ⟨fitting.sized.insert ?_, fitting.negotiated, fitting.fits⟩
    intro connection present same
    obtain ⟨holder, held, _⟩ := tracked.covers.covered connection present
    rw [same, new] at held
    cases held
  | @moved endpointId _ _ _ sent found taken =>
    have size := (step_account (tracked.usable _ _ found) taken).maxMessageSize
    have inherits := arrive_inherits topic.publisher endpointId sent
    exact ⟨(fitting.update found size).inherits inherits, negotiated_inherits fitting.negotiated inherits rfl, fitting.fits⟩
  | called _ _ idle effect => exact begin_fitting fitting idle effect.toPrepared
  | @skipped _ _ dispatch progress _ _ _ _ _ phase _ _ =>
    refine ⟨fitting.sized, fitting.negotiated, ?_⟩
    rintro call ⟨⟩
    exact fitting.fits (dispatch, progress) (by rw [phase]; rfl)
  | @offered _ _ _ _ _ _ _ pool _ _ phase _ found _ _ =>
    have reserved : Fitting { topic with publisher.pool := pool } := ⟨fitting.sized, fitting.negotiated, fitting.fits⟩
    exact afterEnqueue_fitting reserved found (by rw [phase]; rfl)
  | resumed phase found _ => exact afterEnqueue_fitting fitting found (by rw [phase]; rfl)
  | settled phase chosen => exact settled_fitting fitting phase chosen
  | finished => exact finished_fitting fitting _ _

theorem move_fitting (tracked : Tracked losses topic) (fitting : Fitting topic) {move : TopicMove}
    (taken : topic.move move = some following) : Fitting following := by
  cases move with
  | event event => exact step_fitting tracked fitting (tracked.effect taken)
  | reset =>
    simp only [SharedTopic.move] at taken
    split at taken
    · cases taken
    next subscriber found =>
      obtain ⟨after, cleared, rfl⟩ := Option.map_eq_some_iff.mp taken
      have account := reset_account (tracked.usable _ _ found) cleared
      exact ⟨fitting.update found account.maxMessageSize, fitting.negotiated, fitting.fits⟩

end RobotMiddleware.Proofs.TopicSizes
