import RobotMiddleware.Proofs.TopicCalls
import RobotMiddleware.Proofs.TopicEffects

/-! Runs of a shared topic. In every state that a topic can reach, also in the
middle of a dispatch, the accounts of the pool are right and every obligation of
every connection has its place. Resets of the queues lose obligations, but every
handle that is still there stays an obligation of its connection. -/

namespace RobotMiddleware.Proofs.TopicRuns
open Std PublishedContents QueueRefinement QueueContents ReferenceAccounting PublisherAccounting ReleaseChannel SubscriberSteps
  TopicInvariant TopicCalls TopicEffects

/-- The references that the publisher's call itself holds: the guard, and the
tentative reference while an enqueue is not settled. -/
def guards : PublisherPhase → List ChunkHandle
  | .idle => []
  | .serving dispatch _ _ => [dispatch.handle]
  | .waiting dispatch _ _ _ => [dispatch.handle, dispatch.handle]
  | .enqueued dispatch _ _ _ _ => [dispatch.handle, dispatch.handle]

/-- What a connection owes once the answer of an enqueue is settled. -/
def settledOutstanding (outstanding : List ChunkHandle) (handle : ChunkHandle) (result : QueueEnqueueResult) :
    List ChunkHandle :=
  if result.status = .accepted then
    match result.droppedOldest with
    | none => outstanding ++ [handle]
    | some dropped => (outstanding ++ [handle]).erase dropped
  else outstanding

def dueOn (phase : PublisherPhase) (connection : DataConnection) : List ChunkHandle :=
  match phase with
  | .enqueued dispatch _ endpointId _ result =>
    if connection.endpointId = endpointId then settledOutstanding connection.outstanding dispatch.handle result
    else connection.outstanding
  | _ => connection.outstanding

/-- The endpoint fails when this answer is settled. -/
def fails (result : QueueEnqueueResult) : Bool := result.status == .closed || result.status == .notificationFailed

def failing : PublisherPhase → List UInt64
  | .idle => []
  | .serving _ progress _ => progress.failedEndpoints
  | .waiting _ progress _ _ => progress.failedEndpoints
  | .enqueued _ progress endpointId _ result => progress.failedEndpoints ++ (if fails result then [endpointId] else [])

def current : PublisherPhase → List UInt64
  | .waiting _ _ endpointId _ => [endpointId]
  | .enqueued _ _ endpointId _ _ => [endpointId]
  | _ => []

def AllGone (subscribers : ExtTreeMap UInt64 SubscriberEnd) (endpointIds : List UInt64) : Prop :=
  ∀ endpointId ∈ endpointIds, ∃ subscriber, subscribers[endpointId]? = some subscriber ∧ subscriber.alive = false

/-- Nothing is lost. -/
def Lossless (losses : List ChunkHandle → Prop) : Prop := ∀ lost, losses lost → lost = []

/-- As long as nothing is lost, every queue works. -/
structure Tracked (losses : List ChunkHandle → Prop) (topic : SharedTopic) : Prop where
  settled : Settled topic.publisher (guards topic.phase) topic.loans
  covers : Covers losses topic.subscribers topic.publisher.connections (dueOn topic.phase)
  usable : AllUsable (Lossless losses) topic.subscribers
  gone : AllGone topic.subscribers (failing topic.phase)
  busy : ∀ endpointId ∈ current topic.phase, endpointId ∈ endpoints topic.publisher.connections

/-- While no queue is reset, nothing is lost. -/
abbrev Inv := Tracked (· = [])

variable {topic next : SharedTopic} {endpointId : UInt64} {subscriber after : SubscriberEnd}
  {subscribers : ExtTreeMap UInt64 SubscriberEnd} {losses : List ChunkHandle → Prop} {event : TopicEvent}

theorem allGone_nil : AllGone subscribers [] := fun _ present => absurd present List.not_mem_nil

theorem AllGone.insert {endpointIds : List UInt64} (gone : AllGone subscribers endpointIds)
    (kept : ∀ other, subscribers[endpointId]? = some other → other.alive = false → after.alive = false) :
    AllGone (subscribers.insert endpointId after) endpointIds := by
  intro id present
  obtain ⟨other, held, dead⟩ := gone id present
  by_cases same : id = endpointId
  · subst id
    exact ⟨after, (lookup_insert _ _ _ _ _).mpr (.inl ⟨rfl, rfl⟩), kept other held dead⟩
  · exact ⟨other, (lookup_insert _ _ _ _ _).mpr (.inr ⟨same, held⟩), dead⟩

/-- The subscriber that is there gets a new state and does not come back to life. -/
theorem AllGone.update {endpointIds : List UInt64} (gone : AllGone subscribers endpointIds)
    (found : subscribers[endpointId]? = some subscriber) (kept : subscriber.alive = false → after.alive = false) :
    AllGone (subscribers.insert endpointId after) endpointIds := by
  refine gone.insert fun other held dead => kept ?_
  rw [found] at held
  cases held
  exact dead

theorem inv_initial {publisher : Publisher} (settled : Settled publisher [] []) (none : publisher.connections = []) :
    Inv { publisher } := by
  refine ⟨settled, ⟨?_, ?_⟩, ?_, allGone_nil, by simp [current]⟩
  · simp [none]
  · simp
  · simp [AllUsable]

theorem subscribed_tracked (tracked : Tracked losses topic) {descriptor : QueueDescriptor} {maxMessageSize : UInt64}
    {queue : SharedSubscriberQueue} (new : topic.subscribers[endpointId]? = none)
    (created : SharedSubscriberQueue.create descriptor = .ok queue) :
    Tracked losses
      { topic with subscribers := topic.subscribers.insert endpointId { descriptor, maxMessageSize, queue } } := by
  obtain ⟨working, opened⟩ := create_working created
  have empty := working.stored
  have absent (other : SubscriberEnd) (held : topic.subscribers[endpointId]? = some other) : False := by
    rw [new] at held
    cases held
  refine ⟨tracked.settled, tracked.covers.insert ?_ (fun _ _ _ => rfl) ?_, tracked.usable.insert _ ?_,
    tracked.gone.insert fun other held => (absent other held).elim, tracked.busy⟩
  · intro connection present same
    obtain ⟨holder, held, _⟩ := tracked.covers.covered connection present
    exact (absent holder (same ▸ held)).elim
  · exact fun _ _ => ⟨empty, rfl, rfl, rfl⟩
  · exact ⟨by rw [empty]; exact working.weaken fun _ => trivial, fun _ => ⟨rfl, opened⟩⟩

theorem dueOn_incoming (phase : PublisherPhase) (connection : DataConnection) (incoming : List SocketEvent) :
    dueOn phase { connection with incoming } = dueOn phase connection := by
  cases phase <;> rfl

theorem connected_iff (topic : SharedTopic) (endpointId : UInt64) :
    connected topic endpointId = true ↔ endpointId ∈ endpoints topic.publisher.connections := by
  simp [connected, endpoints]

/-- A subscriber's step moves handles on its own connection only. -/
theorem moved_tracked (tracked : Tracked losses topic) {sent : List SocketEvent}
    (found : topic.subscribers[endpointId]? = some subscriber)
    (account : StepAccount (Lossless losses) (connected topic endpointId) subscriber after sent) :
    Tracked losses
      { topic with
        subscribers := topic.subscribers.insert endpointId after
        publisher := topic.publisher.arrive endpointId sent } := by
  refine ⟨arrive_settled tracked.settled endpointId sent, ⟨?_, ?_⟩, tracked.usable.insert _ account.usable,
    tracked.gone.update found account.gone, by rw [arrive_endpoints]; exact tracked.busy⟩
  · intro connection present
    obtain ⟨origin, member, rfl⟩ := List.mem_map.mp present
    obtain ⟨holder, held, lost, allowed, covered⟩ := tracked.covers.covered origin member
    by_cases same : origin.endpointId = endpointId
    · rw [(connected_iff topic endpointId).mpr (List.mem_map.mpr ⟨origin, member, same⟩)] at account
      rw [same, found] at held
      cases held
      rw [if_pos same]
      refine ⟨after, (lookup_insert _ _ _ _ _).mpr (.inl ⟨same, rfl⟩), lost, allowed, ?_⟩
      rw [dueOn_incoming]
      exact covered.step account
    · rw [if_neg same]
      exact ⟨holder, (lookup_insert _ _ _ _ _).mpr (.inr ⟨same, held⟩), lost, allowed, covered⟩
  · intro id other present alive outside
    rw [arrive_endpoints] at outside
    rcases (lookup_insert _ _ _ _ _).mp present with ⟨rfl, rfl⟩ | ⟨_, old⟩
    · have apart : connected topic id = false := by
        rw [Bool.eq_false_iff, ne_eq, connected_iff]
        exact outside
      have was : subscriber.alive = true := by
        by_contra dead
        rw [account.gone (by simpa using dead)] at alive
        cases alive
      exact account.fresh apart (tracked.covers.untouched id subscriber found was outside) alive
    · exact tracked.covers.untouched id other old alive outside

/-- The registry lists the registered subscribers, and only one that is alive can
be reached. -/
theorem discoveryAnswers_answers (topic : SharedTopic) (answers : RefreshAnswers) :
    Answers topic.subscribers (topic.discoveryAnswers answers) := by
  refine ⟨rfl, ?_, ?_⟩
  · intro discovery answered endpointId subscriber found registered
    simp only [SharedTopic.discoveryAnswers] at answered
    split at answered
    · cases answered
    · cases answered
      simp only [SharedTopic.listed, List.map_map, List.mem_map, List.mem_filter]
      exact ⟨(endpointId, subscriber), ⟨ExtTreeMap.mem_toList_iff_getElem?_eq_some.mpr found, registered⟩, rfl⟩
  · intro endpointId connects
    simp only [SharedTopic.discoveryAnswers, SharedTopic.reachable, Bool.and_eq_true, Option.any_eq_true] at connects
    obtain ⟨_, subscriber, found, alive⟩ := connects
    exact ⟨subscriber, found, alive⟩

theorem Tracked.idle (tracked : Tracked losses topic) (idle : topic.phase = .idle) :
    Settled topic.publisher [] topic.loans ∧
      Covers losses topic.subscribers topic.publisher.connections (·.outstanding) := by
  have settled := tracked.settled
  have covers := tracked.covers
  rw [idle] at settled covers
  exact ⟨settled, covers⟩

/-- A state between two calls that differs on the publisher's side only. -/
theorem Tracked.between (tracked : Tracked losses topic) (idle : next.phase = .idle)
    (same : next.subscribers = topic.subscribers) (settled : Settled next.publisher [] next.loans)
    (covers : Covers losses next.subscribers next.publisher.connections (·.outstanding)) : Tracked losses next := by
  refine ⟨?_, ?_, by rw [same]; exact tracked.usable, by rw [idle]; exact allGone_nil, by simp [idle, current]⟩
  · rw [idle]
    exact settled
  · rw [idle]
    exact covers

theorem begin_tracked (tracked : Tracked losses topic) {prepared : (PublishResult ⊕ Dispatch) × Publisher}
    {loans : List ChunkHandle} (settled : Settled prepared.2 (guardOf prepared.1) loans)
    (covers : Covers losses topic.subscribers prepared.2.connections (·.outstanding)) (idle : topic.phase = .idle) :
    Tracked losses (SharedTopic.begin { topic with loans } prepared) := by
  obtain ⟨outcome, publisher⟩ := prepared
  cases outcome with
  | inl => exact tracked.between idle rfl settled covers
  | inr => exact ⟨settled, covers, tracked.usable, allGone_nil, by simp [SharedTopic.begin, current]⟩

variable {connection : DataConnection} {handle : ChunkHandle} {dispatch : Dispatch} {remaining : List UInt64}
  {progress : DispatchProgress} {pool : MemoryPool}

theorem connection_some (found : topic.connection endpointId = some connection) :
    connection ∈ topic.publisher.connections ∧ connection.endpointId = endpointId := by
  refine ⟨List.mem_of_find?_eq_some found, ?_⟩
  simpa using List.find?_some found

theorem enqueue_covered {notify : Option Bool} {queue : SharedSubscriberQueue} {result : QueueEnqueueResult} {lost rest : List ChunkHandle} {wakes : Nat}
    (covered : Covered lost connection.outstanding connection subscriber) (after : stored queue = rest)
    (enqueued : Enqueued (stored subscriber.queue) handle notify result rest) :
    Covered lost (settledOutstanding connection.outstanding handle result) connection
      { subscriber with queue, unreadWakes := wakes } := by
  obtain ⟨releases, read, balance⟩ := covered.balance
  refine ⟨⟨releases, read, ?_⟩, covered.short, covered.intact, covered.ended⟩
  have content := enqueued.content
  unfold settledOutstanding
  simp only [burden, after] at balance ⊢
  split at content
  next accepted =>
    rw [if_pos accepted]
    have grown : (connection.outstanding ++ [handle]).Perm
        (result.droppedOldest.toList ++ (rest ++ subscriber.inHand ++ subscriber.views ++ lost ++ releases)) := by
      refine (balance.append_right [handle]).trans ?_
      simp only [← List.append_assoc, content]
      simp only [List.append_assoc]
      refine List.Perm.append_left _ ?_
      simp only [← List.append_assoc]
      exact List.perm_append_singleton _ _
    cases dropped : result.droppedOldest with
    | none =>
      rw [dropped] at grown
      exact grown
    | some oldest =>
      rw [dropped] at grown
      simpa using grown.erase oldest
  next refused =>
    rw [if_neg refused, content]
    exact balance

/-- An enqueue changes the queue of one subscriber, and the Wakes that it has to read. -/
theorem afterEnqueue_subscribers (topic : SharedTopic) (dispatch : Dispatch) (progress : DispatchProgress)
    (endpointId : UInt64) (remaining : List UInt64) (subscriber : SubscriberEnd)
    (answer : Option QueueEnqueueResult × SharedSubscriberQueue) :
    ∃ wakes, (topic.afterEnqueue dispatch progress endpointId remaining subscriber answer).subscribers =
      topic.subscribers.insert endpointId { subscriber with queue := answer.2, unreadWakes := wakes } := by
  obtain ⟨result | result, queue⟩ := answer <;> exact ⟨_, rfl⟩

/-- Going on after an enqueue or after the return of a wait in it. -/
theorem afterEnqueue_tracked
    {notified : Bool} {answer : Option QueueEnqueueResult × SharedSubscriberQueue}
    (inside : Tracked losses { topic with phase := .waiting dispatch progress endpointId remaining })
    (found : topic.subscribers[endpointId]? = some subscriber) (sent : subscriber.alive = true → notified = true)
    (answered : ∃ after, Answered (stored subscriber.queue) dispatch.handle (some notified) answer.1 after ∧
      Has (Lossless losses) answer.2 after) (tells : TellsClosed subscriber.queue answer) :
    Tracked losses (topic.afterEnqueue dispatch progress endpointId remaining subscriber answer) := by
  obtain ⟨settled, covers, usable, gone, busy⟩ := inside
  have own := usable endpointId subscriber found
  obtain ⟨after, outcome, next⟩ := answered
  have joined : endpointId ∈ endpoints topic.publisher.connections := busy endpointId (by simp [current])
  have account (connection : DataConnection) (present : connection ∈ topic.publisher.connections)
      (same : connection.endpointId = endpointId) :
      ∃ lost, losses lost ∧ Covered lost connection.outstanding connection subscriber :=
    covers.own present (same ▸ found)
  have live (wakes : Nat) : Usable (Lossless losses) { subscriber with queue := answer.2, unreadWakes := wakes } :=
    own.requeue next (fun _ => tells.1) fun alive => ⟨alive, rfl⟩
  obtain ⟨result, queue⟩ := answer
  cases result with
  | none =>
    refine ⟨settled, covers.insert ?_ (fun _ _ _ => rfl) (fun _ outside => absurd joined outside),
      usable.insert _ (live _), gone.update found id, ?_⟩
    · intro connection present same
      obtain ⟨lost, allowed, ⟨releases, read, balance⟩, short, intact, ended⟩ := account connection present same
      have unchanged : after = stored subscriber.queue := outcome
      refine ⟨lost, allowed, ⟨releases, read, balance.trans (.of_eq ?_)⟩, short, intact, ended⟩
      simp only [burden, next.stored, unchanged]
    · simpa [SharedTopic.afterEnqueue, current] using joined
  | some result =>
    refine ⟨settled, covers.insert ?_ ?_ (fun _ outside => absurd joined outside), usable.insert _ (live _), ?_, ?_⟩
    · intro connection present same
      obtain ⟨lost, allowed, covered⟩ := account connection present same
      simp only [SharedTopic.afterEnqueue, dueOn, if_pos same]
      exact ⟨lost, allowed, enqueue_covered covered next.stored outcome⟩
    · intro connection present different
      simp only [SharedTopic.afterEnqueue, dueOn, if_neg different]
    · -- a closed queue or a failed Wake means that the subscriber is gone
      have lost : fails result = true → subscriber.alive = false := by
        intro failed
        by_contra alive
        have alive : subscriber.alive = true := by simpa using alive
        simp only [fails, Bool.or_eq_true, beq_iff_eq] at failed
        rcases failed with closing | unsent
        · have closed := tells.2 result rfl closing
          rw [(own.live alive).2] at closed
          cases closed
        · have failed := outcome.unsent unsent
          rw [sent alive] at failed
          cases failed
      have kept : AllGone (topic.updateQueue endpointId subscriber queue result.notificationSent) progress.failedEndpoints :=
        gone.update found id
      intro id present
      simp only [SharedTopic.afterEnqueue, failing, List.mem_append] at present
      rcases present with earlier | now
      · exact kept id earlier
      · split at now
        next failed =>
          rw [List.mem_singleton.mp now]
          exact ⟨_, (lookup_insert _ _ _ _ _).mpr (.inl ⟨rfl, rfl⟩), lost failed⟩
        next => cases now
    · simpa [SharedTopic.afterEnqueue, current] using joined

theorem DispatchProgress.note_failed (progress : DispatchProgress) (failure : ErrorCode) :
    (progress.note failure).failedEndpoints = progress.failedEndpoints := by
  unfold DispatchProgress.note
  split <;> rfl

theorem offerReference_skips {after : MemoryPool} {limit : UInt64} {noted : DispatchProgress}
    (skips : offerReference pool limit connection handle progress = (after, .inl noted)) :
    ∃ failure, noted = progress.note failure := by
  unfold offerReference at skips
  split at skips
  · cases skips; exact ⟨_, rfl⟩
  split at skips
  · cases skips; exact ⟨_, rfl⟩
  split at skips
  · split at skips
    · cases skips; exact ⟨_, rfl⟩
    · cases skips
  · cases skips; exact ⟨_, rfl⟩

theorem skipped_tracked (tracked : Tracked losses topic) {noted : DispatchProgress}
    (phase : topic.phase = .serving dispatch progress (endpointId :: remaining))
    (skips : offerReference topic.publisher.pool (outstandingLimit topic.publisher.config.memoryPool) connection
      dispatch.handle progress = (pool, .inl noted)) :
    Tracked losses { topic with publisher.pool := pool, phase := .serving dispatch noted remaining } := by
  obtain ⟨settled, covers, usable, gone, _⟩ := tracked
  rw [phase] at settled covers gone
  have offered := offerReference_kept settled.accounted (outstandingLimit topic.publisher.config.memoryPool) connection
    dispatch.handle progress
  rw [skips] at offered
  obtain ⟨failure, rfl⟩ := offerReference_skips skips
  refine ⟨settled.withPool offered.accounted, covers, usable, ?_, by simp [current]⟩
  simp only [failing, DispatchProgress.note_failed]
  exact gone

theorem offered_tracked (tracked : Tracked losses topic) {wake : Bytes}
    (phase : topic.phase = .serving dispatch progress (endpointId :: remaining))
    (chosen : topic.connection endpointId = some connection)
    (offers : offerReference topic.publisher.pool (outstandingLimit topic.publisher.config.memoryPool) connection
      dispatch.handle progress = (pool, .inr wake)) :
    Tracked losses { topic with publisher.pool := pool, phase := .waiting dispatch progress endpointId remaining } := by
  obtain ⟨settled, covers, usable, gone, _⟩ := tracked
  rw [phase] at settled covers gone
  obtain ⟨present, same⟩ := connection_some chosen
  have offered := offerReference_kept settled.accounted (outstandingLimit topic.publisher.config.memoryPool) connection
    dispatch.handle progress
  rw [offers] at offered
  refine ⟨settled.withPool (offered.accounted.perm List.perm_middle.symm), covers, usable, gone, ?_⟩
  intro id member
  rw [List.mem_singleton.mp member]
  exact List.mem_map.mpr ⟨connection, present, same⟩

theorem settleEnqueue_connection (pool : MemoryPool) (connection : DataConnection) (handle : ChunkHandle)
    (progress : DispatchProgress) (result : QueueEnqueueResult) :
    (settleEnqueue pool connection handle progress result).2.1 =
      { connection with outstanding := settledOutstanding connection.outstanding handle result } := by
  unfold settleEnqueue settledOutstanding
  simp only
  split
  next accepted =>
    rw [if_pos accepted]
    cases result.droppedOldest with
    | none => rfl
    | some =>
      simp only [releaseOutstanding]
      split
      · rfl
      next absent => rw [List.erase_of_not_mem absent]
  all_goals
    next refused => simp [refused]

theorem settleEnqueue_failed (pool : MemoryPool) (connection : DataConnection) (handle : ChunkHandle)
    (progress : DispatchProgress) (result : QueueEnqueueResult) :
    (settleEnqueue pool connection handle progress result).2.2.failedEndpoints =
      progress.failedEndpoints ++ (if fails result then [connection.endpointId] else []) := by
  have blocked : (if result.blocked then
      { progress with
        result.blockedCount := progress.result.blockedCount + 1
        result.blockedTimeNs := progress.result.blockedTimeNs + result.blockedTimeNs }
      else progress).failedEndpoints = progress.failedEndpoints := by
    split <;> rfl
  unfold settleEnqueue
  simp only
  split
  next accepted => split <;> simp [fails, accepted, blocked]
  all_goals
    next refused => simp [fails, refused, DispatchProgress.note_failed, blocked]

private theorem replace_absent {connections : List DataConnection} {served : DataConnection}
    (absent : served.endpointId ∉ endpoints connections) :
    (connections.map fun other => if other.endpointId = served.endpointId then served else other) = connections := by
  refine (List.map_congr_left ?_).trans (List.map_id connections)
  intro other member
  refine if_neg fun same => absent ?_
  exact List.mem_map.mpr ⟨other, member, same⟩

private theorem replace_split {connections : List DataConnection} (distinct : (endpoints connections).Nodup)
    {served : DataConnection} (present : connection ∈ connections) (same : served.endpointId = connection.endpointId) :
    ∃ before after, connections = before ++ connection :: after ∧
      (connections.map fun other => if other.endpointId = served.endpointId then served else other) =
        before ++ served :: after := by
  obtain ⟨before, after, rfl⟩ := List.append_of_mem present
  refine ⟨before, after, rfl, ?_⟩
  simp only [endpoints, List.map_append, List.map_cons] at distinct
  have apart := List.nodup_append.mp distinct
  have rest := List.nodup_cons.mp apart.2.1
  rw [List.map_append, List.map_cons, if_pos same.symm, replace_absent, replace_absent]
  · rw [same]
    exact rest.1
  · rw [same]
    exact fun member => apart.2.2 _ member _ List.mem_cons_self rfl

private theorem owed_middle (before after : List DataConnection) (connection : DataConnection) (extra : List ChunkHandle) :
    (owed (before ++ connection :: after) ++ extra).Perm
      (connection.outstanding ++ (owed before ++ owed after ++ extra)) := by
  rw [List.perm_iff_count]
  intro handle
  simp only [owed, List.flatMap_append, List.flatMap_cons, List.count_append]
  omega

theorem replaceConnection_endpoints (publisher : Publisher) (pool : MemoryPool) (connection : DataConnection) :
    endpoints (SharedTopic.replaceConnection publisher pool connection).connections = endpoints publisher.connections := by
  simp only [endpoints, SharedTopic.replaceConnection, List.map_map]
  refine List.map_congr_left fun other _ => ?_
  simp only [Function.comp_apply]
  split
  next same => exact same.symm
  next => rfl

/-- The tentative reference passes to the connection or goes back. -/
theorem settle_kept (tracked : Tracked losses topic) {result : QueueEnqueueResult}
    (phase : topic.phase = .enqueued dispatch progress endpointId remaining result)
    (chosen : topic.connection endpointId = some connection) :
    Kept topic.publisher.pool (settleEnqueue topic.publisher.pool connection dispatch.handle progress result).1
      (owed (SharedTopic.replaceConnection topic.publisher
        (settleEnqueue topic.publisher.pool connection dispatch.handle progress result).1
        (settleEnqueue topic.publisher.pool connection dispatch.handle progress result).2.1).connections ++
          [dispatch.handle]) topic.loans := by
  have accounted := tracked.settled.accounted
  obtain ⟨before, after, split, replaced⟩ := replace_split tracked.settled.distinct (connection_some chosen).1
    (settleEnqueue_endpoint topic.publisher.pool connection dispatch.handle progress result)
  rw [phase, split] at accounted
  have front := (owed_middle before after connection [dispatch.handle, dispatch.handle]).trans
    ((List.perm_middle.append_left _).trans List.perm_middle)
  have moved := settleEnqueue_kept (accounted.perm front) progress result
  simp only [SharedTopic.replaceConnection, replaced]
  exact moved.perm (owed_middle _ _ _ _).symm

theorem settled_tracked (tracked : Tracked losses topic) {result : QueueEnqueueResult}
    (phase : topic.phase = .enqueued dispatch progress endpointId remaining result)
    (chosen : topic.connection endpointId = some connection) :
    Tracked losses
      { topic with
        publisher := SharedTopic.replaceConnection topic.publisher
          (settleEnqueue topic.publisher.pool connection dispatch.handle progress result).1
          (settleEnqueue topic.publisher.pool connection dispatch.handle progress result).2.1
        phase := .serving dispatch
          (settleEnqueue topic.publisher.pool connection dispatch.handle progress result).2.2 remaining } := by
  have kept := settle_kept tracked phase chosen
  obtain ⟨settled, covers, usable, gone, _⟩ := tracked
  rw [phase] at settled covers gone
  obtain ⟨present, same⟩ := connection_some chosen
  have served := settleEnqueue_connection topic.publisher.pool connection dispatch.handle progress result
  have failed := settleEnqueue_failed topic.publisher.pool connection dispatch.handle progress result
  have names := replaceConnection_endpoints topic.publisher
    (settleEnqueue topic.publisher.pool connection dispatch.handle progress result).1
    (settleEnqueue topic.publisher.pool connection dispatch.handle progress result).2.1
  refine ⟨⟨kept.accounted, ?_, ?_⟩, ⟨?_, ?_⟩, usable, ?_, by simp [current]⟩
  · rw [names]
    exact settled.distinct
  · rw [names]
    exact settled.current
  · intro other member
    obtain ⟨origin, old, rfl⟩ := List.mem_map.mp member
    split
    next own =>
      obtain ⟨subscriber, found, lost, allowed, covered⟩ := covers.covered connection present
      rw [dueOn, if_pos same] at covered
      rw [served]
      exact ⟨subscriber, found, lost, allowed, covered.balance, covered.short, covered.intact, covered.ended⟩
    next different =>
      rw [settleEnqueue_endpoint, same] at different
      obtain ⟨subscriber, found, lost, allowed, covered⟩ := covers.covered origin old
      rw [dueOn, if_neg different] at covered
      exact ⟨subscriber, found, lost, allowed, covered⟩
  · rw [names]
    exact covers.untouched
  · simp only [failing, failed, same]
    exact gone

theorem finished_tracked (tracked : Tracked losses topic) (phase : topic.phase = .serving dispatch progress []) :
    Tracked losses { topic with publisher := (topic.publisher.finishDispatch dispatch progress).2, phase := .idle } := by
  have settled := tracked.settled
  have covers := tracked.covers
  have gone := tracked.gone
  rw [phase] at settled covers gone
  refine tracked.between rfl rfl ((finishDispatch_continues settled progress).settled) ?_
  have base : Covers losses topic.subscribers { topic.publisher with
      pool := (releaseReference topic.publisher.pool dispatch.handle).2
      sequence := dispatch.nextSequence }.connections (·.outstanding) := covers
  refine removeEndpoints_covers base ?_
  intro endpointId present subscriber found
  obtain ⟨other, held, dead⟩ := gone endpointId present
  rw [found] at held
  cases held
  exact dead

theorem step_tracked (none : losses []) (tracked : Tracked losses topic) (effect : TopicEffect topic event next) :
    Tracked losses next := by
  cases effect with
  | subscribed new created => exact subscribed_tracked tracked new created
  | moved found taken => exact moved_tracked tracked found (step_account (tracked.usable _ _ found) taken)
  | called _ _ idle effect =>
    obtain ⟨accounts, covers⟩ := tracked.idle idle
    have rejoined := Prepared.rejoined covers (discoveryAnswers_answers topic _) none tracked.usable accounts effect.toPrepared
    exact begin_tracked tracked effect.settled rejoined.covers idle
  | skipped phase _ skips => exact skipped_tracked tracked phase skips
  | offered phase chosen found offers sent =>
    exact afterEnqueue_tracked (offered_tracked tracked phase chosen offers) found sent
      ((tracked.usable _ _ found).held.enqueue _ _ _) (enqueue_tellsClosed _ _ _ _)
  | resumed phase found sent =>
    refine afterEnqueue_tracked ?_ found sent ((tracked.usable _ _ found).held.resumeEnqueue _ _ _ _ _)
      (resumeEnqueue_tellsClosed _ _ _ _ _ _)
    rw [← phase]
    exact tracked
  | settled phase chosen => exact settled_tracked tracked phase chosen
  | finished phase => exact finished_tracked tracked phase

theorem reset_tracked (tracked : Tracked (fun _ => True) topic) {reset : QueueReset}
    (found : topic.subscribers[endpointId]? = some subscriber) (taken : subscriber.reset reset = some after) :
    Tracked (fun _ => True) { topic with subscribers := topic.subscribers.insert endpointId after } := by
  have account := reset_account (tracked.usable _ _ found) taken
  have lossy (none : Lossless fun _ => True) : False := List.cons_ne_nil _ _ (none [default] trivial)
  refine ⟨tracked.settled, tracked.covers.insert ?_ (fun _ _ _ => rfl) ?_,
    tracked.usable.insert _ ⟨account.usable.held.weaken lossy, account.usable.live⟩,
    tracked.gone.update found account.gone, tracked.busy⟩
  · intro connection present same
    obtain ⟨lost, _, covered⟩ := tracked.covers.own present (same ▸ found)
    obtain ⟨more, covered⟩ := covered.reset account
    exact ⟨more, trivial, covered⟩
  · intro alive outside
    have was : subscriber.alive = true := by
      by_contra dead
      rw [account.gone (by simpa using dead)] at alive
      cases alive
    obtain ⟨empty, idle, unseen, waiting⟩ := tracked.covers.untouched _ _ found was outside
    refine ⟨?_, account.inHand.trans idle, account.views.trans unseen, account.accepted.trans waiting⟩
    exact List.sublist_nil.mp (empty ▸ account.fewer)

/-- What is due on a connection is outstanding there, or held by the call. -/
theorem dueOn_subset (phase : PublisherPhase) (connection : DataConnection) :
    dueOn phase connection ⊆ connection.outstanding ++ guards phase := by
  intro handle due
  cases phase with
  | idle | serving | waiting => exact List.mem_append_left _ due
  | enqueued dispatch =>
    simp only [dueOn, settledOutstanding] at due
    have added : handle ∈ connection.outstanding ++ [dispatch.handle] := by
      split at due
      · split at due
        · split at due
          · exact due
          · exact List.mem_of_mem_erase due
        · exact List.mem_append_left _ due
      · exact List.mem_append_left _ due
    rcases List.mem_append.mp added with old | new
    · exact List.mem_append_left _ old
    · exact List.mem_append_right _ (by simpa [guards] using new)

/-- What a connected subscriber has to give back is counted by the pool. -/
theorem Tracked.counted (tracked : Tracked losses topic)
    (member : connection ∈ topic.publisher.connections) (found : topic.subscribers[connection.endpointId]? = some subscriber)
    (present : handle ∈ burden subscriber) : handle ∈ owed topic.publisher.connections ++ guards topic.phase := by
  obtain ⟨lost, _, ⟨releases, _, balance⟩, _⟩ := tracked.covers.own member found
  have due : handle ∈ dueOn topic.phase connection :=
    balance.mem_iff.mpr (List.mem_append_left _ (List.mem_append_left _ present))
  rcases List.mem_append.mp (dueOn_subset topic.phase connection due) with owing | guarded
  · exact List.mem_append_left _ (List.mem_flatMap.mpr ⟨connection, member, owing⟩)
  · exact List.mem_append_right _ guarded

theorem step_inv (inv : Inv topic) (effect : TopicEffect topic event next) : Inv next := step_tracked rfl inv effect

/-- While no owner of the mutex has died, what is stored is what the ring holds. -/
theorem Inv.stored (inv : Inv topic) (found : topic.subscribers[endpointId]? = some subscriber) :
    stored subscriber.queue = contents subscriber.queue :=
  ((inv.usable _ _ found).held.weaken fun _ _ => id).contents.symm

theorem Tracked.effect (tracked : Tracked losses topic) (taken : topic.step event = some next) : TopicEffect topic event next :=
  TopicEffects.step_effect (fun idle => (tracked.idle idle).1) taken

theorem move_tracked (tracked : Tracked (fun _ => True) topic) {move : TopicMove} (taken : topic.move move = some next) :
    Tracked (fun _ => True) next := by
  cases move with
  | event event => exact step_tracked trivial tracked (tracked.effect taken)
  | reset =>
    simp only [SharedTopic.move] at taken
    split at taken
    · cases taken
    next subscriber found =>
      obtain ⟨after, cleared, rfl⟩ := Option.map_eq_some_iff.mp taken
      exact reset_tracked tracked found cleared

end RobotMiddleware.Proofs.TopicRuns
