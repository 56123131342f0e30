import RobotMiddleware.Proofs.PublishedContents

/-! The publisher's accounts. Between two steps of a call every reference that the
pool counts is either owed by a connection or is a guard that the call itself
still holds. -/

namespace RobotMiddleware.Proofs.PublisherAccounting
open Std MemoryPool ReferenceAccounting PoolLifecycle PublishedContents

def owed (connections : List DataConnection) : List ChunkHandle := connections.flatMap (·.outstanding)

def endpoints (connections : List DataConnection) : List UInt64 := connections.map (·.endpointId)

variable {pool : MemoryPool} {connection : DataConnection} {connections : List DataConnection} {handle : ChunkHandle}
  {extra loans : List ChunkHandle} {progress : DispatchProgress}

@[simp] theorem owed_cons (connection : DataConnection) (connections : List DataConnection) :
    owed (connection :: connections) = connection.outstanding ++ owed connections := by
  simp [owed]

@[simp] theorem endpoints_cons (connection : DataConnection) (connections : List DataConnection) :
    endpoints (connection :: connections) = connection.endpointId :: endpoints connections := rfl

/-- Move the part of a list that a recursive call does not touch behind it. -/
private theorem front_behind (front middle last : List ChunkHandle) :
    (front ++ middle ++ last).Perm (middle ++ (front ++ last)) := by
  rw [List.append_assoc]
  exact List.perm_append_comm_assoc front middle last

theorem releaseOutstanding_frame (pool : MemoryPool) (connection : DataConnection) (handle : ChunkHandle) :
    (releaseOutstanding pool connection handle).2.endpointId = connection.endpointId ∧
      (releaseOutstanding pool connection handle).2.maxMessageSize = connection.maxMessageSize ∧
      (releaseOutstanding pool connection handle).2.outstanding.Sublist connection.outstanding := by
  unfold releaseOutstanding
  split
  · exact ⟨rfl, rfl, List.erase_sublist⟩
  · exact ⟨rfl, rfl, .refl _⟩

@[simp] theorem releaseOutstanding_endpoint (pool : MemoryPool) (connection : DataConnection) (handle : ChunkHandle) :
    (releaseOutstanding pool connection handle).2.endpointId = connection.endpointId :=
  (releaseOutstanding_frame pool connection handle).1

theorem releaseOutstanding_kept (connection : DataConnection)
    (accounted : Accounted pool (connection.outstanding ++ extra) loans) (handle : ChunkHandle) :
    Kept pool (releaseOutstanding pool connection handle).1
      ((releaseOutstanding pool connection handle).2.outstanding ++ extra) loans := by
  unfold releaseOutstanding
  split
  next present =>
    have front := (List.perm_cons_erase present).append_right extra
    exact kept_release (accounted.perm front)
  next => exact .refl accounted

theorem receiveReleases_frame (pool : MemoryPool) (connection : DataConnection) (events : List SocketEvent) :
    (receiveReleases pool connection events).2.2.endpointId = connection.endpointId ∧
      (receiveReleases pool connection events).2.2.maxMessageSize = connection.maxMessageSize ∧
      (receiveReleases pool connection events).2.2.outstanding.Sublist connection.outstanding := by
  fun_induction receiveReleases pool connection events with
  | case1 | case2 | case3 | case4 | case7 => exact ⟨rfl, rfl, .refl _⟩
  | case5 _ _ _ step => exact step
  | case6 _ _ _ _ _ _ step => exact step
  | case8 pool connection value rest buffer full emptied handle decoded after updated result step =>
    have kept := releaseOutstanding_frame pool emptied handle
    rw [result] at kept
    exact ⟨step.1.trans kept.1, step.2.1.trans kept.2.1, step.2.2.trans kept.2.2⟩

@[simp] theorem receiveReleases_endpoint (pool : MemoryPool) (connection : DataConnection) (events : List SocketEvent) :
    (receiveReleases pool connection events).2.2.endpointId = connection.endpointId :=
  (receiveReleases_frame pool connection events).1

/-- Whatever arrives on a socket, the connection's account stays right. -/
theorem receiveReleases_kept (accounted : Accounted pool (connection.outstanding ++ extra) loans)
    (events : List SocketEvent) :
    Kept pool (receiveReleases pool connection events).2.1
      ((receiveReleases pool connection events).2.2.outstanding ++ extra) loans := by
  fun_induction receiveReleases pool connection events with
  | case1 | case2 | case3 | case4 | case7 => exact .refl accounted
  | case5 _ _ _ step => exact step accounted
  | case6 _ _ _ _ _ _ step => exact step accounted
  | case8 pool connection value rest buffer full emptied handle decoded after updated result step =>
    have released := releaseOutstanding_kept emptied accounted handle
    rw [result] at released
    exact released.trans (step released.accounted)

theorem drainConnections_endpoints (pool : MemoryPool) (connections : List DataConnection) :
    (endpoints (drainConnections pool connections).2.1 ++ (drainConnections pool connections).2.2).Perm
      (endpoints connections) := by
  induction connections generalizing pool with
  | nil => exact .refl _
  | cons connection rest step =>
    unfold drainConnections
    simp only
    split
    · refine List.perm_middle.trans ?_
      rw [receiveReleases_endpoint, endpoints_cons]
      exact (step _).cons _
    · simp only [endpoints_cons, receiveReleases_endpoint, List.cons_append]
      exact (step _).cons _

/-- Each connection that is kept or lost comes from one whose socket was read. -/
theorem drainConnections_mem (pool : MemoryPool) (connections : List DataConnection) :
    (∀ kept ∈ (drainConnections pool connections).2.1, ∃ connection ∈ connections, ∃ current,
      (receiveReleases current connection connection.incoming).2.2 = kept) ∧
    (∀ lost ∈ (drainConnections pool connections).2.2, ∃ connection ∈ connections, ∃ current,
      connection.endpointId = lost ∧ (receiveReleases current connection connection.incoming).1 = true) := by
  induction connections generalizing pool with
  | nil => simp [drainConnections]
  | cons first rest step =>
    simp only [drainConnections]
    split
    next disconnected =>
      obtain ⟨kept, lost⟩ := step (releaseAllOutstanding (receiveReleases pool first first.incoming).2.1
        (receiveReleases pool first first.incoming).2.2.outstanding)
      refine ⟨?_, ?_⟩
      · intro connection present
        obtain ⟨origin, member, found⟩ := kept connection present
        exact ⟨origin, List.mem_cons_of_mem _ member, found⟩
      · intro endpointId present
        rcases List.mem_cons.mp present with same | later
        · exact ⟨first, List.mem_cons_self, pool, by rw [same, receiveReleases_endpoint], disconnected⟩
        · obtain ⟨origin, member, found⟩ := lost endpointId later
          exact ⟨origin, List.mem_cons_of_mem _ member, found⟩
    next =>
      obtain ⟨kept, lost⟩ := step (receiveReleases pool first first.incoming).2.1
      refine ⟨?_, ?_⟩
      · intro connection present
        rcases List.mem_cons.mp present with same | later
        · exact ⟨first, List.mem_cons_self, pool, same.symm⟩
        · obtain ⟨origin, member, found⟩ := kept connection later
          exact ⟨origin, List.mem_cons_of_mem _ member, found⟩
      · intro endpointId present
        obtain ⟨origin, member, found⟩ := lost endpointId present
        exact ⟨origin, List.mem_cons_of_mem _ member, found⟩

theorem drainConnections_kept (accounted : Accounted pool (owed connections ++ extra) loans) :
    Kept pool (drainConnections pool connections).1 (owed (drainConnections pool connections).2.1 ++ extra) loans := by
  induction connections generalizing pool extra with
  | nil => exact .refl accounted
  | cons connection rest step =>
    rw [owed_cons, List.append_assoc] at accounted
    have received := receiveReleases_kept accounted connection.incoming
    unfold drainConnections
    simp only
    split
    · have released := received.trans (kept_releaseAll received.accounted)
      exact released.trans (step released.accounted)
    · rw [← List.append_assoc] at received
      have rest := received.trans (step (received.accounted.perm (front_behind _ _ _)))
      rw [owed_cons]
      exact rest.perm (front_behind _ _ _).symm

theorem dropConnections_kept (drop : UInt64 → Bool) (pool : MemoryPool) (connections : List DataConnection) :
    (dropConnections drop pool connections).2 = connections.filter fun connection => !drop connection.endpointId := by
  induction connections generalizing pool with
  | nil => rfl
  | cons connection rest step =>
    unfold dropConnections
    cases dropped : drop connection.endpointId <;> simp [dropped, step]

theorem dropConnections_accounts (drop : UInt64 → Bool) (accounted : Accounted pool (owed connections ++ extra) loans) :
    Kept pool (dropConnections drop pool connections).1 (owed (dropConnections drop pool connections).2 ++ extra) loans := by
  induction connections generalizing pool extra with
  | nil => exact .refl accounted
  | cons connection rest step =>
    unfold dropConnections
    rw [owed_cons] at accounted
    split
    · rw [List.append_assoc] at accounted
      have released := kept_releaseAll accounted
      exact released.trans (step released.accounted)
    · rw [owed_cons]
      exact (step (accounted.perm (front_behind _ _ _))).perm (front_behind _ _ _).symm

/-- A connection is skipped with the accounts unchanged, or gets a tentative
reference. -/
theorem offerReference_kept (accounted : Accounted pool extra loans) (limit : UInt64) (connection : DataConnection)
    (handle : ChunkHandle) (progress : DispatchProgress) :
    Kept pool (offerReference pool limit connection handle progress).1
      (match (offerReference pool limit connection handle progress).2 with
        | .inl _ => extra
        | .inr _ => handle :: extra) loans := by
  unfold offerReference
  split
  · exact .refl accounted
  · split
    · exact .refl accounted
    · have effect := addReference_names pool handle
      split
      next taken result =>
        rw [result] at effect
        have added := kept_addReference accounted effect
        split
        · exact added.trans (kept_release added.accounted)
        · exact added
      next error left refused result =>
        rw [result] at effect
        cases effect with
        | refused => exact .refl accounted
        | accepted => simp at refused

@[simp] theorem settleEnqueue_endpoint (pool : MemoryPool) (connection : DataConnection) (handle : ChunkHandle)
    (progress : DispatchProgress) (enqueue : QueueEnqueueResult) :
    (settleEnqueue pool connection handle progress enqueue).2.1.endpointId = connection.endpointId := by
  unfold settleEnqueue
  simp only
  split
  · split
    · rfl
    · simp only [releaseOutstanding_endpoint]
  all_goals rfl

/-- The tentative reference passes to the connection or goes back. -/
theorem settleEnqueue_kept (accounted : Accounted pool (handle :: (connection.outstanding ++ extra)) loans)
    (progress : DispatchProgress) (enqueue : QueueEnqueueResult) :
    Kept pool (settleEnqueue pool connection handle progress enqueue).1
      ((settleEnqueue pool connection handle progress enqueue).2.1.outstanding ++ extra) loans := by
  unfold settleEnqueue
  simp only
  split
  · have transferred : (handle :: (connection.outstanding ++ extra)).Perm
        ((connection.outstanding ++ [handle]) ++ extra) := by
      rw [List.append_assoc]
      exact List.perm_middle.symm
    split
    · exact .refl (accounted.perm transferred)
    next dropped _ =>
      exact releaseOutstanding_kept _ (accounted.perm transferred) dropped
  all_goals exact kept_release accounted

theorem dispatchConnection_kept (accounted : Accounted pool (connection.outstanding ++ extra) loans) (limit : UInt64)
    (handle : ChunkHandle) (progress : DispatchProgress) (answer : QueueEnqueueResult) :
    Kept pool (dispatchConnection pool limit connection handle progress answer).1
      ((dispatchConnection pool limit connection handle progress answer).2.1.outstanding ++ extra) loans := by
  have offered := offerReference_kept accounted limit connection handle progress
  unfold dispatchConnection
  split
  next skipped result =>
    rw [result] at offered
    exact offered
  next wake result =>
    rw [result] at offered
    exact offered.trans (settleEnqueue_kept offered.accounted progress answer)

@[simp] theorem dispatchConnection_endpoint (pool : MemoryPool) (limit : UInt64) (connection : DataConnection)
    (handle : ChunkHandle) (progress : DispatchProgress) (answer : QueueEnqueueResult) :
    (dispatchConnection pool limit connection handle progress answer).2.1.endpointId = connection.endpointId := by
  unfold dispatchConnection
  split
  · rfl
  · exact settleEnqueue_endpoint _ _ _ _ _

theorem dispatchConnections_kept (limit : UInt64) (handle : ChunkHandle) (answers : UInt64 → QueueEnqueueResult)
    (accounted : Accounted pool (owed connections ++ extra) loans) (progress : DispatchProgress) :
    Kept pool (dispatchConnections limit handle answers pool progress connections).1
      (owed (dispatchConnections limit handle answers pool progress connections).2.1 ++ extra) loans := by
  induction connections generalizing pool progress extra with
  | nil => exact .refl accounted
  | cons connection rest step =>
    rw [owed_cons, List.append_assoc] at accounted
    have served := dispatchConnection_kept accounted limit handle progress (answers connection.endpointId)
    rw [← List.append_assoc] at served
    unfold dispatchConnections
    rw [owed_cons]
    exact (served.trans (step (served.accounted.perm (front_behind _ _ _)) _)).perm (front_behind _ _ _).symm

@[simp] theorem dispatchConnections_endpoints (limit : UInt64) (handle : ChunkHandle) (answers : UInt64 → QueueEnqueueResult)
    (pool : MemoryPool) (progress : DispatchProgress) (connections : List DataConnection) :
    endpoints (dispatchConnections limit handle answers pool progress connections).2.1 = endpoints connections := by
  induction connections generalizing pool progress with
  | nil => rfl
  | cons connection rest step =>
    unfold dispatchConnections
    simp only [endpoints_cons, dispatchConnection_endpoint, step]

/-- The publisher within a call: `guards` are the references that the call holds
besides what its connections owe. -/
structure Settled (publisher : Publisher) (guards loans : List ChunkHandle) : Prop where
  accounted : Accounted publisher.pool (owed publisher.connections ++ guards) loans
  distinct : (endpoints publisher.connections).Nodup
  current : ∀ endpointId ∈ endpoints publisher.connections, endpointId ∉ publisher.failedEndpointIds

variable {publisher : Publisher} {guards : List ChunkHandle}

theorem create_settled {config : PublisherConfig} {topicId endpointId : UInt64} (valid : Valid pool)
    (free : ∀ index : UInt32, index.toNat < pool.directory.length → (pool.chunkHeader index).state = .free) :
    Settled (Publisher.create config pool topicId endpointId) [] [] := by
  refine ⟨⟨valid, ?_, ?_, ?_⟩, List.nodup_nil, fun _ present => absurd present List.not_mem_nil⟩
  · intro index inside
    simp [Publisher.create, free index inside]
  · intro handle
    show references pool handle = 0
    cases found : pool.matchedHeader handle with
    | none => simp [references, found]
    | some =>
      obtain ⟨inside, _, rfl⟩ := matchedHeader_some found
      exact references_of_loaned valid found (by simp [free _ inside])
  · intro index inside loaned
    rw [Publisher.create, free index inside] at loaned
    cases loaned

/-- A publisher after a part of a call. -/
structure Continues (before after : Publisher) (guards loans : List ChunkHandle) : Prop where
  settled : Settled after guards loans
  retains : Retains none before.pool after.pool

theorem Continues.refl (settled : Settled publisher guards loans) : Continues publisher publisher guards loans :=
  ⟨settled, .refl settled.accounted.valid⟩

theorem Continues.trans {after last : Publisher} (first : Continues publisher after guards loans)
    (second : Continues after last guards loans) : Continues publisher last guards loans :=
  ⟨second.settled, first.retains.trans second.retains⟩

theorem removeEndpoint_connections (publisher : Publisher) (endpointId : UInt64) :
    (publisher.removeEndpoint endpointId).connections =
      publisher.connections.filter fun connection => !connection.endpointId == endpointId :=
  dropConnections_kept (· == endpointId) publisher.pool publisher.connections

theorem removeEndpoints_subset (endpointIds : List UInt64) :
    (endpointIds.foldl Publisher.removeEndpoint publisher).connections ⊆ publisher.connections := by
  refine List.foldlRecOn (motive := fun current : Publisher => current.connections ⊆ publisher.connections) endpointIds _
    (List.Subset.refl _) ?_
  intro current fewer removed _
  rw [removeEndpoint_connections]
  exact List.Subset.trans List.filter_sublist.subset fewer

private theorem mem_tombstones (lost : List UInt64) (failed : ExtTreeSet UInt64) (endpointId : UInt64)
    (present : endpointId ∈ lost.foldl Publisher.addTombstone failed) : endpointId ∈ failed ∨ endpointId ∈ lost := by
  induction lost generalizing failed with
  | nil => exact .inl present
  | cons first rest step =>
    rcases step _ present with earlier | later
    · unfold Publisher.addTombstone at earlier
      split at earlier
      · rcases ExtTreeSet.mem_insert.mp earlier with same | old
        · exact .inr (by simp [compare_eq_iff_eq.mp same])
        · exact .inl old
      · exact .inl earlier
    · exact .inr (List.mem_cons_of_mem _ later)

section Settled
variable (settled : Settled publisher guards loans)
include settled

theorem removeEndpoint_continues (endpointId : UInt64) :
    Continues publisher (publisher.removeEndpoint endpointId) guards loans := by
  have dropped := dropConnections_accounts (· == endpointId) settled.accounted
  have kept := removeEndpoint_connections publisher endpointId
  have sublist : (endpoints (publisher.removeEndpoint endpointId).connections).Sublist (endpoints publisher.connections) := by
    rw [kept]
    exact List.filter_sublist.map _
  refine ⟨⟨dropped.accounted, sublist.nodup settled.distinct, ?_⟩, dropped.retains⟩
  intro other present tombstone
  rcases ExtTreeSet.mem_insert.mp tombstone with same | failed
  · -- the endpoint that got the tombstone is no longer connected
    have equal : endpointId = other := compare_eq_iff_eq.mp same
    subst other
    obtain ⟨connection, remaining, same⟩ := List.mem_map.mp present
    simp [kept, same] at remaining
  · exact settled.current other (sublist.subset present) failed

theorem removeEndpoints_continues (endpointIds : List UInt64) :
    Continues publisher (endpointIds.foldl Publisher.removeEndpoint publisher) guards loans :=
  List.foldlRecOn (motive := fun after => Continues publisher after guards loans) endpointIds _ (.refl settled)
    fun _ kept endpointId _ => kept.trans (removeEndpoint_continues kept.settled endpointId)

theorem drainReleases_continues : Continues publisher publisher.drainReleasesNonBlocking guards loans := by
  have drained := drainConnections_kept settled.accounted
  have parts := drainConnections_endpoints publisher.pool publisher.connections
  have apart := List.nodup_append.mp (parts.nodup_iff.mpr settled.distinct)
  refine ⟨⟨drained.accounted, apart.1, ?_⟩, drained.retains⟩
  intro endpointId present tombstone
  rcases mem_tombstones _ _ _ tombstone with earlier | lost
  · exact settled.current endpointId (parts.subset (List.mem_append_left _ present)) earlier
  · exact apart.2.2 endpointId present endpointId lost rfl

theorem dropVanished_continues (subscribers : List RegistrySubscriber) :
    Continues publisher (publisher.dropVanished subscribers) guards loans := by
  have sublist : (endpoints (publisher.dropVanished subscribers).connections).Sublist (endpoints publisher.connections) := by
    simp only [Publisher.dropVanished, dropConnections_kept]
    exact List.filter_sublist.map _
  have dropped := dropConnections_accounts (fun endpointId => !(subscribers.map (·.endpointId)).contains endpointId)
    settled.accounted
  refine ⟨⟨dropped.accounted, sublist.nodup settled.distinct, ?_⟩, dropped.retains⟩
  intro endpointId present tombstone
  exact settled.current endpointId (sublist.subset present) (ExtTreeSet.mem_of_mem_filter tombstone)

theorem connectSubscriber_continues (connects : UInt64 → Bool) (subscriber : RegistrySubscriber) :
    Continues publisher (Publisher.connectSubscriber connects publisher subscriber) guards loans := by
  have same : Retains none publisher.pool publisher.pool := .refl settled.accounted.valid
  unfold Publisher.connectSubscriber
  split
  · exact .refl settled
  next new =>
    have absent : subscriber.endpointId ∉ endpoints publisher.connections := by
      simp only [not_or, List.any_eq_true, beq_iff_eq, not_exists, not_and] at new
      simpa [endpoints] using new.1
    split
    · refine ⟨⟨?_, ?_, ?_⟩, same⟩
      · simpa [owed] using settled.accounted
      · simpa [endpoints, List.nodup_append, settled.distinct] using
          ⟨settled.distinct, by simpa [endpoints] using absent⟩
      · intro endpointId present
        simp only [endpoints, List.map_append, List.mem_append, List.map_cons, List.map_nil, List.mem_singleton] at present
        rcases present with old | same
        · exact settled.current endpointId old
        · rw [same]
          exact fun failed => new (.inr (ExtTreeSet.contains_iff_mem.mpr failed))
    · refine ⟨⟨settled.accounted, settled.distinct, ?_⟩, same⟩
      intro endpointId present tombstone
      rcases ExtTreeSet.mem_insert.mp tombstone with same | failed
      · exact absent (compare_eq_iff_eq.mp same ▸ present)
      · exact settled.current endpointId present failed

theorem Settled.update {after : Publisher} (pool : after.pool = publisher.pool)
    (connections : after.connections = publisher.connections)
    (failed : after.failedEndpointIds = publisher.failedEndpointIds) : Settled after guards loans := by
  refine ⟨?_, ?_, ?_⟩
  · rw [pool, connections]; exact settled.accounted
  · rw [connections]; exact settled.distinct
  · rw [connections, failed]; exact settled.current

theorem Settled.withPool {after : MemoryPool} {guards' loans' : List ChunkHandle}
    (accounted : Accounted after (owed publisher.connections ++ guards') loans') :
    Settled { publisher with pool := after } guards' loans' :=
  ⟨accounted, settled.distinct, settled.current⟩

end Settled

theorem finishDispatch_continues {dispatch : Dispatch} (settled : Settled publisher [dispatch.handle] loans)
    (progress : DispatchProgress) : Continues publisher (publisher.finishDispatch dispatch progress).2 [] loans := by
  have released := kept_release (settled.accounted.perm (List.perm_append_singleton _ _))
  have base : Continues publisher { publisher with
      pool := (releaseReference publisher.pool dispatch.handle).2, sequence := dispatch.nextSequence } [] loans :=
    ⟨⟨by simpa using released.accounted, settled.distinct, settled.current⟩, released.retains⟩
  exact base.trans (removeEndpoints_continues base.settled progress.failedEndpoints)

theorem dispatchPublished_continues {dispatch : Dispatch} (settled : Settled publisher [dispatch.handle] loans)
    (answers : UInt64 → QueueEnqueueResult) :
    Continues publisher (publisher.dispatchPublished dispatch answers).2 [] loans := by
  have kept := dispatchConnections_kept (outstandingLimit publisher.config.memoryPool) dispatch.handle answers
    settled.accounted dispatch.start
  have served : Continues publisher { publisher with
      pool := (dispatchConnections (outstandingLimit publisher.config.memoryPool) dispatch.handle answers publisher.pool
        dispatch.start publisher.connections).1
      connections := (dispatchConnections (outstandingLimit publisher.config.memoryPool) dispatch.handle answers
        publisher.pool dispatch.start publisher.connections).2.1 } [dispatch.handle] loans := by
    refine ⟨⟨kept.accounted, ?_, ?_⟩, kept.retains⟩
    · rw [dispatchConnections_endpoints]
      exact settled.distinct
    · rw [dispatchConnections_endpoints]
      exact settled.current
  have finished := finishDispatch_continues served.settled
  exact ⟨(finished _).settled, served.retains.trans (finished _).retains⟩

/-- The references that a call holds when it goes on to dispatch. -/
def guardOf (outcome : PublishResult ⊕ Dispatch) : List ChunkHandle :=
  match outcome with
  | .inl _ => []
  | .inr dispatch => [dispatch.handle]

theorem complete_continues {prepared : (PublishResult ⊕ Dispatch) × Publisher}
    (settled : Settled prepared.2 (guardOf prepared.1) loans) (answers : UInt64 → QueueEnqueueResult) :
    Continues prepared.2 (Publisher.complete prepared answers).2 [] loans := by
  obtain ⟨outcome, publisher⟩ := prepared
  cases outcome with
  | inl => exact .refl settled
  | inr => exact dispatchPublished_continues settled answers

@[simp] theorem arrive_endpoints (publisher : Publisher) (endpointId : UInt64) (events : List SocketEvent) :
    endpoints (publisher.arrive endpointId events).connections = endpoints publisher.connections := by
  simp only [endpoints, Publisher.arrive, List.map_map]
  congr 1
  funext connection
  simp only [Function.comp_apply]
  split <;> rfl

theorem arrive_settled (settled : Settled publisher guards loans) (endpointId : UInt64) (events : List SocketEvent) :
    Settled (publisher.arrive endpointId events) guards loans := by
  have owing : owed (publisher.arrive endpointId events).connections = owed publisher.connections := by
    simp only [owed, Publisher.arrive, List.flatMap_map]
    congr 1
    funext connection
    split <;> rfl
  refine ⟨?_, ?_, ?_⟩
  · rw [owing]; exact settled.accounted
  · rw [arrive_endpoints]; exact settled.distinct
  · rw [arrive_endpoints]; exact settled.current

/-- What holds of a publisher between two calls. -/
structure Accounts (publisher : Publisher) : Prop where
  published : ∀ index : UInt32, index.toNat < publisher.pool.directory.length →
    ((publisher.pool.chunkHeader index).state = .published ↔
      handleOf publisher.pool index ∈ owed publisher.connections)
  counted : ∀ index : UInt32, index.toNat < publisher.pool.directory.length →
    (publisher.pool.chunkHeader index).state = .published →
      (publisher.pool.chunkHeader index).refCount.toNat =
        (owed publisher.connections).count (handleOf publisher.pool index)
  named : ∀ connection ∈ publisher.connections, ∀ handle ∈ connection.outstanding,
    handle.chunkIndex.toNat < publisher.pool.directory.length ∧ handle = handleOf publisher.pool handle.chunkIndex ∧
      (publisher.pool.chunkHeader handle.chunkIndex).state = .published
  reclaimed : ∀ index : UInt32, index.toNat < publisher.pool.directory.length →
    (publisher.pool.chunkHeader index).state ≠ .released
  distinct : (publisher.connections.map (·.endpointId)).Nodup
  current : ∀ connection ∈ publisher.connections, connection.endpointId ∉ publisher.failedEndpointIds

theorem Settled.accounts (settled : Settled publisher [] loans) : Accounts publisher := by
  have accounted := settled.accounted
  rw [List.append_nil] at accounted
  have amount (index : UInt32) (inside : index.toNat < publisher.pool.directory.length) :
      (publisher.pool.chunkHeader index).refCount.toNat =
        (owed publisher.connections).count (handleOf publisher.pool index) := by
    rw [← accounted.counted, references_of_matched (matchedHeader_handleOf inside)]
  refine ⟨?_, ?_, ?_, accounted.settled, settled.distinct, ?_⟩
  · intro index inside
    rw [← (accounted.valid.headers index inside).references, ← List.count_pos_iff, ← amount index inside, Nat.pos_iff_ne_zero,
      ne_eq, ne_eq, ← UInt32.toNat_inj]
    rfl
  · exact fun index inside _ => amount index inside
  · intro connection present handle outstanding
    exact accounted.published_of_held (List.mem_flatMap.mpr ⟨connection, present, outstanding⟩)
  · exact fun connection present => settled.current _ (List.mem_map.mpr ⟨connection, present, rfl⟩)

end RobotMiddleware.Proofs.PublisherAccounting
