import RobotMiddleware.Proofs.PublisherCalls

/-! Runs of a publisher. Between two calls its accounts are right, and no connection
owes a chunk twice. So what a connection owes stays below the bound of the dispatch
loop whenever a sample is to be sent. -/

namespace RobotMiddleware.Proofs.PublisherRuns
open MemoryPool PoolGeometry PoolLayout PoolLifecycle PoolRuns PublishedContents PublisherAccounting PublisherCalls ReferenceAccounting Lib.Outcome

variable {pool : MemoryPool} {publisher after : Publisher} {connection : DataConnection} {connections : List DataConnection}
  {handle : ChunkHandle} {loans : List ChunkHandle} {answers : DiscoveryAnswers} {bound limit : UInt64}
  {prepared : (PublishResult ⊕ Dispatch) × Publisher} {dispatch : Dispatch}

def Single (connections : List DataConnection) : Prop := ∀ connection ∈ connections, connection.outstanding.Nodup

theorem stage_single (stage : Stage answers publisher after) (single : Single publisher.connections) :
    Single after.connections := by
  cases stage with
  | drained =>
    intro connection present
    obtain ⟨origin, member, current, rfl⟩ := (drainConnections_mem publisher.pool publisher.connections).1 connection present
    exact (receiveReleases_frame current origin origin.incoming).2.2.nodup (single origin member)
  | removed | pruned =>
    simp only [Publisher.removeEndpoint, Publisher.dropVanished, dropConnections_kept]
    exact fun connection present => single connection (List.mem_of_mem_filter present)
  | joined =>
    unfold Publisher.connectSubscriber
    split
    · exact single
    split
    · intro connection present
      rcases List.mem_append.mp present with old | added
      · exact single connection old
      · rw [List.mem_singleton.mp added]
        exact List.nodup_nil
    · exact single

theorem settleEnqueue_single (single : connection.outstanding.Nodup) (new : handle ∉ connection.outstanding)
    (progress : DispatchProgress) (enqueue : QueueEnqueueResult) :
    (settleEnqueue pool connection handle progress enqueue).2.1.outstanding.Nodup := by
  unfold settleEnqueue
  simp only
  split
  · have grown : (connection.outstanding ++ [handle]).Nodup := by
      rw [← List.concat_eq_append]
      exact (List.nodup_concat _ _).mpr ⟨new, single⟩
    split
    · exact grown
    · exact (releaseOutstanding_frame _ _ _).2.2.nodup grown
  all_goals exact single

theorem dispatchConnections_single {enqueues : UInt64 → QueueEnqueueResult} (single : Single connections)
    (new : ∀ connection ∈ connections, handle ∉ connection.outstanding) (progress : DispatchProgress) :
    Single (dispatchConnections limit handle enqueues pool progress connections).2.1 := by
  induction connections generalizing pool progress with
  | nil => exact single
  | cons first rest step =>
    unfold Single at single step ⊢
    rw [List.forall_mem_cons] at single new
    simp only [dispatchConnections, List.forall_mem_cons]
    refine ⟨?_, step single.2 new.2 _⟩
    unfold dispatchConnection
    split
    · exact single.1
    · exact settleEnqueue_single single.1 new.1 _ _

/-- No connection owes a chunk twice, and the dispatch loop's bound is the number of chunks. -/
structure Tight (publisher : Publisher) : Prop where
  single : Single publisher.connections
  chunks : (outstandingLimit publisher.config.memoryPool).toNat = publisher.pool.directory.length

theorem prepared_tight (effect : Prepared answers publisher prepared) (settled : Settled publisher [] loans)
    (tight : Tight publisher) : Tight prepared.2 := by
  obtain ⟨middle, calls, same, retains⟩ := effect.calls
  refine ⟨?_, ?_⟩
  · rw [same]
    exact Calls.invariant (fun next => Single next.connections) calls (fun _ _ stage held => stage_single stage held) tight.single
  · rw [effect.config, retains.directory, (calls.continues settled).retains.directory]
    exact tight.chunks

theorem new_of_published (published : Published publisher after dispatch) (settled : Settled after [dispatch.handle] loans)
    (present : connection ∈ after.connections) (owing : handle ∈ connection.outstanding) :
    handle.chunkIndex ≠ dispatch.handle.chunkIndex :=
  published_apart published settled (List.mem_flatMap.mpr ⟨connection, present, owing⟩)

theorem complete_config (enqueues : UInt64 → QueueEnqueueResult) :
    (Publisher.complete prepared enqueues).2.config = prepared.2.config := by
  obtain ⟨outcome | dispatch, publisher⟩ := prepared
  · rfl
  · exact List.foldlRecOn (motive := fun current : Publisher => current.config = publisher.config) _ _ rfl fun _ same _ _ => same

theorem prepares_complete (effect : Prepares answers publisher loans prepared) (tight : Tight prepared.2)
    (enqueues : UInt64 → QueueEnqueueResult) :
    Settled (Publisher.complete prepared enqueues).2 [] loans ∧ Tight (Publisher.complete prepared enqueues).2 := by
  have continues := complete_continues effect.settled enqueues
  refine ⟨continues.settled, ?_, by rw [complete_config, continues.retains.directory]; exact tight.chunks⟩
  have settled := effect.settled
  have published := effect.published
  obtain ⟨outcome | dispatch, publisher⟩ := prepared
  · exact tight.single
  · have single := @dispatchConnections_single publisher.pool publisher.connections dispatch.handle
      (outstandingLimit publisher.config.memoryPool) enqueues tight.single
      (fun connection present owing => new_of_published (published dispatch rfl) settled present owing rfl) dispatch.start
    exact fun connection present => single connection (removeEndpoints_subset _ present)

theorem perform_settled (settled : Settled publisher [] loans) (tight : Tight publisher) (event : PublisherEvent) :
    ∃ loans', Settled (publisher.perform event) [] loans' ∧ Tight (publisher.perform event) := by
  cases event with
  | publish data size answers timestamp enqueues =>
    have prepares := preparePublish_prepares settled data size answers timestamp
    exact ⟨_, prepares_complete prepares (prepared_tight prepares.toPrepared settled tight) enqueues⟩
  | loan size peerEvents =>
    have prepares := allocateLoan_prepares ⟨peerEvents, 0, .error .timeout, fun _ => false, 0⟩ peerEvents rfl settled size
    exact ⟨_, prepares.settled, prepared_tight prepares.toPrepared settled tight⟩
  | publishLoanedSample handle payloadSize answers timestamp enqueues =>
    have prepares := prepareLoaned_prepares settled handle payloadSize answers timestamp
    exact ⟨_, prepares_complete prepares (prepared_tight prepares.toPrepared settled tight) enqueues⟩
  | cancelLoanedSample handle =>
    have prepares := cancelLoaned_prepares ⟨none, 0, .error .timeout, fun _ => false, 0⟩ settled handle
    exact ⟨_, prepares.settled, prepared_tight prepares.toPrepared settled tight⟩
  | arrive endpointId events =>
    refine ⟨_, arrive_settled settled endpointId events, fun connection present => ?_, tight.chunks⟩
    obtain ⟨origin, member, rfl⟩ := List.mem_map.mp present
    split <;> exact tight.single origin member

theorem performAll_settled (settled : Settled publisher [] loans) (tight : Tight publisher) (events : List PublisherEvent) :
    ∃ loans', Settled (publisher.performAll events) [] loans' ∧ Tight (publisher.performAll events) := by
  induction events generalizing publisher loans with
  | nil => exact ⟨loans, settled, tight⟩
  | cons event rest step =>
    obtain ⟨_, next, same⟩ := perform_settled settled tight event
    exact step next same

/-- The sum of the configured chunks saturates for no configuration that makes a pool. -/
theorem outstandingLimit_made {items : List MemoryPoolClassConfig} {previous total last : UInt64}
    {classes : List SizeClassMetadata} (made : makeSizeClasses items previous total = .ok (classes, last)) :
    outstandingLimit.go items total = last := by
  induction items generalizing previous total classes with
  | nil =>
    cases made
    rfl
  | cons item rest step =>
    simp only [makeSizeClasses] at made
    split at made
    · cases made
    next accepted =>
      simp only [not_or] at accepted
      obtain ⟨⟨others, final⟩, remaining, same⟩ := bind_ok made
      cases same
      have fits := (chunks_fit accepted.2.2.2.2).1
      have max : uint32Max.toNat = 4294967295 ∧ sizeMax.toNat = 18446744073709551615 := ⟨rfl, rfl⟩
      have room : ¬item.chunkCount.toUInt64 > sizeMax - total := by
        have all : total ≤ sizeMax := UInt64.le_iff_toNat_le.mpr (by have := total.toNat_lt; omega)
        rw [UInt64.not_lt, UInt64.le_iff_toNat_le, UInt64.toNat_sub_of_le _ _ all, UInt32.toNat_toUInt64]
        omega
      rw [outstandingLimit.go, if_neg room]
      exact step remaining

theorem create_tight {descriptor : PoolDescriptor} {config : PublisherConfig} {ownerPid : UInt64}
    (created : MemoryPool.create descriptor config.memoryPool ownerPid = .ok pool) (topicId endpointId : UInt64) :
    Tight (Publisher.create config pool topicId endpointId) := by
  obtain ⟨_, layout, made, _, _, _, directory, _⟩ := create_some created
  obtain ⟨_, _, totalChunks, classes, _, filled, _⟩ := makeLayout_ok made
  refine ⟨fun _ present => absurd present List.not_mem_nil, ?_⟩
  show (outstandingLimit config.memoryPool).toNat = pool.directory.length
  rw [outstandingLimit, outstandingLimit_made classes, (makeSizeClasses_spec classes (by decide)).2.1, directory,
    (makeDirectory_spec filled).1]
  exact Nat.zero_add _

/-- From its creation on, whatever calls are made on a publisher, whatever they are
answered and whatever arrives on its sockets, its accounts are right between calls. -/
theorem reference_accounting {descriptor : PoolDescriptor} {config : PublisherConfig} {ownerPid : UInt64}
    (created : MemoryPool.create descriptor config.memoryPool ownerPid = .ok pool) (topicId endpointId : UInt64)
    (events : List PublisherEvent) : Accounts ((Publisher.create config pool topicId endpointId).performAll events) := by
  have start : Settled (Publisher.create config pool topicId endpointId) [] [] :=
    create_settled (create_valid created) (create_free created)
  obtain ⟨_, settled, _⟩ := performAll_settled start (create_tight created topicId endpointId) events
  exact settled.accounts

def sampleAnswers : DiscoveryAnswers :=
  ⟨some [], 0, .ok ⟨1, .sharedMemory, sampleDescriptor, [⟨5, 64, ⟨[slash, 113], 9, 280, 1, 1, .dropOldest, 1⟩⟩]⟩, fun _ => true,
    0⟩

/-- One subscriber is discovered and gets a sample, its socket closes, and a loan
is taken and cancelled. -/
def sampleEvents : List PublisherEvent :=
  [.publish (some [1, 2]) 2 sampleAnswers 7 (fun _ => { status := .accepted }),
    .arrive 5 [.closed], .loan 8 (some []), .cancelLoanedSample ⟨1, 0, 2, 320⟩]

theorem reference_accounting_sample :
    ∃ pool, MemoryPool.create sampleDescriptor sampleConfig 1 = .ok pool ∧
      Accounts ((Publisher.create ⟨64, sampleConfig⟩ pool 1 2).performAll sampleEvents) := by
  obtain ⟨pool, created⟩ := sample_created
  have config : MemoryPool.create sampleDescriptor (PublisherConfig.mk 64 sampleConfig).memoryPool 1 = .ok pool := created
  exact ⟨pool, created, reference_accounting config 1 2 sampleEvents⟩

/-- What the connections of a publisher owe: distinct chunks of its pool. -/
structure Bounded (publisher : Publisher) : Prop where
  distinct : ∀ connection ∈ publisher.connections, (connection.outstanding.map (·.chunkIndex)).Nodup
  within : ∀ connection ∈ publisher.connections, connection.outstanding.length ≤ publisher.pool.directory.length

/-- What `dispatchPublished` finds: no connection is at the bound or owes the new
chunk, and the loop does the same under any higher bound. -/
structure Unlimited (publisher : Publisher) (dispatch : Dispatch) : Prop where
  below : ∀ connection ∈ publisher.connections,
    connection.outstanding.length < (outstandingLimit publisher.config.memoryPool).toNat
  new : ∀ connection ∈ publisher.connections, ∀ handle ∈ connection.outstanding,
    handle.chunkIndex ≠ dispatch.handle.chunkIndex
  unaffected : ∀ (limit : UInt64) (answers : UInt64 → QueueEnqueueResult), outstandingLimit publisher.config.memoryPool ≤ limit →
    dispatchConnections limit dispatch.handle answers publisher.pool dispatch.start publisher.connections =
      dispatchConnections (outstandingLimit publisher.config.memoryPool) dispatch.handle answers publisher.pool
        dispatch.start publisher.connections

theorem distinct_chunks {guards : List ChunkHandle} (settled : Settled publisher guards loans)
    (single : Single publisher.connections) (present : connection ∈ publisher.connections) :
    (connection.outstanding.map (·.chunkIndex)).Nodup ∧
      ∀ index ∈ connection.outstanding.map (·.chunkIndex), index.toNat < publisher.pool.directory.length := by
  -- a handle that is owed is the current one of its chunk
  have named {handle : ChunkHandle} (owing : handle ∈ connection.outstanding) :=
    settled.accounted.published_of_held (List.mem_append_left _ (List.mem_flatMap.mpr ⟨connection, present, owing⟩))
  refine ⟨(single connection present).map_on fun left first right second same => ?_, fun index member => ?_⟩
  · rw [(named first).2.1, (named second).2.1, same]
  · obtain ⟨handle, owing, rfl⟩ := List.mem_map.mp member
    exact (named owing).1

private theorem length_le_of_inside {indices : List UInt32} {count : Nat} (distinct : indices.Nodup)
    (inside : ∀ index ∈ indices, index.toNat < count) : indices.length ≤ count := by
  have numbers : (indices.map UInt32.toNat).Nodup := distinct.map fun _ _ same => UInt32.toNat_inj.mp same
  have subset : indices.map UInt32.toNat ⊆ List.range count := by
    intro number present
    obtain ⟨index, member, rfl⟩ := List.mem_map.mp present
    exact List.mem_range.mpr (inside index member)
  simpa using (List.subperm_of_subset numbers subset).length_le

theorem settled_bounded {guards : List ChunkHandle} (settled : Settled publisher guards loans) (tight : Tight publisher) :
    Bounded publisher := by
  refine ⟨fun connection present => (distinct_chunks settled tight.single present).1, fun connection present => ?_⟩
  obtain ⟨distinct, inside⟩ := distinct_chunks settled tight.single present
  simpa using length_le_of_inside distinct inside

theorem dispatchConnections_unaffected {enqueues : UInt64 → QueueEnqueueResult} (above : bound ≤ limit)
    (below : ∀ connection ∈ connections, connection.outstanding.length < bound.toNat) (progress : DispatchProgress) :
    dispatchConnections limit handle enqueues pool progress connections =
      dispatchConnections bound handle enqueues pool progress connections := by
  induction connections generalizing pool progress with
  | nil => rfl
  | cons first rest step =>
    rw [List.forall_mem_cons] at below
    have higher := Nat.lt_of_lt_of_le below.1 (UInt64.le_iff_toNat_le.mp above)
    have offer : offerReference pool limit first handle progress = offerReference pool bound first handle progress := by
      simp only [offerReference, ge_iff_le, Nat.not_le.mpr below.1, Nat.not_le.mpr higher]
    simp only [dispatchConnections, dispatchConnection, offer, step below.2]

theorem prepares_unlimited {next : Publisher} {open' : List ChunkHandle} (before : Settled publisher [] loans)
    (fits : Tight publisher) (effect : Prepares answers publisher open' prepared) (called : prepared = (.inr dispatch, next)) :
    Bounded next ∧ Unlimited next dispatch := by
  subst called
  have tight := prepared_tight effect.toPrepared before fits
  have settled : Settled next [dispatch.handle] open' := effect.settled
  have published := effect.published dispatch rfl
  have new (connection : DataConnection) (present : connection ∈ next.connections) (handle : ChunkHandle)
      (owing : handle ∈ connection.outstanding) := new_of_published published settled present owing
  have below (connection : DataConnection) (present : connection ∈ next.connections) :
      connection.outstanding.length < (outstandingLimit next.config.memoryPool).toNat := by
    -- the new chunk is one of the pool's that the connection does not owe
    obtain ⟨distinct, inside⟩ := distinct_chunks settled tight.single present
    have absent : dispatch.handle.chunkIndex ∉ connection.outstanding.map (·.chunkIndex) := by
      intro owed
      obtain ⟨handle, owing, same⟩ := List.mem_map.mp owed
      exact new connection present handle owing same
    have count := length_le_of_inside (List.nodup_cons.mpr ⟨absent, distinct⟩)
      (List.forall_mem_cons.mpr ⟨published.carries.inside, inside⟩)
    rw [tight.chunks]
    rw [List.length_cons, List.length_map] at count
    exact count
  exact ⟨settled_bounded settled tight, below, new,
    fun limit answers above => dispatchConnections_unaffected above below dispatch.start⟩

/-- In every run of a publisher, connections owe distinct chunks, and whenever a
call goes on to dispatch, the bound of the dispatch loop is out of reach. -/
theorem outstanding_never_limits {descriptor : PoolDescriptor} {config : PublisherConfig} {ownerPid : UInt64}
    (created : MemoryPool.create descriptor config.memoryPool ownerPid = .ok pool) (topicId endpointId : UInt64)
    (events : List PublisherEvent) :
    Bounded ((Publisher.create config pool topicId endpointId).performAll events) ∧
      (∀ data size answers timestamp dispatch next,
        ((Publisher.create config pool topicId endpointId).performAll events).preparePublish data size answers timestamp =
          (.inr dispatch, next) → Bounded next ∧ Unlimited next dispatch) ∧
      ∀ handle payloadSize answers timestamp dispatch next,
        ((Publisher.create config pool topicId endpointId).performAll events).prepareLoaned handle payloadSize answers timestamp =
          (.inr dispatch, next) → Bounded next ∧ Unlimited next dispatch := by
  have start : Settled (Publisher.create config pool topicId endpointId) [] [] :=
    create_settled (create_valid created) (create_free created)
  obtain ⟨_, settled, tight⟩ := performAll_settled start (create_tight created topicId endpointId) events
  refine ⟨settled_bounded settled tight, ?_, ?_⟩
  · intro data size answers timestamp dispatch next called
    exact prepares_unlimited settled tight (preparePublish_prepares settled data size answers timestamp) called
  · intro handle payloadSize answers timestamp dispatch next called
    exact prepares_unlimited settled tight (prepareLoaned_prepares settled handle payloadSize answers timestamp) called

/-- The second sample is dispatched while the first is owed. -/
theorem outstanding_never_limits_sample :
    ∃ pool dispatch next, MemoryPool.create sampleDescriptor sampleConfig 1 = .ok pool ∧
      ((Publisher.create ⟨64, sampleConfig⟩ pool 1 2).performAll (sampleEvents.take 1)).preparePublish (some [1, 2]) 2
        sampleAnswers 7 = (.inr dispatch, next) ∧
      next.connections.map (·.outstanding) = [[⟨1, 0, 1, 320⟩]] ∧ Bounded next ∧ Unlimited next dispatch := by
  have created : MemoryPool.create sampleDescriptor (PublisherConfig.mk 64 sampleConfig).memoryPool 1 = .ok _ := rfl
  exact ⟨_, _, _, created, rfl, rfl,
    (outstanding_never_limits created 1 2 (sampleEvents.take 1)).2.1 (some [1, 2]) 2 sampleAnswers 7 _ _ rfl⟩

end RobotMiddleware.Proofs.PublisherRuns
