import Mathlib.Logic.Relation
import RobotMiddleware.Proofs.PublisherAccounting

/-! A publisher call up to its dispatch as a sequence of stages. It drains the
sockets, drops the connections of endpoints that died or that discovery no longer
lists, joins the new ones, and then publishes a chunk or ends. What every stage keeps, the call
keeps. Only the negotiated size is out of date between a join and the end of
discovery. -/

namespace RobotMiddleware.Proofs.PublisherCalls
open PoolLifecycle PublishedContents PublisherAccounting ReferenceAccounting

inductive Stage (answers : DiscoveryAnswers) : Publisher → Publisher → Prop where
  | drained (publisher : Publisher) : Stage answers publisher publisher.drainReleasesNonBlocking
  | removed (publisher : Publisher) {event : RegistryPeerEvent} (told : event ∈ answers.peerEvents.getD []) :
      Stage answers publisher (publisher.removeEndpoint event.deadEndpointId)
  | pruned (publisher : Publisher) {discovery : RegistryDiscovery} (answered : answers.discovery = .ok discovery) :
      Stage answers publisher (publisher.dropVanished discovery.subscribers)
  | joined (publisher : Publisher) {discovery : RegistryDiscovery} {entry : RegistrySubscriber}
      (answered : answers.discovery = .ok discovery) (listed : entry ∈ discovery.subscribers) :
      Stage answers publisher (Publisher.connectSubscriber answers.connects publisher entry)

abbrev Calls (answers : DiscoveryAnswers) : Publisher → Publisher → Prop := Relation.ReflTransGen (Stage answers)

variable {answers : DiscoveryAnswers} {publisher middle after : Publisher} {guards loans : List ChunkHandle}

theorem Calls.invariant (inv : Publisher → Prop) (calls : Calls answers publisher after)
    (kept : ∀ before next, Stage answers before next → inv before → inv next) (start : inv publisher) : inv after := by
  induction calls with
  | refl => exact start
  | tail _ stage held => exact kept _ _ stage held

theorem Stage.unchanged (stage : Stage answers publisher after) :
    after.sequence = publisher.sequence ∧ after.config = publisher.config := by
  cases stage with
  | drained | removed | pruned => exact ⟨rfl, rfl⟩
  | joined =>
    unfold Publisher.connectSubscriber
    split
    · exact ⟨rfl, rfl⟩
    · split <;> exact ⟨rfl, rfl⟩

theorem Stage.continues (stage : Stage answers publisher after) (settled : Settled publisher guards loans) :
    Continues publisher after guards loans := by
  cases stage with
  | drained => exact drainReleases_continues settled
  | removed => exact removeEndpoint_continues settled _
  | pruned => exact dropVanished_continues settled _
  | joined => exact connectSubscriber_continues settled _ _

theorem Calls.continues (calls : Calls answers publisher after) (settled : Settled publisher guards loans) :
    Continues publisher after guards loans :=
  Calls.invariant (fun next => Continues publisher next guards loans) calls
    (fun _ _ stage held => held.trans (stage.continues held.settled)) (.refl settled)

theorem Calls.unchanged (calls : Calls answers publisher after) :
    after.sequence = publisher.sequence ∧ after.config = publisher.config :=
  Calls.invariant (fun next => next.sequence = publisher.sequence ∧ next.config = publisher.config) calls
    (fun _ _ stage held => ⟨stage.unchanged.1.trans held.1, stage.unchanged.2.trans held.2⟩) ⟨rfl, rfl⟩

def Negotiated (publisher : Publisher) : Prop :=
  ∀ connection ∈ publisher.connections, publisher.negotiatedMaxMessageSize ≤ connection.maxMessageSize

/-- Every connection comes from one to the same endpoint with the same limit. -/
def Inherits (before after : List DataConnection) : Prop :=
  ∀ connection ∈ after, ∃ origin ∈ before,
    origin.endpointId = connection.endpointId ∧ origin.maxMessageSize = connection.maxMessageSize

theorem inherits_of_subset {before after : List DataConnection} (fewer : after ⊆ before) : Inherits before after :=
  fun connection present => ⟨connection, fewer present, rfl, rfl⟩

theorem drain_inherits (publisher : Publisher) :
    Inherits publisher.connections publisher.drainReleasesNonBlocking.connections := by
  intro connection present
  obtain ⟨origin, member, current, rfl⟩ := (drainConnections_mem publisher.pool publisher.connections).1 connection present
  obtain ⟨endpoint, size, _⟩ := receiveReleases_frame current origin origin.incoming
  exact ⟨origin, member, endpoint.symm, size.symm⟩

theorem negotiated_inherits (negotiated : Negotiated publisher) (inherits : Inherits publisher.connections after.connections)
    (same : after.negotiatedMaxMessageSize = publisher.negotiatedMaxMessageSize) : Negotiated after := by
  intro connection present
  obtain ⟨origin, member, _, size⟩ := inherits connection present
  rw [same, ← size]
  exact negotiated origin member

theorem drainReleases_negotiated (negotiated : Negotiated publisher) : Negotiated publisher.drainReleasesNonBlocking :=
  negotiated_inherits negotiated (drain_inherits publisher) rfl

theorem removeEndpoint_negotiated (negotiated : Negotiated publisher) (endpointId : UInt64) :
    Negotiated (publisher.removeEndpoint endpointId) := by
  refine negotiated_inherits negotiated (inherits_of_subset ?_) rfl
  rw [removeEndpoint_connections]
  exact List.filter_sublist.subset

private theorem foldl_min_le (connections : List DataConnection) (size : UInt64) :
    connections.foldl (fun size connection => min size connection.maxMessageSize) size ≤ size ∧
      ∀ connection ∈ connections,
        connections.foldl (fun size connection => min size connection.maxMessageSize) size ≤ connection.maxMessageSize := by
  induction connections generalizing size with
  | nil => exact ⟨UInt64.le_refl _, by simp⟩
  | cons first rest step =>
    obtain ⟨start, others⟩ := step (min size first.maxMessageSize)
    rw [List.foldl_cons]
    refine ⟨UInt64.le_trans start Std.min_le_left, ?_⟩
    intro connection present
    rcases List.mem_cons.mp present with rfl | later
    · exact UInt64.le_trans start Std.min_le_right
    · exact others connection later

/-- The publisher after its stages, up to fields that say when to ask again. -/
structure Reaches (answers : DiscoveryAnswers) (publisher after : Publisher) : Prop where
  calls : ∃ middle, Calls answers publisher middle ∧ after.connections = middle.connections ∧ after.pool = middle.pool ∧
    after.failedEndpointIds = middle.failedEndpointIds
  sequence : after.sequence = publisher.sequence
  config : after.config = publisher.config
  negotiated : Negotiated publisher → Negotiated after

theorem Calls.reaches (calls : Calls answers publisher after) (negotiated : Negotiated publisher → Negotiated after) :
    Reaches answers publisher after :=
  ⟨⟨after, calls, rfl, rfl, rfl⟩, calls.unchanged.1, calls.unchanged.2, negotiated⟩

theorem Reaches.settled (reaches : Reaches answers publisher after) (settled : Settled publisher guards loans) :
    Settled after guards loans := by
  obtain ⟨middle, calls, connections, pool, failed⟩ := reaches.calls
  exact (calls.continues settled).settled.update pool connections failed

theorem Reaches.accounted (reaches : Reaches answers publisher after) (settled : Settled publisher [] loans) :
    Accounted after.pool (owed after.connections) loans := by
  simpa using (reaches.settled settled).accounted

/-- Draining the sockets and hearing of the endpoints that died. -/
theorem processPeerEvents_calls (answers : DiscoveryAnswers) (publisher : Publisher) :
    Calls answers publisher (publisher.processPeerEvents answers.peerEvents) ∧
      (Negotiated publisher → Negotiated (publisher.processPeerEvents answers.peerEvents)) := by
  unfold Publisher.processPeerEvents
  split
  · exact ⟨.refl, id⟩
  · refine List.foldlRecOn (motive := fun next => Calls answers publisher next ∧ (Negotiated publisher → Negotiated next)) _ _
      ⟨.single (.drained publisher), drainReleases_negotiated⟩ ?_
    rintro current ⟨calls, negotiated⟩ event told
    unfold Publisher.handlePeerEvent
    split
    · exact ⟨calls.tail (.removed _ told), fun held => removeEndpoint_negotiated (negotiated held) _⟩
    · exact ⟨calls, negotiated⟩

theorem connectDiscovered_reaches (answers : DiscoveryAnswers) (publisher : Publisher) :
    Reaches answers publisher (publisher.connectDiscoveredEndpoints answers).2 := by
  obtain ⟨calls, negotiated⟩ := processPeerEvents_calls answers publisher
  have informed := calls.reaches negotiated
  unfold Publisher.connectDiscoveredEndpoints
  simp only
  split
  · exact informed
  split
  · exact informed
  split
  · exact informed
  next discovery answered =>
    split
    · exact informed
    split
    · exact informed
    · have connected := List.foldlRecOn (motive := Calls answers publisher) discovery.subscribers
        (Publisher.connectSubscriber answers.connects) (calls.tail (.pruned _ answered))
        fun _ calls _ listed => calls.tail (.joined _ answered listed)
      exact ⟨⟨_, connected, rfl, rfl, rfl⟩, connected.unchanged.1, connected.unchanged.2, fun _ => (foldl_min_le _ _).2⟩

def newChunk : PublishResult ⊕ Dispatch → Option UInt32
  | .inl _ => none
  | .inr dispatch => some dispatch.handle.chunkIndex

/-- A call that goes on to dispatch this chunk. -/
structure Published (publisher after : Publisher) (dispatch : Dispatch) : Prop where
  carries : Carries after.pool dispatch
  single : (after.pool.chunkHeader dispatch.handle.chunkIndex).refCount = 1
  next : dispatch.nextSequence = publisher.sequence + 1
  room : publisher.sequence ≠ sizeMax
  fits : dispatch.payloadSize ≤ after.negotiatedMaxMessageSize

/-- A call up to its dispatch, or to its end without one. -/
structure Prepared (answers : DiscoveryAnswers) (publisher : Publisher)
    (prepared : (PublishResult ⊕ Dispatch) × Publisher) : Prop where
  calls : ∃ middle, Calls answers publisher middle ∧ prepared.2.connections = middle.connections ∧
    Retains (newChunk prepared.1) middle.pool prepared.2.pool
  sequence : prepared.2.sequence = publisher.sequence
  config : prepared.2.config = publisher.config
  negotiated : Negotiated publisher → Negotiated prepared.2
  published : ∀ dispatch, prepared.1 = .inr dispatch → Published publisher prepared.2 dispatch

/-- The same with the accounts, when these loans are open afterwards. -/
structure Prepares (answers : DiscoveryAnswers) (publisher : Publisher) (loans : List ChunkHandle)
    (prepared : (PublishResult ⊕ Dispatch) × Publisher) : Prop extends Prepared answers publisher prepared where
  settled : Settled prepared.2 (guardOf prepared.1) loans

section Prepares
variable {open' : List ChunkHandle}

private theorem Prepares.of_reaches {outcome : PublishResult ⊕ Dispatch} (settled : Settled publisher [] loans)
    (reaches : Reaches answers publisher middle) (retains : Retains (newChunk outcome) middle.pool after.pool)
    (accounted : Accounted after.pool (owed middle.connections ++ guardOf outcome) open')
    (published : ∀ dispatch, outcome = .inr dispatch → Published publisher after dispatch)
    (same : after = { middle with pool := after.pool }) : Prepares answers publisher open' (outcome, after) := by
  have before := reaches.settled settled
  obtain ⟨⟨stage, calls, connections, pool, _⟩, sequence, config, negotiated⟩ := reaches
  refine ⟨⟨⟨stage, calls, ?_, by rw [← pool]; exact retains⟩, ?_, ?_, ?_, published⟩, ?_⟩
  · rw [same]; exact connections
  · rw [same]; exact sequence
  · rw [same]; exact config
  · rw [same]; exact negotiated
  · rw [same]; exact before.withPool accounted

theorem Prepares.ended {result : PublishResult} (settled : Settled publisher [] loans)
    (reaches : Reaches answers publisher middle) (kept : Kept middle.pool after.pool (owed middle.connections) open')
    (same : after = { middle with pool := after.pool }) : Prepares answers publisher open' (.inl result, after) :=
  .of_reaches settled reaches kept.retains (by simpa [guardOf] using kept.accounted) (fun _ other => nomatch other) same

theorem Prepares.dispatches {dispatch : Dispatch} (settled : Settled publisher [] loans)
    (reaches : Reaches answers publisher middle) (retains : Retains (some dispatch.handle.chunkIndex) middle.pool after.pool)
    (accounted : Accounted after.pool (dispatch.handle :: owed middle.connections) open')
    (published : Published publisher after dispatch) (same : after = { middle with pool := after.pool }) :
    Prepares answers publisher open' (.inr dispatch, after) :=
  .of_reaches settled reaches retains (accounted.perm (List.perm_append_singleton _ _).symm)
    (fun _ same => Sum.inr.inj same ▸ published) same

end Prepares

theorem drained_reaches (answers : DiscoveryAnswers) (publisher : Publisher) :
    Reaches answers publisher (publisher.drainReleasesNonBlocking.connectDiscoveredEndpoints answers).2 := by
  obtain ⟨⟨middle, calls, same⟩, sequence, config, negotiated⟩ :=
    connectDiscovered_reaches answers publisher.drainReleasesNonBlocking
  exact ⟨⟨middle, .head (.drained publisher) calls, same⟩, sequence, config,
    fun held => negotiated (drainReleases_negotiated held)⟩

theorem preparePublish_prepares (settled : Settled publisher [] loans) (data : Option Bytes) (size : UInt64)
    (answers : DiscoveryAnswers) (timestamp : UInt64) :
    Prepares answers publisher loans (publisher.preparePublish data size answers timestamp) := by
  have unstarted : Reaches answers publisher publisher := Calls.reaches .refl id
  have reaches := drained_reaches answers publisher
  have unchanged := Kept.refl (unstarted.accounted settled)
  have accounted := reaches.accounted settled
  unfold Publisher.preparePublish
  split
  · exact .ended settled unstarted unchanged rfl
  split
  · exact .ended settled unstarted unchanged rfl
  split
  · exact .ended settled unstarted unchanged rfl
  next room =>
    simp only
    split
    next connected result =>
      rw [result] at reaches accounted
      simp only at reaches accounted
      have retains := allocate_retains accounted.valid size
      split
      · exact .ended settled reaches (.refl accounted) rfl
      next fits =>
        split
        next refused =>
          exact .ended settled reaches ⟨accounted.failed (allocate_effect accounted.valid size) refused, retains⟩ rfl
        next accepted =>
          simp only [ne_eq, Decidable.not_not] at accepted
          have allocated := accounted.allocate accepted
          generalize (connected.pool.allocate size).1.handle = handle at allocated ⊢
          generalize (connected.pool.allocate size).2 = taken at allocated retains ⊢
          have effect := writeAndPublish_names taken handle data size (connected.sequence + 1) timestamp 1
          split
          next pool written =>
            rw [written] at effect
            have publishes := publishes_named retains.valid effect
            have published := allocated.publish effect
            rw [List.erase_cons_head] at published
            refine .dispatches settled reaches (retains.trans publishes.retains) published ?_ rfl
            exact ⟨publishes.carries, publishes.single, by rw [reaches.sequence], room, UInt64.not_lt.mp fits⟩
          next code pool failed written =>
            rw [written] at effect
            cases effect with
            | refused =>
              have cancelled := kept_cancel allocated handle
              rw [List.erase_cons_head] at cancelled
              exact .ended settled reaches ⟨cancelled.accounted, retains.trans cancelled.retains⟩ rfl
            | accepted => simp at failed
    next code connected failed result =>
      rw [result] at reaches accounted
      exact .ended settled reaches (.refl accounted) rfl

theorem prepareLoaned_prepares (settled : Settled publisher [] loans) (handle : ChunkHandle) (payloadSize : UInt64)
    (answers : DiscoveryAnswers) (timestamp : UInt64) :
    Prepares answers publisher (loans.erase handle) (publisher.prepareLoaned handle payloadSize answers timestamp) := by
  have unstarted : Reaches answers publisher publisher := Calls.reaches .refl id
  have reaches := drained_reaches answers publisher
  have accounted := reaches.accounted settled
  unfold Publisher.prepareLoaned
  split
  · exact .ended settled unstarted (kept_cancel (unstarted.accounted settled) handle) rfl
  next room =>
    simp only
    split
    next connected result =>
      rw [result] at reaches accounted
      simp only at reaches accounted
      split
      · exact .ended settled reaches (kept_cancel accounted handle) rfl
      next fits =>
        have effect := publishLoaned_names connected.pool handle payloadSize (connected.sequence + 1) timestamp 1
        split
        next pool written =>
          rw [written] at effect
          have publishes := publishes_named accounted.valid effect
          refine .dispatches settled reaches publishes.retains (accounted.publish effect) ?_ rfl
          exact ⟨publishes.carries, publishes.single, by rw [reaches.sequence], room, UInt64.not_lt.mp fits⟩
        next code pool refused written =>
          rw [written] at effect
          cases effect with
          | refused => exact .ended settled reaches (kept_cancel accounted handle) rfl
          | accepted => simp at refused
    next code connected failed result =>
      rw [result] at reaches accounted
      exact .ended settled reaches (kept_cancel accounted handle) rfl

theorem allocateLoan_prepares (answers : DiscoveryAnswers) (peerEvents : Option (List RegistryPeerEvent))
    (told : answers.peerEvents = peerEvents) (settled : Settled publisher [] loans) (size : UInt64) :
    Prepares answers publisher
      (if (publisher.allocateLoan size peerEvents).1.error = .ok then
        (publisher.allocateLoan size peerEvents).1.handle :: loans else loans)
      (.inl {}, (publisher.allocateLoan size peerEvents).2.2) := by
  subst told
  have unstarted : Reaches answers publisher publisher := Calls.reaches .refl id
  obtain ⟨calls, negotiated⟩ := processPeerEvents_calls answers publisher
  have reaches := Calls.reaches (calls.tail (.drained _)) fun held => drainReleases_negotiated (negotiated held)
  have accounted := reaches.accounted settled
  have retains := allocate_retains accounted.valid size
  unfold Publisher.allocateLoan
  split
  · exact .ended settled unstarted (.refl (unstarted.accounted settled)) rfl
  generalize (publisher.processPeerEvents answers.peerEvents).drainReleasesNonBlocking = current at reaches accounted retains
  simp only
  split
  next refused =>
    exact .ended settled reaches ⟨accounted.failed (allocate_effect accounted.valid size) refused, retains⟩ rfl
  next accepted =>
    simp only [ne_eq, Decidable.not_not] at accepted
    have allocated := accounted.allocate accepted
    split
    next unwritable =>
      have cancelled := kept_cancel allocated (current.pool.allocate size).1.handle
      rw [List.erase_cons_head] at cancelled
      exact .ended settled reaches ⟨cancelled.accounted, retains.trans cancelled.retains⟩ rfl
    · exact .ended settled reaches ⟨allocated, retains⟩ rfl

theorem cancelLoaned_prepares (answers : DiscoveryAnswers) (settled : Settled publisher [] loans) (handle : ChunkHandle) :
    Prepares answers publisher (loans.erase handle) (.inl {}, (publisher.cancelLoanedSample handle).2) := by
  have unstarted : Reaches answers publisher publisher := Calls.reaches .refl id
  exact .ended settled unstarted (kept_cancel (unstarted.accounted settled) handle) rfl

/-- The chunk that a call dispatches is owed by no connection yet. -/
theorem published_apart {handle : ChunkHandle} {new : Dispatch}
    (published : Published publisher after new) (settled : Settled after [new.handle] loans)
    (owing : handle ∈ owed after.connections) : handle.chunkIndex ≠ new.handle.chunkIndex := by
  intro same
  have named := (settled.accounted.published_of_held (List.mem_append_left _ owing)).2.1
  have equal : handle = new.handle := by rw [named, same, ← published.carries.named]
  -- the only reference is the guard's, and the connection would have a second one
  have found := matchedHeader_handleOf published.carries.inside
  rw [← published.carries.named] at found
  have count := settled.accounted.counted new.handle
  rw [references_of_matched found, published.single, List.count_append] at count
  have second : 0 < (owed after.connections).count new.handle := List.count_pos_iff.mpr (equal ▸ owing)
  simp at count
  omega

end RobotMiddleware.Proofs.PublisherCalls
