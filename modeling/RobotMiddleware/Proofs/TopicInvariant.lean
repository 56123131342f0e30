import RobotMiddleware.Proofs.SubscriberSteps

/-! Where the obligations of a topic are. Each handle that a connection owes is in
the subscriber's queue, in a take, in a view, or in a Release frame under way, and
every step of the publisher or of a subscriber only moves handles between these. -/

namespace RobotMiddleware.Proofs.TopicInvariant
open Std Lib.Framing QueueRefinement QueueContents ReferenceAccounting PublisherAccounting ReleaseChannel SubscriberSteps

variable {sound : Prop} {subscriber after : SubscriberEnd} {sent : List SocketEvent}

/-- The account of one connection: what is due on it is with the subscriber, got
`lost` from its queue or is under way, and the socket carries nothing but whole
frames. -/
structure Covered (lost due : List ChunkHandle) (connection : DataConnection) (subscriber : SubscriberEnd) : Prop where
  balance : ∃ releases, unread connection = stream encodeQueueRelease releases ∧
    due.Perm (burden subscriber ++ lost ++ releases)
  short : connection.releaseBuffer.length < kQueueReleaseSize
  intact : .failed ∉ connection.incoming
  ended : .closed ∈ connection.incoming → subscriber.alive = false ∧ subscriber.inHand = [] ∧ subscriber.views = []

variable {lost due : List ChunkHandle} {connection : DataConnection} {connections : List DataConnection}
  {subscribers : ExtTreeMap UInt64 SubscriberEnd} {losses : List ChunkHandle → Prop}

theorem Covered.step (covered : Covered lost due connection subscriber) (account : StepAccount sound true subscriber after sent) :
    Covered lost due { connection with incoming := connection.incoming ++ sent } after := by
  obtain ⟨releases, read, balance⟩ := covered.balance
  obtain ⟨frames, frame, moved⟩ := account.account rfl
  refine ⟨⟨releases ++ frames, ?_, ?_⟩, covered.short, ?_, ?_⟩
  · rw [unread] at read
    rw [unread, delivered_append, ← List.append_assoc, read, frame]
    simp [stream]
  · refine balance.trans ?_
    rw [List.perm_iff_count] at moved ⊢
    intro handle
    have count := moved handle
    simp only [List.count_append] at count ⊢
    omega
  · simp only [List.mem_append, not_or]
    exact ⟨covered.intact, account.intact⟩
  · intro closed
    rcases List.mem_append.mp closed with earlier | now
    · obtain ⟨gone, none, unseen⟩ := covered.ended earlier
      exact ⟨account.gone gone, account.quiet gone none unseen⟩
    · exact account.ended now

theorem Covered.reset (covered : Covered lost due connection subscriber) (account : ResetAccount subscriber after) :
    ∃ more, Covered more due connection after := by
  obtain ⟨releases, read, balance⟩ := covered.balance
  obtain ⟨dropped, parts⟩ := account.fewer.exists_perm_append
  refine ⟨dropped ++ lost, ⟨releases, read, balance.trans ?_⟩, covered.short, covered.intact, ?_⟩
  · rw [List.perm_iff_count] at parts ⊢
    intro handle
    have count := parts handle
    simp only [burden, account.inHand, account.views, List.count_append] at count ⊢
    omega
  · intro closed
    obtain ⟨gone, none, unseen⟩ := covered.ended closed
    exact ⟨account.gone gone, account.inHand.trans none, account.views.trans unseen⟩

theorem Covered.drain (covered : Covered lost connection.outstanding connection subscriber)
    (genuine : ∀ handle ∈ connection.outstanding, Genuine handle) (pool : MemoryPool) :
    ((receiveReleases pool connection connection.incoming).1 = true → subscriber.alive = false ∧ subscriber.views = []) ∧
      Covered lost (receiveReleases pool connection connection.incoming).2.2.outstanding
        (receiveReleases pool connection connection.incoming).2.2 subscriber := by
  obtain ⟨releases, read, balance⟩ := covered.balance
  have under (handle : ChunkHandle) (present : handle ∈ releases) : Genuine handle :=
    genuine handle (balance.mem_iff.mpr (List.mem_append_right _ present))
  have drained := receiveReleases_drained pool under read covered.short covered.intact balance
  refine ⟨?_, drained.balance, drained.short, fun failed => covered.intact (drained.tail _ failed),
    fun closed => covered.ended (drained.tail _ closed)⟩
  intro disconnected
  obtain ⟨gone, _, unseen⟩ := covered.ended (drained.lost disconnected)
  exact ⟨gone, unseen⟩

def AllUsable (sound : Prop) (subscribers : ExtTreeMap UInt64 SubscriberEnd) : Prop :=
  ∀ (endpointId : UInt64) (subscriber : SubscriberEnd), subscribers[endpointId]? = some subscriber → Usable sound subscriber

structure Covers (losses : List ChunkHandle → Prop) (subscribers : ExtTreeMap UInt64 SubscriberEnd)
    (connections : List DataConnection) (due : DataConnection → List ChunkHandle) : Prop where
  covered : ∀ connection ∈ connections, ∃ subscriber, subscribers[connection.endpointId]? = some subscriber ∧
    ∃ lost, losses lost ∧ Covered lost (due connection) connection subscriber
  untouched : ∀ endpointId subscriber, subscribers[endpointId]? = some subscriber → subscriber.alive = true →
    endpointId ∉ endpoints connections → Untouched subscriber

theorem lookup_insert (subscribers : ExtTreeMap UInt64 SubscriberEnd) (endpointId other : UInt64)
    (subscriber found : SubscriberEnd) :
    (subscribers.insert endpointId subscriber)[other]? = some found ↔
      other = endpointId ∧ found = subscriber ∨ other ≠ endpointId ∧ subscribers[other]? = some found := by
  rw [ExtTreeMap.getElem?_insert]
  grind

theorem AllUsable.insert (usable : AllUsable sound subscribers) (endpointId : UInt64) (new : Usable sound after) :
    AllUsable sound (subscribers.insert endpointId after) := by
  intro id other present
  rcases (lookup_insert _ _ _ _ _).mp present with ⟨_, rfl⟩ | ⟨_, old⟩
  · exact new
  · exact usable id other old

theorem Covers.own {due : DataConnection → List ChunkHandle} (covers : Covers losses subscribers connections due)
    (present : connection ∈ connections) (found : subscribers[connection.endpointId]? = some subscriber) :
    ∃ lost, losses lost ∧ Covered lost (due connection) connection subscriber := by
  obtain ⟨other, same, covered⟩ := covers.covered connection present
  rw [found] at same
  cases same
  exact covered

/-- A subscriber gets a new state, and its connection a new account. -/
theorem Covers.insert {due due' : DataConnection → List ChunkHandle} {endpointId : UInt64}
    (covers : Covers losses subscribers connections due)
    (own : ∀ connection ∈ connections, connection.endpointId = endpointId →
      ∃ lost, losses lost ∧ Covered lost (due' connection) connection after)
    (others : ∀ connection ∈ connections, connection.endpointId ≠ endpointId → due' connection = due connection)
    (untouched : after.alive = true → endpointId ∉ endpoints connections → Untouched after) :
    Covers losses (subscribers.insert endpointId after) connections due' := by
  refine ⟨?_, ?_⟩
  · intro connection present
    by_cases same : connection.endpointId = endpointId
    · exact ⟨after, (lookup_insert _ _ _ _ _).mpr (.inl ⟨same, rfl⟩), own connection present same⟩
    · obtain ⟨holder, held, covered⟩ := covers.covered connection present
      refine ⟨holder, (lookup_insert _ _ _ _ _).mpr (.inr ⟨same, held⟩), ?_⟩
      rw [others connection present same]
      exact covered
  · intro id other present alive outside
    rcases (lookup_insert _ _ _ _ _).mp present with ⟨rfl, rfl⟩ | ⟨_, old⟩
    · exact untouched alive outside
    · exact covers.untouched id other old alive outside

theorem genuine_of_held {held loans : List ChunkHandle} (accounted : Accounted pool held loans) {handle : ChunkHandle}
    (present : handle ∈ held) : Genuine handle := by
  obtain ⟨inside, named, published⟩ := accounted.published_of_held present
  have numbered := (accounted.valid.headers _ inside).numbered (by simp [published])
  rw [named]
  exact ⟨accounted.valid.identified, numbered⟩

end RobotMiddleware.Proofs.TopicInvariant
