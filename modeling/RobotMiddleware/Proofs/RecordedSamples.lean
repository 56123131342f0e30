import RobotMiddleware.Proofs.TopicSizes
import RobotMiddleware.SampleHistory

/-! The history of a topic keeps track of its queues. For each endpoint it names the
calls whose handles are queued and in hand, in their order, and a step changes it
at one endpoint only: samples leave, or the one that is being dispatched comes
last. -/

namespace RobotMiddleware.Proofs.RecordedSamples
open Std Function PublishedContents PublisherAccounting PublisherCalls QueueRefinement QueueContents SubscriberSteps
  TopicInvariant TopicEffects TopicRuns TopicSizes

variable {history before after : SampleHistory} {endpointId : UInt64} {subscriber later : SubscriberEnd} {pool : MemoryPool}

def awaiting (history : SampleHistory) (endpointId : UInt64) : List Dispatch :=
  history.inHand endpointId ++ history.queued endpointId

/-- All samples of the endpoint that were not dropped, the earliest first. -/
def samples (history : SampleHistory) (endpointId : UInt64) : List Dispatch :=
  (history.taken endpointId).map (·.dispatch) ++ awaiting history endpointId

/-- The history of the endpoint fits the state of its subscriber. -/
structure Matches (history : SampleHistory) (endpointId : UInt64) (subscriber : SubscriberEnd) : Prop where
  queued : (history.queued endpointId).map (·.handle) = stored subscriber.queue
  inHand : (history.inHand endpointId).map (·.handle) = if subscriber.alive then subscriber.inHand else []
  single : subscriber.alive = true → subscriber.inHand.length ≤ 1

/-- A step of the history: it concerns one endpoint, whose samples stay in order
with the `new` ones behind them, and a sample is taken out of the hand. -/
structure HistoryStep (pool : MemoryPool) (endpointId : UInt64) (subscriber : SubscriberEnd) (new : List Dispatch)
    (before after : SampleHistory) : Prop where
  queued : ∀ other, other ≠ endpointId → after.queued other = before.queued other
  inHand : ∀ other, other ≠ endpointId → after.inHand other = before.inHand other
  others : ∀ other, other ≠ endpointId → after.taken other = before.taken other
  samples : (samples after endpointId).Sublist (samples before endpointId ++ new)
  awaiting : (awaiting after endpointId).Sublist (awaiting before endpointId ++ new)
  taken : ∀ take ∈ after.taken endpointId, take ∈ before.taken endpointId ∨
    subscriber.alive = true ∧ ∃ dispatch ∈ before.inHand endpointId,
      take = ⟨dispatch, (MemoryPoolView.read pool dispatch.handle subscriber.maxMessageSize).sequence⟩
  returned : after.returned = before.returned

theorem HistoryStep.refl (history : SampleHistory) : HistoryStep pool endpointId subscriber [] history history :=
  ⟨fun _ _ => rfl, fun _ _ => rfl, fun _ _ => rfl, by simp, by simp, fun _ => .inl, rfl⟩

theorem HistoryStep.requeue {new kept : List Dispatch} (part : kept.Sublist (history.queued endpointId ++ new)) :
    HistoryStep pool endpointId subscriber new history { history with queued := update history.queued endpointId kept } := by
  refine ⟨fun other apart => update_of_ne apart _ _, fun _ _ => rfl, fun _ _ => rfl, ?_, ?_, fun _ => .inl, rfl⟩
  · simp only [RecordedSamples.samples, RecordedSamples.awaiting, update_self, List.append_assoc]
    exact (part.append_left _).append_left _
  · simp only [RecordedSamples.awaiting, update_self, List.append_assoc]
    exact part.append_left _

theorem Matches.keep (same : Matches history endpointId subscriber) (queue : later.queue = subscriber.queue)
    (alive : later.alive = subscriber.alive) (inHand : subscriber.alive = true → later.inHand = subscriber.inHand) :
    Matches history endpointId later := by
  refine ⟨by rw [queue]; exact same.queued, ?_, ?_⟩
  · rw [same.inHand, alive]
    split
    next living => exact (inHand living).symm
    next => rfl
  · intro living
    rw [alive] at living
    rw [inHand living]
    exact same.single living

variable {sent : List SocketEvent} {connected : Bool} {items : List ChunkHandle} {sound : Prop}

section Steps
variable (usable : Usable sound subscriber) (same : Matches history endpointId subscriber)

include same in
private theorem read_step (taken : subscriber.step connected pool .read = some (later, sent)) :
    HistoryStep pool endpointId subscriber [] history (history.moved pool endpointId subscriber .read) ∧
      Matches (history.moved pool endpointId subscriber .read) endpointId later := by
  simp only [SubscriberEnd.step] at taken
  split at taken
  next handle rest alive inHand =>
    have single := same.single alive
    rw [inHand, List.length_cons] at single
    have last : rest = [] := List.eq_nil_of_length_eq_zero (by omega)
    subst rest
    have held (dispatch : Dispatch) (present : dispatch ∈ history.inHand endpointId) : dispatch.handle = handle := by
      have listed := same.inHand
      simp only [alive, if_true, inHand] at listed
      have member := List.mem_map_of_mem (f := (·.handle)) present
      rw [listed] at member
      exact List.mem_singleton.mp member
    simp only [SampleHistory.moved, inHand]
    have step : HistoryStep pool endpointId subscriber [] history
        { history with
          inHand := update history.inHand endpointId []
          taken := if (MemoryPoolView.read pool handle subscriber.maxMessageSize).error = .ok then
              update history.taken endpointId (history.taken endpointId ++ (history.inHand endpointId).map fun dispatch =>
                Take.mk dispatch (MemoryPoolView.read pool handle subscriber.maxMessageSize).sequence)
            else history.taken } := by
      refine ⟨fun _ _ => rfl, fun other apart => update_of_ne apart _ _, ?_, ?_, ?_, ?_, rfl⟩
      · intro other apart
        simp only
        split
        · exact update_of_ne apart _ _
        · rfl
      · simp only [samples, awaiting, update_self]
        split
        · simp [comp_def]
        · simp
      · simp [awaiting]
      · intro take present
        simp only at present
        split at present
        · rw [update_self] at present
          rcases List.mem_append.mp present with old | new
          · exact .inl old
          · obtain ⟨dispatch, member, rfl⟩ := List.mem_map.mp new
            exact .inr ⟨alive, dispatch, member, by rw [held dispatch member]⟩
        · exact .inl present
    refine ⟨step, ?_⟩
    split at taken <;>
    · cases taken
      exact ⟨same.queued, by simp, by simp⟩
  · cases taken

include usable same

private theorem dequeue_step {attempt : LockAttempt}
    (taken : subscriber.step connected pool (.dequeue attempt) = some (later, sent)) :
    HistoryStep pool endpointId subscriber [] history (history.moved pool endpointId subscriber (.dequeue attempt)) ∧
      Matches (history.moved pool endpointId subscriber (.dequeue attempt)) endpointId later := by
  obtain ⟨rest, content, next⟩ := usable.held.tryDequeue attempt
  simp only [SubscriberEnd.step] at taken
  split at taken
  next ready =>
    obtain ⟨alive, _, _, none⟩ := ready
    have idle : history.inHand endpointId = [] := by simpa [alive, none] using same.inHand
    split at taken
    next queue answer =>
      cases taken
      rw [answer] at content next
      have unmoved : history.moved pool endpointId subscriber (.dequeue attempt) = history := by
        simp [SampleHistory.moved, answer]
      rw [unmoved]
      refine ⟨.refl history, ⟨?_, same.inHand, same.single⟩⟩
      rw [same.queued, ← content]
      exact next.stored.symm
    next handle queue answer =>
      cases taken
      rw [answer] at content next
      obtain ⟨first, others, split⟩ : ∃ first others, history.queued endpointId = first :: others := by
        cases listed : history.queued endpointId with
        | nil =>
          have nothing := same.queued
          rw [listed, ← content] at nothing
          cases nothing
        | cons first others => exact ⟨first, others, rfl⟩
      have heads : first.handle = handle ∧ others.map (·.handle) = rest := by
        have matched := same.queued
        rw [split, ← content] at matched
        simpa using matched
      simp only [SampleHistory.moved, answer, Option.isSome_some, if_true, split, List.tail_cons, List.take_succ_cons,
        List.take_zero]
      refine ⟨⟨fun other apart => update_of_ne apart _ _, fun other apart => update_of_ne apart _ _, fun _ _ => rfl, ?_, ?_,
        fun _ => .inl, rfl⟩, ⟨?_, ?_, ?_⟩⟩
      · simp [samples, awaiting, idle, split]
      · simp [awaiting, idle, split]
      · simpa [heads.2] using next.stored.symm
      · simp [alive, heads.1]
      · simp
  · cases taken

private theorem closeAndDrain_step {attempt : LockAttempt}
    (taken : subscriber.step connected pool (.closeAndDrain attempt) = some (later, sent)) :
    HistoryStep pool endpointId subscriber [] history (history.moved pool endpointId subscriber (.closeAndDrain attempt)) ∧
      Matches (history.moved pool endpointId subscriber (.closeAndDrain attempt)) endpointId later := by
  simp only [SubscriberEnd.step] at taken
  split at taken
  next ready =>
    obtain ⟨alive, none⟩ := ready
    have idle : history.inHand endpointId = [] := by simpa [alive, none] using same.inHand
    have outcome := usable.held.closeAndDrain attempt
    split at taken
    next thrown queue answer =>
      cases taken
      rw [answer] at outcome
      have next : Has sound queue (stored subscriber.queue) := by
        rcases outcome with ⟨_, next⟩ | ⟨drained, _⟩
        · exact next
        · cases drained
      simp only [SampleHistory.moved, answer]
      exact ⟨.refl history, by rw [same.queued]; exact next.stored.symm, by simp [idle], by simp⟩
    next handles queue answer =>
      cases taken
      rw [answer] at outcome
      have next : Has sound queue [] := by
        rcases outcome with ⟨⟨thrown, failed⟩, _⟩ | ⟨_, next⟩
        · cases failed
        · exact next
      simp only [SampleHistory.moved, answer]
      exact ⟨.requeue (by simp), by simpa using next.stored.symm, by simp [idle], by simp⟩
  · cases taken

theorem moved_step {step : SubscriberStep} (taken : subscriber.step connected pool step = some (later, sent)) :
    HistoryStep pool endpointId subscriber [] history (history.moved pool endpointId subscriber step) ∧
      Matches (history.moved pool endpointId subscriber step) endpointId later := by
  cases step with
  | dequeue => exact dequeue_step usable same taken
  | read => exact read_step same taken
  | closeAndDrain => exact closeAndDrain_step usable same taken
  | releaseDrained =>
    simp only [SubscriberEnd.step] at taken
    split at taken
    next gone _ =>
      cases taken
      exact ⟨.refl history, same.keep rfl rfl fun alive => by simp [alive] at gone⟩
    · cases taken
  | acceptPendingConnection | receiveWakeAvailable | releaseView | unsubscribe | hangUp =>
    simp only [SubscriberEnd.step, Option.ite_none_right_eq_some, Option.some.injEq, Prod.mk.injEq] at taken
    obtain ⟨_, rfl, rfl⟩ := taken
    exact ⟨.refl history, same.keep rfl rfl fun _ => rfl⟩
  | pause =>
    cases taken
    exact ⟨.refl history, same⟩

theorem reset_step {reset : QueueReset} (taken : subscriber.reset reset = some later) :
    HistoryStep pool endpointId subscriber [] history (history.reset endpointId subscriber reset) ∧
      Matches (history.reset endpointId subscriber reset) endpointId later := by
  cases reset with
  | ownerDeath head tail size maxSize counters closes stores =>
    simp only [SubscriberEnd.reset, Option.ite_none_left_eq_some, Option.some.injEq] at taken
    obtain ⟨_, rfl⟩ := taken
    have next := usable.held.held.ownerDeath head tail size maxSize counters closes stores
    exact ⟨.requeue (by simp), by simpa [SampleHistory.reset] using next.stored.symm, same.inHand, same.single⟩
  | resetPublisherState deadPoolId discoveredPoolId attempt =>
    simp only [SubscriberEnd.reset, Option.ite_none_right_eq_some, Option.some.injEq] at taken
    obtain ⟨⟨alive, none⟩, rfl⟩ := taken
    have idle : history.inHand endpointId = [] := by simpa [alive, none] using same.inHand
    have next := usable.held.held.discardPool deadPoolId attempt
    simp only [SampleHistory.reset]
    split
    next locked =>
      rw [if_pos locked, ← same.queued, List.filter_map] at next
      exact ⟨.requeue (by simp), by simpa [comp_def] using next.stored.symm, by simp [idle, none], by simp [none]⟩
    next unlocked =>
      rw [if_neg unlocked] at next
      exact ⟨.refl history, by rw [same.queued]; exact next.stored.symm, by simp [idle, none], by simp [none]⟩
  | recoverAndClose region attempt =>
    simp only [SubscriberEnd.reset, Option.ite_none_left_eq_some, Option.some.injEq] at taken
    obtain ⟨_, rfl⟩ := taken
    have next := usable.held.held.recoverAndClose subscriber.descriptor region attempt
    simp only [SampleHistory.reset]
    split
    next cleared =>
      rw [if_pos cleared] at next
      exact ⟨.requeue (by simp), by simpa using next.stored.symm, same.inHand, same.single⟩
    next kept =>
      rw [if_neg kept] at next
      exact ⟨.refl history, by rw [same.queued]; exact next.stored.symm, same.inHand, same.single⟩

end Steps

/-- The history once an enqueue has answered, or still waits. -/
def answered (history : SampleHistory) (endpointId : UInt64) (dispatch : Dispatch) : Option QueueEnqueueResult → SampleHistory
  | none => history
  | some result => history.enqueued endpointId dispatch result

/-- An answer drops from a queue only what is in it. -/
def DropsQueued (items : List ChunkHandle) (answer : Option QueueEnqueueResult) : Prop :=
  ∀ result, answer = some result → result.droppedOldest.toList.length ≤ items.length

theorem answered_step (pool : MemoryPool) {dispatch : Dispatch} {notify : Option Bool}
    {answer : Option QueueEnqueueResult × SharedSubscriberQueue} (same : Matches history endpointId subscriber)
    (content : Answered (stored subscriber.queue) dispatch.handle notify answer.1 items) (next : Held answer.2 items)
    (drops : DropsQueued (stored subscriber.queue) answer.1) :
    HistoryStep pool endpointId subscriber [dispatch] history (answered history endpointId dispatch answer.1) ∧
      ∀ wakes, Matches (answered history endpointId dispatch answer.1) endpointId
        { subscriber with queue := answer.2, unreadWakes := wakes } := by
  have unchanged : HistoryStep pool endpointId subscriber [dispatch] history history :=
    ⟨fun _ _ => rfl, fun _ _ => rfl, fun _ _ => rfl, List.sublist_append_left _ _, List.sublist_append_left _ _, fun _ => .inl,
      rfl⟩
  obtain ⟨result | result, queue⟩ := answer
  · have kept : items = stored subscriber.queue := content
    exact ⟨unchanged, fun _ => ⟨same.queued.trans (kept.symm.trans next.stored.symm), same.inHand, same.single⟩⟩
  · have rows := content.content
    simp only [answered, SampleHistory.enqueued]
    split
    next accepted =>
      rw [if_pos accepted] at rows
      have fewer := drops result rfl
      refine ⟨.requeue ((List.drop_sublist _ _).append_right _), fun _ => ⟨?_, same.inHand, same.single⟩⟩
      have rest : items = (stored subscriber.queue).drop result.droppedOldest.toList.length ++ [dispatch.handle] := by
        have cut := congrArg (List.drop result.droppedOldest.toList.length) rows
        rwa [List.drop_left, List.drop_append_of_le_length fewer] at cut
      simpa [← same.queued, rest] using next.stored.symm
    next refused =>
      rw [if_neg refused] at rows
      exact ⟨unchanged, fun _ => ⟨same.queued.trans (rows.symm.trans next.stored.symm), same.inHand, same.single⟩⟩

theorem enqueue_drops {queue : SharedSubscriberQueue} (held : Held queue items)
    (handle : ChunkHandle) (notify : Option Bool) (attempt : LockAttempt) :
    DropsQueued items (queue.enqueue handle notify attempt).1 := by
  intro result answer
  cases dropped : result.droppedOldest with
  | none => simp
  | some =>
    obtain ⟨full, _⟩ := held.enqueue_full answer dropped
    obtain ⟨fifo, related, _⟩ := held
    have positive := related.positive
    rw [← related.capacity] at positive
    rw [full]
    exact positive

theorem resumeEnqueue_drops {queue : SharedSubscriberQueue} (handle : ChunkHandle)
    (notify : Option Bool) (wait : WaitResult) (consistent : Bool) (elapsedNs : UInt64) :
    DropsQueued items (queue.resumeEnqueue handle notify wait consistent elapsedNs).1 := by
  intro result answer
  simp [resumeEnqueue_undropped answer]

def pending : PublisherPhase → List UInt64
  | .idle => []
  | .serving _ _ remaining | .enqueued _ _ _ remaining _ => remaining
  | .waiting _ _ endpointId remaining => endpointId :: remaining

/-- What one step does to a topic and its history. -/
inductive RecordedEffect (recorded : RecordedTopic) : RecordedTopic → Prop where
  | subscribed {endpointId : UInt64} {subscriber : SubscriberEnd} (new : recorded.topic.subscribers[endpointId]? = none)
      (empty : stored subscriber.queue = []) (idle : subscriber.inHand = []) :
      RecordedEffect recorded
        ⟨{ recorded.topic with subscribers := recorded.topic.subscribers.insert endpointId subscriber }, recorded.history⟩
  | changed {endpointId : UInt64} {subscriber later : SubscriberEnd} {publisher : Publisher} {history : SampleHistory}
      (found : recorded.topic.subscribers[endpointId]? = some subscriber) (pool : publisher.pool = recorded.topic.publisher.pool)
      (sequence : publisher.sequence = recorded.topic.publisher.sequence)
      (same : endpoints publisher.connections = endpoints recorded.topic.publisher.connections)
      (step : HistoryStep recorded.topic.publisher.pool endpointId subscriber [] recorded.history history)
      (own : Matches history endpointId later) (size : later.maxMessageSize = subscriber.maxMessageSize) :
      RecordedEffect recorded
        ⟨{ recorded.topic with
           subscribers := recorded.topic.subscribers.insert endpointId later
           publisher }, history⟩
  | called {answers : RefreshAnswers} {prepared : (PublishResult ⊕ Dispatch) × Publisher} {loans : List ChunkHandle}
      (idle : recorded.topic.phase = .idle)
      (effect : Prepared (recorded.topic.discoveryAnswers answers) recorded.topic.publisher prepared) :
      RecordedEffect recorded ⟨SharedTopic.begin { recorded.topic with loans } prepared, recorded.history⟩
  | enqueued {dispatch : Dispatch} {progress : DispatchProgress} {endpointId : UInt64} {remaining : List UInt64}
      {subscriber : SubscriberEnd} {pool : MemoryPool} {answer : Option QueueEnqueueResult × SharedSubscriberQueue}
      {history : SampleHistory} (busy : calling recorded.topic.phase = some (dispatch, progress))
      (turn : pending recorded.topic.phase = endpointId :: remaining)
      (joined : endpointId ∈ endpoints recorded.topic.publisher.connections)
      (found : recorded.topic.subscribers[endpointId]? = some subscriber)
      (retains : Retains none recorded.topic.publisher.pool pool)
      (step : HistoryStep recorded.topic.publisher.pool endpointId subscriber [dispatch] recorded.history history)
      (waits : answer.1 = none → history = recorded.history)
      (own : ∀ wakes, Matches history endpointId { subscriber with queue := answer.2, unreadWakes := wakes }) :
      RecordedEffect recorded
        ⟨SharedTopic.afterEnqueue { recorded.topic with publisher.pool := pool } dispatch progress endpointId remaining
          subscriber answer, history⟩
  | served {dispatch : Dispatch} {progress noted : DispatchProgress} {remaining : List UInt64} {publisher : Publisher}
      (busy : calling recorded.topic.phase = some (dispatch, progress))
      (fewer : remaining.Sublist (pending recorded.topic.phase))
      (sequence : publisher.sequence = recorded.topic.publisher.sequence)
      (same : endpoints publisher.connections = endpoints recorded.topic.publisher.connections)
      (retains : Retains none recorded.topic.publisher.pool publisher.pool)
      (result : noted.result.sequence = progress.result.sequence) :
      RecordedEffect recorded
        ⟨{ recorded.topic with publisher, phase := .serving dispatch noted remaining }, recorded.history⟩
  | finished {dispatch : Dispatch} {progress : DispatchProgress} (phase : recorded.topic.phase = .serving dispatch progress []) :
      RecordedEffect recorded
        ⟨{ recorded.topic with
           publisher := (recorded.topic.publisher.finishDispatch dispatch progress).2
           phase := .idle },
         { recorded.history with
           returned := recorded.history.returned ++
             [(dispatch, (recorded.topic.publisher.finishDispatch dispatch progress).1)] }⟩

structure Recorded (history : SampleHistory) (subscribers : ExtTreeMap UInt64 SubscriberEnd) : Prop where
  known : ∀ (endpointId : UInt64) (subscriber : SubscriberEnd), subscribers[endpointId]? = some subscriber →
    Matches history endpointId subscriber
  unknown : ∀ endpointId : UInt64, subscribers[endpointId]? = none → awaiting history endpointId = []

variable {recorded next : RecordedTopic} {losses : List ChunkHandle → Prop}

private theorem settleEnqueue_sequence (pool : MemoryPool) (connection : DataConnection) (handle : ChunkHandle)
    (progress : DispatchProgress) (result : QueueEnqueueResult) :
    (settleEnqueue pool connection handle progress result).2.2.result.sequence = progress.result.sequence := by
  have note (progress : DispatchProgress) (failure : ErrorCode) : (progress.note failure).result = progress.result := by
    unfold DispatchProgress.note
    split <;> rfl
  unfold settleEnqueue
  simp only
  split
  · split <;> (split <;> rfl)
  all_goals
    simp only [note]
    split <;> rfl

private theorem record_call {history : SampleHistory} {topic following : SharedTopic} {event : TopicEvent} (call : IsCall event) :
    history.record topic following (.event event) = history := by
  cases event <;> first | rfl | exact call.elim

def Enqueues : TopicEvent → Prop
  | .enqueue .. | .resumeEnqueue .. => True
  | _ => False

private theorem record_afterEnqueue (event : TopicEvent) (enqueues : Enqueues event) (history : SampleHistory)
    (topic reserved : SharedTopic) (dispatch : Dispatch) (progress : DispatchProgress) (endpointId : UInt64)
    (remaining : List UInt64) (subscriber : SubscriberEnd) (answer : Option QueueEnqueueResult × SharedSubscriberQueue) :
    history.record topic (reserved.afterEnqueue dispatch progress endpointId remaining subscriber answer) (.event event) =
      answered history endpointId dispatch answer.1 := by
  obtain ⟨result | result, queue⟩ := answer <;> cases event <;> first | rfl | exact enqueues.elim

theorem event_effect (tracked : Tracked losses recorded.topic)
    (matched : Recorded recorded.history recorded.topic.subscribers) {event : TopicEvent} {following : SharedTopic}
    (effect : TopicEffect recorded.topic event following) :
    RecordedEffect recorded ⟨following, recorded.history.record recorded.topic following (.event event)⟩ := by
  have valid := tracked.settled.accounted.valid
  cases effect with
  | subscribed new created => exact .subscribed new (create_working created).1.stored rfl
  | @moved endpointId step subscriber after sent found taken =>
    obtain ⟨step, own⟩ := moved_step (tracked.usable _ _ found) (matched.known _ _ found) taken
    simp only [SampleHistory.record, found]
    exact .changed found rfl rfl (arrive_endpoints _ _ _) step own (step_account (tracked.usable _ _ found) taken).maxMessageSize
  | called call _ idle effect =>
    rw [record_call call]
    exact .called idle effect.toPrepared
  | @skipped _ _ dispatch progress noted _ _ connection pool phase _ skips =>
    have kept := offerReference_kept tracked.settled.accounted
      (outstandingLimit recorded.topic.publisher.config.memoryPool) connection dispatch.handle progress
    rw [skips] at kept
    obtain ⟨failure, rfl⟩ := offerReference_skips skips
    refine .served (by rw [phase]; rfl) (by simp [phase, pending]) rfl rfl kept.retains ?_
    unfold DispatchProgress.note
    split <;> rfl
  | @offered notified attempt dispatch progress endpointId remaining connection pool wake subscriber phase chosen found offers _ =>
    have held := (tracked.usable _ _ found).held.held
    obtain ⟨items, content, following⟩ := held.enqueue dispatch.handle (some notified) attempt
    have kept := offerReference_kept tracked.settled.accounted
      (outstandingLimit recorded.topic.publisher.config.memoryPool) connection dispatch.handle progress
    rw [offers] at kept
    have joined : endpointId ∈ endpoints recorded.topic.publisher.connections :=
      List.mem_map.mpr ⟨connection, (connection_some chosen).1, (connection_some chosen).2⟩
    obtain ⟨step, own⟩ := answered_step recorded.topic.publisher.pool (matched.known _ _ found) content following
      (enqueue_drops held _ _ _)
    rw [record_afterEnqueue (.enqueue notified attempt) trivial]
    exact .enqueued (by rw [phase]; rfl) (by rw [phase]; rfl) joined found kept.retains step (fun none => by rw [none]; rfl) own
  | @resumed notified wait elapsedNs dispatch progress endpointId remaining subscriber phase found _ =>
    have held := (tracked.usable _ _ found).held.held
    obtain ⟨items, content, following⟩ := held.resumeEnqueue dispatch.handle (some notified) wait true elapsedNs
    have joined : endpointId ∈ endpoints recorded.topic.publisher.connections :=
      tracked.busy endpointId (by rw [phase]; simp [current])
    obtain ⟨step, own⟩ := answered_step recorded.topic.publisher.pool (matched.known _ _ found) content following
      (resumeEnqueue_drops _ _ _ _ _)
    rw [record_afterEnqueue (.resumeEnqueue notified wait elapsedNs) trivial]
    exact .enqueued (by rw [phase]; rfl) (by rw [phase]; rfl) joined found (.refl valid) step (fun none => by rw [none]; rfl) own
  | @settled dispatch progress endpointId remaining result connection phase chosen =>
    exact .served (by rw [phase]; rfl) (by simp [phase, pending]) rfl (replaceConnection_endpoints _ _ _)
      (settle_kept tracked phase chosen).retains (settleEnqueue_sequence _ _ _ _ _)
  | @finished dispatch progress phase =>
    simp only [SampleHistory.record, phase]
    exact .finished phase

theorem recorded_effect (tracked : Tracked losses recorded.topic)
    (matched : Recorded recorded.history recorded.topic.subscribers) {move : TopicMove} (taken : recorded.step move = some next) :
    RecordedEffect recorded next := by
  obtain ⟨following, moved, rfl⟩ := Option.map_eq_some_iff.mp taken
  cases move with
  | event event => exact event_effect tracked matched (tracked.effect moved)
  | reset =>
    simp only [SharedTopic.move] at moved
    split at moved
    · cases moved
    next subscriber found =>
      obtain ⟨later, cleared, rfl⟩ := Option.map_eq_some_iff.mp moved
      have usable := tracked.usable _ _ found
      obtain ⟨step, own⟩ := reset_step usable (matched.known _ _ found) cleared
      simp only [SampleHistory.record, found]
      exact .changed found rfl rfl rfl step own (reset_account usable cleared).maxMessageSize

/-- A subscriber and the history of its endpoint change together. -/
private theorem Recorded.touch {subscribers : ExtTreeMap UInt64 SubscriberEnd} {new : List Dispatch}
    (matched : Recorded before subscribers) (step : HistoryStep pool endpointId subscriber new before after)
    (own : Matches after endpointId later) : Recorded after (subscribers.insert endpointId later) := by
  refine ⟨?_, ?_⟩
  · intro other found present
    rcases (lookup_insert _ _ _ _ _).mp present with ⟨rfl, rfl⟩ | ⟨apart, old⟩
    · exact own
    · obtain ⟨queued, inHand, single⟩ := matched.known other found old
      exact ⟨by rw [step.queued other apart]; exact queued, by rw [step.inHand other apart]; exact inHand, single⟩
  · intro other absent
    have apart : other ≠ endpointId := by
      rintro rfl
      simp at absent
    have old : subscribers[other]? = none := by
      rw [ExtTreeMap.getElem?_insert] at absent
      grind
    rw [awaiting, step.queued other apart, step.inHand other apart]
    exact matched.unknown other old

theorem step_recorded (matched : Recorded recorded.history recorded.topic.subscribers) (effect : RecordedEffect recorded next) :
    Recorded next.history next.topic.subscribers := by
  cases effect with
  | @subscribed endpointId subscriber new empty idle =>
    have nothing := List.append_eq_nil_iff.mp (matched.unknown endpointId new)
    have same : HistoryStep recorded.topic.publisher.pool endpointId subscriber [] recorded.history recorded.history := .refl _
    exact matched.touch same ⟨by simp [nothing.2, empty], by simp [nothing.1, idle], by simp [idle]⟩
  | changed _ _ _ _ step own _ => exact matched.touch step own
  | @called _ prepared _ _ _ => obtain ⟨outcome | dispatch, publisher⟩ := prepared <;> exact matched
  | @enqueued dispatch progress endpointId remaining subscriber pool answer history _ _ _ found _ step _ own =>
    obtain ⟨wakes, same⟩ := afterEnqueue_subscribers { recorded.topic with publisher.pool := pool } dispatch progress endpointId
      remaining subscriber answer
    rw [same]
    exact matched.touch step (own wakes)
  | served => exact matched
  | finished =>
    refine ⟨fun endpointId subscriber found => ?_, matched.unknown⟩
    obtain ⟨queued, inHand, single⟩ := matched.known endpointId subscriber found
    exact ⟨queued, inHand, single⟩

end RobotMiddleware.Proofs.RecordedSamples
