import RobotMiddleware.Lib.Transitions
import RobotMiddleware.Proofs.SuccessionInvariant

/-! `tryTakeQueued` looks at the first handle and removes it in two critical sections.
The handle that it removes is the one that it has looked at, or at least one of the
installed pool, unless an enqueue in between brings another handle to the front. -/

namespace RobotMiddleware.Proofs.ForeignHandles
open Lib.Outcome Lib.Transitions QueueContents QueueRefinement Succession SuccessionEffects SubscriberEffects
open SuccessionInvariant

def Offers (state : Succession) (move : PublisherMove) (handle : ChunkHandle) : Prop :=
  match move with
  | .enqueue _ offered _ _ => offered = handle
  | .resumeEnqueue publisher _ _ _ _ => ∃ record, state.publishers[publisher]? = some record ∧ record.waiting = some handle
  | _ => False

/-- The first handle after an enqueue into a queue that is empty, or full and drops its
oldest handle. No other enqueue changes which handle is the first. -/
def newFront (queue : SharedSubscriberQueue) (handle : ChunkHandle) : Option ChunkHandle :=
  if stored queue = [] ∨ queue.header.overflowPolicy = .dropOldest ∧ (stored queue).length = queue.header.capacity then
    ((stored queue).tail ++ [handle]).head?
  else none

/-- Between the two halves of `tryTakeQueued`, no enqueue brings a handle of another
pool to the front. -/
def KeepsFront (state : Succession) : SuccessionEvent → Prop
  | .publisher move => state.phase = .dequeuing → ∀ view handle first, state.subscriber.poolView = some view →
      Offers state move handle → newFront state.queue handle = some first → first.poolId = view.poolId
  | .subscriber _ => True

def Fronts (poolId : UInt64) (items : List ChunkHandle) : Prop := ∀ first, items.head? = some first → first.poolId = poolId

/-- Between the two halves, the first handle is of the installed pool. -/
def Fronted (state : Succession) : Prop :=
  state.phase = .dequeuing → ∃ view, state.subscriber.poolView = some view ∧ Fronts view.poolId (stored state.queue)

variable {before after : Succession} {items : List ChunkHandle}

/-- What a step of a publisher can make of the content of the queue. -/
inductive Refilled (before : Succession) (move : PublisherMove) (items next : List ChunkHandle) : Prop where
  | same (unchanged : next = items)
  | emptied (nothing : next = [])
  | appended (handle : ChunkHandle) (offer : Offers before move handle) (content : next = items ++ [handle])
  | displaced (handle : ChunkHandle) (offer : Offers before move handle)
      (full : items.length = before.queue.header.capacity) (policy : before.queue.header.overflowPolicy = .dropOldest)
      (content : next = items.tail ++ [handle])

section Publishers

theorem answered_refilled {move : PublisherMove} {handle : ChunkHandle} {notify : Option Bool}
    {answer : Option QueueEnqueueResult} {next : List ChunkHandle} (offer : Offers before move handle)
    (answered : Answered items handle notify answer next)
    (full : ∀ result dropped, answer = some result → result.droppedOldest = some dropped →
      items.length = before.queue.header.capacity ∧ before.queue.header.overflowPolicy = .dropOldest) :
    Refilled before move items next := by
  cases answer with
  | none => exact .same answered
  | some result =>
    have content := answered.content
    split at content
    · cases drops : result.droppedOldest with
      | none =>
        rw [drops] at content
        exact .appended handle offer content
      | some dropped =>
        obtain ⟨length, policy⟩ := full result dropped rfl drops
        rw [drops] at content
        cases items with
        | nil => exact .same (List.cons.inj content).2
        | cons => exact .displaced handle offer length policy (List.cons.inj content).2
    · exact .same content

/-- Only an enqueue puts handles into the queue, and nothing but a full queue makes it
take one out. -/
theorem movePublisher_refilled {move : PublisherMove} (held : Held before.queue items)
    (taken : before.movePublisher move = some after) : ∃ next, Held after.queue next ∧ Refilled before move items next := by
  obtain _ | ⟨publisher, record, found, step⟩ := movePublisher_cases taken
  · exact ⟨items, held, .same rfl⟩
  cases step with
  | joined => exact ⟨items, held.openQueue _ _, .same rfl⟩
  | offered =>
    rw [afterEnqueue_queue]
    obtain ⟨next, answered, remaining⟩ := held.enqueue _ _ _
    exact ⟨next, remaining, answered_refilled rfl answered fun result dropped => held.enqueue_full⟩
  | resumed live waiting =>
    rw [afterEnqueue_queue]
    obtain ⟨next, answered, remaining⟩ := held.resumeEnqueue _ _ _ _ _
    refine ⟨next, remaining, answered_refilled ⟨record, found, waiting⟩ answered fun result dropped answer drops => ?_⟩
    rw [resumeEnqueue_undropped answer] at drops
    cases drops
  | torn => exact ⟨[], held.ownerDeath _ _ _ _ _ _ _, .emptied rfl⟩
  | destroyed =>
    simp only [setPublisher]
    split
    · obtain ⟨next, fewer, drained⟩ := held.drain _
      refine ⟨next, drained, ?_⟩
      rcases fewer with same | nothing
      · exact .same same
      · exact .emptied nothing
    · exact ⟨items, held, .same rfl⟩
  | _ => exact ⟨items, held, .same rfl⟩

theorem refilled_fronts {move : PublisherMove} {next : List ChunkHandle} {poolId : UInt64}
    (refilled : Refilled before move (stored before.queue) next) (fronts : Fronts poolId (stored before.queue))
    (keeps : ∀ handle first, Offers before move handle → newFront before.queue handle = some first → first.poolId = poolId) :
    Fronts poolId next := by
  intro first head
  cases refilled with
  | same unchanged => exact fronts first (unchanged ▸ head)
  | emptied nothing =>
    rw [nothing] at head
    cases head
  | appended handle offer content =>
    cases old : stored before.queue with
    | nil =>
      refine keeps handle first offer ?_
      rw [newFront, if_pos (.inl old), old]
      rw [content, old] at head
      exact head
    | cons =>
      rw [content, old] at head
      exact fronts first (by rw [old]; exact head)
  | displaced handle offer full policy content =>
    refine keeps handle first offer ?_
    rw [newFront, if_pos (.inr ⟨policy, full⟩), ← content]
    exact head

end Publishers

section Subscriber

theorem continues_undecided (continues : Continues before after) (other : before.phase ≠ .dequeuing) :
    after.phase ≠ .dequeuing := by
  obtain ⟨subscriber, phase, rfl, _, rfl | plain⟩ := continues
  · exact other
  · exact plain.2.2

theorem moveSubscriber_dequeuing {move : SubscriberMove} (taken : before.moveSubscriber move = some after)
    (phase : after.phase = .dequeuing) : ∃ attempt, move = .peek attempt ∧ after = before.peek attempt := by
  have moved {error : ErrorCode} {middle : Succession} (moves : Moves error middle after) : False := by
    obtain ⟨_, rfl, _, _, _, undecided, _⟩ := moves
    exact undecided phase
  cases moveSubscriber_steps taken with
  | peeked attempt => exact ⟨attempt, rfl, rfl⟩
  | subscribed | called | discarded | lostDiscarded | reset | lostReset | knocked | arrived | broken | accepted => cases phase
  | entered =>
    obtain ⟨error, moves, _⟩ := enterLoop_moves before
    exact (moved moves).elim
  | dequeued attempt pool =>
    obtain ⟨error, moves, _⟩ := dequeue_moves before attempt pool
    exact (moved moves).elim
  | expired | unheard => exact (moved (stop_moves before _)).elim
  | interrupted | unaccepted => exact (moved (repeatLoop_moves before)).elim
  | drained _ draining => exact absurd phase (continues_undecided (drained_continues _ _) (by simp [draining]))
  | received _ receiving => exact absurd phase (continues_undecided (received_continues _ _) (by simp [receiving]))
  | receivedUds _ receiving => exact absurd phase (continues_undecided (receivedUds_continues _ _) (by simp [receiving]))

theorem peek_held (held : Held before.queue items) (attempt : LockAttempt) : Held (before.peek attempt).queue items := by
  obtain ⟨queue, seen, ⟨_, same, _⟩ | ⟨_, _, _, _, _, same⟩⟩ := peek_cases before attempt
  · rw [same]
    exact peeked_fewer seen held
  · rw [same]
    exact peeked_fewer seen held

theorem dequeue_queue (state : Succession) (attempt : LockAttempt) (pool : MemoryPool) :
    (state.dequeue attempt pool).queue = (state.queue.tryDequeue attempt).2 := by
  obtain ⟨_, ⟨_, same, _⟩, _⟩ := dequeue_moves state attempt pool
  rw [same]

theorem peek_fronts {attempt : LockAttempt} (held : Held before.queue items)
    (phase : (before.peek attempt).phase = .dequeuing) :
    ∃ view, (before.peek attempt).subscriber.poolView = some view ∧ Fronts view.poolId items := by
  obtain ⟨queue, _, ⟨_, same, _, _, _, undecided, _⟩ | ⟨view, handle, installed, seen, own, same⟩⟩ :=
    peek_cases before attempt
  · rw [same] at phase
    exact absurd phase undecided
  · refine ⟨view, by rw [same]; exact installed, fun first head => ?_⟩
    have front := held.peek_first seen
    rw [head, Option.some.injEq] at front
    exact front ▸ own

end Subscriber

theorem movePublisher_unmoved {move : PublisherMove} (inv : Inv before) (taken : before.movePublisher move = some after) :
    after.phase = before.phase ∧ after.subscriber.poolView = before.subscriber.poolView := by
  cases movePublisher_effect inv.shm inv.roster.patient taken with
  | advertised descriptor mover admitted same | reported found mover killed same =>
    subst after
    exact ⟨rfl, rfl⟩
  | moved moved =>
    obtain ⟨change, _, subscriber⟩ := moved.touched.accepted
    exact ⟨moved.phase, by rw [subscriber]⟩

theorem step_fronted {event : SuccessionEvent} (inv : Inv before) (fronted : Fronted before)
    (keeps : KeepsFront before event) (taken : before.step event = some after) : Fronted after := by
  obtain ⟨items, held⟩ := inv.held
  intro phase
  cases event with
  | subscriber move =>
    obtain ⟨attempt, rfl, rfl⟩ := moveSubscriber_dequeuing taken phase
    obtain ⟨view, installed, fronts⟩ := peek_fronts held phase
    exact ⟨view, installed, (peek_held held attempt).stored ▸ fronts⟩
  | publisher move =>
    have unmoved := movePublisher_unmoved inv taken
    obtain ⟨view, installed, fronts⟩ := fronted (unmoved.1 ▸ phase)
    obtain ⟨next, remaining, refilled⟩ := movePublisher_refilled held taken
    refine ⟨view, unmoved.2.trans installed, ?_⟩
    rw [remaining.stored]
    rw [← held.stored] at refilled
    exact refilled_fronts refilled fronts fun handle first => keeps (unmoved.1 ▸ phase) view handle first installed

/-- `tryTakeQueued` removes a handle of the installed pool, or none, in every run in
which no enqueue between its two halves brings a handle of another pool to the front. -/
theorem foreign_handle_stays {maxMessageSize topicId : UInt64} {descriptor : QueueDescriptor}
    {queue : SharedSubscriberQueue} (created : SharedSubscriberQueue.create descriptor = .ok queue)
    {events : List SuccessionEvent} {state next : Succession}
    (keeps : Along step KeepsFront (start .sharedMemory maxMessageSize topicId descriptor queue) events)
    (run : execute step (start .sharedMemory maxMessageSize topicId descriptor queue) events = some state)
    {move : SubscriberMove} (half : ∃ attempt pool, move = .peek attempt ∨ move = .dequeue attempt pool)
    (taken : step state (.subscriber move) = some next) :
    stored next.queue = stored state.queue ∨
      ∃ view handle, state.subscriber.poolView = some view ∧ handle.poolId = view.poolId ∧
        stored state.queue = handle :: stored next.queue := by
  have kept : ∀ before event after, Inv before ∧ Fronted before → KeepsFront before event → before.step event = some after →
      Inv after ∧ Fronted after :=
    fun _ _ _ held keep moved => ⟨step_inv held.1 moved, step_fronted held.1 held.2 keep moved⟩
  obtain ⟨inv, fronted⟩ := keeps.invariant kept ⟨start_inv created, nofun⟩ run
  obtain ⟨items, held⟩ := inv.held
  obtain ⟨attempt, pool, rfl | rfl⟩ := half
  · simp only [step, moveSubscriber] at taken
    split at taken
    · cases taken
      left
      rw [(peek_held held attempt).stored, held.stored]
    · cases taken
  · simp only [step, moveSubscriber] at taken
    split at taken
    next phase =>
      cases taken
      obtain ⟨view, installed, fronts⟩ := fronted phase
      obtain ⟨rest, content, remaining⟩ := held.tryDequeue attempt
      rw [dequeue_queue, remaining.stored, held.stored]
      rw [held.stored] at fronts
      cases removed : (state.queue.tryDequeue attempt).1 with
      | none =>
        rw [removed] at content
        exact .inl content
      | some handle =>
        rw [removed] at content
        exact .inr ⟨view, handle, installed, fronts handle (by rw [← content]; rfl), content.symm⟩
    · cases taken

/-- The pool of the first publisher is installed when it is killed. The subscriber has
looked at its handle when the successor enqueues one, and the queue is full now. -/
def lookedAtFirst : List SuccessionEvent :=
  [.subscriber .subscribe, .publisher (.advertise firstPool), .publisher (.connect 0 {}),
    .publisher (.enqueue 0 ⟨1, 0, 1, 320⟩ kQueueWakeSize {}), .subscriber (.call 0), .subscriber (.processDeath {}),
    .subscriber (.peek {}), .subscriber (.poll .ready), .subscriber (.accept true), .subscriber (.poll .ready),
    .subscriber (.recv (.bytes kQueueWakeSize) .opened), .publisher (.kill 0 none), .publisher (.cleanupDeadNode 0),
    .publisher (.advertise secondPool), .publisher (.connect 1 {}), .subscriber (.peek {}),
    .publisher (.enqueue 1 ⟨2, 0, 1, 320⟩ kQueueWakeSize {})]

/-- The successor enqueues once more, which drops the handle that was looked at. -/
def displacedFirst : List SuccessionEvent := lookedAtFirst ++ [.publisher (.enqueue 1 ⟨2, 1, 1, 640⟩ kQueueWakeSize {})]

theorem dequeuing_run {events : List SuccessionEvent} {view : Option PoolDescriptor} {items rest : List ChunkHandle}
    (seen : ((SharedSubscriberQueue.create sampleQueue).toOption.bind fun queue =>
      (execute step (start .sharedMemory 64 1 sampleQueue queue) events).map fun state =>
        (state.phase, state.subscriber.poolView, stored state.queue, stored (state.queue.tryDequeue {}).2)) =
      some (.dequeuing, view, items, rest)) :
    ∃ queue state, SharedSubscriberQueue.create sampleQueue = .ok queue ∧
      execute step (start .sharedMemory 64 1 sampleQueue queue) events = some state ∧ state.phase = .dequeuing ∧
      state.subscriber.poolView = view ∧ stored state.queue = items ∧
      ∀ pool, step state (.subscriber (.dequeue {} pool)) = some (state.dequeue {} pool) ∧
        stored (state.dequeue {} pool).queue = rest := by
  obtain ⟨queue, created, seen⟩ := Option.bind_eq_some_iff.mp seen
  obtain ⟨state, run, same⟩ := Option.map_eq_some_iff.mp seen
  simp only [Prod.mk.injEq] at same
  obtain ⟨phase, installed, content, remaining⟩ := same
  refine ⟨queue, state, toOption_some created, run, phase, installed, content, fun pool => ⟨?_, ?_⟩⟩
  · simp only [step, moveSubscriber, phase, ite_true]
  · rw [dequeue_queue]
    exact remaining

/-- The handle of the second pool is removed while the first one is installed. -/
theorem foreign_handle_taken :
    ∃ queue state, SharedSubscriberQueue.create sampleQueue = .ok queue ∧
      execute step (start .sharedMemory 64 1 sampleQueue queue) displacedFirst = some state ∧
      state.subscriber.poolView = some firstPool ∧
      ∀ pool, ∃ next, step state (.subscriber (.dequeue {} pool)) = some next ∧
        ¬(stored next.queue = stored state.queue ∨
          ∃ view handle, state.subscriber.poolView = some view ∧ handle.poolId = view.poolId ∧
            stored state.queue = handle :: stored next.queue) := by
  obtain ⟨queue, state, created, run, _, installed, content, removes⟩ :=
    @dequeuing_run displacedFirst (some firstPool) [⟨2, 0, 1, 320⟩, ⟨2, 1, 1, 640⟩] [⟨2, 1, 1, 640⟩] (by decide +kernel)
  refine ⟨queue, state, created, run, installed, fun pool => ⟨_, (removes pool).1, ?_⟩⟩
  rw [(removes pool).2, content, installed]
  rintro (same | ⟨view, handle, viewed, own, split⟩)
  · simp at same
  · cases viewed
    cases split
    simp [firstPool] at own

def keepsFront (state : Succession) : SuccessionEvent → Bool
  | .publisher (.enqueue _ handle _ _) => state.phase != .dequeuing ||
      (newFront state.queue handle).all fun first => state.subscriber.poolView.all fun view => first.poolId == view.poolId
  | .publisher (.resumeEnqueue ..) => state.phase != .dequeuing
  | _ => true

theorem keepsFront_sound (state : Succession) (event : SuccessionEvent) (checked : keepsFront state event = true) :
    KeepsFront state event := by
  cases event with
  | subscriber move => trivial
  | publisher move =>
    intro phase view handle first installed offer front
    cases move with
    | enqueue publisher offered =>
      obtain rfl : offered = handle := offer
      simpa [keepsFront, phase, installed, front] using checked
    | resumeEnqueue => simp [keepsFront, phase] at checked
    | _ => exact offer.elim

theorem foreign_handle_stays_queued :
    ∃ queue state, SharedSubscriberQueue.create sampleQueue = .ok queue ∧
      execute step (start .sharedMemory 64 1 sampleQueue queue) lookedAtFirst = some state ∧
      stored state.queue = [⟨1, 0, 1, 320⟩, ⟨2, 0, 1, 320⟩] ∧
      ∀ pool, ∃ next, step state (.subscriber (.dequeue {} pool)) = some next ∧ stored next.queue = [⟨2, 0, 1, 320⟩] ∧
        (stored next.queue = stored state.queue ∨
          ∃ view handle, state.subscriber.poolView = some view ∧ handle.poolId = view.poolId ∧
            stored state.queue = handle :: stored next.queue) := by
  obtain ⟨queue, state, created, run, _, installed, content, removes⟩ :=
    @dequeuing_run lookedAtFirst (some firstPool) [⟨1, 0, 1, 320⟩, ⟨2, 0, 1, 320⟩] [⟨2, 0, 1, 320⟩] (by decide +kernel)
  have checked : (SharedSubscriberQueue.create sampleQueue).toOption.map (fun queue =>
      checkAlong step keepsFront (start .sharedMemory 64 1 sampleQueue queue) lookedAtFirst) = some true := by decide +kernel
  rw [created] at checked
  have keeps := along_of_check keepsFront_sound (Option.some.inj checked)
  refine ⟨queue, state, created, run, content, fun pool => ⟨_, (removes pool).1, (removes pool).2, ?_⟩⟩
  exact foreign_handle_stays created keeps run ⟨{}, pool, .inr rfl⟩ (removes pool).1

end RobotMiddleware.Proofs.ForeignHandles
