import RobotMiddleware.Proofs.GenuineWakes

/-! A subscriber whose topic has one pool only. Whatever it remembers is that pool,
so all Wakes are taken, and as long as the handles in its queue can be read no call
reports a broken handle or a foreign segment. -/

namespace RobotMiddleware.Proofs.SolePublisher
open Lib.Transitions Succession SuccessionEffects SubscriberEffects SuccessionInvariant GenuineWakes

/-- An error that says that a handle or a pool was not as announced. -/
def Alarming (error : ErrorCode) : Prop := error = .invalidChunkHandle ∨ error = .invalidSharedMemory

/-- Only the pool with this descriptor is announced. -/
def OnlyPool (descriptor : PoolDescriptor) : SuccessionEvent → Prop
  | .publisher (.advertise announced) => announced = descriptor
  | _ => True

/-- The one pool can be mapped, and every handle that a take finds in the queue can be read. -/
def Faultless (descriptor : PoolDescriptor) (state : Succession) (event : SuccessionEvent) : Prop :=
  OnlyPool descriptor event ∧ match event with
    | .subscriber (.recv _ segment) => segment = .opened
    | .subscriber (.dequeue attempt pool) => ∀ handle, (state.queue.tryDequeue attempt).1 = some handle →
      (MemoryPoolView.read pool handle state.subscriber.maxMessageSize).error = .ok
    | _ => True

def Sole (descriptor : PoolDescriptor) (state : Succession) : Prop :=
  ∀ (index : Nat) (record : PublisherRecord), state.publishers[index]? = some record → record.descriptor = descriptor

/-- Whatever `recv` may return now, the Wake path answers without an alarm. -/
def TakesWakes (state : Succession) : Prop :=
  ∀ socket outcome error, state.subscriber.connection = some socket →
    socket.allows state.subscriber.wanted outcome = true →
    (state.subscriber.receiveWake socket outcome .opened).1 = some error → ¬Alarming error

variable {before after : Succession} {descriptor : PoolDescriptor}

theorem Sole.takesWakes (sole : Sole descriptor before) (inv : Inv before) : TakesWakes before := by
  intro socket outcome error connected allowed answered
  cases outcome with
  | bytes count =>
    simp only [Subscriber.receiveWake] at answered
    split at answered
    · cases answered
    next enough =>
      have full : (before.subscriber.headerBuffer ++ socket.pending.take count).length = kQueueWakeSize := by
        have short := inv.short
        simp only [DataSocket.allows, Subscriber.wanted, inv.shm, Bool.and_eq_true, decide_eq_true_eq] at allowed
        simp only [List.length_append, List.length_take] at enough ⊢
        omega
      obtain ⟨record, frame, rest, torn, wired, first⟩ := full_buffer inv connected full
      have only : RemembersOnly before.subscriber record.descriptor := by
        rcases inv.memory.remembered with ⟨_, none⟩ | ⟨index, other, found, same⟩
        · exact .inl none
        · right
          rw [same, sole _ _ found, sole _ _ wired.found]
      rw [← Option.some.inj answered, wake_taken inv wired.found only rfl (by rw [first]; exact wired.frames)]
      simp [Alarming]
  | endOfStream =>
    simp only [Subscriber.receiveWake, Option.some.injEq] at answered
    rw [← answered]
    split <;> simp [Alarming]
  | interrupted => cases answered
  | connectionReset | wouldBlock | failed => cases answered; simp [Alarming]

theorem takeWake_lastError (subscriber : Subscriber) (segment : SegmentOutcome) :
    (subscriber.takeWake segment).2.lastError = subscriber.lastError := by
  unfold Subscriber.takeWake
  simp only
  split
  · rfl
  split
  · rfl
  split
  · rfl
  split
  · split <;> rfl
  · split <;> rfl

theorem drained_quiet {state : Succession} {answer : Option ErrorCode} (quiet : ¬Alarming state.subscriber.lastError)
    (harmless : ∀ error, answer = some error → ¬Alarming error) :
    ¬Alarming (drained state answer).subscriber.lastError ∧ ¬Alarming (received state answer).subscriber.lastError := by
  have failed {error : ErrorCode} (answered : answer = some error) : ¬Alarming (state.failWake error).subscriber.lastError := by
    unfold failWake
    split <;> exact harmless error answered
  cases answer with
  | none => exact ⟨quiet, quiet⟩
  | some error =>
    have reported := failed rfl
    cases error <;> first | exact ⟨reported, reported⟩ | exact ⟨quiet, quiet⟩ | exact ⟨quiet, by simp [received, Alarming]⟩

theorem receiveWake_lastError (subscriber : Subscriber) (socket : DataSocket) (outcome : RecvOutcome)
    (segment : SegmentOutcome) : (subscriber.receiveWake socket outcome segment).2.lastError = subscriber.lastError := by
  unfold Subscriber.receiveWake
  cases outcome with
  | bytes count =>
    simp only
    split
    · rfl
    · exact takeWake_lastError _ _
  | _ => rfl

theorem moveSubscriber_quiet (inv : Inv before) (sole : Sole descriptor before)
    (quiet : ¬Alarming before.subscriber.lastError) {move : SubscriberMove}
    (faultless : Faultless descriptor before (.subscriber move)) (taken : before.moveSubscriber move = some after) :
    ¬Alarming after.subscriber.lastError := by
  have moved {error : ErrorCode} {middle : Succession} (moves : Moves error middle after) (calm : ¬Alarming error) :
      ¬Alarming after.subscriber.lastError := by
    obtain ⟨_, rfl, _⟩ := moves
    exact calm
  have forgets (poolId : UInt64) : (before.subscriber.resetPublisher poolId).lastError = before.subscriber.lastError := by
    unfold Subscriber.resetPublisher
    split <;> rfl
  cases moveSubscriber_steps taken with
  | subscribed | called | knocked | arrived | accepted => exact quiet
  | entered =>
    obtain ⟨error, moves, rfl | rfl⟩ := enterLoop_moves before
    · exact moved moves quiet
    · exact moved moves (by simp [Alarming])
  | discarded | lostDiscarded =>
    simp only [discardPool, inv.shm]
    exact quiet
  | reset | lostReset =>
    simp only [forgets]
    exact quiet
  | peeked attempt =>
    obtain ⟨queue, _, moves | ⟨_, _, _, _, _, same⟩⟩ := peek_cases before attempt
    · exact moved moves quiet
    · rw [same]
      exact quiet
  | dequeued attempt pool =>
    obtain ⟨error, moves, rfl | ⟨handle, found, rfl⟩⟩ := dequeue_moves before attempt pool
    · exact moved moves quiet
    · exact moved moves (by simp [faultless.2 handle found, Alarming])
  | expired | unheard | broken => simp [stop, Alarming]
  | interrupted | unaccepted => exact moved (repeatLoop_moves before) quiet
  | drained segment _ connected allowed =>
    obtain ⟨_, rfl⟩ := faultless
    refine (drained_quiet ?_ fun error => sole.takesWakes inv _ _ error connected allowed).1
    rw [receiveWake_lastError]
    exact quiet
  | received segment _ connected allowed =>
    obtain ⟨_, rfl⟩ := faultless
    refine (drained_quiet ?_ fun error => sole.takesWakes inv _ _ error connected allowed).2
    rw [receiveWake_lastError]
    exact quiet
  | receivedUds _ _ uds =>
    rw [inv.shm] at uds
    cases uds

theorem step_sole (inv : Inv before) (sole : Sole descriptor before) {event : SuccessionEvent}
    (only : OnlyPool descriptor event) (taken : before.step event = some after) : Sole descriptor after := by
  cases event with
  | subscriber move =>
    have frame := moveSubscriber_local taken
    rw [Sole, frame.publishers]
    exact sole
  | publisher move =>
    cases movePublisher_effect inv.shm inv.roster.patient taken with
    | advertised announced mover admitted same =>
      subst mover same
      intro index record found
      rcases List.mem_append.mp (List.mem_of_getElem? found) with old | new
      · obtain ⟨other, present⟩ := List.mem_iff_getElem?.mp old
        exact sole other record present
      · rw [List.mem_singleton.mp new]
        exact only
    | moved moved =>
      intro index record found
      rcases (moved_lookup moved _ _).mp found with ⟨rfl, rfl⟩ | ⟨_, had⟩
      · rw [moved.descriptor]
        exact sole _ _ moved.found
      · exact sole _ _ had
    | reported found mover killed same =>
      subst same
      exact sole

theorem step_quiet (inv : Inv before) (sole : Sole descriptor before) (quiet : ¬Alarming before.subscriber.lastError)
    {event : SuccessionEvent} (faultless : Faultless descriptor before event) (taken : before.step event = some after) :
    ¬Alarming after.subscriber.lastError := by
  cases event with
  | subscriber move => exact moveSubscriber_quiet inv sole quiet faultless taken
  | publisher move =>
    cases movePublisher_effect inv.shm inv.roster.patient taken with
    | advertised _ _ _ same | reported _ _ _ same =>
      subst same
      exact quiet
    | moved moved =>
      obtain ⟨change, _, subscriber⟩ := moved.touched.accepted
      rw [subscriber]
      exact quiet

/-- In every run with one pool the Wake path raises no alarm, and no call does if all that
a take finds can be read. -/
theorem sole_pool_quiet {maxMessageSize topicId : UInt64} {queueDescriptor : QueueDescriptor} {queue : SharedSubscriberQueue}
    (created : SharedSubscriberQueue.create queueDescriptor = .ok queue) {events : List SuccessionEvent} {state : Succession}
    (run : execute step (start .sharedMemory maxMessageSize topicId queueDescriptor queue) events = some state) :
    (Along step (fun _ => OnlyPool descriptor) (start .sharedMemory maxMessageSize topicId queueDescriptor queue) events →
      TakesWakes state) ∧
    (Along step (Faultless descriptor) (start .sharedMemory maxMessageSize topicId queueDescriptor queue) events →
      ¬Alarming state.subscriber.lastError) := by
  have first : Inv (start .sharedMemory maxMessageSize topicId queueDescriptor queue) ∧
      Sole descriptor (start .sharedMemory maxMessageSize topicId queueDescriptor queue) :=
    ⟨start_inv created, by simp [Sole, start]⟩
  have kept (state : Succession) (event : SuccessionEvent) (next : Succession) (held : Inv state ∧ Sole descriptor state)
      (only : OnlyPool descriptor event) (taken : step state event = some next) : Inv next ∧ Sole descriptor next :=
    ⟨step_inv held.1 taken, step_sole held.1 held.2 only taken⟩
  constructor
  · intro only
    obtain ⟨inv, sole⟩ := only.invariant kept first run
    exact sole.takesWakes inv
  · intro faultless
    have calm (state : Succession) (event : SuccessionEvent) (next : Succession)
        (held : (Inv state ∧ Sole descriptor state) ∧ ¬Alarming state.subscriber.lastError)
        (harmless : Faultless descriptor state event) (taken : step state event = some next) :
        (Inv next ∧ Sole descriptor next) ∧ ¬Alarming next.subscriber.lastError :=
      ⟨kept state event next held.1 harmless.1 taken, step_quiet held.1.1 held.1.2 held.2 harmless taken⟩
    exact (faultless.invariant calm ⟨first, by simp [start, Alarming]⟩ run).2

end RobotMiddleware.Proofs.SolePublisher
