import RobotMiddleware.TimedCalls
import RobotMiddleware.Proofs.LateDeathNotices

/-! A take call that ends with a timeout has lasted as long as it was told to, as long as
its timeout fits the argument of `poll`: a longer one is cut to the largest argument, and
the call ends when that has passed. -/

namespace RobotMiddleware.Proofs.EarlyTimeouts
open Lib.Transitions QueueRefinement Succession SubscriberEffects LateDeathNotices

section Timeouts
variable {before after : Succession} {move : SubscriberMove}

/-- The last call has ended with a timeout, or resets the publisher after one. -/
def Late (state : Succession) : Prop :=
  (losing state.phase ∨ state.phase = .idle) ∧ state.subscriber.lastError = .timeout

theorem await_late (state : Succession) : ¬Late state.await := by
  rintro ⟨ended, _⟩
  simp only [Succession.await, losing] at ended
  split at ended <;> simp at ended

theorem afterTake_late (state : Succession) : ¬Late state.afterTake := by
  unfold afterTake
  split
  next other => exact fun late => other.2 late.2
  next => exact await_late state

theorem repeatLoop_late (state : Succession) : ¬Late state.repeatLoop := by
  unfold repeatLoop
  split
  · simp [Late, losing]
  · exact await_late state

theorem failWake_late (state : Succession) {error : ErrorCode} (other : error ≠ .timeout) : ¬Late (state.failWake error) := by
  unfold failWake
  split <;> exact fun late => other late.2

theorem peek_late (state : Succession) (attempt : LockAttempt) : ¬Late (state.peek attempt) := by
  unfold Succession.peek
  split
  · simp only
    split
    · exact afterTake_late _
    · split
      · exact afterTake_late _
      · simp [Late, losing]
  · exact afterTake_late state

theorem dequeue_late (state : Succession) (attempt : LockAttempt) (pool : MemoryPool) : ¬Late (state.dequeue attempt pool) := by
  unfold Succession.dequeue
  simp only
  split
  · exact afterTake_late _
  · split
    · simp [Late, Succession.stop]
    · exact afterTake_late _

/-- No step but a poll that has expired ends a call with a timeout. -/
theorem moveSubscriber_late (taken : before.moveSubscriber move = some after) (late : Late after) :
    after.phase = .idle ∧ (move = .poll .timeout ∨ before.phase = .unsubscribed) ∨
      losing before.phase ∧ before.subscriber.lastError = .timeout := by
  cases moveSubscriber_steps taken with
  | subscribed phase => exact .inl ⟨rfl, .inr phase⟩
  | expired => exact .inl ⟨rfl, .inl rfl⟩
  | called | discarded | reset | knocked | arrived | accepted => simp [Late, losing] at late
  | entered =>
    unfold enterLoop at late
    split at late
    · exact absurd late (await_late before)
    · cases late.2
  | lostDiscarded attempt phase =>
    have error := late.2
    simp only [discardPool] at error
    exact .inr ⟨.inl phase, by split at error <;> exact error⟩
  | lostReset phase =>
    have error := late.2
    simp only [Subscriber.resetPublisher] at error
    exact .inr ⟨.inr phase, by split at error <;> exact error⟩
  | peeked attempt phase => exact absurd late (peek_late before attempt)
  | dequeued attempt pool phase => exact absurd late (dequeue_late before attempt pool)
  | unheard | broken => cases late.2
  | interrupted | unaccepted => exact absurd late (repeatLoop_late before)
  | drained segment phase =>
    unfold drained at late
    split at late
    · simp [Late, losing, phase] at late
    · simp [Late, losing, phase] at late
    · simp [Late, losing] at late
    next error _ other _ => exact absurd late (failWake_late _ other)
  | received segment phase =>
    unfold received at late
    split at late
    · simp [Late, losing, phase] at late
    · cases late.2
    · simp [Late, losing] at late
    next error _ other _ => exact absurd late (failWake_late _ other)
  | receivedUds segment phase uds =>
    unfold receivedUds at late
    split at late
    · simp [Late, losing, phase] at late
    · exact absurd late (await_late _)
    · cases late.2
    next status _ _ _ =>
      have error : Subscriber.udsError status = .timeout := late.2
      cases status <;> cases error

theorem step_lost {event : SuccessionEvent} (lost : losing before.phase → before.subscriber.lastError ≠ .timeout)
    (taken : before.step event = some after) (losing : losing after.phase) : after.subscriber.lastError ≠ .timeout := by
  cases event with
  | publisher move =>
    obtain ⟨phase, ⟨change, _, same⟩, _⟩ := movePublisher_follows taken
    rw [same]
    exact lost (phase ▸ losing)
  | subscriber move =>
    intro error
    rcases moveSubscriber_late taken ⟨.inl losing, error⟩ with ⟨idle, _⟩ | ⟨was, late⟩
    · simp [SubscriberEffects.losing, idle] at losing
    · exact lost was late

theorem poll_inLoop {outcome : PollOutcome} (taken : before.poll outcome = some after) : inLoop before.phase = true := by
  unfold Succession.poll at taken
  split at taken
  all_goals first | cases taken; done | simp only [inLoop, *]

end Timeouts

section Clock

theorem int64_some {value : Int} (lower : 0 ≤ value) (upper : value ≤ kInt64Max) : int64 value = some value :=
  if_pos ⟨by simp only [kInt64Max]; omega, upper⟩

theorem deadlineAfter_some {read timeout : Int} (started : 0 ≤ read) (nonnegative : 0 ≤ timeout)
    (room : read + timeout * kNanosecondsPerMillisecond ≤ kInt64Max) :
    deadlineAfter read timeout = some (read + timeout * kNanosecondsPerMillisecond) := by
  simp only [kNanosecondsPerMillisecond, kInt64Max] at room
  simp only [deadlineAfter, kNanosecondsPerMillisecond]
  rw [int64_some (by omega) (by simp only [kInt64Max]; omega), Option.bind_some, int64_some (by omega) (by simp only [kInt64Max]; omega)]

/-- A poll is given the whole time that is left. -/
theorem pollTimeout_waits {read deadline timeout : Int} (short : timeout ≤ kIntMax)
    (left : deadline ≤ read + timeout * kNanosecondsPerMillisecond) :
    ∃ wait, pollTimeout read deadline timeout = some wait ∧ 0 ≤ wait ∧ deadline ≤ read + wait * kNanosecondsPerMillisecond := by
  simp only [kIntMax, kNanosecondsPerMillisecond] at short left ⊢
  unfold pollTimeout
  by_cases none : timeout ≤ 0
  · exact ⟨0, if_pos none, le_refl 0, by omega⟩
  by_cases past : read ≥ deadline
  · exact ⟨0, by rw [if_neg none, if_pos past], le_refl 0, by omega⟩
  rw [if_neg none, if_neg past]
  simp only [kIntMax, kNanosecondsPerMillisecond]
  rw [int64_some (by omega) (by simp only [kInt64Max]; omega), Option.bind_some,
    int64_some (by omega) (by simp only [kInt64Max]; omega), Option.bind_some,
    int64_some (by omega) (by simp only [kInt64Max]; omega), Option.map_some]
  exact ⟨_, rfl, by omega, by omega⟩

end Clock

section Calls
variable {call after : TimedCall} {event : TimedEvent}

/-- The timeout fits the argument of `poll`, and that of the call is not beyond the end of the clock. -/
def Modest (call : TimedCall) (event : TimedEvent) : Prop :=
  event.timeout ≤ kIntMax ∧ event.time + call.timeout * kNanosecondsPerMillisecond ≤ kInt64Max

instance (call : TimedCall) (event : TimedEvent) : Decidable (Modest call event) := inferInstanceAs (Decidable (_ ∧ _))

/-- The deadline of a call in its loop lies its timeout after the call. -/
structure Timely (call : TimedCall) : Prop where
  clock : 0 ≤ call.called ∧ call.called ≤ call.now
  timeout : 0 ≤ call.timeout ∧ call.timeout ≤ kIntMax
  deadline : inLoop call.state.phase = true → ∃ deadline, call.deadline = some deadline ∧
    call.called + call.timeout * kNanosecondsPerMillisecond ≤ deadline ∧
    deadline ≤ call.now + call.timeout * kNanosecondsPerMillisecond
  lost : losing call.state.phase → call.state.subscriber.lastError ≠ .timeout

theorem step_timely (timely : Timely call) (modest : Modest call event) (taken : call.step event = some after) :
    Timely after := by
  obtain ⟨⟨started, past⟩, ⟨nonnegative, short⟩, deadline, lost⟩ := timely
  unfold TimedCall.step at taken
  split at taken
  · cases taken
  next clock =>
    obtain ⟨state, moved, taken⟩ := Option.bind_eq_some_iff.mp taken
    have still := step_lost lost moved
    simp only [not_or, not_lt] at clock
    have passed := clock.1.trans clock.2
    have reading := started.trans (past.trans clock.1)
    split at taken
    next delivered same =>
      cases taken
      rw [same] at moved
      have phase : inLoop state.phase = false := by
        simp only [Succession.step, moveSubscriber] at moved
        split at moved <;> cases moved
        rfl
      refine ⟨⟨reading, clock.2⟩, ⟨le_max_right _ _, max_le modest.1 (by decide)⟩, ?_, still⟩
      simp [phase]
    next outcome same =>
      split at taken <;> cases taken
      rw [same] at moved
      refine ⟨⟨started, past.trans passed⟩, ⟨nonnegative, short⟩, fun _ => ?_, still⟩
      obtain ⟨time, known, least, most⟩ := deadline (poll_inLoop moved)
      exact ⟨time, known, least, most.trans (Int.add_le_add_right passed _)⟩
    next =>
      split at taken <;> cases taken
      · have room := (Int.add_le_add_right clock.2 _).trans modest.2
        exact ⟨⟨started, past.trans passed⟩, ⟨nonnegative, short⟩,
          fun _ => ⟨_, deadlineAfter_some reading nonnegative room, Int.add_le_add_right (past.trans clock.1) _,
            Int.add_le_add_right clock.2 _⟩, still⟩
      next stays =>
        refine ⟨⟨started, past.trans passed⟩, ⟨nonnegative, short⟩, fun inside => ?_, still⟩
        have was : inLoop call.state.phase = true := by simpa [show inLoop state.phase = true from inside] using stays
        obtain ⟨time, known, least, most⟩ := deadline was
        exact ⟨time, known, least, most.trans (Int.add_le_add_right passed _)⟩

/-- A call has been made and has not returned. -/
def Busy (call : TimedCall) : Prop := call.state.phase ≠ .idle ∧ call.state.phase ≠ .unsubscribed

theorem step_state (taken : call.step event = some after) : call.state.step event.event = some after.state := by
  unfold TimedCall.step at taken
  split at taken
  · cases taken
  · obtain ⟨state, moved, taken⟩ := Option.bind_eq_some_iff.mp taken
    rw [moved]
    split at taken
    · cases taken
      rfl
    all_goals
      split at taken <;> cases taken
      all_goals rfl

theorem step_poll {outcome : PollOutcome} (polls : event.event = .subscriber (.poll outcome))
    (taken : call.step event = some after) :
    call.now ≤ event.read ∧ call.punctual event outcome = true ∧ after = { call with state := after.state, now := event.time } := by
  unfold TimedCall.step at taken
  split at taken
  · cases taken
  next clock =>
    obtain ⟨state, moved, taken⟩ := Option.bind_eq_some_iff.mp taken
    simp only [polls, Option.ite_none_right_eq_some, Option.some.injEq] at taken
    obtain ⟨punctual, rfl⟩ := taken
    exact ⟨not_lt.mp (not_or.mp clock).1, punctual, rfl⟩

theorem Timely.polls (timely : Timely call) {outcome : PollOutcome} (polls : event.event = .subscriber (.poll outcome))
    (taken : call.step event = some after) :
    ∃ wait, call.pollArgument event.read = some wait ∧ 0 ≤ wait ∧
      call.called + call.timeout * kNanosecondsPerMillisecond ≤ event.read + wait * kNanosecondsPerMillisecond := by
  have moved := step_state taken
  rw [polls] at moved
  obtain ⟨deadline, known, least, most⟩ := timely.deadline (poll_inLoop moved)
  obtain ⟨wait, waits, nonnegative, enough⟩ := pollTimeout_waits timely.timeout.2
    (most.trans (Int.add_le_add_right (step_poll polls taken).1 _))
  exact ⟨wait, by simpa [TimedCall.pollArgument, known] using waits, nonnegative, least.trans enough⟩

/-- The 64-bit arithmetic of a call is defined, no poll is given a negative time, and a call
that returns with a timeout returns no earlier than its timeout after it was made. -/
theorem no_early_timeout {transport : TransportType} {maxMessageSize topicId : UInt64} {descriptor : QueueDescriptor}
    {queue : SharedSubscriberQueue} {events : List TimedEvent}
    (modest : Along TimedCall.step Modest { state := start transport maxMessageSize topicId descriptor queue } events)
    (run : execute TimedCall.step { state := start transport maxMessageSize topicId descriptor queue } events = some call)
    (allowed : Modest call event) (taken : call.step event = some after) :
    (inLoop after.state.phase = true → ∃ deadline, after.deadline = some deadline) ∧
    (∀ outcome, event.event = .subscriber (.poll outcome) → ∃ wait, call.pollArgument event.read = some wait ∧ 0 ≤ wait) ∧
    (Busy call → after.state.phase = .idle → after.state.subscriber.lastError = .timeout →
      after.called + after.timeout * kNanosecondsPerMillisecond ≤ after.now) := by
  have timely : Timely call := by
    refine modest.invariant (fun _ _ _ held meets moved => step_timely held meets moved) ⟨?_, ?_, ?_, ?_⟩ run
    · exact ⟨le_refl 0, le_refl 0⟩
    · exact ⟨le_refl 0, Int.le_of_lt (by decide : (0 : Int) < kIntMax)⟩
    · exact nofun
    · simp [start, losing]
  refine ⟨fun inside => ?_, fun outcome polls => ?_, fun busy idle error => ?_⟩
  · obtain ⟨deadline, known, _⟩ := (step_timely timely allowed taken).deadline inside
    exact ⟨deadline, known⟩
  · obtain ⟨wait, waits, nonnegative, _⟩ := timely.polls polls taken
    exact ⟨wait, waits, nonnegative⟩
  · have moved := step_state taken
    have polls : event.event = .subscriber (.poll .timeout) := by
      cases occurs : event.event with
      | publisher move =>
        rw [occurs] at moved
        exact absurd ((movePublisher_follows moved).phase.symm.trans idle) busy.1
      | subscriber move =>
        rw [occurs] at moved
        rcases moveSubscriber_late moved ⟨.inr idle, error⟩ with ⟨_, rfl | unsubscribed⟩ | ⟨losing, late⟩
        · rfl
        · exact absurd unsubscribed busy.2
        · exact absurd late (timely.lost losing)
    obtain ⟨wait, waits, _, enough⟩ := timely.polls polls taken
    obtain ⟨_, punctual, same⟩ := step_poll polls taken
    rw [same]
    refine enough.trans ?_
    simpa [TimedCall.punctual, waits] using punctual

/-- A call without a connection, up to its first poll. -/
def waiting (timeout : Int) : List TimedEvent :=
  [⟨.subscriber .subscribe, 0, 0, 0⟩, ⟨.subscriber (.call 0), 0, 0, timeout⟩, ⟨.subscriber (.processDeath {}), 0, 0, 0⟩]

def expiring (time : Int) : TimedEvent := ⟨.subscriber (.poll .timeout), 0, time, 0⟩

theorem waiting_runs : ∃ queue call after, SharedSubscriberQueue.create sampleQueue = .ok queue ∧
    Along TimedCall.step Modest { state := start .unixDomainSocket 64 1 sampleQueue queue } (waiting 5) ∧
    execute TimedCall.step { state := start .unixDomainSocket 64 1 sampleQueue queue } (waiting 5) = some call ∧
    Modest call (expiring 5000000) ∧ call.step (expiring 5000000) = some after ∧ Busy call ∧ after.state.phase = .idle ∧
    after.state.subscriber.lastError = .timeout :=
  ⟨_, _, _, rfl, along_of_check (fun _ _ => of_decide_eq_true) rfl, rfl, of_decide_eq_true rfl, rfl, ⟨nofun, nofun⟩, rfl, rfl⟩

theorem no_early_timeout_after_five : ∃ queue call after, SharedSubscriberQueue.create sampleQueue = .ok queue ∧
    execute TimedCall.step { state := start .unixDomainSocket 64 1 sampleQueue queue } (waiting 5) = some call ∧
    call.step (expiring 5000000) = some after ∧ after.called + after.timeout * kNanosecondsPerMillisecond ≤ after.now := by
  obtain ⟨queue, call, after, created, modest, run, allowed, taken, busy, idle, error⟩ := waiting_runs
  exact ⟨queue, call, after, created, run, taken, (no_early_timeout modest run allowed taken).2.2 busy idle error⟩

/-- A call with a timeout of one millisecond more than `poll` can be given ends a
millisecond early. -/
theorem timeout_cut_short : ∃ queue call after, SharedSubscriberQueue.create sampleQueue = .ok queue ∧
    execute TimedCall.step { state := start .unixDomainSocket 64 1 sampleQueue queue } (waiting 2147483648) = some call ∧
    call.step (expiring 2147483647000000) = some after ∧ Busy call ∧ after.state.phase = .idle ∧
    after.state.subscriber.lastError = .timeout ∧
    after.now < after.called + after.timeout * kNanosecondsPerMillisecond :=
  ⟨_, _, _, rfl, rfl, rfl, ⟨nofun, nofun⟩, rfl, rfl, by decide⟩

end Calls

end RobotMiddleware.Proofs.EarlyTimeouts
