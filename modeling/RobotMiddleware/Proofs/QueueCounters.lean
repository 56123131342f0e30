import RobotMiddleware.Lib.Transitions
import RobotMiddleware.Proofs.QueueContents
import RobotMiddleware.Proofs.RejectedEnqueues

/-! The counters of a queue against what its callers have seen. As long as nothing
is drained or recovered, every entry that was ever accepted is in the queue, was
handed to the subscriber or was reported as dropped. -/

namespace RobotMiddleware.Proofs.QueueCounters
open SharedSubscriberQueue QueueRefinement QueueContents RejectedEnqueues Lib.Transitions

/-- A queue, the enqueue calls that wait on it, and what its callers have seen. -/
structure Monitor where
  queue : SharedSubscriberQueue
  waiting : List ChunkHandle := []
  calls : Nat := 0
  results : List (ChunkHandle × QueueEnqueueResult) := []
  dequeued : List ChunkHandle := []

/-- A call, or the return of the wait of one that is under way. -/
inductive Call where
  | enqueue (handle : ChunkHandle) (notify : Option Bool) (attempt : LockAttempt)
  | resume (waiter : Nat) (notify : Option Bool) (wait : WaitResult) (elapsedNs : UInt64)
  | tryDequeue (attempt : LockAttempt)
  | peek (attempt : LockAttempt)
  | stats (attempt : LockAttempt)
  | close (attempt : LockAttempt)

namespace Monitor

def step (monitor : Monitor) : Call → Option Monitor
  | .enqueue handle notify attempt =>
    let (answer, queue) := monitor.queue.enqueue handle notify attempt
    match answer with
    | none => some { monitor with queue, calls := monitor.calls + 1, waiting := monitor.waiting ++ [handle] }
    | some result => some { monitor with queue, calls := monitor.calls + 1, results := monitor.results ++ [(handle, result)] }
  | .resume waiter notify wait elapsedNs => do
    let handle ← monitor.waiting[waiter]?
    let (answer, queue) := monitor.queue.resumeEnqueue handle notify wait true elapsedNs
    match answer with
    | none => some { monitor with queue }
    | some result =>
      some { monitor with queue, waiting := monitor.waiting.eraseIdx waiter, results := monitor.results ++ [(handle, result)] }
  | .tryDequeue attempt =>
    let (handle, queue) := monitor.queue.tryDequeue attempt
    some { monitor with queue, dequeued := monitor.dequeued ++ handle.toList }
  | .peek attempt => some { monitor with queue := (monitor.queue.peek attempt).2 }
  | .stats attempt => some { monitor with queue := (monitor.queue.stats attempt).2 }
  | .close attempt => some { monitor with queue := monitor.queue.close attempt }

def accepted (monitor : Monitor) : List ChunkHandle :=
  (monitor.results.filter fun answer => answer.2.status == .accepted).map Prod.fst

def dropped (monitor : Monitor) : List ChunkHandle := monitor.results.filterMap fun answer => answer.2.droppedOldest

def answered (monitor : Monitor) (status : QueueEnqueueStatus) : Nat :=
  monitor.results.countP fun answer => answer.2.status == status

end Monitor

def Peak (queue : SharedSubscriberQueue) : Prop :=
  queue.header.size ≤ queue.header.maxSize ∧ queue.header.maxSize ≤ queue.header.capacity

/-- What a step adds to the counters. -/
structure Counted (before after : SharedSubscriberQueue) (accepted taken dropped : Nat) : Prop where
  enqueued : after.header.counters.enqueued = before.header.counters.enqueued + .ofNat accepted
  dequeued : after.header.counters.dequeued = before.header.counters.dequeued + .ofNat taken
  droppedOldest : after.header.counters.droppedOldest = before.header.counters.droppedOldest + .ofNat dropped
  peak : Peak before → Peak after

variable {queue after last : SharedSubscriberQueue} {items : List ChunkHandle} {closed : Bool} {handle : ChunkHandle}
  {notify : Option Bool}

theorem Counted.refl (queue : SharedSubscriberQueue) : Counted queue queue 0 0 0 := by
  refine ⟨?_, ?_, ?_, id⟩ <;> simp

theorem Counted.trans {accepted taken dropped accepted' taken' dropped' : Nat}
    (first : Counted queue after accepted taken dropped) (second : Counted after last accepted' taken' dropped') :
    Counted queue last (accepted + accepted') (taken + taken') (dropped + dropped') := by
  refine ⟨?_, ?_, ?_, second.peak ∘ first.peak⟩
  · rw [second.enqueued, first.enqueued, UInt64.ofNat_add, UInt64.add_assoc]
  · rw [second.dequeued, first.dequeued, UInt64.ofNat_add, UInt64.add_assoc]
  · rw [second.droppedOldest, first.droppedOldest, UInt64.ofNat_add, UInt64.add_assoc]

theorem count_counted {update : QueueCounters → QueueCounters}
    (kept : ∀ counters, (update counters).enqueued = counters.enqueued ∧ (update counters).dequeued = counters.dequeued ∧
      (update counters).droppedOldest = counters.droppedOldest) : Counted queue (queue.count update) 0 0 0 := by
  obtain ⟨enqueued, dequeued, dropped⟩ := kept queue.header.counters
  refine ⟨?_, ?_, ?_, id⟩
  · simpa [count] using enqueued
  · simpa [count] using dequeued
  · simpa [count] using dropped

theorem dequeue_counted :
    Counted queue (queue.removeOldest.count fun counters => { counters with dequeued := counters.dequeued + 1 }) 0 1 0 := by
  refine ⟨by simp [count, removeOldest], by simp [count, removeOldest], by simp [count, removeOldest], fun peak => ?_⟩
  exact ⟨Nat.le_trans (Nat.sub_le _ _) peak.1, peak.2⟩

theorem drop_counted :
    Counted queue (queue.removeOldest.count fun counters => { counters with droppedOldest := counters.droppedOldest + 1 }) 0 0 1 := by
  refine ⟨by simp [count, removeOldest], by simp [count, removeOldest], by simp [count, removeOldest], fun peak => ?_⟩
  exact ⟨Nat.le_trans (Nat.sub_le _ _) peak.1, peak.2⟩

/-- The entries that an answer reports as accepted and as dropped. -/
def grants (answer : Option QueueEnqueueResult) : Nat := if answer.any fun result => result.status == .accepted then 1 else 0

def drops (answer : Option QueueEnqueueResult) : Nat := (answer.bind QueueEnqueueResult.droppedOldest).toList.length

/-- A step of an enqueue is counted as it is answered, and only an accepted handle
displaces another. -/
structure Tallied (queue : SharedSubscriberQueue) (step : Option QueueEnqueueResult × SharedSubscriberQueue) : Prop where
  counted : Counted queue step.2 (grants step.1) 0 (drops step.1)
  silent : ∀ result, step.1 = some result → result.status ≠ .accepted → result.droppedOldest = none

theorem store_tallied (tail : queue.header.tail < queue.header.capacity) (room : queue.header.size < queue.header.capacity)
    {before : SharedSubscriberQueue} {dropped : Option ChunkHandle} {needs : Bool} (blocked : Bool) (elapsedNs : UInt64)
    (earlier : Counted before queue 0 0 dropped.toList.length) (clear : needs = true → dropped = none) :
    Tallied before (some (queue.store handle notify needs dropped blocked elapsedNs).1,
      (queue.store handle notify needs dropped blocked elapsedNs).2) := by
  have peak (kept : Peak queue) :
      max queue.header.maxSize (queue.header.size + 1) ≤ queue.header.capacity ∧
        queue.header.size ≤ max queue.header.maxSize (queue.header.size + 1) := by
    have upper := kept.2
    omega
  by_cases failed : needs = true ∧ notify = some false
  · rw [clear failed.1] at earlier
    rw [store_failed tail failed]
    have rolled : Counted queue { header := { queue.header with maxSize := max queue.header.maxSize (queue.header.size + 1) }
                                  slots := queue.slots.set queue.header.tail handle } 0 0 0 :=
      ⟨by simp, by simp, by simp, fun kept => ⟨(peak kept).2, (peak kept).1⟩⟩
    exact ⟨earlier.trans rolled, by rintro _ ⟨⟩ _; rfl⟩
  · rw [store_sent failed]
    have stored : Counted queue { header := { queue.header with
                                    tail := (queue.header.tail + 1) % queue.header.capacity
                                    size := queue.header.size + 1
                                    maxSize := max queue.header.maxSize (queue.header.size + 1)
                                    counters.enqueued := queue.header.counters.enqueued + 1 }
                                  slots := queue.slots.set queue.header.tail handle } 1 0 0 :=
      ⟨by simp, by simp, by simp, fun kept => ⟨Nat.le_max_right _ _, (peak kept).1⟩⟩
    refine ⟨?_, by rintro _ ⟨⟩ refused; exact absurd rfl refused⟩
    have sum := earlier.trans stored
    rw [Nat.zero_add, Nat.add_zero] at sum
    exact sum

theorem unanswered (counted : Counted queue after 0 0 0) : Tallied queue (none, after) := ⟨counted, by rintro _ ⟨⟩⟩

theorem refused {result : QueueEnqueueResult} (counted : Counted queue after 0 0 0) (rejected : result.status ≠ .accepted)
    (silent : result.droppedOldest = none) : Tallied queue (some result, after) := by
  refine ⟨?_, by rintro _ ⟨⟩ _; exact silent⟩
  simpa [grants, drops, rejected, silent] using counted

theorem enqueue_tallied (working : Working queue items) (attempt : LockAttempt) :
    Tallied queue (queue.enqueue handle notify attempt) := by
  have consistent := working.consistent
  obtain ⟨fifo, related, _⟩ := working
  have holds := related.ring (by simp [consistent])
  unfold enqueue
  rw [lock_consistent consistent]
  simp only
  split
  next => exact refused (.refl queue) (by simp) rfl
  split
  next => exact refused (.refl queue) (by simp) rfl
  split
  next full =>
    split
    next => exact refused (count_counted fun _ => ⟨rfl, rfl, rfl⟩) (by simp) rfl
    next =>
      have positive := holds.positive
      refine store_tallied ?_ ?_ false 0 drop_counted (by simp)
      · exact holds.tail_lt
      · show queue.header.size - 1 < queue.header.capacity
        omega
    next => exact unanswered (count_counted fun _ => ⟨rfl, rfl, rfl⟩)
  next free =>
    have bound := holds.size
    exact store_tallied holds.tail_lt (by omega) false 0 (.refl queue) fun _ => rfl

theorem resumeEnqueue_tallied (working : Working queue items) (wait : WaitResult) (elapsedNs : UInt64) :
    Tallied queue (queue.resumeEnqueue handle notify wait true elapsedNs) := by
  have consistent := working.consistent
  obtain ⟨fifo, related, _⟩ := working
  have holds := related.ring (by simp [consistent])
  have timed : Counted queue (queue.addBlockedTime elapsedNs) 0 0 0 := count_counted fun _ => ⟨rfl, rfl, rfl⟩
  unfold resumeEnqueue
  rw [consistent]
  cases wait with
  | timedOut =>
    have late : Counted (queue.addBlockedTime elapsedNs)
        ((queue.addBlockedTime elapsedNs).count fun counters => { counters with blockTimeouts := counters.blockTimeouts + 1 })
        0 0 0 := count_counted fun _ => ⟨rfl, rfl, rfl⟩
    exact refused (timed.trans late) (by simp) rfl
  | failed => exact refused timed (by simp) rfl
  | signaled =>
    simp only
    unfold afterWait
    split
    next => exact unanswered (.refl queue)
    next proceed =>
      simp only
      split
      next => exact refused timed (by simp) rfl
      next opened =>
        have bound := holds.size
        have notFull : queue.header.size ≠ queue.header.capacity := fun full => proceed ⟨full, Bool.eq_false_iff.mpr opened⟩
        refine store_tallied ?_ ?_ true elapsedNs timed fun _ => rfl
        · exact holds.tail_lt
        · exact Nat.lt_of_le_of_ne bound notFull

/-- What the callers have seen, against the queue. `removed` are the handles that have
left the queue, in their order, each with whether it was dropped. -/
structure Conserved (monitor : Monitor) : Prop where
  working : Working monitor.queue (contents monitor.queue)
  history : ∃ removed : List (ChunkHandle × Bool),
    monitor.accepted = removed.map Prod.fst ++ contents monitor.queue ∧
    monitor.dequeued = (removed.filter fun item => !item.2).map Prod.fst ∧
    monitor.dropped = (removed.filter fun item => item.2).map Prod.fst
  enqueued : monitor.queue.header.counters.enqueued = .ofNat monitor.accepted.length
  dequeued : monitor.queue.header.counters.dequeued = .ofNat monitor.dequeued.length
  droppedOldest : monitor.queue.header.counters.droppedOldest = .ofNat monitor.dropped.length
  peak : Peak monitor.queue
  calls : monitor.calls = monitor.results.length + monitor.waiting.length

variable {monitor : Monitor}

section Answers
variable {next : Monitor} {result : QueueEnqueueResult}

theorem accepted_answer (answered : next.results = monitor.results ++ [(handle, result)]) :
    next.accepted = monitor.accepted ++ if result.status = .accepted then [handle] else [] := by
  by_cases granted : result.status = .accepted <;> simp [Monitor.accepted, answered, granted]

theorem dropped_answer (answered : next.results = monitor.results ++ [(handle, result)]) :
    next.dropped = monitor.dropped ++ result.droppedOldest.toList := by
  cases displaced : result.droppedOldest <;> simp [Monitor.dropped, answered, displaced]

theorem grants_answer (handle : ChunkHandle) (result : QueueEnqueueResult) :
    grants (some result) = (if result.status = .accepted then [handle] else []).length := by
  by_cases granted : result.status = .accepted <;> simp [grants, granted]

theorem Conserved.answer (conserved : Conserved monitor)
    (answer : Enqueued (contents monitor.queue) handle notify result (contents next.queue))
    (working : Working next.queue (contents next.queue)) (tallied : Tallied monitor.queue (some result, next.queue))
    (answered : next.results = monitor.results ++ [(handle, result)]) (dequeued : next.dequeued = monitor.dequeued)
    (calls : next.calls = next.results.length + next.waiting.length) : Conserved next := by
  obtain ⟨removed, kept, taken, displaced⟩ := conserved.history
  have content := answer.content
  refine ⟨working, ?_, ?_, ?_, ?_, tallied.counted.peak conserved.peak, calls⟩
  · rw [accepted_answer answered, dropped_answer answered, dequeued, kept, taken, displaced]
    split at content
    next granted =>
      -- what the handle displaced was the first in the queue
      refine ⟨removed ++ result.droppedOldest.toList.map fun oldest => (oldest, true), ?_, ?_, ?_⟩
      · rw [if_pos granted, List.append_assoc, ← content]
        simp [Function.comp_def]
      · simp [List.filter_map, Function.comp_def]
      · simp [List.filter_map, Function.comp_def]
    next rejected =>
      rw [if_neg rejected, content, tallied.silent result rfl rejected]
      exact ⟨removed, by simp, by simp, by simp⟩
  · rw [tallied.counted.enqueued, conserved.enqueued, accepted_answer answered, List.length_append, ← UInt64.ofNat_add,
      grants_answer handle]
  · rw [tallied.counted.dequeued, conserved.dequeued, dequeued, ← UInt64.ofNat_add]
    rfl
  · rw [tallied.counted.droppedOldest, conserved.droppedOldest, dropped_answer answered, List.length_append,
      ← UInt64.ofNat_add]
    rfl

theorem Conserved.quiet (conserved : Conserved monitor) (working : Working next.queue (contents monitor.queue))
    (counted : Counted monitor.queue next.queue 0 0 0) (answered : next.results = monitor.results)
    (dequeued : next.dequeued = monitor.dequeued) (calls : next.calls = next.results.length + next.waiting.length) :
    Conserved next := by
  have same := working.contents
  have accepted : next.accepted = monitor.accepted := by simp only [Monitor.accepted, answered]
  have dropped : next.dropped = monitor.dropped := by simp only [Monitor.dropped, answered]
  refine ⟨by rw [same]; exact working, ?_, ?_, ?_, ?_, counted.peak conserved.peak, calls⟩
  · rw [accepted, dropped, dequeued, same]
    exact conserved.history
  · rw [counted.enqueued, conserved.enqueued, accepted, ← UInt64.ofNat_add]
    rfl
  · rw [counted.dequeued, conserved.dequeued, dequeued, ← UInt64.ofNat_add]
    rfl
  · rw [counted.droppedOldest, conserved.droppedOldest, dropped, ← UInt64.ofNat_add]
    rfl

end Answers

theorem Conserved.enqueue (conserved : Conserved monitor) (attempt : LockAttempt) {next : Monitor}
    (taken : monitor.step (.enqueue handle notify attempt) = some next) : Conserved next := by
  obtain ⟨content, answer, later⟩ := conserved.working.enqueue handle notify attempt
  have tallied : Tallied monitor.queue (monitor.queue.enqueue handle notify attempt) := enqueue_tallied conserved.working attempt
  have calls := conserved.calls
  simp only [Monitor.step] at taken
  generalize monitor.queue.enqueue handle notify attempt = step at taken answer later tallied
  obtain ⟨outcome, queue⟩ := step
  cases outcome with
  | none =>
    cases taken
    cases answer
    refine conserved.quiet later tallied.counted rfl rfl ?_
    simp only [List.length_append, List.length_singleton]
    omega
  | some =>
    cases taken
    have same := later.contents
    simp only at same
    subst same
    refine conserved.answer answer later tallied rfl rfl ?_
    simp only [List.length_append, List.length_singleton]
    omega

theorem Conserved.resume (conserved : Conserved monitor) {waiter : Nat} {wait : WaitResult} {elapsedNs : UInt64} {next : Monitor}
    (taken : monitor.step (.resume waiter notify wait elapsedNs) = some next) : Conserved next := by
  obtain ⟨handle, found, taken⟩ := Lib.Outcome.bind_some taken
  have inside := (List.getElem?_eq_some_iff.mp found).1
  obtain ⟨content, answer, later⟩ := conserved.working.resumeEnqueue handle notify wait true elapsedNs
  have tallied : Tallied monitor.queue (monitor.queue.resumeEnqueue handle notify wait true elapsedNs) :=
    resumeEnqueue_tallied conserved.working wait elapsedNs
  have calls := conserved.calls
  generalize monitor.queue.resumeEnqueue handle notify wait true elapsedNs = step at taken answer later tallied
  obtain ⟨outcome, queue⟩ := step
  cases outcome with
  | none =>
    cases taken
    cases answer
    exact conserved.quiet later tallied.counted rfl rfl calls
  | some =>
    cases taken
    have same := later.contents
    simp only at same
    subst same
    refine conserved.answer answer later tallied rfl rfl ?_
    simp only [List.length_append, List.length_singleton, List.length_eraseIdx_of_lt inside]
    omega

theorem tryDequeue_counted (sound : queue.header.mutex = .consistent) (attempt : LockAttempt) :
    Counted queue (queue.tryDequeue attempt).2 0 (queue.tryDequeue attempt).1.toList.length 0 := by
  unfold SharedSubscriberQueue.tryDequeue
  rw [lock_consistent sound]
  simp only
  split
  · exact .refl queue
  · exact dequeue_counted

theorem Conserved.tryDequeue (conserved : Conserved monitor) (attempt : LockAttempt) :
    Conserved { monitor with
      queue := (monitor.queue.tryDequeue attempt).2
      dequeued := monitor.dequeued ++ (monitor.queue.tryDequeue attempt).1.toList } := by
  obtain ⟨content, split, later⟩ := conserved.working.tryDequeue attempt
  have counted := tryDequeue_counted conserved.working.consistent attempt
  obtain ⟨removed, kept, taken, displaced⟩ := conserved.history
  have same := later.contents
  refine ⟨by rw [same]; exact later, ?_, ?_, ?_, ?_, counted.peak conserved.peak, conserved.calls⟩
  · refine ⟨removed ++ (monitor.queue.tryDequeue attempt).1.toList.map fun first => (first, false), ?_, ?_, ?_⟩
    · rw [same]
      refine kept.trans ?_
      rw [← split]
      simp [Function.comp_def]
    · rw [taken]
      simp [List.filter_map, Function.comp_def]
    · refine displaced.trans ?_
      simp [List.filter_map, Function.comp_def]
  · refine counted.enqueued.trans ?_
    rw [conserved.enqueued, ← UInt64.ofNat_add]
    rfl
  · refine counted.dequeued.trans ?_
    rw [conserved.dequeued, ← UInt64.ofNat_add, List.length_append]
  · refine counted.droppedOldest.trans ?_
    rw [conserved.droppedOldest, ← UInt64.ofNat_add]
    rfl

theorem close_working (working : Working queue items) (attempt : LockAttempt) :
    Working (queue.close attempt) items ∧ Counted queue (queue.close attempt) 0 0 0 := by
  have counted : Counted queue (queue.close attempt) 0 0 0 := by
    unfold SharedSubscriberQueue.close
    rw [lock_consistent working.consistent]
    simp only
    split
    · exact .refl queue
    · exact ⟨by simp, by simp, by simp, id⟩
  obtain ⟨fifo, related, rfl, sound⟩ := working
  obtain ⟨same, kept, _⟩ := lock_content fifo attempt
  have next := close_related related attempt
  simp only [BoundedFifo.close] at next
  split at next <;> exact ⟨⟨_, next, same.symm, fun first => kept (sound first)⟩, counted⟩

theorem Conserved.step (conserved : Conserved monitor) {call : Call} {next : Monitor} (taken : monitor.step call = some next) :
    Conserved next := by
  have sound := conserved.working.consistent
  cases call with
  | enqueue handle notify attempt => exact conserved.enqueue attempt taken
  | resume => exact conserved.resume taken
  | tryDequeue attempt =>
    cases taken
    exact conserved.tryDequeue attempt
  | peek attempt =>
    have same : (monitor.queue.peek attempt).2 = monitor.queue := by
      unfold SharedSubscriberQueue.peek
      rw [lock_consistent sound]
      simp only
      split <;> rfl
    simp only [Monitor.step, same, Option.some.injEq] at taken
    exact taken ▸ conserved
  | stats attempt =>
    have same : (monitor.queue.stats attempt).2 = monitor.queue := by
      unfold SharedSubscriberQueue.stats
      rw [lock_consistent sound]
      simp only
      split <;> rfl
    simp only [Monitor.step, same, Option.some.injEq] at taken
    exact taken ▸ conserved
  | close attempt =>
    cases taken
    obtain ⟨later, counted⟩ := close_working conserved.working attempt
    exact conserved.quiet later counted rfl rfl conserved.calls

theorem conserved_created {descriptor : QueueDescriptor} (created : create descriptor = .ok queue) : Conserved { queue } := by
  have working := (create_working created).1
  have empty := working.contents
  obtain ⟨checked, valid, made⟩ := Lib.Outcome.bind_ok created
  cases made
  refine ⟨by rw [empty]; exact working, ⟨[], by rw [empty]; rfl, rfl, rfl⟩, rfl, rfl, rfl, ?_, rfl⟩
  exact ⟨Nat.le_refl _, Nat.zero_le _⟩

theorem answers_total (results : List (ChunkHandle × QueueEnqueueResult)) :
    results.length =
      results.countP (fun answer => answer.2.status == .accepted) + results.countP (fun answer => answer.2.status == .droppedNewest) +
        results.countP (fun answer => answer.2.status == .timedOut) + results.countP (fun answer => answer.2.status == .closed) +
        results.countP (fun answer => answer.2.status == .notificationFailed) +
        results.countP (fun answer => answer.2.status == .synchronizationError) := by
  induction results with
  | nil => rfl
  | cons answer rest ih =>
    simp only [List.countP_cons, List.length_cons, ih]
    cases answer.2.status <;> simp <;> omega

/-- The books of a queue: the counters, the answers and the handles. -/
structure Balanced (monitor : Monitor) : Prop where
  entries : monitor.queue.header.counters.enqueued =
    monitor.queue.header.counters.dequeued + monitor.queue.header.counters.droppedOldest + .ofNat monitor.queue.header.size
  peak : monitor.queue.header.size ≤ monitor.queue.header.maxSize ∧ monitor.queue.header.maxSize ≤ monitor.queue.header.capacity
  answers : monitor.calls = monitor.waiting.length + monitor.answered .accepted + monitor.answered .droppedNewest +
    monitor.answered .timedOut + monitor.answered .closed + monitor.answered .notificationFailed +
    monitor.answered .synchronizationError
  counted : monitor.queue.header.counters.enqueued = .ofNat (monitor.answered .accepted)
  history : ∃ removed : List (ChunkHandle × Bool),
    monitor.accepted = removed.map Prod.fst ++ contents monitor.queue ∧
    monitor.dequeued = (removed.filter fun item => !item.2).map Prod.fst ∧
    monitor.dropped = (removed.filter fun item => item.2).map Prod.fst

theorem Conserved.balanced (conserved : Conserved monitor) : Balanced monitor where
  entries := by
    obtain ⟨removed, kept, taken, displaced⟩ := conserved.history
    have parts : removed.length = monitor.dropped.length + monitor.dequeued.length := by
      rw [taken, displaced, List.length_map, List.length_map]
      exact List.length_eq_length_filter_add fun item : ChunkHandle × Bool => item.2
    have total : monitor.accepted.length =
        monitor.dequeued.length + monitor.dropped.length + monitor.queue.header.size := by
      rw [kept, List.length_append, List.length_map, parts, contents, Lib.Ring.read_length]
      omega
    rw [conserved.enqueued, conserved.dequeued, conserved.droppedOldest, total, UInt64.ofNat_add, UInt64.ofNat_add]
  peak := conserved.peak
  answers := by
    have total := answers_total monitor.results
    have calls := conserved.calls
    simp only [Monitor.answered]
    omega
  counted := by
    rw [conserved.enqueued, Monitor.accepted, List.length_map, ← List.countP_eq_length_filter]
    rfl
  history := conserved.history

/-- Any calls on a new queue, in any order, with any answers of the system. -/
theorem queue_conserves_entries {descriptor : QueueDescriptor} (created : create descriptor = .ok queue) (calls : List Call)
    {final : Monitor} (run : execute Monitor.step { queue } calls = some final) : Balanced final :=
  (execute_invariant (fun _ _ _ conserved taken => Conserved.step conserved taken) (conserved_created created) run).balanced

def sampleCalls : List Call :=
  [.enqueue ⟨1, 0, 1, 0⟩ none {}, .enqueue ⟨1, 1, 1, 0⟩ none {}, .enqueue ⟨1, 2, 1, 0⟩ none {}, .tryDequeue {}, .stats {}]

theorem sampleCalls_run :
    ∃ queue final, create sampleQueue = .ok queue ∧ execute Monitor.step { queue } sampleCalls = some final :=
  ⟨_, _, rfl, rfl⟩

theorem queue_conserves_entries_sample :
    ∃ queue final, create sampleQueue = .ok queue ∧ execute Monitor.step { queue } sampleCalls = some final ∧ Balanced final := by
  obtain ⟨queue, final, created, run⟩ := sampleCalls_run
  exact ⟨queue, final, created, run, queue_conserves_entries created sampleCalls run⟩

end RobotMiddleware.Proofs.QueueCounters
