import RobotMiddleware.Proofs.QueueRefinement

/-! An enqueue that is rejected leaves the ring as it found it, with one exception:
the high-water mark of a queue that never held an entry keeps the one that a failed
notification took back. -/

namespace RobotMiddleware.Proofs.RejectedEnqueues
open Lib SharedSubscriberQueue QueueRefinement

variable {queue : SharedSubscriberQueue} {handle : ChunkHandle} {notify : Option Bool}

/-- The content, the indices and the counters of entries are the same. -/
structure SameRing (before after : SharedSubscriberQueue) : Prop where
  contents : contents after = contents before
  head : after.header.head = before.header.head
  tail : after.header.tail = before.header.tail
  size : after.header.size = before.header.size
  maxSize : after.header.maxSize = before.header.maxSize
  enqueued : after.header.counters.enqueued = before.header.counters.enqueued
  dequeued : after.header.counters.dequeued = before.header.counters.dequeued
  droppedOldest : after.header.counters.droppedOldest = before.header.counters.droppedOldest

theorem SameRing.refl (queue : SharedSubscriberQueue) : SameRing queue queue := ⟨rfl, rfl, rfl, rfl, rfl, rfl, rfl, rfl⟩

/-- The answers that turn the handle away. -/
def Rejects : QueueEnqueueStatus → Prop
  | .droppedNewest | .closed | .notificationFailed => True
  | _ => False

/-- A step of an enqueue that rejects the handle, or that waits, changes nothing of
the ring; and it is only on an empty ring that a failed notification rejects it. -/
def Leaves (queue : SharedSubscriberQueue) (step : Option QueueEnqueueResult × SharedSubscriberQueue) : Prop :=
  (∀ result, step.1 = some result → Rejects result.status) →
    SameRing queue step.2 ∧ ∀ result, step.1 = some result →
      result.droppedOldest = none ∧ (result.status = .notificationFailed → queue.header.size = 0)

theorem store_failed {needs : Bool} (inside : queue.header.tail < queue.header.capacity) (failed : needs ∧ notify = some false)
    (dropped : Option ChunkHandle) (blocked : Bool) (elapsedNs : UInt64) :
    queue.store handle notify needs dropped blocked elapsedNs =
      ({ status := .notificationFailed, blocked, blockedTimeNs := elapsedNs },
        { header := { queue.header with maxSize := max queue.header.maxSize (queue.header.size + 1) }
          slots := queue.slots.set queue.header.tail handle }) := by
  simp only [store, if_pos failed, tail_rollback inside, Nat.add_sub_cancel, UInt64.add_sub_cancel]

theorem store_sent {needs : Bool} (sent : ¬(needs ∧ notify = some false)) (dropped : Option ChunkHandle) (blocked : Bool)
    (elapsedNs : UInt64) :
    queue.store handle notify needs dropped blocked elapsedNs =
      ({ status := .accepted, droppedOldest := dropped, notificationSent := needs && notify.isSome, blocked,
         blockedTimeNs := elapsedNs },
        { header := { queue.header with
            tail := (queue.header.tail + 1) % queue.header.capacity
            size := queue.header.size + 1
            maxSize := max queue.header.maxSize (queue.header.size + 1)
            counters.enqueued := queue.header.counters.enqueued + 1 }
          slots := queue.slots.set queue.header.tail handle }) := by
  simp only [store, if_neg sent]

/-- A store whose notification fails is noticed only by the high-water mark. -/
def Marks (queue : SharedSubscriberQueue) (notify : Option Bool) : Prop :=
  queue.header.size = 0 → notify = some false → 0 < queue.header.maxSize

theorem store_leaves (inside : queue.header.tail < queue.header.capacity) (blocked : Bool) (elapsedNs : UInt64) :
    Leaves queue (some (queue.store handle notify (queue.header.size == 0) none blocked elapsedNs).1,
      (queue.store handle notify (queue.header.size == 0) none blocked elapsedNs).2) ↔ Marks queue notify := by
  by_cases failed : (queue.header.size == 0) = true ∧ notify = some false
  · have empty : queue.header.size = 0 := by simpa using failed.1
    rw [store_failed inside failed]
    constructor
    · intro leaves _ _
      obtain ⟨same, _⟩ := leaves (by rintro _ ⟨⟩; trivial)
      have mark : max queue.header.maxSize (queue.header.size + 1) = queue.header.maxSize := same.maxSize
      omega
    · intro marked _
      have positive := marked empty failed.2
      refine ⟨⟨?_, rfl, rfl, rfl, ?_, rfl, rfl, rfl⟩, ?_⟩
      · simp only [contents, empty, Ring.read]
      · dsimp only
        omega
      · rintro result ⟨⟩
        exact ⟨rfl, fun _ => empty⟩
  · rw [store_sent failed]
    refine ⟨fun _ empty silent => absurd ⟨by simp [empty], silent⟩ failed, fun _ rejected => ?_⟩
    exact (rejected _ rfl).elim

theorem count_leaves {result : QueueEnqueueResult} {update : QueueCounters → QueueCounters}
    (kept : ∀ counters, (update counters).enqueued = counters.enqueued ∧ (update counters).dequeued = counters.dequeued ∧
      (update counters).droppedOldest = counters.droppedOldest)
    (silent : result.droppedOldest = none) (sent : result.status ≠ .notificationFailed) :
    Leaves queue (some result, queue.count update) := by
  obtain ⟨enqueued, dequeued, dropped⟩ := kept queue.header.counters
  refine fun _ => ⟨⟨rfl, rfl, rfl, rfl, rfl, enqueued, dequeued, dropped⟩, ?_⟩
  rintro _ ⟨⟩
  exact ⟨silent, fun failed => absurd failed sent⟩

theorem lock_consistent (sound : queue.header.mutex = .consistent) (attempt : LockAttempt) :
    queue.lock attempt = (!attempt.refused, queue) := by
  unfold lock
  rw [sound]

theorem ring_tail (ring : ringInvariantsHold queue.header = true) : queue.header.tail < queue.header.capacity := by
  simp only [ringInvariantsHold, Bool.and_eq_true, decide_eq_true_eq] at ring
  exact ring.1.2

theorem marks_of_full (ring : ringInvariantsHold queue.header = true) (full : queue.header.size = queue.header.capacity) :
    Marks queue notify := by
  intro empty
  have inside := ring_tail ring
  omega

theorem enqueue_leaves (ring : ringInvariantsHold queue.header = true) (sound : queue.header.mutex = .consistent)
    (attempt : LockAttempt) : Leaves queue (queue.enqueue handle notify attempt) ↔
      (attempt.refused = false → queue.header.closed = false → Marks queue notify) := by
  unfold enqueue
  rw [lock_consistent sound]
  simp only
  split
  next refused =>
    have other : attempt.refused ≠ false := by simpa using refused
    exact ⟨fun _ taken => absurd taken other, fun _ rejected => (rejected _ rfl).elim⟩
  next taken =>
    simp only [show attempt.refused = false by simpa using taken, true_implies]
    split
    next closed => exact ⟨fun _ opened => by simp [closed] at opened, fun _ _ => ⟨.refl queue, by rintro _ ⟨⟩; simp⟩⟩
    next opened =>
      simp only [Bool.eq_false_iff.mpr opened, true_implies]
      split
      next full =>
        refine iff_of_true ?_ (marks_of_full ring full)
        split
        next => exact count_leaves (fun _ => ⟨rfl, rfl, rfl⟩) rfl (by simp)
        next =>
          -- after a removal no notification is needed, so the handle is accepted
          intro rejected
          rw [store_sent (by simp)] at rejected
          exact (rejected _ rfl).elim
        next => exact fun _ => ⟨⟨rfl, rfl, rfl, rfl, rfl, rfl, rfl, rfl⟩, by rintro _ ⟨⟩⟩
      next => exact store_leaves (ring_tail ring) false 0

theorem leaves_timed {step : Option QueueEnqueueResult × SharedSubscriberQueue} (elapsedNs : UInt64) :
    Leaves (queue.addBlockedTime elapsedNs) step ↔ Leaves queue step := by
  have same : SameRing (queue.addBlockedTime elapsedNs) step.2 ↔ SameRing queue step.2 := by
    constructor <;> rintro ⟨_, _, _, _, _, _, _, _⟩ <;> constructor <;> assumption
  simp only [Leaves, same]
  rfl

theorem resumeEnqueue_leaves (ring : ringInvariantsHold queue.header = true) (sound : queue.header.mutex = .consistent)
    (wait : WaitResult) (consistent : Bool) (elapsedNs : UInt64) :
    Leaves queue (queue.resumeEnqueue handle notify wait consistent elapsedNs) ↔
      (wait = .signaled → queue.header.closed = false → Marks queue notify) := by
  unfold resumeEnqueue
  rw [sound]
  cases wait with
  | timedOut | failed => exact ⟨(by rintro _ ⟨⟩), fun _ rejected => (rejected _ rfl).elim⟩
  | signaled =>
    simp only [true_implies]
    unfold afterWait
    split
    next full => exact iff_of_true (fun _ => ⟨.refl queue, by rintro _ ⟨⟩⟩) fun _ => marks_of_full ring full.1
    next =>
      simp only
      split
      next closed =>
        have shut : queue.header.closed = true := closed
        exact iff_of_true (count_leaves (fun _ => ⟨rfl, rfl, rfl⟩) rfl (by simp)) fun opened => by simp [shut] at opened
      next opened =>
        have running : queue.header.closed = false := Bool.eq_false_iff.mpr opened
        have inside : (queue.addBlockedTime elapsedNs).header.tail < (queue.addBlockedTime elapsedNs).header.capacity := ring_tail ring
        simp only [running, true_implies]
        exact (leaves_timed elapsedNs).symm.trans (store_leaves inside true elapsedNs)

/-- An enqueue that is rejected leaves the ring alone unless it gets hold of an open
and empty queue that has never held an entry, and its notification fails. A call that
waits is compared with the ring in which it found the mutex again; its earlier steps
leave the ring alone as well. -/
theorem rejected_enqueue_leaves_ring (queue : SharedSubscriberQueue) (handle : ChunkHandle) (notify : Option Bool)
    (ring : ringInvariantsHold queue.header = true) (sound : queue.header.mutex = .consistent) :
    (∀ attempt, Leaves queue (queue.enqueue handle notify attempt) ↔
      (attempt.refused = false → queue.header.closed = false → queue.header.size = 0 → notify = some false →
        0 < queue.header.maxSize)) ∧
    ∀ wait consistent elapsedNs, Leaves queue (queue.resumeEnqueue handle notify wait consistent elapsedNs) ↔
      (wait = .signaled → queue.header.closed = false → queue.header.size = 0 → notify = some false →
        0 < queue.header.maxSize) :=
  ⟨enqueue_leaves ring sound, resumeEnqueue_leaves ring sound⟩

/-- A queue that has held an entry, and one that is closed before it did. -/
theorem rejected_enqueue_leaves_ring_used :
    ∃ queue, create sampleQueue = .ok queue ∧
      Leaves (queue.enqueue {} none {}).2 ((queue.enqueue {} none {}).2.enqueue {} (some false) {}) ∧
      Leaves { queue with header.closed := true } (enqueue { queue with header.closed := true } {} (some false) {}) ∧
      ¬Leaves queue (queue.enqueue {} (some false) {}) := by
  refine ⟨_, rfl, ?_, ?_, ?_⟩
  · exact ((rejected_enqueue_leaves_ring _ {} (some false) (by decide) (by decide)).1 {}).mpr (by decide)
  · exact ((rejected_enqueue_leaves_ring _ {} (some false) (by decide) (by decide)).1 {}).mpr (by decide)
  · exact fun leaves => absurd (((rejected_enqueue_leaves_ring _ {} (some false) (by decide) (by decide)).1 {}).mp leaves) (by decide)

/-- The first enqueue on a new queue, whose notification fails. -/
theorem failed_notification_raises_maxSize :
    ∃ queue, create sampleQueue = .ok queue ∧ ringInvariantsHold queue.header = true ∧ queue.header.mutex = .consistent ∧
      (queue.enqueue {} (some false) {}).1 = some { status := .notificationFailed } ∧
      queue.header.maxSize = 0 ∧ (queue.enqueue {} (some false) {}).2.header.maxSize = 1 := by
  refine ⟨_, rfl, ?_⟩
  decide

end RobotMiddleware.Proofs.RejectedEnqueues
