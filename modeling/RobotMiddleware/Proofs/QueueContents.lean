import RobotMiddleware.Proofs.QueueRefinement

/-! What each operation does to the content of a queue, read off the bounded list
that the ring refines, and that a sound mutex stays sound. -/

namespace RobotMiddleware.Proofs.QueueContents
open SharedSubscriberQueue QueueRefinement Lib.Outcome

structure Enqueued (items : List ChunkHandle) (handle : ChunkHandle) (notify : Option Bool) (result : QueueEnqueueResult)
    (after : List ChunkHandle) : Prop where
  content : if result.status = .accepted then result.droppedOldest.toList ++ after = items ++ [handle] else after = items
  unsent : result.status = .notificationFailed → notify = some false
  sent : result.notificationSent = (result.status == .accepted && items.isEmpty && notify.isSome)

/-- The answer of an enqueue that may also be waiting. -/
def Answered (items : List ChunkHandle) (handle : ChunkHandle) (notify : Option Bool) (answer : Option QueueEnqueueResult)
    (after : List ChunkHandle) : Prop :=
  match answer with
  | none => after = items
  | some result => Enqueued items handle notify result after

variable {handle : ChunkHandle} {notify : Option Bool} {result : QueueEnqueueResult} {attempt : LockAttempt}

section Fifo

/-- What whoever takes the mutex next finds: nothing if the last owner died with it. -/
def content (fifo : BoundedFifo) : List ChunkHandle := if fifo.mutex = .ownerDead then [] else fifo.items

/-- The step keeps a sound mutex. -/
def Sound (fifo next : BoundedFifo) : Prop := fifo.mutex = .consistent → next.mutex = .consistent

variable {fifo next : BoundedFifo}

theorem content_sound (sound : fifo.mutex = .consistent) : content fifo = fifo.items := by
  simp [content, sound]

/-- Taking the mutex changes nothing of the content: a list that an owner left behind
when it died counts as empty already. -/
theorem lock_content (fifo : BoundedFifo) (attempt : LockAttempt) :
    content (fifo.lock attempt).2 = content fifo ∧ Sound fifo (fifo.lock attempt).2 ∧
      ((fifo.lock attempt).1 = true → (fifo.lock attempt).2.mutex = .consistent) := by
  unfold BoundedFifo.lock content Sound
  cases owner : fifo.mutex with
  | consistent => simp [owner]
  | notRecoverable => simp [owner]
  | ownerDead => cases attempt.consistent <;> simp

/-- The step answers for the content. -/
private def Kept (fifo : BoundedFifo) (handle : ChunkHandle) (notify : Option Bool)
    (step : Option QueueEnqueueResult × BoundedFifo) : Prop :=
  Sound fifo step.2 ∧ Answered (content fifo) handle notify step.1 (content step.2)

private theorem Kept.after {step : Option QueueEnqueueResult × BoundedFifo} (kept : Kept next handle notify step)
    (same : content next = content fifo) (sound : Sound fifo next) : Kept fifo handle notify step :=
  ⟨fun first => kept.1 (sound first), same ▸ kept.2⟩

private theorem kept_same (refused : result.status ≠ .accepted) (tried : result.status ≠ .notificationFailed)
    (silent : result.notificationSent = false) : Kept fifo handle notify (some result, fifo) := by
  refine ⟨id, ?_, fun failed => absurd failed tried, ?_⟩
  · rw [if_neg refused]
  · simp [silent, refused]

private theorem kept_append {rest : List ChunkHandle} {dropped : Option ChunkHandle} {needs : Bool} (blocked : Bool)
    (elapsedNs : UInt64) (sound : fifo.mutex = .consistent) (before : dropped.toList ++ rest = fifo.items)
    (empty : needs = fifo.items.isEmpty) :
    Kept fifo handle notify
      (some (BoundedFifo.append { fifo with items := rest } handle notify needs dropped blocked elapsedNs).1,
        (BoundedFifo.append { fifo with items := rest } handle notify needs dropped blocked elapsedNs).2) := by
  unfold BoundedFifo.append Kept
  rw [content_sound sound]
  split
  next failed =>
    -- only an empty list needs a notification, and nothing was dropped from it
    have none : fifo.items = [] := by
      have needed := failed.1
      rw [empty] at needed
      exact List.isEmpty_iff.mp needed
    rw [none, List.append_eq_nil_iff] at before
    refine ⟨id, ?_, fun _ => failed.2, by simp⟩
    simp [none, before.2, content, sound]
  next sent =>
    refine ⟨id, ?_, by simp, ?_⟩
    · simp only [if_true, content, sound, reduceCtorEq, if_false]
      rw [← List.append_assoc, before]
    · simp [empty]

private theorem kept_enqueue (positive : 0 < (fifo.lock attempt).2.capacity) :
    Kept fifo handle notify (fifo.enqueue handle notify attempt) := by
  obtain ⟨same, kept, granted⟩ := lock_content fifo attempt
  refine Kept.after ?_ same kept
  unfold BoundedFifo.enqueue
  generalize fifo.lock attempt = locked at positive granted
  obtain ⟨held, next⟩ := locked
  simp only at positive granted ⊢
  split
  · exact kept_same (by simp) (by simp) rfl
  next taken =>
    have sound := granted (by simpa using taken)
    split
    · exact kept_same (by simp) (by simp) rfl
    split
    next full =>
      cases next.descriptor.overflowPolicy with
      | dropNewest => exact kept_same (by simp) (by simp) rfl
      | dropOldest =>
        cases items : next.items with
        | nil =>
          rw [items, List.length_nil] at full
          omega
        | cons => exact kept_append false 0 sound (by simp [items]) (by simp [items])
      | blockWithTimeout => exact ⟨id, rfl⟩
    · exact kept_append false 0 sound rfl rfl

private theorem kept_afterWait (sound : fifo.mutex = .consistent) (elapsedNs : UInt64) :
    Kept fifo handle notify (fifo.afterWait handle notify elapsedNs) := by
  unfold BoundedFifo.afterWait
  split
  · exact ⟨id, rfl⟩
  split
  · exact kept_same (by simp) (by simp) rfl
  · exact kept_append true elapsedNs sound rfl rfl

private theorem kept_resume (wait : WaitResult) (consistent : Bool) (elapsedNs : UInt64) :
    Kept fifo handle notify (fifo.resumeEnqueue handle notify wait consistent elapsedNs) := by
  unfold BoundedFifo.resumeEnqueue
  cases owner : fifo.mutex with
  | notRecoverable => exact kept_same (by simp) (by simp) rfl
  | ownerDead =>
    have unsound {next : BoundedFifo} : Sound fifo next := by simp [Sound, owner]
    cases consistent with
    | false => exact (kept_same (by simp) (by simp) rfl).after (by simp [content, owner]) unsound
    | true => exact (kept_afterWait rfl elapsedNs).after (by simp [content, owner]) unsound
  | consistent =>
    cases wait with
    | timedOut | failed => exact kept_same (by simp) (by simp) rfl
    | signaled => exact kept_afterWait owner elapsedNs

end Fifo

variable {queue : SharedSubscriberQueue} {items : List ChunkHandle} {sound : Prop}

/-- What whoever takes the mutex next finds in the queue: nothing if the last
owner died with it. -/
def stored (queue : SharedSubscriberQueue) : List ChunkHandle :=
  if queue.header.mutex = .ownerDead then [] else contents queue

/-- The queue holds these handles, with a sound mutex if it is said to be. -/
def Has (sound : Prop) (queue : SharedSubscriberQueue) (items : List ChunkHandle) : Prop :=
  ∃ fifo : BoundedFifo, Represents queue fifo ∧ items = content fifo ∧ (sound → fifo.mutex = .consistent)

/-- The queue holds these handles, whatever happened to its mutex. -/
abbrev Held := Has False

abbrev Working := Has True

theorem Has.stored (held : Has sound queue items) : stored queue = items := by
  obtain ⟨fifo, related, rfl, _⟩ := held
  unfold QueueContents.stored content
  rw [related.mutex]
  split
  · rfl
  next alive => exact (related.ring (by rw [related.mutex]; exact alive)).items

theorem Has.weaken {weaker : Prop} (has : Has sound queue items) (imp : weaker → sound) : Has weaker queue items := by
  obtain ⟨fifo, related, same, consistent⟩ := has
  exact ⟨fifo, related, same, fun first => consistent (imp first)⟩

theorem Has.held (has : Has sound queue items) : Held queue items := has.weaken False.elim

theorem Has.consistent (working : Working queue items) : queue.header.mutex = .consistent := by
  obtain ⟨fifo, related, _, consistent⟩ := working
  exact related.mutex.trans (consistent trivial)

theorem Has.contents (working : Working queue items) : contents queue = items := by
  have same := working.stored
  rw [QueueContents.stored, working.consistent] at same
  exact same

theorem create_working {descriptor : QueueDescriptor} (created : create descriptor = .ok queue) :
    Working queue [] ∧ queue.header.closed = false := by
  obtain ⟨checked, valid, made⟩ := bind_ok created
  cases made
  have positive : 0 < descriptor.capacity.toNat := by
    unfold validateDescriptor at valid
    split at valid
    · cases valid
    next accepted =>
      simp only [not_or] at accepted
      rw [Nat.pos_iff_ne_zero]
      exact fun zero => accepted.2.2.2.1 (UInt32.toNat_inj.mp zero)
  refine ⟨⟨{ descriptor }, ⟨rfl, positive, by simp [BoundedFifo.capacity], rfl, rfl, fun _ => ?_⟩, rfl, fun _ => rfl⟩, rfl⟩
  exact holds_empty (by simp) positive rfl rfl

theorem Has.enqueue (has : Has sound queue items) (handle : ChunkHandle) (notify : Option Bool) (attempt : LockAttempt) :
    ∃ after, Answered items handle notify (queue.enqueue handle notify attempt).1 after ∧
      Has sound (queue.enqueue handle notify attempt).2 after := by
  obtain ⟨fifo, related, rfl, consistent⟩ := has
  obtain ⟨answer, next⟩ := enqueue_agrees related handle notify attempt
  obtain ⟨kept, answered⟩ := kept_enqueue (lock_related related attempt).2.1.positive
  rw [answer]
  exact ⟨_, answered, _, next, rfl, fun first => kept (consistent first)⟩

theorem Has.resumeEnqueue (has : Has sound queue items) (handle : ChunkHandle) (notify : Option Bool)
    (wait : WaitResult) (consistent : Bool) (elapsedNs : UInt64) :
    ∃ after, Answered items handle notify (queue.resumeEnqueue handle notify wait consistent elapsedNs).1 after ∧
      Has sound (queue.resumeEnqueue handle notify wait consistent elapsedNs).2 after := by
  obtain ⟨fifo, related, rfl, first⟩ := has
  obtain ⟨answer, next⟩ := resumeEnqueue_agrees related handle notify wait consistent elapsedNs
  obtain ⟨kept, answered⟩ := kept_resume wait consistent elapsedNs
  rw [answer]
  exact ⟨_, answered, _, next, rfl, fun held => kept (first held)⟩

theorem Has.tryDequeue (has : Has sound queue items) (attempt : LockAttempt) :
    ∃ after, (queue.tryDequeue attempt).1.toList ++ after = items ∧ Has sound (queue.tryDequeue attempt).2 after := by
  obtain ⟨fifo, related, rfl, consistent⟩ := has
  obtain ⟨same, kept, granted⟩ := lock_content fifo attempt
  obtain ⟨answer, next⟩ := tryDequeue_agrees related attempt
  simp only [BoundedFifo.tryDequeue] at answer next
  rw [answer]
  split at next
  next refused => exact ⟨_, by rw [if_pos refused]; exact same, _, next, rfl, fun first => kept (consistent first)⟩
  next locked =>
    have usable := granted (by simpa using locked)
    refine ⟨_, ?_, _, next, rfl, fun _ => usable⟩
    rw [if_neg locked, ← same, content_sound usable]
    simp only [content, usable, reduceCtorEq, if_false]
    cases (fifo.lock attempt).2.items <;> rfl

theorem Has.closeAndDrain (has : Has sound queue items) (attempt : LockAttempt) :
    (∃ thrown, (queue.closeAndDrain attempt).1 = .error thrown) ∧ Has sound (queue.closeAndDrain attempt).2 items ∨
      (queue.closeAndDrain attempt).1 = .ok items ∧ Has sound (queue.closeAndDrain attempt).2 [] := by
  obtain ⟨fifo, related, rfl, consistent⟩ := has
  obtain ⟨same, kept, granted⟩ := lock_content fifo attempt
  obtain ⟨answer, next⟩ := closeAndDrain_agrees related attempt
  simp only [BoundedFifo.closeAndDrain] at answer next
  rw [answer]
  split at next
  next refused =>
    rw [if_pos refused]
    exact .inl ⟨⟨_, rfl⟩, _, next, same.symm, fun first => kept (consistent first)⟩
  next locked =>
    have usable := granted (by simpa using locked)
    rw [if_neg locked, ← same, content_sound usable]
    exact .inr ⟨rfl, _, next, by simp [content], fun _ => usable⟩

theorem Has.peek (has : Has sound queue items) (attempt : LockAttempt) : Has sound (queue.peek attempt).2 items := by
  obtain ⟨fifo, related, rfl, consistent⟩ := has
  obtain ⟨same, kept, _⟩ := lock_content fifo attempt
  have next := (peek_agrees related attempt).2
  simp only [BoundedFifo.peek] at next
  split at next <;> exact ⟨_, next, same.symm, fun first => kept (consistent first)⟩

theorem Has.peek_first (has : Has sound queue items)
    (shown : (queue.peek attempt).1 = some handle) : items.head? = some handle := by
  obtain ⟨fifo, related, rfl, _⟩ := has
  obtain ⟨same, _, usable⟩ := lock_content fifo attempt
  rw [(peek_agrees related attempt).1] at shown
  simp only [BoundedFifo.peek] at shown
  split at shown
  · cases shown
  next granted =>
    rw [← same, content_sound (usable (by simpa using granted))]
    exact shown

theorem Has.first (working : Working queue items) (granted : attempt.refused = false) :
    (queue.peek attempt).1 = items.head? ∧ (queue.tryDequeue attempt).1 = items.head? := by
  obtain ⟨fifo, related, rfl, consistent⟩ := working
  have locked : fifo.lock attempt = (true, fifo) := by simp [BoundedFifo.lock, consistent trivial, granted]
  rw [(peek_agrees related attempt).1, (tryDequeue_agrees related attempt).1, content_sound (consistent trivial)]
  simp [BoundedFifo.peek, BoundedFifo.tryDequeue, locked]

theorem Has.enqueue_full (has : Has sound queue items) {dropped : ChunkHandle}
    (answer : (queue.enqueue handle notify attempt).1 = some result) (drops : result.droppedOldest = some dropped) :
    items.length = queue.header.capacity ∧ queue.header.overflowPolicy = .dropOldest := by
  obtain ⟨fifo, related, rfl, _⟩ := has
  obtain ⟨kept, _, usable⟩ := lock_content fifo attempt
  have same : (fifo.lock attempt).2.descriptor = fifo.descriptor := by
    unfold BoundedFifo.lock
    split <;> rfl
  rw [(enqueue_agrees related handle notify attempt).1] at answer
  rw [related.capacity, related.policy, ← kept]
  simp only [BoundedFifo.enqueue, BoundedFifo.append, same, BoundedFifo.capacity] at answer ⊢
  split at answer
  · cases answer
    cases drops
  next granted =>
    rw [content_sound (usable (by simpa using granted))]
    split at answer
    · cases answer
      cases drops
    split at answer
    next full =>
      split at answer
      · cases answer
        cases drops
      next policy => exact ⟨full, policy⟩
      · cases answer
    · split at answer <;>
      · cases answer
        cases drops

theorem afterWait_undropped {elapsedNs : UInt64}
    (answer : (queue.afterWait handle notify elapsedNs).1 = some result) : result.droppedOldest = none := by
  simp only [SharedSubscriberQueue.afterWait, store] at answer
  split at answer
  · cases answer
  split at answer
  · cases answer
    rfl
  split at answer <;>
  · cases answer
    rfl

theorem resumeEnqueue_undropped {wait : WaitResult} {consistent : Bool} {elapsedNs : UInt64}
    (answer : (queue.resumeEnqueue handle notify wait consistent elapsedNs).1 = some result) :
    result.droppedOldest = none := by
  unfold SharedSubscriberQueue.resumeEnqueue at answer
  cases owner : queue.header.mutex with
  | notRecoverable =>
    simp only [owner] at answer
    cases answer
    rfl
  | ownerDead =>
    simp only [owner] at answer
    split at answer
    · cases answer
      rfl
    · exact afterWait_undropped answer
  | consistent =>
    simp only [owner] at answer
    cases wait with
    | timedOut | failed =>
      cases answer
      rfl
    | signaled => exact afterWait_undropped answer

private theorem openQueue_related {fifo : BoundedFifo} (related : Represents queue fifo) (descriptor : QueueDescriptor)
    (attempt : LockAttempt) :
    Represents (queue.openQueue descriptor attempt).2 fifo ∨
      Represents (queue.openQueue descriptor attempt).2 (fifo.lock attempt).2 := by
  obtain ⟨_, locked, alive⟩ := lock_related related attempt
  unfold openQueue
  split
  · exact .inl related
  split
  · exact .inl related
  simp only
  split
  · exact .inr locked
  split
  · exact .inr locked
  split
  · exact .inr locked
  · have holds := locked.ring alive
    exact .inr (locked.update rfl rfl locked.closed ⟨holds.slots, holds.head, holds.size, holds.tail, holds.items⟩)

theorem Has.openQueue (has : Has sound queue items) (descriptor : QueueDescriptor) (attempt : LockAttempt) :
    Has sound (queue.openQueue descriptor attempt).2 items := by
  obtain ⟨fifo, related, rfl, consistent⟩ := has
  obtain ⟨kept, sound, _⟩ := lock_content fifo attempt
  rcases openQueue_related related descriptor attempt with same | locked
  · exact ⟨fifo, same, rfl, consistent⟩
  · exact ⟨_, locked, kept.symm, fun first => sound (consistent first)⟩

theorem Has.discardPool (held : Held queue items) (poolId : UInt64) (attempt : LockAttempt) :
    Held (queue.discardPool poolId attempt)
      (if (queue.lock attempt).1 then items.filter fun handle => poolId != 0 && handle.poolId != poolId else items) := by
  obtain ⟨fifo, related, rfl, _⟩ := held
  obtain ⟨kept, _, usable⟩ := lock_content fifo attempt
  have same := (lock_related related attempt).1
  have discarded := discardPool_related related poolId attempt
  unfold BoundedFifo.discardPool at discarded
  simp only at discarded
  rw [same]
  cases granted : (fifo.lock attempt).1 with
  | false =>
    rw [granted] at discarded
    exact ⟨_, discarded, kept.symm, False.elim⟩
  | true =>
    have sound := usable granted
    rw [granted] at discarded
    refine ⟨_, discarded, ?_, False.elim⟩
    rw [← kept]
    simp only [content, sound, reduceCtorEq, ite_false, ite_true]
    by_cases zero : poolId = 0
    · simp [zero]
    · simp [zero, bne_iff_ne.mpr zero]

theorem Has.drain (held : Held queue items) (attempt : LockAttempt) :
    ∃ after, (after = items ∨ after = []) ∧ Held (queue.drain attempt).2 after := by
  obtain ⟨fifo, related, rfl, _⟩ := held
  obtain ⟨_, drained⟩ := drain_agrees related attempt
  have kept := (lock_content fifo attempt).1
  unfold BoundedFifo.drain at drained
  simp only at drained
  split at drained
  · exact ⟨_, .inl rfl, _, drained, kept.symm, False.elim⟩
  · refine ⟨_, .inr ?_, _, drained, rfl, False.elim⟩
    unfold content
    split <;> rfl

/-- The registry's cleanup clears the queue, or leaves it as it is. -/
theorem Has.recoverAndClose (held : Held queue items) (descriptor : QueueDescriptor) (region : RegionOutcome)
    (attempt : LockAttempt) :
    Held (queue.recoverAndClose descriptor region attempt).2
      (if region = .opened ∧ (queue.recoverAndClose descriptor region attempt).1 = .ok then [] else items) := by
  obtain ⟨fifo, related, rfl, _⟩ := held
  obtain ⟨code, next⟩ := recoverAndClose_agrees related descriptor region attempt
  rw [code]
  refine ⟨_, next, ?_, False.elim⟩
  unfold BoundedFifo.recoverAndClose
  cases SharedSubscriberQueue.validateDescriptor descriptor with
  | error => simp
  | ok =>
    cases region with
    | notFound => simp
    | systemError => simp
    | opened =>
      simp only
      split
      · simp
      split
      · simp [(lock_content fifo attempt).1]
      · simp [content]

theorem Has.ownerDeath (held : Held queue items) (head tail size maxSize : Nat) (counters : QueueCounters) (closes : Bool)
    (stores : List (Nat × ChunkHandle)) : Held (queue.ownerDeath head tail size maxSize counters closes stores) [] := by
  obtain ⟨fifo, related, _⟩ := held
  exact ⟨_, ownerDeath_related related head tail size maxSize counters closes stores, rfl, False.elim⟩

section Closed

theorem lock_shut (queue : SharedSubscriberQueue) (attempt : LockAttempt) :
    (queue.lock attempt).2.header.closed = queue.header.closed := by
  unfold SharedSubscriberQueue.lock
  split <;> rfl

theorem tryDequeue_shut (queue : SharedSubscriberQueue) (attempt : LockAttempt) :
    (queue.tryDequeue attempt).2.header.closed = queue.header.closed := by
  rw [← lock_shut queue attempt]
  unfold SharedSubscriberQueue.tryDequeue
  simp only
  split <;> rfl

theorem discardPool_shut (queue : SharedSubscriberQueue) (poolId : UInt64) (attempt : LockAttempt) :
    (queue.discardPool poolId attempt).header.closed = queue.header.closed := by
  rw [← lock_shut queue attempt]
  unfold SharedSubscriberQueue.discardPool
  simp only
  split <;> rfl

variable {answer : Option QueueEnqueueResult × SharedSubscriberQueue}

/-- An answer that leaves the flag as it is and says Closed only if it is set. -/
def TellsClosed (queue : SharedSubscriberQueue) (answer : Option QueueEnqueueResult × SharedSubscriberQueue) : Prop :=
  answer.2.header.closed = queue.header.closed ∧
    ∀ result, answer.1 = some result → result.status = .closed → queue.header.closed = true

theorem store_tellsClosed (queue : SharedSubscriberQueue) (handle : ChunkHandle) (notify : Option Bool) (needs : Bool)
    (dropped : Option ChunkHandle) (blocked : Bool) (elapsedNs : UInt64) :
    TellsClosed queue (some (queue.store handle notify needs dropped blocked elapsedNs).1,
      (queue.store handle notify needs dropped blocked elapsedNs).2) := by
  unfold SharedSubscriberQueue.store
  simp only
  split <;> exact ⟨rfl, by rintro _ ⟨⟩ ⟨⟩⟩

theorem enqueue_tellsClosed (queue : SharedSubscriberQueue) (handle : ChunkHandle) (notify : Option Bool)
    (attempt : LockAttempt) : TellsClosed queue (queue.enqueue handle notify attempt) := by
  unfold TellsClosed
  rw [← lock_shut queue attempt]
  unfold SharedSubscriberQueue.enqueue
  simp only
  split
  · exact ⟨rfl, by rintro _ ⟨⟩ ⟨⟩⟩
  split
  next shut => exact ⟨rfl, fun _ _ _ => shut⟩
  split
  · split
    · exact ⟨rfl, by rintro _ ⟨⟩ ⟨⟩⟩
    · exact store_tellsClosed _ _ _ _ _ _ _
    · exact ⟨rfl, by rintro _ ⟨⟩⟩
  · exact store_tellsClosed _ _ _ _ _ _ _

theorem afterWait_tellsClosed (queue : SharedSubscriberQueue) (handle : ChunkHandle) (notify : Option Bool)
    (elapsedNs : UInt64) : TellsClosed queue (queue.afterWait handle notify elapsedNs) := by
  unfold SharedSubscriberQueue.afterWait
  split
  · exact ⟨rfl, by rintro _ ⟨⟩⟩
  simp only
  split
  next shut => exact ⟨rfl, fun _ _ _ => shut⟩
  · exact store_tellsClosed _ _ _ _ _ _ _

theorem resumeEnqueue_tellsClosed (queue : SharedSubscriberQueue) (handle : ChunkHandle) (notify : Option Bool)
    (wait : WaitResult) (consistent : Bool) (elapsedNs : UInt64) :
    TellsClosed queue (queue.resumeEnqueue handle notify wait consistent elapsedNs) := by
  unfold SharedSubscriberQueue.resumeEnqueue
  cases queue.header.mutex with
  | notRecoverable => exact ⟨rfl, by rintro _ ⟨⟩ ⟨⟩⟩
  | ownerDead =>
    simp only
    split
    · exact ⟨rfl, by rintro _ ⟨⟩ ⟨⟩⟩
    · exact afterWait_tellsClosed _ _ _ _
  | consistent =>
    cases wait with
    | timedOut => exact ⟨rfl, by rintro _ ⟨⟩ ⟨⟩⟩
    | failed => exact ⟨rfl, by rintro _ ⟨⟩ ⟨⟩⟩
    | signaled => exact afterWait_tellsClosed _ _ _ _

end Closed

end RobotMiddleware.Proofs.QueueContents
