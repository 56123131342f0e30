import RobotMiddleware.Proofs.QueueContents
import RobotMiddleware.Proofs.ReleaseChannel
import RobotMiddleware.TopicResets

/-! What one step of a subscriber does, as far as the publisher is concerned:
handles only move between its queue, its hands, its views and the Release frames
that it sends. A reset of its queue may lose some of them, and nothing else. -/

namespace RobotMiddleware.Proofs.SubscriberSteps
open Lib.Framing QueueRefinement QueueContents ReleaseChannel

def burden (subscriber : SubscriberEnd) : List ChunkHandle :=
  stored subscriber.queue ++ subscriber.inHand ++ subscriber.views

/-- The subscriber's own state is in order, with a sound mutex if it is said to be. -/
structure Usable (sound : Prop) (subscriber : SubscriberEnd) : Prop where
  held : Has sound subscriber.queue (stored subscriber.queue)
  live : subscriber.alive = true → subscriber.registered = true ∧ subscriber.queue.header.closed = false

structure Untouched (subscriber : SubscriberEnd) : Prop where
  empty : stored subscriber.queue = []
  idle : subscriber.inHand = []
  unseen : subscriber.views = []
  waiting : subscriber.accepted = false

structure StepAccount (sound : Prop) (connected : Bool) (before after : SubscriberEnd) (sent : List SocketEvent) : Prop where
  usable : Usable sound after
  account : connected = true → ∃ frames, delivered sent = stream encodeQueueRelease frames ∧
    (burden before).Perm (burden after ++ frames)
  intact : .failed ∉ sent
  ended : .closed ∈ sent → after.alive = false ∧ after.inHand = [] ∧ after.views = []
  gone : before.alive = false → after.alive = false
  quiet : before.alive = false → before.inHand = [] → before.views = [] → after.inHand = [] ∧ after.views = []
  fresh : connected = false → Untouched before → after.alive = true → Untouched after
  maxMessageSize : after.maxMessageSize = before.maxMessageSize

variable {sound : Prop} {subscriber after : SubscriberEnd} {connected : Bool} {pool : MemoryPool} {sent : List SocketEvent}

/-- A step that neither sends nor touches what the subscriber holds. -/
private theorem StepAccount.silent (usable : Usable sound after) (queue : after.queue = subscriber.queue)
    (inHand : after.inHand = subscriber.inHand) (views : after.views = subscriber.views)
    (gone : subscriber.alive = false → after.alive = false)
    (waiting : connected = false → subscriber.accepted = false → after.accepted = false)
    (size : after.maxMessageSize = subscriber.maxMessageSize) : StepAccount sound connected subscriber after [] := by
  have same : burden after = burden subscriber := by simp only [burden, queue, inHand, views]
  refine ⟨usable, fun _ => ⟨[], rfl, by simp [same]⟩, by simp, by simp, gone, ?_, ?_, size⟩
  · exact fun _ none unseen => ⟨inHand.trans none, views.trans unseen⟩
  · intro apart fresh _
    exact ⟨by rw [queue]; exact fresh.empty, inHand.trans fresh.idle, views.trans fresh.unseen, waiting apart fresh.waiting⟩

private theorem StepAccount.gives {handle : ChunkHandle} (usable : Usable sound after)
    (moved : (burden subscriber).Perm (burden after ++ [handle])) (gone : subscriber.alive = false → after.alive = false)
    (present : handle ∈ subscriber.inHand ∨ handle ∈ subscriber.views)
    (size : after.maxMessageSize = subscriber.maxMessageSize) :
    StepAccount sound connected subscriber after (SubscriberEnd.release handle) := by
  refine ⟨usable, fun _ => ⟨[handle], by simp, moved⟩, ?_, ?_, gone, ?_, ?_, size⟩
  · simp [SubscriberEnd.release]
  · simp [SubscriberEnd.release]
  · intro _ none unseen
    simp [none, unseen] at present
  · intro _ fresh _
    simp [fresh.idle, fresh.unseen] at present

private theorem Usable.update (usable : Usable sound subscriber) (queue : after.queue = subscriber.queue)
    (live : after.alive = true → subscriber.alive = true ∧ after.registered = subscriber.registered) : Usable sound after := by
  refine ⟨by rw [queue]; exact usable.held, fun alive => ?_⟩
  obtain ⟨was, same⟩ := live alive
  rw [queue, same]
  exact usable.live was

theorem Usable.requeue (usable : Usable sound subscriber) {items : List ChunkHandle} {kept : Prop} (held : Has kept after.queue items)
    (shut : subscriber.alive = true → after.queue.header.closed = subscriber.queue.header.closed)
    (live : after.alive = true → subscriber.alive = true ∧ after.registered = subscriber.registered) : Usable kept after := by
  refine ⟨by rw [held.stored]; exact held, fun alive => ?_⟩
  obtain ⟨was, same⟩ := live alive
  rw [shut was, same]
  exact usable.live was

private theorem dequeue_account (usable : Usable sound subscriber) {attempt : LockAttempt}
    (taken : subscriber.step connected pool (.dequeue attempt) = some (after, sent)) :
    StepAccount sound connected subscriber after sent := by
  obtain ⟨rest, content, next⟩ := usable.held.tryDequeue attempt
  simp only [SubscriberEnd.step] at taken
  split at taken
  next ready =>
    obtain ⟨alive, joined, _, none⟩ := ready
    have moved : (subscriber.queue.tryDequeue attempt).1.toList ++ stored (subscriber.queue.tryDequeue attempt).2 =
        stored subscriber.queue := by rw [next.stored, content]
    -- whatever was dequeued is in hand now
    have effect (inHand : List ChunkHandle) (same : (subscriber.queue.tryDequeue attempt).1.toList = inHand) :
        StepAccount sound connected subscriber
          { subscriber with queue := (subscriber.queue.tryDequeue attempt).2, inHand } [] := by
      refine ⟨usable.requeue next (fun _ => tryDequeue_shut _ _) fun live => ⟨live, rfl⟩, fun _ => ⟨[], rfl, ?_⟩, by simp,
        by simp, id, ?_, ?_, rfl⟩
      · simp only [burden, none, ← moved, same, List.append_nil, List.append_assoc]
        exact List.perm_append_comm_assoc _ _ _
      · simp [alive]
      · intro _ fresh
        simp [fresh.waiting] at joined
    split at taken
    next queue answer =>
      cases taken
      have silent := effect [] (by rw [answer]; rfl)
      rw [answer] at silent
      rw [← none] at silent
      exact silent
    next handle queue answer =>
      cases taken
      have taking := effect [handle] (by rw [answer]; rfl)
      rw [answer] at taking
      exact taking
  · cases taken

private theorem read_account (usable : Usable sound subscriber)
    (taken : subscriber.step connected pool .read = some (after, sent)) :
    StepAccount sound connected subscriber after sent := by
  simp only [SubscriberEnd.step] at taken
  split at taken
  next handle rest alive inHand =>
    split at taken
    · cases taken
      refine ⟨usable.update rfl fun alive => ⟨alive, rfl⟩, fun _ => ⟨[], rfl, ?_⟩, by simp, by simp, id, ?_, ?_, rfl⟩
      · simp only [burden, inHand, List.append_assoc, List.append_nil, List.cons_append]
        exact List.Perm.append_left _ List.perm_middle.symm
      · simp [alive]
      · intro _ fresh
        simp [fresh.idle] at inHand
    · cases taken
      refine .gives (usable.update rfl fun alive => ⟨alive, rfl⟩) ?_ id (.inl (by simp [inHand])) rfl
      simp only [burden, inHand, List.append_assoc, List.cons_append]
      refine List.Perm.append_left _ ?_
      rw [← List.append_assoc]
      exact (List.perm_append_singleton _ _).symm
  · cases taken

private theorem closeAndDrain_account (usable : Usable sound subscriber) {attempt : LockAttempt}
    (taken : subscriber.step connected pool (.closeAndDrain attempt) = some (after, sent)) :
    StepAccount sound connected subscriber after sent := by
  simp only [SubscriberEnd.step] at taken
  split at taken
  next ready =>
    obtain ⟨alive, none⟩ := ready
    rcases usable.held.closeAndDrain attempt with ⟨⟨thrown, failed⟩, next⟩ | ⟨drained, next⟩
    · split at taken
      next thrown queue answer =>
        cases taken
        rw [answer] at next
        refine ⟨⟨by rw [next.stored]; exact next, by simp⟩, fun _ => ⟨[], rfl, ?_⟩, by simp, by simp, by simp, ?_, by simp,
          rfl⟩
        · simp [burden, next.stored]
        · simp [alive]
      next handles queue answer => simp [answer] at failed
    · split at taken
      next thrown queue answer => simp [answer] at drained
      next handles queue answer =>
        cases taken
        rw [answer] at next drained
        cases drained
        refine ⟨⟨by rw [next.stored]; exact next, by simp⟩, fun joined => ⟨[], rfl, ?_⟩, by simp, by simp, by simp, ?_,
          by simp, rfl⟩
        · simp [burden, next.stored, none, joined]
        · simp [alive]
  · cases taken

theorem step_account (usable : Usable sound subscriber) {step : SubscriberStep}
    (taken : subscriber.step connected pool step = some (after, sent)) : StepAccount sound connected subscriber after sent := by
  cases step with
  | dequeue => exact dequeue_account usable taken
  | read => exact read_account usable taken
  | closeAndDrain => exact closeAndDrain_account usable taken
  | acceptPendingConnection =>
    simp only [SubscriberEnd.step, Option.ite_none_right_eq_some, Option.some.injEq, Prod.mk.injEq] at taken
    obtain ⟨⟨_, joined, _⟩, rfl, rfl⟩ := taken
    refine .silent (usable.update rfl fun alive => ⟨alive, rfl⟩) rfl rfl rfl id ?_ rfl
    intro apart
    simp [apart] at joined
  | receiveWakeAvailable =>
    simp only [SubscriberEnd.step, Option.ite_none_right_eq_some, Option.some.injEq, Prod.mk.injEq] at taken
    obtain ⟨_, rfl, rfl⟩ := taken
    exact .silent (usable.update rfl fun alive => ⟨alive, rfl⟩) rfl rfl rfl id (fun _ => id) rfl
  | releaseView =>
    simp only [SubscriberEnd.step, Option.ite_none_right_eq_some, Option.some.injEq, Prod.mk.injEq] at taken
    obtain ⟨present, rfl, rfl⟩ := taken
    refine .gives (usable.update rfl fun alive => ⟨alive, rfl⟩) ?_ id (.inr present) rfl
    simp only [burden, List.append_assoc]
    refine List.Perm.append_left _ (List.Perm.append_left _ ?_)
    exact (List.perm_cons_erase present).trans (List.perm_append_singleton _ _).symm
  | releaseDrained =>
    simp only [SubscriberEnd.step] at taken
    split at taken
    next handle rest gone inHand =>
      cases taken
      refine .gives (usable.update rfl fun alive => ⟨alive, rfl⟩) ?_ id (.inl (by simp [inHand])) rfl
      simp only [burden, inHand, List.append_assoc, List.cons_append]
      refine List.Perm.append_left _ ?_
      rw [← List.append_assoc]
      exact (List.perm_append_singleton _ _).symm
    · cases taken
  | unsubscribe =>
    simp only [SubscriberEnd.step, Option.ite_none_right_eq_some, Option.some.injEq, Prod.mk.injEq] at taken
    obtain ⟨⟨gone, _⟩, rfl, rfl⟩ := taken
    refine .silent (usable.update rfl fun alive => ?_) rfl rfl rfl id (fun _ => id) rfl
    change subscriber.alive = true at alive
    simp [alive] at gone
  | hangUp =>
    simp only [SubscriberEnd.step, Option.ite_none_right_eq_some, Option.some.injEq, Prod.mk.injEq] at taken
    obtain ⟨⟨gone, none, unseen⟩, rfl, rfl⟩ := taken
    refine ⟨usable, fun _ => ⟨[], rfl, by simp⟩, by simp, fun _ => ⟨by simpa using gone, none, unseen⟩, id,
      fun _ => .intro, fun _ fresh _ => fresh, rfl⟩
  | pause =>
    simp only [SubscriberEnd.step, Option.some.injEq, Prod.mk.injEq] at taken
    obtain ⟨rfl, rfl⟩ := taken
    exact ⟨usable, fun _ => ⟨[], rfl, by simp⟩, by simp, by simp, id, fun _ => .intro, fun _ fresh _ => fresh,
      rfl⟩

/-- What a reset of the queue does: handles may leave it, and nobody gets them. -/
structure ResetAccount (before after : SubscriberEnd) : Prop where
  usable : Usable False after
  fewer : (stored after.queue).Sublist (stored before.queue)
  inHand : after.inHand = before.inHand
  views : after.views = before.views
  accepted : after.accepted = before.accepted
  maxMessageSize : after.maxMessageSize = before.maxMessageSize
  gone : before.alive = false → after.alive = false

theorem reset_account (usable : Usable sound subscriber) {reset : QueueReset} (taken : subscriber.reset reset = some after) :
    ResetAccount subscriber after := by
  cases reset with
  | ownerDeath head tail size maxSize counters closes stores =>
    simp only [SubscriberEnd.reset, Option.ite_none_left_eq_some, Option.some.injEq] at taken
    obtain ⟨unclosed, rfl⟩ := taken
    have next := usable.held.held.ownerDeath head tail size maxSize counters closes stores
    refine ⟨usable.requeue next ?_ fun live => ⟨live, rfl⟩, by simp [next.stored], rfl, rfl, rfl, rfl, id⟩
    intro alive
    have kept : closes = false := by simpa [alive] using unclosed
    simp [SharedSubscriberQueue.ownerDeath, kept]
  | resetPublisherState deadPoolId discoveredPoolId attempt =>
    simp only [SubscriberEnd.reset, Option.ite_none_right_eq_some, Option.some.injEq] at taken
    obtain ⟨⟨alive, _⟩, rfl⟩ := taken
    have next := usable.held.held.discardPool deadPoolId attempt
    refine ⟨usable.requeue next (fun _ => discardPool_shut _ _ _) fun _ => ⟨alive, rfl⟩, ?_, rfl, rfl, rfl, rfl, ?_⟩
    · rw [next.stored]
      split
      · exact List.filter_sublist
      · exact List.Sublist.refl _
    · simp [alive]
  | recoverAndClose region attempt =>
    simp only [SubscriberEnd.reset, Option.ite_none_left_eq_some, Option.some.injEq] at taken
    obtain ⟨gone, rfl⟩ := taken
    have next := usable.held.held.recoverAndClose subscriber.descriptor region attempt
    refine ⟨usable.requeue next (fun alive => absurd alive gone) fun live => absurd live gone, ?_, rfl, rfl, rfl, rfl, id⟩
    rw [next.stored]
    split
    · exact List.nil_sublist _
    · exact List.Sublist.refl _

end RobotMiddleware.Proofs.SubscriberSteps
