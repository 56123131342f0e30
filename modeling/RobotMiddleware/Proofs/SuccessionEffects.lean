import RobotMiddleware.PublisherSuccession
import RobotMiddleware.Proofs.QueueContents

/-! What the steps of the publishers do to everything that a shared memory
subscriber can see: the unread bytes of its connections, its queue, and the
publishers themselves. -/

namespace RobotMiddleware.Proofs.SuccessionEffects
open QueueContents QueueRefinement Succession

/-- What a connection still has for the subscriber, the buffered part of a frame
included. -/
structure UnreadStream where
  publisher : Nat
  closed : Bool
  bytes : Bytes

def streams (state : Succession) : List UnreadStream :=
  (state.subscriber.connection.map fun socket =>
      ⟨socket.publisher, socket.closed, state.subscriber.headerBuffer ++ socket.pending⟩).toList ++
    state.backlog.map fun socket => ⟨socket.publisher, socket.closed, socket.pending⟩

/-- A stream after its publisher wrote bytes and maybe closed its end. -/
def touch (publisher : Nat) (bytes : Bytes) (closes : Bool) (stream : UnreadStream) : UnreadStream :=
  if stream.publisher = publisher then
    { stream with
      closed := stream.closed || closes
      bytes := if stream.closed then stream.bytes else stream.bytes ++ bytes }
  else stream

@[simp] theorem touch_publisher (publisher : Nat) (bytes : Bytes) (closes : Bool) (stream : UnreadStream) :
    (touch publisher bytes closes stream).publisher = stream.publisher := by
  unfold touch
  split <;> rfl

theorem touch_nothing (publisher : Nat) (stream : UnreadStream) : touch publisher [] false stream = stream := by
  unfold touch
  split <;> simp

theorem touch_touch (publisher : Nat) (bytes : Bytes) (stream : UnreadStream) :
    touch publisher [] true (touch publisher bytes false stream) = touch publisher bytes true stream := by
  unfold touch
  by_cases own : stream.publisher = publisher <;> simp [own]

/-- The connections after a step of a publisher: it wrote bytes, may have closed
its end, and may have opened a connection. -/
structure Touched (before after : Succession) (publisher : Nat) (bytes : Bytes) (closes : Bool)
    (opened : Option UnreadStream) : Prop where
  streams : streams after = (streams before).map (touch publisher bytes closes) ++ opened.toList
  accepted : ∃ change : DataSocket → DataSocket,
    (∀ socket, (change socket).publisher = socket.publisher ∧ (socket.closed = true → (change socket).closed = true)) ∧
    after.subscriber = { before.subscriber with connection := before.subscriber.connection.map change }
  backlog : after.backlog.map (·.publisher) = before.backlog.map (·.publisher) ++ opened.toList.map (·.publisher)

variable {before after : Succession} {publisher : Nat}

/-- Every step of the publisher with the record, with the conditions that it has met. -/
inductive RecordStep (before : Succession) (publisher : Nat) (record : PublisherRecord) : PublisherMove → Succession → Prop where
  | joined {attempt : LockAttempt} (live : record.status = .live) (unlinked : record.linked = false) :
      RecordStep before publisher record (.connect publisher attempt)
        (setPublisher { before with
          queue := (before.queue.openQueue before.queueDescriptor attempt).2
          backlog := before.backlog ++
            [{ publisher, closed := !(before.queue.openQueue before.queueDescriptor attempt).1.isOk }] }
          publisher
          { record with linked := true, connected := (before.queue.openQueue before.queueDescriptor attempt).1.isOk })
  | joinedUds {attempt : LockAttempt} (transport : before.subscriber.transport = .unixDomainSocket) :
      RecordStep before publisher record (.connect publisher attempt)
        (setPublisher { before with backlog := before.backlog ++ [{ publisher }] }
          publisher { record with linked := true, connected := true })
  | offered {handle : ChunkHandle} {sent : Nat} {attempt : LockAttempt} {frame : Bytes} (live : record.status = .live)
      (connected : record.connected = true) (own : handle.poolId = record.descriptor.poolId)
      (frames : before.wake record = some frame) :
      RecordStep before publisher record (.enqueue publisher handle sent attempt)
        (before.afterEnqueue publisher record handle frame sent
          (before.queue.enqueue handle (some (decide (frame.length ≤ sent))) attempt))
  | resumed {handle : ChunkHandle} {sent : Nat} {wait : WaitResult} {consistent : Bool} {elapsedNs : UInt64}
      {frame : Bytes} (live : record.status = .live) (waiting : record.waiting = some handle)
      (frames : before.wake record = some frame) :
      RecordStep before publisher record (.resumeEnqueue publisher sent wait consistent elapsedNs)
        (before.afterEnqueue publisher record handle frame sent
          (before.queue.resumeEnqueue handle (some (decide (frame.length ≤ sent))) wait consistent elapsedNs))
  | published {data unsent : Bytes} {sequence timestampNs : UInt64}
      (transport : before.subscriber.transport = .unixDomainSocket) :
      RecordStep before publisher record (.publishUds publisher data sequence timestampNs)
        (before.setPublisher publisher { record with unsent })
  | sent {count : Nat} (transport : before.subscriber.transport = .unixDomainSocket) :
      RecordStep before publisher record (.sendUds publisher count)
        (write (before.setPublisher publisher { record with unsent := record.unsent.drop count }) publisher
          (record.unsent.take count))
  | dropped (acting : record.status ≠ .killed) (waiting : record.waiting = none) :
      RecordStep before publisher record (.dropConnection publisher)
        ((before.setPublisher publisher { record with connected := false, unsent := [] }).closeSockets publisher)
  | killed (acting : record.status ≠ .killed) :
      RecordStep before publisher record (.kill publisher none)
        ((before.setPublisher publisher
          { record with status := .killed, connected := false, waiting := none, unsent := [] }).closeSockets publisher)
  | torn {torn : TornEnqueue} {frame : Bytes} (live : record.status = .live) (connected : record.connected = true)
      (frames : before.wake record = some frame) :
      RecordStep before publisher record (.kill publisher (some torn))
        (closeSockets (write { before.setPublisher publisher
            { record with status := .killed, connected := false, waiting := none, unsent := [] } with
          queue := before.queue.ownerDeath torn.head torn.tail torn.size torn.maxSize torn.counters false torn.stores }
          publisher (frame.take torn.sent)) publisher)
  | destroyed {attempt : LockAttempt} (live : record.status = .live) (waiting : record.waiting = none) :
      RecordStep before publisher record (.destroy publisher attempt)
        (setPublisher { before with
          queue := if record.connected ∧ before.subscriber.transport = .sharedMemory then (before.queue.drain attempt).2
            else before.queue } publisher { record with status := .leaving })
  | withdrawn (leaving : record.status = .leaving) :
      RecordStep before publisher record (.unadvertise publisher)
        { closeSockets (before.setPublisher publisher
            { record with status := .left, connected := false, waiting := none }) publisher with registered := none }
  | reported (killed : record.status = .killed) :
      RecordStep before publisher record (.cleanupDeadNode publisher) { before with
        registered := none
        peerEvents := if before.phase = .unsubscribed then before.peerEvents
          else before.peerEvents ++ [⟨publisher, record.descriptor.poolId⟩] }

inductive PublisherStep (before : Succession) : PublisherMove → Succession → Prop where
  | advertised {descriptor : PoolDescriptor} (admitted : before.admits descriptor = true) :
      PublisherStep before (.advertise descriptor) { before with
        publishers := before.publishers ++ [{ descriptor }], registered := some before.publishers.length }
  | recorded (publisher : Nat) (record : PublisherRecord) (found : before.publishers[publisher]? = some record)
      {move : PublisherMove} {after : Succession} (step : RecordStep before publisher record move after) :
      PublisherStep before move after

theorem movePublisher_cases {move : PublisherMove} (taken : before.movePublisher move = some after) :
    PublisherStep before move after := by
  cases move with
  | advertise =>
    simp only [movePublisher] at taken
    split at taken <;> cases taken
    next admitted => exact .advertised admitted.2
  | connect =>
    simp only [movePublisher] at taken
    split at taken
    next record found _ =>
      split at taken <;> cases taken
      next ready =>
        simp only [not_or, Decidable.not_not, Bool.not_eq_true] at ready
        exact .recorded _ _ found (.joined ready.1 ready.2.1)
    next record found transport =>
      split at taken <;> cases taken
      exact .recorded _ _ found (.joinedUds transport)
    · cases taken
  | resumeEnqueue =>
    simp only [movePublisher] at taken
    split at taken
    · cases taken
    next record found =>
      split at taken
      next handle live waiting =>
        obtain ⟨frame, frames, rfl⟩ := Option.map_eq_some_iff.mp taken
        exact .recorded _ _ found (.resumed live waiting frames)
      · cases taken
  | enqueue =>
    simp only [movePublisher] at taken
    split at taken
    · cases taken
    next record found =>
      split at taken
      · cases taken
      next ready =>
        simp only [not_or, Decidable.not_not, Bool.not_eq_true, Bool.not_eq_false'] at ready
        obtain ⟨frame, frames, rfl⟩ := Option.map_eq_some_iff.mp taken
        exact .recorded _ _ found (.offered ready.1 ready.2.1 ready.2.2.2.1 frames)
  | kill publisher torn =>
    simp only [movePublisher] at taken
    split at taken
    · cases taken
    next record found =>
      split at taken
      · cases taken
      next ready =>
        simp only [not_and, Decidable.not_not] at ready
        have acting : record.status ≠ .killed := fun dead => by simp [dead] at ready
        cases torn with
        | none =>
          cases taken
          exact .recorded _ _ found (.killed acting)
        | some torn =>
          simp only at taken
          split at taken
          · cases taken
          next inside =>
            simp only [not_or, Decidable.not_not, Bool.not_eq_true, Bool.not_eq_false'] at inside
            obtain ⟨frame, frames, rfl⟩ := Option.map_eq_some_iff.mp taken
            exact .recorded _ _ found (.torn inside.1 inside.2.1 frames)
  | publishUds publisher _ _ _ | sendUds publisher _ | dropConnection publisher | destroy publisher _
  | unadvertise publisher | cleanupDeadNode publisher =>
    simp only [movePublisher] at taken
    split at taken
    · cases taken
    next record found =>
      split at taken <;> cases taken
      next ready =>
        simp only [not_or, not_and, Decidable.not_not] at ready
        -- the move says which step it is
        first
          | exact .recorded _ _ found (.published ready.2.2.2)
          | exact .recorded _ _ found (.sent ready.2.2.2)
          | exact .recorded _ _ found (.dropped (fun dead => by simp [dead] at ready) ready.2)
          | exact .recorded _ _ found (.destroyed ready.1 ready.2.1)
          | exact .recorded _ _ found (.withdrawn ready.1)
          | exact .recorded _ _ found (.reported ready.1)

theorem afterEnqueue_queue (state : Succession) (publisher : Nat) (record : PublisherRecord) (handle : ChunkHandle)
    (frame : Bytes) (sent : Nat) (answer : Option QueueEnqueueResult × SharedSubscriberQueue) :
    (state.afterEnqueue publisher record handle frame sent answer).queue = answer.2 := by
  obtain ⟨result, queue⟩ := answer
  cases result <;> rfl

theorem touched_nothing (subscriber : after.subscriber = before.subscriber) (backlog : after.backlog = before.backlog) :
    Touched before after publisher [] false none := by
  refine ⟨?_, ⟨id, fun _ => ⟨rfl, id⟩, ?_⟩, ?_⟩
  · rw [SuccessionEffects.streams, subscriber, backlog, List.map_congr_left fun stream _ => touch_nothing publisher stream]
    simp [SuccessionEffects.streams]
  · rw [subscriber, Option.map_id_fun, id]
  · simp [backlog]

/-- A change of the sockets of one publisher that the streams see as a touch. -/
private theorem touched_mapSockets (state : Succession) (publisher : Nat) (bytes : Bytes) (closes : Bool)
    {change : DataSocket → DataSocket}
    (same : ∀ socket, (change socket).publisher = socket.publisher ∧ (change socket).closed = (socket.closed || closes) ∧
      (change socket).pending = if socket.closed then socket.pending else socket.pending ++ bytes) :
    Touched state (state.mapSockets publisher change) publisher bytes closes none := by
  refine ⟨?_, ⟨fun socket => if socket.publisher = publisher then change socket else socket, ?_, rfl⟩, ?_⟩
  · simp only [SuccessionEffects.streams, mapSockets, List.map_append, List.map_map, Option.toList_none, List.append_nil]
    congr 1
    · cases state.subscriber.connection with
      | none => rfl
      | some socket =>
        obtain ⟨owner, shut, unread⟩ := same socket
        simp only [Option.map_some, Option.toList_some, List.map_cons, List.map_nil, List.cons.injEq, and_true, touch]
        by_cases own : socket.publisher = publisher
        · simp only [if_pos own, owner, shut, unread]
          split <;> simp
        · simp only [if_neg own]
    · refine List.map_congr_left fun socket _ => ?_
      obtain ⟨owner, shut, unread⟩ := same socket
      simp only [Function.comp_apply, touch]
      by_cases own : socket.publisher = publisher
      · simp only [if_pos own, owner, shut, unread]
      · simp only [if_neg own]
  · intro socket
    obtain ⟨owner, shut, _⟩ := same socket
    dsimp only
    split
    · exact ⟨owner, fun closed => by rw [shut, closed, Bool.true_or]⟩
    · exact ⟨rfl, id⟩
  · simp only [mapSockets, List.map_map, Option.toList_none, List.map_nil, List.append_nil]
    refine List.map_congr_left fun socket _ => ?_
    simp only [Function.comp_apply]
    split
    · exact (same socket).1
    · rfl

theorem touched_write (state : Succession) (publisher : Nat) (bytes : Bytes) :
    Touched state (state.write publisher bytes) publisher bytes false none := by
  refine touched_mapSockets state publisher bytes false fun socket => ?_
  split
  next shut => simp [shut]
  next opened => simp [opened]

theorem touched_closeSockets (state : Succession) (publisher : Nat) :
    Touched state (state.closeSockets publisher) publisher [] true none :=
  touched_mapSockets state publisher [] true fun socket => by simp

theorem Touched.close {bytes : Bytes} (touched : Touched before after publisher bytes false none) :
    Touched before (after.closeSockets publisher) publisher bytes true none := by
  have closing := touched_closeSockets after publisher
  obtain ⟨change, kept, subscriber⟩ := touched.accepted
  obtain ⟨shut, still, closed⟩ := closing.accepted
  refine ⟨?_, ⟨shut ∘ change, ?_, ?_⟩, ?_⟩
  · rw [closing.streams, touched.streams]
    simp only [Option.toList_none, List.append_nil, List.map_map]
    exact List.map_congr_left fun stream _ => touch_touch publisher bytes stream
  · intro socket
    exact ⟨(still _).1.trans (kept socket).1, fun ended => (still _).2 ((kept socket).2 ended)⟩
  · rw [closed, subscriber]
    simp
  · rw [closing.backlog, touched.backlog]
    simp

theorem Touched.of_sockets {other : Succession} {bytes : Bytes} {closes : Bool} {opened : Option UnreadStream}
    (touched : Touched other after publisher bytes closes opened) (subscriber : other.subscriber = before.subscriber)
    (backlog : other.backlog = before.backlog) : Touched before after publisher bytes closes opened := by
  obtain ⟨streams, accepted, queued⟩ := touched
  have same : SuccessionEffects.streams other = SuccessionEffects.streams before := by
    simp only [SuccessionEffects.streams, subscriber, backlog]
  rw [same] at streams
  rw [subscriber] at accepted
  rw [backlog] at queued
  exact ⟨streams, accepted, queued⟩

/-- What the new handles of a queue are, if there are any: handles of the
publisher, and announced with a Wake when the queue was empty. -/
def Adds (before after : Succession) (record : PublisherRecord) (bytes : Bytes) : Prop :=
  ∀ items, Held before.queue items → ∃ next, Held after.queue next ∧ ∀ handle ∈ next, handle ∈ items ∨
    handle.poolId = record.descriptor.poolId ∧ record.connected = true ∧ (items = [] → before.wake record = some bytes)

/-- A step of one publisher. -/
structure Moved (before after : Succession) (publisher : Nat) (record next : PublisherRecord) (bytes : Bytes)
    (closes : Bool) (opened : Option UnreadStream) : Prop where
  found : before.publishers[publisher]? = some record
  publishers : after.publishers = before.publishers.set publisher next
  touched : Touched before after publisher bytes closes opened
  phase : after.phase = before.phase
  queueDescriptor : after.queueDescriptor = before.queueDescriptor
  descriptor : next.descriptor = record.descriptor
  events : after.peerEvents = before.peerEvents
  registered : after.registered = before.registered ∨ after.registered = none
  acting : record.status ≠ .killed
  linked : next.linked = (record.linked || opened.isSome)
  unlinked : opened.isSome = true → record.linked = false
  opens : ∀ stream, opened = some stream → stream.publisher = publisher ∧ stream.bytes = []
  writes : bytes = [] ∨ record.connected = true ∧ ∃ frame, before.wake record = some frame ∧
    (bytes = frame ∨ next.connected = false ∧ ∃ sent, bytes = frame.take sent)
  connected : next.connected = true → record.connected = true ∨ opened = some ⟨publisher, false, []⟩
  status : next.status = .live ∨ next.status = .leaving ∨ closes = true ∧ opened = none
  waiting : next.waiting = none ∨ opened.isSome = true ∧ next.waiting = record.waiting ∨
    ∃ handle, next.waiting = some handle ∧ handle.poolId = record.descriptor.poolId ∧ next.connected = true
  adds : Adds before after record bytes

variable {record : PublisherRecord} {bytes : Bytes}

theorem adds_fewer (fewer : ∀ items, Held before.queue items → ∃ next, next ⊆ items ∧ Held after.queue next) :
    Adds before after record bytes := by
  intro items held
  obtain ⟨next, subset, remaining⟩ := fewer items held
  exact ⟨next, remaining, fun handle present => .inl (subset present)⟩

/-- The answer of an enqueue: what the queue has gained was announced if the
queue was empty. -/
theorem adds_answered {handle : ChunkHandle} {frame : Bytes} {sent : Nat} {answer : Option QueueEnqueueResult}
    (own : handle.poolId = record.descriptor.poolId) (connected : record.connected = true)
    (frames : before.wake record = some frame) (written : bytes = match answer with
      | none => []
      | some result => if result.notificationSent then frame
        else if result.status = .notificationFailed then frame.take sent else [])
    (answered : ∀ items, Held before.queue items → ∃ next,
      Answered items handle (some (decide (frame.length ≤ sent))) answer next ∧ Held after.queue next) :
    Adds before after record bytes := by
  intro items held
  obtain ⟨next, outcome, remaining⟩ := answered items held
  refine ⟨next, remaining, ?_⟩
  cases answer with
  | none =>
    have same : next = items := outcome
    exact fun other present => .inl (same ▸ present)
  | some result =>
    have content := outcome.content
    split at content
    next accepted =>
      intro other present
      have among : other ∈ items ++ [handle] := content ▸ List.mem_append_right _ present
      rcases List.mem_append.mp among with old | new
      · exact .inl old
      · rw [List.mem_singleton.mp new]
        refine .inr ⟨own, connected, fun empty => ?_⟩
        have announced : result.notificationSent = true := by
          rw [outcome.sent, accepted, empty]
          rfl
        rw [frames, written]
        simp [announced]
    next refused => exact fun other present => .inl (content ▸ present)

theorem afterEnqueue_moved {handle : ChunkHandle} {frame : Bytes} {sent : Nat}
    {answer : Option QueueEnqueueResult × SharedSubscriberQueue} (found : before.publishers[publisher]? = some record)
    (live : record.status = .live) (connected : record.connected = true)
    (own : handle.poolId = record.descriptor.poolId) (frames : before.wake record = some frame)
    (answered : ∀ items, Held before.queue items → ∃ next,
      Answered items handle (some (decide (frame.length ≤ sent))) answer.1 next ∧ Held answer.2 next) :
    ∃ next bytes, Moved before (before.afterEnqueue publisher record handle frame sent answer) publisher record next bytes
      false none := by
  obtain ⟨result, queue⟩ := answer
  cases result with
  | none =>
    refine ⟨{ record with waiting := some handle }, [], found, rfl, touched_nothing rfl rfl, rfl, rfl, rfl, rfl,
      .inl rfl, by simp [live], by simp, by simp, by simp, .inl rfl, .inl, .inl live,
      .inr (.inr ⟨handle, rfl, own, connected⟩), ?_⟩
    exact adds_answered own connected frames rfl answered
  | some result =>
    let written := if result.notificationSent then frame
      else if result.status = .notificationFailed then frame.take sent else []
    let failed := result.status == .closed || result.status == .notificationFailed
    have touched := touched_write (setPublisher { before with queue } publisher
      { record with waiting := none, connected := record.connected && !failed }) publisher written
    refine ⟨{ record with waiting := none, connected := record.connected && !failed }, written, found, rfl,
      touched.of_sockets rfl rfl, rfl, rfl, rfl, rfl, .inl rfl, by simp [live], by simp, by simp, by simp, ?_, ?_, .inl live,
      .inl rfl, ?_⟩
    · by_cases sending : result.notificationSent = true
      · exact .inr ⟨connected, frame, frames, .inl (if_pos sending)⟩
      · by_cases failing : result.status = .notificationFailed
        · refine .inr ⟨connected, frame, frames, .inr ⟨by simp [failed, failing], sent, ?_⟩⟩
          simp only [written, if_neg sending, if_pos failing]
        · left
          simp only [written, if_neg sending, if_neg failing]
    · exact fun _ => .inl connected
    · exact adds_answered own connected frames rfl answered

/-- The publisher whose handle the step may put into the queue. -/
def enqueuer : PublisherMove → Option Nat
  | .enqueue publisher .. => some publisher
  | .resumeEnqueue publisher .. => some publisher
  | _ => none

/-- The steps that close the publisher's end of its connection. -/
def closing : PublisherMove → Bool
  | .dropConnection _ | .kill .. | .unadvertise _ => true
  | _ => false

def Fewer (before after : Succession) : Prop :=
  ∀ items, Held before.queue items → ∃ next, next ⊆ items ∧ Held after.queue next

theorem fewer_same (same : after.queue = before.queue) : Fewer before after :=
  fun items held => ⟨items, List.Subset.refl _, by rw [same]; exact held⟩

/-- Everything that a step of a publisher or of the registry can do. -/
inductive PublisherEffect (before : Succession) (move : PublisherMove) (after : Succession) : Prop where
  | advertised (descriptor : PoolDescriptor) (mover : move = .advertise descriptor)
      (admitted : before.admits descriptor = true)
      (same : after = { before with
        publishers := before.publishers ++ [{ descriptor }], registered := some before.publishers.length })
  | moved {publisher : Nat} {record next : PublisherRecord} {bytes : Bytes} {closes : Bool} {opened : Option UnreadStream}
      (moved : Moved before after publisher record next bytes closes opened)
      (mover : enqueuer move = some publisher ∨ Fewer before after) (shuts : closes = true → closing move = true)
      (joins : ∀ stream, opened = some stream → ∃ attempt, move = .connect publisher attempt ∧
        stream.closed = !(before.queue.openQueue before.queueDescriptor attempt).1.isOk)
  | reported {publisher : Nat} {record : PublisherRecord} (found : before.publishers[publisher]? = some record)
      (mover : move = .cleanupDeadNode publisher) (killed : record.status = .killed)
      (same : after = { before with
        registered := none
        peerEvents := if before.phase = .unsubscribed then before.peerEvents
          else before.peerEvents ++ [⟨publisher, record.descriptor.poolId⟩] })

private theorem settled_effect {move : PublisherMove} {next : PublisherRecord} {closes : Bool}
    (found : before.publishers[publisher]? = some record) (acting : record.status ≠ .killed)
    (publishers : after.publishers = before.publishers.set publisher next)
    (touched : Touched before after publisher [] closes none)
    (others : after.phase = before.phase ∧ after.queueDescriptor = before.queueDescriptor ∧
      after.peerEvents = before.peerEvents ∧ (after.registered = before.registered ∨ after.registered = none))
    (kept : next.descriptor = record.descriptor ∧ next.linked = record.linked)
    (connected : next.connected = true → record.connected = true)
    (status : next.status = .live ∨ next.status = .leaving ∨ closes = true)
    (waiting : next.waiting = none) (shuts : closes = true → closing move = true) (fewer : Fewer before after) :
    PublisherEffect before move after := by
  refine .moved ⟨found, publishers, touched, others.1, others.2.1, kept.1, others.2.2.1, others.2.2.2, acting, by simp [kept.2], by simp,
    by simp, .inl rfl, fun now => .inl (connected now), ?_, .inl waiting, adds_fewer fewer⟩ (.inr fewer) shuts
    (by simp)
  rcases status with live | leaving | closing
  · exact .inl live
  · exact .inr (.inl leaving)
  · exact .inr (.inr ⟨closing, rfl⟩)

private theorem touched_connect (state : Succession) (socket : DataSocket) (next : Succession)
    (subscriber : next.subscriber = state.subscriber) (backlog : next.backlog = state.backlog ++ [socket]) :
    Touched state next publisher [] false (some ⟨socket.publisher, socket.closed, socket.pending⟩) := by
  refine ⟨?_, ⟨id, fun _ => ⟨rfl, id⟩, ?_⟩, ?_⟩
  · rw [List.map_congr_left fun stream _ => touch_nothing publisher stream]
    simp [streams, subscriber, backlog]
  · rw [subscriber, Option.map_id_fun, id]
  · simp [backlog]

theorem movePublisher_effect {move : PublisherMove} (shm : before.subscriber.transport = .sharedMemory)
    (patient : ∀ (index : Nat) (record : PublisherRecord) (handle : ChunkHandle), before.publishers[index]? = some record →
      record.waiting = some handle → handle.poolId = record.descriptor.poolId ∧ record.connected = true)
    (taken : before.movePublisher move = some after) : PublisherEffect before move after := by
  obtain admitted | ⟨publisher, record, found, step⟩ := movePublisher_cases taken
  · exact .advertised _ rfl admitted rfl
  cases step with
  | @joined attempt live unlinked =>
    have fewer : ∀ items, Held before.queue items → ∃ next, next ⊆ items ∧
        Held (before.queue.openQueue before.queueDescriptor attempt).2 next :=
      fun items held => ⟨items, List.Subset.refl _, held.openQueue _ _⟩
    refine .moved ⟨found, rfl, touched_connect before _ _ rfl rfl, rfl, rfl, rfl, rfl, .inl rfl, by simp [live], by simp,
      fun _ => unlinked, ?_, .inl rfl, ?_, .inl live, .inr (.inl ⟨rfl, rfl⟩), adds_fewer fewer⟩ (.inr fewer)
      (by simp) ?_
    · rintro _ ⟨⟩
      exact ⟨rfl, rfl⟩
    · intro opened
      have shown : (before.queue.openQueue before.queueDescriptor attempt).1.isOk = true := opened
      simp [shown]
    · rintro _ ⟨⟩
      exact ⟨attempt, rfl, rfl⟩
  | joinedUds transport | published transport | sent transport =>
    rw [shm] at transport
    cases transport
  | offered live connected own frames =>
    obtain ⟨next, bytes, moved⟩ := afterEnqueue_moved found live connected own frames fun items held => held.enqueue _ _ _
    exact .moved moved (.inl rfl) (by simp) (by simp)
  | resumed live waiting frames =>
    obtain ⟨own, connected⟩ := patient _ _ _ found waiting
    obtain ⟨next, bytes, moved⟩ := afterEnqueue_moved found live connected own frames
      fun items held => held.resumeEnqueue _ _ _ _ _
    exact .moved moved (.inl rfl) (by simp) (by simp)
  | dropped acting waiting =>
    exact settled_effect found acting rfl ((touched_closeSockets _ _).of_sockets rfl rfl) ⟨rfl, rfl, rfl, .inl rfl⟩ ⟨rfl, rfl⟩
      (by simp) (.inr (.inr rfl)) waiting (by simp [closing]) (fewer_same rfl)
  | killed acting =>
    exact settled_effect found acting rfl ((touched_closeSockets _ _).of_sockets rfl rfl) ⟨rfl, rfl, rfl, .inl rfl⟩ ⟨rfl, rfl⟩
      (by simp) (.inr (.inr rfl)) rfl (by simp [closing]) (fewer_same rfl)
  | @torn torn frame live connected frames =>
    have fewer : ∀ items, Held before.queue items → ∃ next, next ⊆ items ∧
        Held (before.queue.ownerDeath torn.head torn.tail torn.size torn.maxSize torn.counters false torn.stores)
          next := fun items held => ⟨[], List.nil_subset _, held.ownerDeath _ _ _ _ _ _ _⟩
    refine .moved ⟨found, rfl, (touched_write _ _ _).close.of_sockets rfl rfl, rfl, rfl, rfl, rfl, .inl rfl, by simp [live],
      by simp, by simp, by simp, .inr ⟨connected, frame, frames, .inr ⟨rfl, torn.sent, rfl⟩⟩, by simp,
      .inr (.inr ⟨rfl, rfl⟩), .inl rfl, adds_fewer fewer⟩ (.inr fewer) (by simp [closing]) (by simp)
  | destroyed live waiting =>
    refine settled_effect found (by simp [live]) rfl (touched_nothing rfl rfl) ⟨rfl, rfl, rfl, .inl rfl⟩ ⟨rfl, rfl⟩ id
      (.inr (.inl rfl)) waiting (by simp) ?_
    intro items held
    simp only [setPublisher]
    split
    · obtain ⟨next, fewer, drained⟩ := held.drain _
      refine ⟨next, ?_, drained⟩
      rcases fewer with rfl | rfl
      · exact List.Subset.refl _
      · exact List.nil_subset _
    · exact ⟨items, List.Subset.refl _, held⟩
  | withdrawn leaving =>
    refine settled_effect found (by simp [leaving]) rfl ?_ ⟨rfl, rfl, rfl, .inr rfl⟩ ⟨rfl, rfl⟩ (by simp) (.inr (.inr rfl))
      rfl (by simp [closing]) (fewer_same rfl)
    obtain ⟨streams, accepted, backlog⟩ := touched_closeSockets (before.setPublisher publisher
      { record with status := .left, connected := false, waiting := none }) publisher
    exact ⟨streams, accepted, backlog⟩
  | reported killed => exact .reported found rfl killed rfl

end RobotMiddleware.Proofs.SuccessionEffects
