import RobotMiddleware.Proofs.GenuineWakes
import RobotMiddleware.Proofs.StrandedSamples

/-! No wake-up is lost between a look at the ring and the poll. A publisher that
enqueues into an empty ring writes a Wake in the same step, and a subscriber that
has taken a Wake off the connection looks at the ring again before it polls. So as
long as one publisher is connected and nothing is reset, a subscriber that polls
with a sample in the ring has a Wake to read. -/

namespace RobotMiddleware.Proofs.WakeUps
open Lib.Transitions QueueContents QueueRefinement Succession SuccessionEffects SubscriberEffects SuccessionInvariant
  StrandedSamples GenuineWakes

/-- One publisher, which connects and stays, and a subscriber whose system calls
do not fail. -/
def undisturbed (state : Succession) : SuccessionEvent → Bool
  | .publisher (.advertise _) => state.publishers.isEmpty
  | .publisher (.connect _ attempt) => (state.queue.openQueue state.queueDescriptor attempt).1.isOk
  | .publisher (.enqueue ..) => true
  | .publisher (.resumeEnqueue ..) => true
  | .publisher _ => false
  | .subscriber (.peek attempt) => !attempt.refused
  | .subscriber (.dequeue attempt _) => !attempt.refused
  | .subscriber (.poll outcome) => outcome != .failed
  | .subscriber (.recv outcome segment) => outcome != .failed && segment == .opened
  | .subscriber _ => true

/-- The subscriber has looked at the ring and will not look again before bytes or
a connection come. -/
def waits (phase : TakePhase) : Prop := phase = .polling ∨ phase = .listening ∨ phase = .accepting

def Alerted (state : Succession) : Prop :=
  ∃ (publisher : Nat) (record : PublisherRecord), state.publishers[publisher]? = some record ∧
    Announces state publisher record

structure Steady (state : Succession) : Prop where
  inv : Inv state
  safe : NoStranded state
  single : state.publishers.length ≤ 1
  working : ∃ items, Working state.queue items
  calm : pendingDeaths state = [] ∧ ¬losing state.phase
  running : ∀ stream ∈ streams state, stream.closed = false
  joined : ∀ (index : Nat) (record : PublisherRecord), state.publishers[index]? = some record → record.linked = true →
    Connected state index
  viewing : state.subscriber.connection = none → state.subscriber.poolView = none
  awake : waits state.phase → stored state.queue ≠ [] → Alerted state

variable {before after : Succession}

theorem Steady.only (steady : Steady before) {index other : Nat} {record second : PublisherRecord}
    (found : before.publishers[index]? = some record) (also : before.publishers[other]? = some second) :
    index = other ∧ record = second := by
  have single := steady.single
  have first := (List.getElem?_eq_some_iff.mp found).1
  have last := (List.getElem?_eq_some_iff.mp also).1
  have equal : index = other := by omega
  subst equal
  exact ⟨rfl, Option.some.inj (found.symm.trans also)⟩

theorem Steady.owner (steady : Steady before) (nonempty : stored before.queue ≠ []) :
    ∃ (index : Nat) (record : PublisherRecord), before.publishers[index]? = some record ∧ Connected before index ∧
      ∀ handle ∈ stored before.queue, handle.poolId = record.descriptor.poolId := by
  obtain ⟨handle, present⟩ := List.exists_mem_of_ne_nil _ nonempty
  obtain ⟨index, record, found, _, linked⟩ := steady.inv.belongs handle present
  refine ⟨index, record, found, steady.joined index record found linked, ?_⟩
  intro other inside
  obtain ⟨_, owner, also, own, _⟩ := steady.inv.belongs other inside
  rw [own, (steady.only found also).2]

theorem Steady.findsOwn (steady : Steady before) (event : SuccessionEvent) : FindsOwn before event := by
  cases event with
  | subscriber move => trivial
  | publisher move =>
    intro publisher record _ found
    by_cases empty : stored before.queue = []
    · exact .inl empty
    · obtain ⟨index, owner, also, _, own⟩ := steady.owner empty
      obtain ⟨handle, present⟩ := List.exists_mem_of_ne_nil _ empty
      refine .inr ⟨handle, present, ?_⟩
      rw [own handle present, (steady.only found also).2]

theorem Steady.alerted (steady : Steady before) (unviewed : before.subscriber.poolView = none)
    (nonempty : stored before.queue ≠ []) : Alerted before := by
  obtain ⟨index, record, found, connected, own⟩ := steady.owner nonempty
  obtain ⟨handle, present⟩ := List.exists_mem_of_ne_nil _ nonempty
  rcases steady.safe index record found connected ⟨handle, present, own handle present⟩ with viewed | announces
  · rw [unviewed] at viewed
    cases viewed
  · exact ⟨index, record, found, announces⟩

section Publishers

theorem movePublisher_working {move : PublisherMove} (allowed : undisturbed before (.publisher move) = true)
    (working : ∃ items, Working before.queue items) (taken : before.movePublisher move = some after) :
    ∃ items, Working after.queue items := by
  obtain ⟨items, working⟩ := working
  obtain _ | ⟨publisher, record, found, step⟩ := movePublisher_cases taken
  · exact ⟨items, working⟩
  cases step with
  | joinedUds => exact ⟨items, working⟩
  | joined => exact ⟨items, working.openQueue _ _⟩
  | offered =>
    obtain ⟨rest, _, next⟩ := working.enqueue _ _ _
    rw [afterEnqueue_queue]
    exact ⟨rest, next⟩
  | resumed =>
    obtain ⟨rest, _, next⟩ := working.resumeEnqueue _ _ _ _ _
    rw [afterEnqueue_queue]
    exact ⟨rest, next⟩
  | _ => cases allowed

variable {publisher : Nat} {record next : PublisherRecord} {bytes : Bytes} {opened : Option UnreadStream}

theorem connected_moved (moved : Moved before after publisher record next bytes false opened) {index : Nat}
    (connected : Connected before index) : Connected after index := by
  obtain ⟨stream, present, own, running⟩ := connected
  refine ⟨touch publisher bytes false stream, ?_, ?_, ?_⟩
  · rw [moved.touched.streams]
    exact List.mem_append_left _ (List.mem_map_of_mem present)
  · rw [touch_publisher]
    exact own
  · simp only [touch]
    split
    · simp [running]
    · exact running

/-- A new handle comes with a Wake, or behind handles with one. -/
theorem moved_awake (steady : Steady before) (moved : Moved before after publisher record next bytes false opened)
    (waiting : waits before.phase) (nonempty : stored after.queue ≠ []) : Alerted after := by
  have kept (alerted : Alerted before) : Alerted after := by
    obtain ⟨index, old, found, announces⟩ := alerted
    obtain ⟨now, present, same, _⟩ := moved_extends moved index old found
    exact ⟨index, now, present, announces.grow moved same⟩
  by_cases empty : stored before.queue = []
  · obtain ⟨handle, present⟩ := List.exists_mem_of_ne_nil _ nonempty
    rcases moved_queued moved steady.inv ⟨handle, present, rfl⟩ with ⟨old, had, _⟩ | ⟨_, joined, _, announced⟩
    · rw [empty] at had
      cases had
    · have linked := steady.inv.roster.joined publisher record moved.found joined
      have connected := steady.joined publisher record moved.found linked
      exact ⟨publisher, next, (moved_lookup moved _ _).mpr (.inl ⟨rfl, rfl⟩),
        moved_announces moved steady.inv joined connected (announced empty)⟩
  · exact kept (steady.awake waiting empty)

theorem moved_steady (steady : Steady before) (moved : Moved before after publisher record next bytes false opened)
    (opens : ∀ stream, opened = some stream → stream.closed = false) (inv : Inv after) (safe : NoStranded after)
    (working : ∃ items, Working after.queue items) : Steady after := by
  refine ⟨inv, safe, ?_, working, ?_, ?_, ?_, ?_, ?_⟩
  · rw [moved.publishers, List.length_set]
    exact steady.single
  · rw [pendingDeaths, moved.phase, moved.events]
    exact steady.calm
  · intro stream present
    rw [moved.touched.streams] at present
    rcases List.mem_append.mp present with touched | new
    · obtain ⟨origin, member, rfl⟩ := List.mem_map.mp touched
      have running := steady.running origin member
      simp only [touch]
      split
      · simp [running]
      · exact running
    · exact opens stream (by simpa using new)
  · intro index now found linked
    rcases (moved_lookup moved _ _).mp found with ⟨rfl, rfl⟩ | ⟨_, old⟩
    · rw [moved.linked, Bool.or_eq_true] at linked
      rcases linked with was | opening
      · exact connected_moved moved (steady.joined index record moved.found was)
      · obtain ⟨stream, some⟩ := Option.isSome_iff_exists.mp opening
        refine ⟨stream, ?_, (moved.opens stream some).1, opens stream some⟩
        rw [moved.touched.streams, some]
        exact List.mem_append_right _ (List.mem_singleton.mpr rfl)
    · exact connected_moved moved (steady.joined index now old linked)
  · obtain ⟨change, _, subscriber⟩ := moved.touched.accepted
    rw [subscriber]
    intro none
    exact steady.viewing (Option.map_eq_none_iff.mp none)
  · rw [moved.phase]
    exact moved_awake steady moved

theorem advertised_steady (steady : Steady before) (first : before.publishers = []) {descriptor : PoolDescriptor}
    (same : after = { before with
      publishers := before.publishers ++ [{ descriptor }], registered := some before.publishers.length })
    (inv : Inv after) (safe : NoStranded after) : Steady after := by
  subst same
  refine ⟨inv, safe, ?_, steady.working, steady.calm, steady.running, ?_, steady.viewing, ?_⟩
  · simp [first]
  · intro index record found linked
    rcases (advertised_lookup index record).mp found with old | ⟨_, rfl⟩
    · rw [first] at old
      cases old
    · cases linked
  · -- nobody has put anything into the ring yet
    intro waiting nonempty
    obtain ⟨index, record, found, _⟩ := steady.awake waiting nonempty
    rw [first] at found
    cases found

theorem movePublisher_steady (steady : Steady before) {move : PublisherMove}
    (allowed : undisturbed before (.publisher move) = true) (taken : before.movePublisher move = some after) :
    Steady after := by
  have inv := movePublisher_inv steady.inv taken
  have safe := movePublisher_noStranded steady.inv steady.safe (steady.findsOwn _) taken
  have working := movePublisher_working allowed steady.working taken
  cases movePublisher_effect steady.inv.shm steady.inv.roster.patient taken with
  | advertised descriptor mover admitted same =>
    subst mover
    exact advertised_steady steady (List.isEmpty_iff.mp allowed) same inv safe
  | @moved publisher record next bytes closes opened moved mover shuts joins =>
    have stays : closes = false := by
      cases closes with
      | false => rfl
      | true =>
        have shut := shuts rfl
        cases move with
        | dropConnection | kill | unadvertise => cases allowed
        | _ => cases shut
    subst stays
    refine moved_steady steady moved ?_ inv safe working
    intro stream opening
    obtain ⟨attempt, same, closed⟩ := joins stream opening
    subst same
    have opened : (before.queue.openQueue before.queueDescriptor attempt).1.isOk = true := allowed
    rw [closed, opened]
    rfl
  | reported found mover =>
    subst mover
    cases allowed

end Publishers

section Subscriber

/-- What an undisturbed step of the subscriber keeps: its connection, a working
queue, and a Wake to read when it goes to wait with something in the ring. -/
structure Attends (before after : Succession) : Prop where
  connection : before.subscriber.connection ≠ none → after.subscriber.connection ≠ none
  working : ∃ items, Working after.queue items
  awake : waits after.phase → stored after.queue ≠ [] → streams after = streams before ∧ Alerted before

theorem attends_resting (steady : Steady before)
    (connection : before.subscriber.connection ≠ none → after.subscriber.connection ≠ none)
    (queue : after.queue = before.queue) (resting : ¬waits after.phase) : Attends before after :=
  ⟨connection, queue ▸ steady.working, fun waiting => absurd waiting resting⟩

theorem attends_waiting (steady : Steady before) (waiting : waits before.phase)
    (connection : before.subscriber.connection ≠ none → after.subscriber.connection ≠ none)
    (queue : after.queue = before.queue) (same : streams after = streams before) : Attends before after :=
  ⟨connection, queue ▸ steady.working, fun _ nonempty => ⟨same, steady.awake waiting (queue ▸ nonempty)⟩⟩

theorem stop_attends (steady : Steady before) (error : ErrorCode) : Attends before (before.stop error) :=
  attends_resting steady id rfl (by simp [Succession.stop, waits])

theorem repeatLoop_attends (steady : Steady before) : Attends before before.repeatLoop := by
  unfold repeatLoop
  rw [steady.inv.shm]
  exact attends_resting steady id rfl (by simp [waits])

/-- A Wake that has come in completely is taken. -/
theorem Steady.takes (steady : Steady before) {socket : DataSocket} {count : Nat}
    (found : before.subscriber.connection = some socket)
    (full : (before.subscriber.headerBuffer ++ socket.pending.take count).length = kQueueWakeSize)
    {filled : Subscriber} (same : filled = { before.subscriber with
      connection := some { socket with pending := socket.pending.drop count }
      headerBuffer := before.subscriber.headerBuffer ++ socket.pending.take count }) :
    (filled.takeWake .opened).1 = .ok ∧ (filled.takeWake .opened).2.connection ≠ none := by
  obtain ⟨record, frame, rest, torn, wired, first⟩ := full_buffer steady.inv found full
  have only : RemembersOnly before.subscriber record.descriptor := by
    rcases steady.inv.memory.remembered with ⟨_, zero⟩ | ⟨index, owner, also, own⟩
    · exact .inl zero
    · right
      rw [own, (steady.only also wired.found).2]
  have taken : (filled.takeWake .opened).1 = .ok := by
    refine wake_taken steady.inv wired.found only (by rw [same]) ?_
    rw [wired.frames, same, ← first]
  obtain ⟨_, _, _, _, _, installed⟩ := read_installs steady.inv found full same taken
  refine ⟨taken, ?_⟩
  rw [installed, same]
  simp [Subscriber.resetFrame]

theorem recv_attends (steady : Steady before) {respond : Succession → Option ErrorCode → Succession} {phase : TakePhase}
    {socket : DataSocket} {outcome : RecvOutcome} (responds : Responds respond phase) (inside : before.phase = phase)
    (simple : phase = .draining ∨ phase = .receiving) (found : before.subscriber.connection = some socket)
    (allowed : socket.allows before.subscriber.wanted outcome = true) (sound : outcome ≠ .failed) :
    Attends before (respond { before with subscriber := (before.subscriber.receiveWake socket outcome .opened).2 }
      (before.subscriber.receiveWake socket outcome .opened).1) := by
  have busy : ¬waits before.phase := by
    rw [inside]
    rcases simple with rfl | rfl <;> simp [waits]
  have running : socket.closed = false := by
    refine steady.running ⟨socket.publisher, socket.closed, before.subscriber.headerBuffer ++ socket.pending⟩ ?_
    rw [streams_connected found]
    exact List.mem_cons_self
  cases outcome with
  | bytes count =>
    simp only [DataSocket.allows, Bool.and_eq_true, decide_eq_true_eq, Subscriber.wanted, steady.inv.shm] at allowed
    unfold Subscriber.receiveWake
    simp only
    split
    · rw [responds.again]
      exact attends_resting steady (by simp) rfl busy
    next complete =>
      have full : (before.subscriber.headerBuffer ++ socket.pending.take count).length = kQueueWakeSize := by
        rw [List.length_append, List.length_take] at complete ⊢
        omega
      generalize filled : ({ before.subscriber with
        connection := some { socket with pending := socket.pending.drop count }
        headerBuffer := before.subscriber.headerBuffer ++ socket.pending.take count } : Subscriber) = subscriber
      obtain ⟨taken, connected⟩ := steady.takes found full filled.symm
      rw [taken]
      obtain ⟨error, next, same, later⟩ :=
        responds.ok { before with subscriber := (subscriber.takeWake .opened).2 } inside
      rw [same]
      refine attends_resting steady (fun _ => connected) rfl ?_
      rcases later with rfl | rfl <;> simp [waits]
  | endOfStream =>
    simp [DataSocket.allows, running] at allowed
  | connectionReset =>
    simp [DataSocket.allows, running] at allowed
  | wouldBlock =>
    unfold Subscriber.receiveWake
    rw [responds.timeout]
    exact attends_resting steady id rfl (by simp [waits])
  | interrupted =>
    unfold Subscriber.receiveWake
    rw [responds.again]
    exact attends_resting steady id rfl busy
  | failed => exact absurd rfl sound

theorem afterTake_connection (state : Succession) : state.afterTake.subscriber = state.subscriber ∧
    state.afterTake.queue = state.queue ∧ streams state.afterTake = streams state := by
  unfold afterTake
  split <;> exact ⟨rfl, rfl, rfl⟩

/-- A look finds the ring empty, or the call goes on to take the handle. -/
theorem peek_attends (steady : Steady before) {attempt : LockAttempt} (granted : attempt.refused = false) :
    Attends before (before.peek attempt) := by
  obtain ⟨items, working⟩ := steady.working
  have answer := (working.first granted).1
  have next := working.peek attempt
  cases viewing : before.subscriber.poolView with
  | none =>
    have same : before.peek attempt = before.afterTake := by simp [Succession.peek, viewing]
    obtain ⟨subscriber, queue, unread⟩ := afterTake_connection before
    rw [same]
    refine ⟨by rw [subscriber]; exact id, by rw [queue]; exact steady.working, ?_⟩
    intro _ nonempty
    rw [queue] at nonempty
    exact ⟨unread, steady.alerted viewing nonempty⟩
  | some view =>
    cases connection : before.subscriber.connection with
    | none =>
      rw [steady.viewing connection] at viewing
      cases viewing
    | some =>
      cases head : items with
      | nil =>
        have same : before.peek attempt = afterTake { before with queue := (before.queue.peek attempt).2 } := by
          simp [Succession.peek, viewing, connection, answer, head]
        obtain ⟨subscriber, queue, _⟩ := afterTake_connection { before with queue := (before.queue.peek attempt).2 }
        rw [same]
        refine ⟨by rw [subscriber]; exact id, by rw [queue]; exact ⟨items, next⟩, ?_⟩
        intro _ nonempty
        rw [queue, next.stored, head] at nonempty
        exact absurd rfl nonempty
      | cons handle rest =>
        have present : handle ∈ stored before.queue := by
          rw [working.stored, head]
          exact List.mem_cons_self
        have own : handle.poolId = view.poolId := by
          obtain ⟨_, owner, found, mine, _⟩ := steady.inv.belongs handle present
          obtain ⟨_, _, record, also, same, _⟩ := steady.inv.memory.viewed view viewing
          rw [mine, same, (steady.only found also).2]
        have same : before.peek attempt = { before with queue := (before.queue.peek attempt).2, phase := .dequeuing } := by
          simp [Succession.peek, viewing, connection, answer, head, own]
        rw [same]
        refine ⟨by simp [connection], ⟨items, next⟩, ?_⟩
        simp [waits]

theorem read_error (pool : MemoryPool) (handle : ChunkHandle) (maxMessageSize : UInt64) :
    (MemoryPoolView.read pool handle maxMessageSize).error ≠ .timeout := by
  unfold MemoryPoolView.read
  simp only
  split
  · simp
  · split <;> simp

theorem dequeue_attends (steady : Steady before) {attempt : LockAttempt} (granted : attempt.refused = false)
    (pool : MemoryPool) : Attends before (before.dequeue attempt pool) := by
  obtain ⟨items, working⟩ := steady.working
  obtain ⟨rest, content, next⟩ := working.tryDequeue attempt
  have answer := (working.first granted).2
  unfold Succession.dequeue
  simp only
  split
  next none =>
    have empty : rest = [] := by
      rw [none] at answer content
      rw [← content] at answer
      exact List.head?_eq_none_iff.mp answer.symm
    obtain ⟨subscriber, queue, _⟩ := afterTake_connection { before with queue := (before.queue.tryDequeue attempt).2 }
    refine ⟨by rw [subscriber]; exact id, by rw [queue]; exact ⟨rest, next⟩, ?_⟩
    intro _ nonempty
    rw [queue, next.stored, empty] at nonempty
    exact absurd rfl nonempty
  next handle taken =>
    split
    · exact ⟨id, ⟨rest, next⟩, by simp [Succession.stop, waits]⟩
    next failed =>
      have late := read_error pool handle before.subscriber.maxMessageSize
      refine ⟨?_, ?_, ?_⟩ <;> simp only [afterTake] <;> rw [if_pos ⟨failed, late⟩]
      · exact id
      · exact ⟨rest, next⟩
      · simp [waits]

theorem moveSubscriber_attends (steady : Steady before) {move : SubscriberMove}
    (allowed : undisturbed before (.subscriber move) = true) (taken : before.moveSubscriber move = some after) :
    Attends before after := by
  have undying {event : PublisherDeath} {events : List PublisherDeath} (pending : phaseDeaths before.phase = event :: events) :
      False := by
    have none := steady.calm.1
    rw [pendingDeaths, pending] at none
    cases none
  cases moveSubscriber_steps taken with
  | subscribed | called | arrived => exact attends_resting steady id rfl (by simp [waits])
  | entered =>
    unfold enterLoop
    rw [steady.inv.shm]
    refine attends_resting steady id rfl ?_
    dsimp only
    split <;> simp [waits]
  | discarded attempt phase => exact (undying (by rw [phase]; rfl)).elim
  | reset phase => exact (undying (by rw [phase]; rfl)).elim
  | lostDiscarded attempt phase => exact absurd (.inl phase) steady.calm.2
  | lostReset phase => exact absurd (.inr phase) steady.calm.2
  | peeked => exact peek_attends steady (by simpa [undisturbed] using allowed)
  | dequeued attempt pool => exact dequeue_attends steady (by simpa [undisturbed] using allowed) pool
  | knocked phase => exact attends_waiting steady (.inr (.inl phase)) id rfl rfl
  | expired => exact stop_attends steady _
  | unheard | broken => cases allowed
  | interrupted | unaccepted => exact repeatLoop_attends steady
  | accepted phase waiting =>
    have unconnected := steady.inv.idle (.inr phase)
    exact attends_waiting steady (.inr (.inr phase)) (fun connected => absurd unconnected connected) rfl
      (streams_accepted unconnected waiting)
  | drained segment phase found able =>
    simp only [undisturbed, Bool.and_eq_true, bne_iff_ne, ne_eq, beq_iff_eq] at allowed
    obtain ⟨sound, rfl⟩ := allowed
    exact recv_attends steady drained_responds phase (.inl rfl) found able sound
  | received segment phase found able =>
    simp only [undisturbed, Bool.and_eq_true, bne_iff_ne, ne_eq, beq_iff_eq] at allowed
    obtain ⟨sound, rfl⟩ := allowed
    exact recv_attends steady received_responds phase (.inr rfl) found able sound
  | receivedUds _ _ uds =>
    rw [steady.inv.shm] at uds
    cases uds

theorem steady_ends (steady : Steady before) (attends : Attends before after) {move : SubscriberMove}
    (taken : before.moveSubscriber move = some after) :
    (streams after).map (fun stream => (stream.publisher, stream.closed)) =
      (streams before).map (fun stream => (stream.publisher, stream.closed)) ∧
      (after.subscriber.connection = none → after.subscriber.poolView = none) ∧ ¬losing after.phase := by
  obtain ⟨frame, effect⟩ := moveSubscriber_effect steady.inv.shm taken
  have viewing (gone : after.subscriber.connection = none) : before.subscriber.poolView = none := by
    refine steady.viewing ?_
    by_contra connected
    exact attends.connection connected gone
  cases effect with
  | quiet same lost =>
    refine ⟨by rw [streams_unchanged same], fun gone => same.poolView.trans (viewing gone), ?_⟩
    exact fun losing => steady.calm.2 (lost losing)
  | lost same socket found closed =>
    have running := steady.running ⟨socket.publisher, socket.closed, before.subscriber.headerBuffer ++ socket.pending⟩
      (by rw [streams_connected found]; exact List.mem_cons_self)
    rw [closed] at running
    cases running
  | subscribed same first =>
    subst same
    exact ⟨rfl, viewing, by simp [losing]⟩
  | accepted socket rest waiting accepting same =>
    subst same
    refine ⟨by rw [streams_accepted (steady.inv.idle (.inr accepting)) waiting], viewing, by simp [losing]⟩
  | buffered socket count found same short quiet =>
    subst same
    exact ⟨by rw [streams_buffered found], viewing, quiet⟩
  | read socket count segment found full accepted error subscriber backlog quiet =>
    obtain ⟨record, sent, copies, torn, wired, installed⟩ := read_installs steady.inv found full rfl accepted
    rw [installed] at subscriber
    have current : after.subscriber.connection = some { socket with pending := socket.pending.drop count } := by
      rw [subscriber]
      rfl
    refine ⟨?_, by simp [current], quiet⟩
    rw [streams_connected current, streams_connected found, backlog]
    rfl
  | dropped connection header discovered view backlog quiet =>
    have none : before.subscriber.connection = none := by
      by_contra connected
      exact attends.connection connected connection
    refine ⟨?_, fun _ => view.trans (steady.viewing none), quiet⟩
    rw [streams_unconnected connection, streams_unconnected none, backlog]
  | forgot poolId reason resets connection header discovered view backlog quiet =>
    exact ⟨by
      rcases reason with ⟨event, rest, phase, _⟩ | phase
      · have none := steady.calm.1
        rw [pendingDeaths, phase] at none
        cases none
      · exact absurd (.inr phase) steady.calm.2, fun _ => view, quiet⟩

theorem moveSubscriber_steady (steady : Steady before) {move : SubscriberMove}
    (allowed : undisturbed before (.subscriber move) = true) (taken : before.moveSubscriber move = some after) :
    Steady after := by
  have attends := moveSubscriber_attends steady allowed taken
  obtain ⟨ends, viewing, quiet⟩ := steady_ends steady attends taken
  have frame := moveSubscriber_local taken
  refine ⟨moveSubscriber_inv steady.inv taken, moveSubscriber_noStranded steady.inv steady.safe taken, ?_, attends.working,
    ⟨?_, quiet⟩, ?_, ?_, viewing, ?_⟩
  · rw [frame.publishers]
    exact steady.single
  · have none := frame.deaths
    rw [steady.calm.1] at none
    exact List.subset_nil.mp none
  · intro stream present
    have listed := List.mem_map_of_mem (f := fun stream => (stream.publisher, stream.closed)) present
    rw [ends] at listed
    obtain ⟨origin, member, same⟩ := List.mem_map.mp listed
    rw [← (Prod.mk.inj same).2]
    exact steady.running origin member
  · intro index record found linked
    rw [frame.publishers] at found
    obtain ⟨stream, present, own, running⟩ := steady.joined index record found linked
    have listed := List.mem_map_of_mem (f := fun stream => (stream.publisher, stream.closed)) present
    rw [← ends] at listed
    obtain ⟨current, member, same⟩ := List.mem_map.mp listed
    exact ⟨current, member, (Prod.mk.inj same).1.trans own, (Prod.mk.inj same).2.trans running⟩
  · intro waiting nonempty
    obtain ⟨same, index, record, found, sent, frames, announced⟩ := attends.awake waiting nonempty
    refine ⟨index, record, by rw [frame.publishers]; exact found, sent, ?_, ?_⟩
    · exact (wake_eq frame.queueDescriptor rfl).trans frames
    · rw [same]
      exact announced

end Subscriber

theorem step_steady (steady : Steady before) {event : SuccessionEvent} (allowed : undisturbed before event = true)
    (taken : before.step event = some after) : Steady after := by
  cases event with
  | subscriber move => exact moveSubscriber_steady steady allowed taken
  | publisher move => exact movePublisher_steady steady allowed taken

theorem start_steady {maxMessageSize topicId : UInt64} {descriptor : QueueDescriptor} {queue : SharedSubscriberQueue}
    (created : SharedSubscriberQueue.create descriptor = .ok queue) :
    Steady (start .sharedMemory maxMessageSize topicId descriptor queue) := by
  refine ⟨start_inv created, ?_, ?_, ⟨[], (create_working created).1⟩, ⟨rfl, ?_⟩, ?_, ?_, fun _ => rfl, ?_⟩
  · intro publisher record found
    simp [start] at found
  · simp [start]
  · simp [start, losing]
  · simp [start, streams]
  · intro index record found
    simp [start] at found
  · simp [start, waits]

/-- In every undisturbed run, a subscriber that polls its data connection with a
sample in the queue has a Wake of the publisher that is not read completely, and
its next byte is pending. -/
theorem no_lost_wakeUp {maxMessageSize topicId : UInt64} {descriptor : QueueDescriptor} {queue : SharedSubscriberQueue}
    (created : SharedSubscriberQueue.create descriptor = .ok queue) {events : List SuccessionEvent} {state : Succession}
    (calm : Along step (fun state event => undisturbed state event = true)
      (start .sharedMemory maxMessageSize topicId descriptor queue) events)
    (run : execute step (start .sharedMemory maxMessageSize topicId descriptor queue) events = some state)
    {socket : DataSocket} (phase : state.phase = .polling) (connected : state.subscriber.connection = some socket)
    (nonempty : contents state.queue ≠ []) :
    ∃ record frame, state.publishers[socket.publisher]? = some record ∧ state.wake record = some frame ∧
      frame <+: state.subscriber.headerBuffer ++ socket.pending ∧ socket.pending ≠ [] := by
  have steady : Steady state :=
    calm.invariant (fun state event next held allowed taken => step_steady held allowed taken) (start_steady created) run
  obtain ⟨items, working⟩ := steady.working
  rw [working.contents, ← working.stored] at nonempty
  obtain ⟨index, record, found, frame, frames, stream, present, own, announced⟩ := steady.awake (.inl phase) nonempty
  obtain ⟨owner, _, _, _, wired⟩ := accepted_wired steady.inv connected
  obtain ⟨rfl, rfl⟩ := steady.only found wired.found
  -- the publisher has one stream, that of the accepted connection
  have accepted : (⟨socket.publisher, socket.closed, state.subscriber.headerBuffer ++ socket.pending⟩ : UnreadStream) ∈
      streams state := by
    rw [streams_connected connected]
    exact List.mem_cons_self
  have same := List.inj_on_of_nodup_map steady.inv.wiring.owners present accepted own
  have unread : frame <+: state.subscriber.headerBuffer ++ socket.pending := by
    rw [same] at announced
    exact announced
  refine ⟨record, frame, found, frames, unread, ?_⟩
  intro empty
  have length := unread.length_le
  have short := steady.inv.short
  rw [empty, List.append_nil, wake_length frames] at length
  omega

def enqueueThenAccept : List SuccessionEvent :=
  [.publisher (.advertise firstPool), .subscriber .subscribe, .publisher (.connect 0 {}),
    .publisher (.enqueue 0 ⟨1, 0, 1, 320⟩ kQueueWakeSize {}), .subscriber (.call 0), .subscriber (.processDeath {}),
    .subscriber (.peek {}), .subscriber (.poll .ready), .subscriber (.accept true)]

set_option maxRecDepth 4000 in
theorem enqueueThenAccept_runs :
    ∃ queue state socket, SharedSubscriberQueue.create sampleQueue = .ok queue ∧
      Along step (fun state event => undisturbed state event = true) (start .sharedMemory 64 1 sampleQueue queue)
        enqueueThenAccept ∧
      execute step (start .sharedMemory 64 1 sampleQueue queue) enqueueThenAccept = some state ∧
      state.phase = .polling ∧ state.subscriber.connection = some socket ∧ contents state.queue = [⟨1, 0, 1, 320⟩] :=
  ⟨_, _, _, rfl, along_of_check (fun _ _ checked => checked) rfl, rfl, rfl, rfl, rfl⟩

theorem no_lost_wakeUp_sample :
    ∃ queue state socket, SharedSubscriberQueue.create sampleQueue = .ok queue ∧
      execute step (start .sharedMemory 64 1 sampleQueue queue) enqueueThenAccept = some state ∧
      state.phase = .polling ∧ state.subscriber.connection = some socket ∧ contents state.queue = [⟨1, 0, 1, 320⟩] ∧
      ∃ record frame, state.publishers[socket.publisher]? = some record ∧ state.wake record = some frame ∧
        frame <+: state.subscriber.headerBuffer ++ socket.pending ∧ socket.pending ≠ [] := by
  obtain ⟨queue, state, socket, created, calm, run, phase, connected, held⟩ := enqueueThenAccept_runs
  have nonempty : contents state.queue ≠ [] := by
    rw [held]
    exact List.cons_ne_nil _ _
  exact ⟨queue, state, socket, created, run, phase, connected, held,
    no_lost_wakeUp created calm run phase connected nonempty⟩

end RobotMiddleware.Proofs.WakeUps
