import RobotMiddleware.Lib.Framing
import RobotMiddleware.Proofs.QueueFrames
import RobotMiddleware.Proofs.SubscriberEffects

/-! What holds in every state of a shared memory topic whatever its publishers do:
which publisher a connection, a handle, a pool view or a death notice belongs to,
and that an unread stream is made of the Wakes of its publisher. -/

namespace RobotMiddleware.Proofs.SuccessionInvariant
open Lib.Framing QueueContents QueueFrames Succession SuccessionEffects SubscriberEffects

/-- The descriptor passes the checks of the subscriber. -/
structure Admitted (topicId : UInt64) (descriptor : PoolDescriptor) : Prop where
  name : isValidSharedMemoryName descriptor.shmName = true
  poolId : descriptor.poolId ≠ 0
  segmentSize : kPoolHeaderSize ≤ descriptor.segmentSize
  layoutVersion : descriptor.layoutVersion = kPoolLayoutVersion
  topic : descriptor.topicId = topicId

structure Roster (state : Succession) : Prop where
  admitted : ∀ (index : Nat) (record : PublisherRecord), state.publishers[index]? = some record →
    Admitted state.subscriber.topicId record.descriptor
  distinct : ∀ (index other : Nat) (record second : PublisherRecord), state.publishers[index]? = some record →
    state.publishers[other]? = some second → record.descriptor.poolId = second.descriptor.poolId → index = other
  patient : ∀ (index : Nat) (record : PublisherRecord) (handle : ChunkHandle), state.publishers[index]? = some record →
    record.waiting = some handle → handle.poolId = record.descriptor.poolId ∧ record.connected = true
  joined : ∀ (index : Nat) (record : PublisherRecord), state.publishers[index]? = some record →
    record.connected = true → record.linked = true

/-- The stream holds Wakes of its publisher, the last one maybe torn if the
publisher does not write any more. -/
structure Wired (state : Succession) (stream : UnreadStream) (record : PublisherRecord) (frame : Bytes) (count : Nat)
    (torn : Bytes) : Prop where
  found : state.publishers[stream.publisher]? = some record
  linked : record.linked = true
  running : stream.closed = false → record.status = .live ∨ record.status = .leaving
  frames : state.wake record = some frame
  bytes : stream.bytes = repeated frame count torn
  short : torn.length < frame.length
  whole : record.connected = true → torn = []

structure Wiring (state : Succession) : Prop where
  wired : ∀ stream ∈ streams state, ∃ record frame count torn, Wired state stream record frame count torn
  owners : ((streams state).map (·.publisher)).Nodup

/-- What the subscriber knows of pools comes from publishers. -/
structure Memory (state : Succession) : Prop where
  remembered : state.subscriber.discoveredPool.shmName = [] ∧ state.subscriber.discoveredPool.poolId = 0 ∨
    ∃ (index : Nat) (record : PublisherRecord), state.publishers[index]? = some record ∧
      state.subscriber.discoveredPool = record.descriptor
  viewed : ∀ view, state.subscriber.poolView = some view → state.subscriber.discoveredPool = view ∧
    ∃ (index : Nat) (record : PublisherRecord), state.publishers[index]? = some record ∧ view = record.descriptor ∧
      record.linked = true ∧ index ∉ state.backlog.map (·.publisher)

structure Inv (state : Succession) : Prop where
  shm : state.subscriber.transport = .sharedMemory
  queueId : state.subscriber.queueId = state.queueDescriptor.queueId ∧ state.queueDescriptor.queueId ≠ 0
  roster : Roster state
  wiring : Wiring state
  memory : Memory state
  held : ∃ items, Held state.queue items
  belongs : ∀ handle ∈ stored state.queue, ∃ (index : Nat) (record : PublisherRecord),
    state.publishers[index]? = some record ∧ handle.poolId = record.descriptor.poolId ∧ record.linked = true
  dead : ∀ event ∈ pendingDeaths state, ∃ record : PublisherRecord, state.publishers[event.publisher]? = some record ∧
    record.status = .killed ∧ event.resourceId = record.descriptor.poolId
  lost : losing state.phase → ∃ socket, state.subscriber.connection = some socket ∧ socket.closed = true
  idle : unconnected state.phase → state.subscriber.connection = none
  short : state.subscriber.headerBuffer.length < kQueueWakeSize
  fresh : state.phase = .unsubscribed → state.subscriber.connection = none ∧ state.subscriber.poolView = none

variable {before after : Succession} {record : PublisherRecord} {torn : Bytes} {count : Nat} {socket : DataSocket}

def Extends (before after : Succession) : Prop :=
  ∀ (index : Nat) (record : PublisherRecord), before.publishers[index]? = some record →
    ∃ next : PublisherRecord, after.publishers[index]? = some next ∧ next.descriptor = record.descriptor ∧
      (record.linked = true → next.linked = true) ∧ (record.status = .killed → next.status = .killed)

theorem wake_eq {next : PublisherRecord} (queue : after.queueDescriptor = before.queueDescriptor)
    (descriptor : next.descriptor = record.descriptor) : after.wake next = before.wake record := by
  simp only [Succession.wake, queue, descriptor]

theorem wake_length {frame : Bytes} (frames : before.wake record = some frame) : frame.length = kQueueWakeSize :=
  encodeQueueWake_length frames

theorem wake_some {topicId : UInt64} (admitted : Admitted topicId record.descriptor)
    (queueId : before.queueDescriptor.queueId ≠ 0) : ∃ frame, before.wake record = some frame := by
  have valid := admitted.name
  have bound : record.descriptor.shmName.length ≤ kMaxPoolNameSize := by
    simp only [isValidSharedMemoryName, Bool.and_eq_true, decide_eq_true_eq] at valid
    exact valid.1.1.1.2
  refine ⟨_, if_neg ?_⟩
  simp [valid, queueId, bound]

section Moved
variable {publisher : Nat} {next : PublisherRecord} {bytes : Bytes} {closes : Bool} {opened : Option UnreadStream}

/-- What a publisher writes keeps its stream a sequence of its Wakes. -/
private theorem write_repeated {frame : Bytes} (count : Nat) (short : torn.length < frame.length)
    (whole : record.connected = true → torn = []) (frames : before.wake record = some frame)
    (connected : next.connected = true → record.connected = true)
    (writes : bytes = [] ∨ record.connected = true ∧ ∃ frame, before.wake record = some frame ∧
      (bytes = frame ∨ next.connected = false ∧ ∃ sent, bytes = frame.take sent)) :
    ∃ count' torn', repeated frame count torn ++ bytes = repeated frame count' torn' ∧ torn'.length < frame.length ∧
      (next.connected = true → torn' = []) := by
  rcases writes with rfl | ⟨joined, own, sending, written⟩
  · exact ⟨count, torn, List.append_nil _, short, fun now => whole (connected now)⟩
  · rw [frames] at sending
    cases sending
    rw [whole joined] at short ⊢
    rcases written with rfl | ⟨last, sent, rfl⟩
    · exact ⟨count + 1, [], repeated_append_frame, short, fun _ => rfl⟩
    · -- all of the frame went out, or the rest never will
      by_cases complete : frame.length ≤ sent
      · rw [List.take_of_length_le complete]
        exact ⟨count + 1, [], repeated_append_frame, short, fun _ => rfl⟩
      · refine ⟨count, frame.take sent, repeated_append_torn _, ?_, fun now => ?_⟩
        · rw [List.length_take]
          omega
        · rw [last] at now
          cases now

variable (moved : Moved before after publisher record next bytes closes opened)
include moved

theorem moved_lookup (index : Nat) (found : PublisherRecord) :
    after.publishers[index]? = some found ↔
      index = publisher ∧ found = next ∨ index ≠ publisher ∧ before.publishers[index]? = some found := by
  have inside : publisher < before.publishers.length := (List.getElem?_eq_some_iff.mp moved.found).1
  rw [moved.publishers, List.getElem?_set]
  by_cases same : publisher = index
  · subst same
    simp [inside, eq_comm]
  · simp [same, Ne.symm same]

theorem moved_statics :
    after.subscriber.transport = before.subscriber.transport ∧ after.subscriber.topicId = before.subscriber.topicId ∧
      after.subscriber.queueId = before.subscriber.queueId ∧
      after.subscriber.headerBuffer = before.subscriber.headerBuffer ∧
      after.subscriber.discoveredPool = before.subscriber.discoveredPool ∧
      after.subscriber.poolView = before.subscriber.poolView := by
  obtain ⟨change, _, subscriber⟩ := moved.touched.accepted
  rw [subscriber]
  exact ⟨rfl, rfl, rfl, rfl, rfl, rfl⟩

theorem moved_extends : Extends before after := by
  intro index found present
  by_cases same : index = publisher
  · subst same
    rw [moved.found] at present
    cases present
    refine ⟨next, (moved_lookup moved _ _).mpr (.inl ⟨rfl, rfl⟩), moved.descriptor, ?_, ?_⟩
    · intro linked
      rw [moved.linked, linked, Bool.true_or]
    · exact fun killed => absurd killed moved.acting
  · exact ⟨found, (moved_lookup moved _ _).mpr (.inr ⟨same, present⟩), rfl, id, id⟩

theorem moved_roster (roster : Roster before) : Roster after := by
  have topic := (moved_statics moved).2.1
  -- every record after the step has the pool of the record before it
  have origin (index : Nat) (found : PublisherRecord) (present : after.publishers[index]? = some found) :
      ∃ old : PublisherRecord, before.publishers[index]? = some old ∧ found.descriptor = old.descriptor := by
    rcases (moved_lookup moved _ _).mp present with ⟨rfl, rfl⟩ | ⟨_, old⟩
    · exact ⟨record, moved.found, moved.descriptor⟩
    · exact ⟨found, old, rfl⟩
  refine ⟨?_, ?_, ?_, ?_⟩
  · intro index found present
    obtain ⟨old, was, same⟩ := origin index found present
    rw [same, topic]
    exact roster.admitted index old was
  · intro index other found second present also equal
    obtain ⟨old, was, same⟩ := origin index found present
    obtain ⟨older, had, alike⟩ := origin other second also
    rw [same, alike] at equal
    exact roster.distinct index other old older was had equal
  · intro index found handle present waiting
    rcases (moved_lookup moved _ _).mp present with ⟨rfl, rfl⟩ | ⟨_, old⟩
    · rw [moved.descriptor]
      rcases moved.waiting with none | ⟨opening, same⟩ | ⟨now, held, own, connected⟩
      · rw [none] at waiting
        cases waiting
      · -- who connects now has not been connected, and has nothing to wait for
        have connected := (roster.patient _ record handle moved.found (same ▸ waiting)).2
        have linked := roster.joined _ record moved.found connected
        rw [moved.unlinked opening] at linked
        cases linked
      · rw [held] at waiting
        cases waiting
        exact ⟨own, connected⟩
    · exact roster.patient index found handle old waiting
  · intro index found present connected
    rcases (moved_lookup moved _ _).mp present with ⟨rfl, rfl⟩ | ⟨_, old⟩
    · rw [moved.linked]
      rcases moved.connected connected with was | fresh
      · rw [roster.joined _ record moved.found was, Bool.true_or]
      · simp [fresh]
    · exact roster.joined index found old connected

theorem moved_wiring (roster : Roster before) (wiring : Wiring before) (queueId : before.queueDescriptor.queueId ≠ 0) :
    Wiring after := by
  refine ⟨?_, ?_⟩
  · intro stream present
    rw [moved.touched.streams] at present
    rcases List.mem_append.mp present with touched | new
    · obtain ⟨origin, member, rfl⟩ := List.mem_map.mp touched
      obtain ⟨owner, frame, count, torn, wired⟩ := wiring.wired origin member
      by_cases own : origin.publisher = publisher
      · have same : owner = record := by
          have found := wired.found
          rw [own, moved.found] at found
          exact (Option.some.inj found).symm
        subst same
        have connected : next.connected = true → owner.connected = true := by
          intro now
          rcases moved.connected now with was | fresh
          · exact was
          · have unlinked := moved.unlinked (by simp [fresh])
            rw [wired.linked] at unlinked
            cases unlinked
        have linked : next.linked = true := by rw [moved.linked, wired.linked, Bool.true_or]
        have running : (touch publisher bytes closes origin).closed = false → next.status = .live ∨ next.status = .leaving := by
          intro still
          simp only [touch, if_pos own, Bool.or_eq_false_iff] at still
          rcases moved.status with live | leaving | ⟨closing, _⟩
          · exact .inl live
          · exact .inr leaving
          · rw [still.2] at closing
            cases closing
        have frames : after.wake next = some frame := (wake_eq moved.queueDescriptor moved.descriptor).trans wired.frames
        have found : after.publishers[(touch publisher bytes closes origin).publisher]? = some next := by
          rw [touch_publisher]
          exact (moved_lookup moved _ _).mpr (.inl ⟨own, rfl⟩)
        by_cases shut : origin.closed = true
        · refine ⟨next, frame, count, torn, found, linked, running, frames, ?_, wired.short, fun now => ?_⟩
          · simp only [touch, if_pos own, if_pos shut, wired.bytes]
          · exact wired.whole (connected now)
        · obtain ⟨count', torn', same, short, whole⟩ :=
            write_repeated count wired.short wired.whole wired.frames connected moved.writes
          refine ⟨next, frame, count', torn', found, linked, running, frames, ?_, short, whole⟩
          rw [← same, ← wired.bytes]
          simp only [touch, if_pos own, if_neg shut]
      · have untouched : touch publisher bytes closes origin = origin := if_neg own
        rw [untouched]
        exact ⟨owner, frame, count, torn, (moved_lookup moved _ _).mpr (.inr ⟨own, wired.found⟩), wired.linked,
          wired.running, (wake_eq moved.queueDescriptor rfl).trans wired.frames, wired.bytes, wired.short, wired.whole⟩
    · -- a new connection has nothing to read yet
      have opening : opened = some stream := by simpa using new
      obtain ⟨own, empty⟩ := moved.opens stream opening
      obtain ⟨frame, frames⟩ := wake_some (roster.admitted publisher record moved.found) queueId
      refine ⟨next, frame, 0, [], ?_, ?_, fun _ => ?_, (wake_eq moved.queueDescriptor moved.descriptor).trans frames, empty, ?_,
        fun _ => rfl⟩
      · exact (moved_lookup moved _ _).mpr (.inl ⟨own, rfl⟩)
      · simp [moved.linked, opening]
      · rcases moved.status with live | leaving | ⟨_, none⟩
        · exact .inl live
        · exact .inr leaving
        · rw [opening] at none
          cases none
      · rw [wake_length frames]
        simp [kQueueWakeSize, kQueueWakeHeaderSize]
  · rw [moved.touched.streams, List.map_append, List.map_map]
    have same : (streams before).map ((·.publisher) ∘ touch publisher bytes closes) = (streams before).map (·.publisher) :=
      List.map_congr_left fun stream _ => touch_publisher publisher bytes closes stream
    rw [same]
    cases opening : opened with
    | none => simpa using wiring.owners
    | some stream =>
      refine List.nodup_append.mpr ⟨wiring.owners, by simp, ?_⟩
      intro owner member other added equal
      have new : other = publisher := by
        have last : other = stream.publisher := by simpa using added
        exact last.trans (moved.opens stream opening).1
      obtain ⟨origin, present, rfl⟩ := List.mem_map.mp member
      obtain ⟨holder, frame, count, torn, wired⟩ := wiring.wired origin present
      have found := wired.found
      rw [equal, new, moved.found] at found
      cases found
      have unlinked := moved.unlinked (by simp [opening])
      rw [wired.linked] at unlinked
      cases unlinked

theorem moved_memory (memory : Memory before) : Memory after := by
  obtain ⟨_, _, _, _, discovered, view⟩ := moved_statics moved
  have kept := moved_extends moved
  refine ⟨?_, ?_⟩
  · rw [discovered]
    rcases memory.remembered with none | ⟨index, old, found, same⟩
    · exact .inl none
    · obtain ⟨now, present, descriptor, _⟩ := kept index old found
      exact .inr ⟨index, now, present, same.trans descriptor.symm⟩
  · intro pool viewing
    rw [view] at viewing
    obtain ⟨same, index, old, found, own, linked, absent⟩ := memory.viewed pool viewing
    obtain ⟨now, present, descriptor, still, _⟩ := kept index old found
    refine ⟨discovered.trans same, index, now, present, own.trans descriptor.symm, still linked, ?_⟩
    rw [moved.touched.backlog]
    intro member
    rcases List.mem_append.mp member with waiting | new
    · exact absent waiting
    · cases opening : opened with
      | none => simp [opening] at new
      | some stream =>
        have own : index = publisher := by
          have last : index = stream.publisher := by simpa [opening] using new
          exact last.trans (moved.opens stream opening).1
        rw [own, moved.found] at found
        cases found
        have unlinked := moved.unlinked (by simp [opening])
        rw [linked] at unlinked
        cases unlinked

theorem moved_inv (inv : Inv before) : Inv after := by
  obtain ⟨transport, _, queue, header, _, view⟩ := moved_statics moved
  have kept := moved_extends moved
  obtain ⟨change, changed, subscriber⟩ := moved.touched.accepted
  obtain ⟨items, held⟩ := inv.held
  obtain ⟨rest, remaining, origin⟩ := moved.adds items held
  refine ⟨transport.trans inv.shm, ?_, moved_roster moved inv.roster,
    moved_wiring moved inv.roster inv.wiring inv.queueId.2, moved_memory moved inv.memory, ⟨rest, remaining⟩, ?_, ?_, ?_, ?_,
    by rw [header]; exact inv.short, ?_⟩
  · rw [queue, moved.queueDescriptor]
    exact inv.queueId
  · intro handle present
    rw [remaining.stored] at present
    rcases origin handle present with old | ⟨own, connected, _⟩
    · rw [← held.stored] at old
      obtain ⟨index, owner, found, same, linked⟩ := inv.belongs handle old
      obtain ⟨now, still, descriptor, forever, _⟩ := kept index owner found
      exact ⟨index, now, still, same.trans (by rw [descriptor]), forever linked⟩
    · obtain ⟨now, still, descriptor, forever, _⟩ := kept publisher record moved.found
      exact ⟨publisher, now, still, own.trans (by rw [descriptor]),
        forever (inv.roster.joined publisher record moved.found connected)⟩
  · intro event pending
    have same : pendingDeaths after = pendingDeaths before := by simp only [pendingDeaths, moved.phase, moved.events]
    rw [same] at pending
    obtain ⟨owner, found, killed, resource⟩ := inv.dead event pending
    obtain ⟨now, still, descriptor, _, forever⟩ := kept event.publisher owner found
    exact ⟨now, still, forever killed, resource.trans (by rw [descriptor])⟩
  · intro losing
    rw [moved.phase] at losing
    obtain ⟨socket, found, closed⟩ := inv.lost losing
    exact ⟨change socket, by rw [subscriber, found]; rfl, (changed socket).2 closed⟩
  · intro waiting
    rw [moved.phase] at waiting
    rw [subscriber, inv.idle waiting]
    rfl
  · intro first
    rw [moved.phase] at first
    obtain ⟨none, unviewed⟩ := inv.fresh first
    rw [view, subscriber, none]
    exact ⟨rfl, unviewed⟩

end Moved

section Registry

theorem advertised_lookup {publishers : List PublisherRecord} (index : Nat) (found : PublisherRecord) :
    (publishers ++ [record])[index]? = some found ↔
      publishers[index]? = some found ∨ index = publishers.length ∧ found = record := by
  rw [List.getElem?_append]
  split
  next inside =>
    constructor
    · exact .inl
    · rintro (old | ⟨rfl, _⟩)
      · exact old
      · exact absurd inside (Nat.lt_irrefl _)
  next outside =>
    have none : publishers[index]? = none := List.getElem?_eq_none (Nat.le_of_not_lt outside)
    rw [none, List.getElem?_singleton]
    by_cases last : index = publishers.length
    · simp [last, eq_comm]
    · have beyond : index - publishers.length ≠ 0 := by omega
      simp [last, beyond]

theorem admits_sound {descriptor : PoolDescriptor} (shm : before.subscriber.transport = .sharedMemory)
    (admits : before.admits descriptor = true) :
    Admitted before.subscriber.topicId descriptor ∧ ∀ record ∈ before.publishers, record.descriptor.poolId ≠ descriptor.poolId := by
  simp only [Succession.admits, shm, Bool.and_eq_true, bne_iff_ne, ne_eq, decide_eq_true_eq, beq_iff_eq,
    List.all_eq_true] at admits
  obtain ⟨⟨⟨⟨⟨name, poolId⟩, size⟩, version⟩, topic⟩, fresh⟩ := admits
  exact ⟨⟨name, poolId, size, version, topic⟩, fresh⟩

theorem advertised_inv (inv : Inv before) {descriptor : PoolDescriptor} (admits : before.admits descriptor = true) :
    Inv { before with
      publishers := before.publishers ++ [{ descriptor }], registered := some before.publishers.length } := by
  obtain ⟨admitted, fresh⟩ := admits_sound inv.shm admits
  have old {index : Nat} {record : PublisherRecord} (found : before.publishers[index]? = some record) :
      (before.publishers ++ [({ descriptor } : PublisherRecord)])[index]? = some record :=
    (advertised_lookup index record).mpr (.inl found)
  have new {index : Nat} {record : PublisherRecord} (found : before.publishers[index]? = some record) :
      record.descriptor.poolId ≠ descriptor.poolId := fresh record (List.mem_of_getElem? found)
  refine ⟨inv.shm, inv.queueId, ⟨?_, ?_, ?_, ?_⟩, ⟨?_, inv.wiring.owners⟩, ⟨?_, ?_⟩, inv.held, ?_, ?_, inv.lost, inv.idle,
    inv.short, inv.fresh⟩
  · intro index record found
    rcases (advertised_lookup index record).mp found with was | ⟨_, rfl⟩
    · exact inv.roster.admitted index record was
    · exact admitted
  · intro index other record second found also equal
    rcases (advertised_lookup index record).mp found with was | ⟨rfl, rfl⟩
    · rcases (advertised_lookup other second).mp also with had | ⟨rfl, rfl⟩
      · exact inv.roster.distinct index other record second was had equal
      · exact absurd equal (new was)
    · rcases (advertised_lookup other second).mp also with had | ⟨rfl, rfl⟩
      · exact absurd equal.symm (new had)
      · rfl
  · intro index record handle found waiting
    rcases (advertised_lookup index record).mp found with was | ⟨_, rfl⟩
    · exact inv.roster.patient index record handle was waiting
    · cases waiting
  · intro index record found connected
    rcases (advertised_lookup index record).mp found with was | ⟨_, rfl⟩
    · exact inv.roster.joined index record was connected
    · cases connected
  · intro stream present
    obtain ⟨record, frame, count, torn, wired⟩ := inv.wiring.wired stream present
    exact ⟨record, frame, count, torn, old wired.found, wired.linked, wired.running, wired.frames, wired.bytes, wired.short,
      wired.whole⟩
  · rcases inv.memory.remembered with none | ⟨index, record, found, same⟩
    · exact .inl none
    · exact .inr ⟨index, record, old found, same⟩
  · intro view viewing
    obtain ⟨same, index, record, found, rest⟩ := inv.memory.viewed view viewing
    exact ⟨same, index, record, old found, rest⟩
  · intro handle present
    obtain ⟨index, record, found, rest⟩ := inv.belongs handle present
    exact ⟨index, record, old found, rest⟩
  · intro event pending
    obtain ⟨record, found, rest⟩ := inv.dead event pending
    exact ⟨record, old found, rest⟩

theorem reported_inv (inv : Inv before) {publisher : Nat}
    (found : before.publishers[publisher]? = some record) (killed : record.status = .killed) :
    Inv { before with
      registered := none
      peerEvents := if before.phase = .unsubscribed then before.peerEvents
        else before.peerEvents ++ [⟨publisher, record.descriptor.poolId⟩] } := by
  refine ⟨inv.shm, inv.queueId, ⟨inv.roster.admitted, inv.roster.distinct, inv.roster.patient, inv.roster.joined⟩,
    ⟨fun stream present => ?_, inv.wiring.owners⟩, ⟨inv.memory.remembered, inv.memory.viewed⟩, inv.held, inv.belongs, ?_,
    inv.lost, inv.idle, inv.short, inv.fresh⟩
  · obtain ⟨record, frame, count, torn, wired⟩ := inv.wiring.wired stream present
    exact ⟨record, frame, count, torn, wired.found, wired.linked, wired.running, wired.frames, wired.bytes, wired.short,
      wired.whole⟩
  · intro event pending
    simp only [pendingDeaths] at pending
    split at pending
    · exact inv.dead event pending
    · rw [← List.append_assoc] at pending
      rcases List.mem_append.mp pending with old | new
      · exact inv.dead event old
      · rw [List.mem_singleton.mp new]
        exact ⟨record, found, killed, rfl⟩

theorem movePublisher_inv (inv : Inv before) {move : PublisherMove} (taken : before.movePublisher move = some after) :
    Inv after := by
  cases movePublisher_effect inv.shm inv.roster.patient taken with
  | advertised descriptor mover admitted same =>
    rw [same]
    exact advertised_inv inv admitted
  | moved moved => exact moved_inv moved inv
  | reported found mover killed same =>
    rw [same]
    exact reported_inv inv found killed

end Registry

section Calls

theorem wakeSize_pos : ([] : Bytes).length < kQueueWakeSize := by decide

/-- The parts of the invariant that no step of the subscriber can hurt. -/
theorem local_inv (inv : Inv before) (frame : Local before after) (wiring : Wiring after) (memory : Memory after)
    (lost : losing after.phase → ∃ socket, after.subscriber.connection = some socket ∧ socket.closed = true)
    (idle : unconnected after.phase → after.subscriber.connection = none)
    (short : after.subscriber.headerBuffer.length < kQueueWakeSize)
    (fresh : after.phase = .unsubscribed → after.subscriber.connection = none ∧ after.subscriber.poolView = none) :
    Inv after := by
  obtain ⟨items, held⟩ := inv.held
  obtain ⟨rest, fewer, remaining⟩ := frame.fewer items held
  refine ⟨frame.transport.trans inv.shm, ?_, ⟨?_, ?_, ?_, ?_⟩, wiring, memory, ⟨rest, remaining⟩, ?_, ?_, lost, idle, short, fresh⟩
  · rw [frame.queueId, frame.queueDescriptor]
    exact inv.queueId
  · rw [frame.publishers, frame.topicId]
    exact inv.roster.admitted
  · rw [frame.publishers]
    exact inv.roster.distinct
  · rw [frame.publishers]
    exact inv.roster.patient
  · rw [frame.publishers]
    exact inv.roster.joined
  · intro handle present
    rw [remaining.stored] at present
    rw [frame.publishers]
    exact inv.belongs handle (held.stored ▸ fewer present)
  · intro event pending
    rw [frame.publishers]
    exact inv.dead event (frame.deaths pending)

private theorem wired_same {stream : UnreadStream} {sent : Bytes}
    (frame : Local before after) (wired : Wired before stream record sent count torn) :
    Wired after stream record sent count torn :=
  ⟨by rw [frame.publishers]; exact wired.found, wired.linked, wired.running,
    (wake_eq frame.queueDescriptor rfl).trans wired.frames, wired.bytes, wired.short, wired.whole⟩

theorem wiring_sublist (wiring : Wiring before) (frame : Local before after)
    (fewer : (streams after).Sublist (streams before)) : Wiring after := by
  refine ⟨?_, (fewer.map _).nodup wiring.owners⟩
  intro stream present
  obtain ⟨record, sent, count, torn, wired⟩ := wiring.wired stream (fewer.subset present)
  exact ⟨record, sent, count, torn, wired_same frame wired⟩

theorem memory_same (memory : Memory before) (frame : Local before after)
    (discovered : after.subscriber.discoveredPool = before.subscriber.discoveredPool)
    (view : after.subscriber.poolView = before.subscriber.poolView)
    (backlog : after.backlog.map (·.publisher) ⊆ before.backlog.map (·.publisher)) : Memory after := by
  refine ⟨by rw [discovered, frame.publishers]; exact memory.remembered, ?_⟩
  intro pool viewing
  rw [view] at viewing
  obtain ⟨same, index, record, found, own, linked, absent⟩ := memory.viewed pool viewing
  rw [discovered, frame.publishers]
  exact ⟨same, index, record, found, own, linked, fun present => absent (backlog present)⟩

theorem streams_unconnected (none : before.subscriber.connection = none) :
    streams before = before.backlog.map fun socket => ⟨socket.publisher, socket.closed, socket.pending⟩ := by
  simp [streams, none]

theorem streams_unchanged (same : Unchanged before after) : streams after = streams before := by
  simp only [streams, same.connection, same.headerBuffer, same.backlog]

theorem streams_dropped (connection : after.subscriber.connection = none) (backlog : after.backlog = before.backlog) :
    (streams after).Sublist (streams before) := by
  rw [streams_unconnected connection, backlog]
  exact List.sublist_append_right _ _

theorem streams_accepted {rest : List DataSocket} (none : before.subscriber.connection = none)
    (waiting : before.backlog = socket :: rest) :
    streams { before with subscriber := before.subscriber.acceptConnection socket, backlog := rest, phase := .polling } =
      streams before := by
  simp [streams, none, waiting, Subscriber.acceptConnection, Subscriber.resetFrame]

/-- A Wake of an admitted publisher passes every check but those of the memory of
the subscriber. -/
theorem takeWake_genuine {subscriber : Subscriber} {segment : SegmentOutcome}
    (admitted : Admitted subscriber.topicId record.descriptor) (queueId : subscriber.queueId ≠ 0)
    (genuine : encodeQueueWake ⟨record.descriptor, subscriber.queueId⟩ = some subscriber.headerBuffer) :
    subscriber.takeWake segment =
      if !subscriber.remembers record.descriptor then (.invalidSharedMemory, subscriber.resetFrame)
      else match subscriber.poolView with
        | none => match MemoryPoolView.openPool record.descriptor subscriber.topicId segment with
          | .ok => (.ok, { subscriber.resetFrame with
            poolView := some record.descriptor, discoveredPool := record.descriptor })
          | error => (error, subscriber.resetFrame)
        | some view =>
          if view.shmName ≠ record.descriptor.shmName ∨ view.poolId ≠ record.descriptor.poolId ∨
              view.segmentSize ≠ record.descriptor.segmentSize then (.invalidSharedMemory, subscriber.resetFrame)
          else (.ok, subscriber.resetFrame) := by
  have segmentSize : record.descriptor.segmentSize ≠ 0 := by
    intro zero
    have bound := admitted.segmentSize
    rw [zero] at bound
    exact absurd bound (by decide)
  have valid : validateQueueWake ⟨record.descriptor, subscriber.queueId⟩ subscriber.queueId subscriber.topicId = .ok := by
    unfold validateQueueWake
    rw [if_neg]
    simp [admitted.name, admitted.layoutVersion, segmentSize, admitted.poolId, admitted.topic, queueId]
  unfold Subscriber.takeWake
  simp only [decode_encode_wake genuine]
  rw [if_neg (by simpa [Subscriber.resetFrame] using valid)]
  rfl

section Connected
variable (inv : Inv before) (found : before.subscriber.connection = some socket)
  (full : (before.subscriber.headerBuffer ++ socket.pending.take count).length = kQueueWakeSize)
include found

theorem streams_connected :
    streams before = ⟨socket.publisher, socket.closed, before.subscriber.headerBuffer ++ socket.pending⟩ ::
      before.backlog.map fun socket => ⟨socket.publisher, socket.closed, socket.pending⟩ := by
  simp [streams, found]

theorem streams_buffered (count : Nat) :
    streams { before with subscriber := { before.subscriber with
      connection := some { socket with pending := socket.pending.drop count }
      headerBuffer := before.subscriber.headerBuffer ++ socket.pending.take count } } = streams before := by
  simp [streams, found]

include inv

theorem accepted_wired : ∃ record frame count torn,
    Wired before ⟨socket.publisher, socket.closed, before.subscriber.headerBuffer ++ socket.pending⟩ record frame count
      torn := by
  refine inv.wiring.wired _ ?_
  rw [streams_connected found]
  exact List.mem_cons_self

include full

theorem full_buffer :
    ∃ record frame rest torn, Wired before ⟨socket.publisher, socket.closed, socket.pending.drop count⟩ record frame rest torn ∧
      before.subscriber.headerBuffer ++ socket.pending.take count = frame := by
  obtain ⟨record, frame, copies, torn, wired⟩ := accepted_wired inv found
  have parts : (before.subscriber.headerBuffer ++ socket.pending.take count) ++ socket.pending.drop count =
      repeated frame copies torn := by
    rw [List.append_assoc, List.take_append_drop]
    exact wired.bytes
  obtain ⟨rest, _, first, others⟩ := first_repeated wired.short parts (full.trans (wake_length wired.frames).symm)
  exact ⟨record, frame, rest, torn, ⟨wired.found, wired.linked, wired.running, wired.frames, others, wired.short,
    wired.whole⟩, first⟩

/-- Taking a Wake leaves the subscriber with a view of its publisher's pool. -/
theorem read_installs {segment : SegmentOutcome} {filled : Subscriber} (same : filled = { before.subscriber with
      connection := some { socket with pending := socket.pending.drop count }
      headerBuffer := before.subscriber.headerBuffer ++ socket.pending.take count })
    (accepted : (filled.takeWake segment).1 = .ok) :
    ∃ record frame rest torn, Wired before ⟨socket.publisher, socket.closed, socket.pending.drop count⟩ record frame rest torn ∧
      (filled.takeWake segment).2 = { filled.resetFrame with
        poolView := some record.descriptor, discoveredPool := record.descriptor } := by
  obtain ⟨record, frame, rest, torn, wired, first⟩ := full_buffer inv found full
  refine ⟨record, frame, rest, torn, wired, ?_⟩
  have genuine : encodeQueueWake ⟨record.descriptor, filled.queueId⟩ = some filled.headerBuffer := by
    rw [same]
    simp only [inv.queueId.1, first]
    exact wired.frames
  have admitted : Admitted filled.topicId record.descriptor := by
    rw [same]
    exact inv.roster.admitted _ record wired.found
  have queueId : filled.queueId ≠ 0 := by
    rw [same]
    exact inv.queueId.1 ▸ inv.queueId.2
  rw [takeWake_genuine admitted queueId genuine] at accepted ⊢
  split at accepted
  · cases accepted
  next remembered =>
    rw [if_neg remembered]
    have view : filled.poolView = before.subscriber.poolView := by rw [same]
    cases viewing : before.subscriber.poolView with
    | none =>
      simp only [view, viewing] at accepted ⊢
      split at accepted
      next opened => simp only
      next error failed => exact absurd accepted failed
    | some pool =>
      simp only [view, viewing] at accepted ⊢
      split at accepted
      · cases accepted
      next alike =>
        rw [if_neg alike]
        simp only [not_or, Decidable.not_not] at alike
        -- a view with the same pool id is a view of the same publisher's pool
        obtain ⟨remembers, index, other, present, own, _, _⟩ := inv.memory.viewed pool viewing
        have equal : index = socket.publisher :=
          inv.roster.distinct index socket.publisher other record present wired.found (own ▸ alike.2.1)
        rw [equal, wired.found] at present
        cases present
        have kept : filled.resetFrame.poolView = some record.descriptor ∧
            filled.resetFrame.discoveredPool = record.descriptor := by
          rw [same, ← own]
          exact ⟨viewing, remembers⟩
        rw [← kept.1, ← kept.2]

end Connected

theorem moveSubscriber_subscribed {move : SubscriberMove} (taken : before.moveSubscriber move = some after)
    (frame : Local before after) : after.phase ≠ .unsubscribed := by
  intro unsubscribed
  have first := frame.subscribed unsubscribed
  cases move with
  | subscribe =>
    simp only [moveSubscriber, first] at taken
    cases taken
    cases unsubscribed
  | recv =>
    simp only [moveSubscriber] at taken
    split at taken
    · simp [Succession.recv, first] at taken
    · cases taken
  | _ => simp [moveSubscriber, Succession.poll, first] at taken

private theorem subscribed_remembers (inv : Inv before) {discovered : PoolDescriptor}
    (same : discovered = { ((before.registered.bind (before.publishers[·]?)).map (·.descriptor)).getD {} with
      topicId := before.subscriber.topicId }) :
    discovered.shmName = [] ∧ discovered.poolId = 0 ∨
      ∃ (index : Nat) (record : PublisherRecord), before.publishers[index]? = some record ∧
        discovered = record.descriptor := by
  cases registered : before.registered with
  | none =>
    rw [same, registered]
    exact .inl ⟨rfl, rfl⟩
  | some index =>
    cases found : before.publishers[index]? with
    | none =>
      simp only [registered, Option.bind_some, found] at same
      rw [same]
      exact .inl ⟨rfl, rfl⟩
    | some record =>
      simp only [registered, Option.bind_some, found, Option.map_some, Option.getD_some] at same
      refine .inr ⟨index, record, found, ?_⟩
      rw [same, ← (inv.roster.admitted index record found).topic]

private theorem read_inv (inv : Inv before) (frame : Local before after)
    {sent : Bytes} {copies : Nat} (found : before.subscriber.connection = some socket)
    (wired : Wired before ⟨socket.publisher, socket.closed, socket.pending.drop count⟩ record sent copies torn)
    (connection : after.subscriber.connection = some { socket with pending := socket.pending.drop count })
    (header : after.subscriber.headerBuffer = []) (view : after.subscriber.poolView = some record.descriptor)
    (discovered : after.subscriber.discoveredPool = record.descriptor) (backlog : after.backlog = before.backlog)
    (quiet : ¬losing after.phase) (connected : ¬unconnected after.phase) (fresh : after.phase ≠ .unsubscribed) :
    Inv after := by
  have present : after.publishers[socket.publisher]? = some record := frame.publishers ▸ wired.found
  have owners := inv.wiring.owners
  have wired_before := inv.wiring.wired
  rw [streams_connected found] at owners wired_before
  have others : streams after = ⟨socket.publisher, socket.closed, socket.pending.drop count⟩ ::
      before.backlog.map fun socket => ⟨socket.publisher, socket.closed, socket.pending⟩ := by
    rw [streams_connected connection, header, backlog]
    rfl
  refine local_inv inv frame ⟨?_, ?_⟩ ⟨.inr ⟨socket.publisher, record, present, discovered⟩, ?_⟩ (fun lost => absurd lost quiet)
    (fun idle => absurd idle connected) (header ▸ wakeSize_pos) (fun first => absurd first fresh)
  · intro stream inside
    rw [others] at inside
    rcases List.mem_cons.mp inside with rfl | old
    · exact ⟨record, sent, copies, torn, wired_same frame wired⟩
    · obtain ⟨record, sent, copies, torn, wired⟩ := wired_before stream (List.mem_cons_of_mem _ old)
      exact ⟨record, sent, copies, torn, wired_same frame wired⟩
  · rw [others]
    exact owners
  · intro pool viewing
    rw [view] at viewing
    cases viewing
    refine ⟨discovered, socket.publisher, record, present, rfl, wired.linked, ?_⟩
    -- the publisher of the connection has no other stream
    have absent := (List.nodup_cons.mp owners).1
    rw [backlog]
    simpa using absent

theorem moveSubscriber_inv (inv : Inv before) {move : SubscriberMove} (taken : before.moveSubscriber move = some after) :
    Inv after := by
  obtain ⟨frame, effect⟩ := moveSubscriber_effect inv.shm taken
  have subscribed := moveSubscriber_subscribed taken frame
  have fresh : after.phase = .unsubscribed → after.subscriber.connection = none ∧ after.subscriber.poolView = none :=
    fun first => absurd first subscribed
  cases effect with
  | quiet same lost =>
    refine local_inv inv frame (wiring_sublist inv.wiring frame (streams_unchanged same ▸ .refl _))
      (memory_same inv.memory frame same.discoveredPool same.poolView (same.backlog ▸ List.Subset.refl _)) ?_ ?_
      (same.headerBuffer ▸ inv.short) fresh
    · rw [same.connection]
      exact fun now => inv.lost (lost now)
    · intro idle
      rcases same.idle idle with was | none
      · exact same.connection.trans (inv.idle was)
      · exact none
  | lost same socket found closed =>
    refine local_inv inv frame (wiring_sublist inv.wiring frame (streams_unchanged same ▸ .refl _))
      (memory_same inv.memory frame same.discoveredPool same.poolView (same.backlog ▸ List.Subset.refl _)) ?_ ?_
      (same.headerBuffer ▸ inv.short) fresh
    · exact fun _ => ⟨socket, same.connection.trans found, closed⟩
    · intro idle
      rcases same.idle idle with was | none
      · exact same.connection.trans (inv.idle was)
      · exact none
  | subscribed same first =>
    subst same
    have unviewed := (inv.fresh first).2
    refine local_inv inv frame (wiring_sublist inv.wiring frame (.refl _)) ⟨subscribed_remembers inv rfl, ?_⟩
      (by simp [losing]) (by simp [unconnected]) inv.short fresh
    intro view viewing
    rw [unviewed] at viewing
    cases viewing
  | accepted socket rest waiting accepting same =>
    subst same
    have unconnected := inv.idle (.inr accepting)
    refine local_inv inv frame (wiring_sublist inv.wiring frame (streams_accepted unconnected waiting ▸ .refl _))
      (memory_same inv.memory frame rfl rfl ?_) (by simp [losing]) (by simp [SubscriberEffects.unconnected]) wakeSize_pos fresh
    rw [waiting]
    exact List.subset_cons_self _ _
  | buffered socket count found same short quiet connected =>
    subst same
    exact local_inv inv frame (wiring_sublist inv.wiring frame (streams_buffered found count ▸ .refl _))
      (memory_same inv.memory frame rfl rfl (List.Subset.refl _)) (fun lost => absurd lost quiet)
      (fun idle => absurd idle connected) short fresh
  | read socket count segment found full accepted error subscriber backlog quiet connected =>
    obtain ⟨record, sent, copies, torn, wired, installed⟩ := read_installs inv found full rfl accepted
    rw [installed] at subscriber
    exact read_inv inv frame found wired (by rw [subscriber]; rfl) (by rw [subscriber]; rfl) (by rw [subscriber])
      (by rw [subscriber]) backlog quiet connected subscribed
  | dropped connection header discovered view backlog quiet =>
    exact local_inv inv frame (wiring_sublist inv.wiring frame (streams_dropped connection backlog))
      (memory_same inv.memory frame discovered view (backlog ▸ List.Subset.refl _)) (fun lost => absurd lost quiet)
      (fun _ => connection) (header ▸ wakeSize_pos) fresh
  | forgot poolId reason resets connection header discovered view backlog quiet =>
    refine local_inv inv frame (wiring_sublist inv.wiring frame (streams_dropped connection backlog))
      ⟨.inl (by rw [discovered]; exact ⟨rfl, rfl⟩), ?_⟩ (fun lost => absurd lost quiet) (fun _ => connection)
      (header ▸ wakeSize_pos) fresh
    intro pool viewing
    rw [view] at viewing
    cases viewing

end Calls

section Runs

theorem start_inv {maxMessageSize topicId : UInt64} {descriptor : QueueDescriptor} {queue : SharedSubscriberQueue}
    (created : SharedSubscriberQueue.create descriptor = .ok queue) :
    Inv (start .sharedMemory maxMessageSize topicId descriptor queue) := by
  have queueId : descriptor.queueId ≠ 0 := by
    obtain ⟨_, valid, _⟩ := Lib.Outcome.bind_ok created
    intro zero
    simp [SharedSubscriberQueue.validateDescriptor, zero] at valid
  have empty := (create_working created).1.held
  have roster : Roster (start .sharedMemory maxMessageSize topicId descriptor queue) := by
    constructor <;> intros <;> simp_all [start]
  refine ⟨rfl, ⟨rfl, queueId⟩, roster, ⟨?_, List.nodup_nil⟩, ⟨.inl ⟨rfl, rfl⟩, ?_⟩, ⟨[], empty⟩, ?_, ?_, ?_, ?_,
    wakeSize_pos, fun _ => ⟨rfl, rfl⟩⟩
  · simp [start, streams]
  · simp [start]
  · simp [start, empty.stored]
  · simp [start, pendingDeaths, phaseDeaths]
  · simp [start, losing]
  · simp [start]

theorem step_inv (inv : Inv before) {event : SuccessionEvent} (taken : before.step event = some after) : Inv after := by
  cases event with
  | subscriber move => exact moveSubscriber_inv inv taken
  | publisher move => exact movePublisher_inv inv taken

/-- Pools of two publishers of the topic with id 1. -/
def firstPool : PoolDescriptor := ⟨[slash, 97], 1, 640, 1, kPoolLayoutVersion⟩

def secondPool : PoolDescriptor := ⟨[slash, 98], 2, 640, 1, kPoolLayoutVersion⟩

end Runs

end RobotMiddleware.Proofs.SuccessionInvariant
