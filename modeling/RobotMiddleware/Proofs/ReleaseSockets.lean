import RobotMiddleware.Lib.Transitions
import RobotMiddleware.Proofs.ReleaseChannel
import RobotMiddleware.ReleaseSocket

/-! When the Release frames of destroyed views reach the publisher whole. A frame
that finds room in the send buffer for all of its bytes is written to its end,
whatever part each `send` takes and whatever the publisher reads meanwhile. A
frame that does not is torn or lost, since the destructor drops what the socket
refuses. -/

namespace RobotMiddleware.Proofs.ReleaseSockets
open Lib.Outcome Lib.Transitions Lib.Framing PoolLifecycle PoolRuns QueueFrames ReleaseChannel ReleaseSocket

def retained (socket : ReleaseSocket) : Bytes :=
  match socket.writing with
  | none => []
  | some write => write.frame.drop write.transferred

/-- A view is destroyed only while the send buffer has room for a Release frame. -/
def HasRoom (socket : ReleaseSocket) : ReleaseSocketEvent → Prop
  | .release _ => socket.buffered.length + kQueueReleaseSize ≤ socket.capacity
  | _ => True

instance (socket : ReleaseSocket) : DecidablePred (HasRoom socket)
  | .release _ => inferInstanceAs (Decidable (_ ≤ _))
  | .send _ | .drain _ => inferInstanceAs (Decidable True)

/-- Every Release frame is on its way as a whole: what the socket has taken and
what is retained are the frames of the destroyed views, the publisher owes the
views and the frames it has not decoded, and what is retained has room. -/
structure Whole (socket : ReleaseSocket) : Prop where
  connected : socket.connected = true
  same : socket.accepted ++ retained socket = stream encodeQueueRelease socket.destroyed
  balance : ∃ underWay,
    socket.connection.releaseBuffer ++ (socket.buffered ++ retained socket) = stream encodeQueueRelease underWay ∧
    socket.connection.outstanding.Perm (socket.views ++ underWay)
  genuine : ∀ handle ∈ socket.connection.outstanding, Genuine handle
  short : socket.connection.releaseBuffer.length < kQueueReleaseSize
  room : socket.writing ≠ none → socket.buffered.length + (retained socket).length ≤ socket.capacity

variable {socket next : ReleaseSocket}

theorem start_whole {views : List ChunkHandle} (genuine : ∀ handle ∈ views, Genuine handle) (capacity : Nat)
    (pool : MemoryPool) (endpointId maxMessageSize queueId : UInt64) :
    Whole (start capacity pool endpointId maxMessageSize queueId views) where
  connected := rfl
  same := rfl
  balance := ⟨[], rfl, by simp [start]⟩
  genuine := genuine
  short := by simp [start, kQueueReleaseSize]
  room := fun writing => absurd rfl writing

theorem release_whole {handle : ChunkHandle} (whole : Whole socket) (room : HasRoom socket (.release handle))
    (taken : step socket (.release handle) = some next) : Whole next := by
  simp only [step, Option.ite_none_right_eq_some, Option.some.injEq] at taken
  obtain ⟨⟨-, idle, present⟩, rfl⟩ := taken
  have nothing : retained socket = [] := by simp [retained, idle]
  obtain ⟨underWay, bytes, balance⟩ := whole.balance
  rw [nothing, List.append_nil] at bytes
  have same := whole.same
  rw [nothing, List.append_nil] at same
  refine ⟨whole.connected, ?_, ⟨underWay ++ [handle], ?_, ?_⟩, whole.genuine, whole.short, fun _ => ?_⟩
  · rw [stream_snoc, ← same]
    rfl
  · rw [stream_snoc, ← bytes, List.append_assoc]
    rfl
  · calc socket.connection.outstanding
      _ |>.Perm (socket.views ++ underWay) := balance
      _ |>.Perm (handle :: socket.views.erase handle ++ underWay) := (List.perm_cons_erase present).append_right underWay
      _ |>.Perm (socket.views.erase handle ++ (underWay ++ [handle])) := by
        rw [← List.append_assoc]
        exact (List.perm_append_singleton handle _).symm
  · have length := encodeQueueRelease_length handle
    simpa [retained, HasRoom, length] using room

structure Passed (socket : ReleaseSocket) (count : Nat) (next : ReleaseSocket) : Prop where
  result : { socket.accept ((retained socket).take count) with writing := next.writing } = next
  rest : retained next = (retained socket).drop count
  bound : next.writing ≠ none → socket.writing ≠ none

theorem send_passed {result : WriteResult} (whole : Whole socket) (taken : step socket (.send result) = some next) :
    ∃ count, Passed socket count next := by
  cases held : socket.writing with
  | none => simp [step, held] at taken
  | some write =>
    have writing : socket.writing ≠ none := by simp [held]
    have bytes : retained socket = write.frame.drop write.transferred := by simp [retained, held]
    simp only [step, held, Option.ite_none_right_eq_some, Option.some.injEq] at taken
    obtain ⟨⟨-, possible⟩, rfl⟩ := taken
    refine ⟨result.count, ?_⟩
    cases result with
    | sent count =>
      simp only [sendable, Bool.and_eq_true, decide_eq_true_eq] at possible
      obtain ⟨⟨positive, within⟩, -⟩ := possible
      obtain ⟨fewer, rfl⟩ := Nat.exists_eq_succ_of_ne_zero (Nat.ne_of_gt positive)
      by_cases more : write.transferred + (fewer + 1) < write.frame.length
      · have result : socket.send write (.sent (fewer + 1)) =
            { socket.accept ((retained socket).take (fewer + 1)) with
              writing := some { write with transferred := write.transferred + (fewer + 1) } } := by
          simp [ReleaseSocket.send, writeAll, writeAllWith, Nat.not_lt.mpr within, more, bytes, WriteResult.count]
        rw [result]
        exact ⟨rfl, by simp [retained, held, WriteResult.count], fun _ => writing⟩
      · have result : socket.send write (.sent (fewer + 1)) =
            { socket.accept ((retained socket).take (fewer + 1)) with writing := none } := by
          simp [ReleaseSocket.send, writeAll, writeAllWith, Nat.not_lt.mpr within, more, bytes, WriteResult.count]
        rw [result]
        -- the last byte is sent
        refine ⟨rfl, ?_, fun _ => writing⟩
        rw [bytes, List.drop_drop]
        exact (List.drop_eq_nil_of_le (Nat.not_lt.mp more)).symm
    | error number =>
      cases number with
      | eintr =>
        have result : socket.send write (.error .eintr) = { socket.accept ((retained socket).take 0) with writing := some write } := by
          simp [ReleaseSocket.send, writeAll, writeAllWith, WriteResult.count]
        rw [result]
        exact ⟨rfl, by simp [retained, held, WriteResult.count], fun _ => writing⟩
      | eagain =>
        have room := whole.room writing
        rw [bytes, List.length_drop] at room
        simp only [sendable, decide_eq_true_eq] at possible
        omega
      | _ => exact absurd possible (by simp [sendable])

theorem send_whole {result : WriteResult} (whole : Whole socket) (taken : step socket (.send result) = some next) :
    Whole next := by
  obtain ⟨count, passed⟩ := send_passed whole taken
  obtain ⟨underWay, bytes, balance⟩ := whole.balance
  have moved (front : Bytes) : front ++ (retained socket).take count ++ retained next = front ++ retained socket := by
    rw [passed.rest, List.append_assoc, List.take_append_drop]
  have accepted : next.accepted = socket.accepted ++ (retained socket).take count := by rw [← passed.result]; rfl
  have buffered : next.buffered = socket.buffered ++ (retained socket).take count := by rw [← passed.result]; rfl
  have connection : next.connection = socket.connection := by rw [← passed.result]; rfl
  have views : next.views = socket.views := by rw [← passed.result]; rfl
  have destroyed : next.destroyed = socket.destroyed := by rw [← passed.result]; rfl
  refine ⟨?_, ?_, ⟨underWay, ?_, ?_⟩, ?_, ?_, fun writing => ?_⟩
  · rw [← passed.result]
    exact whole.connected
  · rw [accepted, moved, destroyed]
    exact whole.same
  · rw [connection, buffered, moved]
    exact bytes
  · rw [connection, views]
    exact balance
  · rw [connection]
    exact whole.genuine
  · rw [connection]
    exact whole.short
  · have lengths := congrArg List.length (moved socket.buffered)
    rw [← buffered, List.length_append, List.length_append] at lengths
    have capacity : next.capacity = socket.capacity := by rw [← passed.result]; rfl
    rw [lengths, capacity]
    exact whole.room (passed.bound writing)

/-- Bytes of which a drain gets only the first: the others arrive after it. -/
def pausing (first later : Bytes) : List SocketEvent := first.map .byte ++ .wouldBlock :: later.map .byte

theorem delivered_bytes (bytes : Bytes) : delivered (bytes.map .byte) = bytes := by
  simp [delivered, List.filterMap_map]

theorem delivered_pausing (first later : Bytes) : delivered (pausing first later) = first ++ later := by
  rw [pausing, delivered_append, delivered_bytes]
  exact congrArg (first ++ ·) (delivered_bytes later)

theorem pausing_open (first later : Bytes) : .failed ∉ pausing first later ∧ .closed ∉ pausing first later := by
  simp [pausing]

/-- A drain that is not lost does what it does on the bytes before the pause. -/
theorem receiveReleases_pausing (pool : MemoryPool) (connection : DataConnection) (first later : Bytes)
    (going : (receiveReleases pool connection (pausing first later)).1 = false) :
    receiveReleases pool connection (pausing first later) =
      (false, (receiveReleases pool connection (first.map .byte)).2.1,
        { (receiveReleases pool connection (first.map .byte)).2.2 with incoming := later.map .byte }) ∧
    (receiveReleases pool connection (first.map .byte)).1 = false := by
  induction first generalizing pool connection with
  | nil => exact ⟨rfl, rfl⟩
  | cons value rest ih =>
    simp only [pausing, List.map_cons, List.cons_append, receiveReleases] at going ⊢
    by_cases small : (connection.releaseBuffer ++ [value]).length < kQueueReleaseSize
    · simp only [if_pos small] at going ⊢
      exact ih _ _ going
    · simp only [if_neg small] at going ⊢
      cases decoded : decodeQueueRelease (connection.releaseBuffer ++ [value]) with
      | none => simp [decoded] at going
      | some =>
        simp only [decoded] at going ⊢
        exact ih _ _ going

theorem releaseOutstanding_subset (pool : MemoryPool) (connection : DataConnection) (handle : ChunkHandle) :
    (releaseOutstanding pool connection handle).2.outstanding ⊆ connection.outstanding := by
  unfold releaseOutstanding
  split
  · exact List.erase_subset
  · exact List.Subset.refl _

theorem receiveReleases_subset (pool : MemoryPool) (connection : DataConnection) (events : List SocketEvent) :
    (receiveReleases pool connection events).2.2.outstanding ⊆ connection.outstanding := by
  induction events generalizing pool connection with
  | nil => exact List.Subset.refl _
  | cons event rest ih =>
    cases event with
    | interrupted => exact ih pool connection
    | wouldBlock | closed | failed => exact List.Subset.refl _
    | byte value =>
      simp only [receiveReleases]
      split
      · exact ih _ _
      · split
        · exact List.Subset.refl _
        · exact List.Subset.trans (ih _ _) (releaseOutstanding_subset _ _ _)

theorem drain_whole {count : Nat} (whole : Whole socket) (taken : step socket (.drain count) = some next) : Whole next := by
  simp only [step, if_pos whole.connected, Option.some.injEq] at taken
  obtain ⟨underWay, bytes, balance⟩ := whole.balance
  have under (handle : ChunkHandle) (present : handle ∈ underWay) : Genuine handle :=
    whole.genuine handle (balance.mem_iff.mpr (List.mem_append_right _ present))
  -- the bytes that are not read yet, and those not sent yet, arrive after a pause
  let later := socket.buffered.drop count ++ retained socket
  have same : socket.connection.releaseBuffer ++ delivered (pausing (socket.buffered.take count) later) =
      stream encodeQueueRelease underWay := by
    rw [← bytes, delivered_pausing, ← List.append_assoc (socket.buffered.take count), List.take_append_drop]
  have undamaged := pausing_open (socket.buffered.take count) later
  have drained := receiveReleases_drained socket.pool under same whole.short undamaged.1 balance
  have going : (receiveReleases socket.pool socket.connection (pausing (socket.buffered.take count) later)).1 = false :=
    Bool.eq_false_iff.mpr fun lost => undamaged.2 (drained.lost lost)
  obtain ⟨paused, stays⟩ := receiveReleases_pausing _ _ _ _ going
  rw [paused] at drained
  obtain ⟨rest, unreadBytes, owed⟩ := drained.balance
  rw [unread, delivered_bytes] at unreadBytes
  subst taken
  exact ⟨congrArg (!·) stays, whole.same, ⟨rest, unreadBytes, owed⟩,
    fun handle present => whole.genuine handle (receiveReleases_subset _ _ _ present), drained.short, fun writing =>
      Nat.le_trans (Nat.add_le_add_right (by simp) _) (whole.room writing)⟩

theorem step_whole (socket : ReleaseSocket) (event : ReleaseSocketEvent) (next : ReleaseSocket) (whole : Whole socket)
    (room : HasRoom socket event) (taken : step socket event = some next) : Whole next := by
  cases event with
  | release => exact release_whole whole room taken
  | send => exact send_whole whole taken
  | drain count => exact drain_whole whole taken

theorem releases_survive {views : List ChunkHandle} (genuine : ∀ handle ∈ views, Genuine handle) {capacity : Nat}
    {pool : MemoryPool} {endpointId maxMessageSize queueId : UInt64} {events : List ReleaseSocketEvent}
    (room : Along step HasRoom (start capacity pool endpointId maxMessageSize queueId views) events)
    (run : execute step (start capacity pool endpointId maxMessageSize queueId views) events = some socket) :
    socket.accepted ++ retained socket = stream encodeQueueRelease socket.destroyed ∧
      -- the publisher has not misread anything, and what it owes is held or released by bytes that it will read
      socket.connected = true ∧
      ∃ underWay, socket.connection.releaseBuffer ++ (socket.buffered ++ retained socket) = stream encodeQueueRelease underWay ∧
        socket.connection.outstanding.Perm (socket.views ++ underWay) := by
  have whole := room.invariant step_whole (start_whole genuine _ _ _ _ _) run
  exact ⟨whole.same, whole.connected, whole.balance⟩

def sampleViews : List ChunkHandle := [⟨1, 0, 1, 320⟩, ⟨1, 1, 1, 448⟩, ⟨1, 2, 1, 576⟩]

/-- How the chunks of the views were published, with one reference each. -/
def sampleSamples : List PoolOperation :=
  [.allocate 16, .allocate 16, .allocate 64, .publishLoaned ⟨1, 0, 1, 320⟩ 16 1 0 1,
    .publishLoaned ⟨1, 1, 1, 448⟩ 16 2 0 1, .publishLoaned ⟨1, 2, 1, 576⟩ 64 3 0 1]

/-- The send buffer has room for one frame and eight bytes. -/
def sampleStart (pool : MemoryPool) : ReleaseSocket := start 40 (pool.performAll sampleSamples) 1 64 1 sampleViews

/-- The second view is destroyed before the publisher has read the frame of the first. -/
def tornFrame : List ReleaseSocketEvent :=
  [.release ⟨1, 0, 1, 320⟩, .send (.sent 32), .release ⟨1, 1, 1, 448⟩, .send (.sent 8), .send (.error .eagain), .drain 40,
    .release ⟨1, 2, 1, 576⟩, .send (.sent 32), .drain 40]

/-- The same, but `send` takes nothing of the frame that does not fit. -/
def droppedFrame : List ReleaseSocketEvent :=
  [.release ⟨1, 0, 1, 320⟩, .send (.sent 32), .release ⟨1, 1, 1, 448⟩, .send (.error .eagain), .drain 32,
    .release ⟨1, 2, 1, 576⟩, .send (.sent 32), .drain 32]

/-- The same views, with a drain after the first. The frame of the second takes
several calls of `send`, and the publisher reads a part of it meanwhile. -/
def wholeFrames : List ReleaseSocketEvent :=
  [.release ⟨1, 0, 1, 320⟩, .send (.sent 32), .drain 32, .release ⟨1, 1, 1, 448⟩, .send (.sent 8), .send (.error .eintr),
    .drain 5, .send (.sent 20)]

theorem sample_run {reached : ReleaseSocket → Prop} [DecidablePred reached] {events : List ReleaseSocketEvent}
    (evaluated : ((MemoryPool.create sampleDescriptor sampleConfig 1).toOption.bind fun pool =>
      (execute step (sampleStart pool) events).map fun socket =>
        decide (reached socket)) = some true) :
    ∃ pool socket, MemoryPool.create sampleDescriptor sampleConfig 1 = .ok pool ∧
      execute step (sampleStart pool) events = some socket ∧
      reached socket := by
  obtain ⟨pool, created, ran⟩ := Option.bind_eq_some_iff.mp evaluated
  obtain ⟨socket, run, observed⟩ := Option.map_eq_some_iff.mp ran
  exact ⟨pool, socket, toOption_some created, run, of_decide_eq_true observed⟩

/-- All views are destroyed and the publisher has read all that the socket has taken,
but the bytes are not those of the Release frames. The reference of the frame that is
lost stays, and after a torn frame that of the next one too. -/
theorem release_torn :
    (∃ pool socket, MemoryPool.create sampleDescriptor sampleConfig 1 = .ok pool ∧
      execute step (sampleStart pool) tornFrame = some socket ∧
      socket.connected = true ∧ socket.views = [] ∧ socket.buffered = [] ∧
      socket.connection.outstanding = [⟨1, 1, 1, 448⟩, ⟨1, 2, 1, 576⟩] ∧
      socket.accepted ++ retained socket ≠ stream encodeQueueRelease socket.destroyed) ∧
    ∃ pool socket, MemoryPool.create sampleDescriptor sampleConfig 1 = .ok pool ∧
      execute step (sampleStart pool) droppedFrame = some socket ∧
      socket.connected = true ∧ socket.views = [] ∧ socket.buffered = [] ∧
      socket.connection.outstanding = [⟨1, 1, 1, 448⟩] ∧
      socket.accepted ++ retained socket ≠ stream encodeQueueRelease socket.destroyed :=
  ⟨sample_run (by decide +kernel), sample_run (by decide +kernel)⟩

theorem releases_survive_whole :
    ∃ pool socket, MemoryPool.create sampleDescriptor sampleConfig 1 = .ok pool ∧
      execute step (sampleStart pool) wholeFrames = some socket ∧
      ((retained socket).length = 4 ∧ socket.destroyed = [⟨1, 0, 1, 320⟩, ⟨1, 1, 1, 448⟩]) ∧
      socket.accepted ++ retained socket = stream encodeQueueRelease socket.destroyed := by
  obtain ⟨pool, socket, created, run, reached⟩ := @sample_run
    (fun socket => (retained socket).length = 4 ∧ socket.destroyed = [⟨1, 0, 1, 320⟩, ⟨1, 1, 1, 448⟩]) _ wholeFrames
    (by decide +kernel)
  have checked : (MemoryPool.create sampleDescriptor sampleConfig 1).toOption.map (fun pool =>
      checkAlong step (fun socket event => decide (HasRoom socket event))
        (sampleStart pool) wholeFrames) = some true := by decide +kernel
  rw [created] at checked
  have room := along_of_check (fun _ _ => of_decide_eq_true) (Option.some.inj checked)
  have genuine : ∀ handle ∈ sampleViews, Genuine handle := by simp [sampleViews, Genuine]
  exact ⟨pool, socket, created, run, reached, (releases_survive genuine room run).1⟩

end RobotMiddleware.Proofs.ReleaseSockets
