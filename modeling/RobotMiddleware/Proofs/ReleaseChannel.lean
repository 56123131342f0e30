import RobotMiddleware.Lib.Framing
import RobotMiddleware.Proofs.PublisherAccounting
import RobotMiddleware.Proofs.QueueFrames
import RobotMiddleware.SharedTopic

/-! The way of Release frames through a data connection. As long as a socket only
carries whole frames of genuine handles, draining it removes exactly the handles
of the frames that were read. -/

namespace RobotMiddleware.Proofs.ReleaseChannel
open Lib.Framing PublisherAccounting QueueFrames

def delivered (events : List SocketEvent) : Bytes :=
  events.filterMap fun
    | .byte value => some value
    | _ => none

/-- What the other end has sent and the publisher has not decoded. -/
def unread (connection : DataConnection) : Bytes := connection.releaseBuffer ++ delivered connection.incoming

/-- A handle that a Release frame can carry. -/
def Genuine (handle : ChunkHandle) : Prop := handle.poolId ≠ 0 ∧ handle.generation ≠ 0

variable {connection : DataConnection} {events : List SocketEvent} {releases kept : List ChunkHandle}

@[simp] theorem delivered_byte (value : UInt8) (rest : List SocketEvent) :
    delivered (.byte value :: rest) = value :: delivered rest := rfl

@[simp] theorem delivered_append (first last : List SocketEvent) :
    delivered (first ++ last) = delivered first ++ delivered last := List.filterMap_append

@[simp] theorem delivered_release (handle : ChunkHandle) :
    delivered (SubscriberEnd.release handle) = encodeQueueRelease handle := by
  simp [delivered, SubscriberEnd.release, List.filterMap_map]

theorem releaseOutstanding_buffer (pool : MemoryPool) (connection : DataConnection) (handle : ChunkHandle) :
    (releaseOutstanding pool connection handle).2.releaseBuffer = connection.releaseBuffer := by
  unfold releaseOutstanding
  split <;> rfl

theorem releaseOutstanding_owed (pool : MemoryPool) {handle : ChunkHandle}
    (balance : connection.outstanding.Perm (kept ++ handle :: releases)) :
    (releaseOutstanding pool connection handle).2.outstanding.Perm (kept ++ releases) := by
  have present : handle ∈ connection.outstanding := balance.mem_iff.mpr (by simp)
  unfold releaseOutstanding
  rw [if_pos present]
  have front := balance.trans List.perm_middle
  simpa using front.erase handle

/-- What draining a socket leaves: the frames that were not read yet, and the
handles owed for them. -/
structure Drained (kept : List ChunkHandle) (events : List SocketEvent)
    (outcome : Bool × MemoryPool × DataConnection) : Prop where
  lost : outcome.1 = true → .closed ∈ events
  balance : ∃ rest, unread outcome.2.2 = stream encodeQueueRelease rest ∧ outcome.2.2.outstanding.Perm (kept ++ rest)
  short : outcome.2.2.releaseBuffer.length < kQueueReleaseSize
  tail : ∀ event ∈ outcome.2.2.incoming, event ∈ events

private theorem Drained.cons {outcome : Bool × MemoryPool × DataConnection} (drained : Drained kept events outcome)
    (event : SocketEvent) : Drained kept (event :: events) outcome :=
  ⟨fun closed => List.mem_cons_of_mem _ (drained.lost closed), drained.balance, drained.short,
    fun other present => List.mem_cons_of_mem _ (drained.tail other present)⟩

theorem receiveReleases_drained (pool : MemoryPool) (genuine : ∀ handle ∈ releases, Genuine handle)
    (same : connection.releaseBuffer ++ delivered events = stream encodeQueueRelease releases)
    (short : connection.releaseBuffer.length < kQueueReleaseSize) (intact : .failed ∉ events)
    (balance : connection.outstanding.Perm (kept ++ releases)) :
    Drained kept events (receiveReleases pool connection events) := by
  induction events generalizing pool connection releases with
  | nil => exact ⟨by simp [receiveReleases], ⟨releases, same, balance⟩, short, by simp [receiveReleases]⟩
  | cons event rest step =>
    have clean : .failed ∉ rest := fun failed => intact (List.mem_cons_of_mem _ failed)
    cases event with
    | failed => exact absurd List.mem_cons_self intact
    | interrupted => exact (step pool genuine same short clean balance).cons _
    | wouldBlock => exact ⟨by simp [receiveReleases], ⟨releases, same, balance⟩, short, fun _ => List.mem_cons_of_mem _⟩
    | closed => exact ⟨fun _ => List.mem_cons_self, ⟨releases, same, balance⟩, short, fun _ => List.mem_cons_of_mem _⟩
    | byte value =>
      rw [delivered_byte, List.append_cons] at same
      simp only [receiveReleases]
      split
      next small =>
        refine Drained.cons ?_ _
        exact step pool genuine same small clean balance
      next full =>
        -- the buffer holds the first frame that is under way
        have whole : (connection.releaseBuffer ++ [value]).length = kQueueReleaseSize := by
          rw [List.length_append, List.length_singleton] at full ⊢
          omega
        obtain ⟨handle, others, rfl, frame, bytes⟩ :=
          first_frame encodeQueueRelease_length (by decide) same whole
        have own := genuine handle List.mem_cons_self
        rw [frame, decode_encode_release handle own.1 own.2]
        refine Drained.cons ?_ _
        refine step _ (fun other present => genuine other (List.mem_cons_of_mem _ present)) ?_ ?_ clean ?_
        · rw [releaseOutstanding_buffer]
          exact bytes
        · rw [releaseOutstanding_buffer]
          exact Nat.zero_lt_of_lt short
        · exact releaseOutstanding_owed pool balance

end RobotMiddleware.Proofs.ReleaseChannel
