import RobotMiddleware.Publisher

/-! The way of Release frames from the destructors of sample views through the
data socket to the publisher. The socket is non-blocking and its send buffer is
bounded: a `send` takes any part of the bytes that has room, and may refuse with
`EAGAIN` when the bytes do not all have room. The destructors of several threads
take turns under `write_mutex_`, so one frame at a time is being written, but the
publisher may read between any two calls of `send`. The connection itself stays
open until the publisher gives it up. -/

namespace RobotMiddleware

inductive Errno where
  | eintr | eagain | eio | epipe | econnreset | enotconn | other
  deriving DecidableEq, Repr

/-- What one call of the write operation, a `send`, returns. -/
inductive WriteResult where
  | sent (count : Nat)
  | error (number : Errno)
  deriving DecidableEq, Repr

/-- How many bytes the socket took. -/
def WriteResult.count : WriteResult → Nat
  | .sent count => count
  | .error _ => 0

inductive IoStatus where
  | complete | closed | error
  deriving DecidableEq, Repr

structure IoResult where
  status : IoStatus
  transferred : Nat
  errorNumber : Option Errno
  deriving DecidableEq, Repr

def isDisconnectError : Errno → Bool
  | .epipe | .econnreset | .enotconn => true
  | _ => false

/-- One iteration of the loop of `writeAllWith`, and the test that starts the next
one: how much is transferred when it goes on, or what it returns. -/
def writeAllWith (size transferred : Nat) : WriteResult → Nat ⊕ IoResult
  | .sent 0 => .inr ⟨.closed, transferred, none⟩
  | .sent count =>
    if count > size - transferred then .inr ⟨.error, transferred, some .eio⟩
    else if transferred + count < size then .inl (transferred + count)
    else .inr ⟨.complete, transferred + count, none⟩
  | .error .eintr => .inl transferred
  | .error number => .inr ⟨.error, transferred, some number⟩

def writeAll (size transferred : Nat) (result : WriteResult) : Nat ⊕ IoResult :=
  match writeAllWith size transferred result with
  | .inl transferred => .inl transferred
  | .inr result =>
    .inr (if result.status = .error ∧ result.errorNumber.any isDisconnectError then { result with status := .closed } else result)

/-- The frame that `SocketReleaseContext::release` is writing. -/
structure ReleaseWrite where
  frame : Bytes
  transferred : Nat := 0
  deriving DecidableEq, Repr

/-- A data connection: the publisher's end with its pool, the bytes in the send
buffer that the publisher has not read, the views that the subscriber holds, and
the frame that is being written. `accepted` and `destroyed` record what the socket
has taken from the start and which views are gone. -/
structure ReleaseSocket where
  capacity : Nat
  pool : MemoryPool
  connection : DataConnection
  connected : Bool := true
  buffered : Bytes := []
  views : List ChunkHandle
  writing : Option ReleaseWrite := none
  accepted : Bytes := []
  destroyed : List ChunkHandle := []

/-- `release` is the destructor of a view up to its first `send`, `send` one
iteration of the loop in `writeAllWith`, and `drain` the publisher's loop over as
many bytes. -/
inductive ReleaseSocketEvent where
  | release (handle : ChunkHandle)
  | send (result : WriteResult)
  | drain (count : Nat)
  deriving DecidableEq, Repr

namespace ReleaseSocket

/-- What a `send` of so many bytes on an open connection can return. -/
def sendable (socket : ReleaseSocket) (remaining : Nat) : WriteResult → Bool
  | .sent count => 0 < count && count ≤ remaining && socket.buffered.length + count ≤ socket.capacity
  | .error .eintr => true
  | .error .eagain => socket.capacity < socket.buffered.length + remaining
  | .error _ => false

def accept (socket : ReleaseSocket) (bytes : Bytes) : ReleaseSocket :=
  { socket with buffered := socket.buffered ++ bytes, accepted := socket.accepted ++ bytes }

def send (socket : ReleaseSocket) (write : ReleaseWrite) (result : WriteResult) : ReleaseSocket :=
  let socket := socket.accept ((write.frame.drop write.transferred).take result.count)
  match writeAll write.frame.length write.transferred result with
  | .inl transferred => { socket with writing := some { write with transferred } }
  -- `release` ignores the result, and nothing of the frame is kept
  | .inr _ => { socket with writing := none }

def step (socket : ReleaseSocket) : ReleaseSocketEvent → Option ReleaseSocket
  | .release handle =>
    if socket.connected ∧ socket.writing = none ∧ handle ∈ socket.views then
      some { socket with
        views := socket.views.erase handle
        writing := some { frame := encodeQueueRelease handle }
        destroyed := socket.destroyed ++ [handle] }
    else none
  | .send result =>
    match socket.writing with
    | none => none
    | some write =>
      if socket.connected ∧ socket.sendable (write.frame.length - write.transferred) result then
        some (socket.send write result)
      else none
  | .drain count =>
    if socket.connected then
      let (lost, pool, connection) :=
        receiveReleases socket.pool socket.connection ((socket.buffered.take count).map .byte)
      some { socket with pool, connection, connected := !lost, buffered := socket.buffered.drop count }
    else none

/-- A connection on which no view has been destroyed yet: the publisher owes the
handles of the views. -/
def start (capacity : Nat) (pool : MemoryPool) (endpointId maxMessageSize queueId : UInt64) (views : List ChunkHandle) :
    ReleaseSocket :=
  { capacity, pool, views
    connection := { endpointId, maxMessageSize, queueId := some queueId, outstanding := views } }

end ReleaseSocket

end RobotMiddleware
