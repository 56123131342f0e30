import RobotMiddleware.RegistryServer

/-! The server seen one request at a time. The poll loop moves bytes and takes
frames off them; an action is one such move, one frame, or one of the other things
that the loop does to the tables. Frames may come in any order on any connection,
whatever bytes carried them. -/

namespace RobotMiddleware

inductive ServerAction where
  | accept (fd : Nat)
  | transfer (fd : Nat) (input output : Bytes) (outputOffset : Nat) (closeAfterWrite : Bool)
  | request (fd : Nat) (frame : ControlFrame) (now : Int)
  | refuse (fd : Nat) (requestId : UInt32) (error : ErrorCode)
  | remove (fd : Nat)
  | expire (now : Int)
  deriving DecidableEq, Repr

namespace RegistryServer

/-- A frame that `parseFrames` has found is dispatched. -/
def receiveFrame (server : RegistryServer) (fd : Nat) (client : ClientConnection) (frame : ControlFrame) (now : Int) :
    Except Exception RegistryServer :=
  (server.setClient fd (note (.received frame) client)).handleFrame fd client.connectionId frame now

def act (server : RegistryServer) : ServerAction → Option RegistryServer
  | .accept fd => if server.clients.contains fd then none else some (server.acceptConnection fd)
  | .transfer fd input output outputOffset closeAfterWrite =>
    (server.clients[fd]?).map fun client =>
      server.setClient fd { client with input, output, outputOffset, closeAfterWrite }
  | .request fd frame now =>
    (server.clients[fd]?).bind fun client => (server.receiveFrame fd client frame now).toOption
  | .refuse fd requestId error => if server.clients.contains fd then some (server.refuseInput fd requestId error) else none
  | .remove fd => (server.removeClient fd).toOption
  | .expire now => (server.expireDeadNodes now).toOption

end RegistryServer
end RobotMiddleware
