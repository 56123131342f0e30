import RobotMiddleware.Lib.Outcome
import RobotMiddleware.Lib.Transitions
import RobotMiddleware.ServerActions

/-! Every event of the poll loop is a run of actions, so whatever actions keep
holds in every state that the loop reaches. -/

namespace RobotMiddleware.Proofs.PollLoop
open Std Relation Lib.Outcome Lib.Transitions RegistryServer

variable {server middle next : RegistryServer} {fd : Nat} {client : ClientConnection} {now : Int}

def Reaches (server next : RegistryServer) : Prop := ∃ actions, execute act server actions = some next

theorem Reaches.refl (server : RegistryServer) : Reaches server server := ⟨[], rfl⟩

theorem Reaches.trans (first : Reaches server middle) (last : Reaches middle next) : Reaches server next := by
  obtain ⟨before, run⟩ := first
  obtain ⟨after, rest⟩ := last
  refine ⟨before ++ after, ?_⟩
  rw [execute_append, run]
  exact rest

theorem reaches_act (action : ServerAction) (done : act server action = some next) : Reaches server next :=
  ⟨[action], by simp [execute, done]⟩

theorem create_clients {liveness : LivenessConfig} (created : RegistryServer.create liveness = .ok server) :
    server.clients = ∅ := by
  unfold RegistryServer.create at created
  obtain ⟨state, _, created⟩ := bind_ok created
  simp only [pure, Except.pure, Except.ok.injEq] at created
  subst server
  rfl

theorem setClient_setClient (first last : ClientConnection) :
    (server.setClient fd first).setClient fd last = server.setClient fd last := by
  have same : (server.clients.insert fd first).insert fd last = server.clients.insert fd last := by
    apply ExtTreeMap.ext_getElem?
    intro other
    grind
  simp only [setClient, same]

theorem reaches_transfer (found : server.clients[fd]? = some client) (input output : Bytes) (outputOffset : Nat)
    (closeAfterWrite : Bool) :
    Reaches server (server.setClient fd { client with input, output, outputOffset, closeAfterWrite }) :=
  reaches_act (.transfer fd input output outputOffset closeAfterWrite) (by simp [act, found])

theorem reaches_refuse (found : server.clients[fd]? = some client) (requestId : UInt32) (error : ErrorCode) :
    Reaches server (server.refuseInput fd requestId error) := by
  have present : server.clients.contains fd = true := by
    rw [ExtTreeMap.contains_eq_isSome_getElem?, found]
    rfl
  exact reaches_act (.refuse fd requestId error) (by simp only [act, present, ite_true])

theorem reaches_remove (done : server.removeClient fd = .ok next) : Reaches server next :=
  reaches_act (.remove fd) (by simp only [act, done]; rfl)

/-- Taking a frame off the input is a move of bytes and a request. -/
theorem reaches_frame (found : server.clients[fd]? = some client) {frame : ControlFrame} {rest : Bytes}
    (done : (server.setClient fd (note (.received frame) { client with input := rest })).handleFrame fd
      client.connectionId frame now = .ok next) : Reaches server next := by
  refine (reaches_transfer found rest client.output client.outputOffset client.closeAfterWrite).trans ?_
  have taken : (server.setClient fd { client with input := rest }).receiveFrame fd { client with input := rest } frame now =
      .ok next := by
    rw [receiveFrame, setClient_setClient]
    exact done
  refine reaches_act (.request fd frame now) ?_
  simp only [act, RegistryServer.setClient, ExtTreeMap.getElem?_insert_self, Option.bind_some]
  rw [RegistryServer.setClient] at taken
  rw [taken]
  rfl

/-- The loop of `parseFrames`: what every frame keeps holds at its end, and there the
input may be refused. -/
theorem parseFrames_rule {loop : RegistryServer → Prop} {passes : Nat} (begins : loop server)
    (handled : ∀ server client frame rest next, loop server → server.clients[fd]? = some client →
      front client.input = .frame frame rest →
      (server.setClient fd (note (.received frame) { client with input := rest })).handleFrame fd client.connectionId frame now =
        .ok next → loop next) (done : parseFrames fd now passes server = .ok next) :
    loop next ∨ ∃ last client requestId error, loop last ∧ last.clients[fd]? = some client ∧
      next = last.refuseInput fd requestId error := by
  induction passes generalizing server with
  | zero =>
    cases done
    exact .inl begins
  | succ passes ih =>
    unfold parseFrames at done
    split at done
    · cases done
      exact .inl begins
    next client found =>
      split at done
      · cases done
        exact .inl begins
      next requestId error _ =>
        cases done
        exact .inr ⟨server, client, requestId, error, begins, found, rfl⟩
      next frame rest ahead =>
        obtain ⟨middle, first, remaining⟩ := bind_ok done
        exact ih (handled server client frame rest middle begins found ahead first) remaining

theorem parseFrames_reaches {passes : Nat} (done : parseFrames fd now passes server = .ok next) : Reaches server next := by
  rcases @parseFrames_rule server next fd now (Reaches server) passes (.refl server)
    (fun _ _ _ _ _ reached found _ handled => reached.trans (reaches_frame found handled)) done with
    reached | ⟨last, client, requestId, error, reached, found, rfl⟩
  · exact reached
  · exact reached.trans (reaches_refuse found requestId error)

/-- One turn of the loops of `handleEvent`. A connection that is to be closed is read
only if that was so when the event came. -/
inductive Turn (origin : RegistryServer) (arrived : Option (List ReceiveResult)) (fd : Nat) (now : Int)
    (server : RegistryServer) : RegistryServer → Prop where
  | moved {client : ClientConnection} {output : Bytes} {outputOffset : Nat} {closeAfterWrite : Bool}
      (found : server.clients[fd]? = some client) (stays : client.closeAfterWrite = true → closeAfterWrite = true) :
      Turn origin arrived fd now server (server.setClient fd { client with output, outputOffset, closeAfterWrite })
  | overflow {client : ClientConnection} {input : Bytes} (found : server.clients[fd]? = some client) :
      Turn origin arrived fd now server ((server.setClient fd { client with input }).refuseInput fd 0 .messageTooLarge)
  | parsed {client : ClientConnection} {chunk : Bytes} {passes : Nat} {next : RegistryServer}
      (found : server.clients[fd]? = some client)
      (entry : client.closeAfterWrite = true →
        origin.clients[fd]? = some client ∧ ∃ results, arrived = some results ∧ .bytes chunk ∈ results)
      (parsed : parseFrames fd now passes (server.setClient fd { client with input := client.input ++ chunk }) = .ok next) :
      Turn origin arrived fd now server next
  | removed {next : RegistryServer} (done : server.removeClient fd = .ok next) : Turn origin arrived fd now server next

section Turns
variable {origin : RegistryServer} {arrived : Option (List ReceiveResult)}

theorem readClient_turns {results : List ReceiveResult} (among : ∃ all, arrived = some all ∧ results ⊆ all)
    (entry : ∀ client, server.clients[fd]? = some client → client.closeAfterWrite = true → origin.clients[fd]? = some client)
    (done : readClient fd now results server = .ok next) : ReflTransGen (Turn origin arrived fd now) server next := by
  induction results generalizing server with
  | nil =>
    cases done
    exact .refl
  | cons result results ih =>
    obtain ⟨all, came, within⟩ := among
    obtain ⟨first, later⟩ := List.cons_subset.mp within
    unfold readClient at done
    split at done
    · cases done
      exact .refl
    next client found =>
      cases result with
      | bytes chunk =>
        simp only at done
        split at done
        · cases done
          exact .single (.overflow found)
        · obtain ⟨parsed, taken, done⟩ := bind_ok done
          have turn : Turn origin arrived fd now server parsed :=
            .parsed found (fun marked => ⟨entry client found marked, all, came, first⟩) taken
          split at done
          · cases done
            exact .single turn
          next still present =>
            split at done
            · cases done
              exact .single turn
            next goes =>
              refine .head turn (ih ⟨all, came, later⟩ (fun other again marked => ?_) done)
              rw [present] at again
              cases again
              exact absurd marked goes
      | endOfStream =>
        simp only at done
        split at done
        · cases done
          exact .single (.moved found fun _ => rfl)
        · exact .single (.removed done)
      | interrupted => exact ih ⟨all, came, later⟩ entry done
      | wouldBlock =>
        cases done
        exact .refl
      | failed => exact .single (.removed done)

theorem finishWrite_turns (found : server.clients[fd]? = some client) (done : server.finishWrite fd client = .ok next) :
    ReflTransGen (Turn origin arrived fd now) server next := by
  unfold finishWrite at done
  simp only at done
  split at done
  · exact .head (.moved found id) (.single (.removed done))
  · cases done
    exact .single (.moved found id)

theorem writeClient_turns {results : List SendResult} (done : writeClient fd results server = .ok next) :
    ReflTransGen (Turn origin arrived fd now) server next := by
  induction results generalizing server with
  | nil =>
    unfold writeClient at done
    split at done
    · cases done
      exact .refl
    next client found =>
      split at done
      · exact finishWrite_turns found done
      · cases done
        exact .refl
  | cons result results ih =>
    unfold writeClient at done
    split at done
    · cases done
      exact .refl
    next client found =>
      split at done
      · exact finishWrite_turns found done
      · cases result with
        | sent more => exact .head (.moved found id) (ih done)
        | interrupted => exact ih done
        | wouldBlock =>
          cases done
          exact .refl
        | failed => exact .single (.removed done)

end Turns

theorem handleEvent_turns {arrived : Option (List ReceiveResult)} {output : Option (List SendResult)} {hangUp : Bool}
    (done : server.handleEvent fd arrived output hangUp now = .ok next) :
    ReflTransGen (Turn server arrived fd now) server next := by
  unfold handleEvent at done
  obtain ⟨read, first, done⟩ := bind_ok done
  obtain ⟨written, second, done⟩ := bind_ok done
  have reading : ReflTransGen (Turn server arrived fd now) server read := by
    cases arrived with
    | none =>
      cases first
      exact .refl
    | some results => exact readClient_turns ⟨results, rfl, List.Subset.refl _⟩ (fun _ found _ => found) first
  have writing : ReflTransGen (Turn server arrived fd now) read written := by
    cases output with
    | none =>
      cases second
      exact .refl
    | some => exact writeClient_turns second
  refine (reading.trans writing).trans ?_
  split at done
  · exact .single (.removed done)
  · cases done
    exact .refl

theorem turn_reaches {origin : RegistryServer} {arrived : Option (List ReceiveResult)}
    (turn : Turn origin arrived fd now server next) : Reaches server next := by
  cases turn with
  | moved found => exact reaches_transfer found _ _ _ _
  | overflow found =>
    exact (reaches_transfer found _ _ _ _).trans (reaches_refuse ExtTreeMap.getElem?_insert_self 0 .messageTooLarge)
  | parsed found _ parsed => exact (reaches_transfer found _ _ _ _).trans (parseFrames_reaches parsed)
  | removed done => exact reaches_remove done

theorem step_reaches {event : ServerEvent} (taken : step server event = some next) : Reaches server next := by
  cases event with
  | accept fd => exact reaches_act (.accept fd) taken
  | expire now => exact reaches_act (.expire now) taken
  | ready =>
    simp only [step] at taken
    split at taken
    · exact chain_keeps (fun turn reached => reached.trans (turn_reaches turn)) (handleEvent_turns (toOption_some taken))
        (.refl server)
    · cases taken

theorem step_keeps {inv : RegistryServer → Prop}
    (kept : ∀ server action next, inv server → act server action = some next → inv next)
    {event : ServerEvent} (held : inv server) (taken : step server event = some next) : inv next := by
  obtain ⟨actions, run⟩ := step_reaches taken
  exact execute_invariant kept held run

end RobotMiddleware.Proofs.PollLoop
