import Mathlib.Data.List.Forall2
import RobotMiddleware.Lib.Records
import RobotMiddleware.Proofs.ControlFrames
import RobotMiddleware.Proofs.PendingDiscoveries

/-! The requests of a connection do not depend on how its bytes are cut. What
`readClient` makes of the pieces is what the frames make one after the other, as long
as no piece takes the buffer past its limit: the limit holds for the bytes of several
frames as it does for one. -/

namespace RobotMiddleware.Proofs.CutStreams
open Std Lib.Loops Lib.Outcome Lib.Records Lib.Transitions RegistryServer RegistryOwnership ServerEffects PollLoop PendingDiscoveries
open ControlFrames

variable {server next : RegistryServer} {fd : Nat} {client : ClientConnection} {now : Int} {input : Bytes}

def setInput (input : Bytes) (client : ClientConnection) : ClientConnection := { client with input }

def withInput (fd : Nat) (input : Bytes) (server : RegistryServer) : RegistryServer :=
  { server with clients := server.clients.modify fd (setInput input) }

theorem modifyClient_eq (server : RegistryServer) (fd : Nat) (update : ClientConnection → ClientConnection) :
    server.modifyClient fd update = { server with clients := server.clients.modify fd update } := by
  have same : (server.modifyClient fd update).clients = server.clients.modify fd update := by
    apply ExtTreeMap.ext_getElem?
    intro other
    rw [modifyClient_clients, ExtTreeMap.getElem?_modify]
    grind
  rw [← same]
  unfold modifyClient
  split <;> rfl

@[simp] theorem withInput_state (server : RegistryServer) : (withInput fd input server).state = server.state := rfl
@[simp] theorem withInput_pending (server : RegistryServer) : (withInput fd input server).pending = server.pending := rfl

section Handlers
variable (server fd input)

theorem modifyClient_withInput (other : Nat) (update : ClientConnection → ClientConnection)
    (apart : ∀ client, update (setInput input client) = setInput input (update client)) :
    (withInput fd input server).modifyClient other update = withInput fd input (server.modifyClient other update) := by
  have same : (server.clients.modify fd (setInput input)).modify other update =
      (server.clients.modify other update).modify fd (setInput input) := by
    apply ExtTreeMap.ext_getElem?
    intro key
    simp only [ExtTreeMap.getElem?_modify]
    cases server.clients[key]? with
    | none => grind
    | some => grind
  simp only [modifyClient_eq, withInput, same]

theorem queueResponse_withInput (other : Nat) (requestId : UInt32) (error : ErrorCode) (body : Bytes) :
    (withInput fd input server).queueResponse other requestId error body =
      withInput fd input (server.queueResponse other requestId error body) :=
  modifyClient_withInput server fd input other _ fun _ => rfl

theorem erasePending_withInput (endpointId : UInt64) :
    (withInput fd input server).erasePending endpointId = withInput fd input (server.erasePending endpointId) := by
  unfold erasePending
  cases found : server.pending[endpointId]? with
  | none => simp only [withInput_pending, found]
  | some request =>
    have state : (withInput fd input server).state = server.state := rfl
    simp only [withInput_pending, state, found]
    by_cases published : server.state.publishers.contains endpointId = true
    · rw [if_pos published, if_pos published]
      rfl
    · rw [if_neg published, if_neg published]
      exact modifyClient_withInput { server with pending := server.pending.erase endpointId } fd input request.fd
        (note (.withdrawn request.requestId)) fun _ => rfl

theorem cleanupPending_withInput :
    (withInput fd input server).cleanupPending = withInput fd input server.cleanupPending := by
  unfold cleanupPending
  refine List.foldl_hom (withInput fd input) fun server entry => ?_
  rw [erasePending_withInput, withInput_state]
  split <;> rfl

theorem completeOne_withInput (endpointId : UInt64) (request : PendingDiscovery) :
    (withInput fd input server).completeOne endpointId request =
      withInput fd input <$> server.completeOne endpointId request := by
  unfold completeOne
  rw [withInput_state]
  cases server.state.resolve request.connectionId request.nodeId request.publisherEndpointId with
  | error => rfl
  | ok =>
    simp only [queueResponse_withInput, bind, Except.bind]
    split <;> rfl

theorem completePending_withInput :
    (withInput fd input server).completePending = withInput fd input <$> server.completePending :=
  foldlM_hom (withInput fd input) _ _ fun server entry => completeOne_withInput server fd input entry.1 entry.2

theorem perform_withInput (other : Nat) (connection : UInt64) (requestId : UInt32) (now : Int) (request : Request) :
    (withInput fd input server).perform other connection requestId now request =
      withInput fd input <$> server.perform other connection requestId now request := by
  have answer := fun state => queueResponse_withInput { server with state } fd input other requestId
  cases request with
  | registerNode => exact congrArg Except.ok (answer _ _ _)
  | unregisterNode nodeId =>
    simp only [perform, withInput_state]
    cases server.state.unregisterNode connection nodeId with
    | error => rfl
    | ok =>
      refine congrArg Except.ok ?_
      rw [← queueResponse_withInput, ← cleanupPending_withInput]
      rfl
  | advertiseTopic nodeId topicName typeName typeHash maxMessageSize transport pool =>
    simp only [perform, withInput_state]
    split
    · exact congrArg Except.ok (answer _ _ _)
    · cases server.state.advertiseTopic connection nodeId topicName typeName typeHash maxMessageSize transport pool with
      | error => rfl
      | ok => exact congrArg Except.ok (answer _ _ _)
  | unadvertiseTopic nodeId endpointId =>
    simp only [perform, withInput_state]
    cases server.state.unadvertise connection nodeId endpointId with
    | error => rfl
    | ok =>
      refine congrArg Except.ok ?_
      rw [← queueResponse_withInput, ← erasePending_withInput]
      rfl
  | subscribeTopic nodeId topicName typeName typeHash maxMessageSize dataSocketPath transport queue =>
    simp only [perform, withInput_state]
    split
    · exact congrArg Except.ok (answer _ _ _)
    · cases server.state.subscribeTopic connection nodeId topicName typeName typeHash maxMessageSize dataSocketPath
        transport queue with
      | error exception => rfl
      | ok result =>
        simp only [bind, Except.bind]
        split
        · rw [← completePending_withInput, ← queueResponse_withInput]
          rfl
        · exact congrArg Except.ok (answer _ _ _)
  | unsubscribeTopic nodeId endpointId =>
    simp only [perform, withInput_state]
    cases server.state.unsubscribe connection nodeId endpointId with
    | error => rfl
    | ok => exact congrArg Except.ok (answer _ _ _)
  | resolveEndpoint nodeId endpointId =>
    simp only [perform, withInput_state]
    cases server.state.resolve connection nodeId endpointId with
    | error => rfl
    | ok =>
      simp only [bind, Except.bind]
      split
      · rfl
      · exact congrArg Except.ok (answer _ _ _)
  | listNodes | listTopics | queryStats => exact congrArg Except.ok (answer _ _ _)
  | queryTopic topicName =>
    simp only [perform, withInput_state]
    cases server.state.queryTopic topicName with
    | error => rfl
    | ok result => cases result <;> exact congrArg Except.ok (answer _ _ _)
  | attachHeartbeat => exact congrArg Except.ok (answer _ _ _)
  | heartbeat nodeId sessionId =>
    have state : (withInput fd input server).state = server.state := rfl
    simp only [perform, state]
    by_cases known : (server.state.heartbeat connection nodeId sessionId now).1.error = .ok
    · simp only [if_pos known]
      refine congrArg Except.ok ?_
      rw [← queueResponse_withInput]
      rfl
    · simp only [if_neg known]
      exact congrArg Except.ok (answer _ _ _)

theorem handleFrame_withInput (other : Nat) (connection : UInt64) (frame : ControlFrame) (now : Int) :
    (withInput fd input server).handleFrame other connection frame now =
      withInput fd input <$> server.handleFrame other connection frame now := by
  unfold handleFrame
  split
  · exact congrArg Except.ok (queueResponse_withInput _ _ _ _ _ _ _)
  · split
    · exact congrArg Except.ok (queueResponse_withInput _ _ _ _ _ _ _)
    · exact perform_withInput _ _ _ _ _ _ _ _

end Handlers

/-- What a client passes to `encodeControlFrame`. -/
structure Message where
  opcode : UInt16
  requestId : UInt32
  payload : Bytes

def Message.frame (message : Message) : ControlFrame := controlFrame message.opcode message.requestId message.payload

def Encodes (message : Message) (bytes : Bytes) : Prop :=
  encodeControlFrame message.opcode message.requestId message.payload = some bytes

def dispatchFrame (fd : Nat) (server : RegistryServer) (arrival : ControlFrame × Int) : Except Exception RegistryServer :=
  match server.clients[fd]? with
  | none => .ok server
  | some client => server.receiveFrame fd client arrival.1 arrival.2

def dispatchAll (fd : Nat) (server : RegistryServer) (arrivals : List (ControlFrame × Int)) :
    Except Exception RegistryServer := arrivals.foldlM (dispatchFrame fd) server

/-- Calls of `readClient`, each with its time and with what its `recv`s return until
there is nothing more to read. -/
def readCalls (fd : Nat) (server : RegistryServer) (calls : List (Int × List Bytes)) : Except Exception RegistryServer :=
  calls.foldlM (fun server call => readClient fd call.1 (call.2.map .bytes) server) server

def receivedFrames (journal : List JournalEntry) : List ControlFrame :=
  journal.filterMap fun | .received frame => some frame | _ => none

def faults (journal : List JournalEntry) : List UInt32 :=
  journal.filterMap fun | .malformed requestId => some requestId | _ => none

/-- The connection has taken these frames, and nothing was wrong with its input. -/
structure Follows (frames : List ControlFrame) (old new : ClientConnection) : Prop where
  input : new.input = old.input
  closeAfterWrite : new.closeAfterWrite = old.closeAfterWrite
  received : receivedFrames new.journal = receivedFrames old.journal ++ frames
  faults : faults new.journal = faults old.journal

/-- The connection is there with nothing in its buffer, and is not to be closed. -/
structure Idle (server : RegistryServer) (fd : Nat) (client : ClientConnection) : Prop where
  found : server.clients[fd]? = some client
  empty : client.input = []
  unmarked : client.closeAfterWrite = false

section Buffers

theorem withInput_found (found : server.clients[fd]? = some client) (input : Bytes) :
    (withInput fd input server).clients[fd]? = some { client with input } := by
  simp only [withInput, ExtTreeMap.getElem?_modify_self, found, Option.map_some]
  rfl

theorem withInput_same (found : server.clients[fd]? = some client) : withInput fd client.input server = server := by
  have same : server.clients.modify fd (setInput client.input) = server.clients := by
    apply ExtTreeMap.ext_getElem?
    intro other
    rw [ExtTreeMap.getElem?_modify]
    by_cases here : fd = other
    · subst here
      simp [found, setInput]
    · simp [here]
  simp only [withInput, same]

theorem setClient_withInput (new : ClientConnection) (before after : Bytes) :
    (withInput fd before server).setClient fd { new with input := after } = withInput fd after (server.setClient fd new) := by
  have same : (server.clients.modify fd (setInput before)).insert fd { new with input := after } =
      (server.clients.insert fd new).modify fd (setInput after) := by
    apply ExtTreeMap.ext_getElem?
    intro other
    simp only [ExtTreeMap.getElem?_modify, ExtTreeMap.getElem?_insert]
    by_cases here : fd = other
    · subst here
      simp [setInput]
    · simp [here]
  simp only [withInput, RegistryServer.setClient, same]

theorem buffer_more (found : server.clients[fd]? = some client) (before after : Bytes) :
    (withInput fd before server).setClient fd { client with input := after } = withInput fd after server := by
  rw [setClient_withInput]
  have same : server.clients.insert fd client = server.clients := by
    apply ExtTreeMap.ext_getElem?
    intro other
    grind
  simp only [withInput, RegistryServer.setClient, same]

end Buffers

section Dispatching
variable {arrivals : List (ControlFrame × Int)} {old new : ClientConnection}

theorem Follows.refl (client : ClientConnection) : Follows [] client client := ⟨rfl, rfl, by simp, rfl⟩

theorem Follows.trans {first last : List ControlFrame} {middle : ClientConnection} (before : Follows first old middle)
    (after : Follows last middle new) : Follows (first ++ last) old new :=
  ⟨after.input.trans before.input, after.closeAfterWrite.trans before.closeAfterWrite,
    by rw [after.received, before.received, List.append_assoc], after.faults.trans before.faults⟩

theorem follows_continues {frame : ControlFrame} (continues : Continues IsReply (note (.received frame) client) new) :
    Follows [frame] client new := by
  obtain ⟨entries, appended, only⟩ := continues.journal
  have unread : ∀ entry ∈ entries, (match entry with | .received frame => some frame | _ => none) = none := by
    intro entry member
    have reply := only entry member
    cases entry <;> first | rfl | exact reply.elim
  have sound : ∀ entry ∈ entries, (match entry with | .malformed requestId => some requestId | _ => none) = none := by
    intro entry member
    have reply := only entry member
    cases entry <;> first | rfl | exact reply.elim
  refine ⟨continues.input, continues.closeAfterWrite, ?_, ?_⟩
  · simp only [receivedFrames, appended, note, List.filterMap_append, List.filterMap_eq_nil_iff.mpr unread]
    simp
  · simp only [faults, appended, note, List.filterMap_append, List.filterMap_eq_nil_iff.mpr sound]
    simp

theorem dispatchFrame_idle {arrival : ControlFrame × Int} (idle : Idle server fd client)
    (done : dispatchFrame fd server arrival = .ok next) : ∃ new, Idle next fd new ∧ Follows [arrival.1] client new := by
  simp only [dispatchFrame, idle.found, receiveFrame] at done
  obtain ⟨new, present, continues⟩ := (effect_attends (handleFrame_effect done).1).kept fd _ ExtTreeMap.getElem?_insert_self
  have follows := follows_continues continues
  exact ⟨new, ⟨present, follows.input.trans idle.empty, follows.closeAfterWrite.trans idle.unmarked⟩, follows⟩

theorem dispatchAll_idle (idle : Idle server fd client) (done : dispatchAll fd server arrivals = .ok next) :
    ∃ new, Idle next fd new ∧ Follows (arrivals.map Prod.fst) client new := by
  induction arrivals generalizing server client with
  | nil =>
    cases done
    exact ⟨client, idle, .refl client⟩
  | cons arrival rest ih =>
    rw [dispatchAll, List.foldlM_cons] at done
    obtain ⟨middle, first, remaining⟩ := bind_ok done
    obtain ⟨between, still, before⟩ := dispatchFrame_idle idle first
    obtain ⟨new, last, after⟩ := ih still remaining
    exact ⟨new, last, before.trans after⟩

variable {part : Bytes}

theorem dispatchAll_append {first last : List (ControlFrame × Int)}
    {proceed : RegistryServer → Except Exception RegistryServer} (idle : Idle server fd client)
    (same : ∀ middle new, Idle middle fd new → proceed middle = withInput fd part <$> dispatchAll fd middle last) :
    dispatchAll fd server first >>= proceed = withInput fd part <$> dispatchAll fd server (first ++ last) := by
  have split : dispatchAll fd server (first ++ last) =
      dispatchAll fd server first >>= fun middle => dispatchAll fd middle last := List.foldlM_append
  rw [split]
  cases handled : dispatchAll fd server first with
  | error => rfl
  | ok middle =>
    obtain ⟨new, still, _⟩ := dispatchAll_idle idle handled
    exact same middle new still

end Dispatching

section Reading
variable {messages : List Message} {records : List Bytes}

def arrive (now : Int) (messages : List Message) : List (ControlFrame × Int) :=
  messages.map fun message => (message.frame, now)

theorem parseFrames_records {passes : Nat} (encoded : List.Forall₂ Encodes messages records)
    (idle : Idle server fd client) (stops : front part = .incomplete) (enough : messages.length ≤ passes) :
    parseFrames fd now passes (withInput fd (records.flatten ++ part) server) =
      withInput fd part <$> dispatchAll fd server (arrive now messages) := by
  induction encoded generalizing server client passes with
  | nil =>
    cases passes with
    | zero => rfl
    | succ =>
      simp only [parseFrames, List.flatten_nil, List.nil_append, withInput_found idle.found, stops]
      rfl
  | @cons message bytes messages records encodes _ ih =>
    obtain ⟨passes, rfl⟩ := Nat.exists_eq_add_of_le' (Nat.lt_of_lt_of_le (Nat.succ_pos _) enough)
    have ahead : front (bytes ++ records.flatten ++ part) = .frame message.frame (records.flatten ++ part) := by
      rw [List.append_assoc]
      exact front_frame encodes _
    have taken : (withInput fd (bytes ++ records.flatten ++ part) server).setClient fd
        (note (.received message.frame) { client with input := records.flatten ++ part }) =
        withInput fd (records.flatten ++ part) (server.setClient fd (note (.received message.frame) client)) :=
      setClient_withInput (note (.received message.frame) client) _ _
    have first : dispatchFrame fd server (message.frame, now) =
        (server.setClient fd (note (.received message.frame) client)).handleFrame fd client.connectionId message.frame now := by
      simp only [dispatchFrame, idle.found, receiveFrame]
    have frames : dispatchAll fd server (arrive now (message :: messages)) =
        dispatchFrame fd server (message.frame, now) >>= fun middle => dispatchAll fd middle (arrive now messages) := rfl
    simp only [parseFrames, List.flatten_cons, withInput_found idle.found, ahead, taken, handleFrame_withInput]
    rw [frames]
    cases handled : dispatchFrame fd server (message.frame, now) with
    | error =>
      rw [← first, handled]
      rfl
    | ok =>
      rw [← first, handled]
      obtain ⟨new, still, _⟩ := dispatchFrame_idle idle handled
      exact ih still (by simpa using enough)

theorem front_partOf (encoded : List.Forall₂ Encodes messages records) (started : PartOf part records) :
    front part = .incomplete := by
  cases encoded with
  | nil =>
    cases started
    rfl
  | cons encodes _ =>
    obtain ⟨rest, unfinished, same⟩ := started
    exact front_part encodes same unfinished

theorem messages_le_bytes (encoded : List.Forall₂ Encodes messages records) : messages.length ≤ records.flatten.length := by
  induction encoded with
  | nil => exact Nat.le_refl _
  | cons encodes _ ih =>
    have size := encodeControlFrame_length encodes
    simp only [kControlHeaderSize] at size
    simp only [List.length_cons, List.flatten_cons, List.length_append]
    omega

/-- The stream of these messages goes on with `part`, which is held back. -/
structure Holds (messages : List Message) (records : List Bytes) (part : Bytes) : Prop where
  encoded : List.Forall₂ Encodes messages records
  started : PartOf part records

theorem Holds.start (encoded : List.Forall₂ Encodes messages records) : Holds messages records [] := by
  refine ⟨encoded, ?_⟩
  cases encoded with
  | nil => rfl
  | @cons message bytes _ _ encodes _ =>
    refine ⟨bytes, fun empty => ?_, rfl⟩
    have size := encodeControlFrame_length encodes
    simp only [empty, List.length_nil, kControlHeaderSize] at size
    omega

/-- The messages that are complete once a piece has arrived are taken, whatever the
state of the server. -/
theorem parse_piece (fd : Nat) (now : Int) (chunk later : Bytes) (holds : Holds messages records part)
    (cut : part ++ chunk ++ later = records.flatten) :
    ∃ taken left records' part', messages = taken ++ left ∧ Holds left records' part' ∧ part' ++ later = records'.flatten ∧
      advance (records.map List.length) (part.length + chunk.length) = (records'.map List.length, part'.length) ∧
      ∀ server client, Idle server fd client →
        parseFrames fd now (part ++ chunk).length (withInput fd (part ++ chunk) server) =
          withInput fd part' <$> dispatchAll fd server (arrive now taken) := by
  obtain ⟨whole, records', part', rfl, buffered, remains, started, sizes⟩ := split_records cut
  have complete := List.forall₂_take_append messages whole records' holds.encoded
  have rest := List.forall₂_drop_append messages whole records' holds.encoded
  refine ⟨_, _, records', part', (List.take_append_drop whole.length messages).symm, ⟨rest, started⟩, remains, ?_,
    fun server client idle => ?_⟩
  · rw [← List.length_append]
    exact sizes
  · rw [buffered]
    refine parseFrames_records complete idle (front_partOf rest started) ?_
    have many := messages_le_bytes complete
    rw [List.length_append]
    omega

def kInputLimit : Nat := kControlHeaderSize + kMaxControlPayloadSize

theorem readClient_piece {part' chunk : Bytes} {taken : List Message} (results : List ReceiveResult)
    (idle : Idle server fd client) (small : part.length + chunk.length ≤ kInputLimit)
    (parsed : parseFrames fd now (part ++ chunk).length (withInput fd (part ++ chunk) server) =
      withInput fd part' <$> dispatchAll fd server (arrive now taken)) :
    readClient fd now (.bytes chunk :: results) (withInput fd part server) =
      dispatchAll fd server (arrive now taken) >>= fun middle => readClient fd now results (withInput fd part' middle) := by
  have within : ¬kControlHeaderSize + kMaxControlPayloadSize < (part ++ chunk).length := by
    rw [List.length_append]
    exact Nat.not_lt.mpr small
  simp only [readClient, withInput_found idle.found, gt_iff_lt, within, ite_false, buffer_more idle.found, parsed]
  cases handled : dispatchAll fd server (arrive now taken) with
  | error => rfl
  | ok =>
    obtain ⟨new, still, _⟩ := dispatchAll_idle idle handled
    simp only [bind, Except.bind, Functor.map, Except.map, withInput_found still.found, still.unmarked]
    rfl

theorem readClient_overflow {chunk : Bytes} (results : List ReceiveResult) (found : server.clients[fd]? = some client)
    (large : ¬part.length + chunk.length ≤ kInputLimit) :
    readClient fd now (.bytes chunk :: results) (withInput fd part server) =
      .ok ((withInput fd (part ++ chunk) server).refuseInput fd 0 .messageTooLarge) := by
  have beyond : kControlHeaderSize + kMaxControlPayloadSize < (part ++ chunk).length := by
    rw [List.length_append]
    exact Nat.lt_of_not_le large
  simp only [readClient, withInput_found found, gt_iff_lt, beyond, ite_true, buffer_more found, pure, Except.pure]

def Marked (server : RegistryServer) (fd : Nat) : Prop :=
  ∃ client, server.clients[fd]? = some client ∧ client.closeAfterWrite = true

/-- A whole call: either it takes the messages that are complete after its last piece,
or one of its pieces was too many. -/
theorem readClient_pieces (fd : Nat) (now : Int) (chunks rest : List Bytes) (later : Bytes)
    (holds : Holds messages records part) (cut : part ++ (chunks ++ rest).flatten ++ later = records.flatten) :
    (∃ taken left records' part', messages = taken ++ left ∧ Holds left records' part' ∧
      part' ++ rest.flatten ++ later = records'.flatten ∧
      fits kInputLimit (records.map List.length) part.length ((chunks ++ rest).map List.length) =
        fits kInputLimit (records'.map List.length) part'.length (rest.map List.length) ∧
      ∀ server client, Idle server fd client → readClient fd now (chunks.map .bytes) (withInput fd part server) =
        withInput fd part' <$> dispatchAll fd server (arrive now taken)) ∨
    (fits kInputLimit (records.map List.length) part.length ((chunks ++ rest).map List.length) = false ∧
      ∀ server client next, Idle server fd client →
        readClient fd now (chunks.map .bytes) (withInput fd part server) = .ok next → Marked next fd) := by
  induction chunks generalizing messages records part with
  | nil => exact .inl ⟨[], messages, records, part, rfl, holds, cut, rfl, fun _ _ _ => rfl⟩
  | cons chunk chunks ih =>
    by_cases small : part.length + chunk.length ≤ kInputLimit
    · obtain ⟨first, left, records', part', rfl, held, remains, sizes, parsed⟩ :=
        parse_piece fd now chunk ((chunks ++ rest).flatten ++ later) holds (by simpa using cut)
      have fitting : fits kInputLimit (records.map List.length) part.length ((chunk :: chunks ++ rest).map List.length) =
          fits kInputLimit (records'.map List.length) part'.length ((chunks ++ rest).map List.length) := by
        simp only [List.cons_append, List.map_cons, fits, small, decide_true, Bool.true_and, sizes]
      rw [fitting]
      rcases ih held (by simpa using remains) with ⟨second, left', records'', part'', rfl, last, after, same, read⟩ |
        ⟨unfit, marks⟩
      · refine .inl ⟨first ++ second, left', records'', part'', by simp, last, after, same, fun server client idle => ?_⟩
        have frames : arrive now (first ++ second) = arrive now first ++ arrive now second := List.map_append
        rw [List.map_cons, readClient_piece _ idle small (parsed server client idle), frames]
        exact dispatchAll_append idle read
      · refine .inr ⟨unfit, fun server client next idle done => ?_⟩
        rw [List.map_cons, readClient_piece _ idle small (parsed server client idle)] at done
        obtain ⟨middle, handled, done⟩ := bind_ok done
        obtain ⟨new, still, _⟩ := dispatchAll_idle idle handled
        exact marks middle new next still done
    · refine .inr ⟨by simp [fits, small], fun server client next idle done => ?_⟩
      rw [List.map_cons, readClient_overflow _ idle.found small] at done
      cases done
      exact refuseInput_marked (withInput_found idle.found _) 0 .messageTooLarge

end Reading

section Closing

theorem parseFrames_marked {passes : Nat} (marked : Marked server fd)
    (done : parseFrames fd now passes server = .ok next) : Marked next fd := by
  refine (@parseFrames_rule server next fd now (Marked · fd) passes marked ?_ done).elim id ?_
  · rintro server client frame rest next ⟨other, again, mark⟩ found _ handled
    rw [found] at again
    cases again
    obtain ⟨new, present, continues⟩ :=
      (effect_attends (handleFrame_effect handled).1).kept fd _ ExtTreeMap.getElem?_insert_self
    exact ⟨new, present, continues.closeAfterWrite.trans mark⟩
  · rintro ⟨last, client, requestId, error, _, found, rfl⟩
    exact refuseInput_marked found requestId error

theorem readClient_marked {chunks : List Bytes} (marked : Marked server fd)
    (done : readClient fd now (chunks.map .bytes) server = .ok next) : Marked next fd := by
  obtain ⟨client, found, mark⟩ := marked
  cases chunks with
  | nil =>
    cases done
    exact ⟨client, found, mark⟩
  | cons chunk =>
    simp only [List.map_cons, readClient, found] at done
    split at done
    · cases done
      exact refuseInput_marked ExtTreeMap.getElem?_insert_self 0 .messageTooLarge
    · obtain ⟨parsed, first, done⟩ := bind_ok done
      have buffered : Marked (server.setClient fd { client with input := client.input ++ chunk }) fd :=
        ⟨_, ExtTreeMap.getElem?_insert_self, mark⟩
      obtain ⟨still, stands, closes⟩ := parseFrames_marked buffered first
      simp only [stands, closes, ite_true] at done
      cases done
      exact ⟨still, stands, closes⟩

theorem readCalls_marked {calls : List (Int × List Bytes)} (marked : Marked server fd)
    (done : readCalls fd server calls = .ok next) : Marked next fd :=
  @foldlM_keeps _ _ _ calls _ (Marked · fd) server next (fun _ _ _ _ held taken => readClient_marked held taken) marked done

end Closing

theorem zip_replicate (now : Int) (messages : List Message) :
    (messages.map Message.frame).zip (List.replicate messages.length now) = arrive now messages := by
  induction messages with
  | nil => rfl
  | cons message rest ih =>
    simp only [List.map_cons, List.length_cons, List.replicate_succ, List.zip_cons_cons, ih]
    rfl

/-- All the calls: the frames are taken one after the other and nothing is held at the
end, or one of the pieces was too many and the connection is to be closed. -/
theorem readCalls_records {messages : List Message} {records : List Bytes} {calls : List (Int × List Bytes)} {part : Bytes}
    (fd : Nat) (holds : Holds messages records part) (cut : part ++ (calls.flatMap Prod.snd).flatten = records.flatten) :
    (fits kInputLimit (records.map List.length) part.length ((calls.flatMap Prod.snd).map List.length) = true ∧
      ∃ clocks, clocks.length = messages.length ∧ ∀ server client, Idle server fd client →
        readCalls fd (withInput fd part server) calls =
          withInput fd [] <$> dispatchAll fd server ((messages.map Message.frame).zip clocks)) ∨
    (fits kInputLimit (records.map List.length) part.length ((calls.flatMap Prod.snd).map List.length) = false ∧
      ∀ server client next, Idle server fd client → readCalls fd (withInput fd part server) calls = .ok next →
        Marked next fd) := by
  induction calls generalizing messages records part with
  | nil =>
    obtain ⟨rfl, rfl⟩ := part_at_end holds.started (by simpa using cut)
    obtain rfl : messages = [] := List.forall₂_nil_right_iff.mp holds.encoded
    exact .inl ⟨rfl, [], rfl, fun _ _ _ => rfl⟩
  | cons call calls ih =>
    rw [List.flatMap_cons] at cut ⊢
    rcases readClient_pieces fd call.1 call.2 _ [] holds (by simpa using cut) with
      ⟨taken, left, records', part', rfl, held, remains, same, read⟩ | ⟨unfit, marks⟩
    · rw [same]
      rcases ih held (by simpa using remains) with ⟨fitting, clocks, many, reads⟩ | ⟨unfit, marks⟩
      · refine .inl ⟨fitting, List.replicate taken.length call.1 ++ clocks, by simp [many], fun server client idle => ?_⟩
        rw [List.map_append, List.zip_append (by simp), zip_replicate, readCalls, List.foldlM_cons, read server client idle,
          bind_map_left]
        exact dispatchAll_append idle reads
      · refine .inr ⟨unfit, fun server client next idle done => ?_⟩
        rw [readCalls, List.foldlM_cons, read server client idle, bind_map_left] at done
        obtain ⟨middle, handled, done⟩ := bind_ok done
        obtain ⟨new, still, _⟩ := dispatchAll_idle idle handled
        exact marks middle new next still done
    · refine .inr ⟨unfit, fun server client next idle done => ?_⟩
      rw [readCalls, List.foldlM_cons] at done
      obtain ⟨middle, first, done⟩ := bind_ok done
      exact readCalls_marked (marks server client middle idle first) done

/-- The stream was read as the frames it is made of, and the connection goes on. -/
def Delivered (client : ClientConnection) (frames : List ControlFrame) (next : RegistryServer) (fd : Nat) : Prop :=
  ∃ still, next.clients[fd]? = some still ∧ Follows frames client still

theorem marked_undelivered {frames : List ControlFrame} (unmarked : client.closeAfterWrite = false) (marked : Marked next fd) :
    ¬Delivered client frames next fd := by
  rintro ⟨still, present, follows⟩
  obtain ⟨other, stands, mark⟩ := marked
  have same : still = other := Option.some.inj (present.symm.trans stands)
  rw [← same, follows.closeAfterWrite, unmarked] at mark
  cases mark

theorem idle_read {outcome : Except Exception RegistryServer}
    (idle : ∀ next, outcome = .ok next → ∃ new, Idle next fd new) : withInput fd [] <$> outcome = outcome := by
  cases outcome with
  | error => rfl
  | ok next =>
    obtain ⟨new, still⟩ := idle next rfl
    have same := withInput_same still.found
    rw [still.empty] at same
    exact congrArg Except.ok same

/-- Frames do not depend on how their stream is cut, if and only if no piece takes the
buffer past the limit. -/
theorem cut_independent {server : RegistryServer} {fd : Nat} {client : ClientConnection}
    (found : server.clients[fd]? = some client) (empty : client.input = []) (unmarked : client.closeAfterWrite = false)
    {messages : List Message} {records : List Bytes} (encoded : List.Forall₂ Encodes messages records) {calls : List (Int × List Bytes)}
    (cut : (calls.flatMap Prod.snd).flatten = records.flatten) :
    (fits kInputLimit (records.map List.length) 0 ((calls.flatMap Prod.snd).map List.length) = true →
      ∃ clocks, clocks.length = messages.length ∧
        readCalls fd server calls = dispatchAll fd server ((messages.map Message.frame).zip clocks)) ∧
    ∀ next, readCalls fd server calls = .ok next →
      (Delivered client (messages.map Message.frame) next fd ↔
        fits kInputLimit (records.map List.length) 0 ((calls.flatMap Prod.snd).map List.length) = true) := by
  have idle : Idle server fd client := ⟨found, empty, unmarked⟩
  have same : withInput fd [] server = server := by
    rw [← empty]
    exact withInput_same found
  rcases readCalls_records fd (.start encoded) (by simpa using cut) with
    ⟨fitting, clocks, many, reads⟩ | ⟨unfit, marks⟩
  · have equal : readCalls fd server calls = dispatchAll fd server ((messages.map Message.frame).zip clocks) := by
      have read := reads server client idle
      rw [same, idle_read fun next done => ?_] at read
      · exact read
      · obtain ⟨new, still, _⟩ := dispatchAll_idle idle done
        exact ⟨new, still⟩
    refine ⟨fun _ => ⟨clocks, many, equal⟩, fun next done => ⟨fun _ => fitting, fun _ => ?_⟩⟩
    rw [equal] at done
    obtain ⟨new, still, follows⟩ := dispatchAll_idle idle done
    refine ⟨new, still.found, ?_⟩
    rw [List.map_fst_zip (by simp [many])] at follows
    exact follows
  · refine ⟨fun fitting => absurd (fitting.symm.trans unfit) (by simp), fun next done => ⟨fun delivered => ?_, fun fitting => ?_⟩⟩
    · exact absurd delivered (marked_undelivered unmarked (marks server client next idle (same.symm ▸ done)))
    · exact absurd (fitting.symm.trans unfit) (by simp)

theorem readClient_buffers {message : Message} {bytes later : Bytes} {chunks : List Bytes} (idle : Idle server fd client)
    (encodes : Encodes message bytes) (cut : chunks.flatten ++ later = bytes) (unfinished : later ≠ [])
    (fitting : fits kInputLimit [bytes.length] 0 (chunks.map List.length) = true) :
    readClient fd now (chunks.map .bytes) (withInput fd [] server) = .ok (withInput fd chunks.flatten server) := by
  have holds : Holds [message] [bytes] [] := .start (.cons encodes .nil)
  rcases readClient_pieces fd now chunks [] later holds (by simpa using cut) with
    ⟨taken, left, records, part, split, held, remains, _, read⟩ | ⟨unfit, _⟩
  · rw [read server client idle]
    cases taken with
    | nil =>
      obtain rfl : left = [message] := split.symm
      obtain ⟨bytes', encodes', rfl⟩ : ∃ bytes', Encodes message bytes' ∧ records = [bytes'] := by
        obtain ⟨bytes', none, encodes', ending, rfl⟩ := List.forall₂_cons_left_iff.mp held.encoded
        obtain rfl := List.forall₂_nil_left_iff.mp ending
        exact ⟨bytes', encodes', rfl⟩
      obtain rfl : bytes = bytes' := Option.some.inj (encodes.symm.trans encodes')
      obtain rfl : part = chunks.flatten := by
        refine List.append_cancel_right (?_ : part ++ later = chunks.flatten ++ later)
        rw [cut]
        simpa using remains
      rfl
    | cons =>
      -- the frame would be complete, with bytes of it still to come
      obtain ⟨rfl, none⟩ := List.cons.inj split
      obtain ⟨rfl, rfl⟩ := List.append_eq_nil_iff.mp none.symm
      obtain rfl := List.forall₂_nil_left_iff.mp held.encoded
      simp [unfinished] at remains
  · simp [fitting] at unfit

/-- The largest frame there is, and a small one after it. -/
def largeMessage : Message := ⟨Opcode.listNodes.value, 1, List.replicate kMaxControlPayloadSize 0⟩

def smallMessage : Message := ⟨Opcode.listNodes.value, 2, []⟩

/-- All of the large frame but its last sixteen bytes, in pieces of 4096 bytes. -/
def firstPieces : List Bytes :=
  (encodeControlHeader largeMessage.frame.header ++ List.replicate 4080 0) :: List.replicate 15 (List.replicate 4096 0)

def lastPiece : Bytes := List.replicate 16 0 ++ encodeControlHeader smallMessage.frame.header

theorem largeMessage_encodes :
    Encodes largeMessage (encodeControlHeader largeMessage.frame.header ++ List.replicate kMaxControlPayloadSize 0) := by
  simp [Encodes, encodeControlFrame, largeMessage, Message.frame, controlFrame]

theorem smallMessage_encodes : Encodes smallMessage (encodeControlHeader smallMessage.frame.header) := by
  simp [Encodes, encodeControlFrame, smallMessage, Message.frame, controlFrame]

theorem pieces_cut : (firstPieces ++ [lastPiece]).flatten =
    [encodeControlHeader largeMessage.frame.header ++ List.replicate kMaxControlPayloadSize 0,
      encodeControlHeader smallMessage.frame.header].flatten := by
  simp only [firstPieces, lastPiece, List.cons_append, List.flatten_cons, List.flatten_append, List.flatten_replicate_replicate,
    List.flatten_nil, List.append_nil, List.append_assoc, List.append_cancel_left_eq]
  rw [← List.append_assoc, List.replicate_append_replicate, ← List.append_assoc, List.replicate_append_replicate]
  rfl

theorem large_cut : firstPieces.flatten ++ List.replicate 16 0 =
    encodeControlHeader largeMessage.frame.header ++ List.replicate kMaxControlPayloadSize 0 := by
  simp only [firstPieces, List.flatten_cons, List.flatten_replicate_replicate, List.append_assoc,
    List.replicate_append_replicate]
  rfl

theorem firstPieces_lengths : firstPieces.map List.length = List.replicate 16 4096 := by
  simp only [firstPieces, List.map_cons, List.length_append, encodeControlHeader_length, List.length_replicate,
    List.map_replicate]
  rfl

theorem lastPiece_length : lastPiece.length = 32 := by
  rw [lastPiece, List.length_append, encodeControlHeader_length, List.length_replicate]
  rfl

theorem firstPieces_fit : fits kInputLimit
    [(encodeControlHeader largeMessage.frame.header ++ List.replicate kMaxControlPayloadSize (0 : UInt8)).length] 0
    (firstPieces.map List.length) = true := by
  rw [firstPieces_lengths, List.length_append, encodeControlHeader_length, List.length_replicate]
  decide

/-- The last piece completes the large frame, but brings the small one with it. -/
theorem pieces_refused (idle : Idle server fd client) :
    readCalls fd server [(now, firstPieces), (now, [lastPiece])] =
      .ok ((withInput fd (firstPieces.flatten ++ lastPiece) server).refuseInput fd 0 .messageTooLarge) := by
  have size : firstPieces.flatten.length + lastPiece.length = 65568 := by
    rw [List.length_flatten, firstPieces_lengths, lastPiece_length]
    rfl
  have same : withInput fd [] server = server := by
    rw [← idle.empty]
    exact withInput_same idle.found
  have buffered := @readClient_buffers _ _ _ now _ _ _ _ idle largeMessage_encodes large_cut (by simp) firstPieces_fit
  have refused := @readClient_overflow _ _ _ now firstPieces.flatten lastPiece [] idle.found (by rw [size]; decide)
  rw [same] at buffered
  simp only [readCalls, List.foldlM_cons, List.foldlM_nil, buffered, bind, Except.bind, List.map_cons, List.map_nil,
    refused, pure, Except.pure]

theorem pieces_length {piece : Bytes} (member : piece ∈ firstPieces ++ [lastPiece]) :
    0 < piece.length ∧ piece.length ≤ kReceiveBufferSize := by
  rcases List.mem_append.mp member with first | last
  · have length : piece.length ∈ firstPieces.map List.length := List.mem_map_of_mem first
    rw [firstPieces_lengths] at length
    rw [List.eq_of_mem_replicate length]
    decide
  · rw [List.mem_singleton.mp last, lastPiece_length]
    decide

/-- Two frames are refused as too large, though neither is. -/
theorem cut_refused :
    ∃ server client next records, RegistryServer.create {} = .ok { state := { liveness := {} } } ∧
      execute step { state := { liveness := {} } } [.accept 1] = some server ∧
      server.clients[1]? = some client ∧ client.input = [] ∧ client.closeAfterWrite = false ∧
      List.Forall₂ Encodes [largeMessage, smallMessage] records ∧ (firstPieces ++ [lastPiece]).flatten = records.flatten ∧
      (∀ piece ∈ firstPieces ++ [lastPiece], 0 < piece.length ∧ piece.length ≤ kReceiveBufferSize) ∧
      readCalls 1 server [(0, firstPieces), (0, [lastPiece])] = .ok next ∧ Marked next 1 ∧
      ¬Delivered client ([largeMessage, smallMessage].map Message.frame) next 1 := by
  have created : RegistryServer.create {} = .ok { state := { liveness := {} } } := rfl
  have opened : execute step { state := { liveness := {} } } [.accept 1] =
      some (acceptConnection { state := { liveness := {} } } 1) := by simp [execute, step]
  have found : (acceptConnection { state := { liveness := {} } } 1).clients[1]? = some { connectionId := 1 } :=
    ExtTreeMap.getElem?_insert_self
  have marked := refuseInput_marked (withInput_found found (firstPieces.flatten ++ lastPiece)) 0 .messageTooLarge
  exact ⟨_, _, _, _, created, opened, found, rfl, rfl, .cons largeMessage_encodes (.cons smallMessage_encodes .nil), pieces_cut,
    fun _ => pieces_length, pieces_refused ⟨found, rfl, rfl⟩, marked, marked_undelivered rfl marked⟩

/-- A request in three pieces, and the next one with the last of them. -/
def cutMessages : List Message :=
  [⟨Opcode.registerNode.value, 1, Request.payload (.registerNode [97])⟩, smallMessage]

def cutRecords : List Bytes := [sentBytes 1 (.registerNode [97]), sentBytes 2 .listNodes]

def cutCalls : List (Int × List Bytes) :=
  [(0, [cutRecords.flatten.take 7, (cutRecords.flatten.drop 7).take 10]), (5, [cutRecords.flatten.drop 17])]

theorem cut_independent_calls :
    ∃ server client next clocks, execute step { state := { liveness := {} } } [.accept 1] = some server ∧
      server.clients[1]? = some client ∧ readCalls 1 server cutCalls = .ok next ∧
      dispatchAll 1 server ((cutMessages.map Message.frame).zip clocks) = .ok next ∧
      Delivered client (cutMessages.map Message.frame) next 1 := by
  have seen : ((execute step { state := { liveness := {} } } [.accept 1]).bind fun server =>
      (server.clients[1]?).bind fun client => (readCalls 1 server cutCalls).toOption.map fun _ =>
        (client.input, client.closeAfterWrite)) = some ([], false) := by decide +kernel
  obtain ⟨server, run, seen⟩ := Option.bind_eq_some_iff.mp seen
  obtain ⟨client, found, seen⟩ := Option.bind_eq_some_iff.mp seen
  obtain ⟨next, read, same⟩ := Option.map_eq_some_iff.mp seen
  obtain ⟨empty, unmarked⟩ := Prod.mk.inj same
  have read := toOption_some read
  have encoded : List.Forall₂ Encodes cutMessages cutRecords := .cons rfl (.cons rfl .nil)
  have cut : (cutCalls.flatMap Prod.snd).flatten = cutRecords.flatten := by decide +kernel
  have fitting : fits kInputLimit (cutRecords.map List.length) 0 ((cutCalls.flatMap Prod.snd).map List.length) = true := by
    decide +kernel
  obtain ⟨independent, delivered⟩ := cut_independent found empty unmarked encoded cut
  obtain ⟨clocks, _, equal⟩ := independent fitting
  exact ⟨server, client, next, clocks, run, found, read, equal ▸ read, (delivered next read).mpr fitting⟩

end RobotMiddleware.Proofs.CutStreams
