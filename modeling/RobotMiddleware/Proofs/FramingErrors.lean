import RobotMiddleware.Proofs.PendingDiscoveries

/-! A framing error ends the input of a connection: the buffer is cleared, and the
connection is marked to be closed once its reply is written. The next readable event
may come before that, and then the server reads on. The bytes that follow are the
start of a new frame to it. -/

namespace RobotMiddleware.Proofs.FramingErrors
open Std Lib.Outcome Lib.Transitions RegistryServer RegistryOwnership ServerEffects PollLoop PendingDiscoveries

/-- The second entry may follow the first one: no request follows a framing error. -/
def heeds : JournalEntry → JournalEntry → Bool
  | .malformed _, .received _ => false
  | _, _ => true

def Quiet (journal : List JournalEntry) : Prop := journal.Pairwise fun first last => heeds first last = true

def Faulted (journal : List JournalEntry) : Prop := ∃ requestId, .malformed requestId ∈ journal

structure Halted (client : ClientConnection) : Prop where
  marked : Faulted client.journal → client.closeAfterWrite = true
  quiet : Quiet client.journal

def AllHalted (server : RegistryServer) : Prop :=
  ∀ (fd : Nat) (client : ClientConnection), server.clients[fd]? = some client → Halted client

def Clean (server : RegistryServer) (fd : Nat) : Prop :=
  ∀ client, server.clients[fd]? = some client → ¬Faulted client.journal

/-- No `recv` on a connection with a framing error completes a frame. -/
def LeavesFaulted (server : RegistryServer) : ServerEvent → Prop
  | .ready fd (some results) _ _ _ => ∀ client, server.clients[fd]? = some client → Faulted client.journal →
      ∀ chunk frame rest, .bytes chunk ∈ results → front (client.input ++ chunk) ≠ .frame frame rest
  | _ => True

structure Untouched (before after : RegistryServer) : Prop where
  state : after.state = before.state
  pending : after.pending = before.pending
  peerEvents : after.peerEvents = before.peerEvents

variable {server before middle after next : RegistryServer} {fd : Nat} {client : ClientConnection} {now : Int}
  {journal : List JournalEntry}

theorem Untouched.refl (server : RegistryServer) : Untouched server server := ⟨rfl, rfl, rfl⟩

theorem Untouched.trans (first : Untouched before middle) (last : Untouched middle after) : Untouched before after :=
  ⟨last.state.trans first.state, last.pending.trans first.pending, last.peerEvents.trans first.peerEvents⟩

theorem untouched_refuse (server : RegistryServer) (fd : Nat) (requestId : UInt32) (error : ErrorCode) :
    Untouched server (server.refuseInput fd requestId error) := by
  constructor <;> simp [refuseInput]

theorem Quiet.append (quiet : Quiet journal) {more : List JournalEntry}
    (only : ∀ entry ∈ more, ∀ frame, entry ≠ .received frame) : Quiet (journal ++ more) := by
  have heeded : ∀ first, ∀ last ∈ more, heeds first last = true := by
    intro first last late
    cases last with
    | received frame => exact absurd rfl (only _ late frame)
    | malformed _ | answered _ _ | withdrawn _ => cases first <;> rfl
  rw [Quiet, List.pairwise_append]
  refine ⟨quiet, ?_, fun first _ last late => heeded first last late⟩
  exact List.pairwise_iff_forall_sublist.mpr fun pair => heeded _ _ (pair.subset (by simp))

theorem Quiet.received (quiet : Quiet journal) (clean : ¬Faulted journal) (frame : ControlFrame) :
    Quiet (journal ++ [.received frame]) := by
  rw [Quiet, List.pairwise_append]
  refine ⟨quiet, List.pairwise_singleton _ _, fun first early last late => ?_⟩
  cases first with
  | malformed requestId => exact absurd ⟨requestId, early⟩ clean
  | received _ | answered _ _ | withdrawn _ => cases last <;> rfl

section Connections

variable {new : ClientConnection} {passes : Nat}

theorem Continues.faulted (continues : Continues IsReply client new) : Faulted new.journal ↔ Faulted client.journal := by
  obtain ⟨replies, appended, only⟩ := continues.journal
  rw [appended]
  constructor
  · rintro ⟨requestId, member⟩
    rcases List.mem_append.mp member with early | late
    · exact ⟨requestId, early⟩
    · exact (only _ late).elim
  · rintro ⟨requestId, member⟩
    exact ⟨requestId, List.mem_append_left _ member⟩

theorem Halted.continues (halted : Halted client) (continues : Continues IsReply client new) : Halted new := by
  refine ⟨fun faulted => ?_, ?_⟩
  · rw [continues.closeAfterWrite]
    exact halted.marked ((Continues.faulted continues).mp faulted)
  · obtain ⟨replies, appended, only⟩ := continues.journal
    rw [appended]
    refine halted.quiet.append fun entry member frame same => ?_
    subst same
    exact (only _ member).elim

theorem AllHalted.trims (halted : AllHalted before) (trims : Trims before after) : AllHalted after := by
  intro fd new found
  obtain ⟨old, stood, continues⟩ := trims fd new found
  exact (halted fd old stood).continues continues

theorem AllHalted.setClient (halted : AllHalted server) (kept : Halted new) : AllHalted (server.setClient fd new) := by
  intro other record found
  simp only [RegistryServer.setClient, ExtTreeMap.getElem?_insert] at found
  split at found
  · cases found
    exact kept
  · exact halted other record found

theorem AllHalted.transfer (halted : AllHalted server) (found : server.clients[fd]? = some client)
    (input output : Bytes) (outputOffset : Nat) {closeAfterWrite : Bool}
    (mark : client.closeAfterWrite = true → closeAfterWrite = true) :
    AllHalted (server.setClient fd { client with input, output, outputOffset, closeAfterWrite }) := by
  have kept := halted fd client found
  exact halted.setClient ⟨fun faulted => mark (kept.marked faulted), kept.quiet⟩

theorem AllHalted.refuse (halted : AllHalted server) (requestId : UInt32) (error : ErrorCode) :
    AllHalted (server.refuseInput fd requestId error) := by
  intro other new found
  rw [refuseInput, modifyClient_clients, queueResponse, modifyClient_clients, modifyClient_clients] at found
  by_cases same : other = fd
  · subst other
    simp only [ite_true, Option.map_map] at found
    obtain ⟨client, stood, rfl⟩ := Option.map_eq_some_iff.mp found
    refine ⟨fun _ => rfl, ?_⟩
    simp only [Function.comp, note, List.append_assoc]
    exact (halted fd client stood).quiet.append (by simp)
  · simp only [same, ite_false] at found
    exact halted other new found

theorem clean_setClient (clean : ¬Faulted new.journal) : Clean (server.setClient fd new) fd := by
  intro client found
  rw [RegistryServer.setClient, ExtTreeMap.getElem?_insert_self] at found
  cases found
  exact clean

end Connections

section Reading

theorem frame_halted (halted : AllHalted server) (clean : Clean server fd)
    (found : server.clients[fd]? = some client) {frame : ControlFrame} {rest : Bytes}
    (done : (server.setClient fd (note (.received frame) { client with input := rest })).handleFrame fd
      client.connectionId frame now = .ok next) : AllHalted next ∧ Clean next fd := by
  have kept := halted fd client found
  have unfaulted : ¬Faulted (note (.received frame) { client with input := rest }).journal := by
    rintro ⟨requestId, member⟩
    exact clean client found ⟨requestId, by simpa [note] using member⟩
  have trims := (effect_attends (handleFrame_effect done).1).trims
  refine ⟨(halted.setClient ⟨fun faulted => absurd faulted unfaulted, ?_⟩).trims trims, fun new present => ?_⟩
  · exact kept.quiet.received (clean client found) frame
  · obtain ⟨old, stood, continues⟩ := trims fd new present
    rw [Continues.faulted continues]
    exact clean_setClient unfaulted old stood

theorem parseFrames_halted (halted : AllHalted server) (clean : Clean server fd)
    (done : parseFrames fd now passes server = .ok next) : AllHalted next := by
  rcases @parseFrames_rule server next fd now (fun server => AllHalted server ∧ Clean server fd) passes ⟨halted, clean⟩
    (fun _ _ _ _ _ held found _ handled => frame_halted held.1 held.2 found handled) done with
    ⟨kept, _⟩ | ⟨last, client, requestId, error, ⟨kept, _⟩, _, rfl⟩
  · exact kept
  · exact kept.refuse requestId error

theorem parseFrames_frameless (found : server.clients[fd]? = some client)
    (frameless : ∀ frame rest, front client.input ≠ .frame frame rest) (done : parseFrames fd now passes server = .ok next) :
    next = server ∨ ∃ requestId error, next = server.refuseInput fd requestId error := by
  refine (@parseFrames_rule server next fd now (· = server) passes rfl ?_ done).imp_right ?_
  · rintro _ other frame rest _ rfl again ahead _
    rw [found] at again
    cases again
    exact absurd ahead (frameless frame rest)
  · rintro ⟨_, _, requestId, error, rfl, _, same⟩
    exact ⟨requestId, error, same⟩

end Reading

section Events
variable {origin : RegistryServer} {arrived : Option (List ReceiveResult)} {output : Option (List SendResult)} {hangUp : Bool}

/-- A piece that comes after a framing error is put away or refused. -/
theorem parsed_faulted {chunk : Bytes} {passes : Nat} (leaves : LeavesFaulted origin (.ready fd arrived output hangUp now))
    (faulted : ∀ client, origin.clients[fd]? = some client → Faulted client.journal) (marked : client.closeAfterWrite = true)
    (entry : client.closeAfterWrite = true →
      origin.clients[fd]? = some client ∧ ∃ results, arrived = some results ∧ .bytes chunk ∈ results)
    (parsed : parseFrames fd now passes (server.setClient fd { client with input := client.input ++ chunk }) = .ok next) :
    next = server.setClient fd { client with input := client.input ++ chunk } ∨ ∃ requestId error,
      next = (server.setClient fd { client with input := client.input ++ chunk }).refuseInput fd requestId error := by
  obtain ⟨came, results, rfl, member⟩ := entry marked
  exact parseFrames_frameless ExtTreeMap.getElem?_insert_self
    (fun frame rest => leaves client came (faulted client came) chunk frame rest member) parsed

theorem turn_halted (leaves : LeavesFaulted origin (.ready fd arrived output hangUp now))
    (turn : Turn origin arrived fd now server next) (halted : AllHalted server) : AllHalted next := by
  cases turn with
  | moved found stays => exact halted.transfer found _ _ _ stays
  | overflow found => exact (halted.transfer found _ _ _ id).refuse 0 .messageTooLarge
  | @parsed client chunk _ _ found entry parsed =>
    have buffered := halted.transfer found (client.input ++ chunk) client.output client.outputOffset id
    by_cases faulted : Faulted client.journal
    · have marked := (halted fd client found).marked faulted
      have only : ∀ other, origin.clients[fd]? = some other → Faulted other.journal := fun other came => by
        rw [(entry marked).1] at came
        cases came
        exact faulted
      rcases parsed_faulted leaves only marked entry parsed with rfl | ⟨requestId, error, rfl⟩
      · exact buffered
      · exact buffered.refuse requestId error
    · exact parseFrames_halted buffered (clean_setClient faulted) parsed
  | removed done => exact halted.trims (removeClient_trims done).1

/-- The tables are as they were, and the connection waits for its end or has come to it. -/
def Ends (origin : RegistryServer) (fd : Nat) (server : RegistryServer) : Prop :=
  (Untouched origin server ∧ ∃ client, server.clients[fd]? = some client ∧ client.closeAfterWrite = true) ∨
    ∃ last, Untouched origin last ∧ last.removeClient fd = .ok server ∧ server.clients[fd]? = none

theorem turn_ends (leaves : LeavesFaulted origin (.ready fd arrived output hangUp now))
    (faulted : ∀ client, origin.clients[fd]? = some client → Faulted client.journal)
    (turn : Turn origin arrived fd now server next) (ends : Ends origin fd server) : Ends origin fd next := by
  have changed (client : ClientConnection) : Untouched server (server.setClient fd client) := ⟨rfl, rfl, rfl⟩
  rcases ends with ⟨same, client, stands, marked⟩ | ⟨last, same, removed, gone⟩
  · cases turn with
    | moved found stays =>
      rw [stands] at found
      cases found
      exact .inl ⟨same.trans (changed _), _, ExtTreeMap.getElem?_insert_self, stays marked⟩
    | overflow found =>
      exact .inl ⟨same.trans ((changed _).trans (untouched_refuse _ _ _ _)),
        refuseInput_marked ExtTreeMap.getElem?_insert_self 0 .messageTooLarge⟩
    | parsed found entry parsed =>
      rw [stands] at found
      cases found
      rcases parsed_faulted leaves faulted marked entry parsed with rfl | ⟨requestId, error, rfl⟩
      · exact .inl ⟨same.trans (changed _), _, ExtTreeMap.getElem?_insert_self, marked⟩
      · exact .inl ⟨same.trans ((changed _).trans (untouched_refuse _ _ _ _)),
          refuseInput_marked ExtTreeMap.getElem?_insert_self requestId error⟩
    | removed done => exact .inr ⟨server, same, done, (removeClient_trims done).2⟩
  · cases turn with
    | moved found | overflow found | parsed found =>
      rw [gone] at found
      cases found
    | removed done =>
      simp only [removeClient, gone] at done
      cases done
      exact .inr ⟨last, same, removed, gone⟩

theorem step_halted {event : ServerEvent} (halted : AllHalted server)
    (leaves : LeavesFaulted server event) (taken : step server event = some next) : AllHalted next := by
  cases event with
  | accept fd =>
    simp only [step] at taken
    split at taken
    · cases taken
    · cases taken
      have opened : Halted { connectionId := server.nextConnectionId } := by
        refine ⟨fun faulted => ?_, List.Pairwise.nil⟩
        obtain ⟨_, member⟩ := faulted
        cases member
      exact halted.setClient opened
  | ready =>
    simp only [step] at taken
    split at taken
    · exact chain_keeps (turn_halted leaves) (handleEvent_turns (toOption_some taken)) halted
    · cases taken
  | expire now => exact halted.trims (expireDeadNodes_trims (toOption_some taken))

end Events

/-- After a framing error, no byte of the connection is taken for a request, and
nothing but the end of the connection changes the registry on its behalf. -/
theorem nothing_after_fault {liveness : LivenessConfig} {start server : RegistryServer} {events : List ServerEvent}
    (created : RegistryServer.create liveness = .ok start) (leaves : Along step LeavesFaulted start events)
    (run : execute step start events = some server) {fd : Nat} {client : ClientConnection}
    (found : server.clients[fd]? = some client) : Quiet client.journal ∧
    (Faulted client.journal → ∀ input output hangUp now next,
      LeavesFaulted server (.ready fd input output hangUp now) →
      step server (.ready fd input output hangUp now) = some next →
      Untouched server next ∨
        ∃ last, Untouched server last ∧ last.removeClient fd = .ok next ∧ next.clients[fd]? = none) := by
  have begins : AllHalted start := by
    intro other client present
    simp [create_clients created] at present
  have halted := leaves.invariant (fun _ _ _ held leave taken => step_halted held leave taken) begins run
  refine ⟨(halted fd client found).quiet, fun faulted input output hangUp now next leave taken => ?_⟩
  simp only [step] at taken
  split at taken
  · have only : ∀ other, server.clients[fd]? = some other → Faulted other.journal := fun other again => by
      rw [found] at again
      cases again
      exact faulted
    have waits : Ends server fd server := .inl ⟨.refl server, client, found, (halted fd client found).marked faulted⟩
    have ended : Ends server fd next := chain_keeps (turn_ends leave only) (handleEvent_turns (toOption_some taken)) waits
    exact ended.imp_left And.left
  · cases taken

/-- A header of zeros, then a request, before the reply is written. -/
def brokenRun : List ServerEvent :=
  [.accept 1, .ready 1 (some [.bytes (List.replicate 16 0)]) none false 0, sends 1 7 (.registerNode [97])]

instance (journal : List JournalEntry) : Decidable (Quiet journal) := inferInstanceAs (Decidable (List.Pairwise _ _))

/-- The request that follows the framing error is performed. -/
theorem request_after_fault :
    ∃ server client, RegistryServer.create {} = .ok { state := { liveness := {} } } ∧
      execute step { state := { liveness := {} } } brokenRun = some server ∧ server.clients[1]? = some client ∧
      ¬Quiet client.journal ∧ 1 ∈ server.state.nodes := by
  have seen : ((execute step { state := { liveness := {} } } brokenRun).bind fun server =>
      (server.clients[1]?).map fun client => (decide (Quiet client.journal), server.state.nodes.contains 1)) =
      some (false, true) := by decide +kernel
  obtain ⟨server, run, seen⟩ := Option.bind_eq_some_iff.mp seen
  obtain ⟨client, found, same⟩ := Option.map_eq_some_iff.mp seen
  simp only [Prod.mk.injEq, decide_eq_false_iff_not] at same
  exact ⟨server, client, rfl, run, found, same.1, ExtTreeMap.contains_iff_mem.mp same.2⟩

def leavesFaulted (server : RegistryServer) : ServerEvent → Bool
  | .ready fd (some results) _ _ _ => (server.clients[fd]?).all fun client =>
      client.journal.all (fun | .malformed _ => false | _ => true) ||
        results.all fun
          | .bytes chunk => match front (client.input ++ chunk) with
            | .frame _ _ => false
            | _ => true
          | _ => true
  | _ => true

theorem leavesFaulted_sound (server : RegistryServer) (event : ServerEvent) (checked : leavesFaulted server event = true) :
    LeavesFaulted server event := by
  match event with
  | .accept _ | .expire _ | .ready _ none _ _ _ => trivial
  | .ready fd (some results) _ _ _ =>
    rintro client found ⟨requestId, member⟩ chunk frame rest arrives complete
    simp only [leavesFaulted, found, Option.all_some, Bool.or_eq_true, List.all_eq_true] at checked
    rcases checked with clean | frameless
    · exact absurd (clean _ member) (by simp)
    · exact absurd (frameless _ arrives) (by simp [complete])

/-- A request, a header of zeros, and three bytes more. -/
def haltedRun : List ServerEvent :=
  [.accept 1, sends 1 7 (.registerNode [97]), .ready 1 (some [.bytes (List.replicate 16 0)]) none false 0,
    .ready 1 (some [.bytes [1, 2, 3]]) none false 0]

theorem nothing_after_fault_halted :
    ∃ server client, execute step { state := { liveness := {} } } haltedRun = some server ∧
      server.clients[1]? = some client ∧ Quiet client.journal ∧ Faulted client.journal ∧ 1 ∈ server.state.nodes := by
  have seen : ((execute step { state := { liveness := {} } } haltedRun).bind fun server =>
      (server.clients[1]?).map fun client => (client.journal.contains (.malformed 0), server.state.nodes.contains 1)) =
      some (true, true) := by decide +kernel
  obtain ⟨server, run, seen⟩ := Option.bind_eq_some_iff.mp seen
  obtain ⟨client, found, same⟩ := Option.map_eq_some_iff.mp seen
  simp only [Prod.mk.injEq, List.contains_iff_mem] at same
  have leaves : Along step LeavesFaulted { state := { liveness := {} } } haltedRun :=
    along_of_check leavesFaulted_sound (by decide +kernel)
  have created : RegistryServer.create {} = .ok { state := { liveness := {} } } := rfl
  exact ⟨server, client, run, found, (nothing_after_fault created leaves run found).1, ⟨0, same.1⟩,
    ExtTreeMap.contains_iff_mem.mp same.2⟩

end RobotMiddleware.Proofs.FramingErrors
