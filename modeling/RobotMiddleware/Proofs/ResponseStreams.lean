import RobotMiddleware.Lib.Transitions
import RobotMiddleware.Proofs.MessageBodies

/-! Requests one after the other on one connection. A request that gives up leaves
its response in the stream, and the next one takes what it finds there for its own.
Without such remains, or as long as they do not make up a whole frame in time, a
request ends with its own response or without any. -/

namespace RobotMiddleware.Proofs.ResponseStreams
open Lib.Transitions RegistryClient RegistryServer ControlFrames MessageBodies

def arriving : List ReadAnswer → Nat
  | [] => 0
  | .received arrived _ :: answers => arrived + arriving answers
  | _ :: answers => arriving answers

def Incoming.Sound (stream : Incoming) : Prop := stream.arrived ≤ stream.bytes.length

def Lost (exception : Exception) : Prop :=
  ∃ what, exception = .middleware .connectionLost what ∨ exception = .middleware .ioError what

def TimedOut (exception : Exception) : Prop := exception = .middleware .timeout "registry response timed out"

variable {timeout : Int} {size : Nat} {answers left : List ReadAnswer} {buffer data : Bytes} {stream rest : Incoming}

structure Taken (count : Nat) (answers left : List ReadAnswer) (stream rest : Incoming) : Prop where
  there : count ≤ stream.bytes.length
  bytes : rest.bytes = stream.bytes.drop count
  arrived : rest.arrived + arriving left + count = stream.arrived + arriving answers

def passSize (size : Nat) (buffer : Bytes) (stream : Incoming) (arrived more : Nat) : Nat :=
  min (min (more + 1) (size - buffer.length)) (stream.arrived + arrived)

/-- How `readWithDeadline` comes to its end. An answer that ends it does so whatever
answers would come after it. -/
inductive Reads (timeout : Int) (size : Nat) :
    List ReadAnswer → Bytes → Incoming → Except Exception Bytes → List ReadAnswer → Incoming → Prop where
  | full {answers : List ReadAnswer} {buffer : Bytes} {stream : Incoming} (full : size ≤ buffer.length) :
      Reads timeout size answers buffer stream (.ok buffer) answers stream
  | pass {answers left : List ReadAnswer} {buffer : Bytes} {stream rest : Incoming} {read : Except Exception Bytes}
      {arrived more count : Nat} (wanting : ¬ size ≤ buffer.length) (sent : stream.arrived + arrived ≤ stream.bytes.length)
      (taken : passSize size buffer stream arrived more = count)
      (goes : Reads timeout size answers (buffer ++ stream.bytes.take count)
        ⟨stream.bytes.drop count, stream.arrived + arrived - count⟩ read left rest) :
      Reads timeout size (.received arrived more :: answers) buffer stream read left rest
  | again {answers left : List ReadAnswer} {buffer : Bytes} {stream rest : Incoming} {read : Except Exception Bytes}
      (wanting : ¬ size ≤ buffer.length) (goes : Reads timeout size answers buffer stream read left rest) :
      Reads timeout size (.again :: answers) buffer stream read left rest
  | fails {answer : ReadAnswer} {answers : List ReadAnswer} {buffer : Bytes} {stream : Incoming} {thrown : Exception}
      (wanting : ¬ size ≤ buffer.length) (ends : Lost thrown ∨ TimedOut thrown ∧ stream.arrived = 0)
      (silent : arriving (answer :: answers) = arriving answers)
      (always : ∀ others, readWithDeadline timeout size (answer :: others) buffer stream =
        some (.error thrown, others, stream)) :
      Reads timeout size (answer :: answers) buffer stream (.error thrown) answers stream

theorem readWithDeadline_full (full : size ≤ buffer.length) :
    readWithDeadline timeout size answers buffer stream = some (.ok buffer, answers, stream) := by
  unfold readWithDeadline
  exact if_pos full

theorem readWithDeadline_again (wanting : ¬ size ≤ buffer.length) :
    readWithDeadline timeout size (.again :: answers) buffer stream = readWithDeadline timeout size answers buffer stream := by
  conv_lhs => unfold readWithDeadline
  rw [if_neg wanting]

section Pass
variable {arrived more count : Nat} (taken : passSize size buffer stream arrived more = count)
include taken

theorem readWithDeadline_pass (timeout : Int) (answers : List ReadAnswer) (wanting : ¬ size ≤ buffer.length)
    (sent : stream.arrived + arrived ≤ stream.bytes.length) :
    readWithDeadline timeout size (.received arrived more :: answers) buffer stream =
      readWithDeadline timeout size answers (buffer ++ stream.bytes.take count)
        ⟨stream.bytes.drop count, stream.arrived + arrived - count⟩ := by
  conv_lhs => unfold readWithDeadline
  rw [if_neg wanting]
  simp only [if_neg (Nat.not_lt.mpr sent), ← taken, passSize]

theorem pass_length (sent : stream.arrived + arrived ≤ stream.bytes.length) :
    (buffer ++ stream.bytes.take count).length = buffer.length + count ∧ count ≤ size - buffer.length ∧
      count ≤ stream.arrived + arrived := by
  rw [passSize] at taken
  rw [List.length_append, List.length_take, Nat.min_eq_left (by omega)]
  omega

end Pass

theorem readWithDeadline_reads {read : Except Exception Bytes}
    (done : readWithDeadline timeout size answers buffer stream = some (read, left, rest)) :
    Reads timeout size answers buffer stream read left rest := by
  induction answers generalizing buffer stream with
  | nil =>
    unfold readWithDeadline at done
    split at done <;> cases done
    next full => exact .full full
  | cons answer answers ih =>
    by_cases full : size ≤ buffer.length
    · rw [readWithDeadline_full full] at done
      cases done
      exact .full full
    cases answer with
    | received arrived more =>
      by_cases sent : stream.arrived + arrived ≤ stream.bytes.length
      · rw [readWithDeadline_pass rfl timeout answers full sent] at done
        exact .pass full sent rfl (ih done)
      · simp [readWithDeadline, full, sent] at done
    | again =>
      rw [readWithDeadline_again full] at done
      exact .again full (ih done)
    | timedOut =>
      by_cases early : timeout < 0 ∨ stream.arrived ≠ 0
      · simp [readWithDeadline, full, early] at done
      · have always others : readWithDeadline timeout size (.timedOut :: others) buffer stream =
            some (.error (.middleware .timeout "registry response timed out"), others, stream) := by
          simp [readWithDeadline, full, early]
        rw [always] at done
        cases done
        exact .fails full (.inr ⟨rfl, by omega⟩) rfl always
    | closed =>
      by_cases early : stream.arrived ≠ 0
      · simp [readWithDeadline, full, early] at done
      · have always others : readWithDeadline timeout size (.closed :: others) buffer stream =
            some (.error (.middleware .connectionLost "registry connection closed"), others, stream) := by
          simp [readWithDeadline, full, early]
        rw [always] at done
        cases done
        exact .fails full (.inl ⟨_, .inl rfl⟩) rfl always
    | invalid | lost =>
      simp only [readWithDeadline, full, ite_false] at done
      cases done
      exact .fails full (.inl ⟨_, .inl rfl⟩) rfl fun others => by simp only [readWithDeadline, full, ite_false]
    | pollFailed | failed =>
      simp only [readWithDeadline, full, ite_false] at done
      cases done
      exact .fails full (.inl ⟨_, .inr rfl⟩) rfl fun others => by simp only [readWithDeadline, full, ite_false]

section Reads
variable {read : Except Exception Bytes} (reads : Reads timeout size answers buffer stream read left rest)
include reads

theorem Reads.sound (sound : Incoming.Sound stream) : Incoming.Sound rest := by
  induction reads with
  | full | fails => exact sound
  | again _ _ ih => exact ih sound
  | pass wanting sent taken _ ih =>
    refine ih ?_
    simp only [Incoming.Sound, List.length_drop]
    omega

theorem Reads.taken (done : read = .ok data) (within : buffer.length ≤ size) :
    data = buffer ++ stream.bytes.take (size - buffer.length) ∧ Taken (size - buffer.length) answers left stream rest := by
  induction reads with
  | full full =>
    cases done
    rw [Nat.sub_eq_zero_of_le full]
    exact ⟨by simp, Nat.zero_le _, by simp, by omega⟩
  | again _ _ ih =>
    obtain ⟨whole, taken⟩ := ih done within
    exact ⟨whole, taken.there, taken.bytes, taken.arrived⟩
  | fails => cases done
  | @pass _ _ buffer stream _ _ arrived more count wanting sent taken _ ih =>
    -- The pass takes a first part, and the rest of the loop what is still missing.
    obtain ⟨length, part, there⟩ := pass_length taken sent
    obtain ⟨whole, taken⟩ := ih done (by omega)
    rw [length, Nat.sub_add_eq] at whole taken
    have split : stream.bytes.take (size - buffer.length) =
        stream.bytes.take count ++ (stream.bytes.drop count).take (size - buffer.length - count) := by
      rw [← List.take_add]
      congr 1
      omega
    refine ⟨by rw [whole, split, List.append_assoc], ?_, ?_, ?_⟩
    · have more := taken.there
      rw [List.length_drop] at more
      omega
    · rw [taken.bytes, List.drop_drop]
      congr 1
      omega
    · have total := taken.arrived
      simp only [arriving] at total ⊢
      omega

theorem Reads.failed {thrown : Exception} (done : read = .error thrown) (within : buffer.length ≤ size) :
    Lost thrown ∨ TimedOut thrown ∧ stream.arrived + arriving answers < size - buffer.length + arriving left := by
  induction reads with
  | full => cases done
  | again _ _ ih => exact ih done within
  | fails wanting ends silent =>
    cases done
    refine ends.imp_right fun ⟨up, nothing⟩ => ⟨up, ?_⟩
    rw [silent, nothing]
    omega
  | pass wanting sent taken _ ih =>
    obtain ⟨length, part, there⟩ := pass_length taken sent
    refine (ih done (by omega)).imp_right fun ⟨up, short⟩ => ⟨up, ?_⟩
    simp only [length, arriving] at short ⊢
    omega

theorem Reads.used :
    ∃ used, answers = used ++ left ∧
      ∀ other, readWithDeadline timeout size (used ++ other) buffer stream = some (read, other, rest) := by
  induction reads with
  | full full => exact ⟨[], rfl, fun _ => readWithDeadline_full full⟩
  | fails _ _ _ always => exact ⟨[_], rfl, always⟩
  | again wanting _ ih =>
    obtain ⟨used, rfl, same⟩ := ih
    exact ⟨.again :: used, rfl, fun other => (readWithDeadline_again wanting).trans (same other)⟩
  | pass wanting sent taken _ ih =>
    obtain ⟨used, rfl, same⟩ := ih
    exact ⟨.received _ _ :: used, rfl, fun other => (readWithDeadline_pass taken timeout _ wanting sent).trans (same other)⟩

end Reads

theorem readWithDeadline_ok (done : readWithDeadline timeout size answers [] stream = some (.ok data, left, rest)) :
    data = stream.bytes.take size ∧ Taken size answers left stream rest :=
  (readWithDeadline_reads done).taken rfl (Nat.zero_le _)

theorem readWithDeadline_error {thrown : Exception}
    (done : readWithDeadline timeout size answers [] stream = some (.error thrown, [], rest)) :
    Lost thrown ∨ TimedOut thrown ∧ stream.arrived + arriving answers < size :=
  (readWithDeadline_reads done).failed rfl (Nat.zero_le _)

/-- What has arrived when the request is through, of all that was sent. -/
def inTime (answers : List ReadAnswer) (stream : Incoming) : Bytes := stream.bytes.take (stream.arrived + arriving answers)

/-- So many bytes arrive, and at least as many reads come after that. -/
structure Supplied (wanted : Nat) (stream : Incoming) (coming later : List ReadAnswer) : Prop where
  steady : ∀ answer ∈ coming, answer = .again ∨ ∃ arrived more, answer = .received arrived more
  reads : ∀ answer ∈ later, ∃ more, answer = .received 0 more
  sent : stream.arrived + arriving coming ≤ stream.bytes.length
  enough : wanted ≤ stream.arrived + arriving coming
  passes : wanted ≤ later.length

section Supply
variable {wanted count arrived more : Nat} {answer : ReadAnswer} {coming later : List ReadAnswer}

theorem Supplied.coming_pass (supplied : Supplied wanted stream (.received arrived more :: coming) later)
    (there : count ≤ stream.arrived + arrived) :
    Supplied (wanted - count) ⟨stream.bytes.drop count, stream.arrived + arrived - count⟩ coming later := by
  obtain ⟨coming, reads, sent, enough, passes⟩ := supplied
  simp only [arriving] at sent enough
  refine ⟨fun answer held => coming answer (.tail _ held), reads, ?_, ?_, ?_⟩
  · simp only [List.length_drop]
    omega
  · simp only
    omega
  · omega

theorem Supplied.later_pass (supplied : Supplied wanted stream [] (.received 0 more :: later))
    (there : count ≤ stream.arrived) (some : 0 < count) :
    Supplied (wanted - count) ⟨stream.bytes.drop count, stream.arrived - count⟩ [] later := by
  obtain ⟨coming, reads, sent, enough, passes⟩ := supplied
  simp only [arriving, Nat.add_zero, List.length_cons] at sent enough passes
  refine ⟨coming, fun answer held => reads answer (.tail _ held), ?_, ?_, ?_⟩
  · simp only [List.length_drop, arriving]
    omega
  · simp only [arriving]
    omega
  · omega

theorem Supplied.again (supplied : Supplied wanted stream (.again :: coming) later) : Supplied wanted stream coming later :=
  ⟨fun answer held => supplied.steady answer (.tail _ held), supplied.reads, supplied.sent, supplied.enough,
    supplied.passes⟩

/-- A read of bytes that are supplied succeeds, and what was supplied beyond them still is. -/
theorem readWithDeadline_supplied (timeout : Int) (supplied : Supplied wanted stream coming later)
    (part : size - buffer.length ≤ wanted) :
    ∃ data coming' later' rest, readWithDeadline timeout size (coming ++ later) buffer stream =
        some (.ok data, coming' ++ later', rest) ∧
      Supplied (wanted - (size - buffer.length)) rest coming' later' := by
  -- Both inductions are on the answers: first those with which bytes arrive, then the reads.
  induction coming generalizing buffer stream wanted with
  | nil =>
    induction later generalizing buffer stream wanted with
    | nil =>
      have full : size ≤ buffer.length := by
        have passes := supplied.passes
        simp only [List.length_nil] at passes
        omega
      exact ⟨buffer, [], [], stream, readWithDeadline_full full, by rwa [Nat.sub_eq_zero_of_le full]⟩
    | cons answer later ih =>
      by_cases full : size ≤ buffer.length
      · exact ⟨buffer, [], _, stream, readWithDeadline_full full, by rwa [Nat.sub_eq_zero_of_le full]⟩
      obtain ⟨more, rfl⟩ := supplied.reads answer (.head _)
      have enough := supplied.enough
      have sent := supplied.sent
      simp only [arriving, Nat.add_zero] at enough sent
      obtain ⟨count, taken⟩ : ∃ count, passSize size buffer stream 0 more = count := ⟨_, rfl⟩
      obtain ⟨length, fits, there⟩ := pass_length taken sent
      have some : 0 < count := by
        rw [passSize] at taken
        omega
      have shorter : size - (buffer ++ stream.bytes.take count).length ≤ wanted - count := by omega
      obtain ⟨data, coming', later', rest, done, left⟩ := ih (supplied.later_pass there some) shorter
      refine ⟨data, coming', later', rest, (readWithDeadline_pass taken timeout later full sent).trans done, ?_⟩
      rwa [length, Nat.sub_add_eq, Nat.sub_sub_sub_cancel_right fits] at left
  | cons answer coming ih =>
    by_cases full : size ≤ buffer.length
    · exact ⟨buffer, _, later, stream, readWithDeadline_full full, by rwa [Nat.sub_eq_zero_of_le full]⟩
    have sent := supplied.sent
    rcases supplied.steady answer (.head _) with rfl | ⟨arrived, more, rfl⟩
    · obtain ⟨data, coming', later', rest, done, left⟩ := ih supplied.again part
      exact ⟨data, coming', later', rest, (readWithDeadline_again full).trans done, left⟩
    · simp only [arriving] at sent
      obtain ⟨count, taken⟩ : ∃ count, passSize size buffer stream arrived more = count := ⟨_, rfl⟩
      obtain ⟨length, fits, there⟩ := pass_length taken (by omega)
      have shorter : size - (buffer ++ stream.bytes.take count).length ≤ wanted - count := by omega
      obtain ⟨data, coming', later', rest, done, left⟩ := ih (supplied.coming_pass there) shorter
      refine ⟨data, coming', later', rest, (readWithDeadline_pass taken timeout _ full (by omega)).trans done, ?_⟩
      rwa [length, Nat.sub_add_eq, Nat.sub_sub_sub_cancel_right fits] at left

end Supply

section Frames
variable {frame : ControlFrame} {thrown : Exception} {result : Except Exception ControlFrame}

theorem receiveFrame_cases (sound : Incoming.Sound stream)
    (done : receiveFrame timeout answers stream = some (result, left, rest)) :
    (∃ thrown, result = .error thrown ∧
      readWithDeadline timeout kControlHeaderSize answers [] stream = some (.error thrown, left, rest)) ∨
    ∃ middle between header, Incoming.Sound between ∧ Taken kControlHeaderSize answers middle stream between ∧
      decodeControlHeader (stream.bytes.take kControlHeaderSize) = some header ∧
      ((∃ thrown, headerError (validateControlHeader header) = some thrown ∧ result = .error thrown ∧ rest = between) ∨
        headerError (validateControlHeader header) = none ∧
        ∃ read, readWithDeadline timeout header.payloadSize.toNat middle [] between = some (read, left, rest) ∧
          result = ControlFrame.mk header <$> read) := by
  unfold RegistryClient.receiveFrame at done
  obtain ⟨⟨read, middle, between⟩, first, done⟩ := Option.bind_eq_some_iff.mp done
  cases read with
  | error thrown =>
    cases done
    exact .inl ⟨thrown, rfl, first⟩
  | ok =>
    obtain ⟨rfl, taken⟩ := readWithDeadline_ok first
    have size : (stream.bytes.take kControlHeaderSize).length = kControlHeaderSize := by
      rw [List.length_take, Nat.min_eq_left taken.there]
    obtain ⟨header, decoded⟩ : ∃ header, decodeControlHeader (stream.bytes.take kControlHeaderSize) = some header :=
      ⟨_, if_neg (by simp [size])⟩
    refine .inr ⟨middle, between, header, (readWithDeadline_reads first).sound sound, taken, decoded, ?_⟩
    simp only [decoded] at done
    cases checked : headerError (validateControlHeader header) with
    | some thrown =>
      simp only [checked] at done
      cases done
      exact .inl ⟨thrown, rfl, rfl, rfl⟩
    | none =>
      simp only [checked] at done
      obtain ⟨⟨read, left, rest⟩, second, done⟩ := Option.bind_eq_some_iff.mp done
      cases done
      exact .inr ⟨rfl, read, second, rfl⟩

theorem headerError_none {validation : ControlHeaderValidation} (accepted : headerError validation = none) :
    validation = .valid := by
  cases validation with
  | valid => rfl
  | badMagic | unsupportedVersion | payloadTooLarge => cases accepted

theorem receiveFrame_incomplete (sound : Incoming.Sound stream) (bounded : stream.arrived + arriving answers ≤ stream.bytes.length)
    (incomplete : front (inTime answers stream) = .incomplete)
    (done : receiveFrame timeout answers stream = some (result, [], rest)) :
    ∃ thrown, result = .error thrown ∧ (Lost thrown ∨ TimedOut thrown) := by
  rcases receiveFrame_cases sound done with ⟨thrown, rfl, failed⟩ | ⟨middle, between, header, still, taken, decoded, ends⟩
  · exact ⟨thrown, rfl, (readWithDeadline_error failed).imp_right And.left⟩
  -- The header has arrived, so the front of what arrives is this header.
  have total := taken.arrived
  have long : (inTime answers stream).length = stream.arrived + arriving answers := by
    rw [inTime, List.length_take, Nat.min_eq_left bounded]
  have same : (inTime answers stream).take kControlHeaderSize = stream.bytes.take kControlHeaderSize := by
    rw [inTime, List.take_take, Nat.min_eq_left (by omega)]
  unfold front at incomplete
  rw [if_neg (by omega), same, decoded] at incomplete
  rcases ends with ⟨thrown, refused, rfl, -⟩ | ⟨accepted, read, second, rfl⟩
  · cases validated : validateControlHeader header with
    | valid =>
      rw [validated] at refused
      cases refused
    | badMagic | unsupportedVersion | payloadTooLarge =>
      simp only [validated] at incomplete
      cases incomplete
  · simp only [headerError_none accepted] at incomplete
    split at incomplete
    next short =>
      rw [List.length_drop, long] at short
      cases read with
      | error thrown =>
        exact ⟨thrown, rfl, (readWithDeadline_error second).imp_right And.left⟩
      | ok =>
        have more := (readWithDeadline_ok second).2.arrived
        simp only [arriving] at more
        omega
    next => cases incomplete

/-- A frame that is alone in the stream is received, unless the connection is lost or
the time is up before all of it has arrived. -/
theorem receiveFrame_alone {opcode : UInt16} {requestId : UInt32} {payload bytes : Bytes}
    (encoded : encodeControlFrame opcode requestId payload = some bytes) (sound : Incoming.Sound stream)
    (alone : stream.bytes = bytes) (done : receiveFrame timeout answers stream = some (result, [], rest)) :
    (∃ thrown, result = .error thrown ∧
      (Lost thrown ∨ TimedOut thrown ∧ stream.arrived + arriving answers < bytes.length)) ∨
    result = .ok (controlFrame opcode requestId payload) ∧ rest.bytes = [] := by
  have length := encodeControlFrame_length encoded
  obtain ⟨short, rfl⟩ := encodeControlFrame_some encoded
  have size : (encodeControlHeader (controlFrame opcode requestId payload).header).length = kControlHeaderSize :=
    encodeControlHeader_length _
  rcases receiveFrame_cases sound done with ⟨thrown, rfl, failed⟩ | ⟨middle, between, header, still, taken, decoded, ends⟩
  · refine .inl ⟨thrown, rfl, (readWithDeadline_error failed).imp_right fun ⟨up, few⟩ => ⟨up, ?_⟩⟩
    rw [length]
    omega
  have behind := taken.bytes
  rw [alone, ← size, List.drop_left] at behind
  rw [alone, ← size, List.take_left, decode_encode_header] at decoded
  cases decoded
  have valid : validateControlHeader (controlFrame opcode requestId payload).header = .valid := validate_encoded short
  have announced : (controlFrame opcode requestId payload).header.payloadSize.toNat = payload.length :=
    payloadSize_toNat short
  rcases ends with ⟨thrown, refused, rfl, -⟩ | ⟨_, read, second, rfl⟩
  · rw [valid] at refused
    cases refused
  rw [announced] at second
  have total := taken.arrived
  cases read with
  | error thrown =>
    refine .inl ⟨thrown, rfl, (readWithDeadline_error second).imp_right fun ⟨up, few⟩ => ⟨up, ?_⟩⟩
    rw [length]
    omega
  | ok read =>
    obtain ⟨whole, last⟩ := readWithDeadline_ok second
    have nothing := last.bytes
    rw [behind, List.take_length] at whole
    rw [behind, List.drop_length] at nothing
    exact .inr ⟨by rw [whole]; rfl, nothing⟩

theorem receiveFrame_supplied {opcode : UInt16} {requestId : UInt32} {payload bytes : Bytes}
    {coming later : List ReadAnswer} (timeout : Int)
    (encoded : encodeControlFrame opcode requestId payload = some bytes) (sound : Incoming.Sound stream)
    (alone : stream.bytes = bytes) (supplied : Supplied bytes.length stream coming later) :
    ∃ used left rest, coming ++ later = used ++ left ∧
      receiveFrame timeout used stream = some (.ok (controlFrame opcode requestId payload), [], rest) := by
  have length := encodeControlFrame_length encoded
  obtain ⟨short, whole⟩ := encodeControlFrame_some encoded
  have size : (encodeControlHeader (controlFrame opcode requestId payload).header).length = kControlHeaderSize :=
    encodeControlHeader_length _
  have announced : (controlFrame opcode requestId payload).header.payloadSize.toNat = payload.length :=
    payloadSize_toNat short
  have room : kControlHeaderSize - ([] : Bytes).length ≤ bytes.length := by
    rw [length]
    exact Nat.le_add_right _ _
  obtain ⟨head, coming', later', between, first, still⟩ := readWithDeadline_supplied timeout supplied room
  have missing : payload.length - ([] : Bytes).length ≤ bytes.length - (kControlHeaderSize - ([] : Bytes).length) := by
    rw [length, List.length_nil]
    omega
  obtain ⟨body, coming'', later'', rest, second, -⟩ := readWithDeadline_supplied timeout still missing
  obtain ⟨used, split, first'⟩ := (readWithDeadline_reads first).used
  obtain ⟨used', split', second'⟩ := (readWithDeadline_reads second).used
  have header : head = encodeControlHeader (controlFrame opcode requestId payload).header := by
    rw [(readWithDeadline_ok first).1, alone, whole, ← size, List.take_left]
  have valid : validateControlHeader (controlFrame opcode requestId payload).header = .valid := validate_encoded short
  have received : receiveFrame timeout (used ++ used') stream =
      some (.ok ⟨(controlFrame opcode requestId payload).header, body⟩, [], rest) := by
    unfold RegistryClient.receiveFrame
    rw [first' used', header]
    simp only [Option.bind_eq_bind, Option.bind_some, decode_encode_header, valid, headerError, announced]
    have last := second' []
    rw [List.append_nil] at last
    rw [last]
    rfl
  refine ⟨used ++ used', coming'' ++ later'', rest, by rw [split, split', List.append_assoc], ?_⟩
  rcases receiveFrame_alone encoded sound alone received with ⟨thrown, wrong, -⟩ | ⟨same, -⟩
  · cases wrong
  · rw [received, same]

end Frames

/-- What a response means to the request that it answers. -/
def outcomeOf (error : ErrorCode) (body : Bytes) : RequestOutcome :=
  if error = .ok then .returned body else .refused error.value (responseMessage error)

/-- The same, of the frame that is made of it: `MessageTooLarge` when it does not fit one. -/
def frameOutcome (error : ErrorCode) (body : Bytes) : RequestOutcome :=
  if (encodeResponsePayload error body).length ≤ kMaxControlPayloadSize then outcomeOf error body
  else outcomeOf .messageTooLarge []

/-- The outcome of a call that gets its own response. -/
def ownOutcome (call : ClientCall) : RequestOutcome := frameOutcome call.error call.body

theorem finish_response (requestId : UInt32) (error : ErrorCode) (body : Bytes) :
    finish requestId (controlFrame Opcode.response.value requestId (encodeResponsePayload error body)) =
      outcomeOf error body := by
  have said : error ≠ .ok → (responseMessage error).isEmpty = false := by cases error <;> decide +kernel
  have numbered : error ≠ .ok → error.value ≠ ErrorCode.ok.value := by cases error <;> decide +kernel
  simp only [finish, controlFrame, ne_eq, not_true_eq_false, ↓reduceIte, decodeResponse_encode, outcomeOf]
  by_cases fine : error = .ok
  · subst error
    rfl
  · rw [if_pos (numbered fine), said fine, if_neg fine]
    rfl

theorem responseFrame_encoded (requestId : UInt32) (error : ErrorCode) (body : Bytes) :
    ∃ payload, encodeControlFrame Opcode.response.value requestId payload = some (responseFrame requestId error body) ∧
      finish requestId (controlFrame Opcode.response.value requestId payload) = frameOutcome error body := by
  unfold frameOutcome
  split
  next fits =>
    refine ⟨encodeResponsePayload error body, ?_, finish_response requestId error body⟩
    simp [responseFrame, encodeControlFrame, Nat.not_lt.mpr fits]
  next exceeds =>
    have fits : ¬ kMaxControlPayloadSize < (encodeResponsePayload .messageTooLarge []).length := by decide +kernel
    refine ⟨encodeResponsePayload .messageTooLarge [], ?_, finish_response requestId .messageTooLarge []⟩
    simp [responseFrame, encodeControlFrame, Nat.not_le.mp exceeds, fits]

section Calls
variable {client next : RegistryClient} {call : ClientCall} {outcome : RequestOutcome}

/-- The stream that a request reads from: what earlier ones have left, and its own
response. -/
def streamOf (client : RegistryClient) (call : ClientCall) : Incoming :=
  { client.incoming with
    bytes := client.incoming.bytes ++ responseFrame client.nextRequestId call.error call.body }

theorem streamOf_sound (sound : Incoming.Sound client.incoming) : Incoming.Sound (streamOf client call) := by
  simp only [Incoming.Sound, streamOf, List.length_append] at sound ⊢
  omega

/-- No response to an earlier request is unread, or what arrives ends within a frame,
before the own response is there as a whole. -/
def Undisturbed (client : RegistryClient) (call : ClientCall) : Prop :=
  client.incoming.bytes = [] ∨
    (streamOf client call).arrived + arriving call.answers < (streamOf client call).bytes.length ∧
      front (inTime call.answers (streamOf client call)) = .incomplete

instance (client : RegistryClient) (call : ClientCall) : Decidable (Undisturbed client call) :=
  inferInstanceAs (Decidable (_ ∨ _))

/-- How a call ends that is not sent: the connection is closed already, the ids are used
up or the request does not fit a frame. -/
inductive Unsent (client : RegistryClient) (call : ClientCall) : RequestOutcome → Prop where
  | closed : client.connected = false →
      Unsent client call (.thrown (.middleware .connectionLost "registry connection is closed"))
  | spent : client.nextRequestId = 0 →
      Unsent client call (.thrown (.middleware .invalidState "registry request ID space exhausted"))
  | large : encodeControlFrame call.opcode.value client.nextRequestId call.payload = none →
      Unsent client call (.lengthError "control payload is too large")

/-- None of these is the case. -/
def Sendable (client : RegistryClient) (call : ClientCall) : Prop :=
  client.connected = true ∧ client.nextRequestId ≠ 0 ∧
    encodeControlFrame call.opcode.value client.nextRequestId call.payload ≠ none

instance (client : RegistryClient) (call : ClientCall) : Decidable (Sendable client call) := inferInstanceAs (Decidable (_ ∧ _))

/-- How a request ends: unsent, with a lost connection, out of time before its own
response is there, or with its own response and nothing left behind. -/
inductive RequestEnds (client : RegistryClient) (call : ClientCall) (next : RegistryClient) : RequestOutcome → Prop where
  | unsent {outcome : RequestOutcome} : Unsent client call outcome → RequestEnds client call next outcome
  | lost (thrown : Exception) : Lost thrown → RequestEnds client call next (.thrown thrown)
  | timedOut (thrown : Exception) : TimedOut thrown →
      (streamOf client call).arrived + arriving call.answers < (streamOf client call).bytes.length →
      RequestEnds client call next (.thrown thrown)
  | answered : next.incoming.bytes = [] → RequestEnds client call next (ownOutcome call)

theorem request_cases (done : client.request call = some (outcome, next)) :
    Unsent client call outcome ∧ next.incoming = client.incoming ∨
    (∃ thrown, Lost thrown ∧ outcome = .thrown thrown) ∧ next.incoming = client.incoming ∨
    ∃ result rest, receiveFrame call.timeout call.answers (streamOf client call) = some (result, [], rest) ∧
      next.incoming = rest ∧
      outcome = match result with
        | .error thrown => .thrown thrown
        | .ok frame => finish client.nextRequestId frame := by
  unfold request at done
  split at done
  next gone =>
    cases done
    exact .inl ⟨.closed (by simpa using gone), rfl⟩
  split at done
  next spent =>
    cases done
    exact .inl ⟨.spent spent, rfl⟩
  simp only at done
  cases encoded : encodeControlFrame call.opcode.value client.nextRequestId call.payload with
  | none =>
    rw [encoded] at done
    cases done
    exact .inl ⟨.large encoded, rfl⟩
  | some bytes =>
    rw [encoded] at done
    cases sent : call.sent with
    | closed =>
      simp only [sent] at done
      cases done
      exact .inr (.inl ⟨⟨_, ⟨_, .inl rfl⟩, rfl⟩, rfl⟩)
    | error =>
      simp only [sent] at done
      cases done
      exact .inr (.inl ⟨⟨_, ⟨_, .inr rfl⟩, rfl⟩, rfl⟩)
    | complete =>
      simp only [sent] at done
      split at done
      next thrown rest read =>
        cases done
        exact .inr (.inr ⟨_, _, read, rfl, rfl⟩)
      next frame rest read =>
        cases done
        exact .inr (.inr ⟨_, _, read, rfl, rfl⟩)
      next => cases done

/-- A request ends with its own response as soon as that is there and nothing else is. -/
theorem request_supplied {coming later : List ReadAnswer} (sound : Incoming.Sound client.incoming)
    (clean : client.incoming.bytes = []) (sendable : Sendable client call) (sent : call.sent = .complete)
    (supplied : Supplied (streamOf client call).bytes.length (streamOf client call) coming later) :
    ∃ used left next, coming ++ later = used ++ left ∧
      client.request { call with answers := used } = some (ownOutcome call, next) := by
  obtain ⟨payload, encoded, own⟩ := responseFrame_encoded client.nextRequestId call.error call.body
  have alone : (streamOf client call).bytes = responseFrame client.nextRequestId call.error call.body := by
    rw [streamOf, clean, List.nil_append]
  rw [alone] at supplied
  obtain ⟨used, left, rest, split, received⟩ :=
    receiveFrame_supplied call.timeout encoded (streamOf_sound sound) alone supplied
  obtain ⟨connected, unspent, fits⟩ := sendable
  obtain ⟨bytes, frame⟩ := Option.ne_none_iff_exists'.mp fits
  refine ⟨used, left, { client with nextRequestId := client.nextRequestId + 1, incoming := rest }, split, ?_⟩
  unfold request
  simp only [connected, unspent, frame, sent, Bool.not_true, Bool.false_eq_true, ↓reduceIte]
  rw [show (⟨client.incoming.bytes ++ responseFrame client.nextRequestId call.error call.body, client.incoming.arrived⟩ :
    Incoming) = streamOf client call from rfl, received]
  simp only [own]
  rfl

theorem receiveFrame_sound {timeout : Int} {result : Except Exception ControlFrame} (sound : Incoming.Sound stream)
    (done : receiveFrame timeout answers stream = some (result, left, rest)) : Incoming.Sound rest := by
  rcases receiveFrame_cases sound done with ⟨_, _, failed⟩ | ⟨_, _, _, still, _, _, ⟨_, _, _, rfl⟩ | ⟨_, _, second, _⟩⟩
  · exact (readWithDeadline_reads failed).sound sound
  · exact still
  · exact (readWithDeadline_reads second).sound still

theorem step_sound {event : ClientEvent} (sound : Incoming.Sound client.incoming)
    (step : client.step event = some next) : Incoming.Sound next.incoming := by
  cases event with
  | request call =>
    obtain ⟨⟨outcome, after⟩, done, rfl⟩ := Option.map_eq_some_iff.mp step
    rcases request_cases done with ⟨-, same⟩ | ⟨-, same⟩ | ⟨result, rest, received, same, -⟩
    · rwa [same]
    · rwa [same]
    · rw [same]
      exact receiveFrame_sound (streamOf_sound sound) received
  | arrive count =>
    simp only [RegistryClient.step, arrive] at step
    split at step
    · cases step
    next sent =>
      cases step
      exact Nat.le_of_not_lt sent

theorem request_ends (sound : Incoming.Sound client.incoming) (undisturbed : Undisturbed client call)
    (done : client.request call = some (outcome, next)) : RequestEnds client call next outcome := by
  rcases request_cases done with ⟨unsent, -⟩ | ⟨⟨thrown, lost, rfl⟩, -⟩ | ⟨result, rest, received, behind, rfl⟩
  · exact .unsent unsent
  · exact .lost thrown lost
  rcases undisturbed with clean | ⟨few, incomplete⟩
  · obtain ⟨payload, encoded, own⟩ := responseFrame_encoded client.nextRequestId call.error call.body
    have alone : (streamOf client call).bytes = responseFrame client.nextRequestId call.error call.body := by
      rw [streamOf, clean, List.nil_append]
    rcases receiveFrame_alone encoded (streamOf_sound sound) alone received with
      ⟨thrown, rfl, lost | ⟨up, few⟩⟩ | ⟨rfl, nothing⟩
    · exact .lost thrown lost
    · exact .timedOut thrown up (by rwa [alone])
    · rw [← behind] at nothing
      simp only [own]
      exact .answered nothing
  · obtain ⟨thrown, rfl, lost | up⟩ := receiveFrame_incomplete (streamOf_sound sound) few.le incomplete received
    · exact .lost thrown lost
    · exact .timedOut thrown up few

end Calls

/-- After any requests on the connection, and whatever has become of them: a request
that finds nothing of an earlier response in its way ends with its own response, or
without any because it was not sent, the connection is lost or the time is up before
the response is there. When nothing at all is in its way and its response arrives, it
does end with it. -/
theorem requests_undisturbed {events : List ClientEvent} {client : RegistryClient}
    (run : execute RegistryClient.step {} events = some client) :
    (∀ call outcome next, Undisturbed client call → client.request call = some (outcome, next) →
      RequestEnds client call next outcome) ∧
    ∀ (call : ClientCall) (coming later : List ReadAnswer), client.incoming.bytes = [] → Sendable client call →
      call.sent = .complete → Supplied (streamOf client call).bytes.length (streamOf client call) coming later →
      ∃ used left next, coming ++ later = used ++ left ∧
        client.request { call with answers := used } = some (ownOutcome call, next) := by
  have sound : Incoming.Sound client.incoming :=
    execute_invariant (fun _ _ _ sound step => step_sound sound step) (Nat.zero_le _) run
  exact ⟨fun call outcome next undisturbed done => request_ends sound undisturbed done,
    fun call coming later clean sendable sent supplied => request_supplied sound clean sendable sent supplied⟩

/-- A heartbeat. Its response has 28 bytes. -/
def heartbeatCall (answers : List ReadAnswer) : ClientCall :=
  { opcode := .heartbeat, payload := (Request.heartbeat 1 1).payload, timeout := 1000, body := heartbeatBody .alive [], answers }

def answeredHeartbeat : ClientEvent := .request (heartbeatCall [.received 28 15, .received 0 11])

def cutHeartbeat : ClientCall := heartbeatCall [.received 5 4, .timedOut]

/-- One heartbeat is answered and one gives up in the middle of the header. After them
one more gives up, with five further bytes of the old response. A heartbeat right after
the first one reads its own response. -/
theorem requests_undisturbed_late :
    (∃ client outcome next,
      execute RegistryClient.step {} [answeredHeartbeat, .request (heartbeatCall [.received 10 9, .timedOut])] = some client ∧
      client.incoming.bytes.length = 18 ∧ Undisturbed client cutHeartbeat ∧
      client.request cutHeartbeat = some (outcome, next) ∧ RequestEnds client cutHeartbeat next outcome) ∧
    ∃ client used left next, execute RegistryClient.step {} [answeredHeartbeat] = some client ∧
      [.received 28 0] ++ List.replicate 28 (.received 0 0) = used ++ left ∧
      client.request (heartbeatCall used) = some (ownOutcome (heartbeatCall []), next) := by
  constructor
  · obtain ⟨client, run, long, undisturbed, done⟩ : ∃ client,
        execute RegistryClient.step {} [answeredHeartbeat, .request (heartbeatCall [.received 10 9, .timedOut])] = some client ∧
        client.incoming.bytes.length = 18 ∧ Undisturbed client cutHeartbeat ∧ (client.request cutHeartbeat).isSome := by
      refine ⟨_, rfl, ?_⟩
      decide +kernel
    obtain ⟨⟨outcome, next⟩, done⟩ := Option.isSome_iff_exists.mp done
    exact ⟨client, outcome, next, run, long, undisturbed, done,
      (requests_undisturbed run).1 _ outcome next undisturbed done⟩
  · obtain ⟨client, run, clean, sendable, length, waiting⟩ : ∃ client,
        execute RegistryClient.step {} [answeredHeartbeat] = some client ∧
        client.incoming.bytes = [] ∧ Sendable client (heartbeatCall []) ∧
        (streamOf client (heartbeatCall [])).bytes.length = 28 ∧ (streamOf client (heartbeatCall [])).arrived = 0 := by
      refine ⟨_, rfl, ?_⟩
      decide +kernel
    obtain ⟨used, left, next, split, done⟩ := (requests_undisturbed run).2 (heartbeatCall []) [.received 28 0]
      (List.replicate 28 (.received 0 0)) clean sendable rfl
      ⟨by simp, by simp, by simp [arriving, length, waiting], by simp [arriving, length, waiting], by simp [length]⟩
    exact ⟨client, used, left, next, run, split, done⟩

/-- After a timeout the next request takes what it finds: the old response, which has
the wrong id; the middle of its header; or bytes within its body that look like a
response to the new request, and are returned as that. -/
theorem request_after_timeout :
    ((execute RegistryClient.step {} [.request (heartbeatCall [.timedOut])]).bind fun client =>
      (client.request (heartbeatCall [.received 56 15, .received 0 11])).map Prod.fst) =
        some (.thrown (.middleware .invalidRequestId "registry response ID mismatch")) ∧
    ((execute RegistryClient.step {} [.request (heartbeatCall [.received 10 9, .timedOut])]).bind fun client =>
      (client.request (heartbeatCall [.received 46 15])).map Prod.fst) =
        some (.thrown (.middleware .invalidControlMessage "invalid registry magic")) ∧
    ((execute RegistryClient.step {} [.request { heartbeatCall [.received 22 15, .received 0 5, .timedOut] with
        opcode := .listNodes, payload := [], body := responseFrame 2 .ok [7] }]).bind fun client =>
      (client.request (heartbeatCall [.received 23 15, .received 0 6])).map Prod.fst) = some (.returned [7]) := by
  decide +kernel

end RobotMiddleware.Proofs.ResponseStreams
