import RobotMiddleware.Proofs.QueueFrames
import RobotMiddleware.RegistryServer

/-! Control frames and requests survive the trip through their bytes, and a part
of a frame is never taken for a frame. -/

namespace RobotMiddleware.Proofs.ControlFrames
open Lib RegistryServer QueueFrames
open BigEndian (decode_encode_of_lt)

variable {opcode : UInt16} {requestId : UInt32} {payload bytes : Bytes}

@[simp] theorem encodeControlHeader_length (header : ControlHeader) :
    (encodeControlHeader header).length = kControlHeaderSize := by
  simp [encodeControlHeader, kControlHeaderSize]

theorem decode_encode_header (header : ControlHeader) : decodeControlHeader (encodeControlHeader header) = some header := by
  unfold decodeControlHeader
  rw [encodeControlHeader_length]
  simp only [encodeControlHeader, List.append_assoc, field_here, field_skip, field_last, BigEndian.encode_length,
    Nat.le_refl, Nat.reduceLeDiff, Nat.reduceSub, uint32_field, uint16_field]
  simp

theorem payloadSize_toNat (short : payload.length ≤ kMaxControlPayloadSize) :
    (controlFrame opcode requestId payload).header.payloadSize.toNat = payload.length := by
  simp only [kMaxControlPayloadSize] at short
  simp only [controlFrame, UInt32.toNat_ofNat']
  omega

theorem validate_encoded (short : payload.length ≤ kMaxControlPayloadSize) :
    validateControlHeader (controlFrame opcode requestId payload).header = .valid := by
  unfold validateControlHeader
  rw [payloadSize_toNat short]
  simp [controlFrame, Nat.not_lt.mpr short]

section Encoded
variable (encoded : encodeControlFrame opcode requestId payload = some bytes)
include encoded

theorem encodeControlFrame_some :
    payload.length ≤ kMaxControlPayloadSize ∧
      bytes = encodeControlHeader (controlFrame opcode requestId payload).header ++ payload := by
  unfold encodeControlFrame at encoded
  split at encoded
  · cases encoded
  next fits =>
    cases encoded
    exact ⟨Nat.le_of_not_lt fits, rfl⟩

theorem encodeControlFrame_length : bytes.length = kControlHeaderSize + payload.length := by
  obtain ⟨_, rfl⟩ := encodeControlFrame_some encoded
  simp

/-- A whole frame at the front of the input is read as what was encoded. -/
theorem front_frame (rest : Bytes) :
    front (bytes ++ rest) = .frame (controlFrame opcode requestId payload) rest := by
  obtain ⟨short, rfl⟩ := encodeControlFrame_some encoded
  have size : (encodeControlHeader (controlFrame opcode requestId payload).header).length = kControlHeaderSize :=
    encodeControlHeader_length _
  unfold front
  rw [if_neg (by simp only [List.length_append, size]; omega), List.append_assoc, ← size, List.take_left, List.drop_left,
    decode_encode_header]
  simp only [validate_encoded short, payloadSize_toNat short, List.take_left, List.drop_left]
  rw [if_neg (by simp)]
  rfl

theorem front_part {part rest : Bytes} (cut : part ++ rest = bytes) (more : rest ≠ []) : front part = .incomplete := by
  obtain ⟨short, rfl⟩ := encodeControlFrame_some encoded
  have missing : 0 < rest.length := List.length_pos_iff.mpr more
  have total := congrArg List.length cut
  simp only [List.length_append, encodeControlHeader_length] at total
  unfold front
  split
  · rfl
  next enough =>
    have longer : kControlHeaderSize ≤ part.length := Nat.le_of_not_lt enough
    have header : part.take kControlHeaderSize = encodeControlHeader (controlFrame opcode requestId payload).header := by
      have taken := congrArg (List.take kControlHeaderSize) cut
      rw [List.take_append_of_le_length longer] at taken
      rw [taken, ← encodeControlHeader_length (controlFrame opcode requestId payload).header, List.take_left]
    rw [header, decode_encode_header]
    simp only [validate_encoded short, payloadSize_toNat short]
    rw [if_pos]
    rw [List.length_drop]
    omega

end Encoded

section Payloads
open PayloadReader

theorem readInteger_encode {width value : Nat} (fits : value < 256 ^ width) (rest : Bytes) :
    readInteger width (BigEndian.encode width value ++ rest) = some (value, rest) := by
  have size := BigEndian.encode_length width value
  unfold readInteger
  rw [if_neg (by simp only [List.length_append, size]; omega), List.take_left' size, List.drop_left' size,
    decode_encode_of_lt fits]

@[simp] theorem readU16_write (value : UInt16) (rest : Bytes) : readU16 (writeU16 value ++ rest) = some (value, rest) := by
  have fits : value.toNat < 256 ^ 2 := by simpa using value.toNat_lt
  simp [readU16, writeU16, Functor.map, StateT.map, readInteger_encode fits, bind]

@[simp] theorem readU32_write (value : UInt32) (rest : Bytes) : readU32 (writeU32 value ++ rest) = some (value, rest) := by
  have fits : value.toNat < 256 ^ 4 := by simpa using value.toNat_lt
  simp [readU32, writeU32, Functor.map, StateT.map, readInteger_encode fits, bind]

@[simp] theorem readU64_write (value : UInt64) (rest : Bytes) : readU64 (writeU64 value ++ rest) = some (value, rest) := by
  have fits : value.toNat < 256 ^ 8 := by simpa using value.toNat_lt
  simp [readU64, writeU64, Functor.map, StateT.map, readInteger_encode fits, bind]

theorem readString_write {value : Bytes} (short : value.length < 2 ^ 32) (rest : Bytes) :
    readString (writeString value ++ rest) = some (value, rest) := by
  have size : readU32 (BigEndian.encode 4 value.length ++ (value ++ rest)) =
      some (UInt32.ofNat value.length, value ++ rest) := by
    simp [readU32, Functor.map, StateT.map, readInteger_encode (show value.length < 256 ^ 4 by simpa using short), bind]
  have number : (UInt32.ofNat value.length).toNat = value.length := by
    rw [UInt32.toNat_ofNat']
    omega
  simp only [readString, writeString, List.append_assoc, bind, StateT.bind, size, Option.bind_some, number]
  simp

@[simp] theorem writeString_length (value : Bytes) : (writeString value).length = 4 + value.length := by
  simp [writeString]

theorem bind_read {α β : Type} {reader : PayloadReader α} {next : α → PayloadReader β} {value : α} {data rest : Bytes}
    (read : reader data = some (value, rest)) : (reader >>= next) data = next value rest := by
  simp only [bind, StateT.bind, read, Option.bind_some]

theorem readIds_write (request : UInt64 → UInt64 → Request) (first second : UInt64) (rest : Bytes) :
    Request.readIds request (Request.writeIds first second ++ rest) = some (request first second, rest) := by
  rw [Request.readIds, Request.writeIds, List.append_assoc, bind_read (readU64_write first _),
    bind_read (readU64_write second rest)]
  rfl

theorem read_request (request : Request) (short : request.payload.length ≤ kMaxControlPayloadSize) (rest : Bytes) :
    Request.read request.opcode (request.payload ++ rest) = some (request, rest) := by
  simp only [kMaxControlPayloadSize] at short
  cases request with
  | registerNode name | queryTopic name =>
    simp only [Request.payload, writeString_length] at short
    simp only [Request.read, Request.opcode, Request.payload]
    rw [bind_read (readString_write (by omega) rest)]
    rfl
  | unregisterNode nodeId =>
    simp only [Request.read, Request.opcode, Request.payload]
    rw [bind_read (readU64_write nodeId rest)]
    rfl
  | advertiseTopic nodeId topicName typeName typeHash maxMessageSize transport pool =>
    simp only [Request.payload, List.length_append, writeString_length] at short
    simp only [Request.read, Request.opcode, Request.payload, Request.readAdvertiseTopic, List.append_assoc]
    rw [bind_read (readU64_write nodeId _), bind_read (readString_write (by omega) _),
      bind_read (readString_write (by omega) _), bind_read (readString_write (by omega) _),
      bind_read (readU64_write maxMessageSize _), bind_read (readU16_write transport _),
      bind_read (readString_write (by omega) _), bind_read (readU64_write pool.poolId _),
      bind_read (readU64_write pool.segmentSize _), bind_read (readU16_write pool.layoutVersion rest)]
    rfl
  | subscribeTopic nodeId topicName typeName typeHash maxMessageSize dataSocketPath transport queue =>
    simp only [Request.payload, List.length_append, writeString_length] at short
    simp only [Request.read, Request.opcode, Request.payload, Request.readSubscribeTopic, List.append_assoc]
    rw [bind_read (readU64_write nodeId _), bind_read (readString_write (by omega) _),
      bind_read (readString_write (by omega) _), bind_read (readString_write (by omega) _),
      bind_read (readU64_write maxMessageSize _), bind_read (readString_write (by omega) _),
      bind_read (readU16_write transport _), bind_read (readString_write (by omega) _),
      bind_read (readU64_write queue.queueId _), bind_read (readU64_write queue.segmentSize _),
      bind_read (readU32_write queue.capacity _), bind_read (readU16_write queue.layoutVersion _),
      bind_read (readU16_write queue.overflowPolicy _), bind_read (readU64_write queue.blockTimeoutMs rest)]
    rfl
  | listNodes | listTopics | queryStats => rfl
  | unadvertiseTopic first second => exact readIds_write .unadvertiseTopic first second rest
  | unsubscribeTopic first second => exact readIds_write .unsubscribeTopic first second rest
  | resolveEndpoint first second => exact readIds_write .resolveEndpoint first second rest
  | attachHeartbeat first second => exact readIds_write .attachHeartbeat first second rest
  | heartbeat first second => exact readIds_write .heartbeat first second rest

theorem decode_encode_request (request : Request) (short : request.payload.length ≤ kMaxControlPayloadSize) :
    decodeRequest request.opcode request.payload = some request := by
  have read := read_request request short []
  rw [List.append_nil] at read
  simp only [decodeRequest, readAll, read]

end Payloads

end RobotMiddleware.Proofs.ControlFrames
