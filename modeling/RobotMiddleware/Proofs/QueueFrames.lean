import RobotMiddleware.QueueProtocol

/-! Decoding returns what was encoded, for both frames of a data connection. A
Release that is accepted is the encoding of its handle; a Wake is that of its value
only if the bytes between its last field and the pool name are zero, because
`decodeQueueWake` does not look at them. -/

namespace RobotMiddleware.Proofs.QueueFrames
open Lib.BigEndian

theorem field_here (first rest : Bytes) (width : Nat) (exact : first.length = width) :
    decodeField (first ++ rest) 0 width = decode first := by
  subst exact
  simp [decodeField]

theorem field_skip (first rest : Bytes) (offset width : Nat) (past : first.length ≤ offset) :
    decodeField (first ++ rest) offset width = decodeField rest (offset - first.length) width := by
  simp [decodeField, List.drop_append, List.drop_eq_nil_of_le past]

theorem field_last (last : Bytes) (width : Nat) (exact : last.length = width) : decodeField last 0 width = decode last := by
  subst exact
  simp [decodeField]

theorem uint64_field (value : UInt64) : UInt64.ofNat (decode (encode 8 value.toNat)) = value := by
  rw [decode_encode_of_lt (by simpa using value.toNat_lt), UInt64.ofNat_toNat]

theorem uint32_field (value : UInt32) : UInt32.ofNat (decode (encode 4 value.toNat)) = value := by
  rw [decode_encode_of_lt (by simpa using value.toNat_lt), UInt32.ofNat_toNat]

theorem uint16_field (value : UInt16) : UInt16.ofNat (decode (encode 2 value.toNat)) = value := by
  rw [decode_encode_of_lt (by simpa using value.toNat_lt), UInt16.ofNat_toNat]

@[simp] theorem encodeQueueRelease_length (handle : ChunkHandle) :
    (encodeQueueRelease handle).length = kQueueReleaseSize := by
  simp [encodeQueueRelease, kQueueReleaseSize]

theorem decode_encode_release (handle : ChunkHandle) (pool : handle.poolId ≠ 0) (generation : handle.generation ≠ 0) :
    decodeQueueRelease (encodeQueueRelease handle) = some handle := by
  have size := encodeQueueRelease_length handle
  have magic : decode (encode 4 kQueueProtocolMagic) = kQueueProtocolMagic :=
    decode_encode_of_lt (by decide)
  have version : decode (encode 2 kQueueProtocolVersion) = kQueueProtocolVersion :=
    decode_encode_of_lt (by decide)
  have kind : decode (encode 2 QueueFrameKind.release.value) = QueueFrameKind.release.value :=
    decode_encode_of_lt (by decide)
  unfold decodeQueueRelease
  rw [size]
  simp only [encodeQueueRelease, List.append_assoc, field_here, field_skip, field_last, encode_length,
    Nat.le_refl, Nat.reduceLeDiff, Nat.reduceSub, magic, version, kind, uint64_field, uint32_field]
  simp [pool, generation]

/-- The part of a Wake before the pool name. -/
private def wakeHeader (wake : QueueWake) : Bytes :=
  encode 4 kQueueProtocolMagic ++ encode 2 kQueueProtocolVersion ++
    encode 2 QueueFrameKind.wake.value ++ encode 4 kQueueWakeSize ++
    encode 2 wake.pool.shmName.length ++ encode 2 wake.pool.layoutVersion.toNat ++
    encode 8 wake.pool.segmentSize.toNat ++ encode 8 wake.pool.poolId.toNat ++
    encode 8 wake.pool.topicId.toNat ++ encode 8 wake.queueId.toNat ++ List.replicate 32 0

private theorem wakeHeader_length (wake : QueueWake) : (wakeHeader wake).length = kQueueWakeHeaderSize := by
  simp [wakeHeader, kQueueWakeHeaderSize]

variable {wake : QueueWake} {data rest frame : Bytes} {offset width : Nat}

theorem encodeQueueWake_some (encoded : encodeQueueWake wake = some frame) :
    isValidSharedMemoryName wake.pool.shmName = true ∧ wake.pool.shmName.length ≤ kMaxPoolNameSize ∧
      wake.queueId ≠ 0 ∧
      frame = wakeHeader wake ++ (wake.pool.shmName ++
        List.replicate (kMaxPoolNameSize - wake.pool.shmName.length) 0) := by
  unfold encodeQueueWake at encoded
  split at encoded
  · cases encoded
  next valid =>
    simp only [Bool.or_eq_true, Bool.not_eq_true', decide_eq_true_eq, beq_iff_eq, not_or, Bool.not_eq_false,
      Nat.not_lt] at valid
    cases encoded
    exact ⟨valid.1.1, valid.1.2, valid.2, by simp [wakeHeader, List.append_assoc]⟩

theorem encodeQueueWake_length (encoded : encodeQueueWake wake = some frame) : frame.length = kQueueWakeSize := by
  obtain ⟨_, short, _, rfl⟩ := encodeQueueWake_some encoded
  simp only [List.length_append, wakeHeader_length, List.length_replicate, kQueueWakeSize]
  omega

theorem decode_encode_wake (encoded : encodeQueueWake wake = some frame) : decodeQueueWake frame = some wake := by
  have size := encodeQueueWake_length encoded
  obtain ⟨valid, short, _, rfl⟩ := encodeQueueWake_some encoded
  have named : wake.pool.shmName.length ≠ 0 := by
    simp only [isValidSharedMemoryName, Bool.and_eq_true, decide_eq_true_eq] at valid
    omega
  have magic : decode (encode 4 kQueueProtocolMagic) = kQueueProtocolMagic :=
    decode_encode_of_lt (by decide)
  have version : decode (encode 2 kQueueProtocolVersion) = kQueueProtocolVersion :=
    decode_encode_of_lt (by decide)
  have kind : decode (encode 2 QueueFrameKind.wake.value) = QueueFrameKind.wake.value :=
    decode_encode_of_lt (by decide)
  have frameSize : decode (encode 4 kQueueWakeSize) = kQueueWakeSize :=
    decode_encode_of_lt (by decide)
  have nameSize : decode (encode 2 wake.pool.shmName.length) = wake.pool.shmName.length :=
    decode_encode_of_lt (by simp only [kMaxPoolNameSize] at short; omega)
  have name (rest : Bytes) : ((wakeHeader wake ++ (wake.pool.shmName ++ rest)).drop kQueueWakeHeaderSize).take
      wake.pool.shmName.length = wake.pool.shmName := by
    rw [← wakeHeader_length wake, List.drop_left, List.take_left]
  have padding (rest : Bytes) : (wakeHeader wake ++ (wake.pool.shmName ++ rest)).drop
      (kQueueWakeHeaderSize + wake.pool.shmName.length) = rest := by
    rw [← wakeHeader_length wake, ← List.drop_drop, List.drop_left, List.drop_left]
  unfold decodeQueueWake
  rw [size]
  have fields (rest : Bytes) :
      decodeField (wakeHeader wake ++ rest) 0 4 = kQueueProtocolMagic ∧
      decodeField (wakeHeader wake ++ rest) 4 2 = kQueueProtocolVersion ∧
      decodeField (wakeHeader wake ++ rest) 6 2 = QueueFrameKind.wake.value ∧
      decodeField (wakeHeader wake ++ rest) 8 4 = kQueueWakeSize ∧
      decodeField (wakeHeader wake ++ rest) 12 2 = wake.pool.shmName.length ∧
      UInt16.ofNat (decodeField (wakeHeader wake ++ rest) 14 2) = wake.pool.layoutVersion ∧
      UInt64.ofNat (decodeField (wakeHeader wake ++ rest) 16 8) = wake.pool.segmentSize ∧
      UInt64.ofNat (decodeField (wakeHeader wake ++ rest) 24 8) = wake.pool.poolId ∧
      UInt64.ofNat (decodeField (wakeHeader wake ++ rest) 32 8) = wake.pool.topicId ∧
      UInt64.ofNat (decodeField (wakeHeader wake ++ rest) 40 8) = wake.queueId := by
    simp only [wakeHeader, List.append_assoc, field_here, field_skip, encode_length, Nat.le_refl,
      Nat.reduceLeDiff, Nat.reduceSub, magic, version, kind, frameSize, nameSize, uint64_field, uint16_field, and_self]
  obtain ⟨f0, f4, f6, f8, f12, f14, f16, f24, f32, f40⟩ :=
    fields (wake.pool.shmName ++ List.replicate (kMaxPoolNameSize - wake.pool.shmName.length) 0)
  simp only [f0, f4, f6, f8, f12, f14, f16, f24, f32, f40, name, padding]
  simp [named, short]

/-- A field that is read and written again, in front of what follows it. -/
theorem encode_field (inside : offset + width ≤ data.length) (follows : rest = data.drop (offset + width)) :
    encode width (decodeField data offset width) ++ rest = data.drop offset := by
  have size : ((data.drop offset).take width).length = width := by
    simp only [List.length_take, List.length_drop]
    omega
  have written := encode_decode ((data.drop offset).take width)
  rw [size] at written
  rw [decodeField, written, follows, ← List.drop_drop, List.take_append_drop]

theorem field_lt (data : Bytes) (offset width : Nat) : decodeField data offset width < 256 ^ width :=
  (decode_lt _).trans_le (Nat.pow_le_pow_right (by decide) (by simp))

theorem field_uint64 (data : Bytes) (offset : Nat) :
    (UInt64.ofNat (decodeField data offset 8)).toNat = decodeField data offset 8 :=
  UInt64.toNat_ofNat_of_lt (field_lt data offset 8)

theorem field_uint32 (data : Bytes) (offset : Nat) :
    (UInt32.ofNat (decodeField data offset 4)).toNat = decodeField data offset 4 :=
  UInt32.toNat_ofNat_of_lt (field_lt data offset 4)

theorem field_uint16 (data : Bytes) (offset : Nat) :
    (UInt16.ofNat (decodeField data offset 2)).toNat = decodeField data offset 2 :=
  UInt16.toNat_ofNat_of_lt (field_lt data offset 2)

theorem encode_decode_release {handle : ChunkHandle} (accepted : decodeQueueRelease frame = some handle) :
    encodeQueueRelease handle = frame := by
  unfold decodeQueueRelease at accepted
  split at accepted
  · cases accepted
  next genuine =>
    simp only [Bool.or_eq_true, decide_eq_true_eq, not_or, ne_eq, Decidable.not_not] at genuine
    obtain ⟨⟨⟨size, magic⟩, version⟩, kind⟩ := genuine
    simp only [Option.ite_none_left_eq_some, Option.some.injEq] at accepted
    obtain ⟨_, rfl⟩ := accepted
    have total : frame.length = 32 := size
    have ends : [] = frame.drop (24 + 8) := (List.drop_eq_nil_of_le (by omega)).symm
    simp only [encodeQueueRelease, field_uint64, field_uint32, ← magic, ← version, ← kind, List.append_assoc]
    rw [← List.append_nil (encode 8 (decodeField frame 24 8))]
    -- from the last field to the first
    exact encode_field (by omega) (encode_field (by omega) (encode_field (by omega) (encode_field (by omega)
      (encode_field (by omega) (encode_field (by omega) (encode_field (by omega) ends))))))

/-- The bytes between the last field of a Wake and its pool name. -/
def reserved (frame : Bytes) : Bytes := (frame.drop 48).take 32

theorem encode_decode_wake {queueId topicId : UInt64} (unused : reserved frame = List.replicate 32 0)
    (accepted : decodeQueueWake frame = some wake) (valid : validateQueueWake wake queueId topicId = .ok) :
    encodeQueueWake wake = some frame := by
  unfold decodeQueueWake at accepted
  split at accepted
  · cases accepted
  next genuine =>
    simp only [Bool.or_eq_true, decide_eq_true_eq, not_or, ne_eq, Decidable.not_not] at genuine
    obtain ⟨⟨⟨⟨size, magic⟩, version⟩, kind⟩, frameSize⟩ := genuine
    simp only [Option.ite_none_left_eq_some, Option.some.injEq, not_or, Nat.not_lt, List.any_eq_true,
      decide_eq_true_eq, not_exists, not_and, Decidable.not_not] at accepted
    obtain ⟨⟨_, short⟩, zeros, rfl⟩ := accepted
    have total : frame.length = 272 := size
    have limit : kMaxPoolNameSize = 192 := rfl
    have named : ((frame.drop 80).take (decodeField frame 12 2)).length = decodeField frame 12 2 := by
      simp only [List.length_take, List.length_drop]
      omega
    have padding : List.replicate (192 - decodeField frame 12 2) 0 = frame.drop (80 + decodeField frame 12 2) :=
      (List.eq_replicate_iff.mpr ⟨by simp only [List.length_drop, kQueueWakeHeaderSize]; omega, zeros⟩).symm
    have name : (frame.drop 80).take (decodeField frame 12 2) ++ List.replicate (192 - decodeField frame 12 2) 0 =
        frame.drop (48 + 32) := by
      rw [padding, ← List.drop_drop, List.take_append_drop]
    have last : List.replicate 32 0 ++ frame.drop (48 + 32) = frame.drop (40 + 8) := by
      rw [← unused, reserved, ← List.drop_drop, List.take_append_drop]
    unfold validateQueueWake at valid
    split at valid
    · cases valid
    next good =>
      simp only [Bool.or_eq_true, decide_eq_true_eq, not_or, Bool.not_eq_true', Bool.not_eq_false, beq_iff_eq] at good
      have encodable : ¬((!isValidSharedMemoryName ((frame.drop kQueueWakeHeaderSize).take (decodeField frame 12 2)) ||
          ((frame.drop kQueueWakeHeaderSize).take (decodeField frame 12 2)).length > kMaxPoolNameSize ||
          UInt64.ofNat (decodeField frame 40 8) == 0) = true) := by
        simp only [kQueueWakeHeaderSize, named] at good ⊢
        simp [good, short]
      simp only [encodeQueueWake, if_neg encodable, Option.some.injEq]
      simp only [kQueueWakeHeaderSize, named, field_uint64, field_uint16, ← magic, ← version, ← kind, ← frameSize, limit,
        List.append_assoc, name, last]
      exact encode_field (by omega) (encode_field (by omega) (encode_field (by omega) (encode_field (by omega)
        (encode_field (by omega) (encode_field (by omega) (encode_field (by omega) (encode_field (by omega)
        (encode_field (by omega) (encode_field (by omega) rfl)))))))))

theorem reserved_encoded (encoded : encodeQueueWake wake = some frame) : reserved frame = List.replicate 32 0 := by
  obtain ⟨_, _, _, rfl⟩ := encodeQueueWake_some encoded
  simp [reserved, wakeHeader, List.drop_append, List.take_append, List.drop_eq_nil_of_le]

/-- Both frames return what they were made of. An accepted Release is the encoding of
its handle, and an accepted Wake that of its value exactly if its reserved bytes are
zero. -/
theorem frames_exact (wake : QueueWake) (handle : ChunkHandle) (frame : Bytes) :
    (isValidSharedMemoryName wake.pool.shmName = true → wake.queueId ≠ 0 →
      ∃ encoded, encodeQueueWake wake = some encoded ∧ decodeQueueWake encoded = some wake) ∧
    (handle.poolId ≠ 0 → handle.generation ≠ 0 → decodeQueueRelease (encodeQueueRelease handle) = some handle) ∧
    (∀ queueId topicId : UInt64, decodeQueueWake frame = some wake → validateQueueWake wake queueId topicId = .ok →
      (encodeQueueWake wake = some frame ↔ reserved frame = List.replicate 32 0)) ∧
    (decodeQueueRelease frame = some handle → encodeQueueRelease handle = frame) := by
  refine ⟨?_, decode_encode_release handle,
    fun _ _ accepted valid => ⟨reserved_encoded, fun unused => encode_decode_wake unused accepted valid⟩, encode_decode_release⟩
  intro valid queued
  have short : ¬wake.pool.shmName.length > kMaxPoolNameSize := by
    simp only [isValidSharedMemoryName, Bool.and_eq_true, decide_eq_true_eq] at valid
    simp only [kMaxPoolNameSize]
    omega
  have encoded : ∃ frame, encodeQueueWake wake = some frame := by simp [encodeQueueWake, valid, short, queued]
  obtain ⟨frame, encoded⟩ := encoded
  exact ⟨frame, encoded, decode_encode_wake encoded⟩

def plainWake : QueueWake := ⟨⟨[slash, 112], 1, 640, 1, kPoolLayoutVersion⟩, 1⟩

def plainFrame : Bytes := (encodeQueueWake plainWake).getD []

/-- The frame of a Wake, with its first reserved byte set. -/
def markedWake : Bytes := plainFrame.set 48 1

def plainRelease : Bytes :=
  [77, 87, 81, 53, 0, 1, 0, 2, 0, 0, 0, 0, 0, 0, 0, 1, 0, 0, 0, 0, 0, 0, 0, 1, 0, 0, 0, 0, 0, 0, 1, 64]

theorem frames_exact_sample :
    decodeQueueRelease (encodeQueueRelease ⟨1, 0, 1, 320⟩) = some ⟨1, 0, 1, 320⟩ ∧
      (∃ frame, encodeQueueWake plainWake = some frame ∧ decodeQueueWake frame = some plainWake) ∧
      encodeQueueRelease ⟨1, 0, 1, 320⟩ = plainRelease ∧ encodeQueueWake plainWake = some plainFrame ∧
      decodeQueueWake markedWake = some plainWake ∧ encodeQueueWake plainWake ≠ some markedWake := by
  have marked : decodeQueueWake markedWake = some plainWake := by decide +kernel
  exact ⟨(frames_exact plainWake ⟨1, 0, 1, 320⟩ []).2.1 (by decide) (by decide),
    (frames_exact plainWake ⟨1, 0, 1, 320⟩ []).1 (by decide) (by decide),
    (frames_exact plainWake ⟨1, 0, 1, 320⟩ plainRelease).2.2.2 (by decide +kernel),
    ((frames_exact plainWake ⟨1, 0, 1, 320⟩ plainFrame).2.2.1 1 1 (by decide +kernel) (by decide)).mpr (by decide +kernel),
    marked, fun same => absurd
      (((frames_exact plainWake ⟨1, 0, 1, 320⟩ markedWake).2.2.1 1 1 marked (by decide)).mp same) (by decide +kernel)⟩

theorem reserved_bytes_unchecked : markedWake.length = kQueueWakeSize ∧ decodeQueueWake markedWake = some plainWake ∧
    validateQueueWake plainWake 1 1 = .ok ∧ encodeQueueWake plainWake ≠ some markedWake := by
  decide +kernel

end RobotMiddleware.Proofs.QueueFrames
