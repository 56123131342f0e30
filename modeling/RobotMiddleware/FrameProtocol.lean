import RobotMiddleware.QueueProtocol

/-! The frame of a message on a Unix domain socket: a fixed header, then the
payload. -/

namespace RobotMiddleware
open Lib

def kFrameMagic : UInt32 := 0x4D573031
def kFrameHeaderSize : Nat := 24

structure FrameHeader where
  magic : UInt32 := kFrameMagic
  payloadSize : UInt32 := 0
  sequence : UInt64 := 0
  timestampNs : UInt64 := 0
  deriving DecidableEq, Repr

inductive FrameValidation where
  | valid | badMagic | payloadTooLarge
  deriving DecidableEq

def encodeFrameHeader (header : FrameHeader) : Bytes :=
  BigEndian.encode 4 header.magic.toNat ++ BigEndian.encode 4 header.payloadSize.toNat ++
    BigEndian.encode 8 header.sequence.toNat ++ BigEndian.encode 8 header.timestampNs.toNat

def decodeFrameHeader (data : Bytes) : Option FrameHeader :=
  if data.length ≠ kFrameHeaderSize then none
  else some {
    magic := UInt32.ofNat (decodeField data 0 4)
    payloadSize := UInt32.ofNat (decodeField data 4 4)
    sequence := UInt64.ofNat (decodeField data 8 8)
    timestampNs := UInt64.ofNat (decodeField data 16 8) }

def validateFrameHeader (header : FrameHeader) (maxMessageSize : UInt64) : FrameValidation :=
  if header.magic ≠ kFrameMagic then .badMagic
  else if header.payloadSize.toUInt64 > maxMessageSize then .payloadTooLarge
  else .valid

end RobotMiddleware
