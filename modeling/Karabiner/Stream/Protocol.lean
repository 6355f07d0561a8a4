import Karabiner.Foundation.BigEndian
import Mathlib.Data.List.Basic
import Mathlib.Tactic.Attr.Core

/-! # Frames of the stream

The processes talk to each other over `pqrs::unix_domain_stream`. What is sent is cut into frames: a
header with the size of the body, and the body with the type of the message first.
-/

namespace Karabiner

/-- `message_type`. -/
inductive MessageType where
  | heartbeat
  | userData
  | healthCheck
  | healthCheckResponse
  | request
  | response
  deriving DecidableEq

namespace MessageType

/-- `std::to_underlying`. -/
def toUnderlying : MessageType → UInt8
  | heartbeat => 0
  | userData => 1
  | healthCheck => 2
  | healthCheckResponse => 3
  | request => 4
  | response => 5

/-- The type that a byte stands for, if there is one. -/
def ofUnderlying (byte : UInt8) : Option MessageType :=
  [heartbeat, userData, healthCheck, healthCheckResponse, request, response][byte.toNat]?

theorem ofUnderlying_toUnderlying (type : MessageType) :
    ofUnderlying type.toUnderlying = some type := by
  cases type <;> rfl

end MessageType

namespace Protocol

def headerSize : Nat := 4
def typeSize : Nat := 1
def requestIdSize : Nat := 8

def encodeUint32 (value : UInt32) : List UInt8 :=
  [(value >>> 24 &&& 0xff).toUInt8, (value >>> 16 &&& 0xff).toUInt8,
    (value >>> 8 &&& 0xff).toUInt8, (value &&& 0xff).toUInt8]

def decodeUint32 (input : List UInt8) : UInt32 :=
  (input.getD 0 0).toUInt32 <<< 24 ||| (input.getD 1 0).toUInt32 <<< 16 |||
    (input.getD 2 0).toUInt32 <<< 8 ||| (input.getD 3 0).toUInt32

def encodeUint64 (value : UInt64) : List UInt8 :=
  [(value >>> 56 &&& 0xff).toUInt8, (value >>> 48 &&& 0xff).toUInt8,
    (value >>> 40 &&& 0xff).toUInt8, (value >>> 32 &&& 0xff).toUInt8,
    (value >>> 24 &&& 0xff).toUInt8, (value >>> 16 &&& 0xff).toUInt8,
    (value >>> 8 &&& 0xff).toUInt8, (value &&& 0xff).toUInt8]

theorem length_encodeUint64 (value : UInt64) : (encodeUint64 value).length = requestIdSize := rfl

def decodeUint64 (input : List UInt8) (offset : Nat) : UInt64 :=
  (input.getD offset 0).toUInt64 <<< 56 ||| (input.getD (offset + 1) 0).toUInt64 <<< 48 |||
    (input.getD (offset + 2) 0).toUInt64 <<< 40 ||| (input.getD (offset + 3) 0).toUInt64 <<< 32 |||
    (input.getD (offset + 4) 0).toUInt64 <<< 24 ||| (input.getD (offset + 5) 0).toUInt64 <<< 16 |||
    (input.getD (offset + 6) 0).toUInt64 <<< 8 ||| (input.getD (offset + 7) 0).toUInt64

/-- `make_frame`. The size is cast to 32 bits. -/
def makeFrame (type : MessageType) (data : List UInt8) : List UInt8 :=
  encodeUint32 (UInt32.ofNat (typeSize + data.length)) ++ type.toUnderlying :: data

/-- `make_request_response_frame`. -/
def makeRequestResponseFrame (type : MessageType) (requestId : UInt64) (data : List UInt8) :
    List UInt8 :=
  encodeUint32 (UInt32.ofNat (typeSize + requestIdSize + data.length)) ++
    type.toUnderlying :: (encodeUint64 requestId ++ data)

def makeUserDataFrame (data : List UInt8) : List UInt8 := makeFrame .userData data

def makeRequestFrame (requestId : UInt64) (data : List UInt8) : List UInt8 :=
  makeRequestResponseFrame .request requestId data

def makeResponseFrame (requestId : UInt64) (data : List UInt8) : List UInt8 :=
  makeRequestResponseFrame .response requestId data

def makeHeartbeatFrame : List UInt8 := makeFrame .heartbeat []

def makeHealthCheckFrame : List UInt8 := makeFrame .healthCheck []

def makeHealthCheckResponseFrame : List UInt8 := makeFrame .healthCheckResponse []

/-! ## Reading what is written -/

open Foundation.BigEndian

theorem toNat_small (bytes : List UInt8) : ∀ byte ∈ bytes.map UInt8.toNat, byte < 256 := by
  intro byte member
  obtain ⟨small, -, rfl⟩ := List.mem_map.mp member
  exact small.toNat_lt

theorem toNat_and (value : Nat) : value % 256 &&& 255 = value % 256 := by
  rw [show 255 = 2 ^ 8 - 1 from rfl, Nat.and_two_pow_sub_one_eq_mod, Nat.mod_mod]

theorem map_encodeUint32 (value : UInt32) :
    (encodeUint32 value).map UInt8.toNat = toBytes 4 value.toNat := by
  simp [encodeUint32, toBytes, Nat.shiftRight_eq_div_pow, toNat_and]

theorem map_encodeUint64 (value : UInt64) :
    (encodeUint64 value).map UInt8.toNat = toBytes 8 value.toNat := by
  simp [encodeUint64, toBytes, Nat.shiftRight_eq_div_pow, toNat_and]

theorem toNat_shiftLeft_lt {byte count bits : Nat} (small : byte < 256) (fits : count + 8 ≤ bits) :
    byte <<< count % 2 ^ bits = byte <<< count := by
  refine Nat.mod_eq_of_lt ?_
  rw [Nat.shiftLeft_eq]
  calc byte * 2 ^ count < 256 * 2 ^ count := Nat.mul_lt_mul_of_pos_right small (Nat.two_pow_pos _)
    _ = 2 ^ (count + 8) := by rw [Nat.pow_add, Nat.mul_comm]
    _ ≤ 2 ^ bits := Nat.pow_le_pow_right Nat.two_pos fits

theorem toNat_decodeUint32 {input : List UInt8} (isHeader : input.length = headerSize) :
    (decodeUint32 input).toNat = ofBytes (input.map UInt8.toNat) := by
  have shift (byte : UInt8) (count : Nat) (fits : count + 8 ≤ 32) :
      byte.toNat <<< count % 4294967296 = byte.toNat <<< count :=
    toNat_shiftLeft_lt byte.toNat_lt fits
  rw [← orBytes_eq (toNat_small input)]
  match input, isHeader with
  | [first, second, third, fourth], _ => simp [decodeUint32, orBytes, shift, Nat.or_assoc]

theorem toNat_decodeUint64 {bytes : List UInt8} (isId : bytes.length = requestIdSize)
    (type : UInt8) (data : List UInt8) :
    (decodeUint64 (type :: (bytes ++ data)) typeSize).toNat = ofBytes (bytes.map UInt8.toNat) := by
  have shift (byte : UInt8) (count : Nat) (fits : count + 8 ≤ 64) :
      byte.toNat <<< count % 18446744073709551616 = byte.toNat <<< count :=
    toNat_shiftLeft_lt byte.toNat_lt fits
  rw [← orBytes_eq (toNat_small bytes)]
  match bytes, isId with
  | [first, second, third, fourth, fifth, sixth, seventh, eighth], _ =>
      simp [decodeUint64, typeSize, orBytes, shift, Nat.or_assoc]

theorem decodeUint32_encodeUint32 (value : UInt32) :
    decodeUint32 (encodeUint32 value) = value := by
  refine UInt32.toNat_inj.mp ?_
  rw [toNat_decodeUint32 rfl, map_encodeUint32, ofBytes_toBytes]
  exact Nat.mod_eq_of_lt value.toNat_lt

theorem decodeUint64_encodeUint64 (value : UInt64) (type : UInt8) (data : List UInt8) :
    decodeUint64 (type :: (encodeUint64 value ++ data)) typeSize = value := by
  refine UInt64.toNat_inj.mp ?_
  rw [toNat_decodeUint64 rfl, map_encodeUint64, ofBytes_toBytes]
  exact Nat.mod_eq_of_lt value.toNat_lt

end Protocol

/-- What is sent. -/
inductive StreamMessage where
  | heartbeat
  | userData (data : List UInt8)
  | healthCheck
  | healthCheckResponse
  | request (requestId : UInt64) (data : List UInt8)
  | response (requestId : UInt64) (data : List UInt8)

namespace StreamMessage

open Protocol

def frame : StreamMessage → List UInt8
  | heartbeat => makeHeartbeatFrame
  | userData data => makeUserDataFrame data
  | healthCheck => makeHealthCheckFrame
  | healthCheckResponse => makeHealthCheckResponseFrame
  | request requestId data => makeRequestFrame requestId data
  | response requestId data => makeResponseFrame requestId data

/-- The frame without its header. -/
def body : StreamMessage → List UInt8
  | heartbeat => [MessageType.heartbeat.toUnderlying]
  | userData data => MessageType.userData.toUnderlying :: data
  | healthCheck => [MessageType.healthCheck.toUnderlying]
  | healthCheckResponse => [MessageType.healthCheckResponse.toUnderlying]
  | request requestId data =>
      MessageType.request.toUnderlying :: (encodeUint64 requestId ++ data)
  | response requestId data =>
      MessageType.response.toUnderlying :: (encodeUint64 requestId ++ data)

def type : StreamMessage → MessageType
  | heartbeat => .heartbeat
  | userData _ => .userData
  | healthCheck => .healthCheck
  | healthCheckResponse => .healthCheckResponse
  | request _ _ => .request
  | response _ _ => .response

theorem ofUnderlying_body (message : StreamMessage) :
    MessageType.ofUnderlying (message.body.getD 0 0) = some message.type := by
  cases message <;> rfl

theorem frame_eq (message : StreamMessage) :
    message.frame = encodeUint32 (UInt32.ofNat message.body.length) ++ message.body := by
  have same {size length : Nat} (sizes : size = length) (body : List UInt8) :
      encodeUint32 (UInt32.ofNat size) ++ body = encodeUint32 (UInt32.ofNat length) ++ body := by
    rw [sizes]
  cases message with
  | request requestId data | response requestId data =>
      refine same ?_ _
      rw [body, List.length_cons, List.length_append, length_encodeUint64]
      unfold typeSize
      omega
  | heartbeat | healthCheck | healthCheckResponse => rfl
  | userData data => exact same (Nat.add_comm _ _) _

end StreamMessage

end Karabiner
