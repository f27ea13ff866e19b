import Teleop.Message.Basic

/-!
# Fields of a message

A text field occupies a fixed number of bytes, one of which is kept for the terminating zero; an
agent id is one byte. This file gives the limits, the checks against them, and the reading and
writing of one field.
-/

namespace Teleop

/-- The text fields that occur in messages. -/
inductive TextField where
  | address
  | deviceId
  | mode
  | animationName
  | animationPath
  deriving DecidableEq, Repr

namespace TextField

/-- The number of bytes that the field occupies. -/
def size : TextField → Nat
  | address => 64
  | deviceId => 32
  | mode => 32
  | animationName => 128
  | animationPath => 128

/-- The longest text that fits: the last byte is the terminating zero. -/
def limit (f : TextField) : Nat :=
  f.size - 1

def label : TextField → String
  | address => "address"
  | deviceId => "device id"
  | mode => "mode"
  | animationName => "animation name"
  | animationPath => "animation path"

end TextField

/-- The least and the greatest agent id. -/
def minAgentId : Int := 0

@[inherit_doc minAgentId]
def maxAgentId : Int := 255

namespace Message

/-- Why a message cannot be built, written or read. -/
inductive Error where
  /-- A text is longer than its field allows. -/
  | fieldTooLong (field : TextField) (length : Nat)
  /-- An agent id does not fit into a byte. -/
  | agentIdOutOfRange (id : Int)
  /-- A raw message uses a tag below the application tags. -/
  | reservedTag (tag : UInt8)
  /-- The message has a type that the codec does not know. -/
  | unknownType (typeName : Text)
  /-- The first byte is no known tag. -/
  | unknownTag (tag : UInt8)
  /-- There are no bytes at all. -/
  | noBytes
  /-- A text field is cut off. -/
  | shortField (need available : Nat)
  /-- A one-byte field is missing. -/
  | shortByte
  deriving DecidableEq, Repr

/-- The four causes that errors are grouped under. -/
inductive Cause where
  | fieldTooLong
  | agentIdOutOfRange
  | unknownTag
  | shortPayload
  deriving DecidableEq, Repr

namespace Cause

def message : Cause → String
  | fieldTooLong => "message: field exceeds encoded length"
  | agentIdOutOfRange => "message: agent id out of range"
  | unknownTag => "message: unknown tag"
  | shortPayload => "message: payload too short"

end Cause

namespace Error

def cause : Error → Cause
  | fieldTooLong .. => .fieldTooLong
  | agentIdOutOfRange _ => .agentIdOutOfRange
  | reservedTag _ | unknownType _ | unknownTag _ => .unknownTag
  | noBytes | shortField .. | shortByte => .shortPayload

/-- What an error adds to the text of its cause. -/
def detail : Error → Text
  | fieldTooLong field length =>
    utf8 field.label ++ utf8 " is " ++ decimal length ++ utf8 " bytes, limit " ++
      decimal field.limit
  | agentIdOutOfRange id =>
    decimal id ++ utf8 " not in [" ++ decimal minAgentId ++ utf8 ", " ++ decimal maxAgentId ++
      utf8 "]"
  | reservedTag tag => utf8 "raw payload uses reserved tag " ++ decimal tag.toNat
  | unknownType typeName => typeName
  | unknownTag tag => decimal tag.toNat
  | noBytes => utf8 "empty message"
  | shortField need available =>
    utf8 "need " ++ decimal need ++ utf8 " bytes, have " ++ decimal available
  | shortByte => utf8 "need 1 byte, have 0"

def message (e : Error) : Text :=
  utf8 e.cause.message ++ utf8 ": " ++ e.detail

end Error

/-! ## Checks -/

/-- A text fits its field if it leaves room for the terminating zero. -/
def checkText (f : TextField) (t : Text) : Except Error Unit :=
  if f.limit < t.length then .error (.fieldTooLong f t.length) else .ok ()

def checkAddress (t : Text) : Except Error Unit :=
  checkText .address t

def checkAgentId (id : Int) : Except Error Unit :=
  if id < minAgentId ∨ maxAgentId < id then .error (.agentIdOutOfRange id) else .ok ()

/-! ## Writing and reading one field -/

/-- The byte of an agent id that has passed `checkAgentId`. -/
def idByte (id : Int) : UInt8 :=
  UInt8.ofNat id.toNat

def flagByte (flag : Bool) : UInt8 :=
  if flag then 1 else 0

/-- A text field is read up to its first zero byte; the bytes after the field are returned. -/
def readText (f : TextField) (b : Bytes) : Except Error (Text × Bytes) :=
  if b.length < f.size then .error (.shortField f.size b.length)
  else .ok (cutAtZero (b.take f.size), b.drop f.size)

def readByte : Bytes → Except Error (UInt8 × Bytes)
  | [] => .error .shortByte
  | byte :: rest => .ok (byte, rest)

end Message

end Teleop
