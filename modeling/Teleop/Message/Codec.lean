import Teleop.Message.Field

/-!
# Encoding and decoding

An encoded message is its tag byte followed by its fields. `encode` refuses a message whose
fields do not fit; `decode` accepts a known tag followed by at least the bytes of its layout, and
any application tag.

* `encode`, `decode`: the two directions;
* `Kind.bodySize`: how many bytes follow the tag of a fixed kind;
* `Built` and the six constructors that check their fields.
-/

namespace Teleop

/-- The number of bytes after the tag of a message of this kind. -/
def Kind.bodySize : Kind → Nat
  | startEngine => 64
  | forceAddAgent => 66
  | connectToAgent => 1
  | connectToUIDevice => 32
  | agentAvailable => 65
  | uiDeviceAvailable => 32
  | agentStatus => 33
  | playAnimation => 128
  | readAnimationFile => 128

namespace Message

/-- The bytes after the tag, once every field has passed its check. -/
def encodeBody : Message → Except Error Bytes
  | startEngine host => do
    checkAddress host
    return padTo TextField.address.size host
  | forceAddAgent id ip simulated => do
    checkAgentId id
    checkAddress ip
    return idByte id :: padTo TextField.address.size ip ++ [flagByte simulated]
  | connectToAgent id => do
    checkAgentId id
    return [idByte id]
  | connectToUIDevice device => do
    checkText .deviceId device
    return padTo TextField.deviceId.size device
  | agentAvailable id ip => do
    checkAgentId id
    checkAddress ip
    return idByte id :: padTo TextField.address.size ip
  | uiDeviceAvailable device => do
    checkText .deviceId device
    return padTo TextField.deviceId.size device
  | agentStatus id mode => do
    checkAgentId id
    checkText .mode mode
    return idByte id :: padTo TextField.mode.size mode
  | playAnimation name => do
    checkText .animationName name
    return padTo TextField.animationName.size name
  | readAnimationFile path => do
    checkText .animationPath path
    return padTo TextField.animationPath.size path
  | raw kind payload =>
    if kind < applicationTag then .error (.reservedTag kind) else .ok payload
  | foreign _ typeName => .error (.unknownType typeName)

/-- The tag byte and the fields of a message. -/
def encode (m : Message) : Except Error Bytes := do
  let body ← encodeBody m
  return m.tag :: body

/-- The message of a fixed kind whose fields open `body`. -/
def decodeBody (kind : Kind) (body : Bytes) : Except Error Message :=
  match kind with
  | .startEngine => do
    let (host, _) ← readText .address body
    return startEngine host
  | .forceAddAgent => do
    let (id, body) ← readByte body
    let (ip, body) ← readText .address body
    let (simulated, _) ← readByte body
    return forceAddAgent id.toNat ip (simulated != 0)
  | .connectToAgent => do
    let (id, _) ← readByte body
    return connectToAgent id.toNat
  | .connectToUIDevice => do
    let (device, _) ← readText .deviceId body
    return connectToUIDevice device
  | .agentAvailable => do
    let (id, body) ← readByte body
    let (ip, _) ← readText .address body
    return agentAvailable id.toNat ip
  | .uiDeviceAvailable => do
    let (device, _) ← readText .deviceId body
    return uiDeviceAvailable device
  | .agentStatus => do
    let (id, body) ← readByte body
    let (mode, _) ← readText .mode body
    return agentStatus id.toNat mode
  | .playAnimation => do
    let (name, _) ← readText .animationName body
    return playAnimation name
  | .readAnimationFile => do
    let (path, _) ← readText .animationPath body
    return readAnimationFile path

/-- The message that some bytes open with. An application tag takes all bytes after it. -/
def decode : Bytes → Except Error Message
  | [] => .error .noBytes
  | tag :: body =>
    if applicationTag ≤ tag then .ok (raw tag body)
    else match Kind.ofTag? tag with
      | some kind => decodeBody kind body
      | none => .error (.unknownTag tag)

/-! ## Constructors -/

/-- What a constructor hands back: the message asked for, or the blank message of its kind
together with the reason. -/
structure Built where
  message : Message
  error : Option Error := none
  deriving DecidableEq, Repr

/-- The message if its check passed, else the blank message of its kind. -/
def Built.of (kind : Kind) (m : Message) : Except Error Unit → Built
  | .ok () => ⟨m, none⟩
  | .error e => ⟨blank kind, some e⟩

def buildStartEngine (host : Text) : Built :=
  .of .startEngine (startEngine host) (checkAddress host)

def buildForceAddAgent (id : Int) (ip : Text) (simulated : Bool) : Built :=
  .of .forceAddAgent (forceAddAgent id ip simulated) do
    checkAgentId id
    checkAddress ip

def buildConnectToAgent (id : Int) : Built :=
  .of .connectToAgent (connectToAgent id) (checkAgentId id)

def buildConnectToUIDevice (device : Text) : Built :=
  .of .connectToUIDevice (connectToUIDevice device) (checkText .deviceId device)

def buildPlayAnimation (name : Text) : Built :=
  .of .playAnimation (playAnimation name) (checkText .animationName name)

def buildReadAnimationFile (path : Text) : Built :=
  .of .readAnimationFile (readAnimationFile path) (checkText .animationPath path)

end Message

end Teleop
