import Teleop.Bytes

/-!
# Messages

The vocabulary spoken with the remote engine: nine kinds with a fixed layout, application
messages that carry raw bytes, and messages of a type that the codec does not know.

* `Kind` is one of the nine fixed kinds, with its tag byte and its name;
* `Message` is a message, `Message.tag` its tag byte;
* `tagName` names any tag byte.
-/

namespace Teleop

/-- The kinds of message with a fixed layout. -/
inductive Kind where
  | startEngine
  | forceAddAgent
  | connectToAgent
  | connectToUIDevice
  | agentAvailable
  | uiDeviceAvailable
  | agentStatus
  | playAnimation
  | readAnimationFile
  deriving DecidableEq, Repr

namespace Kind

/-- All kinds, in the order of their tags. -/
def all : List Kind :=
  [startEngine, forceAddAgent, connectToAgent, connectToUIDevice, agentAvailable,
    uiDeviceAvailable, agentStatus, playAnimation, readAnimationFile]

/-- The byte that opens an encoded message of this kind. -/
def tag : Kind → UInt8
  | startEngine => 1
  | forceAddAgent => 2
  | connectToAgent => 3
  | connectToUIDevice => 4
  | agentAvailable => 10
  | uiDeviceAvailable => 11
  | agentStatus => 12
  | playAnimation => 20
  | readAnimationFile => 21

/-- The kind that a tag byte stands for. -/
def ofTag? (t : UInt8) : Option Kind :=
  all.find? (·.tag == t)

def name : Kind → String
  | startEngine => "StartEngine"
  | forceAddAgent => "ForceAddAgent"
  | connectToAgent => "ConnectToAgent"
  | connectToUIDevice => "ConnectToUIDevice"
  | agentAvailable => "AgentAvailable"
  | uiDeviceAvailable => "UIDeviceAvailable"
  | agentStatus => "AgentStatus"
  | playAnimation => "PlayAnimation"
  | readAnimationFile => "ReadAnimationFile"

end Kind

/-- Tags from here on belong to applications. -/
def applicationTag : UInt8 := 128

/-- The name of a tag byte, known or not. -/
def tagName (t : UInt8) : Text :=
  match Kind.ofTag? t with
  | some kind => utf8 kind.name
  | none =>
    utf8 (if applicationTag ≤ t then "Application(" else "Unknown(") ++ decimal t.toNat ++ utf8 ")"

/-- A message to or from the remote engine. -/
inductive Message where
  /-- Start the engine at this host. -/
  | startEngine (host : Text)
  /-- Register an agent whether or not it has announced itself. -/
  | forceAddAgent (id : Int) (ip : Text) (simulated : Bool)
  /-- Attach to an available agent. -/
  | connectToAgent (id : Int)
  /-- Attach to an available device. -/
  | connectToUIDevice (device : Text)
  /-- An agent announced itself. -/
  | agentAvailable (id : Int) (ip : Text)
  /-- A device announced itself. -/
  | uiDeviceAvailable (device : Text)
  /-- The periodic status of an agent, which serves as a heartbeat. -/
  | agentStatus (id : Int) (mode : Text)
  /-- Play the named animation. -/
  | playAnimation (name : Text)
  /-- Load an animation file on the engine. -/
  | readAnimationFile (path : Text)
  /-- An application message: a tag of its own and any bytes. -/
  | raw (kind : UInt8) (payload : Bytes)
  /-- A message of a type that the codec does not know. -/
  | foreign (kind : UInt8) (typeName : Text)
  deriving DecidableEq, Repr

namespace Message

/-- The fixed kind of a message, if it has one. -/
def kind? : Message → Option Kind
  | startEngine .. => some .startEngine
  | forceAddAgent .. => some .forceAddAgent
  | connectToAgent .. => some .connectToAgent
  | connectToUIDevice .. => some .connectToUIDevice
  | agentAvailable .. => some .agentAvailable
  | uiDeviceAvailable .. => some .uiDeviceAvailable
  | agentStatus .. => some .agentStatus
  | playAnimation .. => some .playAnimation
  | readAnimationFile .. => some .readAnimationFile
  | raw .. | foreign .. => none

/-- The tag byte of a message. -/
def tag : Message → UInt8
  | startEngine .. => Kind.startEngine.tag
  | forceAddAgent .. => Kind.forceAddAgent.tag
  | connectToAgent .. => Kind.connectToAgent.tag
  | connectToUIDevice .. => Kind.connectToUIDevice.tag
  | agentAvailable .. => Kind.agentAvailable.tag
  | uiDeviceAvailable .. => Kind.uiDeviceAvailable.tag
  | agentStatus .. => Kind.agentStatus.tag
  | playAnimation .. => Kind.playAnimation.tag
  | readAnimationFile .. => Kind.readAnimationFile.tag
  | raw kind _ => kind
  | foreign kind _ => kind

/-- The message of a kind with every field empty. -/
def blank : Kind → Message
  | .startEngine => startEngine []
  | .forceAddAgent => forceAddAgent 0 [] false
  | .connectToAgent => connectToAgent 0
  | .connectToUIDevice => connectToUIDevice []
  | .agentAvailable => agentAvailable 0 []
  | .uiDeviceAvailable => uiDeviceAvailable []
  | .agentStatus => agentStatus 0 []
  | .playAnimation => playAnimation []
  | .readAnimationFile => readAnimationFile []

end Message

end Teleop
