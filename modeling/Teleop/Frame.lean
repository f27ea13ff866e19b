import Teleop.Fault
import Teleop.Uuid

/-!
# Frames

A datagram carries one frame. A hello and a welcome hold a nonce and a text field, a data frame
holds an encoded message, and a bye is a single byte.

* `hello`, `welcome`, `data`, `bye` write the four frames;
* `readNonced` reads the nonce and the text of a hello or welcome body.
-/

namespace Teleop

namespace Frame

/-- The first byte of each kind of frame. -/
def helloByte : UInt8 := 1

@[inherit_doc helloByte]
def welcomeByte : UInt8 := 2

@[inherit_doc helloByte]
def dataByte : UInt8 := 3

@[inherit_doc helloByte]
def byeByte : UInt8 := 4

/-- The number of bytes of a nonce. -/
def nonceSize : Nat := 16

/-- The number of bytes of the identity in a hello. -/
def identitySize : Nat := 32

/-- The number of bytes of the session name in a welcome. -/
def sessionSize : Nat := 64

/-- Asks the other side for a session; a long identity is cut. -/
def hello (nonce : Uuid) (identity : Text) : Bytes :=
  helloByte :: (nonce.bytes ++ resize identitySize identity)

/-- Grants a session to the side that sent this nonce; a long name is cut. -/
def welcome (nonce : Uuid) (session : Text) : Bytes :=
  welcomeByte :: (nonce.bytes ++ resize sessionSize session)

/-- Carries an encoded message. -/
def data (payload : Bytes) : Bytes :=
  dataByte :: payload

/-- Ends a session. -/
def bye : Bytes :=
  [byeByte]

/-- The text of a frame body that is too short. -/
def malformed : Text :=
  utf8 "channel: malformed frame"

/-- The nonce and the text at the start of a body, or `none` if the body is too short for a text
field of `size` bytes. The text ends at its first zero byte or at the end of the field. -/
def nonced? (body : Bytes) (size : Nat) : Option (Uuid × Text) :=
  if body.length < nonceSize + size then none
  else some (Uuid.ofBytes (body.take nonceSize), cutAtZero ((body.drop nonceSize).take size))

/-- `nonced?` for a size of any sign. The end of the field is a 64-bit word; a field that ends
before it starts, because its size is negative or its end wraps around, cannot be cut out. -/
def readNonced (body : Bytes) (size : Int) : Except Fault (Option (Uuid × Text)) :=
  let fieldEnd := (nonceSize + size).bmod 18446744073709551616
  if (body.length : Int) < fieldEnd then .ok none
  else if fieldEnd < nonceSize then .error .invertedRange
  else .ok (nonced? body size.toNat)

end Frame

end Teleop
