import Teleop.Bytes

/-!
# Unique identifiers

Sixteen bytes, written as thirty-two hexadecimal digits in five groups. Every link draws one as
its nonce and every session run draws one as its name.
-/

namespace Teleop

/-- The two lowercase hexadecimal digits of a byte. -/
def hexByte (b : UInt8) : Text :=
  let digit (n : Nat) : UInt8 := UInt8.ofNat (if n < 10 then 48 + n else 87 + n)
  [digit (b.toNat / 16), digit (b.toNat % 16)]

/-- The lowercase hexadecimal digits of some bytes. -/
def hexText (b : Bytes) : Text :=
  b.flatMap hexByte

/-- An identifier of sixteen bytes. -/
structure Uuid where
  bytes : Bytes
  length_eq : bytes.length = 16
  deriving DecidableEq, Repr

namespace Uuid

/-- The first sixteen bytes of `b`, filled up with zero bytes. -/
def ofBytes (b : Bytes) : Uuid :=
  ⟨resize 16 b, length_resize 16 b⟩

/-- The identifier whose bytes are all zero. -/
def zero : Uuid :=
  ofBytes []

/-- A random identifier made from sixteen random bytes: version 4, variant 1. -/
def random (b : Bytes) : Uuid :=
  let b := (resize 16 b).mapIdx fun i byte =>
    if i = 6 then (byte &&& 0x0f) ||| 0x40
    else if i = 8 then (byte &&& 0x3f) ||| 0x80
    else byte
  ofBytes b

/-- The usual text form, in groups of 8, 4, 4, 4 and 12 digits. -/
def text (u : Uuid) : Text :=
  let part (start count : Nat) : Text := hexText ((u.bytes.drop start).take count)
  joinWith (utf8 "-") [part 0 4, part 4 2, part 6 2, part 8 2, part 10 6]

instance : Inhabited Uuid := ⟨zero⟩

end Uuid

end Teleop
