import Teleop.Bytes

/-!
# UTF-8

A byte string is cut into runes: well-formed encodings of a code point, and stray bytes that belong
to none. Overlong forms, surrogates and code points beyond `10FFFF` are not well formed.

* `Utf8.runes` cuts, `Utf8.isValid` says that nothing is stray;
* `Utf8.encode` writes a code point.
-/

namespace Teleop

/-- A piece of a byte string. -/
inductive Rune where
  /-- A code point, with the bytes that encode it. -/
  | scalar (code : Nat) (bytes : Bytes)
  /-- A byte that is part of no well-formed encoding. -/
  | stray (byte : UInt8)
  deriving DecidableEq, Repr

namespace Rune

def bytes : Rune → Bytes
  | scalar _ b => b
  | stray b => [b]

/-- The code point, which for a stray byte is that of the replacement character. -/
def code : Rune → Nat
  | scalar c _ => c
  | stray _ => 0xFFFD

end Rune

namespace Utf8

/-- The low six bits of a continuation byte. -/
def continuation? (b : UInt8) : Option Nat :=
  if 0x80 ≤ b ∧ b ≤ 0xBF then some (b.toNat - 0x80) else none

def pair? (a b : UInt8) : Option Nat := do
  guard (0xC2 ≤ a ∧ a ≤ 0xDF)
  let y ← continuation? b
  return (a.toNat - 0xC0) * 64 + y

def triple? (a b c : UInt8) : Option Nat := do
  guard (0xE0 ≤ a ∧ a ≤ 0xEF)
  let y ← continuation? b
  let z ← continuation? c
  let code := (a.toNat - 0xE0) * 4096 + y * 64 + z
  guard (0x800 ≤ code ∧ ¬ (0xD800 ≤ code ∧ code ≤ 0xDFFF))
  return code

def quadruple? (a b c d : UInt8) : Option Nat := do
  guard (0xF0 ≤ a ∧ a ≤ 0xF4)
  let y ← continuation? b
  let z ← continuation? c
  let w ← continuation? d
  let code := (a.toNat - 0xF0) * 262144 + y * 4096 + z * 64 + w
  guard (0x10000 ≤ code ∧ code ≤ 0x10FFFF)
  return code

/-- The code point that `a` and the bytes after it encode, and how many of those it takes. -/
def scalar? (a : UInt8) (rest : Bytes) : Option (Nat × Nat) :=
  if a < 0x80 then some (a.toNat, 0)
  else match rest with
    | [] => none
    | [b] => (pair? a b).map (·, 1)
    | [b, c] => (pair? a b).map (·, 1) <|> (triple? a b c).map (·, 2)
    | b :: c :: d :: _ =>
      (pair? a b).map (·, 1) <|> (triple? a b c).map (·, 2) <|> (quadruple? a b c d).map (·, 3)

/-- The runes of a byte string after its first `skip` bytes. -/
def runesFrom : Nat → Bytes → List Rune
  | _, [] => []
  | skip + 1, _ :: rest => runesFrom skip rest
  | 0, a :: rest =>
    match scalar? a rest with
    | some (code, extra) => .scalar code (a :: rest.take extra) :: runesFrom extra rest
    | none => .stray a :: runesFrom 0 rest

/-- The runes of a byte string, from left to right. -/
def runes (b : Bytes) : List Rune :=
  runesFrom 0 b

/-- No byte is stray. -/
def isValid (b : Bytes) : Bool :=
  (runes b).all fun
    | .scalar .. => true
    | .stray _ => false

/-- The bytes of a code point; a number that is none gives the replacement character. -/
def encode (code : Nat) : Bytes :=
  let byte (n : Nat) : UInt8 := UInt8.ofNat n
  if code < 0x80 then [byte code]
  else if code < 0x800 then [byte (0xC0 + code / 64), byte (0x80 + code % 64)]
  else if 0xD800 ≤ code ∧ code ≤ 0xDFFF ∨ 0x10FFFF < code then [0xEF, 0xBF, 0xBD]
  else if code < 0x10000 then
    [byte (0xE0 + code / 4096), byte (0x80 + code / 64 % 64), byte (0x80 + code % 64)]
  else
    [byte (0xF0 + code / 262144), byte (0x80 + code / 4096 % 64), byte (0x80 + code / 64 % 64),
      byte (0x80 + code % 64)]

end Utf8

end Teleop
