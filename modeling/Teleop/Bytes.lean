/-!
# Byte strings

Messages, frames and log lines are sequences of bytes. A text is a byte string too: it is not
required to be valid UTF-8, because identities and reasons come from the other side unchecked.

* `utf8` gives the bytes of a literal, `decimal` those of a number, and `ofDigits` reads digits;
* `padTo`, `resize` and `cutAtZero` are the three operations of fixed-width fields.
-/

namespace Teleop

/-- A sequence of bytes. -/
abbrev Bytes := List UInt8

/-- A text, as the bytes of its encoding. -/
abbrev Text := Bytes

/-- The UTF-8 bytes of a string. -/
def utf8 (s : String) : Text :=
  s.toUTF8.data.toList

/-- The decimal digits of a number, with a minus sign for a negative one. -/
def decimal (n : Int) : Text :=
  utf8 (toString n)

/-- An ASCII digit. -/
def isDigit (b : UInt8) : Bool :=
  48 ≤ b && b ≤ 57

/-- The number that a sequence of ASCII digits stands for. -/
def ofDigits (t : Text) : Nat :=
  t.foldl (fun n b => n * 10 + (b.toNat - 48)) 0

/-- The value of a hexadecimal digit. -/
def hexValue? (b : UInt8) : Option Nat :=
  if 48 ≤ b ∧ b ≤ 57 then some (b.toNat - 48)
  else if 97 ≤ b ∧ b ≤ 102 then some (b.toNat - 87)
  else if 65 ≤ b ∧ b ≤ 70 then some (b.toNat - 55)
  else none

/-- A text with its ASCII capitals as small letters. -/
def smallLetters (t : Text) : Text :=
  t.map fun b => if 65 ≤ b && b ≤ 90 then b + 32 else b

/-- The bytes before the first zero byte. -/
def cutAtZero (b : Bytes) : Bytes :=
  b.takeWhile (· ≠ 0)

/-- Zero bytes are appended until the length is at least `n`. -/
def padTo (n : Nat) (b : Bytes) : Bytes :=
  b ++ List.replicate (n - b.length) 0

/-- The first `n` bytes, filled up with zero bytes. -/
def resize (n : Nat) (b : Bytes) : Bytes :=
  padTo n (b.take n)

/-! ## Lengths -/

theorem length_padTo {n : Nat} {b : Bytes} (h : b.length ≤ n) : (padTo n b).length = n := by
  simp only [padTo, List.length_append, List.length_replicate]
  omega

@[simp] theorem length_resize (n : Nat) (b : Bytes) : (resize n b).length = n :=
  length_padTo (by simp only [List.length_take]; omega)

/-- Pieces joined by a separator. -/
def joinWith (separator : Text) : List Text → Text
  | [] => []
  | [piece] => piece
  | piece :: rest => piece ++ separator ++ joinWith separator rest

/-- The parts of a text between the occurrences of a byte; there is at least one. -/
def splitAt (separator : UInt8) (t : Text) : List Text :=
  t.foldr (fun b parts =>
    if b = separator then [] :: parts
    else match parts with
      | [] => [[b]]
      | part :: rest => (b :: part) :: rest) [[]]

/-- A text after its first `skip` bytes, with every occurrence of a word in the rest replaced; the
word has at least one byte. -/
def replaceFrom (word replacement : Text) : Nat → Text → Text
  | _, [] => []
  | skip + 1, _ :: rest => replaceFrom word replacement skip rest
  | 0, b :: rest =>
    if word.isPrefixOf (b :: rest) then
      replacement ++ replaceFrom word replacement (word.length - 1) rest
    else b :: replaceFrom word replacement 0 rest

/-- A text with every occurrence of a word replaced. -/
def replaceAll (word replacement t : Text) : Text :=
  replaceFrom word replacement 0 t

/-- The bytes of a piece, repeated. -/
def repeated (piece : Bytes) : Nat → Bytes
  | 0 => []
  | n + 1 => piece ++ repeated piece n

end Teleop
