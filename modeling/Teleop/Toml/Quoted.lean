import Teleop.Text.Utf8
import Teleop.Toml.Number

/-!
# Strings in TOML

A string is basic, with escapes, or literal, and each kind stands on one line between single marks
or on several lines between triple ones. A string on several lines may end in up to two marks of its
own before the closing three; a newline right after the opening marks does not count, and in a basic
one a backslash at the end of a line removes the blanks and newlines that follow.
-/

namespace Teleop

namespace Toml

/-! ## Escapes -/

/-- The bytes that the letter of a short escape stands for. -/
def shortEscape? (b : UInt8) : Option UInt8 :=
  [(98, 8), (116, 9), (110, 10), (102, 12), (114, 13), (101, 27), (34, 34), (92, 92)].lookup b

/-- How many hexadecimal digits follow the letter of an escape. -/
def escapeDigits? (b : UInt8) : Option Nat :=
  [(120, 2), (117, 4), (85, 8)].lookup b

/-- A code point that is no surrogate. -/
def isScalar (code : Nat) : Bool :=
  decide (code < 0xD800 ∨ (0xDFFF < code ∧ code ≤ 0x10FFFF))

/-- What the escape after a backslash stands for, and the rest. -/
def escape? : Bytes → Option (Text × Bytes)
  | b :: rest =>
    match shortEscape? b, escapeDigits? b with
    | some byte, _ => some ([byte], rest)
    | none, some count => do
      let digits := rest.take count
      guard (digits.length = count ∧ digits.all isHexDigit)
      let code := ofBase 16 digits
      guard (isScalar code)
      return (Utf8.encode code, rest.drop count)
    | none, none => none
  | [] => none

/-! ## Strings on one line -/

/-- A basic string after its opening mark: its value, the last byte first, and the rest. Each step
takes at least one byte, which `fuel` counts. -/
def basic? : Nat → Text → Bytes → Option (Text × Bytes)
  | 0, _, _ => none
  | _ + 1, _, [] => none
  | fuel + 1, done, b :: rest =>
    if b = 34 then some (done, rest)
    else if b = 10 ∨ b = 13 then none
    else if b = 92 then do
      let (value, rest) ← escape? rest
      basic? fuel (value.reverse ++ done) rest
    else basic? fuel (b :: done) rest

/-- A literal string after its opening mark: its value and the rest. -/
def literal? (b : Bytes) : Option (Text × Bytes) :=
  let value := b.takeWhile (· ≠ 39)
  match b.dropWhile (· ≠ 39) with
  | _ :: rest => if value.contains 10 || value.contains 13 then none else some (value, rest)
  | [] => none

/-- A string on one line: its value and the rest. -/
def line? : Bytes → Option (Text × Bytes)
  | 34 :: rest => (basic? (rest.length + 1) [] rest).map fun (value, rest) => (value.reverse, rest)
  | 39 :: rest => literal? rest
  | _ => none

/-! ## Strings on several lines -/

/-- Without the newline at the start. -/
def dropFirstNewline : Text → Text
  | 10 :: rest => rest
  | 13 :: 10 :: rest => rest
  | t => t

/-- The characters of a literal string on several lines after its opening marks, the last first, and
the rest. -/
def literalLines? : Text → Bytes → Option (Text × Bytes)
  | _, [] => none
  | done, b :: rest =>
    if (utf8 "'''").isPrefixOf (b :: rest) then
      if rest[2]? ≠ some 39 then some (done, rest.drop 2)
      else if (utf8 "''").isPrefixOf done then none
      else literalLines? (b :: done) rest
    else literalLines? (b :: done) rest

/-- Too many marks in a row: three more would follow two, other than right after a backslash. -/
def tooManyMarks (done : Text) : Bool :=
  match done with
  | 34 :: 34 :: 92 :: _ => false
  | 34 :: 34 :: _ => true
  | _ => false

/-- The characters after a backslash that have to be taken together with it: a newline, a blank, or
an escape. -/
def escaped? (b : Bytes) : Option (Text × Bytes) :=
  match b with
  | c :: rest =>
    if c = 10 ∨ c = 13 ∨ c = 32 ∨ c = 9 then some ([c], rest)
    else if (shortEscape? c).isSome then some ([c], rest)
    else do
      let count ← escapeDigits? c
      let digits := rest.take count
      guard (digits.length = count ∧ digits.all isHexDigit)
      return (c :: digits, rest.drop count)
  | [] => none

/-- The characters of a basic string on several lines after its opening marks, the last first, and
the rest. Each step takes at least one byte, which `fuel` counts. -/
def basicLines? : Nat → Text → Bytes → Option (Text × Bytes)
  | 0, _, _ => none
  | _ + 1, _, [] => none
  | fuel + 1, done, b :: rest =>
    if (utf8 "\"\"\"").isPrefixOf (b :: rest) then
      if rest[2]? ≠ some 34 then some (done, rest.drop 2)
      else if tooManyMarks done then none
      else basicLines? fuel (b :: done) rest
    else if b = 92 then do
      let (taken, rest) ← escaped? rest
      basicLines? fuel (taken.reverse ++ b :: done) rest
    else basicLines? fuel (b :: done) rest

/-- Replaces the escapes; the result has its last byte first. A backslash before blanks is at the
end of its line, or it is wrong. -/
def unescape? : Nat → Text → Text → Option Text
  | 0, _, _ => none
  | _ + 1, done, [] => some done
  | fuel + 1, done, b :: rest =>
    if b = 92 then
      let isBlank (b : UInt8) : Bool := b == 32 || b == 9 || b == 13 || b == 10
      let blanks := rest.takeWhile isBlank
      if blanks.contains 10 then unescape? fuel done (rest.dropWhile isBlank)
      else do
        let (value, rest) ← escape? rest
        unescape? fuel (value.reverse ++ done) rest
    else unescape? fuel (b :: done) rest

/-! ## All strings -/

/-- A string at the start of a text: its value and the rest. -/
def string? (b : Bytes) : Option (Text × Bytes) :=
  match b with
  | 34 :: 34 :: 34 :: rest => do
    let (body, rest) ← basicLines? (rest.length + 1) [] rest
    let body := dropFirstNewline body.reverse
    let value ← unescape? (body.length + 1) [] body
    return (value.reverse, rest)
  | 39 :: 39 :: 39 :: rest => do
    let (body, rest) ← literalLines? [] rest
    return (dropFirstNewline body.reverse, rest)
  | _ => line? b

end Toml

end Teleop
