import Teleop.Time.Calendar
import Teleop.Toml.Expr

/-!
# Dates and times in TOML

A date, a time of day, or both, and then possibly an offset. Seconds may be left out, and a fraction
has any number of digits. The letters may be small, and a blank may stand for the `T`.
-/

namespace Teleop

namespace Toml

/-- Two digits that denote a number within bounds, and the rest. -/
def twoDigits? (lo hi : Nat) : Bytes → Option (Nat × Bytes)
  | a :: b :: rest => do
    guard (isDigit a && isDigit b)
    let n := ofDigits [a, b]
    guard (lo ≤ n ∧ n ≤ hi)
    return (n, rest)
  | _ => none

/-- The rest after a byte that has to come first. -/
def after? (byte : UInt8) : Bytes → Option Bytes
  | b :: rest => if b = byte then some rest else none
  | [] => none

/-- A date that exists, and the rest. -/
def date? (b : Bytes) : Option Bytes := do
  let year := b.take 4
  guard (year.length = 4 ∧ year.all isDigit)
  let rest ← after? 45 (b.drop 4)
  let (month, rest) ← twoDigits? 1 12 rest
  let rest ← after? 45 rest
  let (_, rest) ← twoDigits? 1 (daysInMonth (ofDigits year) month) rest
  return rest

/-- The rest after a fraction, if there is one. -/
def skipFraction (b : Bytes) : Bytes :=
  match b with
  | 46 :: d :: rest => if isDigit d then rest.dropWhile isDigit else b
  | _ => b

/-- A time of day, and the rest. -/
def timeOfDay? (b : Bytes) : Option Bytes := do
  let (_, rest) ← twoDigits? 0 23 b
  let rest ← after? 58 rest
  let (_, rest) ← twoDigits? 0 59 rest
  match after? 58 rest with
  | none => return rest
  | some seconds =>
    let (_, rest) ← twoDigits? 0 59 seconds
    return skipFraction rest

/-- An offset and nothing else. -/
def isOffset (b : Bytes) : Bool :=
  match b with
  | [90] => true
  | sign :: rest =>
    (sign == 43 || sign == 45) && (do
      let (_, rest) ← twoDigits? 0 24 rest
      let rest ← after? 58 rest
      let (_, rest) ← twoDigits? 0 60 rest
      guard rest.isEmpty : Option Unit).isSome
  | [] => false

/-- The characters are those of a date, a time or both. -/
def isMoment (t : Text) : Bool :=
  let t := t.map fun b => if b = 122 then 90 else if b = 116 ∨ b = 32 then 84 else b
  match date? t with
  | some [] => true
  | some (84 :: rest) =>
    match timeOfDay? rest with
    | some rest => rest.isEmpty || isOffset rest
    | none => false
  | some _ => false
  | none => timeOfDay? t == some []

end Toml

end Teleop
