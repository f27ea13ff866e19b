import Teleop.Time.Calendar
import Teleop.Decimal.Binary64

/-!
# The text of a duration

A duration is written in the largest units that fit, `1h2m3.5s` or `100µs`, and read from a
sequence of decimal numbers with units, `1.5h`, `-3m30s500ms`.

* `Duration.text` writes;
* `Duration.parse` reads, with its three refusals.

A fraction is scaled to its unit in double precision and then cut to whole nanoseconds; sums are
taken modulo `2 ^ 64` before they are compared with the bound.
-/

namespace Teleop

namespace Duration

/-! ## Writing -/

/-- A number in units of `10 ^ places`, without trailing zeros after the point. -/
def fractionText (n places : Nat) : Text :=
  let fraction := trimZeros (zeroPadded places (n % Nat.pow 10 places))
  decimal (n / Nat.pow 10 places : Nat) ++ (if fraction.isEmpty then [] else utf8 "." ++ fraction)

/-- The text of a duration without its sign. -/
def magnitudeText (n : Nat) : Text :=
  if n = 0 then utf8 "0s"
  else if n < 1000 then decimal n ++ utf8 "ns"
  else if n < 1000000 then fractionText n 3 ++ utf8 "µs"
  else if n < 1000000000 then fractionText n 6 ++ utf8 "ms"
  else
    let minutes := n / 60000000000
    let seconds := fractionText (n % 60000000000) 9 ++ utf8 "s"
    let minutesText := if minutes = 0 then [] else decimal (minutes % 60 : Nat) ++ utf8 "m"
    let hoursText := if minutes < 60 then [] else decimal (minutes / 60 : Nat) ++ utf8 "h"
    hoursText ++ minutesText ++ seconds

def text (d : Duration) : Text :=
  (if d < 0 then utf8 "-" else []) ++ magnitudeText d.natAbs

/-! ## Reading -/

/-- Why a text is no duration. -/
inductive ParseError where
  | invalid (text : Text)
  | missingUnit (text : Text)
  | unknownUnit (unit text : Text)
  deriving DecidableEq, Repr

/-- A text in double quotes: bytes outside printable ASCII as `\xNN`, quotes and backslashes
escaped. -/
def quoted (t : Text) : Text :=
  let escape (b : UInt8) : Text :=
    if b < 32 ∨ 128 ≤ b then
      let digit (n : Nat) : UInt8 := UInt8.ofNat (if n < 10 then 48 + n else 87 + n)
      [92, 120, digit (b.toNat / 16), digit (b.toNat % 16)]
    else if b = 34 ∨ b = 92 then [92, b]
    else [b]
  [34] ++ t.flatMap escape ++ [34]

def ParseError.message : ParseError → Text
  | invalid t => utf8 "time: invalid duration " ++ quoted t
  | missingUnit t => utf8 "time: missing unit in duration " ++ quoted t
  | unknownUnit u t =>
    utf8 "time: unknown unit " ++ quoted u ++ utf8 " in duration " ++ quoted t

/-- The length of each unit in nanoseconds. -/
def units : List (Text × Nat) :=
  [(utf8 "ns", 1), (utf8 "us", 1000), (utf8 "µs", 1000), (utf8 "μs", 1000),
    (utf8 "ms", 1000000), (utf8 "s", 1000000000), (utf8 "m", 60000000000),
    (utf8 "h", 3600000000000)]

/-- Bounds of the magnitude of a duration. -/
def magnitudeLimit : Nat := 9223372036854775808

/-- The number that some digits stand for, if no step on the way exceeds the limit. -/
def wholePart (digits : Text) : Option Nat :=
  digits.foldlM (fun n b =>
    if magnitudeLimit / 10 < n then none
    else
      let n := n * 10 + (b.toNat - 48)
      if magnitudeLimit < n then none else some n) 0

/-- The number that the digits of a fraction make up, and the power of ten that it is divided by.
The power is multiplied up in double precision, one rounding a digit, until it leaves the range.
Digits that would exceed the limit are ignored, and so are all after them. -/
def fractionPart (digits : Text) : Nat × Binary64 :=
  let tenfold (x : Binary64) : Binary64 := if x.finite then x.mul (.ofNat 10) else x
  let step (acc : Nat × Binary64 × Bool) (b : UInt8) : Nat × Binary64 × Bool :=
    let (n, scale, full) := acc
    if full then acc
    else if (magnitudeLimit - 1) / 10 < n then (n, scale, true)
    else
      let next := n * 10 + (b.toNat - 48)
      if magnitudeLimit < next then (n, scale, true) else (next, tenfold scale, false)
  let (n, scale, _) := digits.foldl step (0, .ofNat 1, false)
  (n, scale)

/-- `n / scale` of a unit, in nanoseconds: the unit is divided by the scale and multiplied by `n`
in double precision, then cut. -/
def scaled (n : Nat) (scale : Binary64) (unit : Nat) : Nat :=
  ((Binary64.ofNat n).mul ((Binary64.ofNat unit).div scale)).floor

/-- One number with its unit, at the start of `t`: its nanoseconds and the rest. -/
def component (all t : Text) : Except ParseError (Nat × Text) := do
  let whole := t.takeWhile isDigit
  let t := t.dropWhile isDigit
  let some n := wholePart whole | throw (.invalid all)
  let (fraction, t) := match t with
    | 46 :: t => (t.takeWhile isDigit, t.dropWhile isDigit)
    | t => ([], t)
  if whole.isEmpty ∧ fraction.isEmpty then throw (.invalid all)
  let unitEnd (b : UInt8) : Bool := b == 46 || isDigit b
  let unit := t.takeWhile (! unitEnd ·)
  let t := t.dropWhile (! unitEnd ·)
  if unit.isEmpty then throw (.missingUnit all)
  let some length := units.lookup unit | throw (.unknownUnit unit all)
  if magnitudeLimit / length < n then throw (.invalid all)
  let (f, scale) := fractionPart fraction
  let total := n * length + (if f = 0 then 0 else scaled f scale length)
  if magnitudeLimit < total then throw (.invalid all)
  return (total, t)

/-- The sum of the components of `t`. There are at most as many as bytes, which `fuel` counts. -/
def components (all : Text) : Nat → Nat → Text → Except ParseError Nat
  | 0, total, _ => .ok total
  | fuel + 1, total, t =>
    match t with
    | [] => .ok total
    | b :: _ =>
      if b ≠ 46 ∧ ¬ isDigit b then .error (.invalid all)
      else do
        let (n, rest) ← component all t
        let total := (total + n) % 18446744073709551616
        if magnitudeLimit < total then throw (.invalid all)
        components all fuel total rest

/-- The duration that a text stands for: an optional sign, then `0` or one or more components. -/
def parse (all : Text) : Except ParseError Duration := do
  let (negative, t) := match all with
    | 45 :: t => (true, t)
    | 43 :: t => (false, t)
    | t => (false, t)
  if t = utf8 "0" then return 0
  if t.isEmpty then throw (.invalid all)
  let total ← components all t.length 0 t
  if negative then return -(total : Int)
  if magnitudeLimit - 1 < total then throw (.invalid all)
  return total

end Duration

end Teleop
