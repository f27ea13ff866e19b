import Teleop.Decimal.Literal

/-!
# Numbers in single precision

A number is written in decimal notation, or in hexadecimal notation with a power of two, or as a
word for what is infinite or no number at all. Underscores may stand between digits. It is rounded
to single precision and then counted in units of the smallest positive number of that precision, so
that comparing numbers is comparing integers.

* `Single.parse?` reads a number.
-/

namespace Teleop

/-- A multiple of the smallest positive number in single precision; `none` is no number. -/
abbrev Single := Option Int

namespace Single

/-- The exponent of the smallest positive number. -/
def minExponent : Int := -149

/-- What is at least this is infinite. -/
def limit : Nat := Nat.pow 2 277

/-- A magnitude with its sign. -/
def signed (negative : Bool) (magnitude : Nat) : Single :=
  some (if negative then -(magnitude : Int) else magnitude)

/-- The number nearest to a quotient; what is too large becomes infinite. -/
def ofRatio (negative : Bool) (num den : Nat) : Single :=
  let x := Binary64.nearest 24 minExponent num den
  signed negative (min limit (x.significand * Nat.pow 2 (x.exponent - minExponent).toNat))

def one : Single := ofRatio false 1 1

/-- Whether one number is greater than another; what is no number is never compared. -/
def above : Single → Single → Bool
  | some x, some y => y < x
  | _, _ => false

/-- The number `digits * base ^ exponent`. Exponents far outside the range are settled without
computing the power; `places` is how many places of the base the digits take up. -/
def scaled (negative : Bool) (base digits places : Nat) (exponent : Int) : Single :=
  if digits = 0 ∨ places + exponent < -200 then signed negative 0
  else if 200 < places + exponent then signed negative limit
  else if 0 ≤ exponent then ofRatio negative (digits * Nat.pow base exponent.toNat) 1
  else ofRatio negative digits (Nat.pow base (-exponent).toNat)

/-- Every underscore stands behind a digit, or behind the mark of a base, and before a digit. -/
def underscoresValid (isDigitHere : UInt8 → Bool) : Bool → Text → Bool
  | _, [] => true
  | after, b :: rest =>
    if b = 95 then after && rest.head?.any isDigitHere && underscoresValid isDigitHere false rest
    else underscoresValid isDigitHere (isDigitHere b) rest

/-- A number in hexadecimal notation behind the mark of its base. The power of two is not left
out. -/
def hexadecimal? (negative : Bool) (t : Text) : Option Single := do
  let isHex (b : UInt8) : Bool := (hexValue? b).isSome
  let whole := t.takeWhile isHex
  let t := t.dropWhile isHex
  let (fraction, t) := match t with
    | 46 :: t => (t.takeWhile isHex, t.dropWhile isHex)
    | t => ([], t)
  let digits := whole ++ fraction
  guard (!digits.isEmpty)
  let (p, rest) ← t.head?.map (·, t.tail)
  guard (p = 80 ∨ p = 112)
  let exponent ← Decimal.exponent? (101 :: rest)
  let value := digits.foldl (fun n b => n * 16 + (hexValue? b).getD 0) 0
  return scaled negative 2 value (value.log2 + 1) (exponent - 4 * fraction.length)

/-- A word, in any case. -/
def word? (negative plain : Bool) (t : Text) : Option Single :=
  let t := smallLetters t
  if t = utf8 "inf" ∨ t = utf8 "infinity" then some (signed negative limit)
  else if t = utf8 "nan" ∧ plain then some none
  else none

/-- Reads a number. -/
def parse? (t : Text) : Option Single :=
  let (negative, body) := Decimal.sign t
  match word? negative (body == t) body with
  | some x => some x
  | none =>
    let digits (hex : Bool) : Text → Option Text := fun t =>
      let isDigitHere (b : UInt8) : Bool := if hex then (hexValue? b).isSome else isDigit b
      if underscoresValid isDigitHere hex t then some (t.filter (· ≠ 95)) else none
    match body with
    | 48 :: x :: rest =>
      if (x = 120 ∨ x = 88) ∧ rest ≠ [] then (digits true rest).bind (hexadecimal? negative)
      else decimal? negative (digits false body)
    | body => decimal? negative (digits false body)
where
  /-- A number in decimal notation without a sign of its own. -/
  decimal? (negative : Bool) (t : Option Text) : Option Single := do
    let t ← t
    guard ((Decimal.sign t).2.length = t.length)
    let l ← Decimal.literal? t
    return scaled negative 10 l.digits (toString l.digits).length l.exponent

end Single

end Teleop
