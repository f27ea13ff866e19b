import Teleop.Bytes
import Teleop.Decimal.Binary64

/-!
# Decimal literals

A literal is a number in the usual notation: a sign, digits, a fraction, an exponent. It is read
exactly, as `digits * 10 ^ exponent`, and then rounded to a double.
-/

namespace Teleop

namespace Decimal

/-- The number `digits * 10 ^ exponent`, or its negative. -/
structure Literal where
  negative : Bool
  digits : Nat
  exponent : Int
  deriving DecidableEq, Repr

/-- The sign at the start of a text, and the rest. -/
def sign (t : Text) : Bool × Text :=
  match t with
  | 45 :: rest => (true, rest)
  | 43 :: rest => (false, rest)
  | _ => (false, t)

/-- The exponent that stands in `t` after the digits, if `t` is nothing but that. -/
def exponent? (t : Text) : Option Int :=
  match t with
  | [] => some 0
  | e :: rest =>
    let (negative, digits) := sign rest
    if (e = 69 ∨ e = 101) ∧ digits ≠ [] ∧ digits.all isDigit then
      some (if negative then -(ofDigits digits : Int) else ofDigits digits)
    else none

/-- Reads a literal. -/
def literal? (t : Text) : Option Literal := do
  let (negative, t) := sign t
  let whole := t.takeWhile isDigit
  let t := t.dropWhile isDigit
  let (fraction, t) := match t with
    | 46 :: t => (t.takeWhile isDigit, t.dropWhile isDigit)
    | t => ([], t)
  guard (!(whole ++ fraction).isEmpty)
  let exponent ← exponent? t
  return ⟨negative, ofDigits (whole ++ fraction), exponent - fraction.length⟩

/-- The double nearest to the magnitude of a literal, unless it is beyond the range of doubles.
Exponents far outside that range are settled without computing the power. -/
def Literal.round? (l : Literal) : Option Binary64 :=
  let magnitude := (toString l.digits).length + l.exponent
  if l.digits = 0 ∨ magnitude < -400 then some (Binary64.ofRatio 0 1)
  else if 400 < magnitude then none
  else
    let x :=
      if 0 ≤ l.exponent then Binary64.ofRatio (l.digits * Nat.pow 10 l.exponent.toNat) 1
      else Binary64.ofRatio l.digits (Nat.pow 10 (-l.exponent).toNat)
    if x.finite then some x else none

end Decimal

end Teleop
