/-!
# Rounding to binary floating point

`Binary64.ofRatio` gives the double-precision number nearest to a quotient of natural numbers,
ties to the even significand, as a significand and a power of two. It works in exact arithmetic,
so that its results can be reasoned about.
-/

namespace Teleop

/-- The number `significand * 2 ^ exponent`. -/
structure Binary64 where
  significand : Nat
  exponent : Int
  deriving DecidableEq, Repr

namespace Binary64

/-- The nearest integer to a quotient; a tie goes to the even one. -/
def roundDiv (num den : Nat) : Nat :=
  let q := num / den
  let r := num % den
  if den < 2 * r ∨ (2 * r = den ∧ q % 2 = 1) then q + 1 else q

/-- `num / den` in units of `2 ^ e`, as a quotient. -/
def scale (num den : Nat) (e : Int) : Nat × Nat :=
  if 0 ≤ e then (num, den * Nat.pow 2 e.toNat) else (num * Nat.pow 2 (-e).toNat, den)

/-- The smallest exponent of a double. -/
def minExponent : Int := -1074

/-- The number of bits of a significand. -/
def precision : Nat := 53

/-- The number nearest to `num / den`, for `den > 0`, whose significand has at most `bits` bits and
whose exponent is at least `least`. The exponent is chosen so that the significand has all its bits,
or is the smallest one; rounding up to a power of two moves on to the next exponent. -/
def nearest (bits : Nat) (least : Int) (num den : Nat) : Binary64 :=
  if num = 0 then ⟨0, least⟩
  else
    let guess : Int := (Nat.log2 num : Int) - (Nat.log2 den : Int) - bits
    let fits (e : Int) : Bool :=
      let (n, d) := scale num den e
      n / d < Nat.pow 2 bits
    let e := if fits guess then guess else if fits (guess + 1) then guess + 1 else guess + 2
    let e := max e least
    let (n, d) := scale num den e
    let m := roundDiv n d
    if m = Nat.pow 2 bits then ⟨Nat.pow 2 (bits - 1), e + 1⟩ else ⟨m, e⟩

/-- The double nearest to `num / den`, for `den > 0`. -/
def ofRatio (num den : Nat) : Binary64 :=
  nearest precision minExponent num den

/-- The value as a quotient of natural numbers. -/
def toRatio (x : Binary64) : Nat × Nat :=
  if 0 ≤ x.exponent then (x.significand * Nat.pow 2 x.exponent.toNat, 1)
  else (x.significand, Nat.pow 2 (-x.exponent).toNat)

/-- The integer part of the value. -/
def floor (x : Binary64) : Nat :=
  let (n, d) := x.toRatio
  n / d

/-- Quotient and product, each rounded once. -/
def div (x y : Binary64) : Binary64 :=
  let (a, b) := x.toRatio
  let (c, d) := y.toRatio
  ofRatio (a * d) (b * c)

@[inherit_doc div]
def mul (x y : Binary64) : Binary64 :=
  let (a, b) := x.toRatio
  let (c, d) := y.toRatio
  ofRatio (a * c) (b * d)

def ofNat (n : Nat) : Binary64 :=
  ofRatio n 1

/-- Significands and exponents of finite doubles stay within these bounds. -/
def finite (x : Binary64) : Bool :=
  x.exponent ≤ 971

end Binary64

end Teleop
