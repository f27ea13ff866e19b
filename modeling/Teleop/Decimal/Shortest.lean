import Teleop.Bytes
import Teleop.Decimal.Binary64

/-!
# Shortest decimals

The decimal with the fewest digits that rounds to a given double, the nearest one if there are
several, and its text: positional from `1e-6` up to `1e21`, with an exponent outside.
-/

namespace Teleop

namespace Decimal

/-- The decimal `digits * 10 ^ exponent`. -/
structure Scaled where
  digits : Nat
  exponent : Int
  deriving DecidableEq, Repr

/-- The number of decimal digits of a natural number. -/
def digitCount (n : Nat) : Nat :=
  (Nat.toDigits 10 n).length

/-- The `p` with `10 ^ (p - 1) ≤ n / d < 10 ^ p`, for positive `n` and `d`. -/
def magnitude (n d : Nat) : Int :=
  if d ≤ n then digitCount (n / d)
  else
    let count := digitCount (d / n)
    if n * Nat.pow 10 (count - 1) = d then 2 - (count : Int) else 1 - (count : Int)

/-- Compares `c * 10 ^ q` with `u * 2 ^ s`. -/
def compareScaled (c : Nat) (q : Int) (u : Nat) (s : Int) : Ordering :=
  let left := c * Nat.pow 10 q.toNat * Nat.pow 2 (-s).toNat
  let right := u * Nat.pow 2 s.toNat * Nat.pow 10 (-q).toNat
  compare left right

/-- The largest `c` with `c * 10 ^ q ≤ n / d`. -/
def floorAt (n d : Nat) (q : Int) : Nat :=
  if 0 ≤ q then n / (d * Nat.pow 10 q.toNat) else n * Nat.pow 10 (-q).toNat / d

/-- `c * 10 ^ q` rounds to `x`: it lies between the midpoints to the neighbours of `x`, which
themselves round to `x` if its significand is even. In quarters of the last place of `x` the upper
midpoint is two away; the lower one is only one away below a power of two. -/
def roundsTo (x : Binary64) (c : Nat) (q : Int) : Bool :=
  let s := x.exponent - 2
  let narrow :=
    x.significand = Nat.pow 2 (Binary64.precision - 1) ∧ Binary64.minExponent < x.exponent
  let lower := compareScaled c q (4 * x.significand - (if narrow then 1 else 2)) s
  let upper := compareScaled c q (4 * x.significand + 2) s
  if x.significand % 2 = 0 then lower.isGE && upper.isLE
  else lower == .gt && upper == .lt

/-- `c * 10 ^ q` is nearer to `x` than its successor on the grid, or as near and even. -/
def nearerBelow (x : Binary64) (c : Nat) (q : Int) : Bool :=
  match compareScaled (2 * c + 1) q (2 * x.significand) x.exponent with
  | .gt => true
  | .lt => false
  | .eq => c % 2 == 0

/-- The first grid, from `count` digits on, with a decimal that rounds to `x`. -/
def searchGrid (x : Binary64) (n d : Nat) (p : Int) : Nat → Nat → Scaled
  | 0, count => ⟨floorAt n d (p - count), p - count⟩
  | fuel + 1, count =>
    let q := p - count
    let c := floorAt n d q
    match roundsTo x c q, roundsTo x (c + 1) q with
    | true, true => if nearerBelow x c q then ⟨c, q⟩ else ⟨c + 1, q⟩
    | true, false => ⟨c, q⟩
    | false, true => ⟨c + 1, q⟩
    | false, false => searchGrid x n d p fuel (count + 1)

/-- The shortest decimal that rounds to `x`; seventeen digits always suffice. -/
def shortest (x : Binary64) : Scaled :=
  if x.significand = 0 then ⟨0, 0⟩
  else
    let (n, d) := x.toRatio
    searchGrid x n d (magnitude n d) 17 1

/-- The digits without zeros at the end, and the position of the point behind the first `p`. -/
def Scaled.parts (s : Scaled) : Text × Int :=
  let digits := decimal s.digits
  ((digits.reverse.dropWhile (· = 48)).reverse, (digits.length : Int) + s.exponent)

/-- Digits around a decimal point that stands after the first `p` of them. -/
def positional (digits : Text) (p : Int) : Text :=
  if p ≤ 0 then utf8 "0." ++ List.replicate (-p).toNat 48 ++ digits
  else
    let p := p.toNat
    if digits.length ≤ p then digits ++ List.replicate (p - digits.length) 48
    else digits.take p ++ utf8 "." ++ digits.drop p

/-- One digit before the point and an exponent of ten; a positive exponent has two digits at
least. -/
def scientific (digits : Text) (p : Int) : Text :=
  let fraction := digits.drop 1
  let exponent := p - 1
  digits.take 1 ++ (if fraction.isEmpty then [] else utf8 "." ++ fraction) ++ utf8 "e" ++
    (if exponent < 0 then decimal exponent
     else utf8 "+" ++ (if exponent < 10 then utf8 "0" else []) ++ decimal exponent)

/-- The text of a double. -/
def text (negative : Bool) (x : Binary64) : Text :=
  (if negative then utf8 "-" else []) ++
    if x.significand = 0 then utf8 "0"
    else
      let (digits, p) := (shortest x).parts
      if p ≤ -6 ∨ 21 < p then scientific digits p else positional digits p

end Decimal

end Teleop
