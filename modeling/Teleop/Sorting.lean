/-!
# Sorting by any comparison

A comparison that is no order still decides how a list is arranged, but then the arrangement depends
on which entries are compared. So the steps are fixed here: short ranges are sorted by insertion,
longer ones are divided around a pivot, and after too many bad pivots a heap is used.

* `sortWith` arranges a list.
-/

namespace Teleop

namespace Sorting

variable {α : Type} (less : α → α → Bool)

/-- Compares two entries by their places. -/
def lessAt (xs : Array α) (i j : Nat) : Bool :=
  match xs[i]?, xs[j]? with
  | some a, some b => less a b
  | _, _ => false

/-! ## Insertion -/

/-- Moves the entry at a place down as long as it is less than the one before it. -/
def sink (lowest : Nat) : Nat → Array α → Array α
  | 0, xs => xs
  | i + 1, xs =>
    if lowest < i + 1 ∧ lessAt less xs (i + 1) i then sink lowest i (xs.swapIfInBounds (i + 1) i)
    else xs

/-- Moves the entry before a place up, over at most `steps` places, as long as the next one is less
than it. -/
def lift : Nat → Nat → Array α → Array α
  | 0, _, xs => xs
  | steps + 1, i, xs =>
    if lessAt less xs i (i - 1) then lift steps (i + 1) (xs.swapIfInBounds i (i - 1)) else xs

/-- Sorts the places from `a` to before `b` by insertion. -/
def insert (a b : Nat) (xs : Array α) : Array α :=
  (List.range' (a + 1) (b - a - 1)).foldl (fun xs i => sink less a i xs) xs

/-- The first place from `i` on, before `b`, whose entry is less than the one before it. -/
def firstDrop (b : Nat) (xs : Array α) : Nat → Nat → Nat
  | 0, i => i
  | steps + 1, i => if i < b ∧ !lessAt less xs i (i - 1) then firstDrop b xs steps (i + 1) else i

/-- Mends a range that is nearly sorted, in at most `rounds` rounds, and tells whether it is sorted
then. A range of fewer than fifty entries is left as it is. -/
def mend (a b : Nat) : Nat → Nat → Array α → Array α × Bool
  | 0, _, xs => (xs, false)
  | rounds + 1, i, xs =>
    let i := firstDrop less b xs (b - i) i
    if i = b then (xs, true)
    else if b - a < 50 then (xs, false)
    else
      let xs := xs.swapIfInBounds i (i - 1)
      let xs := if 2 ≤ i - a then sink less 0 (i - 1) xs else xs
      let xs := if 2 ≤ b - i then lift less (b - i - 1) (i + 1) xs else xs
      mend a b rounds i xs

/-! ## A heap -/

/-- Moves the entry at a place of the heap down to where it is not less than those below it. The
heap has `size` entries and starts at `first`. -/
def settle (first size : Nat) : Nat → Nat → Array α → Array α
  | 0, _, xs => xs
  | steps + 1, top, xs =>
    let child := 2 * top + 1
    if size ≤ child then xs
    else
      let child :=
        if child + 1 < size ∧ lessAt less xs (first + child) (first + child + 1) then child + 1
        else child
      if lessAt less xs (first + top) (first + child) then
        settle first size steps child (xs.swapIfInBounds (first + top) (first + child))
      else xs

/-- Sorts a range with a heap. -/
def heapSort (a b : Nat) (xs : Array α) : Array α :=
  let size := b - a
  let xs := (List.range ((size - 1) / 2 + 1)).reverse.foldl
    (fun xs i => settle less a size size i xs) xs
  (List.range size).reverse.foldl
    (fun xs i => settle less a i size 0 (xs.swapIfInBounds a (a + i))) xs

/-! ## Pivots -/

/-- How the entries look that a pivot was chosen from. -/
inductive Trend where
  | rising
  | falling
  | unknown
  deriving DecidableEq, Repr

/-- The place of the middle one of three entries, and how often two of them were out of order. -/
def median (xs : Array α) (a b c : Nat) : Nat × Nat :=
  let order (a b : Nat) : Nat × Nat × Nat := if lessAt less xs b a then (b, a, 1) else (a, b, 0)
  let (a, b, first) := order a b
  let (b, _, second) := order b c
  let (_, b, third) := order a b
  (b, first + second + third)

/-- A pivot for a range: the middle one of three entries, each the middle one of its neighbourhood
if the range is long. -/
def pivot (a b : Nat) (xs : Array α) : Nat × Trend :=
  let length := b - a
  let place (k : Nat) : Nat × Nat :=
    let i := a + length / 4 * k
    if 50 ≤ length then median less xs (i - 1) i (i + 1) else (i, 0)
  let (i, first) := place 1
  let (j, second) := place 2
  let (k, third) := place 3
  let (j, last) := median less xs i j k
  let swaps := first + second + third + last
  (j, if swaps = 0 then .rising else if swaps = 12 then .falling else .unknown)

/-- The next of a sequence of scattered words. -/
def scatter (w : UInt64) : UInt64 :=
  let w := w ^^^ (w <<< 13)
  let w := w ^^^ (w >>> 7)
  w ^^^ (w <<< 17)

/-- Exchanges three entries in the middle of a range with others, so that it loses its pattern. -/
def shake (a b : Nat) (xs : Array α) : Array α :=
  let length := b - a
  let modulus := Nat.pow 2 (Nat.log2 length + 1)
  let middle := a + length / 4 * 2 - 1
  ((List.range 3).foldl (fun (xs, w) i =>
    let w := scatter w
    let other := w.toNat % modulus
    let other := if length ≤ other then other - length else other
    (xs.swapIfInBounds (middle + i) (a + other), w)) (xs, UInt64.ofNat length)).1

/-! ## Dividing a range -/

/-- The first place from `i` up to `j` that does not stay, or the one behind `j`. -/
def upTo (stays : Nat → Bool) (j : Nat) : Nat → Nat → Nat
  | 0, i => i
  | steps + 1, i => if i ≤ j ∧ stays i then upTo stays j steps (i + 1) else i

/-- The first place from `j` down to `i` that does not stay, or the one before `i`. -/
def downTo (stays : Nat → Bool) (i : Nat) : Nat → Nat
  | 0 => 0
  | j + 1 => if i ≤ j + 1 ∧ stays (j + 1) then downTo stays i j else j + 1

/-- Exchanges what does not stay on the left with what does not stay on the right until the two
sides meet. The last part of the result tells whether nothing was exchanged. -/
def meet (left right : Array α → Nat → Bool) : Nat → Nat → Nat → Bool → Array α →
    Array α × Nat × Nat × Bool
  | 0, i, j, still, xs => (xs, i, j, still)
  | steps + 1, i, j, still, xs =>
    let i := upTo (left xs) j (j + 1 - i) i
    let j := downTo (right xs) i j
    if j < i then (xs, i, j, still)
    else meet left right steps (i + 1) (j - 1) false (xs.swapIfInBounds i j)

/-- Divides a range into what is less than the pivot and what is not. The new place of the pivot is
returned, and whether the range was divided like that already. -/
def divide (a b pivot : Nat) (xs : Array α) : Array α × Nat × Bool :=
  let xs := xs.swapIfInBounds a pivot
  let (xs, _, j, still) := meet (fun xs i => lessAt less xs i a) (fun xs j => !lessAt less xs j a)
    (b - a) (a + 1) (b - 1) true xs
  (xs.swapIfInBounds j a, j, still)

/-- Divides a range into what does not exceed the pivot and what does. -/
def divideEqual (a b pivot : Nat) (xs : Array α) : Array α × Nat :=
  let (xs, i, _, _) := meet (fun xs i => !lessAt less xs a i) (fun xs j => lessAt less xs a j)
    (b - a) (a + 1) (b - 1) true (xs.swapIfInBounds a pivot)
  (xs, i)

/-! ## The whole -/

/-- Sorts the places from `a` to before `b`. `badPivots` is how many bad pivots are tolerated;
`balanced` and `still` tell how the last division went. Each step takes the range apart, so that
its length bounds the steps. -/
def sortRange : Nat → Nat → Nat → Nat → Bool → Bool → Array α → Array α
  | 0, _, _, _, _, _, xs => xs
  | steps + 1, badPivots, a, b, balanced, still, xs =>
    let length := b - a
    if length ≤ 12 then insert less a b xs
    else if badPivots = 0 then heapSort less a b xs
    else
      let xs := if balanced then xs else shake a b xs
      let badPivots := if balanced then badPivots else badPivots - 1
      let (p, trend) := pivot less a b xs
      let (xs, p, rising) := match trend with
        | .rising => (xs, p, true)
        | .unknown => (xs, p, false)
        | .falling => (turn a (b - 1) length xs, b - 1 - (p - a), true)
      let (xs, done) :=
        if balanced ∧ still ∧ rising then mend less a b 5 (a + 1) xs else (xs, false)
      if done then xs
      else if 0 < a ∧ !lessAt less xs (a - 1) p then
        let (xs, middle) := divideEqual less a b p xs
        sortRange steps badPivots middle b balanced still xs
      else
        let (xs, middle, still) := divide less a b p xs
        let left := middle - a
        let right := b - middle
        if left < right then
          let xs := sortRange steps badPivots a middle true true xs
          sortRange steps badPivots (middle + 1) b (length / 8 ≤ left) still xs
        else
          let xs := sortRange steps badPivots (middle + 1) b true true xs
          sortRange steps badPivots a middle (length / 8 ≤ right) still xs
where
  /-- A range turned around. -/
  turn (i j : Nat) : Nat → Array α → Array α
    | 0, xs => xs
    | steps + 1, xs => if i < j then turn (i + 1) (j - 1) steps (xs.swapIfInBounds i j) else xs

/-- A list arranged by a comparison. -/
def sortWith (xs : List α) : List α :=
  let size := xs.length
  (sortRange less (size + 1) (Nat.log2 size + 1) 0 size true true xs.toArray).toList

end Sorting

end Teleop
