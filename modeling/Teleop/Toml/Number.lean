import Teleop.Decimal.Literal
import Teleop.Toml.Expr

/-!
# Numbers in TOML

Integers are decimal, hexadecimal, octal or binary and fit into 64 bits; floats are decimal and
within the range of doubles, or infinite or not a number. Underscores may stand between digits. How
far a number reaches is decided first, from its characters; then it is checked.
-/

namespace Teleop

namespace Toml

def isHexDigit (b : UInt8) : Bool :=
  isDigit b || (97 ≤ b && b ≤ 102) || (65 ≤ b && b ≤ 70)

/-- The value of a hexadecimal digit. -/
def digitValue (b : UInt8) : Nat :=
  if b ≤ 57 then b.toNat - 48 else if b ≤ 70 then b.toNat - 55 else b.toNat - 87

/-- The number that digits denote in a base; underscores do not count. -/
def ofBase (base : Nat) (t : Text) : Nat :=
  (t.filter (· ≠ 95)).foldl (fun n b => n * base + digitValue b) 0

/-- Every underscore follows a digit, and so does the end. -/
def underscoresFit (t : Text) : Bool :=
  let step (state : Bool × Bool) (b : UInt8) : Bool × Bool :=
    (state.1 && (b ≠ 95 || state.2), isHexDigit b)
  let (fit, digit) := t.foldl step (true, false)
  fit && digit

/-- A zero in front of further characters, unless it introduces a base. -/
def hasLeadingZero (t : Text) : Bool :=
  match t with
  | 48 :: b :: _ => !(b == 98 || b == 111 || b == 120)
  | s :: 48 :: _ :: _ => s == 45 || s == 43
  | _ => false

/-- An integer of 64 bits, given its characters. -/
def integer? (t : Text) : Option Int := do
  guard (underscoresFit t && !hasLeadingZero t)
  let n : Int := match t with
    | 48 :: 120 :: digits => ofBase 16 digits
    | 48 :: 111 :: digits => ofBase 8 digits
    | 48 :: 98 :: digits => ofBase 2 digits
    | 45 :: digits => -(ofBase 10 digits : Int)
    | 43 :: digits => ofBase 10 digits
    | digits => ofBase 10 digits
  guard (-9223372036854775808 ≤ n ∧ n ≤ 9223372036854775807)
  return n

/-- The infinities and the values that are not numbers. -/
def specialFloats : List Text :=
  ["inf", "+inf", "-inf", "nan", "+nan", "-nan"].map utf8

/-- The parts of a float between points and exponent marks, without empty ones. -/
def floatParts (t : Text) : List Text :=
  let isMark (b : UInt8) : Bool := b == 46 || b == 69 || b == 101
  let parts := t.foldr (fun b parts =>
    if isMark b then [] :: parts
    else match parts with
      | [] => [[b]]
      | part :: rest => (b :: part) :: rest) [[]]
  parts.filter (!·.isEmpty)

/-- A digit follows every point. -/
def pointsFit : Text → Bool
  | [] => true
  | 46 :: rest =>
    (match rest with
      | b :: _ => isDigit b
      | [] => false) && pointsFit rest
  | _ :: rest => pointsFit rest

/-- The characters are those of a float. -/
def isFloat (t : Text) : Bool :=
  specialFloats.contains t ||
    let parts := floatParts t
    parts.all underscoresFit && !(parts.head?.map hasLeadingZero).getD false && pointsFit t &&
      (((Decimal.literal? (t.filter (· ≠ 95))).bind (·.round?)).isSome)

/-- What the characters of a number are those of. -/
inductive NumberForm where
  | integer
  | float
  | moment
  deriving DecidableEq, Repr

/-- Splits where the first byte stands that is not of a kind. -/
def munch (p : UInt8 → Bool) (b : Bytes) : Text × Bytes :=
  (b.takeWhile p, b.dropWhile p)

/-- An exponent or a fraction may follow. -/
def startsFloat : Bytes → Bool
  | b :: _ => b == 46 || b == 69 || b == 101
  | [] => false

/-- Continues with what can be part of a float after its first mark. -/
def floatTail (done rest : Bytes) : NumberForm × Text × Bytes :=
  let (more, rest) := munch
    (fun b => isDigit b || b == 95 || b == 46 || b == 45 || b == 43 || b == 101 || b == 69) rest
  (.float, done ++ more, rest)

/-- Continues with digits and underscores, and with a float if its mark follows. -/
def decimalTail (done rest : Bytes) : NumberForm × Text × Bytes :=
  let (more, rest) := munch (fun b => isDigit b || b == 95) rest
  if startsFloat rest then floatTail (done ++ more) rest else (.integer, done ++ more, rest)

/-- Continues with digits, and with a date, a time, or a number if its mark follows. -/
def digitTail (done rest : Bytes) : NumberForm × Text × Bytes :=
  let (more, rest) := munch isDigit rest
  let done := done ++ more
  match rest with
  | b :: _ =>
    if b = 45 ∨ b = 58 then
      let (more, rest) := munch
        (fun b => isDigit b || (utf8 "-:Tt .Zz+").contains b) rest
      (.moment, done ++ more, rest)
    else if b = 95 then decimalTail done rest
    else if startsFloat rest then floatTail done rest
    else (.integer, done, rest)
  | [] => (.integer, done, rest)

/-- An integer with a base: at least one digit has to follow the base. -/
def baseTail (lead : Bytes) (p : UInt8 → Bool) (rest : Bytes) :
    Option (NumberForm × Text × Bytes) :=
  match rest with
  | b :: _ =>
    if p b then
      let (more, rest) := munch (fun b => p b || b == 95) rest
      some (.integer, lead ++ more, rest)
    else none
  | [] => none

/-- The characters of a number at the start of a text, and the rest. -/
def number? (b : Bytes) : Option (NumberForm × Text × Bytes) :=
  match b with
  | 48 :: rest =>
    match rest with
    | 98 :: more => baseTail [48, 98] (fun b => b == 48 || b == 49) more
    | 111 :: more => baseTail [48, 111] (fun b => 48 ≤ b && b ≤ 55) more
    | 120 :: more => baseTail [48, 120] isHexDigit more
    | 95 :: _ => some (decimalTail [48] rest)
    | c :: _ =>
      if isDigit c then some (digitTail [48] rest)
      else if startsFloat rest then some (floatTail [48] rest)
      else some (.integer, [48], rest)
    | [] => some (.integer, [48], [])
  | c :: rest =>
    if isDigit c then some (digitTail [c] rest)
    else if c = 45 ∨ c = 43 then
      match rest with
      | 105 :: 110 :: 102 :: rest => some (.float, [c, 105, 110, 102], rest)
      | 110 :: 97 :: 110 :: rest => some (.float, [c, 110, 97, 110], rest)
      | 48 :: 98 :: _ | 48 :: 111 :: _ | 48 :: 120 :: _ => none
      | d :: _ => if isDigit d then some (decimalTail [c] rest) else none
      | [] => none
    else none
  | [] => none

end Toml

end Teleop
