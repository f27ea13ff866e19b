import Teleop.Json.Value

/-!
# Reading JSON

`Json.parse` reads one value from a byte string. Recursion is bounded by the number of bytes: each
value, item and member takes at least one.
-/

namespace Teleop

namespace Json

def skipBlanks (b : Bytes) : Bytes :=
  b.dropWhile fun c => c == 32 || c == 9 || c == 10 || c == 13

/-- Four hexadecimal digits and the rest. -/
def unit? : Bytes → Option (Nat × Bytes)
  | a :: b :: c :: d :: rest => do
    let a ← hexValue? a
    let b ← hexValue? b
    let c ← hexValue? c
    let d ← hexValue? d
    return (a * 4096 + b * 256 + c * 16 + d, rest)
  | _ => none

/-- The code point of an escape whose first unit has been read: two surrogates make one code point,
a surrogate alone stands for the replacement character. -/
def codePoint (unit : Nat) (rest : Bytes) : Nat × Bytes :=
  if 0xD800 ≤ unit ∧ unit ≤ 0xDBFF then
    match rest with
    | 92 :: 117 :: more =>
      match unit? more with
      | some (low, more) =>
        if 0xDC00 ≤ low ∧ low ≤ 0xDFFF then
          (0x10000 + (unit - 0xD800) * 1024 + (low - 0xDC00), more)
        else (0xFFFD, rest)
      | none => (0xFFFD, rest)
    | _ => (0xFFFD, rest)
  else if 0xDC00 ≤ unit ∧ unit ≤ 0xDFFF then (0xFFFD, rest)
  else (unit, rest)

/-- The bytes of a string after its opening quote, in reverse, and the rest. -/
def stringBody : Nat → Bytes → Bytes → Option (Text × Bytes)
  | 0, _, _ => none
  | fuel + 1, done, b =>
    match b with
    | [] => none
    | 34 :: rest => some (done.reverse, rest)
    | 92 :: rest =>
      match rest with
      | 117 :: rest => do
        let (unit, rest) ← unit? rest
        let (code, rest) := codePoint unit rest
        stringBody fuel ((Utf8.encode code).reverse ++ done) rest
      | c :: rest =>
        let byte? : Option UInt8 :=
          if c = 34 ∨ c = 92 ∨ c = 47 then some c
          else if c = 98 then some 8
          else if c = 102 then some 12
          else if c = 110 then some 10
          else if c = 114 then some 13
          else if c = 116 then some 9
          else none
        match byte? with
        | some byte => stringBody fuel (byte :: done) rest
        | none => none
      | [] => none
    | c :: rest => stringBody fuel (c :: done) rest

/-- The bytes that may occur in a number. -/
def isNumberByte (c : UInt8) : Bool :=
  (48 ≤ c && c ≤ 57) || c == 45 || c == 43 || c == 46 || c == 101 || c == 69

/-- The rest of a byte string after a word. -/
def afterWord? (word b : Bytes) : Option Bytes :=
  if word.isPrefixOf b then some (b.drop word.length) else none

mutual

/-- One value and the rest. -/
def value? : Nat → Bytes → Option (Json × Bytes)
  | 0, _ => none
  | fuel + 1, b =>
    match skipBlanks b with
    | [] => none
    | 34 :: rest => (stringBody fuel [] rest).map fun (t, rest) => (string t, rest)
    | 91 :: rest =>
      match skipBlanks rest with
      | 93 :: rest => some (array [], rest)
      | rest => (items? fuel rest).map fun (items, rest) => (array items, rest)
    | 123 :: rest =>
      match skipBlanks rest with
      | 125 :: rest => some (object [], rest)
      | rest => (members? fuel rest).map fun (members, rest) => (object members, rest)
    | c :: rest =>
      if isNumberByte c then
        some (number (c :: rest.takeWhile isNumberByte), rest.dropWhile isNumberByte)
      else
        ((afterWord? (utf8 "null") (c :: rest)).map fun rest => (null, rest)) <|>
        ((afterWord? (utf8 "true") (c :: rest)).map fun rest => (bool true, rest)) <|>
        ((afterWord? (utf8 "false") (c :: rest)).map fun rest => (bool false, rest))

/-- One or more items up to the closing bracket. -/
def items? : Nat → Bytes → Option (List Json × Bytes)
  | 0, _ => none
  | fuel + 1, b => do
    let (item, rest) ← value? fuel b
    match skipBlanks rest with
    | 44 :: rest => do
      let (items, rest) ← items? fuel rest
      return (item :: items, rest)
    | 93 :: rest => return ([item], rest)
    | _ => none

/-- One or more members up to the closing brace. -/
def members? : Nat → Bytes → Option (List (Text × Json) × Bytes)
  | 0, _ => none
  | fuel + 1, b =>
    match skipBlanks b with
    | 34 :: rest => do
      let (name, rest) ← stringBody fuel [] rest
      match skipBlanks rest with
      | 58 :: rest => do
        let (value, rest) ← value? fuel rest
        match skipBlanks rest with
        | 44 :: rest => do
          let (members, rest) ← members? fuel rest
          return ((name, value) :: members, rest)
        | 125 :: rest => return ([(name, value)], rest)
        | _ => none
      | _ => none
    | _ => none

end

/-- The value that a whole byte string denotes. -/
def parse (b : Bytes) : Option Json := do
  let (value, rest) ← value? (b.length + 1) b
  if (skipBlanks rest).isEmpty then return value else none

end Json

end Teleop
