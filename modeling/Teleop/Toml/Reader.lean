import Teleop.Toml.Moment
import Teleop.Toml.Quoted

/-!
# Reading TOML

A document is read as a list of statements. Its bytes have to be well-formed UTF-8 without control
characters, other than tabs and newlines; a byte order mark at its start does not count.

* `value?` reads a value, `statements?` reads a document.

Each step of a recursion takes at least one byte, which `fuel` counts.
-/

namespace Teleop

namespace Toml

/-! ## Blanks and comments -/

def skipSpaces (b : Bytes) : Bytes :=
  b.dropWhile fun c => c == 32 || c == 9

/-- Skips blanks, newlines and comments; the first byte may be inside a comment. -/
def skipAll (inComment : Bool) : Bytes → Bytes
  | [] => []
  | c :: rest =>
    if inComment then skipAll (c != 10 && c != 13) rest
    else if c == 35 then skipAll true rest
    else if c == 32 || c == 9 || c == 10 || c == 13 then skipAll false rest
    else c :: rest

/-- Skips blanks, newlines and comments. -/
def skipGap (b : Bytes) : Bytes :=
  skipAll false b

/-! ## Keys -/

/-- The characters of a part of a key that is not quoted. -/
def isBare (b : UInt8) : Bool :=
  isDigit b || (65 ≤ b && b ≤ 90) || (97 ≤ b && b ≤ 122) || b == 95 || b == 45

/-- One part of a key and the rest. -/
def keyPart? (b : Bytes) : Option (Text × Bytes) :=
  match b with
  | 34 :: _ | 39 :: _ => line? b
  | _ =>
    let (name, rest) := munch isBare b
    if name.isEmpty then none else some (name, rest)

/-- A key up to the byte that ends it, and the rest after that. -/
def key? (stop : UInt8) : Nat → Bytes → Option (Path × Bytes)
  | 0, _ => none
  | fuel + 1, b => do
    let (part, rest) ← keyPart? (skipSpaces b)
    match skipSpaces rest with
    | c :: rest =>
      if c = 46 then do
        let (path, rest) ← key? stop fuel rest
        return (part :: path, rest)
      else if c = stop then some ([part], rest)
      else none
    | [] => none

/-! ## Values -/

/-- A word that is a value, and the rest. -/
def word? (b : Bytes) : Option (Expr × Bytes) :=
  let named (word : String) (value : Expr) : Option (Expr × Bytes) :=
    if (utf8 word).isPrefixOf b then some (value, b.drop (utf8 word).length) else none
  named "true" (.bool true) <|> named "false" (.bool false) <|>
    named "inf" (.float (utf8 "inf")) <|> named "nan" (.float (utf8 "nan"))

/-- A number, a date or a time, and the rest. -/
def numeric? (b : Bytes) : Option (Expr × Bytes) := do
  let (form, t, rest) ← number? b
  match form with
  | .integer => return (.integer (← integer? t), rest)
  | .float => do
    guard (isFloat t)
    return (.float t, rest)
  | .moment => do
    let t := (t.reverse.dropWhile (· = 32)).reverse
    guard (isMoment t)
    return (.moment t, rest)

mutual

/-- A value and the rest. -/
def value? : Nat → Bytes → Option (Expr × Bytes)
  | 0, _ => none
  | fuel + 1, b =>
    match skipSpaces b with
    | 91 :: rest => (items? fuel rest).map fun (items, rest) => (.array items, rest)
    | 123 :: rest => (pairs? fuel rest).map fun (pairs, rest) => (.inlineTable pairs, rest)
    | 34 :: rest => (string? (34 :: rest)).map fun (t, rest) => (.string t, rest)
    | 39 :: rest => (string? (39 :: rest)).map fun (t, rest) => (.string t, rest)
    | rest => word? rest <|> numeric? rest

/-- The items of an array after its opening bracket or a comma, and the rest. -/
def items? : Nat → Bytes → Option (List Expr × Bytes)
  | 0, _ => none
  | fuel + 1, b =>
    match skipGap b with
    | 93 :: rest => some ([], rest)
    | rest => do
      let (item, rest) ← value? fuel rest
      match skipGap rest with
      | 44 :: rest => do
        let (items, rest) ← items? fuel rest
        return (item :: items, rest)
      | 93 :: rest => return ([item], rest)
      | _ => none

/-- The pairs of an inline table after its opening brace or a comma, and the rest. -/
def pairs? : Nat → Bytes → Option (List (Path × Expr) × Bytes)
  | 0, _ => none
  | fuel + 1, b =>
    match skipGap b with
    | 125 :: rest => some ([], rest)
    | rest => do
      let (path, rest) ← key? 61 fuel rest
      let (value, rest) ← value? fuel rest
      match skipGap rest with
      | 44 :: rest => do
        let (pairs, rest) ← pairs? fuel rest
        return ((path, value) :: pairs, rest)
      | 125 :: rest => return ([(path, value)], rest)
      | _ => none

end

/-! ## Documents -/

/-- A statement and the rest. -/
def statement? (fuel : Nat) (b : Bytes) : Option (Statement × Bytes) :=
  match b with
  | 91 :: 91 :: rest => do
    let (path, rest) ← key? 93 fuel rest
    let rest ← after? 93 rest
    return (.element path, rest)
  | 91 :: rest => do
    let (path, rest) ← key? 93 fuel rest
    return (.table path, rest)
  | _ => do
    let (path, rest) ← key? 61 fuel b
    let (value, rest) ← value? fuel rest
    return (.pair path value, rest)

/-- The rest after a statement, which has to end with its line. -/
def lineEnd? (b : Bytes) : Option Bytes :=
  match skipSpaces b with
  | [] => some []
  | c :: rest => if c = 35 ∨ c = 10 ∨ c = 13 then some (c :: rest) else none

def statements? : Nat → Bytes → Option (List Statement)
  | 0, _ => none
  | fuel + 1, b =>
    match skipGap b with
    | [] => some []
    | rest => do
      let (statement, rest) ← statement? fuel rest
      let rest ← lineEnd? rest
      return statement :: (← statements? fuel rest)

/-- No control character other than tabs and newlines; a carriage return is part of a newline. -/
def controlsFit : Bytes → Bool
  | [] => true
  | 13 :: rest => rest.head? == some 10 && controlsFit rest
  | b :: rest => (32 ≤ b || b == 9 || b == 10) && b != 127 && controlsFit rest

/-- Without a byte order mark. -/
def dropMark : Bytes → Bytes
  | 0xFF :: 0xFE :: rest => rest
  | 0xFE :: 0xFF :: rest => rest
  | 0xEF :: 0xBB :: 0xBF :: rest => rest
  | b => b

/-- The statements of a document. -/
def read? (b : Bytes) : Option (List Statement) :=
  let b := dropMark b
  if Utf8.isValid b && controlsFit b then statements? (b.length + 1) b else none

end Toml

end Teleop
