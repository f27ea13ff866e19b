import Teleop.Text.Printable
import Teleop.Text.Utf8
import Teleop.Uuid

/-!
# Quoted texts

A text in double quotes that shows everything in it: printable code points stand for themselves, and
all others are escaped.
-/

namespace Teleop

/-- A code point in at least eight or four hexadecimal digits. -/
def escapeCode (code : Nat) : Text :=
  let bytes (n : Nat) : Text := hexText [UInt8.ofNat (n / 256), UInt8.ofNat (n % 256)]
  if code < 0x10000 then utf8 "\\u" ++ bytes code
  else utf8 "\\U" ++ bytes (code / 0x10000) ++ bytes (code % 0x10000)

/-- The control characters with a short escape. -/
def shortEscapes : List (Nat × String) :=
  [(7, "\\a"), (8, "\\b"), (9, "\\t"), (10, "\\n"), (11, "\\v"), (12, "\\f"), (13, "\\r"),
    (34, "\\\""), (92, "\\\\")]

/-- One rune inside quotes. -/
def Rune.quoted : Rune → Text
  | .stray b => utf8 "\\x" ++ hexText [b]
  | .scalar code bytes =>
    match shortEscapes.lookup code with
    | some escape => utf8 escape
    | none =>
      if isPrintable code then bytes
      else if code < 128 then utf8 "\\x" ++ hexText bytes
      else escapeCode code

/-- A text in double quotes. -/
def quoteText (t : Text) : Text :=
  [34] ++ (Utf8.runes t).flatMap Rune.quoted ++ [34]

end Teleop
