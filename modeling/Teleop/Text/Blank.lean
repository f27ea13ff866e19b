import Teleop.Text.Utf8

/-!
# Blanks

The code points with the Unicode property White_Space, and the removal of blanks from both ends of
a text.
-/

namespace Teleop

/-- The code points with the property White_Space. -/
def isBlank (code : Nat) : Bool :=
  (9 ≤ code && code ≤ 13) || code == 32 || code == 0x85 || code == 0xA0 || code == 0x1680 ||
    (0x2000 ≤ code && code ≤ 0x200A) || code == 0x2028 || code == 0x2029 || code == 0x202F ||
    code == 0x205F || code == 0x3000

/-- A stray byte is never blank. -/
def Rune.isBlank : Rune → Bool
  | .scalar code _ => Teleop.isBlank code
  | .stray _ => false

/-- The text without the blanks at its two ends. -/
def trim (t : Text) : Text :=
  let runes := (Utf8.runes t).dropWhile Rune.isBlank
  let runes := (runes.reverse.dropWhile Rune.isBlank).reverse
  runes.flatMap Rune.bytes

end Teleop
