import Teleop.Text.Utf8

/-!
# Case folding

Two texts are the same but for case if their code points fold to the same. Only foldings to ASCII
letters are needed, because one side of every comparison is ASCII: besides the capitals these are
the long s and the Kelvin sign.
-/

namespace Teleop

/-- What a code point folds to, where that is an ASCII letter, and else its own bytes. -/
def Rune.fold : Rune → Text
  | .stray b => [b]
  | .scalar code bytes =>
    if 65 ≤ code ∧ code ≤ 90 then [UInt8.ofNat (code + 32)]
    else if code = 0x17F then utf8 "s"
    else if code = 0x212A then utf8 "k"
    else bytes

/-- The text with all its code points folded. -/
def foldCase (t : Text) : Text :=
  (Utf8.runes t).flatMap Rune.fold

end Teleop
