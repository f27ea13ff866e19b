import Teleop.Log.Entry
import Teleop.Text.Blank
import Teleop.Text.Case
import Teleop.Text.Fold

/-!
# Names of log levels

A level is given by its name, in any case and with blanks around it, or by its number. Anything
else, and the empty name, stands for the info level.
-/

namespace Teleop

namespace Log

namespace Level

/-- The levels that have a name. -/
def named : List (String × Level) :=
  [("trace", trace), ("debug", debug), ("info", info), ("warn", warn), ("error", error),
    ("fatal", fatal), ("panic", panic), ("disabled", disabled)]

/-- The name of a level, or its number. -/
def name (l : Level) : Text :=
  match named.find? (·.2 == l) with
  | some (name, _) => utf8 name
  | none => if l = unset then [] else decimal l.number

/-- An optional sign and decimal digits. -/
def number? (t : Text) : Option Int := do
  let (negative, digits) := match t with
    | 45 :: rest => (true, rest)
    | 43 :: rest => (false, rest)
    | _ => (false, t)
  guard (!digits.isEmpty && digits.all isDigit)
  return if negative then -(ofDigits digits : Int) else ofDigits digits

/-- The level that a text stands for. -/
def parse (t : Text) : Level :=
  let folded := foldCase (lowerCase (trim t))
  match named.find? (utf8 ·.1 == folded) with
  | some (_, l) => l
  | none =>
    match number? folded with
    | some n => if n < -128 ∨ 127 < n ∨ ⟨n⟩ = unset then info else ⟨n⟩
    | none => info

end Level

end Log

end Teleop
