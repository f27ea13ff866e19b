import Teleop.Decimal.Binary64
import Teleop.Json.Value

/-!
# Log entries

An entry has a level, a message and named values. How an entry is written is the matter of the
lines that hold it; here it is data.
-/

namespace Teleop

namespace Log

/-- Levels in order of severity, as the numbers that configurations may use. -/
structure Level where
  number : Int
  deriving DecidableEq, Repr

namespace Level

def trace : Level := ⟨-1⟩

def debug : Level := ⟨0⟩

def info : Level := ⟨1⟩

def warn : Level := ⟨2⟩

def error : Level := ⟨3⟩

def fatal : Level := ⟨4⟩

def panic : Level := ⟨5⟩

/-- No level at all. -/
def unset : Level := ⟨6⟩

/-- The level at which nothing is written. -/
def disabled : Level := ⟨7⟩

end Level

/-- A value attached to an entry. -/
inductive Value where
  | text (t : Text)
  | int (n : Int)
  /-- A floating-point number. -/
  | real (negative : Bool) (magnitude : Binary64)
  | bool (b : Bool)
  | null
  /-- Structured data. -/
  | data (value : Json)
  deriving Repr

/-- Named values. -/
abbrev Fields := List (Text × Value)

/-- Something worth noting. -/
structure Entry where
  level : Level
  message : Text
  fields : Fields := []
  deriving Repr

/-- A field with a text. -/
def textField (name : String) (t : Text) : Text × Value :=
  (utf8 name, .text t)

/-- A field with a whole number. -/
def intField (name : String) (n : Int) : Text × Value :=
  (utf8 name, .int n)

end Log

end Teleop
