/-!
# Instants and durations

A duration is a number of nanoseconds. An instant is a number of nanoseconds since the start of
year 1, so the instant zero is the one that stands for "never". The difference of two instants is
a 64-bit duration: a difference out of range becomes the nearest end of the range.
-/

namespace Teleop

/-- A number of nanoseconds. -/
abbrev Duration := Int

namespace Duration

def microsecond : Duration := 1000

def millisecond : Duration := 1000 * microsecond

def second : Duration := 1000 * millisecond

def minute : Duration := 60 * second

def hour : Duration := 60 * minute

/-- The least and the greatest 64-bit duration. -/
def least : Duration := -9223372036854775808

@[inherit_doc least]
def greatest : Duration := 9223372036854775807

/-- The nearest 64-bit duration. -/
def clamp (d : Int) : Duration :=
  if d < least then least else if greatest < d then greatest else d

end Duration

/-- A point in time, in nanoseconds since the start of year 1. -/
structure Instant where
  nanos : Int
  deriving DecidableEq, Repr

namespace Instant

/-- The start of year 1, which stands for "never". -/
def zero : Instant := ⟨0⟩

instance : Inhabited Instant := ⟨zero⟩

def add (t : Instant) (d : Duration) : Instant :=
  ⟨t.nanos + d⟩

/-- The duration from `u` to `t`, clamped to 64 bits. -/
def since (t u : Instant) : Duration :=
  Duration.clamp (t.nanos - u.nanos)

/-- The start of a day, given as the number of days since the start of year 1. -/
def ofDay (day : Int) : Instant :=
  ⟨day * (24 * Duration.hour)⟩

/-- The start of year 2100, where scripted clocks begin. -/
def year2100 : Instant :=
  ofDay 766644

end Instant

end Teleop
