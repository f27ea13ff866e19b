import Teleop.Bytes

/-!
# Port allocator

Local ports are handed out in rotation from a range: the search starts behind the port that was
handed out last and takes the first one that a probe reports free. Before the first search the
range is provisioned, once; a search whose provisioning fails probes nothing.
-/

namespace Teleop

/-- A rotation through the ports from `min` to `max`. -/
structure Allocator where
  min : Int
  max : Int
  /-- Where the next search starts. -/
  cursor : Int
  provisioned : Bool := false
  deriving DecidableEq, Repr

namespace Allocator

/-- Why there is no allocator or no port. -/
inductive Error where
  | invalidRange (min max : Int)
  | noFreePort (min max : Int)
  | provisioning (min max : Int) (reason : Text)
  deriving DecidableEq, Repr

private def rangeText (min max : Int) : Text :=
  utf8 ": [" ++ decimal min ++ utf8 ", " ++ decimal max ++ utf8 "]"

def Error.message : Error → Text
  | invalidRange min max => utf8 "portalloc: invalid port range" ++ rangeText min max
  | noFreePort min max => utf8 "portalloc: no free port in range" ++ rangeText min max
  | provisioning min max reason =>
    utf8 "provision ports " ++ decimal min ++ utf8 "-" ++ decimal max ++ utf8 ": " ++ reason

/-- A range has positive ports up to 65535 and is not empty. -/
def new (min max : Int) : Except Error Allocator :=
  if min ≤ 0 ∨ 65535 < max ∨ max < min then .error (.invalidRange min max)
  else .ok { min, max, cursor := min }

/-- The number of ports of the range. -/
def size (a : Allocator) : Nat :=
  (a.max - a.min + 1).toNat

/-- The port after `port` in the rotation. -/
def succ (a : Allocator) (port : Int) : Int :=
  if a.max < port + 1 then a.min else port + 1

/-- The result of a search. -/
structure Search where
  port : Option Int
  /-- Where the next search starts. -/
  cursor : Int
  /-- The ports that were probed, in order. -/
  probed : List Int
  deriving DecidableEq, Repr

/-- Probes at most `count` ports from `port` on, until one is free. -/
def search (a : Allocator) (free : Int → Bool) : Nat → Int → Search
  | 0, port => ⟨none, port, []⟩
  | count + 1, port =>
    if free port then ⟨some port, a.succ port, [port]⟩
    else
      let rest := a.search free count (a.succ port)
      { rest with probed := port :: rest.probed }

/-- What a call of `next` did. -/
structure Taken where
  result : Except Error Int
  allocator : Allocator
  /-- The range was to be provisioned. -/
  provisioning : Bool
  probed : List Int

/-- The next free port. The range is provisioned first unless that has been done; `failure` is what
goes wrong with that, if anything. -/
def next (a : Allocator) (free : Int → Bool) (failure : Option Text) : Taken :=
  match a.provisioned, failure with
  | false, some reason =>
    { result := .error (.provisioning a.min a.max reason), allocator := a, provisioning := true,
      probed := [] }
  | provisioned, _ =>
    let found := a.search free a.size a.cursor
    { result := match found.port with
        | some port => .ok port
        | none => .error (.noFreePort a.min a.max)
      allocator := { a with provisioned := true, cursor := found.cursor }
      provisioning := !provisioned
      probed := found.probed }

end Allocator

end Teleop
