import Teleop.Program

/-!
# Foresight

The operations of a program are pure, so a step can be tried before the sockets are touched. A step
is first worked out under the assumption that every port can be bound and every datagram written;
then its demands are carried out one after the other. If one of them fails, the step is worked out
again with that knowledge: up to the failure it makes the same demands.

* `Foresight` is what is known about the network during one step;
* `demands` reads off a journal what is to be done with the sockets.
-/

namespace Teleop

namespace Live

/-- What is known about the network during one step. -/
structure Foresight where
  /-- The local ports that cannot be bound, and why. -/
  refused : List (Int × Text) := []
  /-- The number of datagrams after which writing fails, and why. -/
  limit : Option (Nat × Text) := none
  /-- How many datagrams the step has written. -/
  written : Nat := 0
  deriving DecidableEq, Repr

namespace Foresight

/-- The number of datagrams that events speak of. -/
def datagrams (events : List ChannelEvent) : Nat :=
  events.countP fun
    | .link (.written ..) => true
    | _ => false

/-- The network as it is known, with the addresses of host names. -/
def network (names : List (Text × Bytes)) : Network Foresight where
  names
  bind f port := f.refused.lookup port
  write f i _ _ := f.limit.bind fun (count, reason) =>
    if count ≤ f.written + i then some reason else none
  after f events := { f with written := f.written + datagrams events }

/-- A port that cannot be bound is refused to the channel and busy for the supply of ports. -/
def apply (f : Foresight) (w : Program.ProgramWorld Foresight) : Program.ProgramWorld Foresight :=
  { w with
    channel := { w.channel with network := f }
    ports := w.ports.map fun p => { p with busy := f.refused.map (·.1) }
    journal := [] }

end Foresight

/-- Something to be done with the sockets. -/
inductive Demand where
  /-- Binds a socket to a local port. -/
  | bind (link : Nat) (localPort : Int) (remote : Address)
  | write (link : Nat) (frame : Bytes)
  | close (link : Nat)
  deriving DecidableEq, Repr

/-- The demands of a step, in order. -/
def demands (events : List Event) : List Demand :=
  events.filterMap fun
    | .link (.opened link localPort remote _) => some (.bind link localPort remote)
    | .link (.written link frame) => some (.write link frame)
    | .link (.closed link) => some (.close link)
    | _ => none

/-- What is known after a demand that follows `before` has failed. -/
def Foresight.learn (f : Foresight) (before : List Demand) (failed : Demand) (reason : Text) :
    Foresight :=
  match failed with
  | .bind _ localPort _ => { f with refused := (localPort, reason) :: f.refused }
  | .write .. =>
    let written := before.countP fun
      | .write .. => true
      | _ => false
    { f with limit := some (written, reason) }
  | .close _ => f

end Live

end Teleop
