import Teleop.Port.Allocator
import Teleop.Session.Transport

/-!
# The supply of local ports

An allocator together with what is known about its surroundings: which ports are busy, and how each
provisioning of the range goes.
-/

namespace Teleop

/-- An allocator and its surroundings. -/
structure PortSupply where
  allocator : Allocator
  busy : List Int := []
  /-- No port is free, whatever `busy` says. -/
  allBusy : Bool := false
  /-- How the next provisionings go, if there is anything to provision: `none` is a success, and so
  is every one after the last. -/
  outcomes : Option (List (Option Text)) := none

namespace PortSupply

def free (p : PortSupply) (port : Int) : Bool :=
  !p.allBusy && !p.busy.contains port

def setBusy (p : PortSupply) (port : Int) : PortSupply :=
  { p with busy := port :: p.busy }

def setFree (p : PortSupply) (port : Int) : PortSupply :=
  { p with busy := p.busy.filter (· ≠ port) }

/-- The next free port and what was done to find it. -/
def take (p : PortSupply) : Except Allocator.Error Int × PortSupply × List PortEvent :=
  let failure := (p.outcomes.bind List.head?).join
  let taken := p.allocator.next p.free failure
  let provisioning :=
    if taken.provisioning && p.outcomes.isSome then
      [PortEvent.provisioning p.allocator.min p.allocator.max]
    else []
  let outcomes := if taken.provisioning then p.outcomes.map List.tail else p.outcomes
  (taken.result, { p with allocator := taken.allocator, outcomes },
    provisioning ++ taken.probed.map .probed)

/-- `take` with its report as events of a session. -/
def next (p : PortSupply) : Except Allocator.Error Int × PortSupply × List Event :=
  let (result, p, events) := p.take
  (result, p, events.map Event.ofPorts)

/-- Where a session gets its local ports: from an allocator, or from the operating system. -/
def source : PortSource (Option PortSupply) where
  next
    | none => (.ok 0, none, [])
    | some p =>
      let (result, p, events) := p.take
      (match result with
        | .ok port => .ok port
        | .error e => .error e.message, some p, events)

end PortSupply

end Teleop
