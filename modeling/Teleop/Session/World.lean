import Teleop.Roster
import Teleop.Session.Backlog
import Teleop.Session.Config
import Teleop.Session.Queue
import Teleop.Session.Status
import Teleop.Session.Transport

/-!
# A session and its surroundings

* `Session` is what the session itself remembers;
* `World` adds the transport, the supply of ports, the roster, the metrics, the clocks and the
  journal;
* `Act` is an operation on the world that may end in a fault;
* `Wiring` is what stays fixed while a session runs, including what its subscribers do when they are
  shown a text.
-/

namespace Teleop

/-- A subscriber: a name to show and the number under which its behaviour is found. -/
structure Subscriber where
  name : Text
  script : Nat := 0
  deriving DecidableEq, Repr

/-- What a session remembers. -/
structure Session where
  backlog : Backlog
  running : Bool := false
  stopRequested : Bool := false
  /-- The name of the current run. -/
  run : Text := []
  resetRequested : Bool := false
  connectRequested : Bool := false
  /-- The connect attempts since the budget was last restored. -/
  tries : Nat := 0
  ready : Bool := false
  lastHeartbeat : Instant := Instant.zero
  /-- The request slot. -/
  request : Option Message := none
  /-- All queues that were ever created, in the order of their numbers. -/
  queues : List Queue := []
  /-- The message sent whenever the session becomes ready. -/
  idle : Option Message := none
  /-- Why the link ended, until the end of the next tick. -/
  reason : Text := []
  status : Publisher Subscriber := {}
  deriving Repr

/-- A session together with everything it acts on. -/
structure World (χ π : Type) where
  session : Session
  channel : χ
  ports : π
  roster : Roster := {}
  metrics : Metrics := {}
  /-- The clock that the session reads. -/
  clock : Instant
  /-- How often the clock was read that the expiry of the roster is measured on. -/
  readings : Nat := 0
  /-- How many identifiers have been drawn. -/
  draws : Nat := 0
  /-- What has happened, the latest first. -/
  journal : List Event := []

/-- An operation on the world. -/
abbrev Act (χ π : Type) := StateT (World χ π) (Except Fault)

/-- What stays fixed while a session runs. -/
structure Wiring (χ π ι : Type) where
  config : SessionConfig
  transport : Transport χ ι
  ports : PortSource π
  /-- The identifiers that are drawn, in order. -/
  uuid : Nat → Uuid
  /-- What the clock of the roster shows when it is read, in order. -/
  wall : Nat → Instant
  /-- What a subscriber does when it is shown a text. -/
  react : Subscriber → Text → Act χ π Unit
  /-- What happens when an update is interrupted. -/
  interrupt : ι → Act χ π Unit

namespace World

variable {χ π : Type}

/-- The events of a run in the order in which they happened. -/
def history (w : World χ π) : List Event :=
  w.journal.reverse

end World

namespace Act

variable {χ π : Type}

/-- Adds an event to the journal. -/
def record (e : Event) : Act χ π Unit :=
  modify fun w => { w with journal := e :: w.journal }

/-- Adds events to the journal, the first one first. -/
def recordAll (es : List Event) : Act χ π Unit :=
  modify fun w => { w with journal := es.reverse ++ w.journal }

/-- Logs an entry in the name of the session. -/
def log (level : Log.Level) (message : String) (fields : Log.Fields := []) : Act χ π Unit :=
  record (.logged .session { level, message := utf8 message, fields })

/-- Changes what the session remembers. -/
def remember (f : Session → Session) : Act χ π Unit :=
  modify fun w => { w with session := f w.session }

/-- Changes the metrics. -/
def count (f : Metrics → Metrics) : Act χ π Unit :=
  modify fun w => { w with metrics := f w.metrics }

/-- Takes over the state and the events of a reply of the transport. -/
def adopt {α : Type} (r : Reply χ α) : Act χ π α := do
  modify fun w => { w with channel := r.channel }
  recordAll (r.events.map Event.ofChannel)
  return r.value

end Act

end Teleop
