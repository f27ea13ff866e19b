import Teleop.Port.Supply
import Teleop.Rehearsal.Loopback
import Teleop.Service.Page
import Teleop.Session.Call

/-!
# The stage of a rehearsal

A rehearsal drives a session step by step. The session works with either of two media: a scripted
channel, which is a handful of flags, or a datagram channel over a network in memory. Actions can be
put into the updates of the scripted channel and into subscribers, where they run in the middle of
whatever the session is doing.

* `Action` is one step of a rehearsal, `Outcome` is what it returns;
* `Stage` is the state of the medium and of the scripts;
* `Stage.transport` is how the session sees it.
-/

namespace Teleop

namespace Rehearsal

/-- The state of a scripted channel. -/
structure Flags where
  active : Bool := false
  connected : Bool := false
  /-- Connecting makes the channel active. -/
  activate : Bool := true
  /-- Messages that cannot be encoded are refused. -/
  encode : Bool := false
  /-- How many more polls find something left to be written; all of them if negative. -/
  pending : Int := 0
  /-- Why connecting fails, or empty. -/
  connectError : Text := []
  /-- Why sending fails, or empty. -/
  sendError : Text := []
  deriving DecidableEq, Repr

/-- One step of a rehearsal. Actions inside an action go with the words that reports call them. -/
inductive Action where
  | tick (count : Nat)
  | shutdown
  | call (c : Call)
  /-- The number of messages that wait in a queue. -/
  | queuePending (queue : Nat)
  /-- Adds a subscriber that runs actions when it is shown certain texts. -/
  | subscribe (name : Text) (on : List (Text × List (Text × Action)))
  /-- Removes the subscriber that was last added under this name. -/
  | unsubscribe (name : Text)
  /-- The peers of the roster. -/
  | known
  /-- The ids of the peers of the roster. -/
  | knownIds
  | metrics
  | page (method target : Text)
  /-- Moves the clock. -/
  | advance (d : Duration)
  /-- The scripted channel comes up. -/
  | establish (session : Text)
  /-- The scripted channel goes down. -/
  | drop (reason : Text)
  /-- A message comes in on the scripted channel. -/
  | deliver (m : Option Message)
  /-- Changes flags of the scripted channel. -/
  | set (change : Flags → Flags)
  /-- Puts actions into the next updates of the scripted channel. -/
  | onUpdate (updates : List (List (Text × Action)))
  /-- Runs the session loop, with actions in its updates, until they are used up. -/
  | runLoop (updates : List (List (Text × Action)))
  /-- The other side of the datagram channel does something. -/
  | stimulate (s : Stimulus)

/-- Actions to be run one after the other, each with its name. -/
abbrev Script := List (Text × Action)

/-- What an action returns. -/
inductive Outcome where
  | nothing
  | flag (b : Bool)
  | count (n : Nat)
  /-- The outcome of building a request. -/
  | built (error : Option Message.Error)
  | peers (agents : List Agent) (devices : List Device)
  | ids (agents : List Int) (devices : List Text)
  | metrics (m : Option Metrics)
  | page (p : Service.Page)
  /-- There is no socket that a datagram could reach. -/
  | unread

/-- What the session communicates through. -/
inductive Medium where
  | scripted (flags : Flags)
  | datagram (wired : Wired Loopback)

/-- The state of the medium and of the scripts. -/
structure Stage where
  medium : Medium
  /-- The actions for the next updates. -/
  updates : List Script := []
  /-- The session loop is to end once the updates are used up. -/
  looping : Bool := false
  /-- What each subscriber does, by the number of its script. -/
  scripts : List (List (Text × Script)) := []
  /-- The subscriptions by name, the latest first. -/
  subscriptions : List (Text × UInt64) := []
  /-- The actions that ran in the middle of something, with their outcomes. -/
  asides : List (Text × Outcome) := []

/-- What can come up in the middle of an update. -/
inductive Interruption where
  | script (actions : Script)
  /-- The session loop is to end. -/
  | stop

/-! ## The scripted channel as a transport -/

namespace Flags

def connect (f : Flags) : Dialled × Flags :=
  if f.connectError = [] then (⟨none, false⟩, { f with active := f.active || f.activate })
  else (⟨some f.connectError, false⟩, f)

def disconnect (f : Flags) : Flags :=
  { f with active := false, connected := false }

/-- Why a message is refused, if it is. -/
def refusal (f : Flags) (m : Option Message) : Except Fault (Option Text) :=
  if f.sendError ≠ [] then .ok (some f.sendError)
  else if f.encode then
    match m with
    | none => .error .missingMessage
    | some m => .ok <| match m.encode with
      | .ok _ => none
      | .error e => some e.message
  else .ok none

def poll (f : Flags) : Bool × Flags :=
  if f.pending < 0 then (true, f)
  else if 0 < f.pending then (true, { f with pending := f.pending - 1 })
  else (false, f)

end Flags

namespace Stage

/-- Runs what an update of the datagram channel does as part of the stage. -/
def within : Activity (Wired Loopback) Interruption → Stage → Activity Stage Interruption
  | .done w, s => .done { s with medium := .datagram w }
  | .fault f, _ => .fault f
  | .notice link n w next, s => .notice link n { s with medium := .datagram w } fun s =>
    match s.medium with
    | .datagram w => within (next w) s
    | .scripted _ => .done s
  | .interrupt i w next, s => .interrupt i { s with medium := .datagram w } fun s =>
    match s.medium with
    | .datagram w => within (next w) s
    | .scripted _ => .done s

/-- A reply of the datagram channel as one of the stage. -/
def reply {α : Type} (s : Stage) (r : Reply (Wired Loopback) α) : Reply Stage α :=
  { value := r.value, channel := { s with medium := .datagram r.channel }, events := r.events }

/-- An update of the scripted channel runs the next actions, or ends the loop. -/
def scriptedUpdate (s : Stage) : Activity Stage Interruption :=
  match s.updates with
  | actions :: rest => .interrupt (.script actions) { s with updates := rest } .done
  | [] =>
    if s.looping then .interrupt .stop { s with looping := false } .done else .done s

/-- How the session sees the stage. -/
def transport : Transport Stage Interruption :=
  let air : Transport (Wired Loopback) Interruption := Loopback.network.transport
  { connect := fun now fresh dial s =>
      match s.medium with
      | .scripted f =>
        let (dialled, f) := f.connect
        .ok { value := dialled, channel := { s with medium := .scripted f } }
      | .datagram w => do return s.reply (← air.connect now fresh dial w)
    disconnect := fun s =>
      match s.medium with
      | .scripted f => { value := (), channel := { s with medium := .scripted f.disconnect } }
      | .datagram w => s.reply (air.disconnect w)
    update := fun now s =>
      match s.medium with
      | .scripted _ => ([], s.scriptedUpdate)
      | .datagram w =>
        let (events, activity) := air.update now w
        (events, within activity s)
    send := fun m s =>
      match s.medium with
      | .scripted f => do return { value := ← f.refusal m, channel := s }
      | .datagram w => do return s.reply (← air.send m w)
    active := fun s =>
      match s.medium with
      | .scripted f => f.active
      | .datagram w => w.channel.active
    connected := fun s =>
      match s.medium with
      | .scripted f => f.connected
      | .datagram w => w.channel.connected
    pending := fun s =>
      match s.medium with
      | .scripted f =>
        let (pending, f) := f.poll
        { value := pending, channel := { s with medium := .scripted f } }
      | .datagram w => s.reply (air.pending w) }

end Stage

end Rehearsal

end Teleop
