import Teleop.Bytes
import Teleop.Time.Instant

/-!
# Roster

The agents and devices that the engine has announced, each with the time of its latest
announcement. One store of entries serves both: an entry is kept under a text key that names its
family and its id. Entries may expire after a time to live, which is measured on a clock of its
own.
-/

namespace Teleop

/-- An agent that was announced. -/
structure Agent where
  id : Int
  ip : Text
  lastSeen : Instant
  deriving DecidableEq, Repr

/-- A device that was announced. -/
structure Device where
  id : Text
  lastSeen : Instant
  deriving DecidableEq, Repr

/-- What is known under one key. -/
inductive Peer where
  | agent (a : Agent)
  | device (d : Device)
  deriving DecidableEq, Repr

/-- The peers that were announced, by key. -/
structure Roster where
  /-- How long an entry lives; forever if not positive. -/
  ttl : Duration := 0
  /-- The entries, each with the instant after which it has expired. -/
  entries : List (Text × Peer × Option Instant) := []
  deriving DecidableEq, Repr

namespace Roster

/-- What the keys of agents and of devices begin with. -/
def agentLead : Text := utf8 "agent:"

@[inherit_doc agentLead]
def deviceLead : Text := utf8 "ui:"

def agentKey (id : Int) : Text :=
  agentLead ++ decimal id

def deviceKey (id : Text) : Text :=
  deviceLead ++ id

/-- Stores a peer under a key in place of what was there. -/
def put (r : Roster) (now : Instant) (key : Text) (peer : Peer) : Roster :=
  let expiry := if 0 < r.ttl then some (now.add r.ttl) else none
  { r with entries := r.entries.filter (·.1 ≠ key) ++ [(key, peer, expiry)] }

/-- An agent was announced; `seen` is the time to show for it. -/
def recordAgent (r : Roster) (now seen : Instant) (id : Int) (ip : Text) : Roster :=
  r.put now (agentKey id) (.agent ⟨id, ip, seen⟩)

/-- A device was announced; `seen` is the time to show for it. -/
def recordDevice (r : Roster) (now seen : Instant) (id : Text) : Roster :=
  r.put now (deviceKey id) (.device ⟨id, seen⟩)

/-- An entry has expired once its instant has passed. -/
def expired (now : Instant) : Option Instant → Bool
  | some expiry => decide (expiry.nanos < now.nanos)
  | none => false

/-- The entries that have not expired. -/
def current (r : Roster) (now : Instant) : List (Text × Peer) :=
  (r.entries.filter fun (_, _, expiry) => !expired now expiry).map fun (key, peer, _) =>
    (key, peer)

/-- The agent with an id. -/
def agent? (r : Roster) (now : Instant) (id : Int) : Option Agent :=
  match (r.current now).lookup (agentKey id) with
  | some (.agent a) => some a
  | _ => none

/-- The agents in the order of their ids. -/
def agents (r : Roster) (now : Instant) : List Agent :=
  ((r.current now).filterMap fun (key, peer) =>
    match peer with
    | .agent a => if agentLead.isPrefixOf key then some a else none
    | .device _ => none).mergeSort fun a b => decide (a.id ≤ b.id)

/-- The devices in the order of the bytes of their ids. -/
def devices (r : Roster) (now : Instant) : List Device :=
  ((r.current now).filterMap fun (key, peer) =>
    match peer with
    | .device d => if deviceLead.isPrefixOf key then some d else none
    | .agent _ => none).mergeSort fun a b => decide (¬ b.id < a.id)

def clear (r : Roster) : Roster :=
  { r with entries := [] }

end Roster

end Teleop
