import Teleop.Bytes

/-!
# Metrics of a session

Counters of what a session did, those of sent and refused messages split by where the messages came
from, and the gauge that tells whether the session is ready.
-/

namespace Teleop

/-- Where a message that is handed to the transport came from. -/
inductive Label where
  | request
  | fifo
  | coalescing
  | handshake
  | reply
  | idle
  deriving DecidableEq, Repr

namespace Label

/-- All labels, in the order of their names. -/
def all : List Label :=
  [coalescing, fifo, handshake, idle, reply, request]

def name : Label → String
  | request => "request"
  | fifo => "fifo"
  | coalescing => "coalescing"
  | handshake => "handshake"
  | reply => "reply"
  | idle => "idle"

end Label

/-- One counter per label. -/
structure Tally where
  request : Nat := 0
  fifo : Nat := 0
  coalescing : Nat := 0
  handshake : Nat := 0
  reply : Nat := 0
  idle : Nat := 0
  deriving DecidableEq, Repr

namespace Tally

def get (t : Tally) : Label → Nat
  | .request => t.request
  | .fifo => t.fifo
  | .coalescing => t.coalescing
  | .handshake => t.handshake
  | .reply => t.reply
  | .idle => t.idle

/-- One more for a label. -/
def bump (t : Tally) : Label → Tally
  | .request => { t with request := t.request + 1 }
  | .fifo => { t with fifo := t.fifo + 1 }
  | .coalescing => { t with coalescing := t.coalescing + 1 }
  | .handshake => { t with handshake := t.handshake + 1 }
  | .reply => { t with reply := t.reply + 1 }
  | .idle => { t with idle := t.idle + 1 }

end Tally

/-- The counters and the gauge of a session. -/
structure Metrics where
  connectAttempts : Nat := 0
  giveUps : Nat := 0
  livenessTimeouts : Nat := 0
  heartbeats : Nat := 0
  sent : Tally := {}
  refused : Tally := {}
  ready : Bool := false
  deriving DecidableEq, Repr

end Teleop
