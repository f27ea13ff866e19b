import Teleop.Fault
import Teleop.Session.Event
import Teleop.Time.Instant
import Teleop.Uuid

/-!
# Transports

A session drives a transport that it knows only through the operations below. What one update does
is an `Activity`: a sequence of changes of the transport's own state with notices between them, each
followed by whatever the transport does next in the state that the notice left behind.

* `Transport χ ι` is a transport with state `χ`; `ι` is the type of things other than notices that
  can interrupt an update;
* `PortSource π` supplies local ports.
-/

namespace Teleop

/-- What one update of a transport does. -/
inductive Activity (χ ι : Type) where
  /-- The update ends. -/
  | done (channel : χ)
  /-- The update breaks off. -/
  | fault (f : Fault)
  /-- A notice is raised, about the link with this number if links are numbered; the update goes on
  in the state that its handling leaves. -/
  | notice (link : Option Nat) (n : Notice) (channel : χ) (next : χ → Activity χ ι)
  /-- Something else happens in the middle of the update. -/
  | interrupt (i : ι) (channel : χ) (next : χ → Activity χ ι)

/-- The result of an operation on a transport with state `χ`. -/
structure Reply (χ α : Type) where
  value : α
  channel : χ
  /-- What happened, in order. -/
  events : List ChannelEvent := []

/-- How an attempt to connect went. -/
structure Dialled where
  /-- Why it failed, if it did. -/
  error : Option Text
  /-- The fresh identifier was used. -/
  drew : Bool
  deriving DecidableEq, Repr

/-- The operations of a transport with state `χ`. -/
structure Transport (χ ι : Type) where
  /-- Starts a link; the identifier is fresh. -/
  connect : Instant → Uuid → Dial → χ → Except Fault (Reply χ Dialled)
  /-- Drops the link at once. -/
  disconnect : χ → Reply χ Unit
  /-- Does the periodic work. -/
  update : Instant → χ → List ChannelEvent × Activity χ ι
  /-- Takes a message, or says why not. -/
  send : Option Message → χ → Except Fault (Reply χ (Option Text))
  /-- There is a link. -/
  active : χ → Bool
  /-- The link is up. -/
  connected : χ → Bool
  /-- There is something left to be written. -/
  pending : χ → Reply χ Bool

/-- A supply of local ports with state `π`. -/
structure PortSource (π : Type) where
  /-- The next port, or why there is none; the new state; what happened. -/
  next : π → Except Text Int × π × List PortEvent

/-- The operating system picks the port. -/
def PortSource.ephemeral : PortSource Unit where
  next _ := (.ok 0, (), [])

end Teleop
