import Teleop.Link.Event
import Teleop.Log.Entry
import Teleop.Session.Metrics
import Teleop.Time.Instant

/-!
# The journal of a session

Everything a session is asked to do and does is recorded as an event: calls of the transport,
messages handed to it, notices taken in, texts shown, ports tried, work submitted, taken out and
discarded, and log entries. The journal is the history that statements about runs refer to, and what
is shown of a run is read off it.
-/

namespace Teleop

/-- Which part wrote a log entry. -/
inductive Source where
  | session
  | channel
  /-- Whoever holds the session. -/
  | holder
  deriving DecidableEq, Repr

/-- An event of a session. -/
inductive Event where
  /-- The transport was asked to do its periodic work. -/
  | update
  /-- The transport was asked to drop its link. -/
  | disconnect
  /-- The transport was asked for a link. -/
  | connect (identity : Text) (localPort : Int) (host : Text) (port : Int)
  /-- A message was handed to the transport, which accepted or refused it. -/
  | handOff (label : Label) (message : Option Message) (accepted : Bool)
  /-- A text was shown to the subscriber of this name. -/
  | shown (subscriber : Text) (text : Text)
  /-- A local port was probed. -/
  | probed (port : Int)
  /-- The range of local ports was to be provisioned. -/
  | provisioning (min max : Int)
  /-- A message was submitted to the backlog. -/
  | submitted (message : Option Message)
  /-- The backlog dropped this many of its oldest messages. -/
  | overflowed (count : Nat)
  /-- The request slot was set. -/
  | requested (message : Option Message)
  /-- The idle message was set or removed, while the session was ready or not. -/
  | idleSet (message : Option Message) (ready : Bool)
  /-- A batch was put into the queue with this number. -/
  | batched (queue : Nat) (batch : List (Option Message))
  /-- The queue with this number was emptied. -/
  | cleared (queue : Nat)
  /-- The queue with this number was closed. -/
  | closed (queue : Nat)
  /-- Before it turned to its work the session looked whether the transport is connected and whether
  the session is ready. -/
  | weighed (connected ready : Bool)
  /-- The batches that were due at this time were taken out of the queues with these numbers. -/
  | drained (now : Instant) (batches : List (Nat × List (Option Message)))
  /-- A run of the session began, with a fresh budget of connect attempts. -/
  | started
  /-- A connection was asked for, with a fresh budget of connect attempts. -/
  | wanted
  /-- Before a connect attempt the session looked whether the transport has a link. -/
  | checked (active : Bool)
  /-- A connect attempt began. -/
  | attempted
  /-- The session gave up and discarded all waiting work. -/
  | gaveUp
  /-- A shutdown discarded all waiting work. -/
  | discarded
  /-- An entry was logged. -/
  | logged (source : Source) (entry : Log.Entry)
  /-- Something happened on a link. -/
  | link (event : LinkEvent)
  /-- A notice reached the session, about the link with this number if the transport numbers its
  links. -/
  | noticed (link : Option Nat) (notice : Notice)
  /-- A heartbeat came in, and the session looked whether the transport is connected and whether the
  session is ready. -/
  | beat (connected ready : Bool)
  /-- The heartbeat was found overdue. -/
  | overdue
  /-- A mark left by whoever drives the session. -/
  | mark (number : Nat)
  deriving Repr

/-- Something that a supply of local ports reports. -/
inductive PortEvent where
  /-- A local port was probed. -/
  | probed (port : Int)
  /-- The range of local ports was to be provisioned. -/
  | provisioning (min max : Int)
  deriving DecidableEq, Repr

namespace Event

/-- The event of a session that a report of its channel becomes. -/
def ofChannel : ChannelEvent → Event
  | .link event => link event
  | .logged entry => logged .channel entry

/-- The event of a session that a report of its supply of ports becomes. -/
def ofPorts : PortEvent → Event
  | .probed port => probed port
  | .provisioning min max => provisioning min max

end Event

end Teleop
