import Teleop.Bytes
import Teleop.Time.Instant

/-!
# Status of a session

* `SessionState` is the state that an observer sees, derived from four facts;
* `StatusFacts.text` is the text that subscribers are shown, which also depends on the reason of
  the last disconnect and on the text shown before;
* `Publisher` remembers the text shown last and the subscribers.
-/

namespace Teleop

/-- A ready session lags when its last heartbeat is older than the timeout. -/
def isLagging (timeout : Duration) (lastHeartbeat : Instant) (ready : Bool) (now : Instant) :
    Bool :=
  ready && decide (timeout < now.since lastHeartbeat)

/-- The state of a session as an observer sees it. -/
inductive SessionState where
  /-- There is no link and no attempt to get one. -/
  | disconnected
  /-- The transport is active but not connected. -/
  | connecting
  /-- The handshake was sent and no heartbeat has come yet. -/
  | waitingForHeartbeat
  /-- Heartbeats come in and messages go out. -/
  | ready
  /-- The session is ready but the heartbeat is overdue. -/
  | lagging
  deriving DecidableEq, Repr

namespace SessionState

/-- All states, in the order of their numbers. -/
def all : List SessionState :=
  [disconnected, connecting, waitingForHeartbeat, ready, lagging]

def name : SessionState → String
  | disconnected => "Disconnected"
  | connecting => "Connecting"
  | waitingForHeartbeat => "WaitingForHeartbeat"
  | ready => "Ready"
  | lagging => "Lagging"

/-- The name of the state with a number, which need not be that of any state. -/
def nameOfNumber (n : Int) : String :=
  if n < 0 then "Unknown" else (all[n.toNat]?.map name).getD "Unknown"

/-- The state that four facts amount to; an earlier one outweighs a later one. -/
def derive (lagging connected ready active : Bool) : SessionState :=
  if lagging then .lagging
  else if connected && ready then .ready
  else if connected then .waitingForHeartbeat
  else if active then .connecting
  else .disconnected

end SessionState

namespace Status

def lagging : Text := utf8 "[Lagging]"

def connected : Text := utf8 "[Connected]"

def waiting : Text := utf8 "[Waiting for Robot...]"

def connecting : Text := utf8 "[Connecting...]"

def disconnected : Text := utf8 "[Disconnected]"

/-- The reason shown when a missing heartbeat ended the link. -/
def timedOut : Text := utf8 "Disconnected: State Timed Out"

end Status

/-- What the status text depends on, apart from the text shown before. -/
structure StatusFacts where
  lagging : Bool := false
  connected : Bool := false
  ready : Bool := false
  active : Bool := false
  /-- Why the link ended, or empty. -/
  reason : Text := []
  deriving DecidableEq, Repr

/-- The text to show after `last`. -/
def StatusFacts.text (f : StatusFacts) (last : Text) : Text :=
  if f.lagging then Status.lagging
  else if f.connected && f.ready then Status.connected
  else if f.connected then Status.waiting
  else if f.active then Status.connecting
  else if f.reason ≠ [] then f.reason
  else if last ≠ Status.disconnected then Status.disconnected
  else last

/-! ## Subscribers -/

/-- The text shown last and the subscribers, each with the number it was given. -/
structure Publisher (η : Type) where
  last : Text := []
  subscribers : List (UInt64 × η) := []
  /-- The number given last. -/
  issued : UInt64 := 0
  deriving Repr

namespace Publisher

variable {η : Type}

/-- Appends a subscriber and gives it the next number, counted from one. -/
def add (p : Publisher η) (s : η) : UInt64 × Publisher η :=
  (p.issued + 1,
    { p with subscribers := p.subscribers ++ [(p.issued + 1, s)], issued := p.issued + 1 })

/-- Removes the subscriber with a number, if there is one. -/
def remove (p : Publisher η) (id : UInt64) : Publisher η :=
  { p with subscribers := p.subscribers.filter (·.1 ≠ id) }

/-- Moves on to the text for the given facts. If it differs from the text shown last, the
subscribers to notify are returned. -/
def update (p : Publisher η) (f : StatusFacts) :
    Text × Option (List (UInt64 × η)) × Publisher η :=
  let text := f.text p.last
  if text = p.last then (text, none, p)
  else (text, some p.subscribers, { p with last := text })

end Publisher

end Teleop
