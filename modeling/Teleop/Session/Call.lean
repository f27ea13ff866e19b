import Teleop.Session.Tick

/-!
# Calls

What the owner of a session may ask of it at any time, also from inside a subscriber. A call takes
effect at the next tick; none of them shows a text or drives the transport, except that setting the
idle message of a ready session sends it at once.
-/

namespace Teleop

/-- A call on a session. -/
inductive Call where
  | start
  | stop
  /-- Drop the link at the next tick. -/
  | reset
  /-- Connect, with a fresh budget of attempts. -/
  | requestConnect
  /-- Overwrite the request slot. -/
  | setRequest (m : Option Message)
  /-- Request that an animation be played. -/
  | sendAnimation (name : Text)
  /-- Request that an animation file be loaded. -/
  | readAnimationFile (path : Text)
  /-- Set the message that is sent whenever the session becomes ready. -/
  | setIdle (m : Option Message)
  /-- Append to the backlog. -/
  | send (m : Option Message)
  /-- Create a coalescing queue. -/
  | createQueue (interval : Duration)
  /-- Replace the batch of a queue. -/
  | putBatch (queue : Nat) (batch : List (Option Message))
  | clearQueue (queue : Nat)
  | closeQueue (queue : Nat)
  /-- Have status texts shown to a subscriber. -/
  | subscribe (s : Subscriber)
  | unsubscribe (id : UInt64)
  deriving DecidableEq, Repr

/-- What a call returns. -/
inductive CallReply where
  | none
  /-- The outcome of building a request. -/
  | built (error : Option Message.Error)
  /-- The number of a new queue or subscription. -/
  | number (n : Nat)
  deriving DecidableEq, Repr

namespace Wiring

open Act Log

variable {χ π ι : Type} (W : Wiring χ π ι)

/-- Starts a run under a fresh name, unless one is going on. -/
def start : Act χ π Unit := do
  let w ← get
  if !w.session.running then
    let run := (W.uuid w.draws).text
    modify fun w => { w with draws := w.draws + 1 }
    record .started
    remember fun s =>
      { s with running := true, stopRequested := false, run, tries := 0, ready := false }
    log .info "session started" [textField "session" run]

/-- Asks the loop to end. -/
def stop : Act χ π Unit :=
  remember fun s => if s.running then { s with stopRequested := true } else s

def requestConnect : Act χ π Unit := do
  record .wanted
  remember fun s => { s with connectRequested := true, tries := 0 }

def setRequest (m : Option Message) : Act χ π Unit := do
  record (.requested m)
  remember fun s => { s with request := m }
  requestConnect

/-- A request that cannot be built changes nothing. -/
def requestBuilt (b : Message.Built) : Act χ π CallReply := do
  if b.error.isNone then setRequest (some b.message)
  return .built b.error

def setIdle (m : Option Message) : Act χ π Unit := do
  remember fun s => { s with idle := m }
  let w ← get
  record (.idleSet m w.session.ready)
  if w.session.ready && m.isSome then W.send .idle m

def submit (m : Option Message) : Act χ π Unit := do
  let w ← get
  let (dropped, backlog) ← w.session.backlog.push m
  record (.submitted m)
  remember fun s => { s with backlog }
  noteOverflow dropped
  requestConnect

def createQueue (interval : Duration) : Act χ π Nat := do
  let w ← get
  remember fun s => { s with queues := s.queues ++ [{ interval }] }
  return w.session.queues.length

/-- The queue with a number. -/
def queue (number : Nat) : Act χ π Queue := do
  let w ← get
  match w.session.queues[number]? with
  | some q => return q
  | none => throw .unknownName

/-- Changes the queue with a number. -/
def changeQueue (number : Nat) (f : Queue → Queue) : Act χ π Unit :=
  remember fun s => { s with queues := s.queues.modify number f }

/-- A closed queue ignores the batch, and then no connection is asked for either. -/
def putBatch (number : Nat) (batch : List (Option Message)) : Act χ π Unit := do
  let q ← queue number
  if !q.closed then
    record (.batched number batch)
    changeQueue number (·.put batch)
    requestConnect

def subscribe (s : Subscriber) : Act χ π UInt64 := do
  let w ← get
  let (id, status) := w.session.status.add s
  remember fun m => { m with status }
  return id

def unsubscribe (id : UInt64) : Act χ π Unit :=
  remember fun s => { s with status := s.status.remove id }

/-- Carries out a call. -/
def perform : Call → Act χ π CallReply
  | .start => do W.start; return .none
  | .stop => do stop; return .none
  | .reset => do remember fun s => { s with resetRequested := true }; return .none
  | .requestConnect => do requestConnect; return .none
  | .setRequest m => do setRequest m; return .none
  | .sendAnimation name => requestBuilt (Message.buildPlayAnimation name)
  | .readAnimationFile path => requestBuilt (Message.buildReadAnimationFile path)
  | .setIdle m => do W.setIdle m; return .none
  | .send m => do submit m; return .none
  | .createQueue interval => return .number (← createQueue interval)
  | .putBatch number batch => do putBatch number batch; return .none
  | .clearQueue number => do
    let _ ← queue number
    record (.cleared number)
    changeQueue number Queue.clear
    return .none
  | .closeQueue number => do
    let _ ← queue number
    record (.closed number)
    changeQueue number Queue.close
    return .none
  | .subscribe s => return .number (← subscribe s).toNat
  | .unsubscribe id => do unsubscribe id; return .none

end Wiring

/-! ## New sessions -/

/-- Why there is no session. -/
inductive SessionError where
  | invalidConfig (e : SessionConfig.Error)
  | channelMissing
  deriving DecidableEq, Repr

def SessionError.message : SessionError → Text
  | invalidConfig e => e.message
  | channelMissing => utf8 "session: channel required"

/-- A session that has not been started, for a valid configuration and a channel. -/
def Session.new (config : SessionConfig) (hasChannel : Bool) : Except SessionError Session :=
  match config.validate with
  | .error e => .error (.invalidConfig e)
  | .ok () =>
    if hasChannel then .ok { backlog := { limit := config.maxPending } }
    else .error .channelMissing

end Teleop
