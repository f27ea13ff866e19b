import Teleop.Rehearsal.ChannelBench
import Teleop.Rehearsal.Stage

/-!
# The bench

Carries out the actions of a rehearsal and reports on each of them.

* `Setup.open` gives the world in which a rehearsal begins, or says why there is none;
* `Setup.step` carries out an action and reports the outcome, the state of the session, what
  happened meanwhile, and the log lines.

An action may run inside another one, to a depth that no script reaches; a session loop runs for a
number of ticks that no script needs.
-/

namespace Teleop

namespace Rehearsal

open Act

/-- What a rehearsal begins with. -/
structure Setup where
  config : SessionConfig
  /-- The medium; `none` stands for a channel that is missing. -/
  medium : Option Medium := some (.scripted {})
  ports : Option PortSupply := none
  /-- The time to live of the roster's entries. -/
  ttl : Duration := 0
  /-- A subscriber named `main` is there from the start. -/
  observed : Bool := true
  /-- The session reads a clock of its own and keeps its metrics to itself. -/
  detached : Bool := false
  /-- The least level that is logged, if anything is. -/
  logLevel : Option Log.Level := none

/-- The world of a rehearsal. -/
abbrev Scene := World Stage (Option PortSupply)

/-- An operation on the world of a rehearsal. -/
abbrev Play := Act Stage (Option PortSupply)

/-- What stays fixed during a rehearsal. -/
abbrev Cast := Wiring Stage (Option PortSupply) Interruption

/-! ## Actions -/

/-- Changes the stage. -/
def arrange (f : Stage → Stage) : Play Unit :=
  modify fun w => { w with channel := f w.channel }

/-- Changes the flags of the scripted channel, which has to be there. -/
def changeFlags (f : Flags → Flags) : Play Unit := do
  match (← get).channel.medium with
  | .scripted flags => arrange fun s => { s with medium := .scripted (f flags) }
  | .datagram _ => throw .unknownName

/-- The peers of the roster at this moment; agents and devices are looked up one after the other. -/
def peers (C : Cast) : Play (List Agent × List Device) := do
  let w ← get
  modify fun w => { w with readings := w.readings + 2 }
  return (w.roster.agents (C.wall w.readings), w.roster.devices (C.wall (w.readings + 1)))

def subscribe (name : Text) (on : List (Text × Script)) : Play Unit := do
  let script := (← get).channel.scripts.length
  let id ← Wiring.subscribe { name, script }
  arrange fun s =>
    { s with scripts := s.scripts ++ [on], subscriptions := (name, id) :: s.subscriptions }

def unsubscribe (name : Text) : Play Unit := do
  match (← get).channel.subscriptions.lookup name with
  | some id => Wiring.unsubscribe id
  | none => throw .unknownName

/-- Ticks a number of times; the outcome is that of the last tick. Something else may happen before
each. -/
def ticks (C : Cast) (between : Play Unit) : Nat → Bool → Play Bool
  | 0, last => return last
  | n + 1, _ => do
    between
    ticks C between n (← C.tick)

/-- Ticks until the session is to end, within a budget. -/
def loop (C : Cast) : Nat → Play Unit
  | 0 => throw .endlessLoop
  | budget + 1 => do
    if ← C.tick then loop C budget else return

/-- The ticks that a loop may take. -/
def tickBudget : Nat := 1000000

/-- Runs the session loop from its start to its end. -/
def runLoop (C : Cast) (updates : List Script) : Play Unit := do
  arrange fun s => { s with updates := s.updates ++ updates, looping := true }
  C.start
  loop C tickBudget
  C.shutdown C.drainPolls

/-- What the status page shows of a session. -/
def view (C : Cast) : Play Service.View := do
  let w ← get
  let (agents, devices) ← peers C
  return { text := w.session.status.last, state := (C.state w).name, agents, devices }

def stimulate (s : Stimulus) : Play Outcome := do
  match (← get).channel.medium with
  | .scripted _ => throw .unknownName
  | .datagram wired =>
    let (reached, wired, events) := s.apply wired
    arrange fun stage => { stage with medium := .datagram wired }
    recordAll (events.map Event.ofChannel)
    return match s, reached with
      | .failRead _, b => .flag b
      | _, true => .nothing
      | _, false => .unread

/-- The metrics that can be seen from outside. -/
def Setup.metrics (setup : Setup) (w : Scene) : Option Metrics :=
  if setup.detached then none else some w.metrics

/-- The clock of a detached session goes on by itself, ever so little. -/
def Setup.passTime (setup : Setup) : Play Unit := do
  if setup.detached then modify fun w => { w with clock := w.clock.add 1000 }

/-- Carries out an action. -/
def perform (setup : Setup) (C : Cast) : Action → Play Outcome
  | .tick count => return .flag (← ticks C setup.passTime count false)
  | .shutdown => do C.shutdown C.drainPolls; return .nothing
  | .call c => do
    match ← C.perform c with
    | .built error => return .built error
    | _ => return .nothing
  | .queuePending number => do
    let q ← Wiring.queue number
    return .count q.pending.length
  | .subscribe name on => do subscribe name on; return .nothing
  | .unsubscribe name => do unsubscribe name; return .nothing
  | .known => do
    let (agents, devices) ← peers C
    return .peers agents devices
  | .knownIds => do
    let (agents, devices) ← peers C
    return .ids (agents.map (·.id)) (devices.map (·.id))
  | .metrics => return .metrics (setup.metrics (← get))
  | .page method target => do
    let w ← get
    let view ← view C
    match Service.Request.ofLine? method target with
    | some request => return .page (Service.respond request (.ok view) (setup.metrics w))
    | none => throw .malformedRequest
  | .advance d => do
    if !setup.detached then modify fun w => { w with clock := w.clock.add d }
    return .nothing
  | .establish session => do
    changeFlags fun f => { f with active := true, connected := true }
    C.onConnected session
    return .nothing
  | .drop reason => do
    changeFlags Flags.disconnect
    C.onDisconnected reason
    return .nothing
  | .deliver m => do C.onMessage m; return .nothing
  | .set change => do changeFlags change; return .nothing
  | .onUpdate updates => do
    arrange fun s => { s with updates := s.updates ++ updates }
    return .nothing
  | .runLoop updates => do runLoop C updates; return .nothing
  | .stimulate s => stimulate s

/-- Carries out actions in the middle of something; each leaves a mark in the journal. -/
def performAside (setup : Setup) (C : Cast) : Script → Play Unit
  | [] => return
  | (name, action) :: rest => do
    let outcome ← perform setup C action
    let w ← get
    arrange fun s => { s with asides := s.asides ++ [(name, outcome)] }
    record (.mark w.channel.asides.length)
    performAside setup C rest

/-- The depth to which actions may run inside actions. -/
def depthLimit : Nat := 4096

/-- The session's surroundings, where actions may run inside actions to a given depth. -/
def Setup.cast (setup : Setup) : Nat → Cast
  | 0 =>
    { config := setup.config
      transport := Stage.transport
      ports := PortSupply.source
      uuid := identifier
      wall := glance
      react := fun _ _ => throw .callbackDepth
      interrupt := fun _ => throw .callbackDepth }
  | depth + 1 =>
    { cast setup 0 with
      react := fun subscriber text => do
        let w ← get
        match (w.channel.scripts[subscriber.script]?).bind (·.lookup text) with
        | some script => performAside setup (cast setup depth) script
        | none => return
      interrupt := fun
        | .script actions => performAside setup (cast setup depth) actions
        | .stop => Wiring.stop }

/-- The world in which a rehearsal begins. -/
def Setup.open (setup : Setup) : Except SessionError Scene := do
  let session ← Session.new setup.config setup.medium.isSome
  let medium := setup.medium.getD (.scripted {})
  let scene : Scene :=
    { session, channel := { medium }, ports := setup.ports, roster := { ttl := setup.ttl },
      clock := .year2100 }
  if setup.observed then
    let (id, status) := session.status.add { name := utf8 "main" }
    return { scene with
      session := { session with status }
      channel := { medium, scripts := [[]], subscriptions := [(utf8 "main", id)] } }
  else return scene

/-! ## Reports -/

/-- The state of a session after a step. -/
structure Snapshot where
  text : Text
  state : SessionState
  running : Bool
  ready : Bool
  tries : Nat
  connectRequested : Bool
  resetRequested : Bool
  request : Option Message
  backlog : Nat
  /-- The messages that wait in each queue that is not closed. -/
  queues : List Nat
  reason : Text

/-- Something that happened during a step. -/
inductive Moment where
  | event (e : Event)
  /-- An action ran in the middle of something. -/
  | aside (name : Text) (outcome : Outcome)

/-- The report of a step. -/
structure Report where
  outcome : Outcome
  snapshot : Snapshot
  trace : List Moment
  /-- The log lines, if anything is logged. -/
  lines : Option (List Text)
  /-- The state of the datagram channel and what its peer received. -/
  channel : Option (ChannelSnapshot × List Bytes)

/-- The part of an event that a trace shows. Consecutive updates are shown as one. -/
def moments (asides : List (Text × Outcome)) : List Event → List Moment
  | [] => []
  | e :: rest =>
    let later := moments asides rest
    match e with
    | .update =>
      match later with
      | .event .update :: _ => later
      | _ => .event e :: later
    | .disconnect | .connect .. | .handOff .. | .shown .. | .probed _ | .provisioning .. =>
      .event e :: later
    | .mark n =>
      match asides[n]? with
      | some (name, outcome) => .aside name outcome :: later
      | none => later
    | _ => later

/-- The line of a log entry. The session logs from a level on, a datagram channel everything. -/
def lineOf (config : SessionConfig) (level : Log.Level) (now : Instant) : Event → Text
  | .logged source entry =>
    let logger : Log.Logger := { service := utf8 "svc", level }
    match source with
    | .session => (logger.withFields config.logContext).line now entry
    | .channel => (logger.withFields Channel.logContext).format now entry
    | .holder => logger.line now entry
  | _ => []

def snapshot (C : Cast) (w : Scene) : Snapshot :=
  let s := w.session
  { text := s.status.last
    state := C.state w
    running := s.running
    ready := s.ready
    tries := s.tries
    connectRequested := s.connectRequested
    resetRequested := s.resetRequested
    request := s.request
    backlog := s.backlog.length
    queues := (s.queues.filter (!·.closed)).map (·.pending.length)
    reason := s.reason }

/-- Carries out an action and reports on it. -/
def Setup.step (setup : Setup) (scene : Scene) (action : Action) :
    Except Fault (Report × Scene) := do
  let C := setup.cast depthLimit
  let play : Play Outcome := do
    let outcome ← perform setup C action
    setup.passTime
    return outcome
  let (outcome, w) ← play.run { scene with journal := [] }
  let events := w.history
  let (channel, medium) := match w.channel.medium with
    | .datagram wired =>
      let (frames, network) := wired.network.collect
      (some (ChannelSnapshot.of wired.channel, frames), Medium.datagram { wired with network })
    | medium => (none, medium)
  let lines := setup.logLevel.map fun level =>
    (events.map (lineOf setup.config level w.clock)).filter (!·.isEmpty)
  return ({ outcome, snapshot := snapshot C w, trace := moments w.channel.asides events, lines,
            channel },
    { w with channel := { w.channel with medium } })

end Rehearsal

end Teleop
