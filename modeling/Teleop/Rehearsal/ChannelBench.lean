import Teleop.Log.Line
import Teleop.Rehearsal.Loopback

/-!
# The bench for channels

Drives a datagram channel alone, step by step, against a peer in memory, and reports on each step.
-/

namespace Teleop

namespace Rehearsal

/-- One step with a channel. -/
inductive ChannelAction where
  | connect (d : Dial)
  | disconnect
  | update
  | close
  /-- Sends a message a number of times. -/
  | send (m : Option Message) (count : Nat)
  | advance (d : Duration)
  /-- The other side does something. -/
  | stimulate (s : Stimulus)
  /-- Registers and removes handlers. -/
  | handlers (change : Handlers → Handlers)

/-- What a step returns. -/
inductive ChannelOutcome where
  | nothing
  | connected (error : Option Channel.ConnectError)
  | sent (error : Option Channel.SendError)
  | closed
  | flag (b : Bool)
  /-- There is no socket that a datagram could reach. -/
  | unread

/-- The state of a channel, as far as it shows. -/
structure ChannelSnapshot where
  phase : Phase
  session : Text
  active : Bool
  connected : Bool
  pending : Bool
  /-- The frames that wait on the current link, if there is one. -/
  outbound : Option Nat
  /-- The frames that wait on each closing link. -/
  closing : List Nat
  inbox : Nat

def ChannelSnapshot.of (c : Channel) : ChannelSnapshot where
  phase := c.phase
  session := c.session
  active := c.active
  connected := c.connected
  pending := c.pending
  outbound := c.current.map (·.outbound.length)
  closing := c.closing.map (·.outbound.length)
  inbox := c.inbox.length

/-- The report of a step. -/
structure ChannelReport where
  outcome : ChannelOutcome
  notices : List Notice
  channel : ChannelSnapshot
  /-- What the peer received. -/
  peer : List Bytes
  lines : List Text

/-- A channel on the bench. -/
structure ChannelBench where
  wired : Wired Loopback
  clock : Instant := .year2100
  /-- How many identifiers have been drawn. -/
  draws : Nat := 0

/-- The identifiers that are drawn in a rehearsal: the first is made of ones, the second of twos. -/
def identifier (n : Nat) : Uuid :=
  Uuid.random (List.replicate 16 (UInt8.ofNat (n + 1)))

/-- What the clock of the roster shows in a rehearsal: two nanoseconds pass between two looks. -/
def glance (n : Nat) : Instant :=
  Instant.year2100.add (2 * n)

/-- The lines of what a channel reports. -/
def channelLines (now : Instant) (events : List ChannelEvent) : List Text :=
  let logger : Log.Logger := { service := utf8 "svc", level := .trace }
  events.filterMap fun
    | .logged entry => some ((logger.withFields Channel.logContext).format now entry)
    | .link _ => none

/-- Sends a message a number of times; the answer is that to the last time. -/
def sendTimes (m : Message) : Nat → Wired Loopback → List ChannelEvent →
    Option Channel.SendError × Wired Loopback × List ChannelEvent
  | 0, w, events => (none, w, events)
  | n + 1, w, events =>
    let (_, w, events) := sendTimes m n w events
    let called := w.channel.send m
    (called.error, w.adopt Loopback.network called.channel called.events, events ++ called.events)

namespace ChannelBench

/-- A result before it is reported: the outcome, the notices, the bench, and the events. -/
abbrev Result := ChannelOutcome × List Notice × ChannelBench × List ChannelEvent

/-- Takes over the result of an operation of the channel. -/
def take (b : ChannelBench) (outcome : ChannelOutcome) (channel : Channel)
    (events : List ChannelEvent) : Result :=
  (outcome, [], { b with wired := b.wired.adopt Loopback.network channel events }, events)

def perform (b : ChannelBench) : ChannelAction → Except Fault Result
  | .connect d =>
    let net := Loopback.network
    let called := b.wired.channel.connect net.names (net.bind b.wired.network d.localPort)
      (net.clock b.wired.network b.clock) (identifier b.draws) d
    match called.fault with
    | some f => .error f
    | none =>
      let draws := if called.error.isNone then b.draws + 1 else b.draws
      .ok ({ b with draws }.take (.connected called.error) called.channel called.events)
  | .disconnect =>
    let (channel, events) := b.wired.channel.disconnect
    .ok (b.take .nothing channel events)
  | .update => do
    let net := Loopback.network
    let u ← b.wired.channel.update (net.write b.wired.network) (net.clock b.wired.network b.clock)
    let some notices := u.notices.mapM id | throw .missingHandler
    let (_, _, b, events) := b.take .nothing u.channel u.events
    return (.nothing, notices.map (·.2), b, events)
  | .close =>
    let (channel, events) := b.wired.channel.close
    .ok (b.take .closed channel events)
  | .send m count =>
    match m with
    | none => .error .missingMessage
    | some m =>
      let (error, wired, events) := sendTimes m count b.wired []
      .ok (.sent error, [], { b with wired }, events)
  | .advance d => .ok (.nothing, [], { b with clock := b.clock.add d }, [])
  | .stimulate s =>
    let (reached, wired, events) := s.apply b.wired
    let outcome : ChannelOutcome := match s, reached with
      | .failRead _, reached => .flag reached
      | _, true => .nothing
      | _, false => .unread
    .ok (outcome, [], { b with wired }, events)
  | .handlers change =>
    let channel := b.wired.channel
    .ok (b.take .nothing { channel with handlers := change channel.handlers } [])

/-- Carries out a step and reports on it. -/
def step (b : ChannelBench) (action : ChannelAction) :
    Except Fault (ChannelReport × ChannelBench) := do
  let (outcome, notices, b, events) ← b.perform action
  let (peer, network) := b.wired.network.collect
  return ({ outcome, notices, channel := .of b.wired.channel, peer,
            lines := channelLines b.clock events },
    { b with wired := { b.wired with network } })

end ChannelBench

end Rehearsal

end Teleop
