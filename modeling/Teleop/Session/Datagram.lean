import Teleop.Link.Channel
import Teleop.Session.Transport

/-!
# A datagram channel as a transport

The channel with a network below it. The network has a state of its own, which may depend on all
that the channel did, so any pattern of successes and failures is possible.
-/

namespace Teleop

/-- The network below a channel, with state `ν`. -/
structure Network (ν : Type) where
  /-- The host names that can be looked up. -/
  names : List (Text × Bytes) := []
  /-- What the channel reads off its clock when the session's shows the given time. -/
  clock : ν → Instant → Channel.Times := fun _ now => ⟨now, now⟩
  /-- Why a local port cannot be bound, if so. -/
  bind : ν → Int → Option Text
  /-- Why write number `i` of an update fails, if so. -/
  write : ν → (i : Nat) → Address → Bytes → Option Text
  /-- The state after an operation of the channel that caused these events. -/
  after : ν → List ChannelEvent → ν
  /-- What comes in as soon as an operation of the channel is over. -/
  arrivals : ν → List Channel.Arrival := fun _ => []

/-- A channel and the state of the network below it. -/
structure Wired (ν : Type) where
  channel : Channel
  network : ν

namespace Wired

variable {ν ι : Type}

/-- Takes over the result of an operation of the channel. -/
def adopt (net : Network ν) (w : Wired ν) (channel : Channel) (events : List ChannelEvent) :
    Wired ν :=
  { channel, network := net.after w.network events }

/-- Takes over the result of an operation of the channel and takes in what comes in then; the events
of both are returned. -/
def settle (net : Network ν) (w : Wired ν) (channel : Channel) (events : List ChannelEvent) :
    Wired ν × List ChannelEvent :=
  let w := w.adopt net channel events
  let (channel, more) := w.channel.arriveAll (net.arrivals w.network)
  ({ w with channel }, events ++ more)

/-- The reply of an operation of the channel. -/
def reply {α : Type} (net : Network ν) (w : Wired ν) (value : α) (channel : Channel)
    (events : List ChannelEvent) : Reply (Wired ν) α :=
  let (w, events) := w.settle net channel events
  { value, channel := w, events }

/-- Raises notices one after the other; the channel does nothing more by itself. One without a
handler breaks the update off. -/
def raising : List (Option (Nat × Notice)) → Wired ν → Activity (Wired ν) ι
  | [], w => .done w
  | none :: _, _ => .fault .missingHandler
  | some (link, n) :: rest, w => .notice (some link) n w (raising rest)

end Wired

/-- The transport that a channel over a network is. -/
def Network.transport {ν ι : Type} (net : Network ν) : Transport (Wired ν) ι where
  connect now fresh dial w :=
    let called := w.channel.connect net.names (net.bind w.network dial.localPort)
      (net.clock w.network now) fresh dial
    match called.fault with
    | some f => .error f
    | none =>
      .ok (w.reply net ⟨called.error.map (·.message), called.error.isNone⟩ called.channel
        called.events)
  disconnect w :=
    let (channel, events) := w.channel.disconnect
    w.reply net () channel events
  update now w :=
    match w.channel.update (net.write w.network) (net.clock w.network now) with
    | .error f => ([], .fault f)
    | .ok u =>
      let (w, events) := w.settle net u.channel u.events
      (events, Wired.raising u.notices w)
  send m w :=
    match m with
    | none => .error .missingMessage
    | some m =>
      let called := w.channel.send m
      match called.error with
      | some e => .ok { value := some e.message, channel := { w with channel := called.channel } }
      | none => .ok (w.reply net none called.channel called.events)
  active w := w.channel.active
  connected w := w.channel.connected
  pending w := { value := w.channel.pending, channel := w }

end Teleop
