import Teleop.Session.Datagram

/-!
# A network in memory

A host with one peer on its loopback interface. A datagram reaches the other side at once and in
order, unless it is too long or its port is zero. A local port is taken while a socket is bound to
it.
-/

namespace Teleop

namespace Rehearsal

/-- A socket that is open. -/
structure Socket where
  link : Nat
  localPort : Int
  remote : Address
  deriving DecidableEq, Repr

/-- The state of the network. -/
structure Loopback where
  /-- The address of the peer. -/
  peer : Address := ⟨Address.loopbackIp, 40000⟩
  sockets : List Socket := []
  /-- The frames that reached the peer, the latest first. -/
  arrived : List Bytes := []
  deriving DecidableEq, Repr

namespace Loopback

/-- The longest datagram that can be written. -/
def maxDatagram : Nat := 65507

/-- A port that exists, if nobody has taken it, can be bound; zero leaves the choice open. -/
def bindable (port : Int) : Bool :=
  decide (0 ≤ port ∧ port ≤ 65535)

/-- A port outside the range and one that is taken cannot be bound. -/
def bind (l : Loopback) (port : Int) : Option Text :=
  if !bindable port then some (utf8 "invalid port")
  else if port ≠ 0 ∧ (port = l.peer.port ∨ l.sockets.any (·.localPort == port)) then
    some (utf8 "address already in use")
  else none

/-- A datagram that is too long or has nowhere to go cannot be written. -/
def write (_ : Loopback) (_ : Nat) (remote : Address) (frame : Bytes) : Option Text :=
  if maxDatagram < frame.length then some (utf8 "message too long")
  else if remote.port = 0 then some (utf8 "invalid argument")
  else none

/-- Follows one event of the channel. -/
def follow (l : Loopback) : ChannelEvent → Loopback
  | .link (.opened link localPort remote _) =>
    { l with sockets := l.sockets ++ [⟨link, localPort, remote⟩] }
  | .link (.written link frame) =>
    if l.sockets.any fun s => s.link == link && s.remote.same l.peer then
      { l with arrived := frame :: l.arrived }
    else l
  | .link (.closed link) => { l with sockets := l.sockets.filter (·.link ≠ link) }
  | _ => l

/-- The network that a channel in a rehearsal works with. -/
def network : Network Loopback where
  names := [(utf8 "localhost", Address.loopbackIp)]
  bind := bind
  write := write
  after l events := events.foldl follow l

/-- The frames that have reached the peer since they were last collected. -/
def collect (l : Loopback) : List Bytes × Loopback :=
  (l.arrived.reverse, { l with arrived := [] })

end Loopback

/-! ## The other side -/

/-- What the other side does to a channel. -/
inductive Stimulus where
  /-- The peer sends a datagram. -/
  | peer (datagram : Bytes)
  /-- Someone else sends a datagram. -/
  | stranger (datagram : Bytes)
  /-- The socket can no longer be read. -/
  | failRead (reason : Text)
  deriving DecidableEq, Repr

/-- Applies a stimulus to the link that the other side reaches. The answer is `false` if there is
none or, for a datagram, if it is no longer read. -/
def Stimulus.apply (w : Wired Loopback) : Stimulus → Bool × Wired Loopback × List ChannelEvent
  | .peer datagram => deliver w w.network.peer datagram
  | .stranger datagram => deliver w ⟨Address.loopbackIp, w.network.peer.port + 1⟩ datagram
  | .failRead reason =>
    match w.channel.reachable with
    | some l => (true, { w with channel := w.channel.failRead l.id reason }, [])
    | none => (false, w, [])
where
  deliver (w : Wired Loopback) (sender : Address) (datagram : Bytes) :
      Bool × Wired Loopback × List ChannelEvent :=
    match w.channel.reachable with
    | some l =>
      if l.readError.isSome then (false, w, [])
      else
        let (channel, events) := w.channel.receive l.id sender datagram
        (true, { w with channel }, events)
    | none => (false, w, [])

end Rehearsal

end Teleop
