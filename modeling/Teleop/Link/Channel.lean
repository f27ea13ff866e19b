import Teleop.Frame
import Teleop.Link.Config
import Teleop.Link.Event
import Teleop.Message.Codec

/-!
# The datagram channel

A channel keeps at most one current link, which is waiting for a welcome or connected, and the links
that were dropped but still have frames to write, the last of which is a bye. Incoming datagrams are
kept in an inbox until the next update.

* `connect`, `disconnect`, `send`, `close` are the calls of its user;
* `receive` and `failRead` are what happens on the sockets;
* `update` handles the inbox, ends a link that failed or timed out, repeats the hello, and writes
  what is queued.

Time, fresh nonces, and whether a socket can be bound or written to are arguments. Every operation
returns the events it caused, in order. Beside the calls, each link has a reader of its own, which
makes its buffer before it reads; a fault of a reader is told by the call that started it.
-/

namespace Teleop

/-- How far the current link has come. -/
inductive Phase where
  /-- There is no current link. -/
  | disconnected
  /-- A hello was sent. -/
  | connecting
  /-- A welcome was received. -/
  | connected
  deriving DecidableEq, Repr

namespace Phase

def all : List Phase :=
  [disconnected, connecting, connected]

def name : Phase → String
  | disconnected => "Disconnected"
  | connecting => "Connecting"
  | connected => "Connected"

/-- The name of the phase with a number, which need not be that of any phase. -/
def nameOfNumber (n : Int) : String :=
  if n < 0 then "Unknown" else (all[n.toNat]?.map name).getD "Unknown"

end Phase

/-- One socket bound for one remote address. -/
structure Link where
  id : Nat
  remote : Address
  /-- The frames that wait to be written. -/
  outbound : List Bytes := []
  /-- Why the socket can no longer be read, if so. -/
  readError : Option Text := none
  deriving DecidableEq, Repr

/-- The link with the given number can no longer be read; the first reason stays. -/
def Link.fail (id : Nat) (reason : Text) (l : Link) : Link :=
  if l.id = id ∧ l.readError.isNone then { l with readError := some reason } else l

@[simp] theorem Link.fail_id (id : Nat) (reason : Text) (l : Link) :
    (fail id reason l).id = l.id := by
  unfold fail
  split <;> rfl

@[simp] theorem Link.fail_outbound (id : Nat) (reason : Text) (l : Link) :
    (fail id reason l).outbound = l.outbound := by
  unfold fail
  split <;> rfl

@[simp] theorem Link.fail_remote (id : Nat) (reason : Text) (l : Link) :
    (fail id reason l).remote = l.remote := by
  unfold fail
  split <;> rfl

/-- For which notices there is a handler. -/
structure Handlers where
  connected : Bool := true
  disconnected : Bool := true
  message : Bool := true
  deriving DecidableEq, Repr

/-- The state of a channel. -/
structure Channel where
  config : ChannelConfig
  phase : Phase := .disconnected
  current : Option Link := none
  /-- Dropped links with frames left to write. -/
  closing : List Link := []
  /-- Received datagrams, each with the link it came in on. -/
  inbox : List (Nat × Bytes) := []
  nonce : Uuid := Uuid.zero
  identity : Text := []
  connectStarted : Instant := Instant.zero
  lastHello : Instant := Instant.zero
  /-- The name of the session that the remote side granted. -/
  session : Text := []
  handlers : Handlers := {}
  /-- How many links have been opened. -/
  opened : Nat := 0
  deriving DecidableEq, Repr

namespace Channel

open Log

/-- A new channel; the configuration is completed with defaults. -/
def new (config : ChannelConfig) (handlers : Handlers := {}) : Channel :=
  { config := config.effective, handlers }

/-- The most datagrams that an inbox can have room for, at 32 bytes each in `2 ^ 48` less its
head. -/
def inboxLimit : Int := 8796093022205

/-- A new channel, whose inbox has to be made first. -/
def open? (config : ChannelConfig) (handlers : Handlers := {}) : Except Fault Channel :=
  if inboxLimit < config.effective.inboxSize then .error .impossibleSize
  else .ok (new config handlers)

/-- The largest buffer that a reader can make. -/
def readBufferLimit : Int := 281474976710656

/-- The fault that readers run into, if their buffers cannot be made. -/
def readerFault? (c : Channel) : Option Fault :=
  if readBufferLimit < c.config.readBufferSize then some .impossibleSize else none

/-- The fields that every log line of a channel has. -/
def logContext : Fields :=
  [textField "component" (utf8 "udp-channel")]

def active (c : Channel) : Bool :=
  c.current.isSome

def connected (c : Channel) : Bool :=
  c.phase == .connected

/-- Some frame waits to be written. -/
def pending (c : Channel) : Bool :=
  (match c.current with
    | some l => !l.outbound.isEmpty
    | none => false) || !c.closing.isEmpty

/-- A frame is accepted unless as many as allowed wait already. -/
def enqueue (c : Channel) (l : Link) (frame : Bytes) : Option Link :=
  if c.config.maxOutbound ≤ l.outbound.length then none
  else some { l with outbound := l.outbound ++ [frame] }

/-! ## Calls -/

/-- What the channel reads off its clock in one operation. -/
structure Times where
  now : Instant
  /-- The reading when a hello is queued, which comes later. -/
  hello : Instant
  deriving DecidableEq, Repr

/-- What a call leads to. -/
structure Called (ε : Type) where
  channel : Channel
  /-- Why the call is refused, if so. -/
  error : Option ε := none
  events : List ChannelEvent := []
  /-- The fault of the reader that the call starts, if there is one. -/
  fault : Option Fault := none

/-- A call is refused. -/
def refuse {ε : Type} (c : Channel) (e : ε) : Called ε :=
  { channel := c, error := some e }

/-- Why a link cannot be opened. -/
inductive ConnectError where
  | alreadyActive
  | unresolved (host : Text) (port : Int) (reason : Address.ResolveError)
  | unbound (localPort : Int) (reason : Text)
  deriving DecidableEq, Repr

def ConnectError.message : ConnectError → Text
  | alreadyActive => utf8 "channel: already active"
  | unresolved host port reason =>
    utf8 "resolve " ++ host ++ utf8 ":" ++ decimal port ++ utf8 ": " ++ reason.message
  | unbound localPort reason =>
    utf8 "bind local port " ++ decimal localPort ++ utf8 ": " ++ reason

/-- Queues a hello on a link; one that does not fit is left out. -/
def greet (c : Channel) (l : Link) : Link × List ChannelEvent :=
  let frame := Frame.hello c.nonce c.identity
  match c.enqueue l frame with
  | some l => (l, [.link (.accepted l.id frame)])
  | none => (l, [])

/-- Opens a link towards an address, queues its first hello and starts its reader. -/
def openLink (c : Channel) (remote : Address) (times : Times) (nonce : Uuid) (d : Dial) :
    Called ConnectError :=
  let link : Link := { id := c.opened, remote }
  let c := { c with
    phase := .connecting, nonce, identity := d.identity, session := []
    connectStarted := times.now, lastHello := times.hello, opened := c.opened + 1 }
  let (link, events) := c.greet link
  let note : Entry :=
    { level := .debug, message := utf8 "connecting",
      fields := [textField "local" (utf8 "[::]:" ++ decimal d.localPort),
        textField "remote" (Address.joinHostPort d.host (decimal d.port))] }
  { channel := { c with current := some link }
    events := .link (.opened link.id d.localPort remote nonce) :: events ++ [.logged note]
    fault := c.readerFault? }

/-- Opens a link if there is none. `names` are the host names that can be looked up and `bound` is
why the local port cannot be bound, if so. -/
def connect (c : Channel) (names : List (Text × Bytes)) (bound : Option Text) (times : Times)
    (nonce : Uuid) (d : Dial) : Called ConnectError :=
  if c.current.isSome then c.refuse .alreadyActive
  else match Address.resolve names d.host d.port, bound with
    | .error reason, _ => c.refuse (.unresolved d.host d.port reason)
    | .ok _, some reason => c.refuse (.unbound d.localPort reason)
    | .ok remote, none => c.openLink remote times nonce d

/-- Detaches the current link. With `bye` set it stays among the closing links until its queue,
ended by a bye, has been written, unless it cannot be read; otherwise it is closed at once. -/
def detach (c : Channel) (bye : Bool) : Except Fault (Channel × List ChannelEvent) :=
  match c.current with
  | none => .error .missingLink
  | some l =>
    let c := { c with current := none, phase := .disconnected, session := [] }
    if bye && l.readError.isNone then
      .ok ({ c with closing := c.closing ++ [{ l with outbound := l.outbound ++ [Frame.bye] }] },
        [.link (.accepted l.id Frame.bye)])
    else .ok (c, [.link (.closed l.id)])

/-- Drops the current link, if there is one, and queues a bye for the remote side. -/
def disconnect (c : Channel) : Channel × List ChannelEvent :=
  match c.detach true with
  | .ok result => result
  | .error _ => (c, [])

/-- Why a message is refused. -/
inductive SendError where
  | encoding (e : Message.Error)
  | notConnected
  | outboundFull
  deriving DecidableEq, Repr

def SendError.message : SendError → Text
  | encoding e => e.message
  | notConnected => utf8 "channel: not connected"
  | outboundFull => utf8 "channel: outbound queue full"

/-- Queues an encoded message on the current link. -/
def send (c : Channel) (m : Message) : Called SendError :=
  match m.encode with
  | .error e => c.refuse (.encoding e)
  | .ok payload =>
    match c.phase, c.current with
    | .connected, some l =>
      match c.enqueue l (Frame.data payload) with
      | some l' =>
        { channel := { c with current := some l' }
          events := [.link (.accepted l.id (Frame.data payload))] }
      | none => c.refuse .outboundFull
    | _, _ => c.refuse .notConnected

/-- Closes every link at once; what was not written is lost. -/
def close (c : Channel) : Channel × List ChannelEvent :=
  let links := c.current.toList ++ c.closing
  ({ c with current := none, closing := [], phase := .disconnected, session := [] },
    links.map fun l => .link (.closed l.id))

/-! ## Sockets -/

/-- The link whose socket the remote side reaches: the current one, or else the one that was dropped
last. -/
def reachable (c : Channel) : Option Link :=
  c.current <|> c.closing.getLast?

/-- A link that is not closed, by its number. -/
def link? (c : Channel) (id : Nat) : Option Link :=
  (c.current.toList ++ c.closing).find? (·.id == id)

/-- A datagram arrives at the socket of a link. It is cut to the buffer of the reader; an empty one
and one from a foreign address are ignored, and so is one that finds the inbox full or the socket
unread. -/
def receive (c : Channel) (id : Nat) (sender : Address) (datagram : Bytes) :
    Channel × List ChannelEvent :=
  match c.link? id with
  | none => (c, [])
  | some l =>
    let data := datagram.take c.config.readBufferSize.toNat
    if c.readerFault?.isSome || l.readError.isSome || data.isEmpty || !sender.same l.remote then
      (c, [])
    else if c.config.inboxSize ≤ c.inbox.length then
      (c, [.logged { level := .debug, message := utf8 "inbox full, dropping datagram",
                     fields := [intField "bytes" data.length] }])
    else ({ c with inbox := c.inbox ++ [(id, data)] }, [.link (.received id data)])

/-- The socket of a link can no longer be read. -/
def failRead (c : Channel) (id : Nat) (reason : Text) : Channel :=
  { c with
    current := c.current.map (Link.fail id reason)
    closing := c.closing.map (Link.fail id reason) }

/-- Something that comes in from the network. -/
inductive Arrival where
  /-- A datagram reaches the socket of a link. -/
  | datagram (link : Nat) (sender : Address) (bytes : Bytes)
  /-- The socket of a link can no longer be read. -/
  | failure (link : Nat) (reason : Text)
  deriving DecidableEq, Repr

/-- Takes in what the network brings. -/
def arrive (c : Channel) : Arrival → Channel × List ChannelEvent
  | .datagram link sender bytes => c.receive link sender bytes
  | .failure link reason => (c.failRead link reason, [])

/-- Takes in several things one after the other. -/
def arriveAll (c : Channel) : List Arrival → Channel × List ChannelEvent
  | [] => (c, [])
  | a :: rest =>
    let (c, events) := c.arrive a
    let (c, more) := c.arriveAll rest
    (c, events ++ more)

/-! ## Updates -/

/-- The state of an update that is going on. -/
structure Round where
  channel : Channel
  /-- The events so far, the latest first. -/
  events : List ChannelEvent := []
  /-- The notices to raise, each with its link, the latest first; `none` is one without a
  handler. -/
  notices : List (Option (Nat × Notice)) := []

/-- A part of an update. -/
abbrev RoundM := StateT Round (Except Fault)

namespace Round

/-- Takes over a new channel state and its events. -/
def adopt (result : Channel × List ChannelEvent) : RoundM Unit :=
  modify fun r => { r with channel := result.1, events := result.2.reverse ++ r.events }

def note (level : Level) (message : String) (fields : Fields) : RoundM Unit :=
  modify fun r =>
    { r with events := .logged { level, message := utf8 message, fields } :: r.events }

/-- Puts a notice about a link on the list if there is a handler for it. -/
def raise (link : Nat) (handled : Bool) (n : Notice) : RoundM Unit :=
  if handled then
    modify fun r =>
      { r with
        notices := some (link, n) :: r.notices
        events := .link (.raised link n) :: r.events }
  else return

/-- Ends the current link and tells why. -/
def finish (reason : Text) : RoundM Nat := do
  let r ← get
  let some l := r.channel.current | throw .missingLink
  adopt (← r.channel.detach false)
  note .info "disconnected" [textField "reason" reason]
  return l.id

/-- `finish` where the notice is put on the list even without a handler. -/
def finishLoudly (reason : Text) : RoundM Unit := do
  let id ← finish reason
  let r ← get
  if r.channel.handlers.disconnected then raise id true (.disconnected reason)
  else modify fun r => { r with notices := none :: r.notices }

/-- A welcome counts only for a link that waits for one, under the nonce of that link. -/
def welcome (l : Link) (body : Bytes) : RoundM Unit := do
  let r ← get
  match Frame.nonced? body Frame.sessionSize with
  | none => return
  | some (nonce, session) =>
    if r.channel.phase = .connecting ∧ nonce = r.channel.nonce then
      modify fun r => { r with channel := { r.channel with phase := .connected, session } }
      note .info "connected" [textField "session_id" session]
      raise l.id r.channel.handlers.connected (.connected session)

/-- Data counts only on a connected link; what cannot be decoded is dropped. -/
def data (l : Link) (body : Bytes) : RoundM Unit := do
  let r ← get
  if r.channel.phase = .connected then
    match Message.decode body with
    | .error e => note .debug "dropping undecodable datagram" [textField "error" e.message]
    | .ok m => raise l.id r.channel.handlers.message (.message (some m))

/-- Handles one datagram from the inbox. One that came in on another link is ignored. -/
def handle (item : Nat × Bytes) : RoundM Unit := do
  let r ← get
  match r.channel.current, item.2 with
  | some l, kind :: body =>
    if l.id = item.1 then
      if kind = Frame.welcomeByte then welcome l body
      else if kind = Frame.dataByte then data l body
      else if kind = Frame.byeByte then
        let reason := utf8 "closed by remote"
        let id ← finish reason
        raise id r.channel.handlers.disconnected (.disconnected reason)
  | _, _ => return

/-- Handles all datagrams of the inbox. -/
def drainInbox : RoundM Unit := do
  let r ← get
  modify fun r => { r with channel := { r.channel with inbox := [] } }
  r.channel.inbox.forM handle

/-- Ends a current link that cannot be read. -/
def checkReader : RoundM Unit := do
  let r ← get
  match r.channel.current.bind (·.readError) with
  | some reason => finishLoudly (utf8 "read error: " ++ reason)
  | none => return

/-- Ends a link that has waited too long for its welcome, or repeats the hello. -/
def checkProgress (times : Times) : RoundM Unit := do
  let c := (← get).channel
  if c.phase = .connecting then
    if c.config.connectTimeout ≤ times.now.since c.connectStarted then
      finishLoudly (utf8 "connect timed out")
    else if c.config.helloInterval ≤ times.now.since c.lastHello then
      let some l := c.current | throw .missingLink
      let (l, events) := c.greet l
      adopt ({ c with current := some l, lastHello := times.hello }, events)

/-- How a sequence of writes went. -/
structure Writing where
  written : List Bytes
  left : List Bytes
  /-- How many writes were tried, including earlier ones. -/
  tried : Nat
  /-- Why the last one failed, if it did. -/
  error : Option Text

/-- Writes frames until one fails. `write n remote frame` is why write number `n` fails, if so. -/
def writeFrames (write : Nat → Address → Bytes → Option Text) (remote : Address) :
    Nat → List Bytes → Writing
  | tried, [] => ⟨[], [], tried, none⟩
  | tried, frame :: rest =>
    match write tried remote frame with
    | some reason => ⟨[], frame :: rest, tried + 1, some reason⟩
    | none =>
      let more := writeFrames write remote (tried + 1) rest
      { more with written := frame :: more.written }

/-- Writes what waits on a link. -/
def writeLink (write : Nat → Address → Bytes → Option Text) (tried : Nat) (l : Link) :
    RoundM (Nat × Link) := do
  let w := writeFrames write l.remote tried l.outbound
  modify fun r =>
    { r with events := (w.written.map fun f => .link (.written l.id f)).reverse ++ r.events }
  match w.error with
  | some reason =>
    note .warn "datagram write failed" [textField "error" reason, intField "queued" w.left.length]
  | none => pure ()
  return (w.tried, { l with outbound := w.left })

/-- Writes what waits on the closing links; those with nothing left are closed. -/
def writeClosing (write : Nat → Address → Bytes → Option Text) :
    Nat → List Link → RoundM (List Link)
  | _, [] => return []
  | tried, l :: rest => do
    let (tried, l) ← writeLink write tried l
    if l.outbound.isEmpty then
      modify fun r => { r with events := .link (.closed l.id) :: r.events }
      writeClosing write tried rest
    else return l :: (← writeClosing write tried rest)

/-- Writes what waits on all links. -/
def flush (write : Nat → Address → Bytes → Option Text) : RoundM Unit := do
  let c := (← get).channel
  let tried ← match c.current with
    | some l => do
      let (tried, l) ← writeLink write 0 l
      modify fun r => { r with channel := { r.channel with current := some l } }
      pure tried
    | none => pure 0
  let closing ← writeClosing write tried c.closing
  modify fun r => { r with channel := { r.channel with closing } }

/-- All parts of an update in their order. -/
def run (write : Nat → Address → Bytes → Option Text) (times : Times) : RoundM Unit := do
  drainInbox
  checkReader
  checkProgress times
  flush write

end Round

/-- The result of an update: the new state, the events, and the notices to raise. -/
structure Updated where
  channel : Channel
  events : List ChannelEvent
  notices : List (Option (Nat × Notice))

/-- Does the periodic work. -/
def update (c : Channel) (write : Nat → Address → Bytes → Option Text) (times : Times) :
    Except Fault Updated := do
  let (_, r) ← (Round.run write times).run { channel := c }
  return ⟨r.channel, r.events.reverse, r.notices.reverse⟩

end Channel

end Teleop
