import Teleop.Message.Codec
import Teleop.Session.World

/-!
# Sending, showing and answering

The parts of a session that its ticks and its callers share: handing a message to the transport,
showing the status, marking readiness, and what the three kinds of notice lead to. A connected
notice starts the handshake, an announcement is recorded and answered, and the first heartbeat on a
link makes the session ready.
-/

namespace Teleop

namespace Wiring

open Act Log

variable {χ π ι : Type} (W : Wiring χ π ι)

/-- Hands a message to the transport. A refusal is counted and logged under the name of the
message's tag, which a missing message does not have. -/
def send (label : Label) (m : Option Message) : Act χ π Unit := do
  let w ← get
  let reply ← W.transport.send m w.channel
  let error ← adopt reply
  record (.handOff label m error.isNone)
  match error with
  | none => count fun c => { c with sent := c.sent.bump label }
  | some reason =>
    count fun c => { c with refused := c.refused.bump label }
    match m with
    | none => throw .missingMessage
    | some m =>
      log .warn "send failed" [textField "error" reason, textField "tag" (tagName m.tag),
        textField "queue" (utf8 label.name)]

/-- The session is ready and its last heartbeat is overdue. -/
def lagging (w : World χ π) : Bool :=
  isLagging W.config.livenessTimeout w.session.lastHeartbeat w.session.ready w.clock

/-- The state that an observer sees. -/
def state (w : World χ π) : SessionState :=
  .derive (W.lagging w) (W.transport.connected w.channel) w.session.ready
    (W.transport.active w.channel)

/-- What the status text depends on. -/
def facts (w : World χ π) : StatusFacts where
  lagging := W.lagging w
  connected := W.transport.connected w.channel
  ready := w.session.ready
  active := W.transport.active w.channel
  reason := w.session.reason

/-- Shows a text to subscribers one after the other. -/
def present (text : Text) : List (UInt64 × Subscriber) → Act χ π Unit
  | [] => return
  | (_, s) :: rest => do
    record (.shown s.name text)
    W.react s text
    present text rest

/-- Works out the status text and shows it if it has changed. At the end of a tick the reason of a
disconnect is used up. -/
def publish (endOfTick : Bool) : Act χ π Unit := do
  let w ← get
  let (text, subscribers?, status) := w.session.status.update (W.facts w)
  remember fun s => { s with status, reason := if endOfTick then [] else s.reason }
  match subscribers? with
  | none => return
  | some subscribers =>
    log .debug "connection status" [textField "text" text]
    W.present text subscribers

/-- Marks the session as ready or not, in its memory and on the gauge. -/
def setReady (ready : Bool) : Act χ π Unit := do
  remember fun s => { s with ready }
  count fun c => { c with ready }

/-! ## Notices -/

/-- Hands over a message of the handshake; one that cannot be built is left out. -/
def offer (b : Message.Built) (skipped : String) (fields : Fields) : Act χ π Unit :=
  match b.error with
  | some e => log .warn skipped (textField "error" e.message :: fields)
  | none => W.send .handshake b.message

/-- The message that starts the engine. -/
def startEngine : Message.Built :=
  Message.buildStartEngine W.config.handshakeHost

/-- The message that registers the agent. -/
def forceAddAgent : Message.Built :=
  Message.buildForceAddAgent W.config.agentId W.config.agentIp W.config.agentSimulated

/-- A link has come up: the engine is started and the agent registered. -/
def onConnected (session : Text) : Act χ π Unit := do
  setReady false
  log .info "transport connected, sending handshake" [textField "remote_session" session]
  W.offer W.startEngine "skipping start engine message" []
  W.offer W.forceAddAgent "skipping force add agent message"
    [intField "agent_id" W.config.agentId]

/-- A link has ended. -/
def onDisconnected (reason : Text) : Act χ π Unit := do
  log .info "transport disconnected" [textField "reason" reason]
  setReady false
  remember fun s => { s with reason }
  W.publish false

/-- A heartbeat counts only while the transport is connected. The first one makes the session ready
and sends the idle message. -/
def onHeartbeat : Act χ π Unit := do
  let w ← get
  record (.beat (W.transport.connected w.channel) w.session.ready)
  if W.transport.connected w.channel then
    remember fun s => { s with lastHeartbeat := w.clock, ready := true }
    count fun c => { c with heartbeats := c.heartbeats + 1 }
    if !w.session.ready then
      count fun c => { c with ready := true }
      log .info "agent ready"
      if w.session.idle.isSome then W.send .idle w.session.idle

/-- Records a peer, for which the clock of the roster is read. -/
def recordPeer (f : Roster → Instant → Instant → Roster) : Act χ π Unit :=
  modify fun w =>
    { w with
      roster := f w.roster (W.wall w.readings) w.clock
      readings := w.readings + 1 }

/-- A message has come in. -/
def onMessage : Option Message → Act χ π Unit
  | none => throw .missingMessage
  | some (.agentAvailable id ip) => do
    W.recordPeer fun r now seen => r.recordAgent now seen id ip
    let answer := Message.buildConnectToAgent W.config.agentId
    match answer.error with
    | some e => log .warn "cannot request agent" [textField "error" e.message]
    | none => W.send .reply answer.message
  | some (.uiDeviceAvailable device) => do
    W.recordPeer fun r now seen => r.recordDevice now seen device
    W.send .reply (Message.connectToUIDevice device)
  | some (.agentStatus ..) => W.onHeartbeat
  | some m => log .debug "ignoring inbound message" [textField "tag" (tagName m.tag)]

/-- What a notice leads to. -/
def onNotice : Notice → Act χ π Unit
  | .connected session => W.onConnected session
  | .disconnected reason => W.onDisconnected reason
  | .message m => W.onMessage m

/-- Takes in a notice about a link. -/
def takeNotice (link : Option Nat) (n : Notice) : Act χ π Unit := do
  record (.noticed link n)
  W.onNotice n

/-! ## Driving the transport -/

/-- Runs what an update does, handling its notices as they come. -/
def follow : Activity χ ι → Act χ π Unit
  | .done channel => modify fun w => { w with channel }
  | .fault f => throw f
  | .notice link n channel next => do
    modify fun w => { w with channel }
    W.takeNotice link n
    let w ← get
    follow (next w.channel)
  | .interrupt i channel next => do
    modify fun w => { w with channel }
    W.interrupt i
    let w ← get
    follow (next w.channel)

/-- Lets the transport do its periodic work. -/
def update : Act χ π Unit := do
  record .update
  let w ← get
  let (events, activity) := W.transport.update w.clock w.channel
  recordAll (events.map Event.ofChannel)
  W.follow activity

/-- Drops the link. -/
def disconnect : Act χ π Unit := do
  record .disconnect
  let w ← get
  adopt (W.transport.disconnect w.channel)

end Wiring

end Teleop
