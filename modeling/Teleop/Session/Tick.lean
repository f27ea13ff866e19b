import Teleop.Session.Conduct
import Teleop.Time.DurationText

/-!
# Ticks and shutdown

The session loop runs a tick per interval. A tick takes out the work that waits, carries out a
requested reset, lets the transport work, makes sure that there is a link if one is wanted, sends
the work if the session is ready or puts it back if not, and shows the status.

* `tick` is one round of the loop;
* `ensureConnected` enforces the liveness timeout and the retry budget;
* `shutdown` ends the session.
-/

namespace Teleop

namespace Wiring

open Act Log

variable {χ π ι : Type} (W : Wiring χ π ι)

/-- The next local port, or why there is none. -/
def nextPort : Act χ π (Except Text Int) := do
  let w ← get
  let (port, ports, events) := W.ports.next w.ports
  modify fun w => { w with ports }
  recordAll (events.map Event.ofPorts)
  return port

/-- Asks the transport for a link from a local port. -/
def dial (number : Nat) (port : Int) : Act χ π Unit := do
  log .debug "connecting" [intField "attempt" number, intField "local_port" port]
  let c := W.config
  record (.connect c.deviceId port c.remoteHost c.remotePort)
  let w ← get
  let reply ← W.transport.connect w.clock (W.uuid w.draws)
    { identity := c.deviceId, localPort := port, host := c.remoteHost, port := c.remotePort }
    w.channel
  let dialled ← adopt reply
  modify fun w => { w with draws := if dialled.drew then w.draws + 1 else w.draws }
  match dialled.error with
  | some reason =>
    log .warn "connect attempt failed" [textField "error" reason, intField "attempt" number]
  | none => return

/-- One attempt to connect, from a port of the supply. -/
def attempt (number : Nat) : Act χ π Unit := do
  record .attempted
  count fun c => { c with connectAttempts := c.connectAttempts + 1 }
  match ← W.nextPort with
  | .error reason =>
    log .warn "no local port for connect attempt"
      [textField "error" reason, intField "attempt" number]
  | .ok port => W.dial number port

/-- Drops the link if its heartbeat is overdue. -/
def enforceLiveness : Act χ π Unit := do
  if W.lagging (← get) then
    record .overdue
    log .warn "no heartbeat within liveness timeout, dropping link"
      [textField "timeout" (Duration.text W.config.livenessTimeout)]
    count fun c => { c with livenessTimeouts := c.livenessTimeouts + 1 }
    W.disconnect
    setReady false
    remember fun s => { s with reason := Status.timedOut }
    W.publish false

/-- Makes sure that there is a link or that one is being made. The answer is `false` once the budget
of attempts is spent: the first attempt and `retryLimit` more. -/
def ensureConnected : Act χ π Bool := do
  W.enforceLiveness
  let w ← get
  record (.checked (W.transport.active w.channel))
  if W.transport.active w.channel then return true
  else if W.config.retryLimit < w.session.tries then return false
  else
    remember fun s => { s with tries := s.tries + 1 }
    W.attempt (w.session.tries + 1)
    W.update
    return true

/-- Empties the request slot, the backlog and the queues. -/
def discardWork (s : Session) : Session :=
  { s with
    connectRequested := false
    request := none
    backlog := s.backlog.clear
    queues := s.queues.map Queue.clear }

/-- Discards the work that waits, which is stale by now, until a connection is asked for again. -/
def giveUp : Act χ π Unit := do
  remember discardWork
  record .gaveUp
  let w ← get
  count fun c => { c with giveUps := c.giveUps + 1 }
  log .warn "giving up on connection until next request" [intField "attempts" w.session.tries]

/-- Notes that the backlog dropped messages. -/
def noteOverflow (dropped : Nat) : Act χ π Unit :=
  if 0 < dropped then do
    record (.overflowed dropped)
    log .warn "outgoing buffer full, dropped oldest messages" [intField "dropped" dropped]
  else return

/-- Puts back work that could not be sent. A request that was set in the meantime stays. -/
def putBack (request : Option Message) (pending : List Message) : Act χ π Unit :=
  if request.isNone ∧ pending = [] then return
  else do
    let w ← get
    let (dropped, backlog) ← w.session.backlog.restore (pending.map some)
    remember fun s => { s with request := s.request <|> request, backlog }
    noteOverflow dropped

/-- Takes the due batches out of the queues. -/
def takeDue : Act χ π (List (Option Message)) := do
  let w ← get
  let (batches, queues) := Queue.takeAll w.clock w.session.queues
  record (.drained w.clock (Queue.dueBatches w.clock w.session.queues))
  remember fun s => { s with queues }
  return batches

/-- Sends messages one after the other. -/
def sendAll (label : Label) (messages : List (Option Message)) : Act χ π Unit :=
  messages.forM (W.send label)

/-- Sends the request, then the backlog, then the due batches. -/
def sendWork (request : Option Message) (pending : List Message) : Act χ π Unit := do
  W.sendAll .request (request.toList.map some)
  W.sendAll .fifo (pending.map some)
  let due ← takeDue
  W.sendAll .coalescing due

/-- Takes the request and the backlog out of the session. -/
def takeWork : Act χ π (Option Message × List Message) := do
  let w ← get
  let (pending, backlog) ← w.session.backlog.drain
  remember fun s => { s with request := none, backlog }
  return (w.session.request, pending)

/-- Drops the link if a reset was requested. -/
def resetLink : Act χ π Unit := do
  let w ← get
  remember fun s => { s with resetRequested := false }
  if w.session.resetRequested then
    log .info "reset requested, dropping link"
    W.disconnect
    setReady false

/-- Makes sure that there is a link if one is wanted; `false` if the session gave up. -/
def maintain : Act χ π Bool := do
  let w ← get
  if !w.session.connectRequested then return true
  else if ← W.ensureConnected then return true
  else
    giveUp
    return false

/-- Sends work that was taken out if the session is ready, or else puts it back. -/
def dispatch (request : Option Message) (pending : List Message) : Act χ π Unit := do
  let w ← get
  record (.weighed (W.transport.connected w.channel) w.session.ready)
  if W.transport.connected w.channel && w.session.ready then W.sendWork request pending
  else putBack request pending

/-- One round of the loop; `false` means that the loop is to end. Work that was taken out is lost
when the session gives up. -/
def tick : Act χ π Bool := do
  let w ← get
  if w.session.stopRequested then return false
  else
    let (request, pending) ← takeWork
    W.resetLink
    W.update
    if ← W.maintain then W.dispatch request pending else W.dispatch none []
    W.publish true
    return true

/-- Lets the transport work once; `true` if something is left to be written. -/
def poll : Act χ π Bool := do
  W.update
  let w ← get
  adopt (W.transport.pending w.channel)

/-- Lets the transport flush, for at most `polls` more updates after the first; `false` if it has
not finished by then. -/
def drainTransport : Nat → Act χ π Bool
  | 0 => do return !(← W.poll)
  | polls + 1 => do
    if ← W.poll then drainTransport polls else return true

/-- Notes that the transport has not finished. -/
def noteDrain (drained : Bool) : Act χ π Unit :=
  if drained then return
  else
    log .warn "shutdown drain timed out, transport still has pending operations"
      [textField "timeout" (Duration.text W.config.drainTimeout)]

/-- Ends the session: drops the link, waits for the transport and discards all work. `polls` is the
number of times the transport is polled before the drain times out. -/
def shutdown (polls : Nat) : Act χ π Unit := do
  W.disconnect
  W.noteDrain (← W.drainTransport polls)
  remember fun s => { discardWork s with running := false, ready := false }
  record .discarded
  let w ← get
  count fun c => { c with ready := false }
  W.publish true
  log .info "session stopped" [textField "session" w.session.run]

/-- How often the transport is polled before a drain times out: every ten milliseconds. -/
def drainPolls : Nat :=
  (W.config.drainTimeout / (10 * Duration.millisecond)).toNat

end Wiring

end Teleop
