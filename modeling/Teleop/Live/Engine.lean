import Std.Async.DNS
import Std.Async.Signal
import Teleop.Command.Answer
import Teleop.Live.Pages

/-!
# Holding a session

The loop of the program over real sockets and the real clock: between two ticks it takes in what has
come in, and it ends with an interrupt.
-/

namespace Teleop

namespace Live

open Std.Net Std.Async Program

/-- The text as a string; stray bytes are replaced. -/
def readable (t : Text) : String :=
  String.ofList ((Utf8.runes t).map fun r => Char.ofNat r.code)

/-- The present time. -/
def presentTime : IO Instant := do
  let t ← Std.Time.Timestamp.now
  return (Instant.ofDay 719162).add t.toNanosecondsSinceUnixEpoch.val

/-- A fresh identifier. -/
def freshUuid : IO Uuid := do
  return Uuid.random (← IO.getRandomBytes 16).data.toList

/-- Why a file could not be opened. -/
def pathError : IO.Error → PathError
  | .noFileOrDirectory .. | .noSuchThing .. => .notFound
  | .inappropriateType .. => .isFolder
  | .alreadyExists .. => .taken
  | .permissionDenied .. => .denied
  | _ => .invalid

/-- The files of the host. -/
def hostStorage : Log.Storage IO IO.FS.Handle where
  openFile path := do
    try return .ok (← IO.FS.Handle.mk (readable path) .append)
    catch problem => return .error (pathError problem)
  append file text := do
    try
      file.write ⟨text.toArray⟩
      file.flush
      return (text.length, none)
    catch problem => return (0, some (reasonOf problem))

/-- What a running program works with. -/
structure Engine where
  settings : Settings
  /-- The writer of the log, if it goes to files. -/
  daily : Option (IO.Ref (Log.DailyWriter IO.FS.Handle))
  /-- The addresses of host names. -/
  names : List (Text × Bytes)
  sockets : IO.Ref (List LinkSocket)
  world : IO.Ref (ProgramWorld Foresight)
  /-- Whether the program has been interrupted. -/
  interrupted : IO Bool

namespace Engine

def bufferSize (e : Engine) : Nat :=
  e.settings.channel.effective.readBufferSize.toNat

/-- Writes a line to the standard output and to the file of its day, or else to the standard
error. -/
def writeLine (e : Engine) (now : Instant) (line : Text) : IO Unit := do
  if line.isEmpty then return
  let complain (t : Text) : IO Unit := do (← IO.getStderr).write ⟨t.toArray⟩
  match e.daily with
  | none => complain line
  | some daily =>
    let out ← IO.getStdout
    out.write ⟨line.toArray⟩
    out.flush
    let (written, writer) ← (← daily.get).write hostStorage now.date.text line
    daily.set writer
    if let some problem := written.error then
      complain (utf8 "could not write event: " ++ problem.message ++ utf8 "\n")

/-- Carries out the demands from number `done` on; the answer is the number of the one that failed,
and why. -/
def meet (e : Engine) (all : List Demand) (done : Nat) : IO (Option (Nat × Text)) := do
  for (demand, i) in (all.drop done).zipIdx done do
    try carryOut e.bufferSize e.sockets demand catch problem => return some (i, reasonOf problem)
  return none

/-- Works out a step from a world, carries out its demands, and works it out again for as long as
one fails. -/
partial def settle {α : Type} (e : Engine) (act : ProgramAct Foresight α)
    (start : ProgramWorld Foresight) (known : Foresight) (done : Nat) : IO α := do
  match act.run (known.apply start) with
  | .error _ => throw (IO.userError "the session broke off")
  | .ok (value, w) =>
    let all := demands w.history
    match ← e.meet all done with
    | none =>
      e.world.set w
      for event in w.history do
        e.writeLine w.clock (line e.settings Command.program w.clock event)
      return value
    | some (failed, reason) =>
      match all[failed]? with
      | some demand => e.settle act start (known.learn (all.take failed) demand reason) failed
      | none => throw (IO.userError "the session broke off")

/-- Takes one step at the present time. -/
def step {α : Type} (e : Engine)
    (act : Wiring (Wired Foresight) (Option PortSupply) Empty → ProgramAct Foresight α) :
    IO α := do
  let w ← e.world.get
  let now ← presentTime
  let fresh ← (List.range 4).mapM fun _ => freshUuid
  let net := Foresight.network e.names
  let W := wiring e.settings net (fun n => fresh.getD (n - w.draws) Uuid.zero) fun _ => now
  e.settle (act W) { w with clock := now } {} 0

/-- Hands what has come in to the channel. -/
def takeIn (e : Engine) : IO Unit := do
  let items ← collect e.bufferSize e.sockets
  e.step fun _ => items.forM fun (link, item) => do
    let w ← get
    match item with
    | .error reason =>
      set { w with channel := { w.channel with channel := w.channel.channel.failRead link reason } }
    | .ok (sender, datagram) =>
      let (channel, events) := w.channel.channel.receive link sender datagram
      set { w with channel := { w.channel with channel } }
      Act.recordAll (events.map Event.ofChannel)

/-- Ticks until the program is interrupted. -/
partial def loop (e : Engine) : IO Unit := do
  e.takeIn
  discard (e.step fun W => W.tick)
  if ← e.interrupted then return
  IO.sleep (UInt32.ofNat (e.settings.session.tickInterval / Duration.millisecond).toNat)
  e.loop

/-- The page for a request, from the present state. -/
def page (e : Engine) (request : Service.Request) : IO Service.Page := do
  let w ← e.world.get
  let now ← presentTime
  let W := wiring e.settings (Foresight.network e.names) (fun _ => Uuid.zero) fun _ => now
  return Service.respond request (.ok (view W now (← presentTime) w)) (some w.metrics)

/-- Serves the pages at an address, which is a host and a port. -/
def serve (e : Engine) (http : Text) : IO Unit := do
  try
    match Address.splitHostPort http with
    | .error reason => throw (IO.userError reason.message)
    | .ok (host, port) =>
      let ip := (Address.ipLiteral? host).getD [0, 0, 0, 0]
      servePages { ip, port := ofDigits port } e.page
  catch problem =>
    e.step fun _ => note .error "http server failed" [Log.textField "error" (reasonOf problem)]

/-- Looks up a host name. -/
def lookUp (host : Text) : IO (List (Text × Bytes)) := do
  try
    let found ← (DNS.getAddrInfo (readable host) "" (some .ipv4)).block
    return (found.toList.take 1).map fun a => (host, ipBytes a)
  catch _ => return []

/-- Starts to watch for signals that interrupt the program. -/
def watch : IO (IO Bool) := do
  let watched ← [Signal.sigint, Signal.sigterm].mapM fun s => do
    let waiter ← Signal.Waiter.mk s false
    return (waiter, ← waiter.wait)
  return watched.anyM fun (_, task) => do
    match ← task.getState with
    | .finished => return true
    | _ => return false

/-- The writer of the log, or why there is none though there should be. -/
def openLog (settings : Settings) (now : Instant) :
    IO (Except Text (Option (IO.Ref (Log.DailyWriter IO.FS.Handle)))) := do
  if settings.logFolder.isEmpty then return .ok none
  match ← Log.DailyWriter.new hostStorage Command.program settings.logFolder now.date.text with
  | .error e => return .error e.message
  | .ok writer => return .ok (some (← IO.mkRef writer))

/-- Holds a session; the answer is why it failed, if it did. -/
def run (settings : Settings) (http play : Text) : IO (Option Text) := do
  let now ← presentTime
  match ← openLog settings now, Program.world settings {} now with
  | .error reason, _ => return some reason
  | _, .error e => return some e.message
  | .ok daily, .ok world =>
    let e : Engine := {
      settings
      daily
      names := ← lookUp settings.session.remoteHost
      sockets := ← IO.mkRef []
      world := ← IO.mkRef world
      interrupted := ← watch }
    let refusal ← e.step fun W => launch W play
    if refusal.isNone then
      if !http.isEmpty then e.serve http
      e.loop
    e.step fun W => finish W refusal.isSome
    return refusal.map (·.message)

end Engine

end Live

end Teleop
