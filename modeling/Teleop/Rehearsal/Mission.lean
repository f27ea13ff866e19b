import Teleop.Command.Answer
import Teleop.Program
import Teleop.Rehearsal.ChannelBench

/-!
# Missions

A mission is a whole run of the program against a peer in memory: the settings are read, a session
is started over a datagram channel, the peer follows a script, and when the script is at its end the
session is stopped. A tick takes one tick interval of the session's clock, and the peer does what it
can between two ticks.
-/

namespace Teleop

namespace Rehearsal

open Act Program

/-- What the peer does. -/
inductive Cue where
  /-- Waits until this many more frames have reached it. -/
  | expect (count : Nat)
  | send (datagram : Bytes)
  deriving DecidableEq, Repr

/-- What happened in a mission. -/
structure MissionReport where
  /-- Why the animation was refused, if it was. -/
  refusal : Option Message.Error
  /-- The frames that reached the peer, in order. -/
  frames : List Bytes
  /-- The different messages that were logged as information or as a warning, sorted. -/
  messages : List Text

/-- Why there is no report of a mission. -/
inductive MissionError where
  | start (e : Command.StartError)
  | program (e : Program.Error)
  | fault (f : Fault)

/-- The peer goes on with its script as far as it can; `seen` is the number of frames it has waited
for. -/
def followCues : List Cue → Nat → ProgramAct Loopback (List Cue × Nat)
  | [], seen => return ([], seen)
  | .expect count :: rest, seen => do
    let w ← get
    if seen + count ≤ w.channel.network.arrived.length then followCues rest (seen + count)
    else return (.expect count :: rest, seen)
  | .send datagram :: rest, seen => do
    let w ← get
    let (_, wired, events) := Stimulus.apply w.channel (.peer datagram)
    set { w with channel := wired }
    recordAll (events.map Event.ofChannel)
    followCues rest seen

/-- Ticks until the script is at its end, within a budget. -/
def missionLoop (W : Wiring (Wired Loopback) (Option PortSupply) Empty) :
    Nat → List Cue → Nat → ProgramAct Loopback Unit
  | 0, _, _ => throw .endlessLoop
  | budget + 1, cues, seen => do
    let _ ← W.tick
    let (cues, seen) ← followCues cues seen
    if cues.isEmpty then return
    modify fun w => { w with clock := w.clock.add W.config.tickInterval }
    missionLoop W budget cues seen

/-- The ticks that a mission may take. -/
def missionBudget : Nat := 1000000

/-- A session from its start to its end; the answer is why the animation was refused, if it was. -/
def missionRun (settings : Settings) (play : Text) (cues : List Cue) :
    ProgramAct Loopback (Option Message.Error) := do
  let W := wiring settings Loopback.network identifier glance
  let refusal ← launch W play
  if refusal.isNone then missionLoop W missionBudget cues 0
  finish W refusal.isSome
  return refusal

/-- What an event adds to the messages: information and warnings that the settings let through. -/
def messageOf (level : Log.Level) : Event → Option Text
  | .logged _ entry =>
    if level.number ≤ entry.level.number ∧ (entry.level = .info ∨ entry.level = .warn) then
      match entry.fields.lookup (utf8 "text") with
      | some (.text t) => some (entry.message ++ utf8 " " ++ t)
      | _ => some entry.message
    else none
  | _ => none

/-- A run of the program with the settings at a path. -/
def mission (network : Loopback) (disk : Disk) (date path play : Text) (cues : List Cue) :
    Except MissionError MissionReport := do
  let (settings, _) ← (Command.prepare disk date path).mapError .start
  discard ((Channel.open? settings.channel).mapError .fault)
  let world ← (Program.world settings network .year2100).mapError .program
  let (refusal, world) ← ((missionRun settings play cues).run world).mapError .fault
  let messages := world.history.filterMap (messageOf (.parse settings.logLevel))
  return {
    refusal
    frames := world.channel.network.arrived.reverse
    messages := messages.eraseDups.mergeSort fun a b => decide (¬ b < a) }

end Rehearsal

end Teleop
