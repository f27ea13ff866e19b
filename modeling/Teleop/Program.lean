import Teleop.Log.Line
import Teleop.Port.Supply
import Teleop.Service.Page
import Teleop.Session.Call
import Teleop.Session.Datagram
import Teleop.Settings.Basic

/-!
# The program

How settings become a session over a datagram channel, whatever network is below it: the program
subscribes to the status texts and logs them, asks for a connection or for an animation to be
played, and keeps the session going until it is told to shut down.

* `Program.world` is where the program begins, `Program.wiring` what stays fixed;
* `Program.launch` and `Program.finish` are its first and last steps.
-/

namespace Teleop

namespace Program

open Act

variable {ν : Type}

/-- The world of the program, over a network with state `ν`. -/
abbrev ProgramWorld (ν : Type) := World (Wired ν) (Option PortSupply)

/-- An operation of the program. -/
abbrev ProgramAct (ν : Type) := Act (Wired ν) (Option PortSupply)

/-- Why a session cannot be set up. -/
inductive Error where
  | ports (e : Allocator.Error)
  | session (e : SessionError)
  deriving DecidableEq, Repr

def Error.message : Error → Text
  | ports e => e.message
  | session e => e.message

/-- Where local ports come from. -/
def supply (settings : Settings) : Except Error (Option PortSupply) :=
  if settings.usesPortRange then
    match Allocator.new settings.portMin settings.portMax with
    | .ok allocator => .ok (some { allocator })
    | .error e => .error (.ports e)
  else .ok none

/-- The world in which the program begins. -/
def world (settings : Settings) (network : ν) (now : Instant) :
    Except Error (ProgramWorld ν) := do
  let ports ← supply settings
  let session ← (Session.new settings.session true).mapError .session
  let (_, status) := session.status.add { name := utf8 "program" }
  return {
    session := { session with status }
    channel := { channel := Channel.new settings.channel, network }
    ports
    roster := { ttl := settings.registryTtl }
    clock := now }

/-- Logs an entry in the name of the program. -/
def note (level : Log.Level) (message : String) (fields : Log.Fields := []) : ProgramAct ν Unit :=
  record (.logged .holder { level, message := utf8 message, fields })

/-- What stays fixed while the program runs. Every status text is logged. -/
def wiring (settings : Settings) (net : Network ν) (uuid : Nat → Uuid) (wall : Nat → Instant) :
    Wiring (Wired ν) (Option PortSupply) Empty where
  config := settings.session
  transport := net.transport
  ports := PortSupply.source
  uuid
  wall
  react _ text := note .info "connection status" [Log.textField "text" text]
  interrupt := nofun

variable (W : Wiring (Wired ν) (Option PortSupply) Empty)

/-- Starts the session with an animation to play, if one is named, or with the wish to connect. The
answer is why the animation is refused, if it is. -/
def launch (play : Text) : ProgramAct ν (Option Message.Error) := do
  W.start
  match ← W.perform (if play.isEmpty then .requestConnect else .sendAnimation play) with
  | .built error => return error
  | _ => return none

/-- Ends the session. A program that ran into no error says so. -/
def finish (failed : Bool) : ProgramAct ν Unit := do
  if !failed then note .info "shutting down"
  Wiring.stop
  W.shutdown W.drainPolls

/-- The line that an event adds to the log. -/
def line (settings : Settings) (service : Text) (now : Instant) : Event → Text
  | .logged source entry =>
    let logger : Log.Logger := { service, level := .parse settings.logLevel }
    let context := match source with
      | .session => settings.session.logContext
      | .channel => Channel.logContext
      | .holder => []
    (logger.withFields context).line now entry
  | _ => []

/-- What the status page shows; agents and devices are looked up one after the other. -/
def view (now later : Instant) (w : ProgramWorld ν) : Service.View where
  text := w.session.status.last
  state := (W.state w).name
  agents := w.roster.agents now
  devices := w.roster.devices later

end Program

end Teleop
