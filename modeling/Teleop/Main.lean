import Teleop.Command.Arguments
import Teleop.Live.Engine

/-!
# The command line

Reads the arguments, carries out the command, and prints its answer.
-/

namespace Teleop

/-- The part of the disk that the settings file makes up. -/
def diskAround (path : Text) : IO Disk := do
  try
    let data ← IO.FS.readBinFile (Live.readable path)
    return .ofFiles [(path, data.data.toList)]
  catch _ => return .ofFiles []

/-- Prints an answer and returns its code. -/
def printAnswer (a : Command.Answer) : IO UInt32 := do
  (← IO.getStdout).write ⟨a.printed.toArray⟩
  (← IO.getStderr).write ⟨a.complaint.toArray⟩
  return UInt32.ofNat a.code

/-- Carries out a command. -/
def carryOut : Command → IO UInt32
  | .run path http play => do
    match (Settings.load SettingsFile.decode (← diskAround path) path).toExcept with
    | .error e => printAnswer (.failed e.message)
    | .ok settings =>
      if !settings.logFolder.isEmpty then IO.FS.createDirAll (Live.readable settings.logFolder)
      match ← Live.Engine.run settings http play with
      | some reason => printAnswer (.failed reason)
      | none => return 0
  | .config path => do
    match Command.answer (← diskAround path) [] (.config path) with
    | .ok answer => printAnswer (answer.getD {})
    | .error e => printAnswer (.failed e.message)
  | command => do
    match Command.answer (.ofFiles []) [] command with
    | .ok answer => printAnswer (answer.getD {})
    | .error e => printAnswer (.failed e.message)

end Teleop

/-- The program. -/
def main (arguments : List String) : IO UInt32 :=
  match Teleop.Command.parse (arguments.map Teleop.utf8) with
  | .ok command => Teleop.carryOut command
  | .error e => Teleop.printAnswer (.failed e.message)
