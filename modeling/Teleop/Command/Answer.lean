import Teleop.Command.Completion
import Teleop.Log.FileLogger
import Teleop.Message.Codec
import Teleop.Settings.Document
import Teleop.Settings.Summary

/-!
# Answers

What the commands print, and with what code the program ends.

* `Command.answer` is what a command that does not hold a session answers;
* `Command.prepare` is what happens before a session is held.
-/

namespace Teleop

namespace Command

/-- What the program leaves behind. -/
structure Answer where
  code : Nat := 0
  printed : Text := []
  complaint : Text := []
  deriving DecidableEq, Repr

/-- The answer to something that failed. -/
def Answer.failed (message : Text) : Answer :=
  { code := 1, complaint := utf8 "error: " ++ message ++ utf8 "\n" }

/-- The version of the program. -/
def versionText : Text :=
  program ++ utf8 " dev (none)\n"

/-- A text between backquotes, or in double quotes if that would not show it as it is. -/
def quoteWord (t : Text) : Text :=
  let plain (r : Rune) : Bool := match r with
    | .stray _ => false
    | .scalar code _ => (32 ≤ code || code = 9) && code ≠ 96 && code ≠ 127 && code ≠ 0xFEFF
  if (Utf8.runes t).all plain then [96] ++ t ++ [96] else quoteText t

/-- The answer to a question about something that is no topic. -/
def unknownTopicText (asked : List Text) : Text :=
  utf8 "Unknown help topic [" ++ joinWith (utf8 " ") (asked.map quoteWord) ++ utf8 "]\n" ++
    Topic.program.usage false

/-- Why a session cannot be held. -/
inductive StartError where
  | settings (e : Settings.LoadError)
  | logger (e : Log.FileLogger.Error)
  deriving DecidableEq, Repr

def StartError.message : StartError → Text
  | settings e => e.message
  | logger e => e.message

/-- The settings and the disk with which a session begins: the log file has been opened by then. -/
def prepare (disk : Disk) (date path : Text) : Except StartError (Settings × Disk) :=
  match (Settings.load SettingsFile.decode disk path).toExcept with
  | .error e => .error (.settings e)
  | .ok settings =>
    if settings.logFolder.isEmpty then .ok (settings, disk)
    else
      match Log.FileLogger.new program settings.logFolder (.parse settings.logLevel) date disk with
      | .error e => .error (.logger e)
      | .ok (_, outlets) => .ok (settings, outlets.files)

/-- Why a session that is held ends at once: the animation that it is to play is refused. -/
def refusal? : Command → Option Message.Error
  | .run _ _ play => if play.isEmpty then none else (Message.buildPlayAnimation play).error
  | _ => none

/-- What a command answers; `none` if a session is to be held instead. -/
def answer (disk : Disk) (date : Text) : Command → Except StartError (Option Answer)
  | .version => .ok (some { complaint := versionText })
  | .help topic => .ok (some { printed := topic.text })
  | .unknownTopic asked => .ok (some { complaint := unknownTopicText asked })
  | .complete words described =>
    let offer := Offer.of described words
    .ok (some { printed := offer.text, complaint := offer.remarks })
  | .config path =>
    match (Settings.load SettingsFile.decode disk path).toExcept with
    | .ok settings => .ok (some { complaint := settings.summary })
    | .error e => .error (.settings e)
  | .run path _ _ =>
    match prepare disk date path with
    | .ok _ => .ok none
    | .error e => .error e

end Command

end Teleop
