import Teleop.Log.Daily
import Teleop.Log.Line

/-!
# File loggers

A file logger writes each line to the standard output and to a daily file. Loggers derived from it
share its writer, but only the first one can close it.
-/

namespace Teleop

namespace Log

/-- A logger and whether it owns the writer. -/
structure FileLogger where
  logger : Logger
  owner : Bool
  deriving Repr

/-- What file loggers write to. -/
structure Outlets where
  writer : DailyWriter Text
  files : Disk
  /-- What went to the standard output. -/
  printed : Text := []

namespace FileLogger

/-- Why there is no file logger. -/
inductive Error where
  | folder (path : Text) (reason : PathError)
  | writer (e : DailyWriter.Error)
  deriving DecidableEq, Repr

def Error.message : Error → Text
  | folder path reason => utf8 "create log directory: " ++ reason.describe "mkdir" path
  | writer e => e.message

/-- A file logger in a folder, which is made if there is none. -/
def new (service folder : Text) (level : Level) (date : Text) (disk : Disk) :
    Except Error (FileLogger × Outlets) :=
  match disk.makeFolders folder with
  | .error (path, reason) => .error (.folder path reason)
  | .ok disk =>
    match onDisk (DailyWriter.new diskStorage service folder date) disk with
    | (.error e, _) => .error (.writer e)
    | (.ok writer, files) =>
      .ok ({ logger := { service, level }, owner := true }, { writer, files })

/-- A logger with further fields. -/
def withFields (l : FileLogger) (fields : Fields) : FileLogger :=
  { logger := l.logger.withFields fields, owner := false }

/-- Writes an entry. -/
def log (l : FileLogger) (date : Text) (time : Instant) (e : Entry) (o : Outlets) : Outlets :=
  let line := l.logger.line time e
  if line.isEmpty then o
  else
    let ((_, writer), files) := onDisk (o.writer.write diskStorage date line) o.files
    { writer, files, printed := o.printed ++ line }

/-- Closes the writer, if the logger owns it. -/
def close (l : FileLogger) (o : Outlets) : FileLogger × Outlets :=
  if l.owner then ({ l with owner := false }, { o with writer := o.writer.close }) else (l, o)

end FileLogger

end Log

end Teleop
