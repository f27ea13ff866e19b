import Teleop.Disk

/-!
# Daily log files

A writer appends to one file per day, named after the service and the date, and moves on to another
file with the first text of another date. A file that cannot be opened fails the write and is tried
again by the next one. A closed writer refuses everything.

The writer works in any monad `m` with operations on files.
-/

namespace Teleop

namespace Log

/-- Files that can be appended to; an open one is a `φ`. -/
structure Storage (m : Type → Type) (φ : Type) where
  /-- Opens a file for appending; it is made if there is none. -/
  openFile : (path : Text) → m (Except PathError φ)
  /-- Appends to a file. The answer is how many bytes were written, and why not all. -/
  append : φ → Bytes → m (Nat × Option Text)

/-- Files on a disk. -/
def diskStorage : Storage (StateM Disk) Text where
  openFile path disk :=
    match disk.openFile path with
    | .error reason => (.error reason, disk)
    | .ok disk => (.ok path, disk)
  append path text disk := ((text.length, none), disk.append path text)

/-- Does something to a disk. -/
def onDisk {α : Type} (act : StateM Disk α) (disk : Disk) : α × Disk :=
  act.run disk

/-- A writer of daily files. -/
structure DailyWriter (φ : Type) where
  service : Text
  folder : Text
  /-- The file that is open, if one is. -/
  file : Option φ := none
  /-- The date of the file that was opened last. -/
  date : Text := []
  closed : Bool := false
  deriving DecidableEq, Repr

namespace DailyWriter

/-- Why a text is not written. -/
inductive Error where
  | closed
  | unopened (path : Text) (reason : PathError)
  | unfinished (reason : Text)
  deriving DecidableEq, Repr

def Error.message : Error → Text
  | closed => utf8 "logger: file writer is closed"
  | unopened path reason =>
    utf8 "open log file " ++ path ++ utf8 ": " ++ reason.describe "open" path
  | unfinished reason => reason

/-- How many bytes were written, and what went wrong. -/
structure Written where
  count : Nat := 0
  error : Option Error := none
  deriving DecidableEq, Repr

variable {φ : Type}

/-- The path of the file for a date. -/
def path (w : DailyWriter φ) (date : Text) : Text :=
  joinPath w.folder (w.service ++ utf8 "_" ++ date ++ utf8 ".log")

/-- The path of the file that is open. -/
def current (w : DailyWriter φ) : Option Text :=
  w.file.map fun _ => w.path w.date

/-- Closes the file. -/
def close (w : DailyWriter φ) : DailyWriter φ :=
  if w.closed then w else { w with file := none, closed := true }

variable {m : Type → Type} [Monad m] (S : Storage m φ)

/-- Opens the file for a date, instead of any other. -/
def turnTo (w : DailyWriter φ) (date : Text) : m (Except Error φ × DailyWriter φ) := do
  match ← S.openFile (w.path date) with
  | .error reason => return (.error (.unopened (w.path date) reason), { w with file := none })
  | .ok file => return (.ok file, { w with file := some file, date })

/-- A writer whose file for a date is open. -/
def new (service folder date : Text) : m (Except Error (DailyWriter φ)) := do
  let (file, w) ← turnTo S { service, folder } date
  return file.map fun _ => w

/-- The file for a date, which is opened unless it is open. -/
def fileFor (w : DailyWriter φ) (date : Text) : m (Except Error φ × DailyWriter φ) :=
  match w.file with
  | some file => if date = w.date then pure (.ok file, w) else w.turnTo S date
  | none => w.turnTo S date

/-- Appends a text to the file for a date. -/
def write (w : DailyWriter φ) (date : Text) (text : Bytes) : m (Written × DailyWriter φ) := do
  if w.closed then return ({ error := some .closed }, w)
  match ← w.fileFor S date with
  | (.error e, w) => return ({ error := some e }, w)
  | (.ok file, w) =>
    let (count, problem) ← S.append file text
    return ({ count, error := problem.map .unfinished }, w)

end DailyWriter

end Log

end Teleop
