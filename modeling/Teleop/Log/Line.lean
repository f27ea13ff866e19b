import Teleop.Decimal.Shortest
import Teleop.Log.Level
import Teleop.Time.Calendar

/-!
# Log lines

A log line is a JSON object: the level, the service, the fields of the logger, the fields of the
entry in the order of their names, the time, and the message unless it is empty.

* `Logger` is what all lines of one logger have in common;
* `Logger.line` writes an entry, or nothing if its level is too low.
-/

namespace Teleop

namespace Log

/-- How strings in log lines are escaped. -/
def lineStyle : Json.Style :=
  { markup := false, separators := false, delete := true, stray := utf8 "\\ufffd" }

/-- The text of a value. -/
def Value.render : Value → Text
  | text t => Json.quote lineStyle t
  | int n => decimal n
  | real negative x => Decimal.text negative x
  | bool true => utf8 "true"
  | bool false => utf8 "false"
  | null => utf8 "null"
  | data value => Json.render Json.plainStyle value.sorted

/-- The fields in the order of their names; of several with one name the last counts. -/
def sortFields (fields : Fields) : Fields :=
  Json.sortByName fields

/-- What all lines of one logger have in common. -/
structure Logger where
  service : Text
  level : Level
  /-- The fields of the logger, in the order in which they are written. -/
  context : Fields := []
  deriving Repr

namespace Logger

/-- A logger with further fields. -/
def withFields (l : Logger) (fields : Fields) : Logger :=
  { l with context := l.context ++ sortFields fields }

/-- Entries of this level are written. -/
def writes (l : Logger) (level : Level) : Bool :=
  decide (l.level.number ≤ level.number)

/-- A member of an object. -/
def member (name : Text) (value : Value) : Text :=
  Json.quote lineStyle name ++ utf8 ":" ++ value.render

/-- The line of an entry, whatever its level. -/
def format (l : Logger) (time : Instant) (e : Entry) : Text :=
  let members := [(utf8 "level", Value.text e.level.name), (utf8 "service", .text l.service)] ++
    l.context ++ sortFields e.fields ++ [(utf8 "time", .text time.text)] ++
    (if e.message.isEmpty then [] else [(utf8 "message", .text e.message)])
  [123] ++ joinWith (utf8 ",") (members.map fun (name, value) => member name value) ++ [125, 10]

/-- The line of an entry, or nothing. -/
def line (l : Logger) (time : Instant) (e : Entry) : Text :=
  if l.writes e.level then l.format time e else []

end Logger

end Log

end Teleop
