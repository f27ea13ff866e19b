import Teleop.Decimal.Single
import Teleop.Sorting
import Teleop.Text.Blank

/-!
# What a client accepts

A client lists the kinds of documents that it can read, each with parameters and with a quality that
says how much it likes it. Metrics are written in the first kind on that list that is known here,
and as plain text if there is none. Names are escaped as the client last asked for before that.

* `clauses` reads such a list, the best kinds first;
* `negotiate` is the kind of document that is written;
* `acceptsGzip` tells whether it may be compressed.
-/

namespace Teleop

namespace Service

/-- A kind of document that a client accepts. -/
structure Clause where
  type : Text
  subtype : Text
  quality : Single := Single.one
  /-- The parameters, the latest first. -/
  parameters : List (Text × Text) := []
  deriving DecidableEq, Repr

/-- The value of a parameter; one that is not there is empty. -/
def Clause.parameter (c : Clause) (name : String) : Text :=
  (c.parameters.lookup (utf8 name)).getD []

def trimSpaces (t : Text) : Text :=
  ((t.dropWhile (· = 32)).reverse.dropWhile (· = 32)).reverse

/-- Adds a parameter. What has no value is ignored, and a quality that cannot be read is zero. -/
def Clause.add (c : Clause) (parameter : Text) : Clause :=
  match parameter.dropWhile (· ≠ 61) with
  | [] => c
  | _ :: value =>
    let name := trimSpaces (parameter.takeWhile (· ≠ 61))
    if name = utf8 "q" then { c with quality := (Single.parse? value).getD (some 0) }
    else { c with parameters := (name, trimSpaces value) :: c.parameters }

/-- A kind of document with its parameters. A star alone stands for all kinds. -/
def clause? (t : Text) : Option Clause :=
  match splitAt 59 (trimSpaces t) with
  | [] => none
  | range :: parameters =>
    let start : Option Clause := match (splitAt 47 range).map trimSpaces with
      | [type] => if type = utf8 "*" then some { type, subtype := type } else none
      | [type, subtype] => some { type, subtype }
      | _ => none
    start.map (parameters.foldl Clause.add)

/-- One clause goes before another if it has the greater quality, or is definite where the other
stands for anything. These may contradict each other. -/
def Clause.before (a b : Clause) : Bool :=
  let anything := utf8 "*"
  Single.above a.quality b.quality || (a.type ≠ anything && b.type = anything) ||
    (a.subtype ≠ anything && b.subtype = anything)

/-- The kinds of documents that a client accepts. -/
def clauses (accepted : Text) : List Clause :=
  Sorting.sortWith Clause.before ((splitAt 44 accepted).filterMap clause?)

/-- The ways to escape a name. -/
def escapings : List Text :=
  ["allow-utf-8", "underscores", "dots", "values"].map utf8

def plainText : String := "text/plain; version=0.0.4; charset=utf-8"

/-- A clause names a kind of document in which metrics can be written. -/
def Clause.known? (c : Clause) : Option String :=
  let type := c.type ++ [47] ++ c.subtype
  let records := "application/vnd.google.protobuf"
  let schema := "io.prometheus.client.MetricFamily"
  let encodings := ["delimited", "text", "compact-text"]
  if type = utf8 records ∧ c.parameter "proto" = utf8 schema then
    (encodings.find? (utf8 · == c.parameter "encoding")).map fun encoding =>
      records ++ "; proto=" ++ schema ++ "; encoding=" ++ encoding
  else if type = utf8 "text/plain" ∧
      (c.parameter "version" = [] ∨ c.parameter "version" = utf8 "0.0.4") then some plainText
  else none

/-- The first known kind in a list of clauses, with the way to escape names that was asked for up to
there, or else with the given one. -/
def choose (escaping : Text) : List Clause → Text
  | [] => utf8 plainText ++ utf8 "; escaping=" ++ escaping
  | c :: rest =>
    let asked := c.parameter "escaping"
    let escaping := if escapings.contains asked then asked else escaping
    match c.known? with
    | some kind => utf8 kind ++ utf8 "; escaping=" ++ escaping
    | none => choose escaping rest

/-- The kind of document in which metrics are written. -/
def negotiate (accepted : Text) : Text :=
  choose (utf8 "values") (clauses accepted)

/-- A client that lists this encoding accepts it, whatever the quality. -/
def acceptsGzip (encodings : Text) : Bool :=
  ((splitAt 44 encodings).map trim).any fun encoding =>
    encoding = utf8 "gzip" || (utf8 "gzip;").isPrefixOf encoding

end Service

end Teleop
