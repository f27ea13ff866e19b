import Teleop.Fault
import Teleop.Gzip
import Teleop.Json.Value
import Teleop.Roster
import Teleop.Service.Accept
import Teleop.Service.Request
import Teleop.Session.Metrics
import Teleop.Session.Status
import Teleop.Time.Calendar

/-!
# Pages

What the service answers over HTTP: `/status` describes the session as a JSON document, `/metrics`
gives its metrics as text, one line per value.
-/

namespace Teleop

namespace Service

/-- The answer to a request. -/
structure Page where
  status : Nat
  contentType : Text := []
  /-- The body is compressed. -/
  compressed : Bool := false
  body : Text := []
  deriving DecidableEq, Repr

/-- What the status page shows. -/
structure View where
  text : Text
  state : String
  agents : List Agent
  devices : List Device
  deriving Repr

/-! ## The status page -/

/-- A list, or nothing if it is empty. -/
def listOrNull (items : List Json) : Json :=
  if items.isEmpty then .null else .array items

def agentJson (a : Agent) : Json :=
  .object [(utf8 "id", .ofInt a.id), (utf8 "ip", .string a.ip),
    (utf8 "last_seen", .string a.lastSeen.text)]

def deviceJson (d : Device) : Json :=
  .object [(utf8 "id", .string d.id), (utf8 "last_seen", .string d.lastSeen.text)]

/-- An instant whose year has more than four digits has no text in a document. -/
def writable (t : Instant) : Bool :=
  decide (0 ≤ t.date.year ∧ t.date.year ≤ 9999)

def View.json (v : View) : Json :=
  .object [(utf8 "text", .string v.text), (utf8 "state", .string (utf8 v.state)),
    (utf8 "agents", listOrNull (v.agents.map agentJson)),
    (utf8 "ui_devices", listOrNull (v.devices.map deviceJson))]

/-- The status page; a document that cannot be written is empty. -/
def statusPage (v : View) : Page :=
  let seen := v.agents.map (·.lastSeen) ++ v.devices.map (·.lastSeen)
  { status := 200
    contentType := utf8 "application/json"
    body := if seen.all writable then Json.render Json.documentStyle v.json ++ [10] else [] }

/-! ## The metrics page -/

/-- A metric: its name, its kind, what it means, and its values with their labels. -/
structure Metric where
  name : String
  kind : String
  help : String
  values : List (Option Label × Nat)

/-- One value, from the start. -/
def single (n : Nat) : List (Option Label × Nat) :=
  [(none, n)]

/-- The labels that were used, each with its value. -/
def tallied (t : Tally) : List (Option Label × Nat) :=
  (Label.all.filter fun l => 0 < t.get l).map fun l => (some l, t.get l)

/-- The metrics in the order of their names. -/
def metricsOf (m : Metrics) : List Metric :=
  [⟨"connect_attempts_total", "counter", "Transport connect attempts",
      single m.connectAttempts⟩,
    ⟨"give_ups_total", "counter", "Times the retry limit was exhausted", single m.giveUps⟩,
    ⟨"heartbeats_total", "counter", "Heartbeat status messages received while connected",
      single m.heartbeats⟩,
    ⟨"liveness_timeouts_total", "counter", "Disconnects forced by a missing heartbeat",
      single m.livenessTimeouts⟩,
    ⟨"messages_sent_total", "counter", "Messages handed to the transport", tallied m.sent⟩,
    ⟨"ready", "gauge", "1 while the session is ready to send", single (if m.ready then 1 else 0)⟩,
    ⟨"send_errors_total", "counter", "Messages the transport refused", tallied m.refused⟩]

/-- The value of a metric without labels. -/
def reading (name : String) (m : Metrics) : Option Nat :=
  ((metricsOf m).find? (·.name = name)).bind fun metric => metric.values.head?.map (·.2)

theorem reading_ready (m : Metrics) : reading "ready" m = some (if m.ready then 1 else 0) := by
  simp [reading, metricsOf, single]

/-- The name of a metric in the text. -/
def metricName (m : Metric) : Text :=
  utf8 "agentlink_session_" ++ utf8 m.name

/-- A metric without values is left out. -/
def Metric.text (m : Metric) : Text :=
  if m.values.isEmpty then []
  else
    let name := metricName m
    let line (v : Option Label × Nat) : Text :=
      let label := match v.1 with
        | some l => [123] ++ utf8 "queue=\"" ++ utf8 l.name ++ utf8 "\"" ++ [125]
        | none => []
      name ++ label ++ utf8 " " ++ decimal v.2 ++ [10]
    utf8 "# HELP " ++ name ++ utf8 " " ++ utf8 m.help ++ [10] ++
      utf8 "# TYPE " ++ name ++ utf8 " " ++ utf8 m.kind ++ [10] ++ m.values.flatMap line

/-- The metrics page for a client that accepts some kinds of documents and some ways to encode them.
The document is empty if nobody shares any metrics. -/
def metricsPage (kinds encodings : Text) (m : Option Metrics) : Page :=
  let document := ((m.map metricsOf).getD []).flatMap Metric.text
  let compressed := acceptsGzip encodings
  { status := 200
    contentType := negotiate kinds
    compressed
    body := if compressed then Gzip.pack document else document }

/-! ## Routing -/

/-- The methods that are known at all. -/
def methods : List String :=
  ["CONNECT", "DELETE", "GET", "HEAD", "OPTIONS", "PATCH", "POST", "PUT", "TRACE"]

/-- The page for a request. Reading what the status page shows may fault, which makes the page
empty; the fault is not reported to a client that wants to go on with another protocol. -/
def respond (request : Request) (view : Except Fault View) (metrics : Option Metrics) : Page :=
  let known := request.path = utf8 "/status" ∨ request.path = utf8 "/metrics"
  if (methods.map utf8).all (· ≠ request.method) then { status := 405 }
  else if ¬ known then
    { status := 404
      contentType := utf8 "text/plain; charset=utf-8"
      body := utf8 "404 page not found\n" }
  else if request.method ≠ utf8 "GET" then { status := 405 }
  else if request.path = utf8 "/metrics" then
    metricsPage (request.header "accept") (request.header "accept-encoding") metrics
  else match view with
    | .ok v => statusPage v
    | .error _ => { status := if request.header "connection" = utf8 "Upgrade" then 200 else 500 }

end Service

end Teleop
