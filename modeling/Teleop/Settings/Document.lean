import Teleop.Disk
import Teleop.Settings.Basic
import Teleop.Text.Fold
import Teleop.Toml.Table

/-!
# Settings in documents

Reads settings from a document, whatever decodes it, and from a document on a disk.

* `Decoder`: what a document gives for the recognised keys;
* `SettingsFile.decode`: a decoder of TOML. A key is recognised whatever its case, and its value has
  to be of the right kind; but only a key spelled exactly counts as defined;
* `Settings.parse` and `Settings.load`: the settings of a document.
-/

namespace Teleop

/-- What a document gives for the recognised keys, or why it cannot be read. -/
abbrev Decoder := Bytes → Except Text SettingsFile

namespace SettingsFile

open Toml (Entries Node)

def text? : Node → Option Text
  | .string t => some t
  | _ => none

def integer? : Node → Option Int
  | .integer n => some n
  | _ => none

def bool? : Node → Option Bool
  | .bool b => some b
  | _ => none

def table? : Node → Option Entries
  | .table entries => some entries
  | _ => none

/-- What a table gives for a name. All entries whose key is the name but for case have to be of the
right kind; the one with the exact key goes before the others. -/
def given {α : Type} (entries : Entries) (name : String) (kind? : Node → Option α)
    (fallback : α) : Option (Given α) := do
  let named := entries.filter fun (key, _) => foldCase key == utf8 name
  let values ← named.mapM fun (key, node) => return (key, ← kind? node)
  match values.lookup (utf8 name), values with
  | some value, _ => return ⟨value, true⟩
  | none, (_, value) :: _ => return ⟨value, false⟩
  | none, [] => return ⟨fallback, false⟩

/-- What the table under a name gives for a name; all tables under the name but for case have to be
right. -/
def givenIn {α : Type} (table : Given Entries) (others : List Entries) (name : String)
    (kind? : Node → Option α) (fallback : α) : Option (Given α) := do
  let _ ← others.mapM fun entries => given entries name kind? fallback
  let g ← given table.value name kind? fallback
  return { g with defined := table.defined && g.defined }

/-- The tables under a name but for case. -/
def tablesNamed (entries : Entries) (name : String) : List Entries :=
  (entries.filter fun (key, _) => foldCase key == utf8 name).filterMap fun (_, node) => table? node

/-- What a table gives for all recognised keys. -/
def ofEntries? (e : Entries) : Option SettingsFile := do
  let text (name : String) := given e name text? []
  let int (name : String) := given e name integer? 0
  let log ← given e "log" table? []
  let logText (name : String) := givenIn log (tablesNamed e "log") name text? []
  let channel ← given e "channel" table? []
  let channels := tablesNamed e "channel"
  let channelText (name : String) := givenIn channel channels name text? []
  let channelInt (name : String) := givenIn channel channels name integer? 0
  return {
    deviceId := ← text "device_id"
    remoteHost := ← text "remote_host"
    remotePort := ← int "remote_port"
    engineHost := ← text "engine_host"
    agentId := ← int "agent_id"
    agentIp := ← text "agent_ip"
    agentSimulated := ← given e "agent_simulated" bool? false
    tickInterval := ← text "tick_interval"
    livenessTimeout := ← text "liveness_timeout"
    retryLimit := ← int "retry_limit"
    shutdownDrainTimeout := ← text "shutdown_drain_timeout"
    maxPendingMessages := ← int "max_pending_messages"
    portMin := ← int "port_min"
    portMax := ← int "port_max"
    registryTtl := ← text "registry_ttl"
    logLevel := ← logText "level"
    logDir := ← logText "dir"
    connectTimeout := ← channelText "connect_timeout"
    helloInterval := ← channelText "hello_interval"
    writeTimeout := ← channelText "write_timeout"
    readBufferSize := ← channelInt "read_buffer_size"
    maxOutbound := ← channelInt "max_outbound" }

/-- What a TOML document gives. -/
def decode : Decoder := fun document =>
  match (Toml.parse document).bind ofEntries? with
  | none => .error (utf8 "malformed document")
  | some file => .ok file

end SettingsFile

namespace Settings

/-- Why a document gives no settings. -/
inductive LoadError where
  /-- A document could not be decoded. -/
  | unparsed (reason : Text)
  /-- A document on a disk could not be decoded. -/
  | unloaded (path reason : Text)
  /-- A document could not be read from the disk. -/
  | unreadable (path : Text) (operation : String) (reason : PathError)
  | rejected (e : Error)
  deriving DecidableEq, Repr

def LoadError.message : LoadError → Text
  | unparsed reason => utf8 "parse config: " ++ reason
  | unloaded path reason => utf8 "load config " ++ path ++ utf8 ": " ++ reason
  | unreadable path operation reason =>
    utf8 "load config " ++ path ++ utf8 ": " ++ reason.describe operation path
  | rejected e => e.message

/-- The settings that a document describes. -/
def parse (decode : Decoder) (document : Bytes) : Outcome LoadError :=
  match decode document with
  | .error reason => .refused (.unparsed reason)
  | .ok file => file.resolve.mapError .rejected

/-- The settings that the document at a path describes. -/
def load (decode : Decoder) (disk : Disk) (path : Text) : Outcome LoadError :=
  match disk.readFile path with
  | .error (operation, reason) => .refused (.unreadable path operation reason)
  | .ok document =>
    match decode document with
    | .error reason => .refused (.unloaded path reason)
    | .ok file => file.resolve.mapError .rejected

end Settings

end Teleop
