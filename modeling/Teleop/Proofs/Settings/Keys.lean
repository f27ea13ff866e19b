import Teleop.Settings.Document

/-!
# Keys of settings

Each recognised key has a field of its own in the settings. What a file gives for a key decides that
field and no other, unless the file is refused as a whole.

* `Key`: the recognised keys, with their places in a document, their kinds and their fields;
* `Key.value`: what a key that is given like this sets its field to;
* `resolve_eq`: a file is resolved by checking its durations in a fixed order, and then the settings
  that are made up of the values of all keys;
* `settings_of_error`: nothing of a file that is refused is left in the settings;
* `given_of_document`: what a document gives for a key stands at the place of the key.
-/

namespace Teleop

namespace SettingsFile

/-! ## Keys and fields -/

/-- What a key sets. -/
inductive Kind where
  | text
  | integer
  | flag
  | duration
  deriving DecidableEq, Repr

namespace Kind

/-- The values of a field. -/
abbrev Value : Kind → Type
  | text => Text
  | integer => Int
  | flag => Bool
  | duration => Duration

/-- The values that a file gives. -/
abbrev Raw : Kind → Type
  | text | duration => Text
  | integer => Int
  | flag => Bool

/-- The value that a file gives, as a field holds it. -/
def read : (κ : Kind) → κ.Raw → Except Duration.ParseError κ.Value
  | text, t => .ok (trim t)
  | integer, n => .ok n
  | flag, b => .ok b
  | duration, t => Duration.parse (trim t)

/-- What a field is set to if a file gives this for its key. -/
def value (κ : Kind) (g : Given κ.Raw) (default : κ.Value) : Except Duration.ParseError κ.Value :=
  if g.defined then κ.read g.value else .ok default

/-- What a field is set to, or its default if the text is refused. -/
def valueD (κ : Kind) (g : Given κ.Raw) (default : κ.Value) : κ.Value :=
  match κ.value g default with
  | .ok v => v
  | .error _ => default

/-- Tells whether there is a value, in the name of a key. -/
def check (κ : Kind) (name : String) (g : Given κ.Raw) (default : κ.Value) :
    Except Settings.Error Unit :=
  match κ.value g default with
  | .ok _ => .ok ()
  | .error e => .error (.duration name e)

/-- Only the text of a duration can be refused. -/
theorem value_eq_ok {κ : Kind} (other : κ ≠ duration) (g : Given κ.Raw) (default : κ.Value) :
    ∃ v, κ.value g default = .ok v := by
  unfold value
  split
  · cases κ with
    | duration => exact absurd rfl other
    | text | integer | flag => exact ⟨_, rfl⟩
  · exact ⟨_, rfl⟩

theorem textD_eq (g : Given Text) (default : Text) : g.textD default = text.valueD g default := by
  unfold Given.textD valueD value
  split <;> rfl

theorem getD_eq_integer (g : Given Int) (default : Int) :
    g.getD default = integer.valueD g default := by
  unfold Given.getD valueD value
  split <;> rfl

theorem getD_eq_flag (g : Given Bool) (default : Bool) :
    g.getD default = flag.valueD g default := by
  unfold Given.getD valueD value
  split <;> rfl

/-- A duration that is read is checked first, and counts with its value from then on. -/
theorem durationD_bind {α : Type} (g : Given Text) (key : String) (default : Duration)
    (next : Duration → Except Settings.Error α) :
    (g.durationD key default >>= next) =
      (duration.check key g default >>= fun _ => next (duration.valueD g default)) := by
  simp only [Given.durationD, check, valueD, value, read]
  cases g.defined
  · rfl
  · cases Duration.parse (trim g.value) <;> rfl

end Kind

/-- The recognised keys. -/
inductive Key where
  | deviceId | remoteHost | remotePort | engineHost | agentId | agentIp | agentSimulated
  | tickInterval | livenessTimeout | retryLimit | shutdownDrainTimeout | maxPendingMessages
  | portMin | portMax | registryTtl | logLevel | logDir | connectTimeout | helloInterval
  | writeTimeout | readBufferSize | maxOutbound
  deriving DecidableEq, Repr

namespace Key

def kind : Key → Kind
  | deviceId | remoteHost | engineHost | agentIp | logLevel | logDir => .text
  | remotePort | agentId | retryLimit | maxPendingMessages | portMin | portMax | readBufferSize
  | maxOutbound => .integer
  | agentSimulated => .flag
  | tickInterval | livenessTimeout | shutdownDrainTimeout | registryTtl | connectTimeout
  | helloInterval | writeTimeout => .duration

/-- The section of a document in which a key stands, and its name. -/
def place : Key → Option String × String
  | deviceId => (none, "device_id")
  | remoteHost => (none, "remote_host")
  | remotePort => (none, "remote_port")
  | engineHost => (none, "engine_host")
  | agentId => (none, "agent_id")
  | agentIp => (none, "agent_ip")
  | agentSimulated => (none, "agent_simulated")
  | tickInterval => (none, "tick_interval")
  | livenessTimeout => (none, "liveness_timeout")
  | retryLimit => (none, "retry_limit")
  | shutdownDrainTimeout => (none, "shutdown_drain_timeout")
  | maxPendingMessages => (none, "max_pending_messages")
  | portMin => (none, "port_min")
  | portMax => (none, "port_max")
  | registryTtl => (none, "registry_ttl")
  | logLevel => (some "log", "level")
  | logDir => (some "log", "dir")
  | connectTimeout => (some "channel", "connect_timeout")
  | helloInterval => (some "channel", "hello_interval")
  | writeTimeout => (some "channel", "write_timeout")
  | readBufferSize => (some "channel", "read_buffer_size")
  | maxOutbound => (some "channel", "max_outbound")

/-- The name of a key with its section. -/
def name (k : Key) : String :=
  match k.place with
  | (none, name) => name
  | (some table, name) => table ++ "." ++ name

/-- The durations, in the order in which they are read. -/
def durations : List Key :=
  [tickInterval, livenessTimeout, shutdownDrainTimeout, registryTtl, connectTimeout, helloInterval,
    writeTimeout]

theorem kind_eq_duration_iff (k : Key) : k.kind = .duration ↔ k ∈ durations := by
  cases k <;> decide

end Key

/-- What a file gives for a key. -/
def get (f : SettingsFile) : (k : Key) → Given k.kind.Raw
  | .deviceId => f.deviceId
  | .remoteHost => f.remoteHost
  | .remotePort => f.remotePort
  | .engineHost => f.engineHost
  | .agentId => f.agentId
  | .agentIp => f.agentIp
  | .agentSimulated => f.agentSimulated
  | .tickInterval => f.tickInterval
  | .livenessTimeout => f.livenessTimeout
  | .retryLimit => f.retryLimit
  | .shutdownDrainTimeout => f.shutdownDrainTimeout
  | .maxPendingMessages => f.maxPendingMessages
  | .portMin => f.portMin
  | .portMax => f.portMax
  | .registryTtl => f.registryTtl
  | .logLevel => f.logLevel
  | .logDir => f.logDir
  | .connectTimeout => f.connectTimeout
  | .helloInterval => f.helloInterval
  | .writeTimeout => f.writeTimeout
  | .readBufferSize => f.readBufferSize
  | .maxOutbound => f.maxOutbound

end SettingsFile

namespace Settings

open SettingsFile (Key)

/-- The field of a key. -/
def field (s : Settings) : (k : Key) → k.kind.Value
  | .deviceId => s.session.deviceId
  | .remoteHost => s.session.remoteHost
  | .remotePort => s.session.remotePort
  | .engineHost => s.session.engineHost
  | .agentId => s.session.agentId
  | .agentIp => s.session.agentIp
  | .agentSimulated => s.session.agentSimulated
  | .tickInterval => s.session.tickInterval
  | .livenessTimeout => s.session.livenessTimeout
  | .retryLimit => s.session.retryLimit
  | .shutdownDrainTimeout => s.session.drainTimeout
  | .maxPendingMessages => s.session.maxPending
  | .portMin => s.portMin
  | .portMax => s.portMax
  | .registryTtl => s.registryTtl
  | .logLevel => s.logLevel
  | .logDir => s.logFolder
  | .connectTimeout => s.channel.connectTimeout
  | .helloInterval => s.channel.helloInterval
  | .writeTimeout => s.channel.writeTimeout
  | .readBufferSize => s.channel.readBufferSize
  | .maxOutbound => s.channel.maxOutbound

/-- Settings made up of the fields of all keys. The size of an inbox has no key. -/
def ofFields (v : (k : Key) → k.kind.Value) : Settings where
  session := {
    deviceId := v .deviceId
    remoteHost := v .remoteHost
    remotePort := v .remotePort
    engineHost := v .engineHost
    agentId := v .agentId
    agentIp := v .agentIp
    agentSimulated := v .agentSimulated
    tickInterval := v .tickInterval
    livenessTimeout := v .livenessTimeout
    retryLimit := v .retryLimit
    drainTimeout := v .shutdownDrainTimeout
    maxPending := v .maxPendingMessages }
  channel := {
    connectTimeout := v .connectTimeout
    helloInterval := v .helloInterval
    writeTimeout := v .writeTimeout
    readBufferSize := v .readBufferSize
    maxOutbound := v .maxOutbound }
  portMin := v .portMin
  portMax := v .portMax
  registryTtl := v .registryTtl
  logLevel := v .logLevel
  logFolder := v .logDir

@[simp] theorem field_ofFields (v : (k : Key) → k.kind.Value) (k : Key) :
    (ofFields v).field k = v k := by
  cases k <;> rfl

@[simp] theorem inboxSize_ofFields (v : (k : Key) → k.kind.Value) :
    (ofFields v).channel.inboxSize = ({} : Settings).channel.inboxSize := rfl

/-- Settings are told apart by the fields of the keys and the size of the inbox. -/
theorem eq_of_field_eq {s t : Settings} (fields : ∀ k, s.field k = t.field k)
    (inbox : s.channel.inboxSize = t.channel.inboxSize) : s = t := by
  have rebuilt (s : Settings) : s = { ofFields s.field with
      channel := { (ofFields s.field).channel with inboxSize := s.channel.inboxSize } } := rfl
  rw [rebuilt s, rebuilt t, funext fields, inbox]

namespace Outcome

variable {ε : Type} {x : Except ε Settings} {s : Settings}

theorem of_eq_iff : of x = ⟨s, none⟩ ↔ x = .ok s := by
  cases x with
  | ok t => simp [of]
  | error e => exact iff_of_false (by simp [of, refused]) nofun

theorem settings_of_error (h : (of x).error ≠ none) : (of x).settings = blank := by
  cases x with
  | ok t => exact absurd rfl h
  | error e => rfl

end Outcome

end Settings

namespace SettingsFile

/-! ## Resolution -/

variable (f : SettingsFile)

/-- What a file sets the field of a key to. -/
def value (k : Key) : Except Duration.ParseError k.kind.Value :=
  k.kind.value (f.get k) (({} : Settings).field k)

/-- The settings that are made up of the values of all keys. A key whose text is refused has its
default here. -/
def overlaid : Settings :=
  .ofFields fun k => k.kind.valueD (f.get k) (({} : Settings).field k)

/-- Tells whether a key has a value. -/
def check (k : Key) : Except Settings.Error Unit :=
  k.kind.check k.name (f.get k) (({} : Settings).field k)

theorem overlay_eq : f.overlay = do
    Key.durations.forM f.check
    return f.overlaid := by
  simp only [overlay, Kind.durationD_bind, Key.durations, List.forM_eq_forM, List.forM_cons,
    List.forM_nil, bind_assoc, pure_bind]
  -- Both sides begin with the checks of the seven durations; what is left are the settings.
  iterate 7
    refine bind_congr fun _ => ?_
  refine congrArg pure (Settings.eq_of_field_eq (fun k => ?_) rfl)
  rw [overlaid, Settings.field_ofFields]
  cases k
  case deviceId | remoteHost | engineHost | agentIp | logLevel | logDir => exact Kind.textD_eq _ _
  case agentSimulated => exact Kind.getD_eq_flag _ _
  case remotePort | agentId | retryLimit | maxPendingMessages | portMin | portMax | readBufferSize
      | maxOutbound => exact Kind.getD_eq_integer _ _
  all_goals rfl

variable {f}

theorem resolve_eq : f.resolve = .of do
    Key.durations.forM f.check
    f.overlaid.validate
    return f.overlaid := by
  rw [resolve, overlay_eq, bind_assoc]
  rfl

/-- Nothing of a file that is refused is left in the settings. -/
theorem settings_of_error (h : f.resolve.error ≠ none) : f.resolve.settings = .blank :=
  Settings.Outcome.settings_of_error h

theorem check_of_ok {k : Key} {v : k.kind.Value} (h : f.value k = .ok v) : f.check k = .ok () := by
  unfold check Kind.check
  rw [← value, h]

theorem check_of_error {k : Key} {e : Duration.ParseError} (h : f.value k = .error e) :
    f.check k = .error (.duration k.name e) := by
  unfold check Kind.check
  rw [← value, h]

theorem forM_check_of_ok {keys : List Key} (readable : ∀ k ∈ keys, ∃ v, f.value k = .ok v) :
    keys.forM f.check = .ok () := by
  induction keys with
  | nil => rfl
  | cons k keys ih =>
    obtain ⟨⟨v, h⟩, readable⟩ := List.forall_mem_cons.1 readable
    rw [List.forM_eq_forM, List.forM_cons, check_of_ok h]
    exact ih readable

/-- The first duration that cannot be read is reported. -/
theorem forM_check_of_error {before after : List Key} {k : Key} {e : Duration.ParseError}
    (readable : ∀ k ∈ before, ∃ v, f.value k = .ok v) (h : f.value k = .error e) :
    (before ++ k :: after).forM f.check = .error (.duration k.name e) := by
  have first := forM_check_of_ok readable
  rw [List.forM_eq_forM] at first ⊢
  rw [List.forM_append, first, List.forM_cons, check_of_error h]
  rfl

variable (f) in
theorem readable_or_first (keys : List Key) :
    (∀ k ∈ keys, ∃ v, f.value k = .ok v) ∨
      ∃ before k after e, keys = before ++ k :: after ∧
        (∀ k' ∈ before, ∃ v, f.value k' = .ok v) ∧ f.value k = .error e := by
  induction keys with
  | nil => exact .inl fun _ mem => absurd mem List.not_mem_nil
  | cons k keys ih =>
    cases h : f.value k with
    | error e =>
      exact .inr ⟨[], k, keys, e, rfl, fun _ mem => absurd mem List.not_mem_nil, h⟩
    | ok v =>
      rcases ih with readable | ⟨before, k', after, e, rfl, readable, h'⟩
      · exact .inl (List.forall_mem_cons.2 ⟨⟨v, h⟩, readable⟩)
      · exact .inr ⟨k :: before, k', after, e, rfl, List.forall_mem_cons.2 ⟨⟨v, h⟩, readable⟩, h'⟩

theorem resolve_of_readable (readable : ∀ k ∈ Key.durations, ∃ v, f.value k = .ok v) :
    f.resolve = .of do
      f.overlaid.validate
      return f.overlaid := by
  rw [resolve_eq, forM_check_of_ok readable]
  rfl

theorem resolve_of_unreadable {before after : List Key} {k : Key} {e : Duration.ParseError}
    (order : Key.durations = before ++ k :: after)
    (readable : ∀ k ∈ before, ∃ v, f.value k = .ok v) (h : f.value k = .error e) :
    f.resolve = .refused (.duration k.name e) := by
  rw [resolve_eq, order, forM_check_of_error readable h]
  rfl

theorem resolve_eq_iff {s : Settings} :
    f.resolve = ⟨s, none⟩ ↔
      (∀ k ∈ Key.durations, ∃ v, f.value k = .ok v) ∧ s = f.overlaid ∧
        f.overlaid.validate = .ok () := by
  rcases f.readable_or_first Key.durations with
    readable | ⟨before, k, after, e, order, readable, unreadable⟩
  · rw [resolve_of_readable readable, Settings.Outcome.of_eq_iff]
    cases f.overlaid.validate with
    | error e => exact iff_of_false nofun fun h => nomatch h.2.2
    | ok _ =>
      refine ⟨fun h => ⟨readable, (Except.ok.inj h).symm, rfl⟩, fun h => ?_⟩
      rw [h.2.1]
      rfl
  · rw [resolve_of_unreadable order readable unreadable]
    refine iff_of_false (by simp [Settings.Outcome.refused]) fun h => ?_
    obtain ⟨v, found⟩ := h.1 k (by simp [order])
    rw [unreadable] at found
    cases found

theorem error_resolve_ne_none_iff :
    f.resolve.error ≠ none ↔
      (∃ k ∈ Key.durations, ∃ e, f.value k = .error e) ∨ ∃ e, f.overlaid.validate = .error e := by
  rcases f.readable_or_first Key.durations with
    readable | ⟨before, k, after, e, order, readable, unreadable⟩
  · rw [resolve_of_readable readable]
    have noError : ¬∃ k ∈ Key.durations, ∃ e, f.value k = .error e := by
      rintro ⟨k, mem, e, unreadable⟩
      obtain ⟨v, found⟩ := readable k mem
      rw [unreadable] at found
      cases found
    rw [or_iff_right noError]
    cases f.overlaid.validate with
    | error e => exact iff_of_true (Option.some_ne_none e) ⟨e, rfl⟩
    | ok _ => exact iff_of_false (not_not_intro rfl) (by simp)
  · rw [resolve_of_unreadable order readable unreadable]
    exact iff_of_true (Option.some_ne_none _) (.inl ⟨k, by simp [order], e, unreadable⟩)

/-- Settings that come out of a file have the value of every key in its field. -/
theorem value_of_resolve {s : Settings} (h : f.resolve = ⟨s, none⟩) (k : Key) :
    f.value k = .ok (s.field k) := by
  obtain ⟨readable, rfl, -⟩ := resolve_eq_iff.1 h
  have found : ∃ v, f.value k = .ok v := by
    by_cases mem : k ∈ Key.durations
    · exact readable k mem
    · exact Kind.value_eq_ok (mt (Key.kind_eq_duration_iff k).1 mem) _ _
  obtain ⟨v, h⟩ := found
  rw [overlaid, Settings.field_ofFields, Kind.valueD, ← value, h]

theorem inboxSize_of_resolve {s : Settings} (h : f.resolve = ⟨s, none⟩) :
    s.channel.inboxSize = ({} : Settings).channel.inboxSize := by
  obtain ⟨-, rfl, -⟩ := resolve_eq_iff.1 h
  exact Settings.inboxSize_ofFields _

theorem field_of_undefined {s : Settings} (h : f.resolve = ⟨s, none⟩) {k : Key}
    (undefined : (f.get k).defined = false) : s.field k = ({} : Settings).field k := by
  have found := value_of_resolve h k
  rw [value, Kind.value, undefined] at found
  exact (Except.ok.inj found).symm

/-- What a file gives for a key decides its field. -/
theorem field_eq_of_get_eq {g : SettingsFile} {s t : Settings} {k : Key}
    (same : f.get k = g.get k) (h : f.resolve = ⟨s, none⟩) (h' : g.resolve = ⟨t, none⟩) :
    s.field k = t.field k := by
  have found := value_of_resolve h k
  rw [value, same, ← value, value_of_resolve h' k] at found
  exact (Except.ok.inj found).symm

/-! ## Documents -/

open Toml (Entries Node)

namespace Kind

/-- The value of a node, if it is of the right kind. -/
def ofNode? : (κ : Kind) → Node → Option κ.Raw
  | text | duration => text?
  | integer => integer?
  | flag => bool?

/-- The value of a key that does not occur. -/
def blank : (κ : Kind) → κ.Raw
  | text | duration => []
  | integer => 0
  | flag => false

end Kind

namespace Key

/-- What a document gives for a key. -/
def given? (k : Key) (e : Entries) : Option (Given k.kind.Raw) :=
  match k.place with
  | (none, name) => given e name k.kind.ofNode? k.kind.blank
  | (some table, name) => do
    let inner ← given e table table? []
    givenIn inner (tablesNamed e table) name k.kind.ofNode? k.kind.blank

/-- What stands in a document at the place of a key. -/
def node? (k : Key) (e : Entries) : Option Node :=
  match k.place with
  | (none, name) => e.lookup (utf8 name)
  | (some table, name) => ((e.lookup (utf8 table)).bind table?).bind (·.lookup (utf8 name))

end Key

theorem given?_eq {e : Entries} {f : SettingsFile} (h : ofEntries? e = some f) (k : Key) :
    k.given? e = some (f.get k) := by
  unfold ofEntries? at h
  obtain ⟨log, isLog, h⟩ := Option.bind_eq_some_iff.1 h
  obtain ⟨channel, isChannel, h⟩ := Option.bind_eq_some_iff.1 h
  iterate 22
    obtain ⟨_, _, h⟩ := Option.bind_eq_some_iff.1 h
  cases h
  -- A key of a section is read in the section, the others are among the steps themselves.
  cases k
  case logLevel | logDir => exact Option.bind_eq_some_iff.2 ⟨log, isLog, by assumption⟩
  case connectTimeout | helloInterval | writeTimeout | readBufferSize | maxOutbound =>
    exact Option.bind_eq_some_iff.2 ⟨channel, isChannel, by assumption⟩
  all_goals assumption

theorem lookup_mapM {α : Type} {kind? : Node → Option α} {entries : Entries}
    {values : List (Text × α)}
    (h : (entries.mapM fun (key, node) => return (key, ← kind? node)) = some values) (name : Text) :
    (values.lookup name).map some = (entries.lookup name).map kind? := by
  induction entries generalizing values with
  | nil =>
    cases h
    rfl
  | cons entry entries ih =>
    obtain ⟨key, node⟩ := entry
    simp only [List.mapM_cons, Option.bind_eq_bind, Option.bind_eq_some_iff] at h
    obtain ⟨_, ⟨value, isValue, same⟩, rest, isRest, made⟩ := h
    cases same
    cases made
    rw [List.lookup_cons, List.lookup_cons]
    cases name == key
    · exact ih isRest
    · simp [isValue]

theorem lookup_filter {p : Text × Node → Bool} {name : Text} (keeps : ∀ node, p (name, node) = true)
    (entries : Entries) : (entries.filter p).lookup name = entries.lookup name := by
  induction entries with
  | nil => rfl
  | cons entry entries ih =>
    obtain ⟨key, node⟩ := entry
    by_cases same : name = key
    · subst same
      rw [List.filter_cons_of_pos (keeps node), List.lookup_cons_self, List.lookup_cons_self]
    · have differ : (name == key) = false := by simpa using same
      rw [List.lookup_cons, differ, List.filter_cons]
      split
      · rw [List.lookup_cons, differ, ih]
      · rw [ih]

/-- What a table gives for a name: it is defined if the name stands in the table as it is. -/
theorem given_spec {α : Type} {kind? : Node → Option α} {entries : Entries} {name : String}
    {blank : α} {g : Given α} (small : foldCase (utf8 name) = utf8 name)
    (h : given entries name kind? blank = some g) :
    (entries.lookup (utf8 name)).map kind? = if g.defined then some (some g.value) else none := by
  simp only [given, Option.bind_eq_bind, Option.bind_eq_some_iff] at h
  obtain ⟨values, isValues, h⟩ := h
  have found := lookup_mapM isValues (utf8 name)
  rw [lookup_filter (by simp [small])] at found
  rw [← found]
  split at h
  · next isValue =>
    cases h
    rw [isValue]
    rfl
  · next notFound =>
    cases h
    rw [notFound]
    rfl
  · next notFound =>
    cases h
    rw [notFound]
    rfl

/-- What a table under a name gives for a name. -/
theorem givenIn_spec {α : Type} {kind? : Node → Option α} {table : Given Entries}
    {others : List Entries} {name : String} {blank : α} {g : Given α}
    (small : foldCase (utf8 name) = utf8 name)
    (h : givenIn table others name kind? blank = some g) :
    (if table.defined then table.value.lookup (utf8 name) else none).map kind? =
      if g.defined then some (some g.value) else none := by
  simp only [givenIn, Option.bind_eq_bind, Option.bind_eq_some_iff] at h
  obtain ⟨_, -, inner, isInner, made⟩ := h
  cases made
  cases table.defined
  · rfl
  · exact given_spec small isInner

/-- The names that a key is found under are written in small letters. -/
theorem Key.foldCase_place (k : Key) :
    ∀ name ∈ k.place.2 :: k.place.1.toList, foldCase (utf8 name) = utf8 name := by
  cases k <;> decide

/-- What a document gives for a key stands at the place of the key. -/
theorem given_of_document {e : Entries} (h : ofEntries? e = some f) (k : Key) :
    (k.node? e).map k.kind.ofNode? =
      if (f.get k).defined then some (some (f.get k).value) else none := by
  have isGiven := given?_eq h k
  have small := k.foldCase_place
  rcases place : k.place with ⟨_ | table, name⟩
  · rw [place] at small
    simp only [Key.given?, place] at isGiven
    simp only [Key.node?, place]
    exact given_spec (small name (by simp)) isGiven
  · rw [place] at small
    simp only [Key.given?, place, Option.bind_eq_bind, Option.bind_eq_some_iff] at isGiven
    obtain ⟨inner, isInner, isGiven⟩ := isGiven
    have found := given_spec (small table (by simp)) isInner
    rw [← givenIn_spec (small name (by simp)) isGiven]
    simp only [Key.node?, place]
    congr 1
    cases defined : inner.defined with
    | false =>
      have missing : e.lookup (utf8 table) = none := by simpa [defined] using found
      simp [missing]
    | true =>
      obtain ⟨node, isNode, isTable⟩ : ∃ node, e.lookup (utf8 table) = some node ∧
          table? node = some inner.value := by simpa [defined] using found
      simp [isNode, isTable]

/-! ## Independence -/

/-- A file is resolved if each of its durations can be read and the settings that are made up of the
values of all keys pass the checks. Of the durations that cannot be read the first one is reported,
and it is reported before anything that is wrong with the settings; in both cases the settings that
come out are blank. If a file is resolved, each field holds the value of its own key, which is the
default if the key is not defined; so settings of files that differ in one key differ in no other
field. What a document gives for a key stands at the place of the key. -/
theorem keys_independent (f : SettingsFile) :
    Key.durations.map Key.name =
      ["tick_interval", "liveness_timeout", "shutdown_drain_timeout", "registry_ttl",
        "channel.connect_timeout", "channel.hello_interval", "channel.write_timeout"] ∧
    ((∃ s, f.resolve = ⟨s, none⟩) ↔
      (∀ k ∈ Key.durations, ∃ d, f.value k = .ok d) ∧ f.overlaid.validate = .ok ()) ∧
    (∀ before k after e, Key.durations = before ++ k :: after →
      (∀ k' ∈ before, ∃ d, f.value k' = .ok d) → f.value k = .error e →
      f.resolve = ⟨.blank, some (.duration k.name e)⟩) ∧
    (∀ e, (∀ k ∈ Key.durations, ∃ d, f.value k = .ok d) → f.overlaid.validate = .error e →
      f.resolve = ⟨.blank, some e⟩) ∧
    (f.resolve.error ≠ none ↔
      (∃ k ∈ Key.durations, ∃ e, f.value k = .error e) ∨ ∃ e, f.overlaid.validate = .error e) ∧
    (f.resolve.error ≠ none → f.resolve.settings = .blank) ∧
    (∀ s, f.resolve = ⟨s, none⟩ → s = f.overlaid ∧ ∀ k, f.value k = .ok (s.field k) ∧
      ((f.get k).defined = false → s.field k = ({} : Settings).field k)) ∧
    (∀ (g : SettingsFile) k s t, (∀ k', k' ≠ k → f.get k' = g.get k') →
      f.resolve = ⟨s, none⟩ → g.resolve = ⟨t, none⟩ →
      (∀ k', k' ≠ k → s.field k' = t.field k') ∧ (s.field k = t.field k → s = t)) ∧
    ∀ e, ofEntries? e = some f → ∀ k, (k.node? e).map k.kind.ofNode? =
      if (f.get k).defined then some (some (f.get k).value) else none := by
  refine ⟨rfl, ?_, fun before k after e => resolve_of_unreadable, ?_,
    error_resolve_ne_none_iff, settings_of_error, ?_, ?_, fun e => given_of_document⟩
  · simp only [resolve_eq_iff]
    exact ⟨fun ⟨_, readable, _, valid⟩ => ⟨readable, valid⟩,
      fun ⟨readable, valid⟩ => ⟨_, readable, rfl, valid⟩⟩
  · intro e readable invalid
    rw [resolve_of_readable readable, invalid]
    rfl
  · intro s resolved
    exact ⟨(resolve_eq_iff.1 resolved).2.1,
      fun k => ⟨value_of_resolve resolved k, field_of_undefined resolved⟩⟩
  · intro g k s t same resolved resolved'
    have others (k' : Key) (other : k' ≠ k) : s.field k' = t.field k' :=
      field_eq_of_get_eq (same k' other) resolved resolved'
    refine ⟨others, fun own => Settings.eq_of_field_eq (fun k' => ?_) ?_⟩
    · by_cases other : k' = k
      · rw [other, own]
      · exact others k' other
    · rw [inboxSize_of_resolve resolved, inboxSize_of_resolve resolved']

/-- A file with a few keys, one of which has a value that does not count. -/
def sample : SettingsFile where
  remoteHost := ⟨utf8 " engine", true⟩
  remotePort := ⟨7400, true⟩
  tickInterval := ⟨utf8 "20ms ", true⟩
  logLevel := ⟨utf8 "debug", false⟩

/-- The file with and without one of its keys, and with two durations and a port that are wrong. -/
theorem keys_independent_sample :
    let plain : SettingsFile := { sample with tickInterval := ⟨utf8 "x", false⟩ }
    let wrong : SettingsFile := { sample with
      remotePort := ⟨0, true⟩
      livenessTimeout := ⟨utf8 "soon", true⟩
      helloInterval := ⟨utf8 "1", true⟩ }
    (∃ s t, sample.resolve = ⟨s, none⟩ ∧ plain.resolve = ⟨t, none⟩ ∧
      (∀ k', k' ≠ .tickInterval → s.field k' = t.field k') ∧ s.field .logLevel = utf8 "info") ∧
    wrong.resolve = ⟨.blank, some (.duration "liveness_timeout" (.invalid (utf8 "soon")))⟩ := by
  intro plain wrong
  have resolved : sample.resolve = ⟨sample.overlaid, none⟩ := rfl
  have resolved' : plain.resolve = ⟨plain.overlaid, none⟩ := rfl
  obtain ⟨-, -, -, -, -, -, values, independent, -⟩ := keys_independent sample
  obtain ⟨-, -, first, -⟩ := keys_independent wrong
  refine ⟨⟨_, _, resolved, resolved', ?_, ?_⟩, ?_⟩
  · refine (independent plain .tickInterval _ _ ?_ resolved resolved').1
    intro k other
    cases k
    case tickInterval => exact absurd rfl other
    all_goals rfl
  · exact ((values _ resolved).2 .logLevel).2 rfl
  · have readable := value_of_resolve resolved .tickInterval
    exact first [.tickInterval] .livenessTimeout _ _ rfl
      (List.forall_mem_singleton.2 ⟨_, readable⟩) rfl

end SettingsFile

end Teleop
