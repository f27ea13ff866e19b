import Teleop.Program
import Teleop.Proofs.Settings.Keys

/-!
# Settings that are accepted work

Settings are checked when they are read, and parts of them are checked again by those who use them:
the session, the allocator of ports and the channel, which replaces what it cannot use. All of them
agree, so that a program whose settings were accepted can begin.
-/

namespace Teleop

/-! ## What the users of settings accept -/

theorem Session.new_eq_ok_iff {config : SessionConfig} :
    (∃ session, Session.new config true = .ok session) ↔ config.validate = .ok () := by
  unfold Session.new
  cases config.validate <;> simp

theorem Allocator.new_eq_ok_iff {min max : Int} :
    (∃ a, Allocator.new min max = .ok a) ↔ 0 < min ∧ min ≤ max ∧ max ≤ 65535 := by
  unfold Allocator.new
  split
  · next invalid => exact iff_of_false (by simp) (by omega)
  · next valid => exact iff_of_true ⟨_, rfl⟩ (by omega)

theorem exists_eq_error_iff {ε α : Type} {x : Except ε α} :
    (∃ e, x = .error e) ↔ ¬∃ a, x = .ok a := by
  cases x <;> simp

namespace ChannelConfig

/-- Every timeout and every size is positive. -/
structure Positive (c : ChannelConfig) : Prop where
  connectTimeout : 0 < c.connectTimeout
  helloInterval : 0 < c.helloInterval
  writeTimeout : 0 < c.writeTimeout
  readBufferSize : 0 < c.readBufferSize
  maxOutbound : 0 < c.maxOutbound
  inboxSize : 0 < c.inboxSize

theorem orDefault_pos (value : Int) {fallback : Int} (h : 0 < fallback) :
    0 < orDefault value fallback := by
  unfold orDefault
  split <;> omega

theorem positive_effective (c : ChannelConfig) : c.effective.Positive := by
  constructor <;> exact orDefault_pos _ (by decide)

end ChannelConfig

namespace Settings

variable {s : Settings}

theorem usesPortRange_eq_true_iff : s.usesPortRange = true ↔ ¬(s.portMin = 0 ∧ s.portMax = 0) := by
  simp only [usesPortRange, Bool.or_eq_true, decide_eq_true_eq]
  omega

/-- The check of settings and the allocator draw the same line. -/
theorem validate_eq_ok_iff :
    s.validate = .ok () ↔ s.session.validate = .ok () ∧
      (s.usesPortRange = true → ∃ a, Allocator.new s.portMin s.portMax = .ok a) := by
  rw [Allocator.new_eq_ok_iff, usesPortRange_eq_true_iff]
  unfold validate
  cases s.session.validate with
  | error e => simp
  | ok _ =>
    dsimp only
    split
    · next none => exact iff_of_true rfl ⟨rfl, fun uses => absurd none uses⟩
    · next uses =>
      split
      · next invalid => exact iff_of_false nofun fun h => by have := h.2 uses; omega
      · next valid => exact iff_of_true rfl ⟨rfl, fun _ => by omega⟩

/-- An allocator is not made for the pair that stands for no range. -/
theorem usesPortRange_of_new (h : ∃ a, Allocator.new s.portMin s.portMax = .ok a) :
    s.usesPortRange = true := by
  have range := Allocator.new_eq_ok_iff.1 h
  exact usesPortRange_eq_true_iff.2 fun zero => by omega

/-- Settings come from a document, or from a document that is read from a disk. -/
def Read (decode : Decoder) (s : Settings) : Prop :=
  (∃ document, parse decode document = ⟨s, none⟩) ∨
    ∃ disk path, load decode disk path = ⟨s, none⟩

variable {decode : Decoder}

theorem resolve_of_mapError {ε : Type} {file : SettingsFile} {wrap : Error → ε}
    (h : file.resolve.mapError wrap = ⟨s, none⟩) : file.resolve = ⟨s, none⟩ := by
  obtain ⟨settings, error⟩ := Outcome.mk.inj h
  rw [Option.map_eq_none_iff] at error
  rw [← settings, ← error]

theorem Read.exists_resolve (h : s.Read decode) :
    ∃ file : SettingsFile, file.resolve = ⟨s, none⟩ := by
  rcases h with ⟨document, parsed⟩ | ⟨disk, path, loaded⟩
  · unfold parse at parsed
    split at parsed
    · cases parsed
    · exact ⟨_, resolve_of_mapError parsed⟩
  · unfold load at loaded
    split at loaded
    · cases loaded
    · split at loaded
      · cases loaded
      · exact ⟨_, resolve_of_mapError loaded⟩

theorem validate_of_resolve {file : SettingsFile} (h : file.resolve = ⟨s, none⟩) :
    s.validate = .ok () := by
  obtain ⟨-, rfl, valid⟩ := SettingsFile.resolve_eq_iff.1 h
  exact valid

/-- A file cannot ask for an inbox that is too large. -/
theorem open?_of_resolve {file : SettingsFile} (resolved : file.resolve = ⟨s, none⟩)
    (handlers : Handlers) :
    Channel.open? s.channel handlers = .ok (Channel.new s.channel handlers) := by
  -- The inbox has no key, so that its size is the default.
  have inbox : s.channel.effective.inboxSize = 256 := by
    unfold ChannelConfig.effective
    rw [SettingsFile.inboxSize_of_resolve resolved]
    rfl
  unfold Channel.open?
  rw [inbox, if_neg (by decide)]

theorem exists_world {ν : Type} (valid : s.validate = .ok ()) (network : ν) (now : Instant) :
    ∃ w, Program.world s network now = .ok w := by
  obtain ⟨sessionValid, portsValid⟩ := validate_eq_ok_iff.1 valid
  obtain ⟨session, isSession⟩ := Session.new_eq_ok_iff.2 sessionValid
  have supplied : ∃ ports, Program.supply s = .ok ports := by
    unfold Program.supply
    split
    · next uses =>
      obtain ⟨a, isAllocator⟩ := portsValid uses
      rw [isAllocator]
      exact ⟨_, rfl⟩
    · exact ⟨none, rfl⟩
  obtain ⟨ports, isSupply⟩ := supplied
  unfold Program.world
  rw [isSupply, isSession]
  exact ⟨_, rfl⟩

/-- Settings that were read, whatever decoded the document, work for all who use them: a session can
be made, there is an allocator if there is a range of ports and only then, the channel can be made,
and the program can begin. Every channel works with positive timeouts and sizes. Settings with which
a session can be made are refused only for a range of ports that gives no allocator, and for every
such range. -/
theorem accepted_by_users :
    (∀ (decode : Decoder) (s : Settings), s.Read decode →
      (∃ session, Session.new s.session true = .ok session) ∧
      (s.usesPortRange = true ↔ ∃ a, Allocator.new s.portMin s.portMax = .ok a) ∧
      (∀ handlers, Channel.open? s.channel handlers = .ok (Channel.new s.channel handlers)) ∧
      ∀ (ν : Type) (network : ν) (now : Instant), ∃ w, Program.world s network now = .ok w) ∧
    (∀ config handlers, (Channel.new config handlers).config.Positive) ∧
    ∀ (s : Settings) session, Session.new s.session true = .ok session →
      ((∃ e, s.validate = .error e) ↔
        ¬(s.portMin = 0 ∧ s.portMax = 0) ∧ ∃ e, Allocator.new s.portMin s.portMax = .error e) := by
  refine ⟨fun decode s read => ?_, fun config _ => config.positive_effective,
    fun s session made => ?_⟩
  · obtain ⟨file, resolved⟩ := read.exists_resolve
    have valid := validate_of_resolve resolved
    obtain ⟨sessionValid, portsValid⟩ := validate_eq_ok_iff.1 valid
    exact ⟨Session.new_eq_ok_iff.2 sessionValid, ⟨portsValid, usesPortRange_of_new⟩,
      open?_of_resolve resolved, fun ν => exists_world valid⟩
  · have sessionValid := Session.new_eq_ok_iff.1 ⟨session, made⟩
    have accepts : (∃ u, s.validate = .ok u) ↔
        (s.usesPortRange = true → ∃ a, Allocator.new s.portMin s.portMax = .ok a) :=
      ⟨fun ⟨_, valid⟩ => (validate_eq_ok_iff.1 valid).2,
        fun ports => ⟨(), validate_eq_ok_iff.2 ⟨sessionValid, ports⟩⟩⟩
    rw [exists_eq_error_iff, exists_eq_error_iff, accepts, ← usesPortRange_eq_true_iff,
      Classical.not_imp]

/-- A document with a range of ports, and with a size that a channel cannot use. -/
def sampleDocument : Bytes :=
  utf8 "remote_host = \"engine\"\nremote_port = 7400\nport_min = 5000\nport_max = 5001\n" ++
    utf8 "[channel]\nmax_outbound = -1\n"

def sampleSettings : Settings where
  session := { remoteHost := utf8 "engine", remotePort := 7400 }
  channel := { maxOutbound := -1 }
  portMin := 5000
  portMax := 5001

theorem parse_sampleDocument :
    parse SettingsFile.decode sampleDocument = ⟨sampleSettings, none⟩ := by
  decide +kernel

theorem accepted_by_users_document :
    sampleSettings.Read SettingsFile.decode ∧
      (∃ session, Session.new sampleSettings.session true = .ok session) ∧
      (∃ a, Allocator.new 5000 5001 = .ok a) ∧
      (Channel.new sampleSettings.channel).config.Positive ∧
      ∃ e, { sampleSettings with portMax := 4000 }.validate = .error e := by
  obtain ⟨accepted, positive, refused⟩ := accepted_by_users
  have read : sampleSettings.Read SettingsFile.decode := .inl ⟨_, parse_sampleDocument⟩
  obtain ⟨⟨session, made⟩, ports, -⟩ := accepted _ sampleSettings read
  exact ⟨read, ⟨session, made⟩, ports.1 (by decide), positive _ _,
    (refused { sampleSettings with portMax := 4000 } session made).2 ⟨by decide, _, rfl⟩⟩

end Settings

end Teleop
