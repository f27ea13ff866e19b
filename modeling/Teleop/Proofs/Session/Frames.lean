import Teleop.Proofs.Link.Standing
import Teleop.Proofs.Session.History
import Teleop.Session.Config

/-!
# The frames of a link in a history

What a history tells about the data frames that were accepted on a link: the link came up before the
first of them, the two messages of the handshake were offered at once, and every frame is followed
by the hand-off of the message that it carries. A message that waits for a heartbeat is accepted
only after one that came in on the same link.

* `Offered`: what becomes of a message of the handshake;
* `Carried`: the message that a data frame carries;
* `Orderly`: both, as a condition on an event and on what comes before and after it.
-/

namespace Teleop

/-- Messages under this label wait until there has been a heartbeat. -/
def Label.guarded : Label → Bool
  | .request | .fifo | .coalescing | .idle => true
  | .handshake | .reply => false

/-- The link that an event shows to be in use: it came up, or a data frame was accepted on it. -/
def Event.use? : Event → Option Nat
  | .noticed (some id) (.connected _) => some id
  | .link (.accepted id (kind :: _)) => if kind = Frame.dataByte then some id else none
  | _ => none

theorem Event.use?_eq_some {e : Event} {id : Nat} (h : e.use? = some id) :
    (∃ session, e = .noticed (some id) (.connected session)) ∨
      ∃ payload, e = .link (.accepted id (Frame.data payload)) := by
  unfold use? at h
  split at h
  · cases h
    exact .inl ⟨_, rfl⟩
  · split at h
    · next hkind =>
      cases h
      exact .inr ⟨_, by rw [hkind]; rfl⟩
    · cases h
  · cases h

theorem Event.use?_ofChannel {e : ChannelEvent} (h : e.isData = false) :
    (ofChannel e).use? = none := by
  unfold ChannelEvent.isData at h
  split at h
  · simpa [ofChannel, use?] using h
  · next hne =>
    cases e with
    | logged entry => rfl
    | link event =>
      cases event with
      | accepted id frame =>
        cases frame with
        | nil => rfl
        | cons kind rest => exact absurd rfl (hne id kind rest)
      | _ => rfl

theorem ChannelEvent.isData_of_isArrival {e : ChannelEvent} (h : e.isArrival = true) :
    e.isData = false := by
  unfold isArrival at h
  split at h
  · rfl
  · rfl
  · cases h

/-- A heartbeat that came in on the link has reached the session. -/
def Beaten (link : Nat) (h : List Event) : Prop :=
  ∃ a m b body, h = a ++ .noticed (some link) (.message (some m)) :: b ∧
    m.kind? = some .agentStatus ∧ .link (.received link (Frame.data body)) ∈ a ∧
    Message.decode body = .ok m

theorem Beaten.append {link : Nat} {h : List Event} (hb : Beaten link h) (h' : List Event) :
    Beaten link (h ++ h') := by
  obtain ⟨a, m, b, body, rfl, status, received, decoded⟩ := hb
  exact ⟨a, m, b ++ h', body, by simp, status, received, decoded⟩

/-! ## Messages that are handed over -/

/-- The log entry about a message that was refused. -/
def refusalEntry (label : Label) (m : Message) (reason : Text) : Log.Entry where
  level := .warn
  message := utf8 "send failed"
  fields := [Log.textField "error" reason, Log.textField "tag" (tagName m.tag),
    Log.textField "queue" (utf8 label.name)]

/-- The events of a message that is accepted on a link; some datagrams may come in before the
session hears of it. -/
def acceptance (link : Nat) (payload : Bytes) (arrivals : List ChannelEvent) (label : Label)
    (m : Message) : List Event :=
  .link (.accepted link (Frame.data payload)) ::
    (arrivals.map .ofChannel ++ [.handOff label (some m) true])

/-- The events of a message that is refused. -/
def refusal (label : Label) (m : Message) (reason : Text) : List Event :=
  [.handOff label (some m) false, .logged .session (refusalEntry label m reason)]

theorem use?_of_mem_acceptance {link : Nat} {payload : Bytes} {arrivals : List ChannelEvent}
    {label : Label} {m : Message} (hin : ∀ e ∈ arrivals, e.isArrival = true) {e : Event}
    (he : e ∈ acceptance link payload arrivals label m) : e.use? = none ∨ e.use? = some link := by
  simp only [acceptance, List.mem_cons, List.mem_append, List.mem_map, List.not_mem_nil,
    or_false] at he
  rcases he with rfl | ⟨e', he', rfl⟩ | rfl
  · exact .inr rfl
  · exact .inl (Event.use?_ofChannel (ChannelEvent.isData_of_isArrival (hin e' he')))
  · exact .inl rfl

theorem use?_of_mem_refusal {label : Label} {m : Message} {reason : Text} {e : Event}
    (he : e ∈ refusal label m reason) : e.use? = none := by
  simp only [refusal, List.mem_cons, List.not_mem_nil, or_false] at he
  rcases he with rfl | rfl <;> rfl

/-- What becomes of a message of the handshake on a link that has just come up: it is accepted,
unless it could not be built, the queue is full, or the link had been closed before. -/
inductive Offered (link : Nat) (before : List Event) (built : Message.Built) : List Event → Prop
  | skipped {e : Message.Error} (entry : Log.Entry) (h : built.error = some e) :
    Offered link before built [.logged .session entry]
  | accepted {payload : Bytes} {arrivals : List ChannelEvent} (h : built.error = none)
    (encoded : built.message.encode = .ok payload)
    (hin : ∀ e ∈ arrivals, e.isArrival = true) :
    Offered link before built (acceptance link payload arrivals .handshake built.message)
  | refused {reason : Channel.SendError} (h : built.error = none)
    (why : reason = .outboundFull ∨ reason = .notConnected ∧ .link (.closed link) ∈ before) :
    Offered link before built (refusal .handshake built.message reason.message)

theorem Offered.use? {link : Nat} {before : List Event} {built : Message.Built} {o : List Event}
    (ho : Offered link before built o) {e : Event} (he : e ∈ o) :
    e.use? = none ∨ e.use? = some link := by
  cases ho with
  | skipped entry h =>
    rw [List.mem_singleton.1 he]
    exact .inl rfl
  | accepted h encoded hin => exact use?_of_mem_acceptance hin he
  | refused h why => exact .inl (use?_of_mem_refusal he)

/-- The handshake with a link that has just come up. -/
def Greeted (config : SessionConfig) (link : Nat) (before after : List Event) : Prop :=
  ∃ entry start add rest, after = .logged .session entry :: (start ++ (add ++ rest)) ∧
    Offered link before (Message.buildStartEngine config.handshakeHost) start ∧
    Offered link before
      (Message.buildForceAddAgent config.agentId config.agentIp config.agentSimulated) add

/-- A data frame carries a message that was handed over, and one that waits for a heartbeat only
after there was one on the same link. -/
def Carried (link : Nat) (payload : Bytes) (before after : List Event) : Prop :=
  ∃ (label : Label) (m : Message) (arrivals : List ChannelEvent) (rest : List Event),
    after = arrivals.map .ofChannel ++ .handOff label (some m) true :: rest ∧
    (∀ e ∈ arrivals, e.isArrival = true) ∧ m.encode = .ok payload ∧
    (label.guarded = true → Beaten link before)

/-- What the events before and after an event have to do with the links. -/
structure Orderly (config : SessionConfig) (before : List Event) (e : Event) (after : List Event) :
    Prop where
  greeted : ∀ link session, e = .noticed (some link) (.connected session) →
    (∀ e' ∈ before, e'.use? ≠ some link) ∧ Greeted config link before after
  carried : ∀ link payload, e = .link (.accepted link (Frame.data payload)) →
    (∃ session, .noticed (some link) (.connected session) ∈ before) ∧
      Carried link payload before after

theorem Orderly.append {config : SessionConfig} {before after : List Event} {e : Event}
    (h : Orderly config before e after) (more : List Event) :
    Orderly config before e (after ++ more) where
  greeted link session he := by
    obtain ⟨unused, entry, start, add, rest, rfl, hstart, hadd⟩ := h.greeted link session he
    exact ⟨unused, entry, start, add, rest ++ more, by simp, hstart, hadd⟩
  carried link payload he := by
    obtain ⟨up, label, m, arrivals, rest, rfl, hin, encoded, guard⟩ := h.carried link payload he
    exact ⟨up, label, m, arrivals, rest ++ more, by simp, hin, encoded, guard⟩

/-- An event that has to do with no link is in order anywhere. -/
theorem orderly_of_use?_eq_none {config : SessionConfig} {e : Event} (h : e.use? = none)
    (before after : List Event) : Orderly config before e after where
  greeted link session he := by
    subst he
    cases h
  carried link payload he := by
    subst he
    simp [Event.use?, Frame.data] at h

/-! ## Histories in order -/

/-- Every event is in order, after the events `before`. -/
def InOrder (config : SessionConfig) : (before : List Event) → List Event → Prop
  | _, [] => True
  | before, e :: after => Orderly config before e after ∧ InOrder config (before ++ [e]) after

namespace InOrder

variable {config : SessionConfig} {before h h' : List Event}

theorem append (hh : InOrder config before h) (hh' : InOrder config (before ++ h) h') :
    InOrder config before (h ++ h') := by
  induction h generalizing before with
  | nil => simpa using hh'
  | cons e h ih =>
    refine ⟨hh.1.append h', ih hh.2 ?_⟩
    simpa using hh'

theorem of_use?_eq_none (hh : ∀ e ∈ h, e.use? = none) : InOrder config before h := by
  induction h generalizing before with
  | nil => trivial
  | cons e h ih =>
    obtain ⟨he, hh⟩ := List.forall_mem_cons.1 hh
    exact ⟨orderly_of_use?_eq_none he _ _, ih hh⟩

theorem orderly (hh : InOrder config before h) {a b : List Event} {e : Event}
    (heq : h = a ++ e :: b) : Orderly config (before ++ a) e b := by
  induction a generalizing before h with
  | nil =>
    subst heq
    simpa using hh.1
  | cons e' a ih =>
    subst heq
    simpa using ih hh.2 rfl

theorem of_acceptance {link : Nat} {payload : Bytes} {arrivals : List ChannelEvent} {label : Label}
    {m : Message} (up : ∃ session, .noticed (some link) (.connected session) ∈ before)
    (encoded : m.encode = .ok payload) (hin : ∀ e ∈ arrivals, e.isArrival = true)
    (guard : label.guarded = true → Beaten link before) :
    InOrder config before (acceptance link payload arrivals label m) := by
  refine ⟨⟨nofun, ?_⟩, of_use?_eq_none ?_⟩
  · rintro _ _ ⟨⟩
    exact ⟨up, label, m, arrivals, [], rfl, hin, encoded, guard⟩
  · simp only [List.mem_append, List.mem_map, List.mem_singleton]
    rintro _ (⟨e, he, rfl⟩ | rfl)
    · exact Event.use?_ofChannel (ChannelEvent.isData_of_isArrival (hin e he))
    · rfl

theorem of_offered {link : Nat} {since : List Event} {built : Message.Built} {o : List Event}
    (ho : Offered link since built o)
    (up : ∃ session, .noticed (some link) (.connected session) ∈ before) :
    InOrder config before o := by
  cases ho with
  | skipped entry h => exact of_use?_eq_none (by simp [Event.use?])
  | accepted h encoded hin => exact of_acceptance up encoded hin nofun
  | refused h why => exact of_use?_eq_none fun _ => use?_of_mem_refusal

end InOrder

end Teleop
