import Teleop.Proofs.Link.Course

/-!
# Refused calls

A message can be refused for three reasons, of which the first that applies is returned: it cannot
be encoded, the channel is not connected, or too many frames wait. A link cannot be opened next to
another one, nor to an address that cannot be resolved or from a port that cannot be bound. Whatever
the reason, a refused call leaves the channel as it was.

* `send_of_unencodable`, `send_of_unconnected`, `send_of_current`: the cases of sending, and
  `error_send_eq_none` for when a message is accepted;
* `error_connect_eq_alreadyActive`, `error_connect_ne_none`: the cases of connecting;
* `Course.refusals_change_nothing`: both after any deeds.
-/

namespace Teleop

namespace Channel

variable {c : Channel} {l : Link} {m : Message} {payload : Bytes}

/-! ## Sending -/

theorem send_of_unencodable {e : Message.Error} (hm : m.encode = .error e) :
    c.send m = c.refuse (.encoding e) := by
  simp only [send, hm]

theorem send_of_unconnected (hm : m.encode = .ok payload) (down : c.phase ≠ .connected) :
    c.send m = c.refuse .notConnected := by
  simp only [send, hm]
  split
  · next up _ => exact absurd up down
  · rfl

theorem send_of_current (hm : m.encode = .ok payload) (up : c.phase = .connected)
    (hl : c.current = some l) :
    c.send m =
      if c.config.maxOutbound ≤ l.outbound.length then c.refuse .outboundFull
      else
        { channel := { c with
            current := some { l with outbound := l.outbound ++ [Frame.data payload] } }
          events := [.link (.accepted l.id (Frame.data payload))] } := by
  simp only [send, hm, up, hl, enqueue]
  split
  · next accepted =>
    split at accepted
    · cases accepted
    · next room =>
      cases accepted
      rw [if_neg room]
  · next refused =>
    split at refused
    · next full => rw [if_pos full]
    · cases refused

/-- A connected channel has a link on which it sends. -/
theorem Agrees.current_of_connected (h : c.Agrees) (up : c.phase = .connected) :
    ∃ l, c.current = some l := by
  refine Option.ne_none_iff_exists'.1 fun none => ?_
  rw [h.1 none] at up
  cases up

theorem error_send_eq_none : (c.send m).error = none ↔
    (∃ payload, m.encode = .ok payload) ∧ c.phase = .connected ∧
      ∃ l, c.current = some l ∧ l.outbound.length < c.config.maxOutbound := by
  constructor
  · intro accepted
    rcases c.send_cases m with ⟨e, refused⟩ | ⟨l, payload, hm, up, hl, room, -⟩
    · rw [refused] at accepted
      cases accepted
    · exact ⟨⟨payload, hm⟩, up, l, hl, room⟩
  · rintro ⟨⟨payload, hm⟩, up, l, hl, room⟩
    rw [send_of_current hm up hl, if_neg (Int.not_le.2 room)]

/-! ## Connecting -/

variable {names : List (Text × Bytes)} {bound : Option Text} {times : Times} {nonce : Uuid}
  {dial : Dial}

theorem error_connect_eq_alreadyActive :
    (c.connect names bound times nonce dial).error = some .alreadyActive ↔ c.active = true := by
  unfold connect active
  split
  · next isActive => simp [isActive, refuse]
  · next inactive =>
    refine iff_of_false ?_ inactive
    split <;> simp [refuse, openLink]

theorem error_connect_ne_none :
    (c.connect names bound times nonce dial).error ≠ none ↔ c.active = true ∨
      (∃ reason, Address.resolve names dial.host dial.port = .error reason) ∨ bound ≠ none := by
  unfold connect active
  split
  · next isActive => simp [isActive, refuse]
  · next inactive =>
    split
    · next resolved => simp [resolved, refuse]
    · next resolved => simp [refuse]
    · next resolved => simp [resolved, inactive, openLink]

/-! ## Without effect -/

theorem perform_send_of_refused {e : SendError} (refused : c.send m = c.refuse e) :
    c.perform (.send m) = .ok { channel := c } := by
  simp only [perform, refused]
  rfl

theorem perform_connect_of_refused {e : ConnectError}
    (refused : c.connect names bound times nonce dial = c.refuse e) :
    c.perform (.connect names bound times nonce dial) = .ok { channel := c } := by
  simp only [perform, refused]
  rfl

end Channel

/-- What a channel does with calls that it may refuse, after any deeds. A message is accepted
exactly if it can be encoded, the channel is connected and the current link has room for another
frame; then the queue of that link is longer by the data frame, and everything else is as before.
Otherwise the first of the three reasons that applies is returned. That a link is active is returned
exactly if one is. Every refused call, for whichever reason, returns the whole channel as it was and
causes no event and no notice. -/
theorem Course.refusals_change_nothing (config : ChannelConfig) (handlers : Handlers)
    (deeds : List Deed) :
    ∃ s, run { channel := .new config handlers } deeds = .ok s ∧
      (∀ m : Message,
        ((s.channel.send m).error = none ↔
          (∃ payload, m.encode = .ok payload) ∧ s.channel.phase = .connected ∧
            ∃ l, s.channel.current = some l ∧
              l.outbound.length < config.effective.maxOutbound) ∧
        ((s.channel.send m).error = none →
          ∃ payload l, m.encode = .ok payload ∧ s.channel.current = some l ∧
            s.channel.send m =
              { channel := { s.channel with
                  current := some { l with outbound := l.outbound ++ [3 :: payload] } }
                events := [.link (.accepted l.id (3 :: payload))] }) ∧
        (∀ e, m.encode = .error e → (s.channel.send m).error = some (.encoding e)) ∧
        (∀ payload, m.encode = .ok payload → s.channel.phase ≠ .connected →
          (s.channel.send m).error = some .notConnected) ∧
        (∀ payload, m.encode = .ok payload → s.channel.phase = .connected →
          ∃ l, s.channel.current = some l ∧
            (config.effective.maxOutbound ≤ l.outbound.length →
              (s.channel.send m).error = some .outboundFull)) ∧
        ∀ e, (s.channel.send m).error = some e →
          s.channel.send m = { channel := s.channel, error := some e } ∧
          s.step (.send m) =
            .ok { s with turns := s.turns ++ [⟨s.channel, .send m, { channel := s.channel }⟩] }) ∧
      ∀ names bound times nonce dial,
        let call := Deed.connect names bound times nonce dial
        let called := s.channel.connect names bound times nonce dial
        (called.error = some .alreadyActive ↔ s.channel.active = true) ∧
        (called.error ≠ none ↔
          s.channel.active = true ∨
          (∃ reason, Address.resolve names dial.host dial.port = .error reason) ∨ bound ≠ none) ∧
        ∀ e, called.error = some e →
          called = { channel := s.channel, error := some e } ∧
          s.step call =
            .ok { s with turns := s.turns ++ [⟨s.channel, call, { channel := s.channel }⟩] } := by
  obtain ⟨s, hrun, hs⟩ := run_reached config handlers deeds
  refine ⟨s, hrun, fun m => ⟨?_, fun accepted => ?_, fun e hm => ?_, fun payload hm down => ?_,
    fun payload hm up => ?_, fun e error => ?_⟩,
    fun names bound times nonce dial => ⟨Channel.error_connect_eq_alreadyActive,
      Channel.error_connect_ne_none, fun e error => ?_⟩⟩
  · rw [← hs.config_eq]
    exact Channel.error_send_eq_none
  · rcases s.channel.send_cases m with ⟨e, refused⟩ | ⟨l, payload, hm, -, hl, -, sent⟩
    · rw [refused] at accepted
      cases accepted
    · exact ⟨payload, l, hm, hl, sent⟩
  · rw [Channel.send_of_unencodable hm]
    rfl
  · rw [Channel.send_of_unconnected hm down]
    rfl
  · obtain ⟨l, hl⟩ := hs.agrees.current_of_connected up
    refine ⟨l, hl, fun full => ?_⟩
    rw [← hs.config_eq] at full
    rw [Channel.send_of_current hm up hl, if_pos full]
    rfl
  · have refused := Channel.send_of_error error
    exact ⟨refused, step_eq_ok.2 ⟨_, Channel.perform_send_of_refused refused, rfl⟩⟩
  · have refused := Channel.connect_of_error error
    exact ⟨refused, step_eq_ok.2 ⟨_, Channel.perform_connect_of_refused refused, rfl⟩⟩

/-- Nothing can be sent before the link is up, nor what has no encoding after that; and a link that
is there stands in the way of another. -/
example :
    ((Channel.new {}).send (.playAnimation (utf8 "wave"))).error = some .notConnected ∧
    Course.after (Deed.greetPeer .zero) (fun s =>
        let connected := s.channel.connect [] none ⟨.zero, .zero⟩ .zero
          ⟨[], 0, utf8 "127.0.0.1", 40000⟩
        ((s.channel.send (.raw 5 [])).error, connected.error)) =
      some (some (.encoding (.reservedTag 5)), some .alreadyActive) := by
  decide +kernel

end Teleop
