import Teleop.Proofs.Message.Constructors
import Teleop.Proofs.Session.Coupling
import Teleop.Proofs.Session.Routine

/-!
# Runs of a session over a datagram channel

Every operation of a session keeps it coupled with its channel, and so does every run.

* `coupled_send`, `coupled_publish`, `coupled_takeNotice`: the parts that ticks share;
* `coupled_update`, `coupled_maintain`, `coupled_dispatch`: the parts of a tick;
* `Reaches.coupled`: whole runs.
-/

namespace Teleop

open Relation

variable {ν π ι : Type}

/-! ## Calm operations -/

section Calm

open Act

/-- A change of what the session remembers. -/
theorem World.Calm.remembering {w : World (Wired ν) π} {f : Session → Session}
    (unbeaten : w.Unbeaten (w.remember f))
    (wanted : w.session.connectRequested = true → (f w.session).connectRequested = true) :
    w.Calm (w.remember f) :=
  ⟨fun sound => ⟨[], .of_eq sound rfl (by simp), by simp⟩, unbeaten, wanted⟩

theorem World.Calm.noting {w : World (Wired ν) π} {e : Event} (h : e.use? = none) :
    w.Calm (w.note e) :=
  ⟨fun sound => ⟨[e], .noting sound e, by simpa using h⟩, .of_eq rfl, id⟩

/-- The channel takes in what comes from the network. -/
theorem World.Calm.taking {w : World (Wired ν) π} {channel : Wired ν} {events : List ChannelEvent}
    (h : w.channel.channel.Sound → w.channel.channel.Moved events channel.channel ∧
      channel.channel.standing = w.channel.channel.standing ∧ ∀ e ∈ events, e.isArrival = true) :
    w.Calm (w.taking channel events) := by
  refine ⟨fun sound => ?_, .of_eq rfl, id⟩
  obtain ⟨moved, standing, arrivals⟩ := h sound
  refine ⟨_, ⟨w.history_taking channel events, ⟨events, moved, ?_⟩, standing⟩, ?_⟩
  · exact fun e => List.mem_map_of_mem
  · intro e he
    obtain ⟨e', he', rfl⟩ := List.mem_map.1 he
    exact Event.use?_ofChannel (ChannelEvent.isData_of_isArrival (arrivals e' he'))

theorem World.Calm.settling {w : World (Wired ν) π} (net : Network ν) :
    w.Calm (w.settling net (w.channel.channel, [])) := by
  refine .taking fun sound => ?_
  obtain ⟨more, hmore, settled⟩ := Wired.settle_eq net w.channel sound []
  rw [hmore]
  exact settled

variable {f : Session → Session}

theorem calm_remember (unbeaten : ∀ w : World (Wired ν) π, w.Unbeaten (w.remember f))
    (wanted : ∀ s, s.connectRequested = true → (f s).connectRequested = true) :
    Keeps World.Calm (remember f : Act (Wired ν) π Unit) :=
  fun w => (yields_modify _).2 (.remembering (unbeaten w) (wanted w.session))

theorem calm_record {e : Event} (h : e.use? = none) :
    Keeps World.Calm (record e : Act (Wired ν) π Unit) :=
  fun _ => (yields_modify _).2 (.noting h)

theorem calm_log (level : Log.Level) (message : String) (fields : Log.Fields) :
    Keeps World.Calm (log level message fields : Act (Wired ν) π Unit) :=
  calm_record rfl

/-- A change around the session, its channel and the journal. -/
theorem calm_modify {f : World (Wired ν) π → World (Wired ν) π}
    (session : ∀ w, (f w).session = w.session) (channel : ∀ w, (f w).channel = w.channel)
    (journal : ∀ w, (f w).journal = w.journal) :
    Keeps World.Calm (modify f : Act (Wired ν) π Unit) := by
  intro w
  refine (yields_modify _).2 ⟨fun sound => ⟨[], .of_eq sound ?_ ?_, by simp⟩, .of_eq ?_, ?_⟩
  · rw [channel]
  · rw [World.history, journal, List.append_nil]
    rfl
  · exact session w
  · rw [session]
    exact id

theorem calm_count (f : Metrics → Metrics) :
    Keeps World.Calm (count f : Act (Wired ν) π Unit) :=
  calm_modify (fun _ => rfl) (fun _ => rfl) fun _ => rfl

theorem Event.use?_of_clerical {e : Event} (h : e.clerical = true) : e.use? = none := by
  cases e <;> first | rfl | cases h

theorem World.Unbeaten.of_attention {χ : Type} {w w' : World χ π}
    (h : w'.session.attention = w.session.attention) : w.Unbeaten w' := by
  obtain ⟨-, ready, beat, -⟩ := Session.attention_eq_iff.1 h
  exact fun hr => ⟨ready.symm.trans hr, beat⟩

theorem clerical_calm :
    Wiring.Clerical (World.Calm : World (Wired ν) π → World (Wired ν) π → Prop) where
  note _ _ h := .noting (Event.use?_of_clerical h)
  remember _ _ attention wanted := .remembering (.of_attention attention) wanted

theorem calm_start (W : Wiring (Wired ν) π ι) : Keeps World.Calm W.start :=
  .bind .get fun _ => .ite (.bind (calm_modify (fun _ => rfl) (fun _ => rfl) fun _ => rfl) fun _ =>
    .bind (calm_record rfl) fun _ => .bind (calm_remember (fun _ h => nomatch h) fun _ => id)
      fun _ => calm_log _ _ _) (.pure _)

/-- No call touches the link, unless it sets an idle message. -/
theorem calm_perform (W : Wiring (Wired ν) π ι) {c : Call} (h : ∀ m, c ≠ .setIdle m) :
    Keeps World.Calm (W.perform c) := by
  by_cases start : c = .start
  · subst start
    exact .bind (calm_start W) fun _ => .pure _
  · exact clerical_calm.perform start h

/-- Nor does what happens outside. -/
theorem World.NetworkStep.calm {w w' : World (Wired ν) π} (h : w.NetworkStep w') : w.Calm w' := by
  cases h with
  | changed network ports clock =>
    exact ⟨fun sound => ⟨[], .of_eq sound rfl (by simp [World.history]), by simp⟩, .of_eq rfl, id⟩
  | arrived a => exact .taking fun sound => Channel.arrive_eq sound a
  | noted entry => exact .noting rfl

end Calm

/-! ## Sending -/

namespace Wiring

open Act

variable {W : Wiring (Wired ν) π ι} {net : Network ν}

theorem yields_adopt {χ α : Type} {r : Reply χ α} {w : World χ π} {Q : α → World χ π → Prop} :
    Yields (adopt r) w Q ↔ Q r.value (w.taking r.channel r.events) := by
  simp only [adopt, recordAll, yields_bind, yields_modify, yields_pure]
  rfl

theorem returns_adopt {χ α : Type} {r : Reply χ α} {w : World χ π} {Q : α → World χ π → Prop}
    (h : Q r.value (w.taking r.channel r.events)) : Returns (adopt r) w Q :=
  returns_bind (returns_modify (returns_bind (returns_modify (returns_pure h))))

/-- What comes of handing a message to the channel. -/
inductive Sent (label : Label) (m : Message) (w w' : World (Wired ν) π) : Prop
  /-- It joins the frames of the link that is up. -/
  | accepted {link : Nat} {payload : Bytes} {arrivals : List ChannelEvent}
    (up : w.channel.channel.standing = .up link) (encoded : m.encode = .ok payload)
    (hin : ∀ e ∈ arrivals, e.isArrival = true)
    (grown : w.Grown (acceptance link payload arrivals label m) w')
  | refused {e : Channel.SendError} (h : (w.channel.channel.send m).error = some e)
    (grown : w.Grown (refusal label m e.message) w')

theorem send_sent (hnet : W.transport = net.transport) (label : Label) (m : Message)
    {w : World (Wired ν) π} (sound : w.channel.channel.Sound) :
    Yields (W.send label (some m)) w fun _ w' => Sent label m w w' ∧ w'.session = w.session := by
  refine (yields_bind _ _).2 (yields_get.2 ((yields_bind _ _).2 ((yields_lift _).2 ?_)))
  rw [hnet]
  intro reply hreply
  refine (yields_bind _ _).2 (yields_adopt.2 ((yields_bind _ _).2 ((yields_modify _).2 ?_)))
  unfold Network.transport at hreply
  dsimp only at hreply
  split at hreply
  · next e he =>
    obtain rfl := Except.ok.inj hreply
    refine (yields_bind _ _).2 ((yields_modify _).2 ((yields_modify _).2 ⟨?_, rfl⟩))
    have same := congrArg Channel.Called.channel (Channel.send_of_error he)
    refine .refused he (.of_eq sound same ?_)
    simp [World.history, World.taking, refusal, refusalEntry]
  · next he =>
    obtain rfl := Except.ok.inj hreply
    obtain ⟨moved, link, payload, encoded, up, up', events⟩ := Channel.send_accepted sound he
    rw [events] at moved ⊢
    obtain ⟨more, hmore, moved', standing, arrivals⟩ := Wired.settle_eq net w.channel moved.sound
      [.link (.accepted link (Frame.data payload))]
    refine (yields_modify _).2 ⟨.accepted up encoded arrivals ⟨?_, ?_, ?_⟩, rfl⟩
    · simp [World.history, World.taking, acceptance, Wired.reply, hmore, Event.ofChannel]
    · refine ⟨_, moved.trans moved', fun e he => ?_⟩
      rcases List.mem_append.1 he with he | he
      · rw [List.mem_singleton.1 he]
        exact List.mem_cons_self
      · exact List.mem_cons_of_mem _ (List.mem_append_left _ (List.mem_map_of_mem he))
    · exact standing.trans (up'.trans up.symm)

variable {config : SessionConfig} {era : Era} {st : Standing} {ns : List (Nat × Notice)}

/-- A session may send once its link is up, but what waits for a heartbeat only after there was
one. -/
theorem coupled_send (hnet : W.transport = net.transport) {label : Label} {m : Option Message}
    {w : World (Wired ν) π} (h : Coupled config era st ns w) (hst : ∀ link, st ≠ .waiting link)
    (guard : label.guarded = true → ∀ link, st = .up link → Beaten link w.history) :
    Yields (W.send label m) w fun _ w' =>
      Coupled config era st ns w' ∧ ∃ es, w'.history = w.history ++ es := by
  cases m with
  | none =>
    refine (yields_bind _ _).2 (yields_get.2 ((yields_bind _ _).2 ((yields_lift _).2 ?_)))
    rw [hnet]
    intro reply hreply
    have hreply : Except.error Fault.missingMessage = .ok reply := hreply
    cases hreply
  | some m =>
    refine (send_sent hnet label m h.sound).mono ?_
    rintro _ w' ⟨sent, session⟩
    have wanted : w.session.connectRequested = true → w'.session.connectRequested = true := by
      rw [session]
      exact id
    cases sent with
    | refused _ grown =>
      refine ⟨h.calm ⟨fun _ => ⟨_, grown, ?_⟩, .of_eq session, wanted⟩, _, grown.history⟩
      exact fun _ => use?_of_mem_refusal
    | @accepted link payload arrivals up encoded hin grown =>
      have hst : st = .up link := by
        have told := h.told
        rw [up] at told
        cases st with
        | away => cases told.of_away.2
        | waiting l => exact absurd rfl (hst l)
        | up l => rcases told.of_up with h | h <;> cases h; rfl
      refine ⟨h.grown grown ?_ ?_ wanted fun hr => (session ▸ hr), _, grown.history⟩
      · exact .of_acceptance (h.greeted link hst) encoded hin (guard · link hst)
      intro e he l hl
      rcases use?_of_mem_acceptance hin he with hu | hu
      · cases hu.symm.trans hl
      · cases hu.symm.trans hl
        exact hst

/-! ## Subscribers -/

theorem upholds_of_calm {α : Type} {x : Act (Wired ν) π α} (h : Keeps World.Calm x) :
    Upholds (Coupled config era st ns) x :=
  fun w => (h w).mono fun _ _ hc h => h.calm hc

theorem coupled_perform (hnet : W.transport = net.transport) (c : Call) :
    Upholds (Coupled config era st ns) (W.perform c) := by
  by_cases hc : ∃ m, c = .setIdle m
  · obtain ⟨m, rfl⟩ := hc
    have set : Upholds (Coupled config era st ns)
        (remember fun s => { s with idle := m } : Act (Wired ν) π Unit) :=
      upholds_of_calm (calm_remember (fun _ h => ⟨h, rfl⟩) fun _ => id)
    refine .bind (.bind set fun _ w => ?_) fun _ => .pure _
    refine (yields_bind _ _).2 (yields_get.2 ((yields_bind _ _).2 ((yields_modify _).2 ?_)))
    refine (yields_ite _ _).2 ⟨fun hr => ?_, fun _ => ?_⟩
    · intro a w' hw' h
      have h : Coupled config era st ns (w.note (.idleSet m w.session.ready)) :=
        h.calm (.noting rfl)
      obtain ⟨link, hst, beaten⟩ := h.ready (Bool.and_eq_true_iff.1 hr).1
      refine (coupled_send hnet h (by simp [hst]) ?_ a w' hw').1
      intro _ l hl
      cases hst.symm.trans hl
      exact beaten
    · exact (yields_pure _).2 fun h => h.calm (.noting rfl)
  · exact upholds_of_calm (calm_perform W fun m hm => hc ⟨m, hm⟩)

theorem Coupled.doing (hnet : W.transport = net.transport) {w w' : World (Wired ν) π}
    (h : Coupled config era st ns w) (hd : ReflTransGen (W.Doing World.NetworkStep) w w') :
    Coupled config era st ns w' := by
  induction hd with
  | refl => exact h
  | tail _ hd ih =>
    cases hd with
    | call c r hc => exact coupled_perform hnet c _ r _ hc ih
    | outside ho => exact ih.calm ho.calm

variable (hnet : W.transport = net.transport) (hW : W.CallbacksOnlyCall World.NetworkStep)

include hnet hW

theorem coupled_present (text : Text) :
    ∀ subscribers, Upholds (Coupled config era st ns) (W.present text subscribers)
  | [] => .pure _
  | (_, s) :: rest => by
    have reacted : Upholds (Coupled config era st ns) (W.react s text) :=
      fun w => (hW.react s text w).mono fun _ _ hd h => Coupled.doing hnet h hd
    exact .bind (upholds_of_calm (calm_record rfl)) fun _ =>
      .bind reacted fun _ => coupled_present text rest

theorem coupled_publish (endOfTick : Bool) :
    Upholds (Coupled config era st ns) (W.publish endOfTick) := by
  refine .bind .get fun w => .bind (upholds_of_calm ?_) fun _ => ?_
  · exact calm_remember (fun _ h => ⟨h, rfl⟩) fun _ => id
  · split
    · exact .pure _
    · exact .bind (upholds_of_calm (calm_log _ _ _)) fun _ => coupled_present hnet hW _ _

/-- The session shows why its link has ended. -/
theorem coupled_explain (reason : Text) : Upholds (Coupled config era st ns) (do
    remember fun s => { s with reason }
    W.publish false) :=
  .bind (upholds_of_calm (calm_remember (fun _ h => ⟨h, rfl⟩) fun _ => id)) fun _ =>
    coupled_publish hnet hW false

/-! ## Notices -/

omit hW in
/-- What becomes of a message of the handshake. -/
theorem offer_offered {link : Nat} {before : List Event} {built : Message.Built}
    (skipped : String) (fields : Log.Fields) {w : World (Wired ν) π}
    (sound : w.channel.channel.Sound)
    (up : ∀ l, w.channel.channel.standing = .up l → l = link)
    (gone : (∀ l, w.channel.channel.standing ≠ .up l) → .link (.closed link) ∈ before)
    (encodes : built.error = none → ∃ payload, built.message.encode = .ok payload) :
    Yields (W.offer built skipped fields) w fun _ w' => ∃ o, Offered link before built o ∧
      w.Grown o w' ∧ w'.session = w.session := by
  unfold offer
  cases hb : built.error with
  | some e =>
    exact (yields_modify _).2 ⟨_, .skipped _ hb, .noting sound _, rfl⟩
  | none =>
    refine (send_sent hnet .handshake built.message sound).mono ?_
    rintro _ w' ⟨sent, session⟩
    cases sent with
    | accepted hup encoded hin grown =>
      obtain rfl := up _ hup
      exact ⟨_, .accepted hb encoded hin, grown, session⟩
    | refused hsend grown =>
      refine ⟨_, .refused hb ?_, grown, session⟩
      rcases Channel.send_refused hsend with ⟨e, he⟩ | ⟨rfl, down⟩ | rfl
      · obtain ⟨payload, hp⟩ := encodes hb
        cases he.symm.trans hp
      · exact .inr ⟨rfl, gone down⟩
      · exact .inl rfl

omit hnet hW in
theorem grown_unready {w : World (Wired ν) π} (sound : w.channel.channel.Sound) :
    Yields (setReady false : Act (Wired ν) π Unit) w fun _ w' =>
      w.Grown [] w' ∧ w'.session = { w.session with ready := false } :=
  (yields_bind _ _).2 ((yields_modify _).2 ((yields_modify _).2
    ⟨.of_eq sound rfl (by simp [World.history]), rfl⟩))

omit hnet hW in
theorem grown_log (level : Log.Level) (message : String) (fields : Log.Fields)
    {w : World (Wired ν) π} (sound : w.channel.channel.Sound) :
    Yields (log level message fields : Act (Wired ν) π Unit) w fun _ w' =>
      (∃ entry, w.Grown [.logged .session entry] w') ∧ w'.session = w.session :=
  (yields_modify _).2 ⟨⟨_, .noting sound _⟩, rfl⟩

omit hW in
/-- A link comes up. -/
theorem coupled_connected {link : Nat} {session : Text} {w : World (Wired ν) π}
    (h : Coupled W.config era (.waiting link) ((link, .connected session) :: ns) w)
    (told : (Standing.up link).Told ns w.channel.channel.standing) :
    Yields (W.takeNotice (some link) (.connected session)) w fun _ w' =>
      Coupled W.config era (.up link) ns w' := by
  have up (l : Nat) (hl : w.channel.channel.standing = .up l) : l = link := by
    rcases told.of_up with h | h <;> cases hl.symm.trans h
    rfl
  have gone (down : ∀ l, w.channel.channel.standing ≠ .up l) :
      .link (.closed link) ∈ w.history := by
    have away := told.of_up.resolve_left (down link)
    exact (h.closed link rfl).resolve_left (by simp [away, Standing.link?])
  refine (yields_bind _ _).2 ((yields_modify _).2 ((yields_bind _ _).2 ?_))
  have g₁ := World.Grown.noting h.sound (.noticed (some link) (.connected session))
  refine (grown_unready g₁.sound).mono ?_
  rintro _ w₂ ⟨g₂, s₂⟩
  refine (yields_bind _ _).2 ((grown_log _ _ _ g₂.sound).mono ?_)
  rintro _ w₃ ⟨⟨entry, g₃⟩, s₃⟩
  have g₃ := (g₁.trans g₂).trans g₃
  have up₃ : ∀ l, w₃.channel.channel.standing = .up l → l = link := by rwa [g₃.standing]
  have gone₃ : (∀ l, w₃.channel.channel.standing ≠ .up l) → .link (.closed link) ∈ w.history := by
    rwa [g₃.standing]
  refine (yields_bind _ _).2 ?_
  refine (offer_offered hnet _ _ g₃.sound up₃ gone₃ fun _ =>
    (Message.agrees_buildStartEngine _).encode_message).mono ?_
  rintro _ w₄ ⟨start, hstart, g₄, s₄⟩
  have up₄ : ∀ l, w₄.channel.channel.standing = .up l → l = link := by rwa [g₄.standing]
  have gone₄ : (∀ l, w₄.channel.channel.standing ≠ .up l) → .link (.closed link) ∈ w.history := by
    rwa [g₄.standing]
  refine (offer_offered hnet _ _ g₄.sound up₄ gone₄ fun _ =>
    (Message.agrees_buildForceAddAgent _ _ _).encode_message).mono ?_
  rintro _ w₅ ⟨add, hadd, g₅, s₅⟩
  have g := (g₃.trans g₄).trans g₅
  simp only [List.append_nil, List.cons_append, List.nil_append] at g
  refine h.connected told g hstart hadd ?_
  rw [s₅, s₄, s₃, s₂]
  rfl

/-- A link ends. -/
theorem coupled_disconnected {link : Nat} {reason : Text} {w : World (Wired ν) π}
    (h : Coupled config era st ((link, .disconnected reason) :: ns) w) :
    Yields (W.takeNotice (some link) (.disconnected reason)) w fun _ w' =>
      Coupled config era .away ns w' := by
  refine (yields_bind _ _).2 ((calm_record rfl w).mono fun _ w₁ c₁ => ?_)
  refine (yields_bind _ _).2 ((calm_log _ _ _ w₁).mono fun _ w₂ c₂ => ?_)
  have h₂ := (h.calm c₁).calm c₂
  refine (yields_bind _ _).2 ((grown_unready h₂.sound).mono ?_)
  rintro _ w₃ ⟨g₃, s₃⟩
  have h₃ : Coupled config era .away ns w₃ := by
    refine (h₂.calm ⟨fun _ => ⟨[], g₃, by simp⟩, ?_, ?_⟩).dropped ?_ <;>
      simp [World.Unbeaten, s₃]
  exact (coupled_explain hnet hW reason w₃).mono fun _ _ h' => h' h₃

/-! ## Heartbeats -/

/-- The link is up, and there was a heartbeat on it. -/
structure Beating (config : SessionConfig) (era : Era) (link : Nat) (ns : List (Nat × Notice))
    (w : World (Wired ν) π) : Prop where
  coupled : Coupled config era (.up link) ns w
  beaten : Beaten link w.history

omit hnet hW in
theorem beating_of_calm {α : Type} {link : Nat} {x : Act (Wired ν) π α}
    (h : Keeps World.Calm x) : Upholds (Beating config era link ns) x := by
  refine fun w => (h w).mono fun _ w' hc hb => ⟨hb.coupled.calm hc, ?_⟩
  obtain ⟨es, g, _⟩ := hc.grown hb.coupled.sound
  rw [g.history]
  exact hb.beaten.append es

omit hW in
theorem beating_send {link : Nat} (label : Label) (m : Option Message) :
    Upholds (Beating config era link ns) (W.send label m) := by
  intro w _ w' hw' h
  obtain ⟨h', es, history⟩ := coupled_send hnet h.coupled nofun (by
    rintro _ _ ⟨⟩
    exact h.beaten) _ w' hw'
  refine ⟨h', ?_⟩
  rw [history]
  exact h.beaten.append es

omit hW in
theorem beating_onHeartbeat (link : Nat) :
    Upholds (Beating config era link ns) W.onHeartbeat := by
  have beat (now : Instant) : Upholds (Beating config era link ns) (remember fun s =>
      { s with lastHeartbeat := now, ready := true } : Act (Wired ν) π Unit) := by
    refine fun w => (yields_modify _).2 fun h => ⟨?_, h.beaten⟩
    exact { h.coupled with ready := fun _ => ⟨link, rfl, h.beaten⟩ }
  refine .bind .get fun w => .bind (beating_of_calm (calm_record rfl)) fun _ => ?_
  refine .ite (.bind (beat _) fun _ => ?_) (.pure _)
  refine .bind (beating_of_calm (calm_count _)) fun _ => .ite ?_ (.pure _)
  refine .bind (beating_of_calm (calm_count _)) fun _ => ?_
  refine .bind (beating_of_calm (calm_log _ _ _)) fun _ => .ite ?_ (.pure _)
  exact beating_send hnet _ _

omit hW in
/-- A message comes in on the link that is up. -/
theorem coupled_message {link : Nat} {m : Message} {w : World (Wired ν) π}
    (h : Coupled config era (.up link) ((link, .message (some m)) :: ns) w) :
    Yields (W.takeNotice (some link) (.message (some m))) w fun _ w' =>
      Coupled config era (.up link) ns w' := by
  refine (yields_bind _ _).2 ((yields_modify _).2 ?_)
  have h₁ : Coupled config era (.up link) ns
      (w.note (.noticed (some link) (.message (some m)))) := (h.calm (.noting rfl)).heard
  have reply (answer : Option Message) :
      Upholds (Coupled config era (.up link) ns) (W.send .reply answer) :=
    fun w a w' hw' h => (coupled_send hnet h nofun (by nofun) a w' hw').1
  have peer (f : Roster → Instant → Instant → Roster) :
      Upholds (Coupled config era (.up link) ns) (W.recordPeer f) :=
    upholds_of_calm (calm_modify (fun _ => rfl) (fun _ => rfl) fun _ => rfl)
  have taken : Upholds (Coupled config era (.up link) ns) (W.onMessage (some m)) ∨
      m.kind? = some .agentStatus ∧ W.onMessage (some m) = W.onHeartbeat := by
    cases m with
    | agentStatus => exact .inr ⟨rfl, rfl⟩
    | agentAvailable id ip =>
      refine .inl (.bind (peer _) fun _ => ?_)
      dsimp only
      split
      · exact upholds_of_calm (calm_log _ _ _)
      · exact reply _
    | uiDeviceAvailable device => exact .inl (.bind (peer _) fun _ => reply _)
    | _ => exact .inl (upholds_of_calm (calm_log _ _ _))
  rcases taken with taken | ⟨status, taken⟩
  · exact (taken _).mono fun _ _ h' => h' h₁
  · obtain ⟨body, received, decoded⟩ := h.pending _ List.mem_cons_self m rfl
    have beaten : Beaten link (w.note (.noticed (some link) (.message (some m)))).history :=
      ⟨w.history, m, [], body, by simp, status, received, decoded⟩
    change Yields (W.onMessage (some m)) _ _
    rw [taken]
    exact (beating_onHeartbeat hnet link _).mono fun _ _ h' => (h' ⟨h₁, beaten⟩).coupled

theorem coupled_takeNotice {link : Nat} {n : Notice} {w : World (Wired ν) π}
    (h : Coupled W.config era st ((link, n) :: ns) w) :
    Yields (W.takeNotice (some link) n) w fun _ w' => ∃ st', Coupled W.config era st' ns w' := by
  cases h.told with
  | cons heard told =>
    cases heard with
    | connected => exact (coupled_connected hnet h told).mono fun _ _ h' => ⟨_, h'⟩
    | message => exact (coupled_message hnet h).mono fun _ _ h' => ⟨_, h'⟩
    | dropped => exact (coupled_disconnected hnet hW h).mono fun _ _ h' => ⟨_, h'⟩
    | ended => exact (coupled_disconnected hnet hW h).mono fun _ _ h' => ⟨_, h'⟩

/-! ## Driving the channel -/

/-- A session that has taken in all notices. -/
def AtRest (config : SessionConfig) (era : Era) (w : World (Wired ν) π) : Prop :=
  ∃ st, Coupled config era st [] w

theorem coupled_follow (ns : List (Nat × Notice)) : ∀ {st : Standing} {w : World (Wired ν) π}
    {x : Wired ν}, Coupled W.config era st ns { w with channel := x } →
      Yields (W.follow (Wired.raising (ns.map some) x)) w fun _ w' => AtRest W.config era w' := by
  induction ns with
  | nil => exact fun h => (yields_modify _).2 ⟨_, h⟩
  | cons n ns ih =>
    intro st w x h
    refine (yields_bind _ _).2 ((yields_modify _).2 ((yields_bind _ _).2 ?_))
    refine (coupled_takeNotice hnet hW h).mono ?_
    rintro _ w' ⟨st', h'⟩
    exact (yields_bind _ _).2 (yields_get.2 (ih h'))

omit hW in
/-- An update is what the channel does, and then its notices are taken in. -/
theorem yields_update {w : World (Wired ν) π} {Q : Unit → World (Wired ν) π → Prop}
    (h : ∀ u, w.channel.channel.update (net.write w.channel.network)
        (net.clock w.channel.network w.clock) = .ok u → ∀ v,
      { v with channel := ((w.note .update).settling net (u.channel, u.events)).channel } =
        (w.note .update).settling net (u.channel, u.events) →
      Yields (W.follow (Wired.raising u.notices
        ((w.note .update).settling net (u.channel, u.events)).channel)) v Q) :
    Yields W.update w Q := by
  refine (yields_bind _ _).2 ((yields_modify _).2 ((yields_bind _ _).2 (yields_get.2 ?_)))
  rw [hnet]
  unfold Network.transport
  dsimp only
  cases hu : w.channel.channel.update (net.write w.channel.network)
      (net.clock w.channel.network w.clock) with
  | error f => exact (yields_bind _ _).2 ((yields_modify _).2 ((yields_throw _).2 trivial))
  | ok u => exact (yields_bind _ _).2 ((yields_modify _).2 (h u hu _ rfl))

theorem coupled_update : Upholds (AtRest W.config era) W.update := by
  refine upholds_iff.2 fun w ⟨st, h⟩ => yields_update hnet fun u hu v hv => ?_
  obtain ⟨ns, hns, h'⟩ := (h.calm (.noting (e := .update) rfl)).updated net hu
  rw [hns]
  exact coupled_follow hnet hW ns (by rw [hv]; exact h')

/-- The session has dropped its link, though it may still believe that it is ready. -/
def Dropped (config : SessionConfig) (era : Era) (w : World (Wired ν) π) : Prop :=
  Coupled config era .away [] (w.remember fun s => { s with ready := false })

omit hW in
/-- Without a link there is nothing to take in. -/
theorem dropped_update : Upholds (Dropped config era) W.update := by
  refine upholds_iff.2 fun w h => yields_update hnet fun u hu v hv => ?_
  obtain ⟨ns, hns, h'⟩ := (h.calm (.noting (e := .update) rfl)).updated net hu
  obtain ⟨rfl, -⟩ := h'.told.of_away
  rw [hns]
  refine (yields_modify _).2 ?_
  rw [hv]
  exact h'

omit hW in
theorem yields_disconnect {w : World (Wired ν) π} {Q : Unit → World (Wired ν) π → Prop}
    (h : Q () ((w.note .disconnect).settling net w.channel.channel.disconnect)) :
    Yields W.disconnect w Q := by
  refine (yields_bind _ _).2 ((yields_modify _).2 ((yields_bind _ _).2 (yields_get.2 ?_)))
  rw [hnet]
  exact yields_adopt.2 h

omit hW in
/-- The session drops its link. -/
theorem coupled_disconnect {w : World (Wired ν) π} (h : Coupled config era st [] w) :
    Yields W.disconnect w fun _ w' => Dropped config era w' :=
  yields_disconnect hnet ((h.calm (.noting (e := .disconnect) rfl)).disconnected net)

omit hnet hW in
theorem Dropped.unready {w : World (Wired ν) π} (h : Dropped config era w) :
    Yields (setReady false : Act (Wired ν) π Unit) w fun _ w' => Coupled config era .away [] w' :=
  (yields_bind _ _).2 ((yields_modify _).2 ((calm_count _ _).mono fun _ _ c => h.calm c))

omit hW in
/-- A requested reset drops the link; otherwise nothing happens. -/
theorem coupled_resetLink {w : World (Wired ν) π} (h : Coupled config era st [] w) :
    Yields W.resetLink w fun _ w' => Coupled config era .away [] w' ∨
      Coupled config era st [] w' ∧ W.lagging w' = W.lagging w := by
  refine (yields_bind _ _).2 (yields_get.2 ((yields_bind _ _).2 ((yields_modify _).2 ?_)))
  have h₁ : Coupled config era st [] (w.remember fun s => { s with resetRequested := false }) :=
    h.calm (.remembering (fun h => ⟨h, rfl⟩) id)
  refine (yields_ite _ _).2 ⟨fun _ => ?_, fun _ => (yields_pure _).2 (.inr ⟨h₁, rfl⟩)⟩
  refine (yields_bind _ _).2 ((calm_log _ _ _ _).mono fun _ w₂ c₂ => ?_)
  refine (yields_bind _ _).2 ((coupled_disconnect hnet (h₁.calm c₂)).mono fun _ w₃ h₃ => ?_)
  exact h₃.unready.mono fun _ _ h' => .inl h'

/-- A heartbeat that is overdue ends the link; otherwise nothing happens. -/
theorem coupled_enforceLiveness {w : World (Wired ν) π} (h : Coupled config era st [] w) :
    Yields W.enforceLiveness w fun _ w' =>
      W.lagging w = true ∧ Coupled config era .away [] w' ∨ W.lagging w = false ∧ w' = w := by
  refine (yields_bind _ _).2 (yields_get.2 ((yields_ite _ _).2 ⟨fun late => ?_, fun late => ?_⟩))
  · refine (yields_bind _ _).2 ((calm_record rfl _).mono fun _ w₁ c₁ => ?_)
    refine (yields_bind _ _).2 ((calm_log _ _ _ _).mono fun _ w₂ c₂ => ?_)
    refine (yields_bind _ _).2 ((calm_count _ _).mono fun _ w₃ c₃ => ?_)
    have h₃ := ((h.calm c₁).calm c₂).calm c₃
    refine (yields_bind _ _).2 ((coupled_disconnect hnet h₃).mono fun _ w₄ h₄ => ?_)
    refine (yields_bind _ _).2 (h₄.unready.mono fun _ w₅ h₅ => ?_)
    exact (coupled_explain hnet hW Status.timedOut w₅).mono fun _ w' h' => .inl ⟨late, h' h₅⟩
  · exact (yields_pure _).2 (.inr ⟨by simpa using late, rfl⟩)

/-! ## Connect attempts -/

omit hnet hW in
theorem atRest_of_calm {α : Type} {x : Act (Wired ν) π α} (h : Keeps World.Calm x) :
    Upholds (AtRest config era) x :=
  fun w => (h w).mono fun _ _ hc ⟨st, h⟩ => ⟨st, h.calm hc⟩

/-- A session without a link that is up. -/
def Linkless (config : SessionConfig) (era : Era) (w : World (Wired ν) π) : Prop :=
  ∃ st, (∀ link, st ≠ .up link) ∧ Coupled config era st [] w

omit hnet hW in
theorem linkless_of_calm {α : Type} {x : Act (Wired ν) π α} (h : Keeps World.Calm x) :
    Upholds (Linkless config era) x :=
  fun w => (h w).mono fun _ _ hc ⟨st, hst, h⟩ => ⟨st, hst, h.calm hc⟩

omit hnet hW in
/-- Asking for a link may fail. -/
theorem linkless_connect {w : World (Wired ν) π} (h : Coupled config era .away [] w)
    (wanted : w.session.connectRequested = true) {net : Network ν} {now : Instant} {fresh : Uuid}
    {d : Dial} {reply : Reply (Wired ν) Teleop.Dialled}
    (hr : (net.transport : Transport (Wired ν) ι).connect now fresh d w.channel = .ok reply) :
    Linkless config era (w.taking reply.channel reply.events) := by
  unfold Network.transport at hr
  dsimp only at hr
  split at hr
  · cases hr
  · obtain rfl := Except.ok.inj hr
    cases accepted : (w.channel.channel.connect net.names (net.bind w.channel.network d.localPort)
        (net.clock w.channel.network now) fresh d).error with
    | none => exact ⟨.waiting _, nofun, h.dialled net rfl accepted wanted⟩
    | some e =>
      rw [Channel.connect_of_error accepted]
      exact ⟨.away, nofun, h.calm (.settling net)⟩

omit hW in
theorem coupled_dial (number : Nat) (port : Int) {w : World (Wired ν) π}
    (h : Coupled config era .away [] w) (wanted : w.session.connectRequested = true) :
    Yields (W.dial number port) w fun _ w' => Linkless config era w' := by
  refine (yields_bind _ _).2 ((calm_log _ _ _ _).mono fun _ w₁ c₁ => ?_)
  refine (yields_bind _ _).2 ((calm_record rfl _).mono fun _ w₂ c₂ => ?_)
  have h₂ := (h.calm c₁).calm c₂
  have wanted := c₂.wanted (c₁.wanted wanted)
  refine (yields_bind _ _).2 (yields_get.2 ((yields_bind _ _).2 ((yields_lift _).2 ?_)))
  rw [hnet]
  intro reply hr
  refine (yields_bind _ _).2 (yields_adopt.2 ?_)
  refine upholds_iff.1 ?_ _ (linkless_connect h₂ wanted hr)
  refine .bind (linkless_of_calm (calm_modify (fun _ => rfl) (fun _ => rfl) fun _ => rfl))
    fun _ => ?_
  split
  · exact linkless_of_calm (calm_log _ _ _)
  · exact .pure _

omit hnet hW in
theorem calm_nextPort : Keeps World.Calm W.nextPort := by
  have recorded (es : List PortEvent) :
      Keeps World.Calm (recordAll (es.map Event.ofPorts) : Act (Wired ν) π Unit) := by
    refine fun w => (yields_modify _).2 ⟨fun sound => ⟨es.map Event.ofPorts, ?_, ?_⟩, ?_, id⟩
    · exact .of_eq sound rfl (by simp [World.history])
    · intro e he
      obtain ⟨e', _, rfl⟩ := List.mem_map.1 he
      cases e' <;> rfl
    · exact .of_eq rfl
  exact .bind .get fun _ => .bind (calm_modify (fun _ => rfl) (fun _ => rfl) fun _ => rfl) fun _ =>
    .bind (recorded _) fun _ => .pure _

omit hW in
theorem coupled_attempt (number : Nat) {w : World (Wired ν) π}
    (h : Coupled config era .away [] w) (wanted : w.session.connectRequested = true) :
    Yields (W.attempt number) w fun _ w' => Linkless config era w' := by
  refine (yields_bind _ _).2 ((calm_record rfl w).mono fun _ w₁ c₁ => ?_)
  refine (yields_bind _ _).2 ((calm_count _ w₁).mono fun _ w₂ c₂ => ?_)
  refine (yields_bind _ _).2 ((calm_nextPort w₂).mono fun port w₃ c₃ => ?_)
  have h₃ := ((h.calm c₁).calm c₂).calm c₃
  cases port with
  | error reason => exact (calm_log _ _ _ w₃).mono fun _ _ c => ⟨.away, nofun, h₃.calm c⟩
  | ok port => exact coupled_dial hnet number port h₃ (c₃.wanted (c₂.wanted (c₁.wanted wanted)))

/-- Making sure of a link: afterwards an old one that lagged is gone, and if the attempts are spent
there is none. -/
theorem coupled_ensureConnected {era' : Era} (floor : era'.floor = era.floor)
    {w : World (Wired ν) π} (h : Coupled W.config era st [] w)
    (h' : W.lagging w = false → Coupled W.config era' st [] w)
    (wanted : w.session.connectRequested = true) :
    Yields W.ensureConnected w fun kept w' => AtRest W.config era' w' ∧
      (kept = false → Coupled W.config era' .away [] w') := by
  have onlyMove := hW.onlyMove fun w w' h => (World.NetworkStep.environmentStep w w' h).passing
  refine (yields_bind _ _).2 (((coupled_enforceLiveness hnet hW h).and
    (gentle_moves.enforceLiveness onlyMove w)).mono ?_)
  rintro _ w₁ ⟨enforced, moves⟩
  have wanted₁ := moves.wanting wanted
  obtain ⟨st₁, h₁⟩ : AtRest W.config era' w₁ := by
    rcases enforced with ⟨_, h₁⟩ | ⟨late, rfl⟩
    · exact ⟨_, h₁.of_away floor rfl rfl id⟩
    · exact ⟨_, h' late⟩
  refine (yields_bind _ _).2 (yields_get.2 ((yields_bind _ _).2 ?_))
  refine (calm_record rfl w₁).mono fun _ w₂ c₂ => ?_
  have h₂ := h₁.calm c₂
  have wanted₂ := c₂.wanted wanted₁
  refine (yields_ite _ _).2 ⟨fun _ => (yields_pure _).2 ⟨⟨_, h₂⟩, nofun⟩, fun idle => ?_⟩
  obtain rfl : st₁ = .away := by
    rw [← h₁.standing, Channel.standing_eq_away]
    rw [hnet] at idle
    exact Option.not_isSome_iff_eq_none.1 idle
  refine (yields_ite _ _).2 ⟨fun _ => (yields_pure _).2 ⟨⟨_, h₂⟩, fun _ => h₂⟩, fun _ => ?_⟩
  refine (yields_bind _ _).2 ((yields_modify _).2 ?_)
  have h₃ : Coupled W.config era' .away [] (w₂.remember fun s => { s with tries := s.tries + 1 }) :=
    h₂.calm (.remembering (fun h => ⟨h, rfl⟩) id)
  refine (yields_bind _ _).2 ((coupled_attempt hnet _ h₃ wanted₂).mono ?_)
  rintro _ w₄ ⟨st₄, -, h₄⟩
  have updated := upholds_iff.1 (coupled_update hnet hW) w₄ ⟨st₄, h₄⟩
  refine (yields_bind _ _).2 (updated.mono fun _ w₅ h₅ => ?_)
  exact (yields_pure _).2 ⟨h₅, nofun⟩

theorem coupled_maintain {era' : Era} (floor : era'.floor = era.floor) {w : World (Wired ν) π}
    (h : Coupled W.config era st [] w)
    (h' : W.lagging w = false ∨ w.session.connectRequested = false →
      Coupled W.config era' st [] w) :
    Yields W.maintain w fun _ w' => AtRest W.config era' w' := by
  refine (yields_bind _ _).2 (yields_get.2 ?_)
  cases wanted : w.session.connectRequested with
  | false => exact (yields_pure _).2 ⟨_, h' (.inr wanted)⟩
  | true =>
    refine (yields_bind _ _).2 ?_
    refine (coupled_ensureConnected hnet hW floor h (fun late => h' (.inl late)) wanted).mono ?_
    rintro kept w₁ ⟨h₁, spent⟩
    cases kept with
    | true => exact (yields_pure _).2 h₁
    | false =>
      have h₂ : Coupled W.config era' .away [] (w₁.remember discardWork) :=
        (spent rfl).of_away rfl rfl rfl id
      refine (yields_bind _ _).2 ((yields_bind _ _).2 ((yields_modify _).2 ?_))
      refine (yields_bind _ _).2 ((calm_record rfl _).mono fun _ w₃ c₃ => ?_)
      refine (yields_bind _ _).2 (yields_get.2 ((yields_bind _ _).2 ?_))
      refine (calm_count _ w₃).mono fun _ w₄ c₄ => ?_
      refine (calm_log _ _ _ w₄).mono fun _ w₅ c₅ => (yields_pure _).2 ?_
      exact ⟨_, ((h₂.calm c₃).calm c₄).calm c₅⟩

/-! ## Ticks -/

omit hW in
theorem coupled_dispatch (request : Option Message) (pending : List Message) :
    Upholds (Coupled config era st []) (W.dispatch request pending) := by
  refine upholds_iff.2 fun w h => ?_
  refine (yields_bind _ _).2 (yields_get.2 ((yields_bind _ _).2 ((yields_modify _).2 ?_)))
  have h : Coupled config era st [] (W.weighing w) := h.calm (.noting rfl)
  refine (yields_ite _ _).2 ⟨fun hr => ?_, fun _ => ?_⟩
  · obtain ⟨link, rfl, beaten⟩ := h.ready (Bool.and_eq_true_iff.1 hr).2
    have sent (label : Label) (ms : List (Option Message)) :
        Upholds (Beating config era link []) (W.sendAll label ms) :=
      .forM fun m _ => beating_send hnet label m
    have due : Upholds (Beating config era link []) (takeDue : Act (Wired ν) π _) :=
      beating_of_calm clerical_calm.takeDue
    have work : Upholds (Beating config era link []) (W.sendWork request pending) :=
      .bind (sent _ _) fun _ => .bind (sent _ _) fun _ => .bind due fun _ => sent _ _
    exact (work _).mono fun _ _ h' => (h' ⟨h, beaten⟩).coupled
  · exact upholds_iff.1 (upholds_of_calm (clerical_calm.putBack request pending)) _ h

/-- What a tick does once the transport has worked. -/
theorem coupled_rest {era' : Era} (floor : era'.floor = era.floor) (request : Option Message)
    (pending : List Message) {w : World (Wired ν) π} (h : Coupled W.config era st [] w)
    (h' : W.lagging w = false ∨ w.session.connectRequested = false →
      Coupled W.config era' st [] w) :
    Yields (do
      if ← W.maintain then W.dispatch request pending else W.dispatch none []
      W.publish true
      return true) w fun _ w' => AtRest W.config era' w' := by
  refine (yields_bind _ _).2 ((coupled_maintain hnet hW floor h h').mono ?_)
  rintro kept w₁ ⟨st₁, h₁⟩
  have rest (request : Option Message) (pending : List Message) :
      Upholds (Coupled W.config era' st₁ []) (W.dispatch request pending >>= fun _ =>
        W.publish true >>= fun _ => pure true) :=
    .bind (coupled_dispatch hnet request pending) fun _ =>
      .bind (coupled_publish hnet hW true) fun _ => .pure _
  cases kept with
  | true => exact (upholds_iff.1 (rest _ _) w₁ h₁).mono fun _ _ h => ⟨st₁, h⟩
  | false => exact (upholds_iff.1 (rest _ _) w₁ h₁).mono fun _ _ h => ⟨st₁, h⟩

theorem coupled_tick : Upholds (AtRest W.config era) W.tick := by
  refine upholds_iff.2 fun w h => (yields_bind _ _).2 (yields_get.2 ?_)
  refine (yields_ite _ _).2 ⟨fun _ => (yields_pure _).2 h, fun _ => ?_⟩
  refine (yields_bind _ _).2 ((upholds_iff.1 (atRest_of_calm clerical_calm.takeWork) w h).mono ?_)
  rintro ⟨request, pending⟩ w₁ ⟨st₁, h₁⟩
  refine (yields_bind _ _).2 ((coupled_resetLink hnet h₁).mono fun _ w₂ h₂ => ?_)
  have h₂ : AtRest W.config era w₂ := h₂.elim (⟨_, ·⟩) (⟨_, ·.1⟩)
  refine (yields_bind _ _).2 ((upholds_iff.1 (coupled_update hnet hW) w₂ h₂).mono ?_)
  rintro _ w₃ ⟨st₃, h₃⟩
  exact coupled_rest hnet hW rfl request pending h₃ fun _ => h₃

/-! ## Shutdown -/

omit hW in
theorem dropped_drainTransport (polls : Nat) :
    Upholds (Dropped config era) (W.drainTransport polls) := by
  have poll : Upholds (Dropped config era) W.poll := by
    refine upholds_iff.2 fun w h => (yields_bind _ _).2 ?_
    refine (upholds_iff.1 (dropped_update hnet) w h).mono fun _ w₁ h₁ => ?_
    refine (yields_bind _ _).2 (yields_get.2 ?_)
    rw [hnet]
    exact yields_adopt.2 h₁
  induction polls with
  | zero => exact .bind poll fun _ => .pure _
  | succ polls ih => exact .bind poll fun _ => .ite ih (.pure _)

omit hnet hW in
theorem dropped_noteDrain (drained : Bool) :
    Upholds (Dropped config era) (W.noteDrain drained) := by
  have calm : Keeps World.Calm (W.noteDrain drained) := .ite (.pure _) (calm_log _ _ _)
  refine fun w => (calm w).mono fun _ w' c h => h.calm ⟨fun sound => ?_, nofun, c.wanted⟩
  obtain ⟨es, g, quiet⟩ := c.grown sound
  exact ⟨es, ⟨g.history, g.moved, g.standing⟩, quiet⟩

theorem coupled_shutdown (polls : Nat) : Upholds (AtRest W.config era) (W.shutdown polls) := by
  refine upholds_iff.2 fun w ⟨st, h⟩ => ?_
  refine (yields_bind _ _).2 ((coupled_disconnect hnet h).mono fun _ w₁ h₁ => ?_)
  have drained := upholds_iff.1 (dropped_drainTransport hnet polls) w₁ h₁
  refine (yields_bind _ _).2 (drained.mono fun drained w₂ h₂ => ?_)
  have noted := upholds_iff.1 (dropped_noteDrain (W := W) drained) w₂ h₂
  refine (yields_bind _ _).2 (noted.mono fun _ w₃ h₃ => ?_)
  refine (yields_bind _ _).2 ((yields_modify _).2 ?_)
  have h₄ : Coupled W.config era .away [] (w₃.remember fun s =>
      { discardWork s with running := false, ready := false }) := h₃.of_away rfl rfl rfl nofun
  refine (yields_bind _ _).2 ((calm_record rfl _).mono fun _ w₅ c₅ => ?_)
  refine (yields_bind _ _).2 (yields_get.2 ((yields_bind _ _).2 ?_))
  refine (calm_count _ w₅).mono fun _ w₆ c₆ => (yields_bind _ _).2 ?_
  have h₆ := (h₄.calm c₅).calm c₆
  refine (upholds_iff.1 (coupled_publish hnet hW true) w₆ h₆).mono fun _ w₇ h₇ => ?_
  exact (calm_log _ _ _ w₇).mono fun _ _ c₈ => ⟨_, h₇.calm c₈⟩

/-! ## Runs -/

theorem coupled_step {w w' : World (Wired ν) π} (h : AtRest W.config era w)
    (hs : W.Step World.NetworkStep w w') : AtRest W.config era w' := by
  cases hs with
  | call c r hc =>
    obtain ⟨st, h⟩ := h
    exact ⟨st, coupled_perform hnet c w r w' hc h⟩
  | tick more ht => exact coupled_tick hnet hW w more w' ht h
  | shutdown polls hs => exact coupled_shutdown hnet hW polls w () w' hs h
  | outside ho =>
    obtain ⟨st, h⟩ := h
    exact ⟨st, h.calm ho.calm⟩

omit hnet hW in
/-- Nothing has happened, and the channel is new. -/
theorem Fresh.coupled {w : World (Wired ν) π} (h : W.Fresh w) {c : ChannelConfig}
    (hc : w.channel.channel = Channel.new c) : Coupled config {} .away [] w := by
  have session := h.session_eq
  have history := h.history
  constructor
  · rw [hc]
    exact Channel.sound_new c
  · rw [hc]
    exact .nil _
  · exact absurd rfl
  · simp [session]
  · exact Nat.zero_le _
  · simp [Standing.link?]
  · simp [Standing.link?]
  · simp [hc, Channel.new]
  · simp
  · simp [history]
  · simp
  · simp
  · simp [history, InOrder]

/-- Whatever happens, a session stays coupled with its channel. -/
theorem Reaches.coupled {w₀ w : World (Wired ν) π} (h₀ : W.Fresh w₀) {c : ChannelConfig}
    (hc : w₀.channel.channel = Channel.new c) (h : W.Reaches World.NetworkStep w₀ w) :
    AtRest W.config {} w := by
  induction h with
  | refl => exact ⟨_, h₀.coupled hc⟩
  | tail _ hs ih => exact coupled_step hnet hW ih hs

end Wiring

end Teleop
