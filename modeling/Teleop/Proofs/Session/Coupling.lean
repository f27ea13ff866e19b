import Teleop.Proofs.Session.Frames
import Teleop.Proofs.Session.Runs

/-!
# How a session and its channel stay together

A session over a datagram channel learns what becomes of its link through notices, which it takes in
one after the other while the channel is already further on. `Coupled` says how the two are related
in between: the notices that are left tell how the channel got from where the session believes it to
be to where it is. What the session believes is enough for its own decisions: a ready session has a
link that is up and has had a heartbeat on that very link, and a link is there only as long as one
is wanted.

* `Coupled.turn`: what has to be shown of a change, whatever it is;
* `Coupled.calm`: changes that touch nothing of all this;
* `Coupled.connected`, `Coupled.heard`, `Coupled.dropped`: the session takes in a notice;
* `Coupled.updated`, `Coupled.disconnected`, `Coupled.dialled`: the channel does something.
-/

namespace Teleop

open Relation

variable {ν π ι : Type}

/-- Which links a session may have: those with a number from `floor` on, and an old one. -/
structure Era where
  floor : Nat := 0
  old : Option Nat := none

def Era.Admits (era : Era) (link : Nat) : Prop :=
  era.floor ≤ link ∨ era.old = some link

/-- A session that believes its channel to stand as `st` and has yet to take in the notices `ns`. -/
structure Coupled (config : SessionConfig) (era : Era) (st : Standing) (ns : List (Nat × Notice))
    (w : World (Wired ν) π) : Prop where
  sound : w.channel.channel.Sound
  told : st.Told ns w.channel.channel.standing
  wanted : st ≠ .away → w.session.connectRequested = true
  ready : w.session.ready = true → ∃ link, st = .up link ∧ Beaten link w.history
  floor : era.floor ≤ w.channel.channel.opened
  link : ∀ link, st.link? = some link → link < w.channel.channel.opened ∧ era.Admits link
  closed : ∀ link, st.link? = some link →
    w.channel.channel.standing.link? = some link ∨ .link (.closed link) ∈ w.history
  inbox : ∀ i ∈ w.channel.channel.inbox, .link (.received i.1 i.2) ∈ w.history
  pending : ∀ n ∈ ns, ∀ m, n.2 = .message (some m) → ∃ body,
    .link (.received n.1 (Frame.data body)) ∈ w.history ∧ Message.decode body = .ok m
  used : ∀ e ∈ w.history, ∀ link, e.use? = some link → link < w.channel.channel.opened
  unused : ∀ link, st = .waiting link → ∀ e ∈ w.history, e.use? ≠ some link
  greeted : ∀ link, st = .up link →
    ∃ session, .noticed (some link) (.connected session) ∈ w.history
  inOrder : InOrder config [] w.history

namespace World

/-- The channel moves on and the history grows by some events, those of the channel among them. -/
structure Grown (w : World (Wired ν) π) (es : List Event) (w' : World (Wired ν) π) : Prop where
  history : w'.history = w.history ++ es
  moved : ∃ events, w.channel.channel.Moved events w'.channel.channel ∧
    ∀ e ∈ events, Event.ofChannel e ∈ es
  standing : w'.channel.channel.standing = w.channel.channel.standing

/-- The channel stays as it is. -/
theorem Grown.of_eq {w w' : World (Wired ν) π} {es : List Event} (h : w.channel.channel.Sound)
    (channel : w'.channel.channel = w.channel.channel) (history : w'.history = w.history ++ es) :
    w.Grown es w' where
  history := history
  moved := by
    rw [channel]
    exact ⟨[], .refl h, by simp⟩
  standing := by rw [channel]

theorem Grown.noting {w : World (Wired ν) π} (h : w.channel.channel.Sound) (e : Event) :
    w.Grown [e] (w.note e) :=
  .of_eq h rfl (by simp)

theorem Grown.sound {w w' : World (Wired ν) π} {es : List Event} (h : w.Grown es w') :
    w'.channel.channel.Sound := by
  obtain ⟨_, moved, _⟩ := h.moved
  exact moved.sound

theorem Grown.trans {w w' w'' : World (Wired ν) π} {es es' : List Event} (h : w.Grown es w')
    (h' : w'.Grown es' w'') : w.Grown (es ++ es') w'' where
  history := by rw [h'.history, h.history, List.append_assoc]
  moved := by
    obtain ⟨events, moved, sub⟩ := h.moved
    obtain ⟨events', moved', sub'⟩ := h'.moved
    refine ⟨_, moved.trans moved', fun e he => List.mem_append.2 ?_⟩
    exact (List.mem_append.1 he).imp (sub e) (sub' e)
  standing := by rw [h'.standing, h.standing]

/-- The session has not taken in a heartbeat. -/
def Unbeaten {χ : Type} (w w' : World χ π) : Prop :=
  w'.session.ready = true →
    w.session.ready = true ∧ w'.session.lastHeartbeat = w.session.lastHeartbeat

instance {χ : Type} : IsPreorder (World χ π) Unbeaten where
  refl _ h := ⟨h, rfl⟩
  trans _ _ _ h h' hr := by
    obtain ⟨hr, beat'⟩ := h' hr
    obtain ⟨hr, beat⟩ := h hr
    exact ⟨hr, beat'.trans beat⟩

theorem Unbeaten.of_eq {χ : Type} {w w' : World χ π} (h : w'.session = w.session) :
    w.Unbeaten w' := by
  intro hr
  rw [h] at hr ⊢
  exact ⟨hr, rfl⟩

/-- A change that has nothing to do with the link. -/
structure Calm (w w' : World (Wired ν) π) : Prop where
  grown : w.channel.channel.Sound → ∃ es, w.Grown es w' ∧ ∀ e ∈ es, e.use? = none
  unbeaten : w.Unbeaten w'
  wanted : w.session.connectRequested = true → w'.session.connectRequested = true

instance : IsPreorder (World (Wired ν) π) Calm where
  refl w := ⟨fun sound => ⟨[], .of_eq sound rfl (by simp), by simp⟩, .of_eq rfl, id⟩
  trans _ _ _ h h' := by
    refine ⟨fun sound => ?_, IsTrans.trans _ _ _ h.unbeaten h'.unbeaten, h'.wanted ∘ h.wanted⟩
    obtain ⟨es, g, quiet⟩ := h.grown sound
    obtain ⟨es', g', quiet'⟩ := h'.grown g.sound
    exact ⟨_, g.trans g', List.forall_mem_append.2 ⟨quiet, quiet'⟩⟩

end World

namespace Coupled

variable {config : SessionConfig} {era : Era} {st st' : Standing} {ns ns' : List (Nat × Notice)}
  {w w' : World (Wired ν) π} {es : List Event} {events : List ChannelEvent}

/-- What remains to be shown of a change: what the session believes then, that the notices that are
left tell the rest, and that the new events are in order. -/
theorem turn (h : Coupled config era st ns w) (history : w'.history = w.history ++ es)
    (moved : w.channel.channel.Moved events w'.channel.channel)
    (sub : ∀ e ∈ events, Event.ofChannel e ∈ es) (inOrder : InOrder config w.history es)
    (use : ∀ e ∈ es, ∀ link, e.use? = some link →
      link < w'.channel.channel.opened ∧ st' ≠ .waiting link)
    (told : st'.Told ns' w'.channel.channel.standing)
    (wanted : st' ≠ .away → w'.session.connectRequested = true)
    (ready : w'.session.ready = true → ∃ link, st' = .up link ∧ Beaten link w'.history)
    (link : ∀ link, st'.link? = some link →
      link < w'.channel.channel.opened ∧ era.Admits link ∧
        (w'.channel.channel.standing.link? = some link ∨ .link (.closed link) ∈ w'.history))
    (pending : ∀ n ∈ ns', n ∈ ns ∨ Channel.Grounded w.channel.channel.inbox n)
    (unused : ∀ link, st' = .waiting link → ∀ e ∈ w.history, e.use? ≠ some link)
    (greeted : ∀ link, st' = .up link →
      ∃ session, .noticed (some link) (.connected session) ∈ w'.history) :
    Coupled config era st' ns' w' where
  sound := moved.sound
  told := told
  wanted := wanted
  ready := ready
  floor := Nat.le_trans h.floor moved.opened
  link l hl := ⟨(link l hl).1, (link l hl).2.1⟩
  closed l hl := (link l hl).2.2
  inbox i hi := by
    rw [history, List.mem_append]
    exact (moved.inbox i hi).imp (h.inbox i) (sub _)
  pending n hn m hm := by
    rw [history]
    rcases pending n hn with hn | grounded
    · obtain ⟨body, received, decoded⟩ := h.pending n hn m hm
      exact ⟨body, List.mem_append_left _ received, decoded⟩
    · obtain ⟨body, received, decoded⟩ := grounded m hm
      exact ⟨body, List.mem_append_left _ (h.inbox _ received), decoded⟩
  used e he l hl := by
    rw [history] at he
    rcases List.mem_append.1 he with he | he
    · exact Nat.lt_of_lt_of_le (h.used e he l hl) moved.opened
    · exact (use e he l hl).1
  unused l hl e he hu := by
    rw [history] at he
    rcases List.mem_append.1 he with he | he
    · exact unused l hl e he hu
    · exact (use e he l hu).2 hl
  greeted := greeted
  inOrder := by
    rw [history]
    exact h.inOrder.append inOrder

/-- The session goes on believing what it believed. -/
theorem grown (h : Coupled config era st ns w) (g : w.Grown es w')
    (inOrder : InOrder config w.history es)
    (use : ∀ e ∈ es, ∀ link, e.use? = some link → st = .up link)
    (wanted : w.session.connectRequested = true → w'.session.connectRequested = true)
    (ready : w'.session.ready = true → w.session.ready = true) : Coupled config era st ns w' := by
  obtain ⟨events, moved, sub⟩ := g.moved
  have mem {e : Event} (he : e ∈ w.history) : e ∈ w'.history := by
    rw [g.history]
    exact List.mem_append_left _ he
  have below {l : Nat} (hl : st.link? = some l) : l < w'.channel.channel.opened :=
    Nat.lt_of_lt_of_le (h.link l hl).1 moved.opened
  refine h.turn g.history moved sub inOrder ?_ ?_ (wanted ∘ h.wanted) ?_ ?_ (fun _ => .inl)
    h.unused ?_
  · intro e he l hl
    have up := use e he l hl
    refine ⟨below (by rw [up]; rfl), ?_⟩
    rw [up]
    nofun
  · rw [g.standing]
    exact h.told
  · intro hr
    obtain ⟨l, up, beaten⟩ := h.ready (ready hr)
    refine ⟨l, up, ?_⟩
    rw [g.history]
    exact beaten.append es
  · intro l hl
    refine ⟨below hl, (h.link l hl).2, ?_⟩
    rw [g.standing]
    exact (h.closed l hl).imp_right mem
  · intro l hl
    obtain ⟨session, hs⟩ := h.greeted l hl
    exact ⟨session, mem hs⟩

/-- The session has taken in a message. -/
theorem heard {link link' : Nat} {m : Option Message}
    (h : Coupled config era (.up link) ((link', .message m) :: ns) w) :
    Coupled config era (.up link) ns w where
  __ := h
  told := by
    cases h.told with
    | cons heard told =>
      cases heard
      exact told
  pending n hn := h.pending n (List.mem_cons_of_mem _ hn)

/-- The session hears that its link has ended. -/
theorem dropped {link : Nat} {reason : Text}
    (h : Coupled config era st ((link, .disconnected reason) :: ns) w)
    (unready : w.session.ready = false) : Coupled config era .away ns w where
  sound := h.sound
  told := by
    cases h.told with
    | cons heard told =>
      cases heard with
      | dropped => exact told
      | ended => exact told
  wanted := absurd rfl
  ready hr := by
    rw [unready] at hr
    cases hr
  floor := h.floor
  link := nofun
  closed := nofun
  inbox := h.inbox
  pending n hn := h.pending n (List.mem_cons_of_mem _ hn)
  used := h.used
  unused := nofun
  greeted := nofun
  inOrder := h.inOrder

/-- Without a link there is little to know. -/
theorem of_away {era' : Era} (h : Coupled config era .away ns w) (floor : era'.floor = era.floor)
    (channel : w'.channel = w.channel) (history : w'.history = w.history)
    (ready : w'.session.ready = true → w.session.ready = true) :
    Coupled config era' .away ns w' where
  sound := channel ▸ h.sound
  told := channel ▸ h.told
  wanted := absurd rfl
  ready hr := by
    obtain ⟨_, up, _⟩ := h.ready (ready hr)
    cases up
  floor := by
    rw [floor, channel]
    exact h.floor
  link := nofun
  closed := nofun
  inbox := by
    rw [channel, history]
    exact h.inbox
  pending := history ▸ h.pending
  used := by
    rw [channel, history]
    exact h.used
  unused := nofun
  greeted := nofun
  inOrder := history ▸ h.inOrder

theorem unready (h : Coupled config era .away ns w) : w.session.ready = false := by
  rw [Bool.eq_false_iff]
  intro hr
  obtain ⟨_, up, _⟩ := h.ready hr
  cases up

/-- From now on there are only new links, apart from the one that is there. -/
theorem rebased (h : Coupled config era st ns w) :
    Coupled config ⟨w.channel.channel.opened, st.link?⟩ st ns w where
  __ := h
  floor := Nat.le_refl _
  link l hl := ⟨(h.link l hl).1, .inr hl⟩

/-- The session has offered the handshake to a link that came up. -/
theorem connected {link : Nat} {session : Text} {entry : Log.Entry} {start add : List Event}
    (h : Coupled config era (.waiting link) ((link, .connected session) :: ns) w)
    (told : (Standing.up link).Told ns w.channel.channel.standing)
    (g : w.Grown (.noticed (some link) (.connected session) :: .logged .session entry ::
      (start ++ add)) w')
    (hstart : Offered link w.history (Message.buildStartEngine config.handshakeHost) start)
    (hadd : Offered link w.history
      (Message.buildForceAddAgent config.agentId config.agentIp config.agentSimulated) add)
    (hs : w'.session = { w.session with ready := false }) :
    Coupled config era (.up link) ns w' := by
  obtain ⟨events, moved, sub⟩ := g.moved
  have below : link < w'.channel.channel.opened :=
    Nat.lt_of_lt_of_le (h.link link rfl).1 moved.opened
  have offered {e : Event} (he : e ∈ start ++ add) : e.use? = none ∨ e.use? = some link :=
    (List.mem_append.1 he).elim hstart.use? hadd.use?
  refine h.turn g.history moved sub ?_ ?_ ?_ ?_ ?_ ?_ ?_ nofun ?_
  · refine ⟨⟨?_, nofun⟩, orderly_of_use?_eq_none rfl _ _, ?_⟩
    · rintro _ _ ⟨⟩
      exact ⟨h.unused link rfl, entry, start, add, [], by simp, hstart, hadd⟩
    · exact (InOrder.of_offered hstart ⟨session, by simp⟩).append
        (.of_offered hadd ⟨session, by simp⟩)
  · intro e he l hl
    have hu : e.use? = none ∨ e.use? = some link := by
      rcases List.mem_cons.1 he with rfl | he
      · exact .inr rfl
      rcases List.mem_cons.1 he with rfl | he
      · exact .inl rfl
      · exact offered he
    rcases hu with hu | hu
    · cases hu.symm.trans hl
    · cases hu.symm.trans hl
      exact ⟨below, nofun⟩
  · rw [g.standing]
    exact told
  · intro _
    rw [hs]
    exact h.wanted nofun
  · intro hr
    rw [hs] at hr
    cases hr
  · rintro _ ⟨⟩
    refine ⟨below, (h.link link rfl).2, ?_⟩
    rw [g.standing, g.history]
    exact (h.closed link rfl).imp_right (List.mem_append_left _)
  · exact fun n hn => .inl (List.mem_cons_of_mem _ hn)
  · rintro _ ⟨⟩
    refine ⟨session, ?_⟩
    rw [g.history]
    simp

/-- Once all notices are taken in, the session knows how its channel stands. -/
theorem standing (h : Coupled config era st [] w) : w.channel.channel.standing = st := by
  cases h.told
  rfl

theorem calm (h : Coupled config era st ns w) (hc : w.Calm w') : Coupled config era st ns w' := by
  obtain ⟨es, g, quiet⟩ := hc.grown h.sound
  refine h.grown g (.of_use?_eq_none quiet) ?_ hc.wanted fun hr => (hc.unbeaten hr).1
  intro e he l hl
  rw [quiet e he] at hl
  cases hl

end Coupled

/-! ## The channel at work -/

/-- The world after the channel did something. -/
def World.taking {χ : Type} (w : World χ π) (channel : χ) (events : List ChannelEvent) :
    World χ π :=
  { w with channel, journal := (events.map Event.ofChannel).reverse ++ w.journal }

@[simp] theorem World.history_taking {χ : Type} (w : World χ π) (channel : χ)
    (events : List ChannelEvent) :
    (w.taking channel events).history = w.history ++ events.map Event.ofChannel := by
  simp [World.history, World.taking]

/-- The world after an operation of the channel, with what comes in then. -/
def World.settling (w : World (Wired ν) π) (net : Network ν)
    (result : Channel × List ChannelEvent) : World (Wired ν) π :=
  w.taking (w.channel.settle net result.1 result.2).1 (w.channel.settle net result.1 result.2).2

@[simp] theorem World.history_settling (w : World (Wired ν) π) (net : Network ν)
    (result : Channel × List ChannelEvent) : (w.settling net result).history =
      w.history ++ (w.channel.settle net result.1 result.2).2.map Event.ofChannel :=
  w.history_taking _ _

theorem Wired.settle_eq (net : Network ν) (x : Wired ν) {c : Channel} (hc : c.Sound)
    (events : List ChannelEvent) : ∃ more,
    (x.settle net c events).2 = events ++ more ∧ c.Moved more (x.settle net c events).1.channel ∧
      (x.settle net c events).1.channel.standing = c.standing ∧
      ∀ e ∈ more, e.isArrival = true :=
  ⟨_, rfl, Channel.arriveAll_eq hc _⟩

namespace Coupled

variable {config : SessionConfig} {era : Era} {st st' : Standing} {ns ns' : List (Nat × Notice)}
  {w w' : World (Wired ν) π} {events evs : List ChannelEvent}

/-- The channel does something that is no sending, and then something may come in. -/
theorem operated (h : Coupled config era st ns w) (net : Network ν) {c : Channel}
    (channel : w'.channel = (w.channel.settle net c events).1)
    (history : w'.history =
      w.history ++ (w.channel.settle net c events).2.map Event.ofChannel)
    (moved : w.channel.channel.Moved evs c) (hevs : ∀ e ∈ evs, e ∈ events)
    (quiet : ∀ e ∈ events, e.isData = false) (told : st'.Told ns' c.standing)
    (wanted : st' ≠ .away → w'.session.connectRequested = true)
    (ready : w'.session.ready = true → w.session.ready = true ∧ st' = st)
    (link : ∀ link, st'.link? = some link → link < c.opened ∧ era.Admits link ∧
      (c.standing.link? = some link ∨ .link (.closed link) ∈ events))
    (pending : ∀ n ∈ ns', n ∈ ns ∨ Channel.Grounded w.channel.channel.inbox n)
    (unused : ∀ link, st' = .waiting link → ∀ e ∈ w.history, e.use? ≠ some link)
    (greeted : ∀ link, st' = .up link → st = .up link) : Coupled config era st' ns' w' := by
  obtain ⟨more, hmore, moved', standing, arrivals⟩ :=
    Wired.settle_eq net w.channel moved.sound events
  rw [← channel] at moved' standing
  rw [hmore] at history
  have quiet : ∀ e ∈ (events ++ more).map Event.ofChannel, e.use? = none := by
    intro e he
    obtain ⟨e', he', rfl⟩ := List.mem_map.1 he
    refine Event.use?_ofChannel ?_
    rcases List.mem_append.1 he' with he' | he'
    · exact quiet e' he'
    · exact ChannelEvent.isData_of_isArrival (arrivals e' he')
  have mem {e : Event} (he : e ∈ w.history) : e ∈ w'.history := by
    rw [history]
    exact List.mem_append_left _ he
  refine h.turn history (moved.trans moved') ?_ (.of_use?_eq_none quiet) ?_ (standing ▸ told) wanted
    ?_ ?_ pending unused ?_
  · intro e he
    refine List.mem_map_of_mem (List.mem_append.2 ?_)
    exact (List.mem_append.1 he).imp_left (hevs e)
  · intro e he l hl
    cases (quiet e he).symm.trans hl
  · intro hr
    obtain ⟨hr, rfl⟩ := ready hr
    obtain ⟨l, up, beaten⟩ := h.ready hr
    refine ⟨l, up, ?_⟩
    rw [history]
    exact beaten.append _
  · intro l hl
    obtain ⟨below, admits, there⟩ := link l hl
    refine ⟨Nat.lt_of_lt_of_le below moved'.opened, admits, ?_⟩
    rw [standing, history]
    refine there.imp_right fun he => List.mem_append_right _ ?_
    exact List.mem_map.2 ⟨_, List.mem_append_left _ he, rfl⟩
  · intro l hl
    obtain ⟨session, hs⟩ := h.greeted l (greeted l hl)
    exact ⟨session, mem hs⟩

/-- An update leaves notices to be taken in. -/
theorem updated (h : Coupled config era st [] w) (net : Network ν)
    {write : Nat → Address → Bytes → Option Text} {times : Channel.Times} {u : Channel.Updated}
    (hu : w.channel.channel.update write times = .ok u) :
    ∃ ns, u.notices = ns.map some ∧
      Coupled config era st ns (w.settling net (u.channel, u.events)) := by
  obtain ⟨ns, hns, progress⟩ := Channel.update_eq_ok h.sound hu
  have hst := h.standing.symm
  refine ⟨ns, hns, h.operated net rfl (by simp) progress.moved (by simp)
    progress.data (hst ▸ progress.told) h.wanted (fun hr => ⟨hr, rfl⟩) ?_
    (fun n hn => .inr (progress.grounded n hn)) h.unused fun _ => id⟩
  intro l hl
  obtain ⟨below, admits⟩ := h.link l hl
  refine ⟨Nat.lt_of_lt_of_le below progress.moved.opened, admits, ?_⟩
  exact progress.closed l (hst ▸ hl)

/-- The session drops its link and is not ready then. -/
theorem disconnected (h : Coupled config era st [] w) (net : Network ν) :
    Coupled config era .away [] ((w.settling net w.channel.channel.disconnect).remember fun s =>
      { s with ready := false }) := by
  obtain ⟨moved, away, quiet⟩ := Channel.disconnect_eq h.sound
  refine h.operated net rfl (by simp) moved (fun _ => id) quiet ?_ (absurd rfl)
    nofun nofun nofun nofun nofun
  rw [away]
  exact .nil _

/-- The session has asked for a link and got one that waits for its welcome. -/
theorem dialled (h : Coupled config era .away [] w) (net : Network ν)
    {names : List (Text × Bytes)} {bound : Option Text} {times : Channel.Times} {nonce : Uuid}
    {d : Dial} {called : Channel.Called Channel.ConnectError}
    (hc : w.channel.channel.connect names bound times nonce d = called)
    (accepted : called.error = none) (wanted : w.session.connectRequested = true) :
    Coupled config era (.waiting w.channel.channel.opened) []
      (w.settling net (called.channel, called.events)) := by
  subst hc
  obtain ⟨-, moved, waiting, quiet⟩ := Channel.connect_accepted h.sound accepted
  have hlink : (w.channel.channel.connect names bound times nonce d).channel.standing.link? =
      some w.channel.channel.opened := by
    rw [waiting]
    rfl
  refine h.operated net rfl (by simp) moved (fun _ => id) quiet ?_ (fun _ => wanted)
    ?_ ?_ nofun ?_ nofun
  · rw [waiting]
    exact .nil _
  · intro hr
    obtain ⟨_, hst, _⟩ := h.ready hr
    cases hst
  · rintro _ ⟨⟩
    exact ⟨moved.sound.lt_opened hlink, .inl h.floor, .inl hlink⟩
  · rintro _ ⟨⟩ e he hu
    exact Nat.lt_irrefl _ (h.used e he _ hu)

end Coupled

end Teleop
