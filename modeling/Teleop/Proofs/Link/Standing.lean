import Teleop.Proofs.Link.Course

/-!
# How a channel stands with its link

A channel has no link, waits for a link to be granted, or has a link that is up. The notices of an
update tell its user, in their order, how it got from one standing to the next.

* `Channel.Sound`: the phase and the current link agree, and all links were opened by the channel;
* `Standing.Told`: what a sequence of notices tells;
* `Channel.update_eq_ok`: what an update comes to;
* `Channel.connect_accepted`, `Channel.disconnect_eq`, `Channel.send_accepted`, `Channel.arrive_eq`:
  the same for the other operations.
-/

namespace Teleop

/-- How a channel stands with its link. -/
inductive Standing where
  /-- There is no link. -/
  | away
  /-- The link with this number waits for its welcome. -/
  | waiting (link : Nat)
  /-- The link with this number is up. -/
  | up (link : Nat)
  deriving DecidableEq, Repr

namespace Standing

/-- The link, if there is one. -/
def link? : Standing → Option Nat
  | away => none
  | waiting link | up link => some link

/-- What one notice tells. -/
inductive Hears : Standing → Nat × Notice → Standing → Prop
  | connected (link : Nat) (session : Text) :
    Hears (waiting link) (link, .connected session) (up link)
  | message (link : Nat) (m : Message) : Hears (up link) (link, .message (some m)) (up link)
  | dropped (link : Nat) (reason : Text) : Hears (waiting link) (link, .disconnected reason) away
  | ended (link : Nat) (reason : Text) : Hears (up link) (link, .disconnected reason) away

/-- What a sequence of notices tells. -/
inductive Told : Standing → List (Nat × Notice) → Standing → Prop
  | nil (s : Standing) : Told s [] s
  | cons {s s' s'' : Standing} {n : Nat × Notice} {ns : List (Nat × Notice)} (h : Hears s n s')
    (hs : Told s' ns s'') : Told s (n :: ns) s''

namespace Told

variable {s s' s'' : Standing} {ns : List (Nat × Notice)}

theorem single {n : Nat × Notice} (h : Hears s n s') : Told s [n] s' :=
  .cons h (.nil s')

theorem append {ns' : List (Nat × Notice)} (h : Told s ns s') (h' : Told s' ns' s'') :
    Told s (ns ++ ns') s'' := by
  induction h with
  | nil => exact h'
  | cons h _ ih => exact .cons h (ih h')

/-- Without a link there is nothing to tell. -/
theorem of_away (h : Told away ns s) : ns = [] ∧ s = away := by
  cases h with
  | nil => exact ⟨rfl, rfl⟩
  | cons h => cases h

/-- A link that is up stays so until it ends. -/
theorem of_up {link : Nat} (h : Told (up link) ns s) : s = up link ∨ s = away := by
  generalize hs : up link = s₀ at h
  induction h with
  | nil =>
    subst hs
    exact .inl rfl
  | cons h hs' ih =>
    subst hs
    cases h with
    | message m => exact ih rfl
    | ended => exact .inr hs'.of_away.2

end Told

end Standing

/-- A datagram is taken in, or something is logged. -/
def ChannelEvent.isArrival : ChannelEvent → Bool
  | .link (.received ..) | .logged _ => true
  | _ => false

/-- A data frame is accepted. -/
def ChannelEvent.isData : ChannelEvent → Bool
  | .link (.accepted _ (kind :: _)) => kind == Frame.dataByte
  | _ => false

namespace Channel

/-- The phase and the current link agree, every link was opened by the channel, and there are
handlers for all notices. -/
structure Sound (c : Channel) : Prop where
  phase : c.phase = .disconnected ↔ c.current = none
  current : ∀ l, c.current = some l → l.id < c.opened
  closing : ∀ l ∈ c.closing, l.id < c.opened
  inbox : ∀ i ∈ c.inbox, i.1 < c.opened
  handlers : c.handlers = {}

/-- How the channel stands. -/
def standing (c : Channel) : Standing :=
  match c.current with
  | none => .away
  | some l => if c.phase = .connected then .up l.id else .waiting l.id

theorem sound_new (config : ChannelConfig) : (new config).Sound where
  phase := by simp [new]
  current := by simp [new]
  closing := by simp [new]
  inbox := by simp [new]
  handlers := rfl

variable {c c' : Channel}

theorem standing_eq_away : c.standing = .away ↔ c.current = none := by
  unfold standing
  cases c.current with
  | none => simp
  | some l => by_cases h : c.phase = .connected <;> simp [h]

theorem standing_eq_up {link : Nat} :
    c.standing = .up link ↔ c.phase = .connected ∧ ∃ l, c.current = some l ∧ l.id = link := by
  unfold standing
  cases c.current with
  | none => simp
  | some l => by_cases h : c.phase = .connected <;> simp [h]

theorem standing_eq_waiting {link : Nat} :
    c.standing = .waiting link ↔ c.phase ≠ .connected ∧ ∃ l, c.current = some l ∧ l.id = link := by
  unfold standing
  cases c.current with
  | none => simp
  | some l => by_cases h : c.phase = .connected <;> simp [h]

theorem link?_standing (c : Channel) : c.standing.link? = c.current.map (·.id) := by
  unfold standing
  cases c.current with
  | none => rfl
  | some l => by_cases h : c.phase = .connected <;> simp [h, Standing.link?]

theorem Sound.lt_opened (h : c.Sound) {link : Nat} (hl : c.standing.link? = some link) :
    link < c.opened := by
  rw [link?_standing] at hl
  obtain ⟨l, hcur, rfl⟩ := Option.map_eq_some_iff.1 hl
  exact h.current l hcur

/-- What every operation of a sound channel guarantees: the numbers of links are not used again, and
datagrams are taken in only as they are received. -/
structure Moved (c : Channel) (events : List ChannelEvent) (c' : Channel) : Prop where
  sound : c'.Sound
  opened : c.opened ≤ c'.opened
  inbox : ∀ i ∈ c'.inbox, i ∈ c.inbox ∨ .link (.received i.1 i.2) ∈ events

/-- A change that opens no link and takes nothing in. -/
theorem Moved.of_sound {events : List ChannelEvent} (h : c'.Sound) (opened : c'.opened = c.opened)
    (inbox : c'.inbox = c.inbox) : c.Moved events c' :=
  ⟨h, Nat.le_of_eq opened.symm, fun _ hi => .inl (inbox ▸ hi)⟩

theorem Moved.refl (h : c.Sound) : c.Moved [] c :=
  .of_sound h rfl rfl

theorem Moved.trans {c'' : Channel} {events events' : List ChannelEvent} (h : c.Moved events c')
    (h' : c'.Moved events' c'') : c.Moved (events ++ events') c'' where
  sound := h'.sound
  opened := Nat.le_trans h.opened h'.opened
  inbox := by
    intro i hi
    rcases h'.inbox i hi with hi | hi
    · rcases h.inbox i hi with hi | hi
      · exact .inl hi
      · exact .inr (List.mem_append_left _ hi)
    · exact .inr (List.mem_append_right _ hi)

/-! ## Sockets -/

theorem mem_of_link? {id : Nat} {l : Link} (h : c.link? id = some l) :
    l.id = id ∧ (c.current = some l ∨ l ∈ c.closing) := by
  have hid := List.find?_some h
  have hmem := List.mem_of_find?_eq_some h
  refine ⟨by simpa using hid, ?_⟩
  simpa [Option.mem_toList] using hmem

theorem receive_eq (hc : c.Sound) (id : Nat) (sender : Address) (datagram : Bytes) :
    c.Moved (c.receive id sender datagram).2 (c.receive id sender datagram).1 ∧
      (c.receive id sender datagram).1.standing = c.standing ∧
      ∀ e ∈ (c.receive id sender datagram).2, e.isArrival = true := by
  have same : c.Moved [] c ∧ c.standing = c.standing ∧ ∀ e ∈ ([] : List ChannelEvent),
      e.isArrival = true := ⟨.refl hc, rfl, by simp⟩
  unfold receive
  split
  · exact same
  · next l hl =>
    have hid : id < c.opened := by
      obtain ⟨heq, hl⟩ := mem_of_link? hl
      rw [← heq]
      rcases hl with hl | hl
      · exact hc.current l hl
      · exact hc.closing l hl
    dsimp only
    split
    · exact same
    split
    · refine ⟨⟨hc, Nat.le_refl _, fun _ hi => .inl hi⟩, rfl, ?_⟩
      simp [ChannelEvent.isArrival]
    · refine ⟨⟨⟨hc.phase, hc.current, hc.closing, ?_, hc.handlers⟩, Nat.le_refl _, ?_⟩, rfl, ?_⟩
      · intro i hi
        rcases List.mem_append.1 hi with hi | hi
        · exact hc.inbox i hi
        · rw [List.mem_singleton.1 hi]
          exact hid
      · intro i hi
        rcases List.mem_append.1 hi with hi | hi
        · exact .inl hi
        · rw [List.mem_singleton.1 hi]
          exact .inr List.mem_cons_self
      · simp [ChannelEvent.isArrival]

theorem failRead_eq (hc : c.Sound) (id : Nat) (reason : Text) :
    c.Moved [] (c.failRead id reason) ∧ (c.failRead id reason).standing = c.standing := by
  refine ⟨.of_sound ⟨?_, ?_, ?_, hc.inbox, hc.handlers⟩ rfl rfl, ?_⟩
  · simpa [failRead] using hc.phase
  · intro l hl
    obtain ⟨l', hl', rfl⟩ := Option.map_eq_some_iff.1 hl
    rw [Link.fail_id]
    exact hc.current l' hl'
  · intro l hl
    obtain ⟨l', hl', rfl⟩ := List.mem_map.1 hl
    rw [Link.fail_id]
    exact hc.closing l' hl'
  · rw [standing, standing]
    cases hl : c.current with
    | none => simp [failRead, hl]
    | some l => simp [failRead, hl]

theorem arrive_eq (hc : c.Sound) (a : Arrival) :
    c.Moved (c.arrive a).2 (c.arrive a).1 ∧ (c.arrive a).1.standing = c.standing ∧
      ∀ e ∈ (c.arrive a).2, e.isArrival = true := by
  cases a with
  | datagram link sender bytes => exact receive_eq hc link sender bytes
  | failure link reason =>
    obtain ⟨moved, standing⟩ := failRead_eq hc link reason
    exact ⟨moved, standing, by simp [arrive]⟩

theorem arriveAll_eq (hc : c.Sound) (as : List Arrival) :
    c.Moved (c.arriveAll as).2 (c.arriveAll as).1 ∧ (c.arriveAll as).1.standing = c.standing ∧
      ∀ e ∈ (c.arriveAll as).2, e.isArrival = true := by
  induction as generalizing c with
  | nil => exact ⟨.refl hc, rfl, by simp [arriveAll]⟩
  | cons a rest ih =>
    obtain ⟨moved, standing, arrivals⟩ := arrive_eq hc a
    obtain ⟨moved', standing', arrivals'⟩ := ih moved.sound
    refine ⟨moved.trans moved', standing'.trans standing, ?_⟩
    intro e he
    rcases List.mem_append.1 he with he | he
    · exact arrivals e he
    · exact arrivals' e he

/-! ## Calls -/

theorem enqueue_eq_some {l l' : Link} {frame : Bytes} (h : c.enqueue l frame = some l') :
    l'.id = l.id := by
  unfold enqueue at h
  split at h
  · cases h
  · cases h
    rfl

theorem greet_eq (c : Channel) (l : Link) :
    (c.greet l).1.id = l.id ∧ ∀ e ∈ (c.greet l).2, e.isData = false := by
  unfold greet
  dsimp only
  split
  · next l' hl' =>
    refine ⟨enqueue_eq_some hl', ?_⟩
    simp [ChannelEvent.isData, Frame.hello, Frame.helloByte, Frame.dataByte]
  · simp

/-- A link that is opened waits under a new number. -/
theorem openLink_eq (hc : c.Sound) (remote : Address) (times : Times)
    (nonce : Uuid) (d : Dial) :
    c.Moved (c.openLink remote times nonce d).events (c.openLink remote times nonce d).channel ∧
      (c.openLink remote times nonce d).channel.standing = .waiting c.opened ∧
      ∀ e ∈ (c.openLink remote times nonce d).events, e.isData = false := by
  unfold openLink
  dsimp only
  obtain ⟨hid, events⟩ := greet_eq { c with
    phase := .connecting, nonce, identity := d.identity, session := []
    connectStarted := times.now, lastHello := times.hello, opened := c.opened + 1 }
    { id := c.opened, remote }
  refine ⟨⟨⟨by simp, ?_, ?_, ?_, hc.handlers⟩, Nat.le_succ _, fun _ hi => .inl hi⟩, ?_, ?_⟩
  · rintro l ⟨⟩
    rw [hid]
    exact Nat.lt_succ_self _
  · exact fun l hl => Nat.lt_succ_of_lt (hc.closing l hl)
  · exact fun i hi => Nat.lt_succ_of_lt (hc.inbox i hi)
  · exact standing_eq_waiting.2 ⟨by simp, _, rfl, hid⟩
  · intro e he
    rcases List.mem_append.1 he with he | he
    · rcases List.mem_cons.1 he with rfl | he
      · rfl
      · exact events e he
    · rw [List.mem_singleton.1 he]
      rfl

theorem connect_accepted {names : List (Text × Bytes)} {bound : Option Text} {times : Times}
    {nonce : Uuid} {d : Dial} (hc : c.Sound)
    (h : (c.connect names bound times nonce d).error = none) :
    c.current = none ∧
      c.Moved (c.connect names bound times nonce d).events
        (c.connect names bound times nonce d).channel ∧
      (c.connect names bound times nonce d).channel.standing = .waiting c.opened ∧
      ∀ e ∈ (c.connect names bound times nonce d).events, e.isData = false := by
  rcases c.connect_cases names bound times nonce d with ⟨e, refused⟩ | ⟨hl, remote, -, opened⟩
  · rw [refused] at h
    cases h
  · rw [opened]
    exact ⟨hl, openLink_eq hc remote times nonce d⟩

/-- Dropping a link that is there or not leaves none. -/
theorem disconnect_eq (hc : c.Sound) :
    c.Moved c.disconnect.2 c.disconnect.1 ∧ c.disconnect.1.standing = .away ∧
      ∀ e ∈ c.disconnect.2, e.isData = false := by
  unfold disconnect detach
  cases hcur : c.current with
  | none => exact ⟨.refl hc, standing_eq_away.2 hcur, by simp⟩
  | some l =>
    dsimp only
    split
    · next result heq =>
      split at heq
      · cases heq
        refine ⟨.of_sound ⟨by simp, by simp, ?_, hc.inbox, hc.handlers⟩ rfl rfl, rfl, ?_⟩
        · intro l' hl'
          rcases List.mem_append.1 hl' with hl' | hl'
          · exact hc.closing l' hl'
          · rw [List.mem_singleton.1 hl']
            exact hc.current l hcur
        · simp [ChannelEvent.isData, Frame.bye, Frame.byeByte, Frame.dataByte]
      · cases heq
        refine ⟨.of_sound ⟨by simp, by simp, hc.closing, hc.inbox, hc.handlers⟩ rfl rfl, rfl, ?_⟩
        simp [ChannelEvent.isData]
    · next heq => split at heq <;> cases heq

/-- A message that is accepted joins the frames of the link that is up. -/
theorem send_accepted {m : Message} (hc : c.Sound) (h : (c.send m).error = none) :
    c.Moved (c.send m).events (c.send m).channel ∧
      ∃ link payload, m.encode = .ok payload ∧ c.standing = .up link ∧
        (c.send m).channel.standing = .up link ∧
        (c.send m).events = [.link (.accepted link (Frame.data payload))] := by
  rcases c.send_cases m with ⟨e, refused⟩ | ⟨l, payload, encoded, up, hl, -, sent⟩
  · rw [refused] at h
    cases h
  · rw [sent]
    refine ⟨.of_sound ⟨by simp [up], ?_, hc.closing, hc.inbox, hc.handlers⟩ rfl rfl, l.id, payload,
      encoded, standing_eq_up.2 ⟨up, l, hl, rfl⟩, standing_eq_up.2 ⟨up, _, rfl, rfl⟩, rfl⟩
    rintro _ ⟨⟩
    exact hc.current l hl

theorem send_refused {m : Message} {e : SendError} (h : (c.send m).error = some e) :
    (∃ e', m.encode = .error e') ∨ (e = .notConnected ∧ ∀ link, c.standing ≠ .up link) ∨
      e = .outboundFull := by
  unfold send at h
  split at h
  · next e' he' => exact .inl ⟨e', he'⟩
  · split at h
    · split at h
      · cases h
      · cases h
        exact .inr (.inr rfl)
    · next hno =>
      cases h
      refine .inr (.inl ⟨rfl, fun link hup => ?_⟩)
      obtain ⟨hphase, l, hcur, -⟩ := standing_eq_up.1 hup
      exact hno l hphase hcur

/-! ## Updates -/

/-- A message that a notice tells of came in as a datagram. -/
def Grounded (inbox : List (Nat × Bytes)) (n : Nat × Notice) : Prop :=
  ∀ m, n.2 = .message (some m) →
    ∃ body, (n.1, Frame.dataByte :: body) ∈ inbox ∧ Message.decode body = .ok m

/-- What an update comes to: the notices tell how the standing changed, messages came in as
datagrams, no data is accepted, and a link that is gone was closed. -/
structure Progress (c : Channel) (ns : List (Nat × Notice)) (events : List ChannelEvent)
    (c' : Channel) : Prop where
  moved : c.Moved [] c'
  told : c.standing.Told ns c'.standing
  grounded : ∀ n ∈ ns, Grounded c.inbox n
  data : ∀ e ∈ events, e.isData = false
  closed : ∀ link, c.standing.link? = some link →
    c'.standing.link? = some link ∨ .link (.closed link) ∈ events

namespace Progress

variable {ns ns' : List (Nat × Notice)} {es es' : List LinkEvent}

theorem refl (hc : c.Sound) : c.Progress [] [] c :=
  ⟨.refl hc, .nil _, by simp, by simp, fun _ hl => .inl hl⟩

theorem trans {c'' : Channel} {events events' : List ChannelEvent} (h : c.Progress ns events c')
    (h' : c'.Progress ns' events' c'') : c.Progress (ns ++ ns') (events ++ events') c'' where
  moved := h.moved.trans h'.moved
  told := h.told.append h'.told
  grounded := by
    intro n hn
    rcases List.mem_append.1 hn with hn | hn
    · exact h.grounded n hn
    · intro m hm
      obtain ⟨body, hin, hd⟩ := h'.grounded n hn m hm
      rcases h.moved.inbox _ hin with hin | hin
      · exact ⟨body, hin, hd⟩
      · cases hin
  data := List.forall_mem_append.2 ⟨h.data, h'.data⟩
  closed := by
    intro link hl
    rcases h.closed link hl with hl | hin
    · exact (h'.closed link hl).imp_right (List.mem_append_right _)
    · exact .inr (List.mem_append_left _ hin)

/-- A step that nobody is told of. -/
theorem silently (sound : c'.Sound) (opened : c'.opened = c.opened)
    (inbox : ∀ i ∈ c'.inbox, i ∈ c.inbox) (standing : c'.standing = c.standing)
    (data : ∀ e ∈ es, (ChannelEvent.link e).isData = false) :
    c.Progress [] (es.map .link) c' where
  moved := ⟨sound, Nat.le_of_eq opened.symm, fun i hi => .inl (inbox i hi)⟩
  told := standing ▸ .nil _
  grounded := by simp
  data := List.forall_mem_map.2 data
  closed := by
    rw [standing]
    exact fun _ hl => .inl hl

end Progress

variable {es : List LinkEvent}

/-- A step of an update tells its user what happens to the link. -/
theorem Work.progress (h : Work c es c') (hc : c.Sound) :
    c.Progress (raisedIn es) (es.map .link) c' := by
  have handlers := hc.handlers
  cases h with
  | skipped hin idle =>
    have fewer : ∀ i ∈ _, i ∈ c.inbox := fun i hi => hin ▸ List.mem_cons_of_mem _ hi
    exact .silently
      ⟨hc.phase, hc.current, hc.closing, fun i hi => hc.inbox i (fewer i hi), handlers⟩
      rfl fewer rfl (by simp)
  | @welcomed l body rest session hl hin waits hb =>
    have fewer : ∀ i ∈ rest, i ∈ c.inbox := fun i hi => hin ▸ List.mem_cons_of_mem _ hi
    have before : c.standing = .waiting l.id := standing_eq_waiting.2 ⟨by simp [waits], l, hl, rfl⟩
    have after : ({ c with inbox := rest, phase := .connected, session } : Channel).standing =
        .up l.id := standing_eq_up.2 ⟨rfl, l, hl, rfl⟩
    rw [LinkEvent.raisedIf_of_handled (by rw [handlers])]
    refine ⟨⟨⟨by simp [hl], hc.current, hc.closing, fun i hi => hc.inbox i (fewer i hi), handlers⟩,
      Nat.le_refl _, fun i hi => .inl (fewer i hi)⟩, ?_, ?_, ?_, ?_⟩
    · rw [before, after]
      exact .single (.connected l.id session)
    · simp [Grounded]
    · simp [ChannelEvent.isData]
    · rw [before, after]
      exact fun _ hl => .inl hl
  | @told l body rest m hl hin up hm =>
    have fewer : ∀ i ∈ rest, i ∈ c.inbox := fun i hi => hin ▸ List.mem_cons_of_mem _ hi
    have stands : c.standing = .up l.id := standing_eq_up.2 ⟨up, l, hl, rfl⟩
    rw [LinkEvent.raisedIf_of_handled (by rw [handlers])]
    refine ⟨⟨⟨hc.phase, hc.current, hc.closing, fun i hi => hc.inbox i (fewer i hi), handlers⟩,
      Nat.le_refl _, fun i hi => .inl (fewer i hi)⟩, ?_, ?_, ?_, fun _ hl => .inl hl⟩
    · change c.standing.Told _ c.standing
      rw [stands]
      exact .single (.message l.id m)
    · rw [show raisedIn _ = [(l.id, Notice.message (some m))] from rfl, List.forall_mem_singleton]
      rintro m' ⟨⟩
      exact ⟨body, hin ▸ List.mem_cons_self, hm⟩
    · simp [ChannelEvent.isData]
  | @ended l hl reason =>
    rw [LinkEvent.raisedIf_of_handled (by rw [handlers])]
    refine ⟨.of_sound ⟨iff_of_true rfl rfl, nofun, hc.closing, hc.inbox, handlers⟩ rfl rfl,
      ?_, ?_, ?_, ?_⟩
    · by_cases hphase : c.phase = .connected
      · rw [standing_eq_up.2 ⟨hphase, l, hl, rfl⟩]
        exact .single (.ended l.id reason)
      · rw [standing_eq_waiting.2 ⟨hphase, l, hl, rfl⟩]
        exact .single (.dropped l.id reason)
    · simp [Grounded]
    · simp [ChannelEvent.isData]
    · intro link hlink
      rw [link?_standing, hl] at hlink
      obtain rfl : l.id = link := Option.some.inj hlink
      exact .inr (by simp)
  | @greeted l hl room =>
    have hid := hc.current l hl
    refine .silently ⟨by simpa [hl] using hc.phase, ?_, hc.closing, hc.inbox, handlers⟩ rfl
      (fun _ hi => hi) (by simp [standing, hl]) ?_
    · rintro _ ⟨⟩
      exact hid
    · simp [ChannelEvent.isData, Frame.hello, Frame.helloByte, Frame.dataByte]
  | timed now =>
    exact .silently ⟨hc.phase, hc.current, hc.closing, hc.inbox, handlers⟩ rfl (fun _ hi => hi) rfl
      (by simp)
  | @wrote l frame left hl hq =>
    have hid := hc.current l hl
    refine .silently ⟨by simpa [hl] using hc.phase, ?_, hc.closing, hc.inbox, handlers⟩ rfl
      (fun _ hi => hi) (by simp [standing, hl]) (by simp [ChannelEvent.isData])
    rintro _ ⟨⟩
    exact hid
  | @wroteClosing before after l frame left hl hq =>
    have hid := hl ▸ hc.closing
    refine .silently ⟨hc.phase, hc.current, ?_, hc.inbox, handlers⟩ rfl (fun _ hi => hi) rfl
      (by simp [ChannelEvent.isData])
    simp only [List.forall_mem_append, List.forall_mem_cons] at hid ⊢
    exact hid
  | @finished before after l hl hq =>
    have hid := hl ▸ hc.closing
    refine .silently ⟨hc.phase, hc.current, ?_, hc.inbox, handlers⟩ rfl (fun _ hi => hi) rfl
      (by simp [ChannelEvent.isData])
    simp only [List.forall_mem_append, List.forall_mem_cons] at hid ⊢
    exact ⟨hid.1, hid.2.2⟩

theorem Works.progress (hs : c.Works es c') (hc : c.Sound) :
    c.Progress (raisedIn es) (es.map .link) c' := by
  induction hs with
  | refl => exact .refl hc
  | step _ hw ih =>
    have h := ih.trans (hw.progress ih.moved.sound)
    rwa [← List.map_append, ← List.filterMap_append] at h

/-- An update tells its user everything that happens to its link. -/
theorem update_eq_ok (hc : c.Sound) {write : Nat → Address → Bytes → Option Text} {times : Times}
    {u : Updated} (h : c.update write times = .ok u) :
    ∃ ns, u.notices = ns.map some ∧ c.Progress ns u.events u.channel := by
  obtain ⟨u', hu, worked⟩ := update_works hc.phase.symm write times
  obtain rfl : u' = u := Except.ok.inj (hu.symm.trans h)
  have progress := worked.works.progress hc
  refine ⟨_, worked.notices_eq hc.handlers, progress.moved, progress.told, progress.grounded, ?_,
    ?_⟩
  · intro e he
    cases e with
    | logged entry => rfl
    | link e =>
      refine progress.data _ (List.mem_map_of_mem ?_)
      exact List.mem_filterMap.2 ⟨_, he, rfl⟩
  · intro link hl
    refine (progress.closed link hl).imp_right fun hin => ?_
    obtain ⟨e, he, heq⟩ := List.mem_map.1 hin
    obtain ⟨e', he', heq'⟩ := List.mem_filterMap.1 he
    cases e' with
    | logged entry => cases heq'
    | link e' =>
      cases heq'
      rwa [← heq]

end Channel

end Teleop
