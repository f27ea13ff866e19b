import Teleop.Proofs.Link.Inbox

/-!
# Notices about a link

With all handlers registered, what is raised about one link is at most one session, then messages,
then at most one end; a link that ends without a session has no messages. The messages are those in
datagrams that were delivered on the link, in their order, and each datagram is used once.

* `Recounts` is this form;
* `Channel.Noticed` is the invariant: it says in addition how far the current link has come, and
  splits what was received on a link into what was handled and what is still in the inbox;
* `Course.notices_in_order`: what holds in every course.
-/

namespace Teleop

/-- The message that a datagram carries. -/
def Frame.message? : Bytes → Option Message
  | [] => none
  | kind :: body => if kind = dataByte then (Message.decode body).toOption else none

theorem Frame.message?_data {body : Bytes} {m : Message} (h : Message.decode body = .ok m) :
    message? (dataByte :: body) = some m := by
  simp [message?, h, Except.toOption]

/-! ## The form of the notices about a link -/

/-- The messages of some of the datagrams, in their order. -/
def Relayed (datagrams : List Bytes) (messages : List Message) : Prop :=
  ∃ used : List Bytes, used.Sublist datagrams ∧ used.map Frame.message? = messages.map some

/-- The notices about the current link in a phase, when these datagrams have been handled. -/
def Ongoing : Phase → List Bytes → List Notice → Prop
  | .disconnected, _, _ => False
  | .connecting, _, notices => notices = []
  | .connected, datagrams, notices => ∃ session messages,
    notices = .connected session :: messages.map (fun m => .message (some m)) ∧
      Relayed datagrams messages

/-- The notices about a link on which these datagrams came in. -/
def Recounts (datagrams : List Bytes) (notices : List Notice) : Prop :=
  ∃ greeting messages farewell,
    notices = greeting ++ messages.map (fun m => .message (some m)) ++ farewell ∧
    (greeting = [] ∧ messages = [] ∨ ∃ session, greeting = [.connected session]) ∧
    (farewell = [] ∨ ∃ reason, farewell = [.disconnected reason]) ∧
    Relayed datagrams messages

variable {datagrams more : List Bytes} {messages : List Message} {notices : List Notice}
  {phase : Phase}

theorem relayed_nil (datagrams : List Bytes) : Relayed datagrams [] :=
  ⟨[], List.nil_sublist _, rfl⟩

theorem Relayed.mono (h : Relayed datagrams messages) (sub : datagrams.Sublist more) :
    Relayed more messages := by
  obtain ⟨used, hs, hm⟩ := h
  exact ⟨used, hs.trans sub, hm⟩

theorem Relayed.concat {datagram : Bytes} {m : Message} (h : Relayed datagrams messages)
    (hm : Frame.message? datagram = some m) :
    Relayed (datagrams ++ [datagram]) (messages ++ [m]) := by
  obtain ⟨used, hs, hu⟩ := h
  refine ⟨used ++ [datagram], hs.append (List.Sublist.refl _), ?_⟩
  rw [List.map_append, List.map_append, hu, List.map_singleton, List.map_singleton, hm]

theorem Ongoing.mono (h : Ongoing phase datagrams notices) (sub : datagrams.Sublist more) :
    Ongoing phase more notices := by
  cases phase with
  | disconnected => exact h
  | connecting => exact h
  | connected =>
    obtain ⟨session, messages, hn, hr⟩ := h
    exact ⟨session, messages, hn, hr.mono sub⟩

theorem Recounts.mono (h : Recounts datagrams notices) (sub : datagrams.Sublist more) :
    Recounts more notices := by
  obtain ⟨greeting, messages, farewell, hn, hg, hf, hr⟩ := h
  exact ⟨greeting, messages, farewell, hn, hg, hf, hr.mono sub⟩

/-- At any time the current link may end, or nothing more may come. -/
theorem Ongoing.recounts {farewell : List Notice} (h : Ongoing phase datagrams notices)
    (hf : farewell = [] ∨ ∃ reason, farewell = [.disconnected reason]) :
    Recounts datagrams (notices ++ farewell) := by
  cases phase with
  | disconnected => exact h.elim
  | connecting =>
    obtain rfl : notices = [] := h
    exact ⟨[], [], farewell, rfl, .inl ⟨rfl, rfl⟩, hf, relayed_nil _⟩
  | connected =>
    obtain ⟨session, messages, rfl, hr⟩ := h
    exact ⟨[.connected session], messages, farewell, rfl, .inr ⟨session, rfl⟩, hf, hr⟩

namespace Channel

/-- What was raised about each link fits what was handled of its datagrams. -/
structure Noticed (history : List LinkEvent) (c : Channel) : Prop where
  handlers : c.handlers = {}
  told : c.Consumed (fun link handled => Recounts handled (raisedOn link history) ∧
    ∀ l, c.current = some l → l.id = link → Ongoing c.phase handled (raisedOn link history)) history

variable {c c' : Channel} {h es : List LinkEvent}

/-- Changes that neither raise a notice nor touch the inbox. The current link stays as far as it
was, or is a new one. -/
theorem Noticed.quietly (hn : c.Noticed h) (hc : c.Custody h) (handlers : c'.handlers = c.handlers)
    (inbox : c'.inbox = c.inbox) (raised : ∀ link, raisedOn link es = [])
    (received : ∀ link, receivedOn link es = [])
    (current : ∀ l', c'.current = some l' →
      (c'.phase = c.phase ∧ ∃ l, c.current = some l ∧ l.id = l'.id) ∨
      (c'.phase = .connecting ∧ c.opened ≤ l'.id)) : c'.Noticed (h ++ es) := by
  refine ⟨handlers.trans hn.handlers, hn.told.keep received inbox ?_⟩
  rintro link handled - ⟨recounts, ongoing⟩
  rw [raisedOn_append, raised, List.append_nil]
  refine ⟨recounts, fun l' hl' hid => ?_⟩
  rcases current l' hl' with ⟨phase, l, hl, same⟩ | ⟨phase, new⟩
  · rw [phase]
    exact ongoing l hl (same.trans hid)
  · rw [phase]
    exact (hc.fresh (hid ▸ new)).2.2.2

/-- A datagram leaves the inbox, and what is raised then is about the current link. -/
theorem Noticed.handle {item : Nat × Bytes} {rest : List (Nat × Bytes)} (hn : c.Noticed h)
    (hin : c.inbox = item :: rest) (handlers : c'.handlers = c.handlers)
    (inbox : c'.inbox = rest) (current : c'.current = c.current)
    (received : ∀ link, receivedOn link es = [])
    (others : ∀ link, (∀ l, c.current = some l → l.id ≠ link) → raisedOn link es = [])
    (ongoing : ∀ l handled, c.current = some l → Ongoing c.phase handled (raisedOn l.id h) →
      Ongoing c'.phase (handled ++ ofLink l.id [item]) (raisedOn l.id h ++ raisedOn l.id es)) :
    c'.Noticed (h ++ es) := by
  refine ⟨handlers.trans hn.handlers, hn.told.take hin received inbox ?_⟩
  rintro link handled ⟨recounts, going⟩
  rw [raisedOn_append]
  -- Only the current link can come further.
  by_cases hl : ∃ l, c.current = some l ∧ l.id = link
  · obtain ⟨l, hl, rfl⟩ := hl
    have going' := ongoing l handled hl (going l hl rfl)
    refine ⟨?_, fun _ _ _ => going'⟩
    have recounts' := going'.recounts (.inl rfl)
    rwa [List.append_nil] at recounts'
  · have other : ∀ l, c.current = some l → l.id ≠ link := fun l h h' => hl ⟨l, h, h'⟩
    rw [others link other, List.append_nil]
    refine ⟨recounts.mono (List.sublist_append_left _ _), fun l h h' => ?_⟩
    rw [current] at h
    exact absurd h' (other l h)

/-- The current link ends, and this is raised about it. -/
theorem Noticed.ended {l : Link} {reason : Text} (hn : c.Noticed h) (hl : c.current = some l) :
    { c with current := none, phase := .disconnected, session := [] }.Noticed
      (h ++ (LinkEvent.closed l.id ::
        LinkEvent.raisedIf c.handlers.disconnected l.id (.disconnected reason))) := by
  have received : ∀ link, receivedOn link (.closed l.id ::
      LinkEvent.raisedIf c.handlers.disconnected l.id (.disconnected reason)) = [] :=
    fun link => receivedOn_raisedIf ..
  have raised : ∀ link, raisedOn link (.closed l.id ::
      LinkEvent.raisedIf c.handlers.disconnected l.id (.disconnected reason)) =
      if l.id = link then [.disconnected reason] else [] := by
    intro link
    split
    · next same =>
      subst same
      exact raisedOn_raisedIf_self _ _ (by rw [hn.handlers])
    · next other => exact raisedOn_raisedIf_of_ne _ _ _ other
  refine ⟨hn.handlers, hn.told.keep received rfl ?_⟩
  rintro link handled - ⟨recounts, going⟩
  rw [raisedOn_append, raised]
  refine ⟨?_, nofun⟩
  split
  · next same => exact (going l hl same).recounts (.inr ⟨reason, rfl⟩)
  · rwa [List.append_nil]

theorem Work.noticed (hw : Work c es c') (hc : c.Custody h) (hn : c.Noticed h) :
    c'.Noticed (h ++ es) := by
  cases hw with
  | skipped hin =>
    refine hn.handle hin rfl rfl rfl (fun _ => rfl) (fun _ _ => rfl) ?_
    intro l handled hl going
    rw [show raisedOn l.id [] = [] from rfl, List.append_nil]
    exact going.mono (List.sublist_append_left _ _)
  | @welcomed l body rest session hl hin waits hb =>
    refine hn.handle hin rfl rfl rfl (fun link => receivedOn_raisedIf ..)
      (fun link other => raisedOn_raisedIf_of_ne _ _ _ (other l hl)) ?_
    intro l' handled hl' going
    obtain rfl : l = l' := Option.some.inj (hl.symm.trans hl')
    rw [waits] at going
    rw [show raisedOn l.id h = [] from going,
      raisedOn_raisedIf_self _ _ (by rw [hn.handlers])]
    exact ⟨session, [], rfl, relayed_nil _⟩
  | @told l body rest m hl hin up hm =>
    refine hn.handle hin rfl rfl rfl (fun link => receivedOn_raisedIf ..)
      (fun link other => raisedOn_raisedIf_of_ne _ _ _ (other l hl)) ?_
    intro l' handled hl' going
    obtain rfl : l = l' := Option.some.inj (hl.symm.trans hl')
    rw [up] at going
    obtain ⟨session, messages, hn', relayed⟩ := going
    rw [show Channel.phase _ = _ from up, hn', raisedOn_raisedIf_self _ _ (by rw [hn.handlers]),
      ofLink_cons, if_pos rfl]
    refine ⟨session, messages ++ [m], by simp, ?_⟩
    exact relayed.concat (Frame.message?_data hm)
  | ended hl reason => exact hn.ended hl
  | @greeted l hl room =>
    refine hn.quietly hc rfl rfl (fun _ => rfl) (fun _ => rfl) ?_
    rintro _ ⟨⟩
    exact .inl ⟨rfl, l, hl, rfl⟩
  | @wrote l frame left hl hq =>
    refine hn.quietly hc rfl rfl (fun _ => rfl) (fun _ => rfl) ?_
    rintro _ ⟨⟩
    exact .inl ⟨rfl, l, hl, rfl⟩
  | timed | wroteClosing | finished =>
    exact hn.quietly hc rfl rfl (fun _ => rfl) (fun _ => rfl)
      fun l hl => .inl ⟨rfl, l, hl, rfl⟩

theorem Change.noticed (hw : Change c es c') (hc : c.Custody h) (hn : c.Noticed h) :
    c'.Noticed (h ++ es) := by
  cases hw with
  | work hw => exact hw.noticed hc hn
  | opened port remote now nonce identity =>
    refine hn.quietly hc rfl rfl (fun _ => rfl) (fun _ => rfl) ?_
    rintro _ ⟨⟩
    exact .inr ⟨rfl, Nat.le_refl _⟩
  | @sent l payload hl up room =>
    refine hn.quietly hc rfl rfl (fun _ => rfl) (fun _ => rfl) ?_
    rintro _ ⟨⟩
    exact .inl ⟨rfl, l, hl, rfl⟩
  | dropped | lost => exact hn.quietly hc rfl rfl (fun _ => rfl) (fun _ => rfl) nofun
  | @received l datagram hl =>
    have raised : ∀ link, raisedOn link (h ++ [.received l.id datagram]) = raisedOn link h := by
      intro link
      rw [raisedOn_append]
      exact List.append_nil _
    refine ⟨hn.handlers, hn.told.receive rfl ?_⟩
    rintro link handled ⟨recounts, ongoing⟩
    rw [raised]
    exact ⟨recounts, ongoing⟩
  | failed id reason =>
    refine hn.quietly hc rfl rfl (fun _ => rfl) (fun _ => rfl) ?_
    intro l' hl'
    obtain ⟨l, hl, rfl⟩ := Option.map_eq_some_iff.1 hl'
    exact .inl ⟨rfl, l, hl, (Link.fail_id ..).symm⟩

theorem Noticed.close (hn : c.Noticed h) (hc : c.Custody h) :
    c.close.1.Noticed (h ++ c.links.map fun l => .closed l.id) := by
  refine hn.quietly hc rfl rfl (fun link => ?_) (fun link => ?_) nofun
  · rw [raisedOn, raisedIn, filterMap_closed fun _ => rfl, ofLink_nil]
  · rw [receivedOn, filterMap_closed fun _ => rfl, ofLink_nil]

end Channel

/-! ## Notices in a course -/

/-- No turn took a handler away. -/
def Course.Handled (s : Course) : Prop :=
  ∀ t ∈ s.turns, ∀ handlers, t.deed = .register handlers → handlers = {}

theorem Course.Handled.prior {s : Course} {c : Channel} {t : Turn}
    (h : (⟨c, s.turns ++ [t]⟩ : Course).Handled) : s.Handled :=
  fun t ht => h t (List.mem_append_left _ ht)

namespace Reached

variable {config : ChannelConfig} {s : Course}

theorem noticed (h : Reached config {} s) (all : s.Handled) : s.channel.Noticed s.history := by
  refine h.keep ⟨rfl, fun link => ⟨[], rfl, ?_, nofun⟩⟩ Channel.Change.noticed
    (fun hc hn => hn.close hc) fun handlers ⟨t, ht, hd⟩ hn => ⟨all t ht handlers hd, hn.told⟩
  exact ⟨[], [], [], rfl, .inl ⟨rfl, rfl⟩, .inl rfl, relayed_nil _⟩

/-- The notices to raise are those in the history. -/
theorem notices_eq (h : Reached config {} s) (all : s.Handled) :
    s.notices = (raisedIn s.history).map some := by
  induction h with
  | start => rfl
  | step hr hs ih =>
    obtain ⟨e, done, rfl⟩ := hr.done hs
    have all := all.prior
    have raised := done.notices_eq (hr.noticed all).handlers
    rw [Course.history_concat, raisedIn_append, List.map_append, ← raised, ← ih all]
    simp [Course.notices]

/-- There are no notices about a link in the turns after the one that drops it. -/
theorem silent_of_drops (h : Reached config {} s) (all : s.Handled) :
    s.turns.Pairwise fun t t' =>
      ∀ l, t.drops? = some l → ∀ n, some (l.id, n) ∉ t'.effect.notices := by
  induction h with
  | start => exact .nil
  | step hr hs ih =>
    obtain ⟨e, done, rfl⟩ := hr.done hs
    have all := all.prior
    refine List.pairwise_append.2 ⟨ih all, List.pairwise_singleton .., ?_⟩
    intro t ht _ ht' l drops n told
    obtain rfl := List.mem_singleton.1 ht'
    have silent := (done.gone (hr.gone ht drops)).2.2
    rw [done.notices_eq (hr.noticed all).handlers] at told
    have raised : n ∈ raisedOn l.id e.events := mem_ofLink.2 (by simpa using told)
    rw [silent] at raised
    cases raised

end Reached

/-- What is raised about each link when no handler is ever missing. There is no gap in the notices;
those about one link have their form, and are about datagrams that were taken in from its remote
address; and no turn after a link was dropped by a call raises anything about it. -/
theorem Course.notices_in_order (config : ChannelConfig) (deeds : List Deed)
    (always : ∀ handlers, .register handlers ∈ deeds → handlers = {}) :
    ∃ s, run { channel := .new config } deeds = .ok s ∧ none ∉ s.notices ∧
      (∀ link, Recounts (receivedOn link s.history) (ofLink link (s.notices.filterMap id)) ∧
        (receivedOn link s.history).Sublist (s.turns.filterMap (Turn.delivers? link))) ∧
      s.turns.Pairwise fun t t' =>
        ∀ l, t.drops? = some l → ∀ n, some (l.id, n) ∉ t'.effect.notices := by
  obtain ⟨s, hrun, hs⟩ := run_reached config {} deeds
  have all : s.Handled := by
    obtain ⟨ts, hts, hds⟩ := run_turns hrun
    intro t ht handlers hd
    rw [hts, List.nil_append] at ht
    exact always handlers (hds ▸ hd ▸ List.mem_map_of_mem ht)
  refine ⟨s, hrun, ?_, fun link => ⟨?_, hs.received_sublist link⟩, hs.silent_of_drops all⟩
  · rw [hs.notices_eq all]
    simp
  · obtain ⟨handled, hr, recounts, -⟩ := (hs.noticed all).told link
    have same : ofLink link (s.notices.filterMap id) = raisedOn link s.history := by
      rw [hs.notices_eq all, List.filterMap_map, Function.id_comp, List.filterMap_some]
    rw [same, hr]
    exact recounts.mono (List.sublist_append_left _ _)

/-- A peer grants a session, sends a message and says goodbye; a second message comes too late. The
next link is dropped before its welcome is handled. -/
def Course.visit : List Deed :=
  let peer : Address := ⟨Address.loopbackIp, 40000⟩
  let connect : Deed :=
    .connect [([112], Address.loopbackIp)] none ⟨.zero, .zero⟩ .zero ⟨[], 0, [112], 40000⟩
  let beat := Frame.data (Kind.agentStatus.tag :: List.replicate Kind.agentStatus.bodySize 0)
  let update : Deed := .update (fun _ _ _ => none) ⟨.zero, .zero⟩
  [.register {}, connect, .arrive (.datagram 0 peer (Frame.welcome .zero [115])),
    .arrive (.datagram 0 peer beat), .arrive (.datagram 0 peer Frame.bye),
    .arrive (.datagram 0 peer beat), update, connect,
    .arrive (.datagram 1 peer (Frame.welcome .zero [115])), .disconnect, update]

theorem Course.notices_in_order_visit :
    (∀ handlers, .register handlers ∈ visit → handlers = {}) ∧
    ∃ s, run { channel := .new {} } visit = .ok s ∧
      Recounts (receivedOn 0 s.history) (ofLink 0 (s.notices.filterMap id)) ∧
      (ofLink 0 (s.notices.filterMap id)).length = 3 ∧
      Recounts (receivedOn 1 s.history) (ofLink 1 (s.notices.filterMap id)) ∧
      (receivedOn 1 s.history).length = 1 ∧ s.notices.length = 3 := by
  have always : ∀ handlers, .register handlers ∈ visit → handlers = {} := by
    simp [visit]
  have counts : (run { channel := .new {} } visit).toOption.map (fun s =>
      ((ofLink 0 (s.notices.filterMap id)).length, (receivedOn 1 s.history).length,
        s.notices.length)) = some (3, 1, 3) := by
    decide +kernel
  obtain ⟨s, hrun, -, told, -⟩ := notices_in_order {} visit always
  rw [hrun] at counts
  simp only [Except.toOption, Option.map_some, Option.some.injEq, Prod.mk.injEq] at counts
  exact ⟨always, s, hrun, (told 0).1, counts.1, (told 1).1, counts.2⟩

/-- A message, and then the end of the link at the wish of the peer. -/
example :
    Course.after (Deed.greetPeer .zero ++
        [.fromPeer (Frame.data (((Message.agentStatus 2 (utf8 "idle")).encode).toOption.getD [])),
          .fromPeer Frame.bye, .flushAt .zero]) (fun s => (s.channel.active, s.notices.drop 1)) =
      some (false, [some (0, .message (some (.agentStatus 2 (utf8 "idle")))),
        some (0, .disconnected (utf8 "closed by remote"))]) := by
  decide +kernel

/-- No answer comes in time. -/
example :
    Course.after [.dialPeer, .flushAt .zero, .flushAt (Instant.zero.add 30000000)]
        (fun s => (s.channel.active, s.notices)) { connectTimeout := 30000000 } =
      some (false, [some (0, .disconnected (utf8 "connect timed out"))]) := by
  decide +kernel

end Teleop
