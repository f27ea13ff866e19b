import Teleop.Proofs.Link.Flush
import Teleop.Proofs.Outcome

/-!
# What an update does to a channel

An update is a sequence of elementary steps. Each handles one datagram, ends or greets the current
link, writes one frame or closes one link, and has its events. Statements about updates follow from
what the steps do, one at a time.

* `Channel.Work` is one step of an update and `Channel.Works` is a sequence of them;
* `Channel.Round.Tended` is what holds before the flush, in which nothing was written yet, and
  `Channel.Round.Drained` is what the flush comes to;
* `Channel.update_works` says that an update never breaks off and is such a sequence.
-/

namespace Teleop

/-! ## Steps of an update -/

namespace Channel

/-- The links that are not closed. -/
def links (c : Channel) : List Link :=
  c.current.toList ++ c.closing

/-- The datagram is a welcome that the current link waits for. -/
def Awaits (c : Channel) (item : Nat × Bytes) : Prop :=
  c.phase = .connecting ∧ ∃ l body session, c.current = some l ∧ item.1 = l.id ∧
    item.2 = Frame.welcomeByte :: body ∧
    Frame.nonced? body Frame.sessionSize = some (c.nonce, session)

/-- One step of an update, with its events. -/
inductive Work : Channel → List LinkEvent → Channel → Prop
  | skipped {c : Channel} {item : Nat × Bytes} {rest : List (Nat × Bytes)}
    (hin : c.inbox = item :: rest) (idle : ¬c.Awaits item) : Work c [] { c with inbox := rest }
  | welcomed {c : Channel} {l : Link} {body : Bytes} {rest : List (Nat × Bytes)} {session : Text}
    (hl : c.current = some l) (hin : c.inbox = (l.id, Frame.welcomeByte :: body) :: rest)
    (waits : c.phase = .connecting)
    (hb : Frame.nonced? body Frame.sessionSize = some (c.nonce, session)) :
    Work c (LinkEvent.raisedIf c.handlers.connected l.id (.connected session))
      { c with inbox := rest, phase := .connected, session }
  | told {c : Channel} {l : Link} {body : Bytes} {rest : List (Nat × Bytes)} {m : Message}
    (hl : c.current = some l) (hin : c.inbox = (l.id, Frame.dataByte :: body) :: rest)
    (up : c.phase = .connected) (hm : Message.decode body = .ok m) :
    Work c (LinkEvent.raisedIf c.handlers.message l.id (.message (some m)))
      { c with inbox := rest }
  | ended {c : Channel} {l : Link} (hl : c.current = some l) (reason : Text) :
    Work c (.closed l.id ::
        LinkEvent.raisedIf c.handlers.disconnected l.id (.disconnected reason))
      { c with current := none, phase := .disconnected, session := [] }
  | greeted {c : Channel} {l : Link} (hl : c.current = some l)
    (room : (l.outbound.length : Int) < c.config.maxOutbound) :
    Work c [.accepted l.id (Frame.hello c.nonce c.identity)]
      { c with
        current := some { l with outbound := l.outbound ++ [Frame.hello c.nonce c.identity] } }
  | timed {c : Channel} (now : Instant) : Work c [] { c with lastHello := now }
  | wrote {c : Channel} {l : Link} {frame : Bytes} {left : List Bytes} (hl : c.current = some l)
    (hq : l.outbound = frame :: left) :
    Work c [.written l.id frame] { c with current := some { l with outbound := left } }
  | wroteClosing {c : Channel} {before after : List Link} {l : Link} {frame : Bytes}
    {left : List Bytes} (hl : c.closing = before ++ l :: after) (hq : l.outbound = frame :: left) :
    Work c [.written l.id frame]
      { c with closing := before ++ { l with outbound := left } :: after }
  | finished {c : Channel} {before after : List Link} {l : Link}
    (hl : c.closing = before ++ l :: after) (hq : l.outbound = []) :
    Work c [.closed l.id] { c with closing := before ++ after }

/-- Steps of an update one after the other. -/
inductive Works : Channel → List LinkEvent → Channel → Prop
  | refl (c : Channel) : Works c [] c
  | step {c c' c'' : Channel} {es es' : List LinkEvent} (hs : Works c es c') (h : Work c' es' c'') :
    Works c (es ++ es') c''

variable {c c' c'' : Channel} {es es' : List LinkEvent}

theorem Work.works (h : Work c es c') : c.Works es c' :=
  .step (.refl c) h

theorem Works.trans (h : c.Works es c') (h' : c'.Works es' c'') : c.Works (es ++ es') c'' := by
  induction h' with
  | refl => simpa using h
  | step _ hw ih =>
    rw [← List.append_assoc]
    exact .step ih hw

/-- What every step keeps, with the history so far, holds after all of them. -/
theorem Works.invariant {P : List LinkEvent → Channel → Prop}
    (step : ∀ {h c es c'}, Work c es c' → P h c → P (h ++ es) c') {h : List LinkEvent}
    (hs : c.Works es c') (hp : P h c) : P (h ++ es) c' := by
  induction hs with
  | refl => simpa using hp
  | step _ hw ih =>
    rw [← List.append_assoc]
    exact step hw ih

/-- The phase and the current link agree. -/
def Agrees (c : Channel) : Prop :=
  c.current = none ↔ c.phase = .disconnected

theorem Work.agrees (h : Work c es c') (hc : c.Agrees) : c'.Agrees := by
  unfold Agrees at hc ⊢
  cases h with
  | welcomed hl => simp [hl]
  | ended => simp
  | greeted hl => simpa [hl] using hc
  | wrote hl => simpa [hl] using hc
  | _ => exact hc

theorem Works.agrees (hs : c.Works es c') (hc : c.Agrees) : c'.Agrees :=
  hs.invariant (P := fun _ c => c.Agrees) (h := []) Work.agrees hc

theorem Work.handlers (h : Work c es c') : c'.handlers = c.handlers := by
  cases h <;> rfl

theorem Works.handlers (hs : c.Works es c') : c'.handlers = c.handlers := by
  induction hs with
  | refl => rfl
  | step _ hw ih => rw [hw.handlers, ih]

theorem Work.config (h : Work c es c') : c'.config = c.config := by
  cases h <;> rfl

theorem Works.config (hs : c.Works es c') : c'.config = c.config := by
  induction hs with
  | refl => rfl
  | step _ hw ih => rw [hw.config, ih]

/-- Writing a part of its queue on the current link. -/
theorem Works.writing {l : Link} {written left : List Bytes} (hl : c.current = some l)
    (hq : l.outbound = written ++ left) :
    c.Works (written.map (.written l.id))
      { c with current := some { l with outbound := left } } := by
  induction written generalizing c l with
  | nil =>
    obtain rfl : l.outbound = left := hq
    have same : c = { c with current := some l } := by rw [← hl]
    rw [← same]
    exact .refl c
  | cons f fs ih =>
    refine (Work.wrote hl hq).works.trans ?_
    exact ih (l := { l with outbound := fs ++ left }) rfl rfl

/-- Writing a part of its queue on a closing link. -/
theorem Works.writingClosing {before after : List Link} {l : Link} {written left : List Bytes}
    (hl : c.closing = before ++ l :: after) (hq : l.outbound = written ++ left) :
    c.Works (written.map (.written l.id))
      { c with closing := before ++ { l with outbound := left } :: after } := by
  induction written generalizing c l with
  | nil =>
    obtain rfl : l.outbound = left := hq
    have same : c = { c with closing := before ++ l :: after } := by rw [← hl]
    rw [← same]
    exact .refl c
  | cons f fs ih =>
    refine (Work.wroteClosing hl hq).works.trans ?_
    exact ih (l := { l with outbound := fs ++ left }) rfl rfl

/-- Greeting a link queues a hello if there is room for it. -/
theorem greet_cases (c : Channel) (l : Link) :
    c.greet l = (l, []) ∨ (l.outbound.length : Int) < c.config.maxOutbound ∧
      c.greet l = ({ l with outbound := l.outbound ++ [Frame.hello c.nonce c.identity] },
        [.link (.accepted l.id (Frame.hello c.nonce c.identity))]) := by
  simp only [greet, enqueue]
  by_cases room : c.config.maxOutbound ≤ l.outbound.length
  · exact .inl (by rw [if_pos room])
  · exact .inr ⟨by omega, by rw [if_neg room]⟩

theorem greet_id (c : Channel) (l : Link) : (c.greet l).1.id = l.id := by
  rcases c.greet_cases l with h | ⟨-, h⟩ <;> rw [h]

theorem greet_works {l : Link} (hl : c.current = some l) :
    c.Works (linkEvents (c.greet l).2) { c with current := some (c.greet l).1 } ∧
      raisedIn (linkEvents (c.greet l).2) = [] ∧
      ∀ link, writtenOn link (linkEvents (c.greet l).2) = [] := by
  rcases c.greet_cases l with h | ⟨room, h⟩
  · have same : c = { c with current := some l } := by rw [← hl]
    rw [h, ← same]
    exact ⟨.refl c, rfl, fun _ => rfl⟩
  · rw [h]
    exact ⟨(Work.greeted hl room).works, rfl, fun _ => rfl⟩

/-! ## An update is a sequence of steps -/

namespace Round

/-- The events on links so far. -/
def shown (r : Round) : List LinkEvent :=
  linkEvents r.events.reverse

/-- The channel with the datagrams that are left to handle. -/
def midway (r : Round) (todo : List (Nat × Bytes)) : Channel :=
  { r.channel with inbox := todo }

/-- The update of `c` has come to the round `r` by steps, with the datagrams `todo` left to handle,
and its notices are those that were raised, all of them if there are handlers. -/
structure Traced (c : Channel) (todo : List (Nat × Bytes)) (r : Round) : Prop where
  works : c.Works r.shown (r.midway todo)
  inbox : r.channel.inbox = []
  notices : r.notices.reverse.filterMap id = raisedIn r.shown
  handled : c.handlers = {} → none ∉ r.notices

variable {r r' : Round} {l : Link} {todo todo' : List (Nat × Bytes)}

theorem Traced.agrees (h : Traced c todo r) (hc : c.Agrees) : r.channel.Agrees :=
  h.works.agrees hc

theorem Traced.handlers (h : Traced c todo r) : r.channel.handlers = c.handlers :=
  h.works.handlers

/-- More steps lead to another round. -/
theorem Traced.go (h : Traced c todo r)
    (hw : (r.midway todo).Works es (r'.midway todo'))
    (inbox : r'.channel.inbox = []) (shown : r'.shown = r.shown ++ es)
    (notices : r'.notices.reverse.filterMap id = r.notices.reverse.filterMap id ++ raisedIn es)
    (handled : c.handlers = {} → none ∉ r.notices → none ∉ r'.notices) : Traced c todo' r' where
  works := by
    rw [shown]
    exact h.works.trans hw
  inbox := inbox
  notices := by
    rw [notices, shown, h.notices]
    exact List.filterMap_append.symm
  handled all := handled all (h.handled all)

/-- More steps without notices lead to another round. -/
theorem Traced.quietly (h : Traced c todo r)
    (hw : (r.midway todo).Works es (r'.midway todo'))
    (inbox : r'.channel.inbox = []) (shown : r'.shown = r.shown ++ es)
    (notices : r'.notices = r.notices) (silent : raisedIn es = []) : Traced c todo' r' := by
  refine h.go hw inbox shown ?_ fun _ hn => notices ▸ hn
  rw [notices, silent, List.append_nil]

/-- The update has come to a round by steps that write nothing. -/
structure Tended (c : Channel) (todo : List (Nat × Bytes)) (r : Round) : Prop
    extends Traced c todo r where
  unwritten : ∀ link, writtenOn link r.shown = []

theorem Tended.go (h : Tended c todo r) (hw : (r.midway todo).Works es (r'.midway todo'))
    (inbox : r'.channel.inbox = []) (shown : r'.shown = r.shown ++ es)
    (notices : r'.notices.reverse.filterMap id = r.notices.reverse.filterMap id ++ raisedIn es)
    (handled : c.handlers = {} → none ∉ r.notices → none ∉ r'.notices)
    (unwritten : ∀ link, writtenOn link es = []) : Tended c todo' r' where
  toTraced := h.toTraced.go hw inbox shown notices handled
  unwritten link := by rw [shown, writtenOn_append, h.unwritten, unwritten, List.append_nil]

theorem Tended.quietly (h : Tended c todo r) (hw : (r.midway todo).Works es (r'.midway todo'))
    (inbox : r'.channel.inbox = []) (shown : r'.shown = r.shown ++ es)
    (notices : r'.notices = r.notices) (silent : raisedIn es = [])
    (unwritten : ∀ link, writtenOn link es = []) : Tended c todo' r' where
  toTraced := h.toTraced.quietly hw inbox shown notices silent
  unwritten link := by rw [shown, writtenOn_append, h.unwritten, unwritten, List.append_nil]

/-- The round after a notice was put on the list, if there is a handler for it. -/
def telling (r : Round) (handled : Bool) (link : Nat) (n : Notice) : Round :=
  if handled then
    { r with
      notices := some (link, n) :: r.notices
      events := .link (.raised link n) :: r.events }
  else r

theorem returns_raise {link : Nat} {handled : Bool} {n : Notice} {Q : Unit → Round → Prop}
    (h : Q () (r.telling handled link n)) : Returns (raise link handled n) r Q := by
  unfold raise telling at *
  cases handled with
  | true => exact returns_modify h
  | false => exact returns_pure h

theorem returns_note {level : Log.Level} {message : String} {fields : Log.Fields}
    {Q : Unit → Round → Prop}
    (h : Q () { r with
      events := .logged { level, message := utf8 message, fields } :: r.events }) :
    Returns (note level message fields) r Q :=
  returns_modify h

/-- A step that ends with a notice. -/
theorem Tended.telling {handled : Bool} {link : Nat} {n : Notice} (h : Tended c todo r)
    (es : List LinkEvent)
    (hw : (r.midway todo).Works (es ++ LinkEvent.raisedIf handled link n)
      (r'.midway todo'))
    (inbox : r'.channel.inbox = []) (shown : r'.shown = r.shown ++ es)
    (notices : r'.notices = r.notices) (silent : raisedIn es = [])
    (unwritten : ∀ link, writtenOn link es = []) :
    Tended c todo' (r'.telling handled link n) := by
  unfold raisedIn at silent
  unfold Round.telling
  cases handled with
  | true =>
    refine h.go hw inbox ?_ ?_ ?_ fun other => ?_
    · rw [← List.append_assoc, ← shown]
      simp [Round.shown, LinkEvent.raisedIf]
    · simp [notices, silent, LinkEvent.raisedIf]
    · simp [notices]
    · rw [writtenOn_append, unwritten, writtenOn_raisedIf, List.append_nil]
  | false =>
    refine h.quietly hw inbox ?_ notices ?_ fun other => ?_
    · simpa [LinkEvent.raisedIf] using shown
    · simp [silent, LinkEvent.raisedIf]
    · rw [writtenOn_append, unwritten, writtenOn_raisedIf, List.append_nil]

/-! ### Datagrams -/

theorem Tended.skip {item : Nat × Bytes} (h : Tended c (item :: todo) r)
    (idle : ¬r.channel.Awaits item) : Tended c todo r :=
  h.quietly (Work.skipped (c := r.midway (item :: todo)) rfl idle).works h.inbox
    (List.append_nil _).symm rfl rfl fun _ => rfl

theorem welcome_tended {body : Bytes}
    (h : Tended c ((l.id, Frame.welcomeByte :: body) :: todo) r) (hl : r.channel.current = some l) :
    Returns (welcome l body) r fun _ r' => Tended c todo r' := by
  refine returns_bind (returns_get ?_)
  split
  · next hb =>
    refine returns_pure (h.skip ?_)
    rintro ⟨-, l', body', session, -, -, heq, hb'⟩
    cases heq
    rw [hb] at hb'
    cases hb'
  · next nonce session hb =>
    refine returns_ite ?_ fun hno => returns_pure (h.skip ?_)
    · rintro ⟨waits, rfl⟩
      refine returns_bind (returns_modify (returns_bind (returns_note (returns_raise ?_))))
      have hw := Work.welcomed (c := r.midway ((l.id, _) :: todo)) hl rfl waits hb
      refine h.telling [] hw.works h.inbox ?_ rfl rfl fun _ => rfl
      simp [Round.shown]
    · rintro ⟨waits, l', body', session', -, -, heq, hb'⟩
      cases heq
      rw [hb] at hb'
      cases hb'
      exact hno ⟨waits, rfl⟩

/-- Only a welcome is waited for. -/
theorem not_awaits_of_ne {kind : UInt8} {body : Bytes} {link : Nat}
    (hk : kind ≠ Frame.welcomeByte) : ¬c.Awaits (link, kind :: body) := by
  rintro ⟨-, l, body', session, -, -, heq, -⟩
  cases heq
  exact hk rfl

theorem data_tended {body : Bytes} (h : Tended c ((l.id, Frame.dataByte :: body) :: todo) r)
    (hl : r.channel.current = some l) :
    Returns (data l body) r fun _ r' => Tended c todo r' := by
  have skip := h.skip (not_awaits_of_ne (by decide))
  refine returns_bind (returns_get (returns_ite (fun up => ?_) fun _ => returns_pure skip))
  split
  · refine returns_note (skip.quietly (.refl _) h.inbox ?_ rfl rfl fun _ => rfl)
    simp [Round.shown]
  · next m hm =>
    have hw := Work.told (c := r.midway ((l.id, _) :: todo)) hl rfl up hm
    exact returns_raise (h.telling [] hw.works h.inbox (by simp) rfl rfl fun _ => rfl)

/-- The round after the current link was ended, before its user is told. -/
def ended (r : Round) (l : Link) (entry : Log.Entry) : Round where
  channel := { r.channel with current := none, phase := .disconnected, session := [] }
  events := .logged entry :: .link (.closed l.id) :: r.events
  notices := r.notices

theorem returns_finish {reason : Text} {Q : Nat → Round → Prop} (hl : r.channel.current = some l)
    (h : ∀ entry, Q l.id (r.ended l entry)) : Returns (finish reason) r Q := by
  refine returns_bind (returns_get ?_)
  split
  · next l' hl' =>
    obtain rfl : l = l' := Option.some.inj (hl.symm.trans hl')
    have hd : r.channel.detach false = .ok ({ r.channel with
        current := none, phase := .disconnected, session := [] }, [.link (.closed l.id)]) := by
      simp [detach, hl]
    rw [hd]
    refine returns_bind (returns_pure ?_)
    refine returns_bind (returns_modify (returns_bind (returns_note (returns_pure (h _)))))
  · next hno => exact absurd hl (hno l)

theorem Tended.ended (h : Tended c todo r) (hl : r.channel.current = some l) (entry : Log.Entry)
    (reason : Text) :
    Tended c todo ((r.ended l entry).telling r.channel.handlers.disconnected l.id
      (.disconnected reason)) := by
  have hw := Work.ended (c := r.midway todo) hl reason
  refine h.telling [.closed l.id] hw.works h.inbox ?_ rfl rfl fun _ => rfl
  simp [Round.shown, Round.ended]

theorem handle_tended {item : Nat × Bytes} (h : Tended c (item :: todo) r) :
    Returns (handle item) r fun _ r' => Tended c todo r' := by
  refine returns_bind (returns_get ?_)
  obtain ⟨link, datagram⟩ := item
  dsimp only
  split
  · next l kind body hl =>
    refine returns_ite ?_ fun hid => returns_pure (h.skip ?_)
    · rintro rfl
      refine returns_ite ?_ fun not_welcome => ?_
      · rintro rfl
        exact welcome_tended h hl
      have skip := h.skip (not_awaits_of_ne not_welcome)
      refine returns_ite ?_ fun _ => returns_ite (fun _ => ?_) fun _ => returns_pure skip
      · rintro rfl
        exact data_tended h hl
      · exact returns_bind (returns_finish hl fun entry => returns_raise (skip.ended hl entry _))
    · rintro ⟨-, l', body', session, hl', hid', -⟩
      rw [hl] at hl'
      cases hl'
      exact hid hid'.symm
  · next hno =>
    refine returns_pure (h.skip ?_)
    rintro ⟨-, l, body, session, hl, -, heq, -⟩
    exact hno l _ _ hl heq

theorem drainInbox_tended (c : Channel) :
    Returns drainInbox { channel := c } fun _ r => Tended c [] r := by
  refine returns_bind (returns_get (returns_bind (returns_modify ?_)))
  exact returns_forM (fun _ _ _ => handle_tended)
    ⟨⟨.refl c, rfl, rfl, fun _ => List.not_mem_nil⟩, fun _ => rfl⟩

/-! ### The current link -/

theorem finishLoudly_tended (reason : Text) (h : Tended c todo r)
    (hl : r.channel.current = some l) :
    Returns (finishLoudly reason) r fun _ r' => Tended c todo r' := by
  refine returns_bind (returns_finish hl fun entry => returns_bind (returns_get ?_))
  have ended := h.ended hl entry reason
  refine returns_ite (fun handled => returns_raise ?_) fun unhandled => returns_modify ?_
  · rw [show r.channel.handlers.disconnected = true from handled] at ended
    exact ended
  · have unhandled : r.channel.handlers.disconnected = false := eq_false_of_ne_true unhandled
    rw [unhandled] at ended
    refine ⟨⟨ended.works, ended.inbox, ?_, fun all => ?_⟩, ended.unwritten⟩
    · rw [List.reverse_cons, List.filterMap_append]
      exact (List.append_nil _).trans ended.notices
    · rw [h.handlers, all] at unhandled
      cases unhandled

theorem checkReader_tended (h : Tended c todo r) :
    Returns checkReader r fun _ r' => Tended c todo r' := by
  refine returns_bind (returns_get ?_)
  split
  · next reason hr =>
    obtain ⟨l, hl, -⟩ := Option.bind_eq_some_iff.1 hr
    exact finishLoudly_tended _ h hl
  · exact returns_pure h

theorem checkProgress_tended (times : Times) (h : Tended c todo r) (hc : c.Agrees) :
    Returns (checkProgress times) r fun _ r' => Tended c todo r' := by
  refine returns_bind (returns_get (returns_ite (fun waits => ?_) fun _ => returns_pure h))
  -- A channel that waits has a link, so the update does not break off here.
  obtain ⟨l, hl⟩ : ∃ l, r.channel.current = some l := by
    refine Option.ne_none_iff_exists'.1 fun hno => ?_
    rw [(h.agrees hc).1 hno] at waits
    cases waits
  refine returns_ite (fun _ => finishLoudly_tended _ h hl) fun _ => ?_
  refine returns_ite (fun _ => ?_) fun _ => returns_pure h
  split
  · next l' hl' =>
    obtain rfl : l = l' := Option.some.inj (hl.symm.trans hl')
    obtain ⟨hw, silent, unwritten⟩ := greet_works (c := r.midway todo) hl
    refine returns_modify (h.quietly (hw.step (.timed times.hello)) h.inbox ?_ rfl ?_ ?_)
    · rw [Round.shown, List.reverse_append, List.reverse_reverse, linkEvents_append,
        List.append_nil]
      rfl
    · rwa [List.append_nil]
    · rwa [List.append_nil]
  · next hno => exact absurd hl (hno l)

/-! ### Writing -/

section Writing

variable (write : Nat → Address → Bytes → Option Text)

theorem returns_writeLink {tried : Nat} {l : Link} {Q : Nat × Link → Round → Prop}
    (h : ∀ r' written left, r'.channel = r.channel → r'.notices = r.notices →
      r'.shown = r.shown ++ written.map (.written l.id) →
      Flushed (fun n => write n l.remote) tried l.outbound written left →
      Q (tried + (attempted written left).length, { l with outbound := left }) r') :
    Returns (writeLink write tried l) r Q := by
  obtain ⟨flushed, count⟩ := flushed_writeFrames write l.remote tried l.outbound
  unfold writeLink
  refine returns_bind (returns_modify ?_)
  dsimp only
  generalize writeFrames write l.remote tried l.outbound = w at flushed count
  rw [count]
  split
  · refine returns_bind (returns_note (returns_pure (h _ w.written w.left rfl rfl ?_ flushed)))
    simp [Round.shown]
  · refine returns_pure (h _ w.written w.left rfl rfl ?_ flushed)
    simp [Round.shown]

/-- Writing turned the closing links `ls` into `ls'`; its first write has number `tried`. -/
structure Wrote (tried : Nat) (r : Round) (ls : List Link) (r' : Round) (ls' : List Link) :
    Prop where
  channel : r'.channel = r.channel
  notices : r'.notices = r.notices
  left : ∀ l ∈ ls', l.outbound ≠ []
  all : (∀ n remote frame, write n remote frame = none) → ls' = []
  works : ∃ es, r'.shown = r.shown ++ es ∧ raisedIn es = [] ∧ Flush write tried ls es ls' ∧
    ∀ (c : Channel) (before : List Link), c.closing = before ++ ls →
      c.Works es { c with closing := before ++ ls' }

theorem raisedIn_written (link : Nat) (frames : List Bytes) :
    raisedIn (frames.map (.written link)) = [] := by
  simp [raisedIn, List.filterMap_map, Function.comp_def]

/-- A link is written before the others, and it is closed if nothing is left. -/
theorem Wrote.cons {r₁ r₂ : Round} {tried : Nat} {l : Link} {ls stays ls' : List Link}
    {written left : List Bytes} {closes : List LinkEvent}
    (h : Wrote write (tried + (attempted written left).length) r₁ ls r₂ ls')
    (channel : r₁.channel = r.channel) (notices : r₁.notices = r.notices)
    (shown : r₁.shown = r.shown ++ (written.map (.written l.id) ++ closes))
    (flushed : Flushed (fun n => write n l.remote) tried l.outbound written left)
    (fate : Fate l left stays closes) (kept : ∀ l' ∈ stays, l'.outbound ≠ []) :
    Wrote write tried r (l :: ls) r₂ (stays ++ ls') := by
  obtain ⟨es, shown', silent, flush, works⟩ := h.works
  refine ⟨h.channel.trans channel, h.notices.trans notices, ?_, fun ok => ?_,
    written.map (.written l.id) ++ (closes ++ es), ?_, ?_, .cons flushed fate flush,
    fun c before hc => (Works.writingClosing hc flushed.parts).trans ?_⟩
  · exact List.forall_mem_append.2 ⟨kept, h.left⟩
  · rw [h.all ok]
    cases fate with
    | stays => exact absurd (flushed.left_eq_nil fun n => ok n l.remote) (kept _ List.mem_cons_self)
    | closed => rfl
  · rw [shown', shown, List.append_assoc, List.append_assoc]
  · have none : raisedIn closes = [] := by cases fate <;> rfl
    rw [raisedIn_append, raisedIn_append, raisedIn_written, none, silent]
    rfl
  · cases fate with
    | stays =>
      have later := works { c with closing := before ++ { l with outbound := left } :: ls }
        (before ++ [{ l with outbound := left }]) (by simp)
      rwa [List.append_assoc] at later
    | closed =>
      have closed := Work.finished
        (c := { c with closing := before ++ { l with outbound := [] } :: ls }) rfl rfl
      exact closed.works.trans (works _ before rfl)

theorem writeClosing_wrote (tried : Nat) (ls : List Link) :
    Returns (writeClosing write tried ls) r fun ls' r' => Wrote write tried r ls r' ls' := by
  induction ls generalizing tried r with
  | nil =>
    refine returns_pure
      ⟨rfl, rfl, by simp, fun _ => rfl, [], (List.append_nil _).symm, rfl, .nil, ?_⟩
    intro c before hc
    rw [← hc]
    exact .refl c
  | cons l ls ih =>
    refine returns_bind (returns_writeLink write ?_)
    intro r₁ written left channel notices shown flushed
    refine returns_ite (fun empty => ?_) fun some => ?_
    · obtain rfl : left = [] := List.isEmpty_iff.1 empty
      refine returns_bind (returns_modify ((ih _).mono fun ls' r₂ h => ?_))
      refine h.cons write channel notices ?_ flushed .closed
        fun _ mem => absurd mem List.not_mem_nil
      rw [← List.append_assoc, ← shown]
      simp [Round.shown]
    · have some : left ≠ [] := fun h => some (List.isEmpty_iff.2 h)
      refine returns_bind ((ih _).mono fun ls' r₂ h => returns_pure ?_)
      refine h.cons write channel notices ?_ flushed (.stays left)
        (List.forall_mem_singleton.2 some)
      rw [List.append_nil, shown]

/-- What a flush comes to, in a channel whose links are `links`. -/
structure Drained (c : Channel) (links : List Link) (shown : List LinkEvent) (r : Round) :
    Prop where
  traced : Traced c [] r
  left : ∀ l ∈ r.channel.closing, l.outbound ≠ []
  all : (∀ n remote frame, write n remote frame = none) → r.channel.pending = false
  flush : ∃ es, r.shown = shown ++ es ∧ Flush write 0 links es r.channel.links

/-- The closing links are written after the current one, which is as `r` has it. -/
theorem writeClosing_drained {tried : Nat} {ls links : List Link} {shown : List LinkEvent}
    (h : Traced c [] r) (same : r.channel.closing = ls)
    (written : (∀ n remote frame, write n remote frame = none) →
      ∀ l, r.channel.current = some l → l.outbound = [])
    (joined : ∀ es ls', Flush write tried ls es ls' →
      ∃ es', r.shown ++ es = shown ++ es' ∧
        Flush write 0 links es' (r.channel.current.toList ++ ls')) :
    Returns (do
      let closing ← writeClosing write tried ls
      modify fun r => { r with channel := { r.channel with closing } } : RoundM Unit) r
      fun _ r' => Drained write c links shown r' := by
  refine returns_bind ((writeClosing_wrote write tried ls).mono fun ls' r' hw => ?_)
  obtain ⟨es, events, silent, flush, works⟩ := hw.works
  refine returns_modify ⟨h.quietly ?_ ?_ events hw.notices silent, hw.left, fun ok => ?_, ?_⟩
  · have works := works (r.midway []) [] same
    rw [Round.midway, hw.channel]
    exact works
  · rw [hw.channel]
    exact h.inbox
  · have written := written ok
    rw [hw.channel]
    unfold pending
    dsimp only
    rw [hw.all ok]
    cases hl : r.channel.current with
    | none => rfl
    | some l => simp [written l hl]
  · obtain ⟨es', all, flush⟩ := joined es ls' flush
    refine ⟨es', events.trans all, ?_⟩
    rw [hw.channel]
    exact flush

theorem flush_drained (h : Traced c [] r) :
    Returns (flush write) r fun _ r' => Drained write c r.channel.links r.shown r' := by
  refine returns_bind (returns_get ?_)
  dsimp only
  split
  · next l hl =>
    refine returns_bind (returns_writeLink write ?_)
    intro r₁ written left channel notices shown flushed
    refine returns_bind (returns_modify (returns_bind (returns_pure
      (writeClosing_drained write ?_ ?_ ?_ ?_))))
    · refine h.quietly ?_ ?_ shown notices (raisedIn_written _ _)
      · have works := Works.writing (c := r.midway []) hl flushed.parts
        rw [Round.midway, channel]
        exact works
      · rw [channel]
        exact h.inbox
    · rw [channel]
    · rintro ok _ ⟨⟩
      exact flushed.left_eq_nil fun n => ok n l.remote
    · intro es ls' later
      rw [Nat.zero_add] at later
      refine ⟨written.map (.written l.id) ++ ([] ++ es), ?_, ?_⟩
      · rw [List.nil_append, ← List.append_assoc, ← shown]
        rfl
      · rw [links, hl]
        exact .cons flushed (.stays left) (by rwa [Nat.zero_add])
  · next hno =>
    refine returns_bind (returns_pure (writeClosing_drained write h rfl (fun _ l hl => ?_)
      fun es ls' later => ?_))
    · rw [hl] at hno
      cases hno
    · refine ⟨es, rfl, ?_⟩
      rw [links, hno]
      exact later

/-- The flush of an update comes last, and nothing is written before it. -/
theorem run_drained (hc : c.Agrees) (times : Times) :
    Returns (run write times) { channel := c } fun _ r => ∃ r₀, Tended c [] r₀ ∧
      Drained write c r₀.channel.links r₀.shown r := by
  refine returns_bind ((drainInbox_tended c).mono fun _ r₁ h₁ => ?_)
  refine returns_bind ((checkReader_tended h₁).mono fun _ r₂ h₂ => ?_)
  refine returns_bind ((checkProgress_tended times h₂ hc).mono fun _ r₃ h₃ => ?_)
  exact (flush_drained write h₃.toTraced).mono fun _ r drained => ⟨r₃, h₃, drained⟩

end Writing

end Round

/-- What an update comes to. -/
structure Worked (c : Channel) (write : Nat → Address → Bytes → Option Text) (u : Updated) :
    Prop where
  works : c.Works (linkEvents u.events) u.channel
  inbox : u.channel.inbox = []
  notices : u.notices.filterMap id = raisedIn (linkEvents u.events)
  handled : c.handlers = {} → none ∉ u.notices
  left : ∀ l ∈ u.channel.closing, l.outbound ≠ []
  all : (∀ n remote frame, write n remote frame = none) → u.channel.pending = false
  /-- The update writes nothing before its flush. -/
  flush : ∃ c₀ es es', c.Works es c₀ ∧ (∀ link, writtenOn link es = []) ∧
    linkEvents u.events = es ++ es' ∧ Flush write 0 c₀.links es' u.channel.links

theorem eq_map_some_of_notMem {α : Type} {xs : List (Option α)} (h : none ∉ xs) :
    xs = (xs.filterMap id).map some := by
  induction xs with
  | nil => rfl
  | cons x xs ih =>
    have hxs : none ∉ xs := fun hx => h (List.mem_cons_of_mem _ hx)
    cases x with
    | none => exact absurd List.mem_cons_self h
    | some x => exact congrArg (some x :: ·) (ih hxs)

/-- With all handlers there are no gaps in the list of notices. -/
theorem Worked.notices_eq {write : Nat → Address → Bytes → Option Text} {u : Updated}
    (h : c.Worked write u) (all : c.handlers = {}) :
    u.notices = (raisedIn (linkEvents u.events)).map some := by
  rw [← h.notices]
  exact eq_map_some_of_notMem (h.handled all)

/-- An update does not break off and is a sequence of steps. -/
theorem update_works (hc : c.Agrees) (write : Nat → Address → Bytes → Option Text) (times : Times) :
    ∃ u, c.update write times = .ok u ∧ c.Worked write u := by
  obtain ⟨_, r, hr, r₀, tended, ⟨traced, left, all, es', shown, flush⟩⟩ :=
    Round.run_drained write hc times
  refine ⟨⟨r.channel, r.events.reverse, r.notices.reverse⟩, ?_, ?_, traced.inbox, traced.notices,
    ?_, left, all, r₀.midway [], r₀.shown, es', tended.works, tended.unwritten, shown, flush⟩
  · unfold update
    rw [hr]
    rfl
  · have works := traced.works
    rwa [Round.midway, ← traced.inbox] at works
  · intro handlers
    rw [List.mem_reverse]
    exact traced.handled handlers

end Channel

end Teleop
