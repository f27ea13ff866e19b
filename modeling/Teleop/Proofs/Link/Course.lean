import Teleop.Proofs.Link.Update

/-!
# Courses of a channel

A course is what became of a new channel after any number of deeds, in any order: calls of its user,
arrivals from the network, updates, and the registration of handlers. The clock, the nonces, whether
a port can be bound and which writes fail are part of the deeds. What handlers do while the notices
of an update are raised comes as deeds after that update.

* `Deed`, `Turn` and `Course` are the deeds and their records;
* `Channel.Done` says what each deed comes to;
* `Channel.Change` is an elementary change of the channel by some deed other than closing it;
* `Reached.invariant` derives what holds in every course from what each change keeps;
* `Course.run_reached`: no deed breaks off.
-/

namespace Teleop

/-! ## Deeds -/

/-- One thing that is done with a channel or happens to it. -/
inductive Deed where
  | connect (names : List (Text × Bytes)) (bound : Option Text) (times : Channel.Times)
      (nonce : Uuid) (dial : Dial)
  | disconnect
  | send (m : Message)
  | close
  | arrive (a : Channel.Arrival)
  | update (write : Nat → Address → Bytes → Option Text) (times : Channel.Times)
  | register (handlers : Handlers)

/-- What a deed leads to: the channel after it, the events on links, the notices to raise, and the
fault of a reader that it starts, if there is one. -/
structure Effect where
  channel : Channel
  events : List LinkEvent := []
  notices : List (Option (Nat × Notice)) := []
  fault : Option Fault := none

/-- Does a deed. -/
def Channel.perform (c : Channel) : Deed → Except Fault Effect
  | .connect names bound times nonce dial =>
    let called := c.connect names bound times nonce dial
    .ok { channel := called.channel, events := linkEvents called.events, fault := called.fault }
  | .disconnect => .ok { channel := c.disconnect.1, events := linkEvents c.disconnect.2 }
  | .send m =>
    let called := c.send m
    .ok { channel := called.channel, events := linkEvents called.events, fault := called.fault }
  | .close => .ok { channel := c.close.1, events := linkEvents c.close.2 }
  | .arrive a => .ok { channel := (c.arrive a).1, events := linkEvents (c.arrive a).2 }
  | .update write times => do
    let u ← c.update write times
    return { channel := u.channel, events := linkEvents u.events, notices := u.notices }
  | .register handlers => .ok { channel := { c with handlers } }

/-- A deed that was done, with the channel before it. -/
structure Turn where
  before : Channel
  deed : Deed
  effect : Effect

namespace Turn

/-- The link that a disconnect drops. -/
def disconnects? (t : Turn) : Option Link :=
  match t.deed with
  | .disconnect => t.before.current
  | _ => none

/-- The link that stops being the current one because of a call. -/
def drops? (t : Turn) : Option Link :=
  match t.deed with
  | .disconnect | .close => t.before.current
  | _ => none

end Turn

/-- A channel with everything that was done so far. -/
structure Course where
  channel : Channel
  turns : List Turn := []

namespace Course

def step (s : Course) (d : Deed) : Except Fault Course := do
  let effect ← s.channel.perform d
  return { channel := effect.channel, turns := s.turns ++ [⟨s.channel, d, effect⟩] }

def run (s : Course) (deeds : List Deed) : Except Fault Course :=
  deeds.foldlM step s

/-- The events of all turns. -/
def history (s : Course) : List LinkEvent :=
  s.turns.flatMap (·.effect.events)

/-- The notices of all turns. -/
def notices (s : Course) : List (Option (Nat × Notice)) :=
  s.turns.flatMap (·.effect.notices)

variable {s s' : Course} {d : Deed}

theorem step_eq_ok : s.step d = .ok s' ↔ ∃ e, s.channel.perform d = .ok e ∧
    s' = ⟨e.channel, s.turns ++ [⟨s.channel, d, e⟩]⟩ := by
  unfold step
  cases s.channel.perform d with
  | error f => simp [bind, Except.bind]
  | ok e => simp [bind, Except.bind, pure, Except.pure, eq_comm]

theorem history_append {c : Channel} {ts : List Turn} (h : s'.turns = s.turns ++ ts) :
    s'.history = s.history ++ (⟨c, ts⟩ : Course).history := by
  simp [history, h]

theorem history_concat (c c' : Channel) (ts : List Turn) (d : Deed) (e : Effect) :
    (⟨c', ts ++ [⟨c, d, e⟩]⟩ : Course).history = (⟨c, ts⟩ : Course).history ++ e.events := by
  simp [history]

end Course

/-- The courses of a new channel. -/
inductive Reached (config : ChannelConfig) (handlers : Handlers) : Course → Prop
  | start : Reached config handlers { channel := .new config handlers }
  | step {s s' : Course} {d : Deed} (h : Reached config handlers s) (hs : s.step d = .ok s') :
    Reached config handlers s'

namespace Channel

/-- The channel with a new link on which nothing was queued yet. -/
def opening (c : Channel) (remote : Address) (times : Times) (nonce : Uuid) (identity : Text) :
    Channel :=
  { c with
    current := some { id := c.opened, remote }, phase := .connecting, nonce, identity
    session := [], connectStarted := times.now, lastHello := times.hello, opened := c.opened + 1 }

/-! ## What each deed changes -/

/-- An elementary change, with its events. -/
inductive Change : Channel → List LinkEvent → Channel → Prop
  | work {c c' : Channel} {es : List LinkEvent} (h : Work c es c') : Change c es c'
  | opened {c : Channel} (port : Int) (remote : Address) (times : Times) (nonce : Uuid)
    (identity : Text) (hl : c.current = none) :
    Change c [.opened c.opened port remote nonce] (c.opening remote times nonce identity)
  | sent {c : Channel} {l : Link} (payload : Bytes) (hl : c.current = some l)
    (up : c.phase = .connected) (room : (l.outbound.length : Int) < c.config.maxOutbound) :
    Change c [.accepted l.id (Frame.data payload)]
      { c with current := some { l with outbound := l.outbound ++ [Frame.data payload] } }
  | dropped {c : Channel} {l : Link} (hl : c.current = some l) :
    Change c [.accepted l.id Frame.bye]
      { c with
        current := none, phase := .disconnected, session := []
        closing := c.closing ++ [{ l with outbound := l.outbound ++ [Frame.bye] }] }
  | lost {c : Channel} {l : Link} (hl : c.current = some l) :
    Change c [.closed l.id] { c with current := none, phase := .disconnected, session := [] }
  | received {c : Channel} {l : Link} (datagram : Bytes) (hl : l ∈ c.links) :
    Change c [.received l.id datagram] { c with inbox := c.inbox ++ [(l.id, datagram)] }
  | failed {c : Channel} (id : Nat) (reason : Text) : Change c [] (c.failRead id reason)

/-- Changes one after the other. -/
inductive Changes : Channel → List LinkEvent → Channel → Prop
  | refl (c : Channel) : Changes c [] c
  | step {c c' c'' : Channel} {es es' : List LinkEvent} (hs : Changes c es c')
    (h : Change c' es' c'') : Changes c (es ++ es') c''

variable {c c' c'' : Channel} {es es' : List LinkEvent}

theorem Change.changes (h : Change c es c') : c.Changes es c' :=
  .step (.refl c) h

theorem Works.changes (hs : c.Works es c') : c.Changes es c' := by
  induction hs with
  | refl => exact .refl _
  | step _ hw ih => exact .step ih (.work hw)

theorem Changes.trans (h : c.Changes es c') (h' : c'.Changes es' c'') :
    c.Changes (es ++ es') c'' := by
  induction h' with
  | refl => simpa using h
  | step _ hw ih =>
    rw [← List.append_assoc]
    exact .step ih hw

theorem Changes.invariant {P : List LinkEvent → Channel → Prop}
    (change : ∀ {h c es c'}, Change c es c' → P h c → P (h ++ es) c') {h : List LinkEvent}
    (hs : c.Changes es c') (hp : P h c) : P (h ++ es) c' := by
  induction hs with
  | refl => simpa using hp
  | step _ hw ih =>
    rw [← List.append_assoc]
    exact change hw ih

/-! ## What each deed comes to -/

/-- The first hello of a link is queued if there is room for it. -/
theorem openLink_cases (c : Channel) (remote : Address) (times : Times) (nonce : Uuid) (d : Dial) :
    ∃ queue, (queue = [] ∨ queue = [Frame.hello nonce d.identity] ∧ 0 < c.config.maxOutbound) ∧
      (c.openLink remote times nonce d).channel = { c.opening remote times nonce d.identity with
        current := some { id := c.opened, remote, outbound := queue } } ∧
      linkEvents (c.openLink remote times nonce d).events =
        .opened c.opened d.localPort remote nonce :: queue.map (.accepted c.opened) := by
  have channel : (c.openLink remote times nonce d).channel =
      { c.opening remote times nonce d.identity with
        current :=
          some ((c.opening remote times nonce d.identity).greet { id := c.opened, remote }).1 } :=
    rfl
  have events : linkEvents (c.openLink remote times nonce d).events =
      .opened c.opened d.localPort remote nonce :: linkEvents
        ((c.opening remote times nonce d.identity).greet { id := c.opened, remote }).2 := by
    unfold openLink
    dsimp only
    rw [greet_id, List.cons_append, linkEvents_link, linkEvents_append]
    exact congrArg (_ :: ·) (List.append_nil _)
  rw [channel, events]
  rcases greet_cases (c.opening remote times nonce d.identity) { id := c.opened, remote } with
    h | ⟨room, h⟩
  · exact ⟨[], .inl rfl, by rw [h], by rw [h]; rfl⟩
  · exact ⟨_, .inr ⟨rfl, room⟩, by rw [h]; rfl, by rw [h]; rfl⟩

/-- A call to connect is refused, or opens a link. -/
theorem connect_cases (c : Channel) (names : List (Text × Bytes)) (bound : Option Text)
    (times : Times) (nonce : Uuid) (d : Dial) :
    (∃ e, c.connect names bound times nonce d = c.refuse e) ∨
    (c.current = none ∧ ∃ remote, Address.resolve names d.host d.port = .ok remote ∧
      c.connect names bound times nonce d = c.openLink remote times nonce d) := by
  unfold connect
  split
  · exact .inl ⟨_, rfl⟩
  · next hl =>
    split
    · exact .inl ⟨_, rfl⟩
    · exact .inl ⟨_, rfl⟩
    · next remote hr => exact .inr ⟨by simpa using hl, remote, hr, rfl⟩

/-- A refused call to connect returns the channel as it was. -/
theorem connect_of_error {names : List (Text × Bytes)} {bound : Option Text} {times : Times}
    {nonce : Uuid} {dial : Dial} {e : ConnectError}
    (h : (c.connect names bound times nonce dial).error = some e) :
    c.connect names bound times nonce dial = c.refuse e := by
  rcases c.connect_cases names bound times nonce dial with ⟨e', refused⟩ | ⟨-, remote, -, opened⟩
  · rw [refused] at h ⊢
    cases h
    rfl
  · rw [opened] at h
    cases h

/-- Dropping a link that can be read leaves it closing; one that cannot be read is closed. -/
theorem disconnect_cases (c : Channel) :
    c.current = none ∧ c.disconnect = (c, []) ∨
    (∃ l, c.current = some l ∧ l.readError = none ∧
      c.disconnect = ({ c with
        current := none, phase := .disconnected, session := []
        closing := c.closing ++ [{ l with outbound := l.outbound ++ [Frame.bye] }] },
        [.link (.accepted l.id Frame.bye)])) ∨
    ∃ l, c.current = some l ∧ l.readError ≠ none ∧
      c.disconnect = ({ c with current := none, phase := .disconnected, session := [] },
        [.link (.closed l.id)]) := by
  unfold disconnect detach
  cases hl : c.current with
  | none => exact .inl ⟨rfl, rfl⟩
  | some l =>
    cases he : l.readError with
    | none => exact .inr (.inl ⟨l, rfl, he, by simp [he]⟩)
    | some reason => exact .inr (.inr ⟨l, rfl, by simp [he], by simp [he]⟩)

/-- A call to send is refused, or queues one frame. -/
theorem send_cases (c : Channel) (m : Message) :
    (∃ e, c.send m = c.refuse e) ∨
    ∃ l payload, m.encode = .ok payload ∧ c.phase = .connected ∧ c.current = some l ∧
      (l.outbound.length : Int) < c.config.maxOutbound ∧
      c.send m =
        { channel := { c with
            current := some { l with outbound := l.outbound ++ [Frame.data payload] } }
          events := [.link (.accepted l.id (Frame.data payload))] } := by
  unfold send enqueue
  split
  · exact .inl ⟨_, rfl⟩
  · next payload hp =>
    split
    · next l up hl =>
      split
      · next l' hl' =>
        split at hl'
        · cases hl'
        · next room =>
          cases hl'
          exact .inr ⟨l, payload, hp, up, hl, by omega, rfl⟩
      · exact .inl ⟨_, rfl⟩
    · exact .inl ⟨_, rfl⟩

/-- A refused call to send returns the channel as it was. -/
theorem send_of_error {m : Message} {e : SendError} (h : (c.send m).error = some e) :
    c.send m = c.refuse e := by
  rcases c.send_cases m with ⟨e', refused⟩ | ⟨l, payload, -, -, -, -, accepted⟩
  · rw [refused] at h ⊢
    cases h
    rfl
  · rw [accepted] at h
    cases h

/-- A datagram is taken into the inbox or ignored. -/
theorem receive_cases (c : Channel) (link : Nat) (sender : Address) (bytes : Bytes) :
    (c.receive link sender bytes).1 = c ∧ linkEvents (c.receive link sender bytes).2 = [] ∨
    ∃ l, c.link? link = some l ∧ sender.same l.remote = true ∧
      c.receive link sender bytes = ({ c with
        inbox := c.inbox ++ [(link, bytes.take c.config.readBufferSize.toNat)] },
        [.link (.received link (bytes.take c.config.readBufferSize.toNat))]) := by
  unfold receive
  split
  · exact .inl ⟨rfl, rfl⟩
  · next l hl =>
    dsimp only
    split
    · exact .inl ⟨rfl, rfl⟩
    · next taken =>
      split
      · exact .inl ⟨rfl, rfl⟩
      · simp only [Bool.or_eq_true, Bool.not_eq_true', not_or, Bool.not_eq_false] at taken
        exact .inr ⟨l, hl, taken.2, rfl⟩

/-- What a deed comes to. -/
inductive Done (c : Channel) : Deed → Effect → Prop
  | unconnected {names : List (Text × Bytes)} {bound : Option Text} {times : Times} {nonce : Uuid}
    {dial : Dial} {e : ConnectError} (h : c.connect names bound times nonce dial = c.refuse e) :
    Done c (.connect names bound times nonce dial) { channel := c }
  | connected {names : List (Text × Bytes)} {bound : Option Text} {times : Times} {nonce : Uuid}
    {dial : Dial} {remote : Address} {queue : List Bytes}
    (h : (c.connect names bound times nonce dial).error = none) (hl : c.current = none)
    (hr : Address.resolve names dial.host dial.port = .ok remote)
    (hq : queue = [] ∨ queue = [Frame.hello nonce dial.identity] ∧ 0 < c.config.maxOutbound) :
    Done c (.connect names bound times nonce dial)
      { channel := { c.opening remote times nonce dial.identity with
          current := some { id := c.opened, remote, outbound := queue } }
        events := .opened c.opened dial.localPort remote nonce :: queue.map (.accepted c.opened)
        fault := c.readerFault? }
  | idle (hl : c.current = none) : Done c .disconnect { channel := c }
  | dropped {l : Link} (hl : c.current = some l) (readable : l.readError = none) :
    Done c .disconnect
      { channel := { c with
          current := none, phase := .disconnected, session := []
          closing := c.closing ++ [{ l with outbound := l.outbound ++ [Frame.bye] }] }
        events := [.accepted l.id Frame.bye] }
  | lost {l : Link} (hl : c.current = some l) (unreadable : l.readError ≠ none) :
    Done c .disconnect
      { channel := { c with current := none, phase := .disconnected, session := [] }
        events := [.closed l.id] }
  | unsent {m : Message} {e : SendError} (h : c.send m = c.refuse e) :
    Done c (.send m) { channel := c }
  | sent {m : Message} {l : Link} {payload : Bytes}
    (h : (c.send m).error = none) (hm : m.encode = .ok payload) (up : c.phase = .connected)
    (hl : c.current = some l) (room : (l.outbound.length : Int) < c.config.maxOutbound) :
    Done c (.send m)
      { channel := { c with
          current := some { l with outbound := l.outbound ++ [Frame.data payload] } }
        events := [.accepted l.id (Frame.data payload)] }
  | closed : Done c .close { channel := c.close.1, events := c.links.map fun l => .closed l.id }
  | ignored {a : Arrival} : Done c (.arrive a) { channel := c }
  | received {link : Nat} {l : Link} {sender : Address} {bytes : Bytes} (hl : c.link? link = some l)
    (same : sender.same l.remote = true) :
    Done c (.arrive (.datagram link sender bytes))
      { channel := { c with
          inbox := c.inbox ++ [(link, bytes.take c.config.readBufferSize.toNat)] }
        events := [.received link (bytes.take c.config.readBufferSize.toNat)] }
  | failed (link : Nat) (reason : Text) :
    Done c (.arrive (.failure link reason)) { channel := c.failRead link reason }
  | updated {write : Nat → Address → Bytes → Option Text} {times : Times} {u : Updated}
    (worked : c.Worked write u) :
    Done c (.update write times)
      { channel := u.channel, events := linkEvents u.events, notices := u.notices }
  | registered (handlers : Handlers) :
    Done c (.register handlers) { channel := { c with handlers } }

/-- A deed does not break off. -/
theorem perform_done (hc : c.Agrees) (d : Deed) : ∃ e, c.perform d = .ok e ∧ c.Done d e := by
  unfold perform
  cases d with
  | connect names bound times nonce dial =>
    dsimp only
    rcases c.connect_cases names bound times nonce dial with ⟨e, h⟩ | ⟨hl, remote, hr, h⟩
    · rw [h]
      exact ⟨_, rfl, .unconnected h⟩
    · obtain ⟨queue, hq, hch, hes⟩ := c.openLink_cases remote times nonce dial
      have accepted : (c.connect names bound times nonce dial).error = none :=
        congrArg Called.error h
      rw [h, hch, hes]
      exact ⟨_, rfl, .connected accepted hl hr hq⟩
  | disconnect =>
    rcases c.disconnect_cases with ⟨hl, h⟩ | ⟨l, hl, readable, h⟩ | ⟨l, hl, unreadable, h⟩
    · rw [h]
      exact ⟨_, rfl, .idle hl⟩
    · rw [h]
      exact ⟨_, rfl, .dropped hl readable⟩
    · rw [h]
      exact ⟨_, rfl, .lost hl unreadable⟩
  | send m =>
    dsimp only
    rcases c.send_cases m with ⟨e, h⟩ | ⟨l, payload, hm, up, hl, room, h⟩
    · rw [h]
      exact ⟨_, rfl, .unsent h⟩
    · have accepted : (c.send m).error = none := congrArg Called.error h
      rw [h]
      exact ⟨_, rfl, .sent accepted hm up hl room⟩
  | close =>
    have events : linkEvents c.close.2 = c.links.map fun l => .closed l.id := by
      simp [close, links, linkEvents, List.filterMap_map, Function.comp_def]
    rw [events]
    exact ⟨_, rfl, .closed⟩
  | arrive a =>
    cases a with
    | failure link reason => exact ⟨_, rfl, .failed link reason⟩
    | datagram link sender bytes =>
      dsimp only [arrive]
      rcases c.receive_cases link sender bytes with ⟨h, h'⟩ | ⟨l, hl, same, h⟩
      · rw [h, h']
        exact ⟨_, rfl, .ignored⟩
      · rw [h]
        exact ⟨_, rfl, .received hl same⟩
  | update write times =>
    obtain ⟨u, hu, worked⟩ := update_works hc write times
    dsimp only
    rw [hu]
    exact ⟨_, rfl, .updated worked⟩
  | register handlers => exact ⟨_, rfl, .registered handlers⟩

variable {d : Deed} {e : Effect}

theorem mem_links_of_link? {id : Nat} {l : Link} (h : c.link? id = some l) :
    l ∈ c.links ∧ l.id = id :=
  ⟨List.mem_of_find?_eq_some h, by simpa using List.find?_some h⟩

/-- A deed makes changes, or closes the channel, or registers handlers. -/
theorem Done.changes (h : c.Done d e) :
    c.Changes e.events e.channel ∨
    (d = .close ∧ e.events = c.links.map (fun l => .closed l.id) ∧ e.channel = c.close.1) ∨
    ∃ handlers, d = .register handlers ∧ e.events = [] ∧ e.channel = { c with handlers } := by
  cases h with
  | @connected names bound times nonce dial remote queue h hl hr hq =>
    have opened := Change.opened dial.localPort remote times nonce dial.identity hl
    -- A first hello is queued on the new link like every other one.
    rcases hq with rfl | ⟨rfl, room⟩
    · exact .inl opened.changes
    · have greeted := Work.greeted (c := c.opening remote times nonce dial.identity) rfl room
      exact .inl (opened.changes.trans (Change.work greeted).changes)
  | dropped hl => exact .inl (Change.dropped hl).changes
  | lost hl => exact .inl (Change.lost hl).changes
  | sent h hm up hl room => exact .inl (Change.sent _ hl up room).changes
  | closed => exact .inr (.inl ⟨rfl, rfl, rfl⟩)
  | received hl =>
    obtain ⟨mem, rfl⟩ := mem_links_of_link? hl
    exact .inl (Change.received _ mem).changes
  | failed link reason => exact .inl (Change.failed link reason).changes
  | updated worked => exact .inl worked.works.changes
  | registered handlers => exact .inr (.inr ⟨handlers, rfl, rfl, rfl⟩)
  | _ => exact .inl (.refl c)

/-- Closing links is nothing else. -/
theorem filterMap_closed {α : Type} {f : LinkEvent → Option α}
    (hf : ∀ link, f (.closed link) = none) (ls : List Link) :
    (ls.map fun l => .closed l.id).filterMap f = [] := by
  rw [List.filterMap_map, List.filterMap_eq_nil_iff]
  exact fun l _ => hf l.id

/-- With all handlers, the notices of a deed are those among its events. -/
theorem Done.notices_eq (h : c.Done d e) (all : c.handlers = {}) :
    e.notices = (raisedIn e.events).map some := by
  cases h with
  | connected h hl hr hq => rcases hq with rfl | ⟨rfl, -⟩ <;> rfl
  | closed => rw [raisedIn, filterMap_closed fun _ => rfl, List.map_nil]
  | updated worked => exact worked.notices_eq all
  | _ => rfl

theorem Change.agrees (h : Change c es c') (hc : c.Agrees) : c'.Agrees := by
  unfold Agrees at hc ⊢
  cases h with
  | work h => exact h.agrees hc
  | opened => simp [opening]
  | sent payload hl => simpa [hl] using hc
  | dropped => simp
  | lost => simp
  | received => exact hc
  | failed link reason => simpa [failRead] using hc

end Channel

/-! ## What holds in every course -/

namespace Reached

open Channel

variable {config : ChannelConfig} {handlers : Handlers} {s : Course}

theorem agrees (h : Reached config handlers s) : s.channel.Agrees := by
  induction h with
  | start => simp [Agrees, new]
  | @step s s' d _ hs ih =>
    obtain ⟨e, he, rfl⟩ := Course.step_eq_ok.1 hs
    obtain ⟨e', he', done⟩ := perform_done ih d
    obtain rfl : e = e' := Except.ok.inj (he.symm.trans he')
    rcases done.changes with changes | ⟨-, -, channel⟩ | ⟨handlers, -, -, channel⟩
    · exact changes.invariant (P := fun _ c => c.Agrees) (h := []) Change.agrees ih
    · rw [channel]
      simp [Agrees, close]
    · rw [channel]
      exact ih

theorem done {s' : Course} {d : Deed} (h : Reached config handlers s) (hs : s.step d = .ok s') :
    ∃ e, s.channel.Done d e ∧ s' = ⟨e.channel, s.turns ++ [⟨s.channel, d, e⟩]⟩ := by
  obtain ⟨e, he, rfl⟩ := Course.step_eq_ok.1 hs
  obtain ⟨e', he', done⟩ := perform_done h.agrees d
  obtain rfl : e = e' := Except.ok.inj (he.symm.trans he')
  exact ⟨e, done, rfl⟩

/-- Every turn of a course was done. -/
theorem done_of_mem {t : Turn} (h : Reached config handlers s) (ht : t ∈ s.turns) :
    t.before.Done t.deed t.effect := by
  induction h with
  | start => cases ht
  | step hr hs ih =>
    obtain ⟨e, done, rfl⟩ := hr.done hs
    rcases List.mem_append.1 ht with ht | ht
    · exact ih ht
    · obtain rfl := List.mem_singleton.1 ht
      exact done

/-- What every change keeps, and closing and the registrations too, holds in a course. -/
theorem invariant {P : List LinkEvent → Channel → Prop} (start : P [] (new config handlers))
    (change : ∀ {h c es c'}, Change c es c' → P h c → P (h ++ es) c')
    (close : ∀ {h c}, P h c → P (h ++ c.links.map fun l => .closed l.id) c.close.1)
    (register : ∀ {h c} handlers, (∃ t ∈ s.turns, t.deed = .register handlers) → P h c →
      P h { c with handlers })
    (h : Reached config handlers s) : P s.history s.channel := by
  induction h with
  | start => exact start
  | @step s s' d hr hs ih =>
    obtain ⟨e, done, rfl⟩ := hr.done hs
    -- The handlers of the earlier turns are among those of all turns.
    have ih := ih fun handlers ⟨t, ht, hd⟩ =>
      register handlers ⟨t, List.mem_append_left _ ht, hd⟩
    rw [Course.history_concat]
    rcases done.changes with changes | ⟨-, events, channel⟩ | ⟨handlers, hd, events, channel⟩
    · exact changes.invariant change ih
    · rw [events, channel]
      exact close ih
    · rw [events, channel, List.append_nil]
      exact register handlers ⟨_, List.mem_append_right _ (List.mem_singleton.2 rfl), hd⟩ ih

/-- The configuration stays. -/
theorem config_eq (h : Reached config handlers s) : s.channel.config = config.effective := by
  refine invariant (P := fun _ c => c.config = config.effective) rfl ?_ (fun hc => hc)
    (fun _ _ hc => hc) h
  intro _ c es c' hw hc
  cases hw with
  | work hw => rw [hw.config, hc]
  | _ => exact hc

end Reached

/-! ## Going on -/

theorem Course.run_cons {s s' : Course} {d : Deed} {ds : List Deed} :
    run s (d :: ds) = .ok s' ↔ ∃ s₁, s.step d = .ok s₁ ∧ run s₁ ds = .ok s' := by
  rw [run, List.foldlM_cons]
  cases s.step d with
  | error f => simp [bind, Except.bind]
  | ok s₁ => simp [bind, Except.bind, run]

/-- Going on adds turns, one for each deed. -/
theorem Course.run_turns {deeds : List Deed} : ∀ {s s' : Course}, run s deeds = .ok s' →
    ∃ ts, s'.turns = s.turns ++ ts ∧ ts.map (·.deed) = deeds := by
  induction deeds with
  | nil =>
    intro s s' h
    cases h
    exact ⟨[], (List.append_nil _).symm, rfl⟩
  | cons d ds ih =>
    intro s s' h
    obtain ⟨s₁, hs, h⟩ := run_cons.1 h
    obtain ⟨ts, hts, hds⟩ := ih h
    obtain ⟨e, -, rfl⟩ := step_eq_ok.1 hs
    refine ⟨⟨s.channel, d, e⟩ :: ts, ?_, ?_⟩
    · rw [hts, List.append_assoc, List.singleton_append]
    · rw [List.map_cons, hds]

theorem Reached.run {config : ChannelConfig} {handlers : Handlers} {deeds : List Deed} :
    ∀ {s s' : Course}, Reached config handlers s → s.run deeds = .ok s' →
      Reached config handlers s' := by
  induction deeds with
  | nil =>
    intro s s' hr h
    cases h
    exact hr
  | cons d ds ih =>
    intro s s' hr h
    obtain ⟨s₁, hs, h⟩ := Course.run_cons.1 h
    exact ih (hr.step hs) h

/-- No deed breaks off. -/
theorem Course.run_reached (config : ChannelConfig) (handlers : Handlers) (deeds : List Deed) :
    ∃ s, run { channel := .new config handlers } deeds = .ok s ∧ Reached config handlers s := by
  have goes : ∀ s, Reached config handlers s → ∃ s', run s deeds = .ok s' := by
    induction deeds with
    | nil => exact fun s _ => ⟨s, rfl⟩
    | cons d ds ih =>
      intro s hs
      obtain ⟨e, he, -⟩ := Channel.perform_done hs.agrees d
      have hstep := Course.step_eq_ok.2 ⟨e, he, rfl⟩
      obtain ⟨s', hrun⟩ := ih _ (hs.step hstep)
      exact ⟨s', run_cons.2 ⟨_, hstep, hrun⟩⟩
  obtain ⟨s, hrun⟩ := goes _ .start
  exact ⟨s, hrun, Reached.start.run hrun⟩

/-! ## A peer on the same host -/

namespace Deed

/-- Connects to the peer. -/
def dialPeer : Deed :=
  .connect [] none ⟨.zero, .zero⟩ .zero ⟨utf8 "tool-01", 0, utf8 "127.0.0.1", 40000⟩

/-- An update in which every write succeeds. -/
def flushAt (now : Instant) : Deed :=
  .update (fun _ _ _ => none) ⟨now, now⟩

/-- The peer sends a frame on the first link. -/
def fromPeer (frame : Bytes) : Deed :=
  .arrive (.datagram 0 ⟨Address.loopbackIp, 40000⟩ frame)

/-- The peer receives a hello and grants the link under a nonce. -/
def greetPeer (nonce : Uuid) : List Deed :=
  [dialPeer, flushAt .zero, fromPeer (Frame.welcome nonce (utf8 "session-1")), flushAt .zero]

end Deed

/-- What is seen of a channel after some deeds. -/
def Course.after {α : Type} (deeds : List Deed) (see : Course → α) (config : ChannelConfig := {}) :
    Option α :=
  (run { channel := .new config } deeds).toOption.map see

end Teleop
