import Teleop.Proofs.Link.Course
import Teleop.Session.Datagram

/-!
# Notices without a handler

A channel may have handlers for any of its three kinds of notices. A welcome, a message and a bye
without a handler go unnoticed. A link that ends because it cannot be read or was not welcomed in
time is announced without looking for a handler, so that the update breaks off if there is none.

* `Channel.Lapses` is the condition for the second way of ending;
* `Round.Gapped` is an update that has such a notice on its list or is bound to have one, which no
  part of an update changes;
* `update_completes_iff`: an update completes exactly if a link that lapses finds a handler.
-/

namespace Teleop

/-- There is a handler for the notice. -/
def Handlers.take (h : Handlers) : Notice → Bool
  | .connected _ => h.connected
  | .disconnected _ => h.disconnected
  | .message _ => h.message

namespace Channel

/-- The datagram is a bye on the current link. -/
def HearsBye (c : Channel) (item : Nat × Bytes) : Prop :=
  ∃ l body, c.current = some l ∧ item = (l.id, Frame.byeByte :: body)

/-- The current link ends at this time without a bye: it cannot be read, or it has waited for its
welcome too long and has not got it by now. -/
def Lapses (c : Channel) (now : Instant) : Prop :=
  (∀ item ∈ c.inbox, ¬c.HearsBye item) ∧ ∃ l, c.current = some l ∧
    (l.readError ≠ none ∨ c.phase = .connecting ∧ (∀ item ∈ c.inbox, ¬c.Awaits item) ∧
      c.config.connectTimeout ≤ now.since c.connectStarted)

variable {c : Channel} {now : Instant} {item : Nat × Bytes} {rest : List (Nat × Bytes)}

theorem not_lapses_of_current_eq_none (h : c.current = none) : ¬c.Lapses now := by
  rintro ⟨-, l, hl, -⟩
  rw [h] at hl
  cases hl

theorem not_lapses_of_hearsBye (bye : c.HearsBye item) (mem : item ∈ c.inbox) : ¬c.Lapses now :=
  fun h => h.1 item mem bye

theorem not_hearsBye_of_awaits (h : c.Awaits item) : ¬c.HearsBye item := by
  obtain ⟨-, -, body, session, -, -, hi, -⟩ := h
  rintro ⟨l, body', -, rfl⟩
  have same : Frame.byeByte = Frame.welcomeByte := (List.cons.inj hi).1
  revert same
  decide

/-- A datagram that is neither a bye nor awaited does not matter. -/
theorem lapses_of_passed (stays : ¬c.HearsBye item) (idle : ¬c.Awaits item) :
    Lapses { c with inbox := rest } now ↔ Lapses { c with inbox := item :: rest } now := by
  have byes : (∀ i ∈ item :: rest, ¬c.HearsBye i) ↔ ∀ i ∈ rest, ¬c.HearsBye i := by
    rw [List.forall_mem_cons, and_iff_right stays]
  have welcomes : (∀ i ∈ item :: rest, ¬c.Awaits i) ↔ ∀ i ∈ rest, ¬c.Awaits i := by
    rw [List.forall_mem_cons, and_iff_right idle]
  exact and_congr byes.symm (exists_congr fun l => and_congr_right fun _ =>
    or_congr_right (and_congr_right fun _ => and_congr_left fun _ => welcomes.symm))

/-- A welcomed link lapses only if it cannot be read. -/
theorem lapses_of_welcomed (awaited : c.Awaits item) (session : Text) :
    Lapses { c with inbox := rest, phase := .connected, session } now ↔
      Lapses { c with inbox := item :: rest } now := by
  have byes : (∀ i ∈ item :: rest, ¬c.HearsBye i) ↔ ∀ i ∈ rest, ¬c.HearsBye i := by
    rw [List.forall_mem_cons, and_iff_right (not_hearsBye_of_awaits awaited)]
  refine and_congr byes.symm (exists_congr fun l => and_congr_right fun _ => or_congr_right ?_)
  constructor
  · rintro ⟨waits, -⟩
    cases waits
  · rintro ⟨-, unawaited, -⟩
    exact absurd awaited (unawaited item List.mem_cons_self)

namespace Round

variable {r r' : Round} {l : Link} {todo : List (Nat × Bytes)}

/-- The list of notices has one without a handler, or will have one when the datagrams `todo` have
been handled. -/
def Gapped (now : Instant) (todo : List (Nat × Bytes)) (r : Round) : Prop :=
  none ∈ r.notices ∨ r.channel.handlers.disconnected = false ∧ (r.midway todo).Lapses now

theorem none_mem_telling {handled : Bool} {link : Nat} {n : Notice} :
    none ∈ (r.telling handled link n).notices ↔ none ∈ r.notices := by
  cases handled <;> simp [telling]

theorem telling_channel {handled : Bool} {link : Nat} {n : Notice} :
    (r.telling handled link n).channel = r.channel := by
  cases handled <;> rfl

/-! ## Datagrams -/

/-- What handling a datagram does to the current link. -/
inductive Handled (item : Nat × Bytes) (r r' : Round) : Prop
  | passed (stays : ¬r.channel.HearsBye item) (idle : ¬r.channel.Awaits item)
    (channel : r'.channel = r.channel)
  | welcomed (awaited : r.channel.Awaits item) (session : Text)
    (channel : r'.channel = { r.channel with phase := .connected, session })
  | ended (bye : r.channel.HearsBye item) (current : r'.channel.current = none)
    (handlers : r'.channel.handlers = r.channel.handlers)

theorem not_hearsBye_of_ne {kind : UInt8} {body : Bytes} {link : Nat}
    (hk : kind ≠ Frame.byeByte) : ¬c.HearsBye (link, kind :: body) := by
  rintro ⟨l, body', -, heq⟩
  exact hk (List.cons.inj (Prod.mk.inj heq).2).1

theorem welcome_handled {body : Bytes} (hl : r.channel.current = some l) :
    Returns (welcome l body) r fun _ r' =>
      Handled (l.id, Frame.welcomeByte :: body) r r' ∧ (none ∈ r'.notices ↔ none ∈ r.notices) := by
  have stays : ¬r.channel.HearsBye (l.id, Frame.welcomeByte :: body) :=
    not_hearsBye_of_ne (by decide)
  refine returns_bind (returns_get ?_)
  split
  · next hb =>
    refine returns_pure ⟨.passed stays ?_ rfl, Iff.rfl⟩
    rintro ⟨-, l', body', session, -, -, heq, hb'⟩
    cases heq
    rw [hb] at hb'
    cases hb'
  · next nonce session hb =>
    refine returns_ite ?_ fun hno => returns_pure ⟨.passed stays ?_ rfl, Iff.rfl⟩
    · rintro ⟨waits, rfl⟩
      refine returns_bind (returns_modify (returns_bind (returns_note (returns_raise ?_))))
      refine ⟨.welcomed ⟨waits, l, body, session, hl, rfl, rfl, hb⟩ session ?_, none_mem_telling⟩
      rw [telling_channel]
    · rintro ⟨waits, l', body', session', -, -, heq, hb'⟩
      cases heq
      rw [hb] at hb'
      cases hb'
      exact hno ⟨waits, rfl⟩

theorem data_handled {body : Bytes} :
    Returns (data l body) r fun _ r' =>
      Handled (l.id, Frame.dataByte :: body) r r' ∧ (none ∈ r'.notices ↔ none ∈ r.notices) := by
  have passed {r'} (channel : r'.channel = r.channel) :
      Handled (l.id, Frame.dataByte :: body) r r' :=
    .passed (not_hearsBye_of_ne (by decide)) (not_awaits_of_ne (by decide)) channel
  refine returns_bind (returns_get (returns_ite (fun _ => ?_) fun _ => ?_))
  · split
    · exact returns_note ⟨passed rfl, Iff.rfl⟩
    · exact returns_raise ⟨passed telling_channel, none_mem_telling⟩
  · exact returns_pure ⟨passed rfl, Iff.rfl⟩

theorem handle_handled (item : Nat × Bytes) :
    Returns (handle item) r fun _ r' =>
      Handled item r r' ∧ (none ∈ r'.notices ↔ none ∈ r.notices) := by
  refine returns_bind (returns_get ?_)
  obtain ⟨link, datagram⟩ := item
  dsimp only
  split
  · next l kind body hl =>
    refine returns_ite ?_ fun hid => returns_pure ⟨.passed ?_ ?_ rfl, Iff.rfl⟩
    · rintro rfl
      refine returns_ite ?_ fun not_welcome => returns_ite ?_ fun _ => ?_
      · rintro rfl
        exact welcome_handled hl
      · rintro rfl
        exact data_handled
      refine returns_ite ?_ fun not_bye => ?_
      · rintro rfl
        refine returns_bind (returns_finish hl fun entry => returns_raise ?_)
        refine ⟨.ended ⟨l, body, hl, rfl⟩ ?_ ?_, none_mem_telling⟩ <;> rw [telling_channel] <;> rfl
      · exact returns_pure
          ⟨.passed (not_hearsBye_of_ne not_bye) (not_awaits_of_ne not_welcome) rfl, Iff.rfl⟩
    · rintro ⟨l', body', hl', heq⟩
      obtain rfl : l = l' := Option.some.inj (hl.symm.trans hl')
      exact hid (Prod.mk.inj heq).1.symm
    · rintro ⟨-, l', body', session, hl', hid', -⟩
      obtain rfl : l = l' := Option.some.inj (hl.symm.trans hl')
      exact hid hid'.symm
  · next hno =>
    refine returns_pure ⟨.passed ?_ ?_ rfl, Iff.rfl⟩
    · rintro ⟨l, body, hl, heq⟩
      exact hno l _ _ hl (Prod.mk.inj heq).2
    · rintro ⟨-, l, body, session, hl, -, heq, -⟩
      exact hno l _ _ hl heq

theorem Handled.gapped (h : Handled item r r') (same : none ∈ r'.notices ↔ none ∈ r.notices) :
    Gapped now todo r' ↔ Gapped now (item :: todo) r := by
  unfold Gapped
  rw [same]
  refine or_congr_right ?_
  cases h with
  | passed stays idle channel =>
    rw [midway, channel]
    exact and_congr_right fun _ => lapses_of_passed stays idle
  | welcomed awaited session channel =>
    rw [midway, channel]
    exact and_congr_right fun _ => lapses_of_welcomed awaited session
  | ended bye current handlers =>
    have before : ¬(r.midway (item :: todo)).Lapses now :=
      not_lapses_of_hearsBye bye List.mem_cons_self
    have after : ¬(r'.midway todo).Lapses now := not_lapses_of_current_eq_none current
    exact ⟨fun h => absurd h.2 after, fun h => absurd h.2 before⟩

theorem drainInbox_gapped (c : Channel) (now : Instant) :
    Returns drainInbox { channel := c } fun _ r =>
      Gapped now [] r ↔ c.handlers.disconnected = false ∧ c.Lapses now := by
  refine returns_bind (returns_get (returns_bind (returns_modify ?_)))
  refine returns_forM (I := fun todo r =>
    Gapped now todo r ↔ c.handlers.disconnected = false ∧ c.Lapses now) ?_ ?_
  · intro item todo r h
    exact (handle_handled item).mono fun _ r' handled => (handled.1.gapped handled.2).trans h
  · exact or_iff_right List.not_mem_nil

/-! ## The current link -/

/-- A link that lapses has its notice now, or there is a gap in its place. -/
theorem finishLoudly_gapped (reason : Text) (hl : r.channel.current = some l)
    (lapses : (r.midway []).Lapses now) :
    Returns (finishLoudly reason) r fun _ r' =>
      r'.channel.current = none ∧ (Gapped now [] r' ↔ Gapped now [] r) := by
  refine returns_bind (returns_finish hl fun entry => returns_bind (returns_get ?_))
  refine returns_ite (fun handled => returns_raise ?_) fun unhandled => returns_modify ?_
  · have handled : r.channel.handlers.disconnected = true := handled
    refine ⟨rfl, ?_⟩
    have after : ¬(((r.ended l entry).telling true l.id (.disconnected reason)).midway []).Lapses
        now := not_lapses_of_current_eq_none rfl
    simp only [Gapped, none_mem_telling, handled, after, and_false, or_false, Bool.true_eq_false,
      false_and]
    rfl
  · have unhandled : r.channel.handlers.disconnected = false := eq_false_of_ne_true unhandled
    exact ⟨rfl, iff_of_true (.inl List.mem_cons_self) (.inr ⟨unhandled, lapses⟩)⟩

/-- After the reader was checked, the current link can be read. -/
theorem checkReader_gapped (r : Round) (now : Instant) :
    Returns checkReader r fun _ r' =>
      (∀ l, r'.channel.current = some l → l.readError = none) ∧
        (Gapped now [] r' ↔ Gapped now [] r) := by
  refine returns_bind (returns_get ?_)
  split
  · next reason hr =>
    obtain ⟨l, hl, failed⟩ := Option.bind_eq_some_iff.1 hr
    have lapses : (r.midway []).Lapses now :=
      ⟨fun _ mem => absurd mem List.not_mem_nil, l, hl, .inl (by rw [failed]; exact nofun)⟩
    refine (finishLoudly_gapped _ hl lapses).mono fun _ r' h => ⟨fun l' hl' => ?_, h.2⟩
    rw [h.1] at hl'
    cases hl'
  · next hr =>
    refine returns_pure ⟨fun l hl => ?_, Iff.rfl⟩
    simpa [hl] using hr

theorem gapped_iff_of_not_lapses (h : ¬(r.midway []).Lapses now) :
    Gapped now [] r ↔ none ∈ r.notices :=
  or_iff_left fun gap => h gap.2

/-- After the progress was checked, the gap is on the list if there is one at all. -/
theorem checkProgress_gapped {times : Times} (agrees : r.channel.Agrees)
    (readable : ∀ l, r.channel.current = some l → l.readError = none) :
    Returns (checkProgress times) r fun _ r' => none ∈ r'.notices ↔ Gapped times.now [] r := by
  refine returns_bind (returns_get (returns_ite (fun waits => ?_) fun up => returns_pure ?_))
  · obtain ⟨l, hl⟩ : ∃ l, r.channel.current = some l := by
      refine Option.ne_none_iff_exists'.1 fun hno => ?_
      rw [agrees.1 hno] at waits
      cases waits
    refine returns_ite (fun late => ?_) fun inTime => ?_
    · have lapses : (r.midway []).Lapses times.now :=
        ⟨fun _ mem => absurd mem List.not_mem_nil, l, hl,
          .inr ⟨waits, fun _ mem => absurd mem List.not_mem_nil, late⟩⟩
      refine (finishLoudly_gapped _ hl lapses).mono fun _ r' h => ?_
      exact (gapped_iff_of_not_lapses (not_lapses_of_current_eq_none h.1)).symm.trans h.2
    · have lasts : ¬(r.midway []).Lapses times.now := by
        rintro ⟨-, l', hl', failed | ⟨-, -, late⟩⟩
        · exact failed (readable l' hl')
        · exact inTime late
      refine returns_ite (fun _ => ?_) fun _ => ?_
      · split
        · exact returns_modify (gapped_iff_of_not_lapses lasts).symm
        · next hno => exact absurd hl (hno l)
      · exact returns_pure (gapped_iff_of_not_lapses lasts).symm
  · refine (gapped_iff_of_not_lapses ?_).symm
    rintro ⟨-, l, hl, failed | ⟨waits, -⟩⟩
    · exact failed (readable l hl)
    · exact up waits

/-! ## Whole updates -/

variable (write : Nat → Address → Bytes → Option Text)

theorem flush_notices (r : Round) :
    Returns (flush write) r fun _ r' => r'.notices = r.notices := by
  -- The closing links are written after the current one, whether there is one or not.
  have closing (r₁ : Round) (tried : Nat) (same : r₁.notices = r.notices) :
      Returns (do
        let closing ← writeClosing write tried r.channel.closing
        modify fun r => { r with channel := { r.channel with closing } } : RoundM Unit) r₁
        fun _ r' => r'.notices = r.notices :=
    returns_bind ((writeClosing_wrote write tried _).mono fun _ _ wrote =>
      returns_modify (wrote.notices.trans same))
  refine returns_bind (returns_get ?_)
  dsimp only
  split
  · refine returns_bind (returns_writeLink write fun r₁ _ _ _ notices _ _ => ?_)
    exact returns_bind (returns_modify (returns_bind (returns_pure (closing _ _ notices))))
  · exact returns_bind (returns_pure (closing r 0 rfl))

theorem run_gaps (hc : c.Agrees) (times : Times) :
    Returns (run write times) { channel := c } fun _ r =>
      none ∈ r.notices ↔ c.handlers.disconnected = false ∧ c.Lapses times.now := by
  refine returns_bind (((drainInbox_tended c).and (drainInbox_gapped c times.now)).mono ?_)
  rintro _ r₁ ⟨tended, gapped⟩
  refine returns_bind (((checkReader_tended tended).and (checkReader_gapped r₁ times.now)).mono ?_)
  rintro _ r₂ ⟨tended', readable, gapped'⟩
  have agrees := tended'.toTraced.agrees hc
  refine returns_bind ((checkProgress_gapped agrees readable).mono fun _ r₃ gap => ?_)
  refine (flush_notices write r₃).mono fun _ r₄ same => ?_
  rw [same, gap, gapped', gapped]

end Round

/-- Only notices with a handler are raised. -/
theorem Works.taken {es : List LinkEvent} {c' : Channel} (h : c.Works es c') :
    ∀ item ∈ raisedIn es, c.handlers.take item.2 = true := by
  have raisedIf {handlers : Handlers} {handled : Bool} {link : Nat} {n : Notice}
      (same : handlers.take n = handled) :
      ∀ item ∈ raisedIn (LinkEvent.raisedIf handled link n), handlers.take item.2 = true := by
    cases handled with
    | false => exact fun item mem => absurd mem List.not_mem_nil
    | true =>
      intro item mem
      obtain rfl := List.mem_singleton.1 mem
      exact same
  have taken := h.invariant
    (P := fun es c => ∀ item ∈ raisedIn es, c.handlers.take item.2 = true) (h := [])
    (fun {h c es c'} hw hp item mem => by
      rw [hw.handlers]
      rw [raisedIn_append, List.mem_append] at mem
      rcases mem with mem | mem
      · exact hp item mem
      cases hw with
      | @welcomed l body rest session => exact raisedIf (n := .connected session) rfl item mem
      | @told l body rest m => exact raisedIf (n := .message (some m)) rfl item mem
      | ended hl reason => exact raisedIf (n := .disconnected reason) rfl item mem
      | _ => exact absurd mem List.not_mem_nil)
    fun item mem => absurd mem List.not_mem_nil
  rw [h.handlers] at taken
  exact taken

/-- Which notices an update raises, and when one of them has no handler. -/
theorem update_notices (hc : c.Agrees) (write : Nat → Address → Bytes → Option Text)
    (times : Times) :
    ∃ u, c.update write times = .ok u ∧
      (∀ link n, some (link, n) ∈ u.notices → c.handlers.take n = true) ∧
      (none ∈ u.notices ↔ c.handlers.disconnected = false ∧ c.Lapses times.now) := by
  obtain ⟨u, hu, worked⟩ := update_works hc write times
  obtain ⟨_, r, hr, gaps⟩ := Round.run_gaps write hc times
  have notices : u.notices = r.notices.reverse := by
    unfold update at hu
    rw [hr] at hu
    cases hu
    rfl
  refine ⟨u, hu, fun link n mem => ?_, ?_⟩
  · refine worked.works.taken (link, n) ?_
    rw [← worked.notices]
    exact List.mem_filterMap.2 ⟨_, mem, rfl⟩
  · rw [notices, List.mem_reverse]
    exact gaps

end Channel

/-! ## Raising the notices -/

namespace Activity

variable {χ ι : Type}

/-- The update ends, whatever state its notices leave. -/
def Completes : Activity χ ι → Prop
  | done _ => True
  | fault _ => False
  | notice _ _ _ next | interrupt _ _ next => ∀ channel, (next channel).Completes

/-- All notices that are raised, up to a fault if there is one, satisfy `P`. -/
def RaisesOnly (P : Notice → Prop) : Activity χ ι → Prop
  | done _ | fault _ => True
  | notice _ n _ next => P n ∧ ∀ channel, (next channel).RaisesOnly P
  | interrupt _ _ next => ∀ channel, (next channel).RaisesOnly P

end Activity

namespace Wired

variable {ν ι : Type} {notices : List (Option (Nat × Notice))}

theorem raising_completes_iff (w : Wired ν) :
    (raising notices w : Activity (Wired ν) ι).Completes ↔ none ∉ notices := by
  induction notices generalizing w with
  | nil => exact iff_of_true trivial List.not_mem_nil
  | cons item rest ih =>
    cases item with
    | none => exact iff_of_false id fun h => h List.mem_cons_self
    | some item =>
      have later : none ∉ some item :: rest ↔ none ∉ rest := by simp
      rw [later]
      exact ⟨fun h => (ih w).1 (h w), fun h x => (ih x).2 h⟩

theorem raising_raisesOnly {P : Notice → Prop} (h : ∀ link n, some (link, n) ∈ notices → P n) :
    ∀ w : Wired ν, (raising notices w : Activity (Wired ν) ι).RaisesOnly P := by
  induction notices with
  | nil => exact fun _ => trivial
  | cons item rest ih =>
    have ih := ih fun link n mem => h link n (List.mem_cons_of_mem _ mem)
    cases item with
    | none => exact fun _ => trivial
    | some item => exact fun _ => ⟨h item.1 item.2 List.mem_cons_self, ih⟩

end Wired

/-- Whatever was done with a channel and whichever handlers were registered, an update raises only
notices that there is a handler for, and it completes unless the current link lapses and there is no
handler for that. -/
theorem Course.update_completes_iff (config : ChannelConfig) (handlers : Handlers)
    (deeds : List Deed) {ν ι : Type} (net : Network ν) (network : ν) (now : Instant) :
    ∃ s, run { channel := .new config handlers } deeds = .ok s ∧
      let update := ((net.transport : Transport (Wired ν) ι).update now ⟨s.channel, network⟩).2
      update.RaisesOnly (s.channel.handlers.take · = true) ∧
      (update.Completes ↔
        (s.channel.Lapses (net.clock network now).now →
          s.channel.handlers.disconnected = true)) := by
  obtain ⟨s, hrun, hs⟩ := run_reached config handlers deeds
  obtain ⟨u, hu, taken, gaps⟩ :=
    Channel.update_notices hs.agrees (net.write network) (net.clock network now)
  refine ⟨s, hrun, ?_⟩
  dsimp only [Network.transport]
  rw [hu]
  refine ⟨Wired.raising_raisesOnly taken _, (Wired.raising_completes_iff _).trans ?_⟩
  rw [gaps, not_and', Bool.not_eq_false]

/-- A network on which everything goes well. -/
def Network.flawless : Network Unit where
  names := [([112], Address.loopbackIp)]
  bind _ _ := none
  write _ _ _ _ := none
  after _ _ := ()

/-- Nobody wants to hear that the link has ended, and then its socket cannot be read. -/
def Course.deserted : List Deed :=
  [.connect [([112], Address.loopbackIp)] none ⟨.zero, .zero⟩ .zero ⟨[], 0, [112], 40000⟩,
    .register { disconnected := false }, .arrive (.failure 0 [98])]

/-- The update of a deserted link breaks off. -/
theorem Course.deserted_breaks_off :
    ∃ s, run { channel := .new {} } deserted = .ok s ∧
      (((Network.flawless.transport : Transport (Wired Unit) Empty).update .zero
        ⟨s.channel, ()⟩).2 = .fault .missingHandler) :=
  ⟨_, rfl, rfl⟩

end Teleop
