import Teleop.Proofs.Frame
import Teleop.Proofs.Link.Inbox

/-!
# Sessions are granted under the nonce of the link

A channel becomes connected by a welcome that came in on its current link from the remote address of
the link and repeats the nonce of the latest connect. The first such welcome names the session.
Everything else that could be taken for a welcome is passed over.

* `Frame.grants` says what a welcome looks like, and `Frame.granted` which session it names;
* `Channel.Vouched` is the invariant about the welcomes that were handled for the current link;
* `Channel.update_passes`: an update is the same without a datagram that it passes over;
* `Course.session_granted`: what holds in every course.
-/

namespace Teleop

namespace Frame

/-- The datagram is a welcome that repeats a nonce. -/
def grants (nonce : Uuid) (datagram : Bytes) : Bool :=
  datagram.head? = some welcomeByte ∧ nonceSize + sessionSize ≤ datagram.tail.length ∧
    datagram.tail.take nonceSize = nonce.bytes

/-- The session that a welcome names. -/
def granted (datagram : Bytes) : Text :=
  cutAtZero ((datagram.tail.drop nonceSize).take sessionSize)

/-- Reading the body of a welcome. -/
theorem nonced?_sessionSize_eq_some_iff {body : Bytes} {nonce : Uuid} {session : Text} :
    nonced? body sessionSize = some (nonce, session) ↔
      grants nonce (welcomeByte :: body) = true ∧ session = granted (welcomeByte :: body) := by
  unfold grants granted
  rw [nonced?_eq_some_iff, decide_eq_true_eq]
  constructor
  · rintro ⟨long, same, rfl⟩
    exact ⟨⟨rfl, long, same⟩, rfl⟩
  · rintro ⟨⟨-, long, same⟩, rfl⟩
    exact ⟨long, same, rfl⟩

theorem eq_cons_of_grants {nonce : Uuid} {datagram : Bytes} (h : grants nonce datagram = true) :
    datagram = welcomeByte :: datagram.tail := by
  obtain ⟨head, -⟩ := of_decide_eq_true h
  exact List.eq_cons_of_mem_head? head

end Frame

/-! ## Welcomes that were handled -/

/-- What the datagrams that were handled for the current link of a channel come to. -/
def Welcomed : Phase → Uuid → Text → List Bytes → Prop
  | .disconnected, _, _, _ => False
  | .connecting, nonce, _, handled => handled.find? (Frame.grants nonce) = none
  | .connected, nonce, session, handled => ∃ datagram,
    handled.find? (Frame.grants nonce) = some datagram ∧ session = Frame.granted datagram

/-- More datagrams change nothing, if there is no welcome among them that is waited for. -/
theorem Welcomed.append {phase : Phase} {nonce : Uuid} {session : Text} {handled more : List Bytes}
    (h : Welcomed phase nonce session handled)
    (idle : phase = .connecting → ∀ datagram ∈ more, Frame.grants nonce datagram = false) :
    Welcomed phase nonce session (handled ++ more) := by
  cases phase with
  | disconnected => exact h
  | connecting =>
    change (handled ++ more).find? _ = none
    rw [List.find?_append, show handled.find? _ = none from h, Option.none_or, List.find?_eq_none]
    intro datagram mem
    rw [idle rfl datagram mem]
    exact Bool.false_ne_true
  | connected =>
    obtain ⟨datagram, found, named⟩ := h
    exact ⟨datagram, by rw [List.find?_append, found, Option.some_or], named⟩

namespace Channel

/-- The channel is connected if a welcome was handled for its current link. -/
def Vouched (history : List LinkEvent) (c : Channel) : Prop :=
  c.Consumed (fun link handled => ∀ l, c.current = some l → l.id = link →
    Welcomed c.phase c.nonce c.session handled) history

variable {c c' : Channel} {h es : List LinkEvent}

theorem awaits_iff {item : Nat × Bytes} : c.Awaits item ↔ c.phase = .connecting ∧
    ∃ l, c.current = some l ∧ item.1 = l.id ∧ Frame.grants c.nonce item.2 = true := by
  constructor
  · rintro ⟨waits, l, body, session, hl, hid, hitem, hb⟩
    exact ⟨waits, l, hl, hid, hitem ▸ (Frame.nonced?_sessionSize_eq_some_iff.1 hb).1⟩
  · rintro ⟨waits, l, hl, hid, grants⟩
    have cons := Frame.eq_cons_of_grants grants
    refine ⟨waits, l, item.2.tail, Frame.granted item.2, hl, hid, cons, ?_⟩
    exact Frame.nonced?_sessionSize_eq_some_iff.2 ⟨cons ▸ grants, cons ▸ rfl⟩

/-- Nothing comes in and nothing is handled. The current link stays as far as it was, or is new. -/
theorem Vouched.keep (hv : c.Vouched h) (hc : c.Custody h)
    (received : ∀ link, receivedOn link es = []) (inbox : c'.inbox = c.inbox)
    (current : ∀ l', c'.current = some l' →
      (c'.phase = c.phase ∧ c'.nonce = c.nonce ∧ c'.session = c.session ∧
        ∃ l, c.current = some l ∧ l.id = l'.id) ∨
      (c'.phase = .connecting ∧ c.opened ≤ l'.id)) : c'.Vouched (h ++ es) := by
  refine Consumed.keep hv received inbox fun link handled hr welcomed l' hl' hid => ?_
  rcases current l' hl' with ⟨phase, nonce, session, l, hl, same⟩ | ⟨phase, new⟩
  · rw [phase, nonce, session]
    exact welcomed l hl (same.trans hid)
  · rw [(hc.fresh (hid ▸ new)).2.2.1] at hr
    obtain ⟨rfl, -⟩ := List.append_eq_nil_iff.1 hr.symm
    rw [phase]
    rfl

theorem Work.vouched (hw : Work c es c') (hc : c.Custody h) (hv : c.Vouched h) :
    c'.Vouched (h ++ es) := by
  have same : ∀ l, c.current = some l → (c.phase = c.phase ∧ c.nonce = c.nonce ∧
      c.session = c.session ∧ ∃ l', c.current = some l' ∧ l'.id = l.id) ∨
      (c.phase = .connecting ∧ c.opened ≤ l.id) := fun l hl => .inl ⟨rfl, rfl, rfl, l, hl, rfl⟩
  cases hw with
  | @skipped item rest hin idle =>
    refine Consumed.take hv hin (fun _ => rfl) rfl fun link handled welcomed l hl hid => ?_
    refine (welcomed l hl hid).append fun waits datagram mem => ?_
    obtain rfl := List.mem_singleton.1 (mem_ofLink.1 mem)
    exact eq_false_of_ne_true fun grants => idle (awaits_iff.2 ⟨waits, l, hl, hid.symm, grants⟩)
  | @welcomed l body rest session hl hin waits hb =>
    refine Consumed.take hv hin (receivedOn_raisedIf _ _ _) rfl ?_
    intro link handled welcomed l' hl' hid
    obtain rfl := Option.some.inj (hl.symm.trans hl')
    have none := welcomed l hl hid
    rw [waits] at none
    obtain ⟨grants, named⟩ := Frame.nonced?_sessionSize_eq_some_iff.1 hb
    refine ⟨Frame.welcomeByte :: body, ?_, named⟩
    rw [ofLink_cons, if_pos hid, List.find?_append, show handled.find? _ = _ from none,
      Option.none_or, List.find?_cons_of_pos grants]
  | @told l body rest m hl hin up hm =>
    refine Consumed.take hv hin (receivedOn_raisedIf _ _ _) rfl ?_
    intro link handled welcomed l' hl' hid
    exact (welcomed l' hl' hid).append fun waits => nomatch up.symm.trans waits
  | ended => exact hv.keep hc (receivedOn_raisedIf _ _ _) rfl nofun
  | @greeted l hl =>
    refine hv.keep hc (fun _ => rfl) rfl ?_
    rintro _ ⟨⟩
    exact .inl ⟨rfl, rfl, rfl, l, hl, rfl⟩
  | @wrote l frame left hl hq =>
    refine hv.keep hc (fun _ => rfl) rfl ?_
    rintro _ ⟨⟩
    exact .inl ⟨rfl, rfl, rfl, l, hl, rfl⟩
  | timed | wroteClosing | finished => exact hv.keep hc (fun _ => rfl) rfl same

theorem Change.vouched (hw : Change c es c') (hc : c.Custody h) (hv : c.Vouched h) :
    c'.Vouched (h ++ es) := by
  cases hw with
  | work hw => exact hw.vouched hc hv
  | opened =>
    refine hv.keep hc (fun _ => rfl) rfl ?_
    rintro _ ⟨⟩
    exact .inr ⟨rfl, Nat.le_refl _⟩
  | @sent l payload hl =>
    refine hv.keep hc (fun _ => rfl) rfl ?_
    rintro _ ⟨⟩
    exact .inl ⟨rfl, rfl, rfl, l, hl, rfl⟩
  | dropped | lost => exact hv.keep hc (fun _ => rfl) rfl nofun
  | received => exact Consumed.receive hv rfl fun _ _ welcomed => welcomed
  | failed id reason =>
    refine hv.keep hc (fun _ => rfl) rfl fun l' hl' => ?_
    obtain ⟨l, hl, rfl⟩ := Option.map_eq_some_iff.1 hl'
    exact .inl ⟨rfl, rfl, rfl, l, hl, (Link.fail_id ..).symm⟩

theorem Vouched.close (hv : c.Vouched h) (hc : c.Custody h) :
    c.close.1.Vouched (h ++ c.links.map fun l => .closed l.id) := by
  refine hv.keep hc (fun link => ?_) rfl nofun
  rw [receivedOn, filterMap_closed fun _ => rfl, ofLink_nil]

end Channel

theorem Reached.vouched {config : ChannelConfig} {handlers : Handlers} {s : Course}
    (h : Reached config handlers s) : s.channel.Vouched s.history := by
  refine h.keep (P := fun h c => c.Vouched h) (fun link => ⟨[], rfl, nofun⟩) Channel.Change.vouched
    (fun hc hv => hv.close hc) fun _ _ hv => hv

/-! ## Datagrams that are passed over -/

namespace Channel

namespace Round

/-- A datagram is passed over if it is not on the current link, or is a welcome that is not waited
for. -/
theorem handle_eq_pure {item : Nat × Bytes} {r : Round}
    (h : (∀ l, r.channel.current = some l → l.id ≠ item.1) ∨
      (item.2.head? = some Frame.welcomeByte ∧ ¬r.channel.Awaits item)) :
    (handle item).run r = .ok ((), r) := by
  have same : Returns (handle item) r fun _ r' => r' = r := by
    refine returns_bind (returns_get ?_)
    obtain ⟨link, datagram⟩ := item
    dsimp only
    split
    · next l kind body hl =>
      refine returns_ite (fun hid => ?_) fun _ => returns_pure rfl
      obtain ⟨head, idle⟩ := h.resolve_left fun other => other l hl hid
      obtain rfl := Option.some.inj head
      refine returns_ite (fun _ => returns_bind (returns_get ?_)) fun ne => absurd rfl ne
      split
      · exact returns_pure rfl
      · next nonce session hb =>
        refine returns_ite (fun waits => absurd ?_ idle) fun _ => returns_pure rfl
        exact ⟨waits.1, l, body, session, hl, hid.symm, rfl, waits.2 ▸ hb⟩
    · exact returns_pure rfl
  obtain ⟨⟨⟩, _, run, rfl⟩ := same
  exact run

/-- What is passed over after the datagrams `xs` may as well be left out. -/
theorem forM_handle_eq {xs : List (Nat × Bytes)} {item : Nat × Bytes} {r : Round}
    (h : Returns (xs.forM handle) r fun _ r' => (handle item).run r' = .ok ((), r'))
    (ys : List (Nat × Bytes)) :
    ((xs ++ item :: ys).forM handle).run r = ((xs ++ ys).forM handle).run r := by
  obtain ⟨⟨⟩, r', hxs, hitem⟩ := h
  rw [List.forM_eq_forM] at hxs ⊢
  have after : ∀ zs : List (Nat × Bytes),
      (forM (xs ++ zs) handle).run r = (forM zs handle).run r' := by
    intro zs
    rw [List.forM_append, StateT.run_bind, hxs]
    rfl
  rw [after, after, List.forM_cons, StateT.run_bind, hitem]
  rfl

end Round

variable {c : Channel}

/-- An update is the same without a datagram that is passed over when it is reached. -/
theorem update_eq_of_passed {xs ys : List (Nat × Bytes)} {item : Nat × Bytes}
    (hin : c.inbox = xs ++ item :: ys)
    (passed : ∀ {es : List LinkEvent} {c' : Channel}, c.Works es c' → c'.inbox = item :: ys →
      (∀ l, c'.current = some l → l.id ≠ item.1) ∨
        (item.2.head? = some Frame.welcomeByte ∧ ¬c'.Awaits item))
    (write : Nat → Address → Bytes → Option Text) (times : Times) :
    c.update write times = { c with inbox := xs ++ ys }.update write times := by
  have reached : Returns (xs.forM Round.handle) { channel := { c with inbox := [] } }
      fun _ r => Round.Tended c (item :: ys) r := by
    refine returns_forM (I := fun zs r => Round.Tended c (zs ++ item :: ys) r)
      (fun _ _ _ => Round.handle_tended)
      ⟨⟨?_, rfl, rfl, fun _ => List.not_mem_nil⟩, fun _ => rfl⟩
    rw [← hin]
    exact .refl c
  have skipped : Returns (xs.forM Round.handle) { channel := { c with inbox := [] } }
      fun _ r => (Round.handle item).run r = .ok ((), r) := by
    refine reached.mono fun _ r tended => ?_
    have idle := passed tended.works rfl
    exact Round.handle_eq_pure idle
  have handled := Round.forM_handle_eq skipped ys
  have drained : Round.drainInbox.run { channel := c } =
      Round.drainInbox.run { channel := { c with inbox := xs ++ ys } } := by
    rw [← hin] at handled
    exact handled
  unfold update Round.run
  rw [StateT.run_bind, StateT.run_bind, drained]

/-- The next update passes over a datagram behind `xs` in the inbox: it is not on the current link,
or it is a welcome under another nonce, or it is one for a channel that is connected by then. -/
def Passes (c : Channel) (xs : List (Nat × Bytes)) (item : Nat × Bytes) : Prop :=
  (∀ l, c.current = some l → l.id ≠ item.1) ∨
  (item.2.head? = some Frame.welcomeByte ∧
    (Frame.grants c.nonce item.2 = false ∨ c.phase = .connected ∨
      ∃ datagram, (item.1, datagram) ∈ xs ∧ Frame.grants c.nonce datagram = true))

variable {c' : Channel} {h es : List LinkEvent}

/-- The current link of an update is the one that was there before it. -/
theorem Works.current (hs : c.Works es c') : c'.nonce = c.nonce ∧
    ∀ l', c'.current = some l' → ∃ l, c.current = some l ∧ l.id = l'.id ∧ l.remote = l'.remote := by
  induction hs with
  | refl => exact ⟨rfl, fun l hl => ⟨l, hl, rfl, rfl⟩⟩
  | step _ hw ih =>
    cases hw with
    | ended => exact ⟨ih.1, nofun⟩
    | @greeted l hl =>
      refine ⟨ih.1, ?_⟩
      rintro _ ⟨⟩
      exact ih.2 l hl
    | @wrote l frame left hl =>
      refine ⟨ih.1, ?_⟩
      rintro _ ⟨⟩
      exact ih.2 l hl
    | _ => exact ih

theorem update_passes {xs ys : List (Nat × Bytes)} {item : Nat × Bytes} (hc : c.Custody h)
    (hv : c.Vouched h) (hin : c.inbox = xs ++ item :: ys) (hp : c.Passes xs item)
    (write : Nat → Address → Bytes → Option Text) (times : Times) :
    c.update write times = { c with inbox := xs ++ ys }.update write times := by
  refine update_eq_of_passed hin (fun {es c'} hs hin' => ?_) write times
  obtain ⟨nonce, current⟩ := hs.current
  rcases hp with other | ⟨head, idle⟩
  · refine .inl fun l' hl' => ?_
    obtain ⟨l, hl, same, -⟩ := current l' hl'
    exact same ▸ other l hl
  · refine .inr ⟨head, fun awaits => ?_⟩
    obtain ⟨waits, l', hl', hid, grants⟩ := awaits_iff.1 awaits
    obtain ⟨l, hl, same, -⟩ := current l' hl'
    obtain ⟨handled, received, welcomed⟩ := hv item.1
    obtain ⟨handled', received', welcomed'⟩ := hs.changes.keep Change.vouched hc hv item.1
    -- The update has handled `xs` by now, and found no welcome there.
    have found : handled'.find? (Frame.grants c.nonce) = none := by
      have none := welcomed' l' hl' hid.symm
      rw [waits, nonce] at none
      exact none
    have split : handled' = handled ++ ofLink item.1 xs := by
      rw [receivedOn_append, hs.receivedOn_eq, List.append_nil, received, hin, hin', ofLink_append,
        ← List.append_assoc] at received'
      exact (List.append_cancel_right received').symm
    rw [split, List.find?_append, Option.or_eq_none_iff] at found
    rcases idle with refused | connected | ⟨datagram, mem, grants'⟩
    · rw [nonce, refused] at grants
      cases grants
    · have some := welcomed l hl (same.trans hid.symm)
      rw [connected] at some
      obtain ⟨datagram, found', -⟩ := some
      cases found.1.symm.trans found'
    · exact List.find?_eq_none.1 found.2 datagram (mem_ofLink.2 mem) grants'

end Channel

/-! ## The latest connect -/

namespace Turn

/-- The turn opens a link. -/
def connects (t : Turn) : Bool :=
  match t.deed with
  | .connect names bound times nonce dial =>
    (t.before.connect names bound times nonce dial).error.isNone
  | _ => false

/-- The turn brings a datagram from the remote address of a link to its socket. -/
def Brings (t : Turn) (l : Link) (datagram : Bytes) : Prop :=
  ∃ sender bytes, t.deed = .arrive (.datagram l.id sender bytes) ∧ sender.same l.remote = true ∧
    datagram = bytes.take t.before.config.readBufferSize.toNat

theorem Brings.congr {t : Turn} {l l' : Link} {datagram : Bytes} (h : t.Brings l datagram)
    (id : l.id = l'.id) (remote : l.remote = l'.remote) : t.Brings l' datagram := by
  unfold Brings at h ⊢
  rwa [id, remote] at h

theorem brings_of_delivers {t : Turn} {l : Link} {datagram : Bytes} (hl : t.before.current = some l)
    (h : t.delivers? l.id = some datagram) : t.Brings l datagram := by
  unfold delivers? at h
  split at h
  · next id sender bytes hd =>
    split at h
    · next l' hl' =>
      split at h
      · next facts =>
        obtain ⟨rfl, same⟩ := facts
        have first : t.before.link? l.id = some l := by simp [Channel.link?, hl]
        obtain rfl := Option.some.inj (first.symm.trans hl')
        exact ⟨sender, bytes, hd, same, (Option.some.inj h).symm⟩
      · cases h
    · cases h
  · cases h

end Turn

/-- The latest connect opened the link `l`, under the nonce that the channel has; the turns `since`
came after it. -/
def Course.Since (s : Course) (l : Link) (since : List Turn) : Prop :=
  ∃ before t names bound times dial, s.turns = before ++ t :: since ∧
    t.deed = .connect names bound times s.channel.nonce dial ∧ t.connects = true ∧
    (∀ t' ∈ since, t'.connects = false) ∧ l.id = t.before.opened ∧
    Address.resolve names dial.host dial.port = .ok l.remote

namespace Channel

variable {c : Channel} {d : Deed} {e : Effect} {l : Link}

/-- The current link after a turn was opened by it, or was there before it. -/
theorem Done.current (hd : c.Done d e) (hl : e.channel.current = some l) :
    (∃ names bound times dial, d = .connect names bound times e.channel.nonce dial ∧
      Turn.connects ⟨c, d, e⟩ = true ∧ l.id = c.opened ∧
      Address.resolve names dial.host dial.port = .ok l.remote) ∨
    (Turn.connects ⟨c, d, e⟩ = false ∧ e.channel.nonce = c.nonce ∧
      ∃ l', c.current = some l' ∧ l'.id = l.id ∧ l'.remote = l.remote) := by
  cases hd with
  | @connected names bound times nonce dial remote queue h _ hr =>
    cases hl
    exact .inl ⟨names, bound, times, dial, rfl, congrArg Option.isNone h, rfl, hr⟩
  | unconnected h => exact .inr ⟨congrArg (·.error.isNone) h, rfl, l, hl, rfl, rfl⟩
  | idle none => cases none.symm.trans hl
  | dropped | lost | closed => cases hl
  | sent h hm up hl' =>
    cases hl
    exact .inr ⟨rfl, rfl, _, hl', rfl, rfl⟩
  | failed link reason =>
    obtain ⟨l', hl', rfl⟩ := Option.map_eq_some_iff.1 hl
    exact .inr ⟨rfl, rfl, l', hl', (Link.fail_id ..).symm, (Link.fail_remote ..).symm⟩
  | updated worked =>
    obtain ⟨nonce, current⟩ := worked.works.current
    exact .inr ⟨rfl, nonce, current l hl⟩
  | _ => exact .inr ⟨rfl, rfl, l, hl, rfl, rfl⟩

end Channel

namespace Reached

variable {config : ChannelConfig} {handlers : Handlers} {s : Course} {l : Link}

/-- The latest connect opened the current link; all that was received on the link came after it, and
so did the updates that handled it. -/
theorem since (h : Reached config handlers s) (hl : s.channel.current = some l) :
    ∃ since, s.Since l since ∧
      (∀ datagram ∈ receivedOn l.id s.history, ∃ t ∈ since, t.Brings l datagram) ∧
      since.flatMap (Turn.consumes l.id) = s.turns.flatMap (Turn.consumes l.id) := by
  induction h generalizing l with
  | start => cases hl
  | @step s s' d hr hs ih =>
    obtain ⟨e, done, rfl⟩ := hr.done hs
    rcases done.current hl with ⟨names, bound, times, dial, hd, connects, hid, resolved⟩ |
      ⟨same, nonce, l', hl', id, remote⟩
    · -- The link is new, so that nothing was received on it.
      have received := (hr.custody.fresh (Nat.le_of_eq hid.symm)).2.2.1
      have consumed := hr.receivedOn_eq l.id
      rw [received] at consumed
      subst hd
      have none := List.sublist_nil.1 (done.received_sublist l.id)
      refine ⟨[], ⟨s.turns, ⟨s.channel, _, e⟩, names, bound, times, dial, rfl, rfl, connects, ?_,
        hid, resolved⟩, ?_, ?_⟩
      · exact fun _ h => absurd h List.not_mem_nil
      · rw [Course.history_concat, receivedOn_append, received, none]
        exact fun _ h => absurd h List.not_mem_nil
      · rw [List.flatMap_append, (List.append_eq_nil_iff.1 consumed.symm).1]
        rfl
    · obtain ⟨since, ⟨before, t, names, bound, times, dial, hts, hd, connects, later, hid,
        resolved⟩, brought, consumed⟩ := ih hl'
      rw [id] at brought consumed hid
      refine ⟨since ++ [⟨s.channel, d, e⟩], ⟨before, t, names, bound, times, dial, ?_, ?_, connects,
        ?_, hid, remote ▸ resolved⟩, ?_, ?_⟩
      · rw [hts, List.append_assoc, List.cons_append]
      · rw [hd, nonce]
      · exact List.forall_mem_append.2 ⟨later, List.forall_mem_singleton.2 same⟩
      · intro datagram mem
        rw [Course.history_concat, receivedOn_append, List.mem_append] at mem
        rcases mem with mem | mem
        · obtain ⟨t, ht, brings⟩ := brought datagram mem
          exact ⟨t, List.mem_append_left _ ht, brings.congr id remote⟩
        · refine ⟨_, List.mem_append_right _ List.mem_cons_self, ?_⟩
          have delivered := Option.mem_toList.1 ((done.received_sublist l.id).subset mem)
          exact (Turn.brings_of_delivers hl' (id ▸ delivered)).congr id remote
      · rw [List.flatMap_append, List.flatMap_append, consumed]

end Reached

/-- Who may make a channel connected. A connected channel got a welcome from the remote address of
its link, which the latest connect opened, and under the nonce of that connect; the first of these
that was handled names the session. A datagram from another address is not taken in, and an update
is the same without a welcome under another nonce, a datagram of an earlier link, or a further
welcome. -/
theorem Course.session_granted (config : ChannelConfig) (handlers : Handlers) (deeds : List Deed) :
    ∃ s, run { channel := .new config handlers } deeds = .ok s ∧
      (s.channel.phase = .connected → ∃ l since datagram, s.channel.current = some l ∧
        s.Since l since ∧ (∃ t ∈ since, t.Brings l datagram) ∧
        (since.flatMap (Turn.consumes l.id)).find? (Frame.grants s.channel.nonce) = some datagram ∧
        s.channel.session = Frame.granted datagram) ∧
      (∀ l, s.channel.current = some l → ∃ since, s.Since l since) ∧
      (∀ link sender bytes,
        (∀ l, s.channel.link? link = some l → sender.same l.remote = false) →
        s.channel.arrive (.datagram link sender bytes) = (s.channel, [])) ∧
      ∀ xs item ys, s.channel.inbox = xs ++ item :: ys → s.channel.Passes xs item →
        ∀ write times, s.channel.update write times =
          { s.channel with inbox := xs ++ ys }.update write times := by
  obtain ⟨s, hrun, hs⟩ := run_reached config handlers deeds
  refine ⟨s, hrun, fun connected => ?_, fun l hl => ?_, fun link sender bytes foreign => ?_,
    fun xs item ys hin passes => Channel.update_passes hs.custody hs.vouched hin passes⟩
  · obtain ⟨l, hl⟩ := Option.ne_none_iff_exists'.1 fun none => by
      cases connected.symm.trans (hs.agrees.1 none)
    obtain ⟨since, opened, brought, consumed⟩ := hs.since hl
    obtain ⟨handled, received, welcomed⟩ := hs.vouched l.id
    obtain rfl := List.append_cancel_right (received.symm.trans (hs.receivedOn_eq l.id))
    have granted := welcomed l hl rfl
    rw [connected] at granted
    obtain ⟨datagram, found, named⟩ := granted
    refine ⟨l, since, datagram, hl, opened, brought datagram ?_, consumed ▸ found, named⟩
    rw [received]
    exact List.mem_append_left _ (List.mem_of_find?_eq_some found)
  · obtain ⟨since, opened, -⟩ := hs.since hl
    exact ⟨since, opened⟩
  · change s.channel.receive link sender bytes = _
    unfold Channel.receive
    split
    · rfl
    · next l hl =>
      dsimp only
      rw [if_pos (by rw [foreign l hl, Bool.not_false, Bool.or_true])]

/-- A welcome completes the link and is told of. -/
example : Course.after (Deed.greetPeer .zero) (fun s =>
      (s.channel.session, writtenOn 0 s.history, s.notices)) =
    some (utf8 "session-1", [Frame.hello .zero (utf8 "tool-01")],
      [some (0, .connected (utf8 "session-1"))]) := by
  decide +kernel

/-- A welcome with a foreign nonce is ignored. -/
example : Course.after (Deed.greetPeer (Uuid.ofBytes (List.replicate 16 170))) (fun s =>
      (s.channel.phase, s.channel.active, s.notices)) = some (.connecting, true, []) := by
  decide +kernel

end Teleop
