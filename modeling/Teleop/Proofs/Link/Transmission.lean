import Teleop.Proofs.Link.Custody

/-!
# Frames in the order of their acceptance

On a link that is open, the frames that were written followed by those that wait are the frames that
were accepted, in their order. A link that was dropped by a disconnect has a bye as its last frame,
and it is closed when the bye has been written.

* `Channel.Accounted` is the invariant, in terms of the history;
* `Turn.offers` and `Turn.bids` say which frames the calls of a turn put on a link;
* `Channel.Flushes`: an update writes what waits on each link, up to the first write that fails;
* `Course.frames_transmitted`: what holds in every course, and what an update without failures does.
-/

namespace Teleop

namespace Channel

/-- The frames of every link are accounted for, apart from links that were shut with the channel. -/
structure Accounted (shut : Nat → Prop) (history : List LinkEvent) (c : Channel) : Prop where
  queue : ∀ l ∈ c.links, writtenOn l.id history ++ l.outbound = acceptedOn l.id history
  current : ∀ l, c.current = some l → Frame.bye ∉ acceptedOn l.id history
  closed : ∀ link ∈ closedIn history, ¬shut link → Frame.bye ∈ acceptedOn link history →
    writtenOn link history = acceptedOn link history

variable {c c' : Channel} {h es : List LinkEvent} {shut : Nat → Prop}

/-- Nothing is accepted, written or closed; a link that was not there before has an empty queue. -/
theorem Accounted.quietly (ha : c.Accounted shut h) (hc : c.Custody h)
    (accepted : ∀ link, acceptedOn link es = []) (written : ∀ link, writtenOn link es = [])
    (closed : closedIn es = [])
    (links : ∀ l' ∈ c'.links, (∃ l ∈ c.links, l.id = l'.id ∧ l.outbound = l'.outbound) ∨
      (c.opened ≤ l'.id ∧ l'.outbound = []))
    (current : ∀ l', c'.current = some l' →
      (∃ l, c.current = some l ∧ l.id = l'.id) ∨ c.opened ≤ l'.id) :
    c'.Accounted shut (h ++ es) := by
  have accepted : ∀ link, acceptedOn link (h ++ es) = acceptedOn link h := by
    intro link
    rw [acceptedOn_append, accepted, List.append_nil]
  have written : ∀ link, writtenOn link (h ++ es) = writtenOn link h := by
    intro link
    rw [writtenOn_append, written, List.append_nil]
  refine ⟨fun l' hl' => ?_, fun l' hl' => ?_, fun link hlink => ?_⟩
  · rw [accepted, written]
    rcases links l' hl' with ⟨l, hl, id, outbound⟩ | ⟨new, empty⟩
    · rw [← id, ← outbound]
      exact ha.queue l hl
    · obtain ⟨accepted, written, -⟩ := hc.fresh new
      rw [accepted, written, empty]
      rfl
  · rw [accepted]
    rcases current l' hl' with ⟨l, hl, id⟩ | new
    · rw [← id]
      exact ha.current l hl
    · rw [(hc.fresh new).1]
      exact List.not_mem_nil
  · rw [closedIn_append, closed, List.append_nil] at hlink
    rw [accepted, written]
    exact ha.closed link hlink

/-- Something happens on one open link: frames are accepted at the end of its queue and written from
its beginning, or the link is closed. -/
theorem Accounted.touch {before after : List Link} {l : Link} (ha : c.Accounted shut h)
    (hc : c.Custody h) (hl : c.links = before ++ l :: after)
    (others : ∀ link, l.id ≠ link → acceptedOn link es = [] ∧ writtenOn link es = [])
    (links : ∀ l' ∈ c'.links, l' ∈ before ++ after ∨
      (l'.id = l.id ∧ l.outbound ++ acceptedOn l.id es = writtenOn l.id es ++ l'.outbound))
    (current : ∀ l', c'.current = some l' →
      Frame.bye ∉ acceptedOn l'.id es ∧ ∃ l, c.current = some l ∧ l.id = l'.id)
    (closed : ∀ link ∈ closedIn es, link = l.id ∧ acceptedOn l.id es = [] ∧
      writtenOn l.id es = [] ∧ (l.outbound = [] ∨ c.current = some l)) :
    c'.Accounted shut (h ++ es) := by
  have mem : l ∈ c.links := hl ▸ List.mem_append_right _ List.mem_cons_self
  refine ⟨fun l' hl' => ?_, fun l' hl' => ?_, fun link hlink open' bye => ?_⟩
  · rw [acceptedOn_append, writtenOn_append]
    rcases links l' hl' with hl' | ⟨id, moved⟩
    · have other : l.id ≠ l'.id := (hc.id_ne hl hl').symm
      rw [(others _ other).1, (others _ other).2, List.append_nil, List.append_nil]
      refine ha.queue l' ?_
      rw [hl]
      exact ((List.Sublist.refl before).append (List.sublist_cons_self l after)).subset hl'
    · rw [id, List.append_assoc, ← moved, ← List.append_assoc, ha.queue l mem]
  · obtain ⟨bye, l₀, hl₀, id⟩ := current l' hl'
    rw [acceptedOn_append, List.mem_append, not_or]
    exact ⟨id ▸ ha.current l₀ hl₀, bye⟩
  · rw [acceptedOn_append, writtenOn_append]
    rw [acceptedOn_append] at bye
    rw [closedIn_append, List.mem_append] at hlink
    -- A link that was closed before is not touched; the current link has no bye.
    rcases hlink with hlink | hlink
    · have other : l.id ≠ link := by
        rintro rfl
        exact hc.notMem_closedIn mem hlink
      rw [(others _ other).1, List.append_nil] at bye
      rw [(others _ other).1, (others _ other).2, List.append_nil, List.append_nil]
      exact ha.closed link hlink open' bye
    · obtain ⟨rfl, accepted, written, empty | hl⟩ := closed link hlink
      · have queue := ha.queue l mem
        rw [empty, List.append_nil] at queue
        rw [accepted, written, queue]
      · rw [accepted, List.append_nil] at bye
        exact absurd bye (ha.current l hl)

theorem links_of_current {l : Link} (hl : c.current = some l) : c.links = [] ++ l :: c.closing := by
  rw [links, hl]
  rfl

theorem links_of_closing {before after : List Link} {l : Link}
    (hl : c.closing = before ++ l :: after) :
    c.links = (c.current.toList ++ before) ++ l :: after := by
  rw [links, hl, List.append_assoc]

/-- The queue of the current link changes. -/
theorem Accounted.requeue {l : Link} {queue : List Bytes} (ha : c.Accounted shut h)
    (hc : c.Custody h) (hl : c.current = some l)
    (others : ∀ link, l.id ≠ link → acceptedOn link es = [] ∧ writtenOn link es = [])
    (moved : l.outbound ++ acceptedOn l.id es = writtenOn l.id es ++ queue)
    (bye : Frame.bye ∉ acceptedOn l.id es) (closed : closedIn es = []) :
    { c with current := some { l with outbound := queue } }.Accounted shut (h ++ es) := by
  refine ha.touch hc (links_of_current hl) others (fun l' hl' => ?_) ?_ (by simp [closed])
  · rcases List.mem_cons.1 hl' with rfl | hl'
    · exact .inr ⟨rfl, moved⟩
    · exact .inl hl'
  · rintro _ ⟨⟩
    exact ⟨bye, l, hl, rfl⟩

/-- The current link is closed. -/
theorem Accounted.ending {l : Link} (ha : c.Accounted shut h) (hc : c.Custody h)
    (hl : c.current = some l) (accepted : ∀ link, acceptedOn link es = [])
    (written : ∀ link, writtenOn link es = []) (closed : closedIn es = [l.id]) :
    { c with current := none, phase := .disconnected, session := [] }.Accounted shut (h ++ es) := by
  refine ha.touch hc (links_of_current hl) (fun link _ => ⟨accepted link, written link⟩)
    (fun l' hl' => .inl hl') nofun fun link hlink => ?_
  rw [closed] at hlink
  exact ⟨List.mem_singleton.1 hlink, accepted _, written _, .inr hl⟩

theorem Work.accounted (hw : Work c es c') (hc : c.Custody h) (ha : c.Accounted shut h) :
    c'.Accounted shut (h ++ es) := by
  have same : ∀ l ∈ c.links, (∃ l' ∈ c.links, l'.id = l.id ∧ l'.outbound = l.outbound) ∨
      (c.opened ≤ l.id ∧ l.outbound = []) := fun l hl => .inl ⟨l, hl, rfl, rfl⟩
  have still : ∀ l, c.current = some l →
      (∃ l', c.current = some l' ∧ l'.id = l.id) ∨ c.opened ≤ l.id := fun l hl => .inl ⟨l, hl, rfl⟩
  cases hw with
  | skipped => exact ha.quietly hc (fun _ => rfl) (fun _ => rfl) rfl same still
  | timed => exact ha.quietly hc (fun _ => rfl) (fun _ => rfl) rfl same still
  | welcomed =>
    exact ha.quietly hc (acceptedOn_raisedIf _ _ _) (writtenOn_raisedIf _ _ _)
      (closedIn_raisedIf ..) same still
  | told =>
    exact ha.quietly hc (acceptedOn_raisedIf _ _ _) (writtenOn_raisedIf _ _ _)
      (closedIn_raisedIf ..) same still
  | ended hl =>
    exact ha.ending hc hl (acceptedOn_raisedIf _ _ _) (writtenOn_raisedIf _ _ _)
      (congrArg (_ :: ·) (closedIn_raisedIf ..))
  | greeted hl =>
    refine ha.requeue hc hl (fun link other => ⟨by simp [other], rfl⟩) ?_ ?_ rfl
    · rw [acceptedOn_accepted, if_pos rfl]
      rfl
    · rw [acceptedOn_accepted, if_pos rfl, List.mem_singleton]
      exact nofun
  | wrote hl hq =>
    refine ha.requeue hc hl (fun link other => ⟨rfl, by simp [other]⟩) ?_ List.not_mem_nil rfl
    rw [writtenOn_written, if_pos rfl, hq]
    exact List.append_nil _
  | @wroteClosing before after l frame left hl hq =>
    refine ha.touch hc (links_of_closing hl) (fun link other => ⟨rfl, by simp [other]⟩)
      (fun l' hl' => ?_) (fun l' hl' => ⟨List.not_mem_nil, l', hl', rfl⟩) nofun
    have moved : l.outbound ++ acceptedOn l.id [.written l.id frame] =
        writtenOn l.id [.written l.id frame] ++ left := by
      rw [writtenOn_written, if_pos rfl, hq]
      exact List.append_nil _
    rw [links_of_closing rfl] at hl'
    rcases List.mem_append.1 hl' with hl' | hl'
    · exact .inl (List.mem_append_left _ hl')
    · rcases List.mem_cons.1 hl' with rfl | hl'
      · exact .inr ⟨rfl, moved⟩
      · exact .inl (List.mem_append_right _ hl')
  | @finished before after l hl hq =>
    refine ha.touch hc (links_of_closing hl) (fun link other => ⟨rfl, rfl⟩)
      (fun l' hl' => .inl ?_) (fun l' hl' => ⟨List.not_mem_nil, l', hl', rfl⟩) fun link hlink => ?_
    · rwa [List.append_assoc]
    · exact ⟨List.mem_singleton.1 hlink, rfl, rfl, .inl hq⟩

theorem Change.accounted (hw : Change c es c') (hc : c.Custody h) (ha : c.Accounted shut h) :
    c'.Accounted shut (h ++ es) := by
  cases hw with
  | work hw => exact hw.accounted hc ha
  | opened port remote now nonce identity hl =>
    refine ha.quietly hc (fun _ => rfl) (fun _ => rfl) rfl (fun l' hl' => ?_) ?_
    · rw [links_of_current rfl] at hl'
      rcases List.mem_cons.1 hl' with rfl | hl'
      · exact .inr ⟨Nat.le_refl _, rfl⟩
      · exact .inl ⟨l', List.mem_append_right _ hl', rfl, rfl⟩
    · rintro _ ⟨⟩
      exact .inr (Nat.le_refl _)
  | sent payload hl =>
    refine ha.requeue hc hl (fun link other => ⟨by simp [other], rfl⟩) ?_ ?_ rfl
    · rw [acceptedOn_accepted, if_pos rfl]
      rfl
    · rw [acceptedOn_accepted, if_pos rfl, List.mem_singleton]
      exact nofun
  | @dropped l hl =>
    refine ha.touch hc (links_of_current hl) (fun link other => ⟨by simp [other], rfl⟩)
      (fun l' hl' => ?_) nofun nofun
    rcases List.mem_append.1 (show l' ∈ c.closing ++ [_] from hl') with hl' | hl'
    · exact .inl hl'
    · obtain rfl := List.mem_singleton.1 hl'
      refine .inr ⟨rfl, ?_⟩
      rw [acceptedOn_accepted, if_pos rfl]
      rfl
  | lost hl => exact ha.ending hc hl (fun _ => rfl) (fun _ => rfl) rfl
  | received =>
    exact ha.quietly hc (fun _ => rfl) (fun _ => rfl) rfl
      (fun l hl => .inl ⟨l, hl, rfl, rfl⟩) fun l hl => .inl ⟨l, hl, rfl⟩
  | failed id reason =>
    refine ha.quietly hc (fun _ => rfl) (fun _ => rfl) rfl (fun l' hl' => ?_)
      fun l' hl' => ?_
    · rw [links_failRead] at hl'
      obtain ⟨l, hl, rfl⟩ := List.mem_map.1 hl'
      exact .inl ⟨l, hl, (Link.fail_id ..).symm, (Link.fail_outbound ..).symm⟩
    · obtain ⟨l, hl, rfl⟩ := Option.map_eq_some_iff.1 hl'
      exact .inl ⟨l, hl, (Link.fail_id ..).symm⟩

/-- Closing the channel shuts all links that are left. -/
theorem Accounted.close (ha : c.Accounted shut h) (all : ∀ l ∈ c.links, shut l.id) :
    c.close.1.Accounted shut (h ++ c.links.map fun l => .closed l.id) := by
  have accepted : ∀ link, acceptedOn link (h ++ c.links.map fun l => .closed l.id) =
      acceptedOn link h := by
    intro link
    rw [acceptedOn_append, acceptedOn, acceptedOn, filterMap_closed fun _ => rfl, ofLink_nil,
      List.append_nil]
  have written : ∀ link, writtenOn link (h ++ c.links.map fun l => .closed l.id) =
      writtenOn link h := by
    intro link
    rw [writtenOn_append, writtenOn, writtenOn, filterMap_closed fun _ => rfl, ofLink_nil,
      List.append_nil]
  refine ⟨by simp [links, Channel.close], by simp [Channel.close], fun link hlink open' bye => ?_⟩
  rw [accepted] at bye
  rw [accepted, written]
  rw [closedIn_append, List.mem_append] at hlink
  refine ha.closed link (hlink.resolve_right fun hlink => open' ?_) open' bye
  simp only [closedIn, List.filterMap_map, List.mem_filterMap] at hlink
  obtain ⟨l, hl, same⟩ := hlink
  exact Option.some.inj same ▸ all l hl

theorem Accounted.mono {shut' : Nat → Prop} (ha : c.Accounted shut h)
    (more : ∀ link, shut link → shut' link) : c.Accounted shut' h :=
  ⟨ha.queue, ha.current, fun link hlink open' =>
    ha.closed link hlink fun hs => open' (more link hs)⟩

end Channel

/-! ## What an update writes -/

/-- The link with the frames that were accepted on it at the end of its queue. -/
def Link.accepting (es : List LinkEvent) (l : Link) : Link :=
  { l with outbound := l.outbound ++ acceptedOn l.id es }

theorem Link.accepting_of_nil {es : List LinkEvent} {l : Link} (h : acceptedOn l.id es = []) :
    l.accepting es = l := by
  rw [accepting, h, List.append_nil]

theorem Link.accepting_append (es es' : List LinkEvent) (l : Link) :
    (l.accepting es).accepting es' = l.accepting (es ++ es') := by
  simp only [accepting, acceptedOn_append, List.append_assoc]

theorem Flush.flushed {write : Nat → Address → Bytes → Option Text} {n : Nat} {l : Link}
    {links before after links' : List Link} {es es' : List LinkEvent}
    (h : Flush write n (links.map (Link.accepting es)) es' links')
    (nodup : (links.map (·.id)).Nodup) (hl : links = before ++ l :: after) :
    Flushed (fun n => write n l.remote)
      (n + (before.flatMap fun l => attempted (writtenOn l.id es') (waitingOn l.id links')).length)
      (l.outbound ++ acceptedOn l.id es) (writtenOn l.id es') (waitingOn l.id links') := by
  have ids : (links.map (Link.accepting es)).map (·.id) = links.map (·.id) := List.map_map
  have sent := h.sent (ids ▸ nodup) (before.map (Link.accepting es)) (l.accepting es)
    (after.map (Link.accepting es)) (by rw [hl, List.map_append, List.map_cons])
  rwa [List.flatMap_map] at sent

namespace Channel

variable {c c' : Channel} {h es : List LinkEvent}

/-- As long as nothing is written, closing links stay as they are, and the current link is closed or
has more frames in its queue. -/
structure Tends (c : Channel) (es : List LinkEvent) (c' : Channel) : Prop where
  closing : c'.closing = c.closing
  current : c'.current = c.current.map (Link.accepting es) ∨
    c'.current = none ∧ ∃ l, c.current = some l ∧ l.id ∈ closedIn es

theorem Tends.quietly (accepted : ∀ link, acceptedOn link es = [])
    (closing : c'.closing = c.closing) (current : c'.current = c.current) : c.Tends es c' := by
  refine ⟨closing, .inl (current.trans ?_)⟩
  cases c.current with
  | none => rfl
  | some l => rw [Option.map_some, Link.accepting_of_nil (accepted l.id)]

theorem Work.tends (hw : Work c es c') (left : ∀ l ∈ c.closing, l.outbound ≠ [])
    (unwritten : ∀ link, writtenOn link es = []) : c.Tends es c' := by
  cases hw with
  | skipped | timed => exact .quietly (fun _ => rfl) rfl rfl
  | welcomed | told => exact .quietly (acceptedOn_raisedIf _ _ _) rfl rfl
  | ended hl => exact ⟨rfl, .inr ⟨rfl, _, hl, List.mem_cons_self⟩⟩
  | greeted hl =>
    refine ⟨rfl, .inl ?_⟩
    rw [hl, Option.map_some, Link.accepting, acceptedOn_accepted, if_pos rfl]
  | @wrote l frame | @wroteClosing _ _ l frame =>
    have none := unwritten l.id
    rw [writtenOn_written, if_pos rfl] at none
    cases none
  | @finished before after l hl hq => exact absurd hq (left l (by simp [hl]))

theorem Works.tends (hs : c.Works es c') (left : ∀ l ∈ c.closing, l.outbound ≠ [])
    (unwritten : ∀ link, writtenOn link es = []) : c.Tends es c' := by
  induction hs with
  | refl => exact .quietly (fun _ => rfl) rfl rfl
  | @step c₁ c₂ es es' _ hw ih =>
    have parts (link : Nat) : writtenOn link es = [] ∧ writtenOn link es' = [] := by
      rw [← List.append_eq_nil_iff, ← writtenOn_append]
      exact unwritten link
    have before := ih fun link => (parts link).1
    have last := hw.tends (before.closing ▸ left) fun link => (parts link).2
    refine ⟨last.closing.trans before.closing, ?_⟩
    rw [closedIn_append]
    rcases before.current with stays | ⟨gone, l, hl, closed⟩
    · rcases last.current with stays' | ⟨gone', l, hl, closed⟩
      · refine .inl (stays'.trans ?_)
        rw [stays, Option.map_map]
        exact congrArg (c.current.map ·) (funext fun l => Link.accepting_append es es' l)
      · rw [stays] at hl
        obtain ⟨l₀, hl₀, rfl⟩ := Option.map_eq_some_iff.1 hl
        exact .inr ⟨gone', l₀, hl₀, List.mem_append_right _ closed⟩
    · -- Without a current link, there is none afterwards.
      have still : c₂.current = none := by
        rcases last.current with stays | ⟨gone', -⟩
        · rw [stays, gone]
          rfl
        · exact gone'
      exact .inr ⟨still, l, hl, List.mem_append_left _ closed⟩

/-- What an update does to the frames that wait. Of those on an open link, and those that it accepts
there, it writes the frames before the first write that fails; that frame stays in the queue with
those behind it. The writes go on from link to link. Only a current link that the update closes is
left out, and nothing is written on links that are not open. -/
structure Flushes (c : Channel) (write : Nat → Address → Bytes → Option Text) (e : Effect) :
    Prop where
  sent : ∀ before l after, c.links = before ++ l :: after →
    Flushed (fun n => write n l.remote)
      (before.flatMap fun l =>
        attempted (writtenOn l.id e.events) (waitingOn l.id e.channel.links)).length
      (l.outbound ++ acceptedOn l.id e.events) (writtenOn l.id e.events)
      (waitingOn l.id e.channel.links) ∨
    c.current = some l ∧ l.id ∈ closedIn e.events ∧ writtenOn l.id e.events = []
  others : ∀ link, (∀ l ∈ c.links, l.id ≠ link) → writtenOn link e.events = []

theorem Custody.gone_of_closing {l : Link} (hc : c.Custody h) (hl : l ∈ c.closing) :
    c.Gone l.id :=
  ⟨hc.lt_opened (List.mem_append_right _ hl),
    fun _ hl' => (hc.id_ne (links_of_current hl') hl).symm⟩

section Flushes

variable {write : Nat → Address → Bytes → Option Text} {e : Effect} {es' : List LinkEvent}
  (written : ∀ link, writtenOn link e.events = writtenOn link es')
  (accepted : ∀ link, acceptedOn link e.events = acceptedOn link es)
include written accepted

theorem flushes_of_kept (hc : c.Custody h)
    (flush : Flush write 0 (c.links.map (Link.accepting es)) es' e.channel.links) :
    c.Flushes write e := by
  refine ⟨fun before l after hl => .inl ?_, fun link other => ?_⟩
  · have sent := flush.flushed (List.nodup_append.1 hc.nodup).1 hl
    simpa only [written, accepted, Nat.zero_add] using sent
  · rw [written]
    exact (flush.of_ne (List.forall_mem_map.2 other)).1

/-- A current link that is closed before the flush has no part in it. -/
theorem flushes_of_closed {l₀ : Link} (hc : c.Custody h) (hl₀ : c.current = some l₀)
    (closed : l₀.id ∈ closedIn e.events)
    (flush : Flush write 0 (c.closing.map (Link.accepting es)) es' e.channel.links) :
    c.Flushes write e := by
  have nodup := (List.nodup_append.1 hc.nodup).1
  have apart : ∀ l ∈ c.closing, l.id ≠ l₀.id := fun l hl => hc.id_ne (links_of_current hl₀) hl
  obtain ⟨unwritten, none⟩ := flush.of_ne (List.forall_mem_map.2 apart)
  have rest : c.links = l₀ :: c.closing := links_of_current hl₀
  rw [rest] at nodup
  refine ⟨fun before l after hl => ?_, fun link other => ?_⟩
  · rw [rest] at hl
    cases before with
    | nil =>
      cases hl
      exact .inr ⟨hl₀, closed, (written _).trans unwritten⟩
    | cons k before =>
      obtain ⟨rfl, split⟩ := List.cons.inj hl
      have sent := flush.flushed (List.nodup_cons.1 nodup).2 split
      have idle : attempted (writtenOn l₀.id es') (waitingOn l₀.id e.channel.links) = [] := by
        rw [unwritten, none]
        rfl
      left
      simpa only [written, accepted, Nat.zero_add, List.flatMap_cons, idle, List.nil_append]
        using sent
  · rw [written]
    rw [rest] at other
    exact (flush.of_ne (List.forall_mem_map.2 (List.forall_mem_cons.1 other).2)).1

end Flushes

theorem Worked.flushes {write : Nat → Address → Bytes → Option Text} {u : Updated}
    (worked : c.Worked write u) (hc : c.Custody h) (left : ∀ l ∈ c.closing, l.outbound ≠ []) :
    c.Flushes write
      { channel := u.channel, events := linkEvents u.events, notices := u.notices } := by
  obtain ⟨c₀, es, es', works, unwritten, events, flush⟩ := worked.flush
  have written (link : Nat) : writtenOn link (linkEvents u.events) = writtenOn link es' := by
    rw [events, writtenOn_append, unwritten, List.nil_append]
  have accepted (link : Nat) : acceptedOn link (linkEvents u.events) = acceptedOn link es := by
    rw [events, acceptedOn_append, flush.acceptedOn_eq_nil, List.append_nil]
  have tends := works.tends left unwritten
  have closing : c₀.closing = c.closing.map (Link.accepting es) := by
    refine tends.closing.trans ((List.map_congr_left fun l hl => ?_).trans (List.map_id _)).symm
    exact Link.accepting_of_nil (works.changes.gone (hc.gone_of_closing hl)).2.1
  rcases tends.current with stays | ⟨gone, l₀, hl₀, closed⟩
  · refine flushes_of_kept written accepted hc ?_
    rwa [links, stays, closing, Option.toList_map, ← List.map_append] at flush
  · refine flushes_of_closed written accepted hc hl₀ ?_ ?_
    · rw [events, closedIn_append]
      exact List.mem_append_left _ closed
    · rwa [links, gone, closing] at flush

end Channel

/-! ## What the calls put on a link -/

namespace Turn

/-- The hellos that a turn puts on a link, and the message of a call to send that is not refused. -/
def offers (link : Nat) (t : Turn) : List Bytes :=
  match t.deed with
  | .connect .. | .update .. =>
    (acceptedOn link t.effect.events).filter
      (· = Frame.hello t.effect.channel.nonce t.effect.channel.identity)
  | .send m =>
    match (t.before.send m).error, m.encode with
    | none, .ok payload =>
      if t.before.current.any (·.id = link) then [Frame.data payload] else []
    | _, _ => []
  | _ => []

/-- The turn drops a link that can be read. -/
def bids (link : Nat) (t : Turn) : Bool :=
  t.disconnects?.any fun l => l.id = link ∧ l.readError = none

theorem bids_eq_true {link : Nat} {t : Turn} : t.bids link = true ↔
    ∃ l, t.disconnects? = some l ∧ l.id = link ∧ l.readError = none := by
  simp [bids, Option.any_eq_true]

theorem drops?_of_disconnects? {t : Turn} {l : Link} (h : t.disconnects? = some l) :
    t.drops? = some l := by
  unfold disconnects? at h
  split at h
  · next hd => rwa [drops?, hd]
  · cases h

theorem bye_notMem_offers (link : Nat) (t : Turn) : Frame.bye ∉ t.offers link := by
  unfold offers
  split
  · rw [List.mem_filter]
    exact fun ⟨_, h⟩ => nomatch of_decide_eq_true h
  · rw [List.mem_filter]
    exact fun ⟨_, h⟩ => nomatch of_decide_eq_true h
  · split
    · split
      · exact fun h => nomatch List.mem_singleton.1 h
      · exact List.not_mem_nil
    · exact List.not_mem_nil
  · exact List.not_mem_nil

end Turn

namespace Course

/-- The frames apart from byes that all turns put on a link. -/
def offered (s : Course) (link : Nat) : List Bytes :=
  s.turns.flatMap (Turn.offers link)

/-- Some disconnect dropped the link. -/
def dropped (s : Course) (link : Nat) : Bool :=
  s.turns.any fun t => t.disconnects?.any (·.id = link)

end Course

namespace Channel

variable {c c' : Channel} {es : List LinkEvent} {d : Deed} {e : Effect}

/-- All that an update accepts are hellos. -/
theorem Works.hellos (hs : c.Works es c') (link : Nat) :
    ∀ frame ∈ acceptedOn link es, frame = Frame.hello c'.nonce c'.identity := by
  refine hs.invariant (h := [])
    (P := fun h c => ∀ frame ∈ acceptedOn link h, frame = Frame.hello c.nonce c.identity) ?_ nofun
  intro h c es c' hw hellos frame mem
  rw [acceptedOn_append, List.mem_append] at mem
  cases hw with
  | welcomed | told => exact hellos frame (by simpa using mem)
  | @ended l hl reason =>
    have none := acceptedOn_raisedIf c.handlers.disconnected l.id (.disconnected reason) link
    exact hellos frame (mem.resolve_right (List.eq_nil_iff_forall_not_mem.1 none frame))
  | greeted =>
    refine mem.elim (hellos frame) fun mem => ?_
    rw [acceptedOn_accepted] at mem
    split at mem
    · exact List.mem_singleton.1 mem
    · cases mem
  | _ => exact hellos frame (mem.resolve_right List.not_mem_nil)

/-- An update and a connect put hellos on links, a call to send puts a message there, and a
disconnect a bye. -/
theorem Done.acceptedOn_eq (hd : c.Done d e) (link : Nat) :
    acceptedOn link e.events = Turn.offers link ⟨c, d, e⟩ ++
      if Turn.bids link ⟨c, d, e⟩ then [Frame.bye] else [] := by
  -- The accepted frames are kept by the filter if they are hellos.
  have filtered : ∀ {hello : Bytes}, (∀ frame ∈ acceptedOn link e.events, frame = hello) →
      acceptedOn link e.events = (acceptedOn link e.events).filter (· = hello) ++ [] := by
    intro hello hellos
    rw [List.append_nil, List.filter_eq_self.2 fun frame mem => decide_eq_true (hellos frame mem)]
  cases hd with
  | connected h hl hr hq =>
    refine filtered fun frame mem => ?_
    rcases hq with rfl | ⟨rfl, -⟩
    · cases mem
    · have mem : frame ∈ acceptedOn link [.accepted c.opened _] := mem
      rw [acceptedOn_accepted] at mem
      split at mem
      · exact List.mem_singleton.1 mem
      · cases mem
  | updated worked => exact filtered (worked.works.hellos link)
  | idle hl =>
    have unused : ∀ e, Turn.bids link ⟨c, .disconnect, e⟩ = false := by
      simp [Turn.bids, Turn.disconnects?, hl]
    rw [unused]
    rfl
  | dropped hl readable => simp [Turn.offers, Turn.bids, Turn.disconnects?, hl, readable]
  | lost hl unreadable =>
    have unread : ∀ e, Turn.bids link ⟨c, .disconnect, e⟩ = false := by
      simp [Turn.bids, Turn.disconnects?, hl, unreadable]
    rw [unread]
    rfl
  | @unsent m _ h =>
    have refused : ∀ e, Turn.offers link ⟨c, .send m, e⟩ = [] := by
      simp [Turn.offers, h, Channel.refuse]
    rw [refused]
    rfl
  | sent h hm up hl => simp [Turn.offers, Turn.bids, Turn.disconnects?, h, hm, hl]
  | closed =>
    rw [acceptedOn, filterMap_closed fun _ => rfl]
    rfl
  | _ => rfl

/-- A link that a disconnect drops is closed, unless it can be read. -/
theorem Done.readable {l : Link} (hd : c.Done d e) (drops : Turn.disconnects? ⟨c, d, e⟩ = some l) :
    l.readError = none ∨ l.id ∈ closedIn e.events := by
  cases hd with
  | idle hl => cases hl.symm.trans drops
  | dropped hl readable =>
    obtain rfl := Option.some.inj (hl.symm.trans drops)
    exact .inl readable
  | lost hl =>
    obtain rfl := Option.some.inj (hl.symm.trans drops)
    exact .inr List.mem_cons_self
  | _ => cases drops

end Channel

/-! ## Transmission in a course -/

/-- One of the turns closed the link together with the channel. -/
def Shut (ts : List Turn) (link : Nat) : Prop :=
  ∃ t ∈ ts, t.deed = .close ∧ link ∈ closedIn t.effect.events

namespace Reached

variable {config : ChannelConfig} {handlers : Handlers} {s : Course} {link : Nat}

theorem accounted (h : Reached config handlers s) :
    s.channel.Accounted (Shut s.turns) s.history := by
  induction h with
  | start => exact ⟨nofun, nofun, nofun⟩
  | @step s s' d hr hs ih =>
    obtain ⟨e, done, rfl⟩ := hr.done hs
    rw [Course.history_concat]
    have ih : s.channel.Accounted (Shut (s.turns ++ [⟨s.channel, d, e⟩])) s.history :=
      ih.mono fun link ⟨t, ht, closed⟩ => ⟨t, List.mem_append_left _ ht, closed⟩
    rcases done.changes with changes | ⟨hd, events, channel⟩ | ⟨handlers, -, events, channel⟩
    · exact changes.keep (P := fun h c => c.Accounted _ h) Channel.Change.accounted hr.custody ih
    · have shut : ∀ l ∈ s.channel.links, Shut (s.turns ++ [⟨s.channel, d, e⟩]) l.id := by
        intro l hl
        refine ⟨_, List.mem_append_right _ List.mem_cons_self, hd, ?_⟩
        rw [events]
        exact List.mem_filterMap.2 ⟨.closed l.id, List.mem_map_of_mem hl, rfl⟩
      rw [events, channel]
      exact ih.close shut
    · rw [events, channel, List.append_nil]
      exact ⟨ih.queue, ih.current, ih.closed⟩

/-- What was accepted on a link is what the calls put there, and a bye if a disconnect dropped the
link while it could be read. -/
theorem acceptedOn_eq (h : Reached config handlers s) (link : Nat) :
    acceptedOn link s.history =
      s.offered link ++ if s.turns.any (Turn.bids link) then [Frame.bye] else [] := by
  induction h with
  | start => rfl
  | @step s s' d hr hs ih =>
    obtain ⟨e, done, rfl⟩ := hr.done hs
    have accepted := done.acceptedOn_eq link
    rw [Course.history_concat, acceptedOn_append, show acceptedOn link s.history = _ from ih]
    simp only [Course.offered, List.flatMap_append, List.flatMap_singleton, List.any_append,
      List.any_cons, List.any_nil, Bool.or_false]
    by_cases bye : s.turns.any (Turn.bids link)
    · -- The link is gone, so that the turn puts nothing on it.
      have gone : s.channel.Gone link := by
        obtain ⟨t, ht, bids⟩ := List.any_eq_true.1 bye
        obtain ⟨l, hl, rfl, -⟩ := Turn.bids_eq_true.1 bids
        exact hr.gone ht (Turn.drops?_of_disconnects? hl)
      rw [(done.gone gone).2.1] at accepted ⊢
      obtain ⟨offers, -⟩ := List.append_eq_nil_iff.1 accepted.symm
      simp [bye, offers]
    · rw [accepted]
      simp [bye]

theorem accepted_of_bye (h : Reached config handlers s)
    (bye : Frame.bye ∈ acceptedOn link s.history) :
    acceptedOn link s.history = s.offered link ++ [Frame.bye] := by
  have accepted := h.acceptedOn_eq link
  split at accepted
  · exact accepted
  · rw [accepted, List.append_nil] at bye
    obtain ⟨t, -, bye⟩ := List.mem_flatMap.1 bye
    exact absurd bye (t.bye_notMem_offers link)

theorem closedIn_of_mem {t : Turn} (ht : t ∈ s.turns) (hl : link ∈ closedIn t.effect.events) :
    link ∈ closedIn s.history := by
  obtain ⟨event, mem, closes⟩ := List.mem_filterMap.1 hl
  exact List.mem_filterMap.2 ⟨event, List.mem_flatMap.2 ⟨t, ht, mem⟩, closes⟩

theorem bids_eq_dropped {l : Link} (h : Reached config handlers s) (hl : l ∈ s.channel.links) :
    s.turns.any (Turn.bids l.id) = s.dropped l.id := by
  rw [Bool.eq_iff_iff, List.any_eq_true, Course.dropped, List.any_eq_true]
  simp only [Turn.bids_eq_true, Option.any_eq_true, decide_eq_true_eq]
  constructor
  · rintro ⟨t, ht, l', hd, same, -⟩
    exact ⟨t, ht, l', hd, same⟩
  · rintro ⟨t, ht, l', hd, same⟩
    refine ⟨t, ht, l', hd, same, ((h.done_of_mem ht).readable hd).resolve_right fun closed => ?_⟩
    exact h.custody.notMem_closedIn hl (same ▸ closedIn_of_mem ht closed)

/-- A link that closes has been sent a bye, and is not the current one. -/
theorem bye_of_closing {l : Link} (h : Reached config handlers s) (hl : l ∈ s.channel.closing) :
    Frame.bye ∈ acceptedOn l.id s.history ∧ s.channel.Gone l.id := by
  have mem : l ∈ s.channel.links := List.mem_append_right _ hl
  constructor
  · rw [← h.accounted.queue l mem]
    have last := (h.custody.closing l hl).2.resolve_left (h.left l hl)
    exact List.mem_append_right _ (List.mem_of_getLast? last)
  · exact h.custody.gone_of_closing hl

/-- When nothing is left to write, the links that were closing are closed, and all that was accepted
on them has been written. -/
theorem closed_of_written {s' : Course} {d : Deed} {l : Link} (h : Reached config handlers s)
    (hs : s.step d = .ok s') (hd : d ≠ .close) (idle : s'.channel.pending = false)
    (hl : l ∈ s.channel.closing) :
    l.id ∈ closedIn s'.history ∧ writtenOn l.id s'.history = s.offered l.id ++ [Frame.bye] := by
  have h' := h.step hs
  obtain ⟨bye, gone⟩ := h.bye_of_closing hl
  obtain ⟨e, done, rfl⟩ := h.done hs
  obtain ⟨gone', accepted, -⟩ := done.gone gone
  have closed : l.id ∈ closedIn (⟨e.channel, s.turns ++ [⟨s.channel, d, e⟩]⟩ : Course).history := by
    have opened := h'.custody.placed.mem_iff.2 (h'.custody.opened ▸ List.mem_range.2 gone'.1)
    refine (List.mem_append.1 opened).resolve_left fun hl' => ?_
    obtain ⟨l', hl', same⟩ := List.mem_map.1 hl'
    have closing : e.channel.closing = [] := by
      simpa [Channel.pending] using (Bool.or_eq_false_iff.1 idle).2
    rw [Channel.links, closing, List.append_nil, Option.mem_toList] at hl'
    exact gone'.2 l' hl' same
  have shut : ¬Shut (s.turns ++ [⟨s.channel, d, e⟩]) l.id := by
    rintro ⟨t, ht, hclose, mem⟩
    rcases List.mem_append.1 ht with ht | ht
    · exact h.custody.notMem_closedIn (List.mem_append_right _ hl) (closedIn_of_mem ht mem)
    · obtain rfl := List.mem_singleton.1 ht
      exact hd hclose
  have same : acceptedOn l.id (⟨e.channel, s.turns ++ [⟨s.channel, d, e⟩]⟩ : Course).history =
      acceptedOn l.id s.history := by
    rw [Course.history_concat, acceptedOn_append, accepted, List.append_nil]
  refine ⟨closed, ?_⟩
  rw [h'.accounted.closed l.id closed shut (same ▸ bye), same, h.accepted_of_bye bye]

/-- As long as nothing is put on any link, there is nothing to write again. -/
theorem still_written {s' : Course} {deeds : List Deed} (h : Reached config handlers s)
    (idle : s.channel.pending = false) (hrun : s.run deeds = .ok s')
    (same : ∀ link, acceptedOn link s'.history = acceptedOn link s.history) :
    s'.channel.pending = false := by
  have h' := h.run hrun
  obtain ⟨ts, hts, -⟩ := Course.run_turns hrun
  have history := Course.history_append (c := s.channel) hts
  -- A frame that waits was accepted before, when everything accepted had been written.
  by_contra pending
  obtain ⟨l, hl, left⟩ := h'.pending_iff.1 (Bool.not_eq_false _ ▸ pending)
  have written : writtenOn l.id s.history = acceptedOn l.id s.history := by
    by_cases new : s.channel.opened ≤ l.id
    · obtain ⟨accepted, written, -⟩ := h.custody.fresh new
      rw [accepted, written]
    · have opened := List.mem_range.2 (Nat.lt_of_not_le new)
      rw [← h.custody.opened, ← h.custody.placed.mem_iff, List.mem_append] at opened
      rcases opened with hl₀ | closed
      · obtain ⟨l₀, hl₀, id⟩ := List.mem_map.1 hl₀
        have empty : l₀.outbound = [] := by
          by_contra some
          rw [h.pending_iff.2 ⟨l₀, hl₀, some⟩] at idle
          cases idle
        have queue := h.accounted.queue l₀ hl₀
        rwa [empty, List.append_nil, id] at queue
      · refine absurd ?_ (h'.custody.notMem_closedIn hl)
        rw [history, closedIn_append]
        exact List.mem_append_left _ closed
  have queue := h'.accounted.queue l hl
  rw [same, ← written, history, writtenOn_append, List.append_assoc] at queue
  exact left (List.append_eq_nil_iff.1 (List.append_right_eq_self.1 queue)).2

end Reached

/-- How frames are transmitted. On an open link, what was written and what waits is what the calls
put there, in their order, and a bye if the link was dropped. A link that was dropped while it could
be read, and that was not closed with the channel, is closed with all of this written. An update
writes what waits on each link up to the first write that fails, and leaves the rest. An update in
which no write fails writes everything, and nothing waits until something is put on a link again. -/
theorem Course.frames_transmitted (config : ChannelConfig) (handlers : Handlers)
    (deeds : List Deed) :
    ∃ s, run { channel := .new config handlers } deeds = .ok s ∧
      (∀ l ∈ s.channel.links, writtenOn l.id s.history ++ l.outbound =
        s.offered l.id ++ if s.dropped l.id then [Frame.bye] else []) ∧
      (∀ t ∈ s.turns, ∀ l, t.disconnects? = some l → l.readError = none →
        l.id ∈ closedIn s.history → ¬Shut s.turns l.id →
        writtenOn l.id s.history = s.offered l.id ++ [Frame.bye]) ∧
      (∀ write times, ∃ e, s.channel.perform (.update write times) = .ok e ∧
        s.channel.Flushes write e) ∧
      ∀ write times, (∀ n remote frame, write n remote frame = none) →
        ∃ s', s.step (.update write times) = .ok s' ∧ s'.channel.pending = false ∧
          (∀ l ∈ s.channel.closing, l.id ∈ closedIn s'.history ∧
            writtenOn l.id s'.history = s.offered l.id ++ [Frame.bye]) ∧
          ∀ calls s'', s'.run calls = .ok s'' →
            (∀ link, acceptedOn link s''.history = acceptedOn link s'.history) →
            s''.channel.pending = false := by
  obtain ⟨s, hrun, hs⟩ := run_reached config handlers deeds
  refine ⟨s, hrun, fun l hl => ?_, fun t ht l hd readable closed shut => ?_, fun write times => ?_,
    fun write times ok => ?_⟩
  · rw [hs.accounted.queue l hl, hs.acceptedOn_eq, hs.bids_eq_dropped hl]
  · have bids : s.turns.any (Turn.bids l.id) = true :=
      List.any_eq_true.2 ⟨t, ht, Turn.bids_eq_true.2 ⟨l, hd, rfl, readable⟩⟩
    have accepted := hs.acceptedOn_eq l.id
    rw [if_pos bids] at accepted
    rw [hs.accounted.closed l.id closed shut (by simp [accepted]), accepted]
  · obtain ⟨e, he, done⟩ := Channel.perform_done hs.agrees (.update write times)
    refine ⟨e, he, ?_⟩
    cases done with
    | updated worked => exact worked.flushes hs.custody hs.left
  · obtain ⟨e, he, done⟩ := Channel.perform_done hs.agrees (.update write times)
    have hstep := step_eq_ok.2 ⟨e, he, rfl⟩
    have idle : e.channel.pending = false := by
      cases done with
      | updated worked => exact worked.all ok
    exact ⟨_, hstep, idle, fun l hl => hs.closed_of_written hstep nofun idle hl,
      fun calls s'' hcalls same => (hs.step hstep).still_written idle hcalls same⟩

/-- A message waits for the next update, and so does the bye of a disconnect, of which nobody is
told. -/
example :
    let wave : Message := .playAnimation (utf8 "wave")
    let sent := Deed.greetPeer .zero ++ [.send wave]
    let left := sent ++ [.flushAt .zero, .disconnect]
    let gone := left ++ [.flushAt .zero]
    [sent, left, gone].map (fun deeds => Course.after deeds fun s => s.channel.pending) =
        [some true, some true, some false] ∧
      Course.after gone (fun s => ((writtenOn 0 s.history).drop 1, s.notices.length)) =
        some ([Frame.data (wave.encode.toOption.getD []), Frame.bye], 1) := by
  decide +kernel

end Teleop
