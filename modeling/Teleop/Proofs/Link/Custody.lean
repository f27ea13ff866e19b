import Mathlib.Data.List.Perm.Basic
import Teleop.Proofs.Link.Course

/-!
# Where the links of a channel are

Every link that a channel opened is its current one, closes, or is closed, and it is in one of these
places only. `Channel.Custody` states this together with what the queues of the links can hold;
every change keeps it, and so does closing the channel.

* `Course.links_in_custody`: what holds in every course.
-/

namespace Teleop

namespace Channel

/-- Each link is in one place, the phase agrees with the current link, and the queues are bounded. A
closing link may have nothing left to write for as long as an update lasts. -/
structure Custody (history : List LinkEvent) (c : Channel) : Prop where
  limit : 0 < c.config.maxOutbound
  known : ∀ event ∈ history, event.about < c.opened
  agrees : c.Agrees
  session : c.phase ≠ .connected → c.session = []
  opened : openedIn history = List.range c.opened
  placed : (c.links.map (·.id) ++ closedIn history).Perm (openedIn history)
  current : ∀ l, c.current = some l → (l.outbound.length : Int) ≤ c.config.maxOutbound
  closing : ∀ l ∈ c.closing, (l.outbound.length : Int) ≤ c.config.maxOutbound + 1 ∧
    (l.outbound = [] ∨ l.outbound.getLast? = some Frame.bye)

variable {c c' : Channel} {h es : List LinkEvent} {d : Deed} {e : Effect}

namespace Custody

theorem nodup (hc : c.Custody h) : (c.links.map (·.id) ++ closedIn h).Nodup := by
  rw [hc.placed.nodup_iff, hc.opened]
  exact List.nodup_range

theorem lt_opened {l : Link} (hc : c.Custody h) (hl : l ∈ c.links) : l.id < c.opened := by
  have opened := hc.placed.mem_iff.1 (List.mem_append_left _ (List.mem_map_of_mem hl))
  rw [hc.opened] at opened
  exact List.mem_range.1 opened

/-- A link that is open is not closed. -/
theorem notMem_closedIn {l : Link} (hc : c.Custody h) (hl : l ∈ c.links) :
    l.id ∉ closedIn h := by
  intro closed
  exact (List.nodup_append.1 hc.nodup).2.2 _ (List.mem_map_of_mem hl) _ closed rfl

/-- No other open link has the number of a link. -/
theorem id_ne {before after : List Link} {l l' : Link} (hc : c.Custody h)
    (hl : c.links = before ++ l :: after) (hl' : l' ∈ before ++ after) : l'.id ≠ l.id := by
  have nodup := (List.nodup_append.1 hc.nodup).1
  rw [hl, List.map_append, List.map_cons, List.perm_middle.nodup_iff,
    ← List.map_append] at nodup
  intro same
  exact (List.nodup_cons.1 nodup).1 (same ▸ List.mem_map_of_mem hl')

/-- A link that is not opened yet has no history. -/
theorem fresh {link : Nat} (hc : c.Custody h) (new : c.opened ≤ link) :
    acceptedOn link h = [] ∧ writtenOn link h = [] ∧ receivedOn link h = [] ∧
      raisedOn link h = [] := by
  have other : ∀ event ∈ h, event.about ≠ link :=
    fun event mem => Nat.ne_of_lt (Nat.lt_of_lt_of_le (hc.known event mem) new)
  refine ⟨?_, ?_, ?_, ?_⟩ <;> refine ofLink_filterMap_eq_nil (fun e item hf => ?_) other <;>
    cases e <;> cases hf <;> rfl

end Custody

theorem custody_new (config : ChannelConfig) (handlers : Handlers) :
    (new config handlers).Custody [] where
  limit := by
    change 0 < ChannelConfig.orDefault config.maxOutbound 1024
    unfold ChannelConfig.orDefault
    split <;> omega
  known := nofun
  agrees := by simp [Agrees, new]
  session _ := rfl
  opened := rfl
  placed := by simp [links, new]
  current := by simp [new]
  closing := by simp [new]

/-- The events of a step are on open links. -/
theorem Work.about (hw : Work c es c') : c'.opened = c.opened ∧
    ∀ event ∈ es, ∃ l ∈ c.links, l.id = event.about := by
  have raised : ∀ {handled : Bool} {l : Link} {n : Notice}, c.current = some l →
      ∀ event ∈ LinkEvent.raisedIf handled l.id n, ∃ l ∈ c.links, l.id = event.about := by
    intro handled l n hl event mem
    refine ⟨l, by simp [links, hl], ?_⟩
    unfold LinkEvent.raisedIf at mem
    split at mem
    · rw [List.mem_singleton.1 mem]
      rfl
    · cases mem
  cases hw with
  | skipped | timed => exact ⟨rfl, fun _ mem => absurd mem List.not_mem_nil⟩
  | welcomed hl | told hl => exact ⟨rfl, raised hl⟩
  | ended hl => exact ⟨rfl, List.forall_mem_cons.2 ⟨⟨_, by simp [links, hl], rfl⟩, raised hl⟩⟩
  | greeted hl | wrote hl =>
    exact ⟨rfl, List.forall_mem_singleton.2 ⟨_, by simp [links, hl], rfl⟩⟩
  | wroteClosing hl | finished hl =>
    exact ⟨rfl, List.forall_mem_singleton.2 ⟨_, by simp [links, hl], rfl⟩⟩

/-- The events of a change are on links that are open then. -/
theorem Change.known (hw : Change c es c') (hc : c.Custody h) :
    ∀ event ∈ h ++ es, event.about < c'.opened := by
  have on_open : (∀ event ∈ es, ∃ l ∈ c.links, l.id = event.about) →
      ∀ event ∈ h ++ es, event.about < c.opened := by
    intro about event mem
    rcases List.mem_append.1 mem with mem | mem
    · exact hc.known event mem
    · obtain ⟨l, hl, same⟩ := about event mem
      exact same ▸ hc.lt_opened hl
  cases hw with
  | work hw =>
    rw [hw.about.1]
    exact on_open hw.about.2
  | opened =>
    intro event mem
    rcases List.mem_append.1 mem with mem | mem
    · exact Nat.lt_succ_of_lt (hc.known event mem)
    · rw [List.mem_singleton.1 mem]
      exact Nat.lt_succ_self _
  | sent payload hl | dropped hl | lost hl =>
    exact on_open (List.forall_mem_singleton.2 ⟨_, by simp [links, hl], rfl⟩)
  | received datagram hl => exact on_open (List.forall_mem_singleton.2 ⟨_, hl, rfl⟩)
  | failed => exact on_open fun _ mem => absurd mem List.not_mem_nil

/-- A link goes from the open ones to the closed ones. -/
theorem placed_of_closed (before : List Nat) {after closed opened : List Nat} {link : Nat}
    (placed : (before ++ link :: after ++ closed).Perm opened) :
    (before ++ after ++ (closed ++ [link])).Perm opened := by
  refine List.Perm.trans ?_ placed
  rw [← List.append_assoc]
  refine (List.perm_append_singleton link _).trans ?_
  rw [List.append_assoc, List.append_assoc]
  exact List.perm_middle.symm

/-- The queue of the current link changes. -/
theorem Custody.queue {l : Link} {queue : List Bytes} (hc : c.Custody h) (hl : c.current = some l)
    (known : ∀ event ∈ h ++ es, event.about < c.opened)
    (bound : (queue.length : Int) ≤ c.config.maxOutbound) (opens : openedIn es = [])
    (closes : closedIn es = []) :
    { c with current := some { l with outbound := queue } }.Custody (h ++ es) := by
  obtain ⟨limit, -, agrees, session, opened, placed, current, closing⟩ := hc
  refine ⟨limit, known, by simpa [Agrees, hl] using agrees, session, ?_, ?_, ?_, closing⟩
  · rw [openedIn_append, opens, List.append_nil]
    exact opened
  · rw [openedIn_append, closedIn_append, opens, closes]
    simpa [links, hl] using placed
  · rintro _ ⟨⟩
    exact bound

/-- The current link is closed. -/
theorem Custody.ending {l : Link} (hc : c.Custody h) (hl : c.current = some l)
    (known : ∀ event ∈ h ++ es, event.about < c.opened) (opens : openedIn es = [])
    (closes : closedIn es = [l.id]) :
    { c with current := none, phase := .disconnected, session := [] }.Custody (h ++ es) := by
  obtain ⟨limit, -, agrees, session, opened, placed, current, closing⟩ := hc
  refine ⟨limit, known, by simp [Agrees], by simp, ?_, ?_, by simp, closing⟩
  · rw [openedIn_append, opens, List.append_nil]
    exact opened
  · rw [openedIn_append, closedIn_append, opens, closes]
    rw [links, hl] at placed
    simpa [links] using placed_of_closed [] placed

theorem Work.custody (hw : Work c es c') (hc : c.Custody h) : c'.Custody (h ++ es) := by
  have known := (Change.work hw).known hc
  have agrees := hw.agrees hc.agrees
  obtain ⟨limit, -, -, session, opened, placed, current, closing⟩ := id hc
  cases hw with
  | skipped hin => exact ⟨limit, known, agrees, session, by simpa, by simpa, current, closing⟩
  | welcomed hl hin waits hb =>
    exact ⟨limit, known, agrees, by simp, by simpa, by simpa [links] using placed, current, closing⟩
  | told hl hin up hm =>
    exact ⟨limit, known, agrees, session, by simpa, by simpa [links] using placed, current, closing⟩
  | ended hl reason =>
    exact hc.ending hl known (openedIn_raisedIf ..) (congrArg (_ :: ·) (closedIn_raisedIf ..))
  | greeted hl room =>
    refine hc.queue hl known ?_ rfl rfl
    rw [List.length_append, List.length_singleton]
    omega
  | timed now => exact ⟨limit, known, agrees, session, by simpa, by simpa, current, closing⟩
  | @wrote l frame left hl hq =>
    refine hc.queue hl known ?_ rfl rfl
    have bound := current l hl
    rw [hq, List.length_cons] at bound
    omega
  | @wroteClosing before after l frame left hl hq =>
    refine ⟨limit, known, agrees, session, by simpa [List.filterMap_cons],
      by simpa [links, hl, List.filterMap_cons] using placed, current, ?_⟩
    rw [hl] at closing
    rw [List.forall_mem_append, List.forall_mem_cons] at closing ⊢
    obtain ⟨hbefore, ⟨bound, last⟩, hafter⟩ := closing
    refine ⟨hbefore, ⟨?_, ?_⟩, hafter⟩
    · rw [hq, List.length_cons] at bound
      dsimp only
      omega
    · -- The first frame is the last one only if nothing is left.
      cases left with
      | nil => exact .inl rfl
      | cons f fs =>
        rw [hq, List.getLast?_cons_cons] at last
        exact .inr (last.resolve_left (by simp))
  | @finished before after l hl hq =>
    rw [links, hl] at placed
    refine ⟨limit, known, agrees, session, by simpa [List.filterMap_cons], ?_, current,
      fun l' hl' => ?_⟩
    · have moved : (_ ++ (closedIn h ++ [l.id])).Perm _ :=
        placed_of_closed ((c.current.toList ++ before).map (·.id)) (by simpa using placed)
      simpa [links, List.filterMap_cons] using moved
    · refine closing l' ?_
      rw [hl]
      rcases List.mem_append.1 hl' with hl' | hl'
      · exact List.mem_append_left _ hl'
      · exact List.mem_append_right _ (List.mem_cons_of_mem _ hl')

theorem links_failRead (c : Channel) (id : Nat) (reason : Text) :
    (c.failRead id reason).links = c.links.map (Link.fail id reason) := by
  cases hl : c.current <;> simp [links, failRead, hl]

theorem Change.custody (hw : Change c es c') (hc : c.Custody h) : c'.Custody (h ++ es) := by
  have known := hw.known hc
  have agrees := hw.agrees hc.agrees
  obtain ⟨limit, -, -, session, opened, placed, current, closing⟩ := id hc
  cases hw with
  | work hw => exact hw.custody hc
  | opened port remote now nonce identity hl =>
    refine ⟨limit, known, agrees, by simp [opening], ?_, ?_, ?_, closing⟩
    · simp [opened, opening, List.range_succ]
    · -- The number is new, so that it goes to the end of those that were opened.
      simp only [links, hl] at placed
      have added := (placed.cons c.opened).trans (List.perm_append_singleton c.opened _).symm
      simpa [links, opening, List.filterMap_cons] using added
    · rintro _ ⟨⟩
      exact Int.le_of_lt limit
  | sent payload hl up room =>
    refine hc.queue hl known ?_ rfl rfl
    rw [List.length_append, List.length_singleton]
    omega
  | @dropped l hl =>
    refine ⟨limit, known, agrees, by simp, by simpa [List.filterMap_cons], ?_, by simp, ?_⟩
    · rw [links, hl] at placed
      have last := List.perm_append_singleton l.id (c.closing.map (·.id))
      have moved := (last.append_right _).trans placed
      simpa [links, List.filterMap_cons] using moved
    · rw [List.forall_mem_append, List.forall_mem_singleton]
      -- The bye is queued even if there is no room for it.
      refine ⟨closing, ?_, .inr (by simp)⟩
      have bound := current l hl
      rw [List.length_append, List.length_singleton]
      dsimp only
      omega
  | lost hl => exact hc.ending hl known rfl rfl
  | received datagram hl =>
    exact ⟨limit, known, agrees, session, by simpa [List.filterMap_cons],
      by simpa [links, List.filterMap_cons] using placed, current, closing⟩
  | failed id reason =>
    refine ⟨limit, known, agrees, session, by simpa, ?_, ?_, ?_⟩
    · rw [links_failRead]
      simpa [Function.comp_def] using placed
    · intro l hl
      obtain ⟨l', hl', rfl⟩ := Option.map_eq_some_iff.1 hl
      rw [Link.fail_outbound]
      exact current l' hl'
    · intro l hl
      obtain ⟨l', hl', rfl⟩ := List.mem_map.1 hl
      rw [Link.fail_outbound]
      exact closing l' hl'

/-- What every change keeps of channels in custody is kept by all of them. -/
theorem Changes.keep {P : List LinkEvent → Channel → Prop}
    (change : ∀ {h c es c'}, Change c es c' → c.Custody h → P h c → P (h ++ es) c')
    (hs : c.Changes es c') (hc : c.Custody h) (hp : P h c) : P (h ++ es) c' := by
  refine (hs.invariant (P := fun h c => c.Custody h ∧ P h c) ?_ ⟨hc, hp⟩).2
  rintro h c es c' hw ⟨hc, hp⟩
  exact ⟨hw.custody hc, change hw hc hp⟩

/-- Closing the channel closes all links that are left. -/
theorem Custody.close (hc : c.Custody h) :
    c.close.1.Custody (h ++ c.links.map fun l => .closed l.id) where
  limit := hc.limit
  known event mem := by
    rcases List.mem_append.1 mem with mem | mem
    · exact hc.known event mem
    · obtain ⟨l, hl, rfl⟩ := List.mem_map.1 mem
      exact hc.lt_opened hl
  agrees := by simp [Agrees, Channel.close]
  session _ := rfl
  opened := by simpa [Channel.close, List.filterMap_map, Function.comp_def] using hc.opened
  placed := by
    have moved := List.perm_append_comm.trans hc.placed
    simpa [links, Channel.close, List.filterMap_map, Function.comp_def] using moved
  current := by simp [Channel.close]
  closing := by simp [Channel.close]

theorem Custody.register (hc : c.Custody h) (handlers : Handlers) :
    { c with handlers }.Custody h :=
  ⟨hc.limit, hc.known, hc.agrees, hc.session, hc.opened, hc.placed, hc.current, hc.closing⟩

/-- Outside of an update, a closing link has something left to write. -/
theorem Done.left (hd : c.Done d e) (left : ∀ l ∈ c.closing, l.outbound ≠ []) :
    ∀ l ∈ e.channel.closing, l.outbound ≠ [] := by
  cases hd with
  | dropped hl =>
    rw [List.forall_mem_append, List.forall_mem_singleton]
    exact ⟨left, by simp⟩
  | closed => simp [Channel.close]
  | failed link reason =>
    intro l hl
    obtain ⟨l', hl', rfl⟩ := List.mem_map.1 hl
    rw [Link.fail_outbound]
    exact left l' hl'
  | updated worked => exact worked.left
  | _ => exact left

theorem pending_iff : c.pending = true ↔
    (∃ l, c.current = some l ∧ l.outbound ≠ []) ∨ c.closing ≠ [] := by
  unfold pending
  cases c.current <;> simp

/-! ## Links that are gone -/

/-- The link was opened and is not the current one anymore. -/
def Gone (c : Channel) (link : Nat) : Prop :=
  link < c.opened ∧ ∀ l, c.current = some l → l.id ≠ link

variable {link : Nat}

/-- Nothing is queued on a link that is gone, and there is no notice about it. -/
theorem Work.gone (hw : Work c es c') (hg : c.Gone link) :
    c'.Gone link ∧ acceptedOn link es = [] ∧ raisedOn link es = [] := by
  obtain ⟨lt, other⟩ := id hg
  cases hw with
  | welcomed hl | told hl =>
    exact ⟨hg, acceptedOn_raisedIf .., raisedOn_raisedIf_of_ne _ _ _ (other _ hl)⟩
  | ended hl =>
    exact ⟨⟨lt, by simp⟩, acceptedOn_raisedIf .., raisedOn_raisedIf_of_ne _ _ _ (other _ hl)⟩
  | @greeted l hl room =>
    refine ⟨⟨lt, ?_⟩, by simp [other _ hl], rfl⟩
    rintro _ ⟨⟩
    exact other l hl
  | @wrote l frame left hl hq =>
    refine ⟨⟨lt, ?_⟩, rfl, rfl⟩
    rintro _ ⟨⟩
    exact other l hl
  | _ => exact ⟨hg, rfl, rfl⟩

theorem Change.gone (hw : Change c es c') (hg : c.Gone link) :
    c'.Gone link ∧ acceptedOn link es = [] ∧ raisedOn link es = [] := by
  obtain ⟨lt, other⟩ := id hg
  cases hw with
  | work hw => exact hw.gone hg
  | opened =>
    refine ⟨⟨Nat.lt_succ_of_lt lt, ?_⟩, rfl, rfl⟩
    rintro _ ⟨⟩
    exact Nat.ne_of_gt lt
  | @sent l payload hl up room =>
    refine ⟨⟨lt, ?_⟩, by simp [other _ hl], rfl⟩
    rintro _ ⟨⟩
    exact other l hl
  | dropped hl => exact ⟨⟨lt, by simp⟩, by simp [other _ hl], rfl⟩
  | lost hl => exact ⟨⟨lt, by simp⟩, rfl, rfl⟩
  | received => exact ⟨hg, rfl, rfl⟩
  | failed id reason =>
    refine ⟨⟨lt, fun l hl => ?_⟩, rfl, rfl⟩
    obtain ⟨l', hl', rfl⟩ := Option.map_eq_some_iff.1 hl
    rw [Link.fail_id]
    exact other l' hl'

/-- A link that is dropped by a call is gone. -/
theorem Done.gone_of_drops {l : Link} (hd : c.Done d e)
    (lt : c.current = some l → l.id < c.opened) (drops : Turn.drops? ⟨c, d, e⟩ = some l) :
    e.channel.Gone l.id := by
  cases hd with
  | idle hl => cases hl.symm.trans drops
  | dropped hl => exact ⟨lt drops, by simp⟩
  | lost hl => exact ⟨lt drops, by simp⟩
  | closed => exact ⟨lt drops, by simp [Channel.close]⟩
  | _ => cases drops

theorem Changes.gone (hs : c.Changes es c') (hg : c.Gone link) :
    c'.Gone link ∧ acceptedOn link es = [] ∧ raisedOn link es = [] := by
  refine hs.invariant (h := [])
    (P := fun h c => c.Gone link ∧ acceptedOn link h = [] ∧ raisedOn link h = []) ?_ ⟨hg, rfl, rfl⟩
  rintro h c es c' hw ⟨hg, accepted, raised⟩
  obtain ⟨hg', accepted', raised'⟩ := hw.gone hg
  refine ⟨hg', ?_, ?_⟩
  · rw [acceptedOn_append, accepted, accepted']
    rfl
  · rw [raisedOn_append, raised, raised']
    rfl

theorem Done.gone (hd : c.Done d e) (hg : c.Gone link) :
    e.channel.Gone link ∧ acceptedOn link e.events = [] ∧ raisedOn link e.events = [] := by
  rcases hd.changes with changes | ⟨-, events, channel⟩ | ⟨handlers, -, events, channel⟩
  · exact changes.gone hg
  · rw [events, channel, acceptedOn, raisedOn, raisedIn, filterMap_closed fun _ => rfl,
      filterMap_closed fun _ => rfl]
    exact ⟨⟨hg.1, by simp [Channel.close]⟩, rfl, rfl⟩
  · rw [events, channel]
    exact ⟨hg, rfl, rfl⟩

end Channel

namespace Reached

variable {config : ChannelConfig} {handlers : Handlers} {s : Course}

theorem custody (h : Reached config handlers s) : s.channel.Custody s.history := by
  refine invariant (Channel.custody_new config handlers) Channel.Change.custody
    Channel.Custody.close (fun handlers _ hc => hc.register handlers) h

/-- `Reached.invariant` for what is kept of channels in custody. -/
theorem keep {P : List LinkEvent → Channel → Prop} (start : P [] (.new config handlers))
    (change : ∀ {h c es c'}, Channel.Change c es c' → c.Custody h → P h c → P (h ++ es) c')
    (close : ∀ {h c}, c.Custody h → P h c → P (h ++ c.links.map fun l => .closed l.id) c.close.1)
    (register : ∀ {h c} handlers, (∃ t ∈ s.turns, t.deed = .register handlers) → P h c →
      P h { c with handlers })
    (h : Reached config handlers s) : P s.history s.channel := by
  refine (h.invariant (P := fun h c => c.Custody h ∧ P h c)
    ⟨Channel.custody_new config handlers, start⟩ ?_ ?_ ?_).2
  · rintro h c es c' hw ⟨hc, hp⟩
    exact ⟨hw.custody hc, change hw hc hp⟩
  · rintro h c ⟨hc, hp⟩
    exact ⟨hc.close, close hc hp⟩
  · rintro h c handlers registered ⟨hc, hp⟩
    exact ⟨hc.register handlers, register handlers registered hp⟩

theorem left (h : Reached config handlers s) : ∀ l ∈ s.channel.closing, l.outbound ≠ [] := by
  induction h with
  | start => simp [Channel.new]
  | step hr hs ih =>
    obtain ⟨e, done, rfl⟩ := hr.done hs
    exact done.left ih

/-- Frames wait as long as some open link has any. -/
theorem pending_iff (h : Reached config handlers s) :
    s.channel.pending = true ↔ ∃ l ∈ s.channel.links, l.outbound ≠ [] := by
  rw [Channel.pending_iff]
  constructor
  · rintro (⟨l, hl, hq⟩ | hne)
    · exact ⟨l, by simp [Channel.links, hl], hq⟩
    · obtain ⟨l, hl⟩ := List.exists_mem_of_ne_nil _ hne
      exact ⟨l, by simp [Channel.links, hl], h.left l hl⟩
  · rintro ⟨l, hl, hq⟩
    rcases List.mem_append.1 hl with hl | hl
    · exact .inl ⟨l, by simpa using hl, hq⟩
    · exact .inr (List.ne_nil_of_mem hl)

/-- A link that was dropped by a call stays gone. -/
theorem gone {t : Turn} {l : Link} (h : Reached config handlers s) (ht : t ∈ s.turns)
    (hd : t.drops? = some l) : s.channel.Gone l.id := by
  induction h with
  | start => cases ht
  | @step s s' d hr hs ih =>
    obtain ⟨e, done, rfl⟩ := hr.done hs
    rcases List.mem_append.1 ht with ht | ht
    · exact (done.gone (ih ht)).1
    · obtain rfl := List.mem_singleton.1 ht
      exact done.gone_of_drops (fun hl => hr.custody.lt_opened (by simp [Channel.links, hl])) hd

end Reached

/-- Where the links are after any deeds: the current link is there unless the channel is
disconnected, only a connected channel has a session, every link that was opened is in one place,
the queues of open links are bounded, and closing links end with a bye that is not written yet. -/
theorem Course.links_in_custody (config : ChannelConfig) (handlers : Handlers)
    (deeds : List Deed) :
    ∃ s, run { channel := .new config handlers } deeds = .ok s ∧
      (s.channel.current = none ↔ s.channel.phase = .disconnected) ∧
      (s.channel.phase ≠ .connected → s.channel.session = []) ∧
      (openedIn s.history).Nodup ∧
      (s.channel.current.toList.map (·.id) ++ s.channel.closing.map (·.id) ++
        closedIn s.history).Perm (openedIn s.history) ∧
      (∀ l, s.channel.current = some l → l.id ∉ closedIn s.history ∧
        (l.outbound.length : Int) ≤ config.effective.maxOutbound) ∧
      (∀ l ∈ s.channel.closing, l.id ∉ closedIn s.history ∧ l.outbound ≠ [] ∧
        (l.outbound.length : Int) ≤ config.effective.maxOutbound + 1 ∧
        l.outbound.getLast? = some Frame.bye) ∧
      (s.channel.pending = true ↔ ∃ l ∈ s.channel.links, l.outbound ≠ []) := by
  obtain ⟨s, hrun, hs⟩ := run_reached config handlers deeds
  have custody := hs.custody
  refine ⟨s, hrun, custody.agrees, custody.session, ?_, ?_, ?_, ?_, ?_⟩
  · rw [custody.opened]
    exact List.nodup_range
  · rw [← List.map_append]
    exact custody.placed
  · intro l hl
    have bound := custody.current l hl
    rw [hs.config_eq] at bound
    exact ⟨custody.notMem_closedIn (by simp [Channel.links, hl]), bound⟩
  · intro l hl
    obtain ⟨bound, last⟩ := custody.closing l hl
    rw [hs.config_eq] at bound
    have left := hs.left l hl
    exact ⟨custody.notMem_closedIn (by simp [Channel.links, hl]), left, bound,
      last.resolve_left left⟩
  · exact hs.pending_iff

end Teleop
