import Mathlib.Data.List.Perm.Basic
import Mathlib.Data.List.Range
import Mathlib.Data.List.Sort
import Teleop.Proofs.Session.History
import Teleop.Proofs.Session.Runs

/-!
# Where submitted messages go

Messages that are submitted to the backlog are numbered in the order of their submission. A `Ledger`
says for each number in which of four places it is: handed to the transport, still waiting, dropped
by an overflow, or discarded. Numbers that were handed over and numbers that wait are in order, all
of the former before all of the latter.

The ledger is kept event by event (`Ledger.submitted`, `Ledger.handedOff`, `Ledger.overflowed`,
`Ledger.discard`), hence by every step of a run. A tick holds the messages it took out in its hand;
they wait in front of those that the backlog holds.

* `Wiring.submissions_accounted`: the ledger of every run.
-/

namespace Teleop

/-! ## The backlog -/

namespace Backlog

theorem mapM_id_eq_some {l : List (Option Message)} {ms : List Message} (h : l.mapM id = some ms) :
    l = ms.map some := by
  induction l generalizing ms with
  | nil =>
    obtain rfl : [] = ms := by simpa using h
    rfl
  | cons m l ih =>
    rw [List.mapM_cons] at h
    obtain ⟨a, ha, h⟩ := Option.bind_eq_some_iff.1 h
    obtain ⟨rest, hrest, h⟩ := Option.bind_eq_some_iff.1 h
    cases h
    rw [ih hrest, show m = some a from ha]
    rfl

theorem drain_eq_ok {b b' : Backlog} {ms : List Message} (h : b.drain = .ok (ms, b')) :
    b.items = ms.map some ∧ b'.items = [] := by
  unfold drain at h
  split at h
  case h_1 taken he =>
    cases h
    exact ⟨mapM_id_eq_some he, rfl⟩
  case h_2 => cases h

theorem push_eq_ok {b b' : Backlog} {m : Option Message} {n : Nat} (h : b.push m = .ok (n, b')) :
    n ≤ b.items.length ∧ b'.items = b.items.drop n ++ [m] := by
  rcases Int.lt_or_le 0 b.limit with room | none
  · rw [push_of_pos room] at h
    cases h
    exact ⟨by omega, rfl⟩
  · rw [push_of_nonpos none] at h
    cases h

theorem restore_eq_ok {b b' : Backlog} {ms : List (Option Message)} {n : Nat}
    (h : b.restore ms = .ok (n, b')) :
    n ≤ (ms ++ b.items).length ∧ b'.items = (ms ++ b.items).drop n := by
  unfold restore at h
  split at h
  case isTrue hms =>
    cases h
    simp [hms]
  case isFalse =>
    cases hd : b.drain with
    | error f => rw [hd] at h; cases h
    | ok r =>
      obtain ⟨later, b₁⟩ := r
      have items := (drain_eq_ok hd).1
      rw [hd] at h
      simp only [bind, Except.bind] at h
      split at h
      · cases h
      · cases h
        rw [items]
        exact ⟨by omega, rfl⟩

end Backlog

/-! ## What a history tells about the backlog -/

/-- The messages submitted to the backlog, in order. -/
def submissions (h : List Event) : List (Option Message) :=
  h.filterMap fun
    | .submitted m => some m
    | _ => none

/-- The messages from the backlog that were handed to the transport, in order. -/
def handOffs (h : List Event) : List (Option Message) :=
  h.filterMap fun
    | .handOff .fifo m _ => some m
    | _ => none

/-- How many messages the backlog reports as dropped. -/
def Event.overflow : Event → Nat
  | .overflowed n => n
  | _ => 0

/-- How many messages the backlog reported as dropped in all. -/
def overflow (h : List Event) : Nat :=
  h.foldr (fun e n => e.overflow + n) 0

/-- Messages in the backlog were lost. -/
def Event.loses : Event → Bool
  | .overflowed _ => true
  | e => e.discards

/-- The part of a history that ends with the last time when all waiting work was discarded. -/
def untilDiscard (h : List Event) : List Event :=
  h.rdropWhile (!·.discards)

/-- Events that change nothing for messages in the backlog. -/
def Event.sparesBacklog : Event → Bool
  | .submitted _ | .overflowed _ | .gaveUp | .discarded | .handOff .fifo .. => false
  | _ => true

theorem Event.sparesBacklog_of_passing {e : Event} (h : e.passing = true) :
    e.sparesBacklog = true := by
  cases e with
  | handOff label m accepted => cases label <;> simp_all [passing, Label.passing, sparesBacklog]
  | _ => simp_all [passing, sparesBacklog]

/-- Every overflow was logged with its count. -/
def OverflowLogged (h : List Event) : Prop :=
  ∀ a n b, h = a ++ .overflowed n :: b → ∃ b', b = .logged .session (overflowEntry n) :: b'

section History

variable {h : List Event} {e : Event}

theorem OverflowLogged.append (hl : OverflowLogged h) (he : ∀ n, e ≠ .overflowed n) :
    OverflowLogged (h ++ [e]) := by
  intro a n b heq
  rcases List.eq_nil_or_concat' b with rfl | ⟨b', e', rfl⟩
  · exact absurd (List.append_inj_right' heq rfl) (by simpa using he n)
  · rw [← List.cons_append, ← List.append_assoc] at heq
    obtain ⟨h₁, h₂⟩ := List.append_inj' heq rfl
    obtain ⟨c, rfl⟩ := hl a n b' h₁
    exact ⟨c ++ [e'], rfl⟩

theorem OverflowLogged.overflowed (hl : OverflowLogged h) (n : Nat) :
    OverflowLogged (h ++ [.overflowed n] ++ [.logged .session (overflowEntry n)]) := by
  intro a k b heq
  rcases List.eq_nil_or_concat' b with rfl | ⟨b', e', rfl⟩
  · exact absurd (List.append_inj_right' heq rfl) (by simp)
  · rw [← List.cons_append, ← List.append_assoc] at heq
    obtain ⟨h₁, h₂⟩ := List.append_inj' heq rfl
    obtain rfl : .logged .session (overflowEntry n) = e' := by simpa using h₂
    rcases List.eq_nil_or_concat' b' with rfl | ⟨c, e'', rfl⟩
    · obtain rfl : n = k := by simpa using List.append_inj_right' h₁ rfl
      exact ⟨[], rfl⟩
    · rw [← List.cons_append, ← List.append_assoc] at h₁
      obtain ⟨h₁, h₂⟩ := List.append_inj' h₁ rfl
      obtain ⟨d, rfl⟩ := hl a k c h₁
      exact ⟨d ++ [e''] ++ [_], rfl⟩

theorem submissions_append (h h' : List Event) :
    submissions (h ++ h') = submissions h ++ submissions h' :=
  List.filterMap_append

theorem handOffs_append (h h' : List Event) : handOffs (h ++ h') = handOffs h ++ handOffs h' :=
  List.filterMap_append

theorem overflow_append (h h' : List Event) : overflow (h ++ h') = overflow h + overflow h' := by
  induction h with
  | nil => simp [overflow]
  | cons e h ih =>
    simp only [overflow, List.cons_append, List.foldr_cons] at ih ⊢
    omega

theorem untilDiscard_append_of_discards (he : e.discards = true) :
    untilDiscard (h ++ [e]) = h ++ [e] := by
  exact List.rdropWhile_concat_neg _ _ _ (by simp [he])

theorem untilDiscard_append (he : e.discards = false) :
    untilDiscard (h ++ [e]) = untilDiscard h := by
  exact List.rdropWhile_concat_pos _ _ _ (by simp [he])

theorem length_submissions_untilDiscard (h : List Event) :
    (submissions (untilDiscard h)).length ≤ (submissions h).length := by
  exact ((List.rdropWhile_prefix _ h).sublist.filterMap _).length_le

theorem overflow_eq_zero (hl : ∀ e ∈ h, e.loses = false) : overflow h = 0 := by
  induction h with
  | nil => rfl
  | cons e h ih =>
    obtain ⟨he, hl⟩ := List.forall_mem_cons.1 hl
    rw [← List.singleton_append, overflow_append, ih hl]
    cases e <;> first | rfl | cases he

theorem untilDiscard_eq_nil (hl : ∀ e ∈ h, e.loses = false) : untilDiscard h = [] := by
  refine List.rdropWhile_eq_nil_iff.2 fun e he => ?_
  have := hl e he
  cases e <;> simp_all [Event.loses, Event.discards]

end History

/-! ## The ledger -/

/-- The submissions with these numbers. -/
def numbered (h : List Event) (is : List Nat) : List (Option (Option Message)) :=
  is.map fun i => (submissions h)[i]?

/-- Where each submitted message is. The submissions are numbered from zero; `queue` holds the
messages that wait. -/
structure Ledger (h : List Event) (queue : List (Option Message))
    (sent waiting dropped discarded : List Nat) : Prop where
  /-- Every number is in exactly one of the four places. -/
  places : (sent ++ waiting ++ dropped ++ discarded).Perm (List.range (submissions h).length)
  /-- What was handed over was submitted before what waits, and both are in order. -/
  ordered : (sent ++ waiting).Pairwise (· < ·)
  sent_eq : numbered h sent = (handOffs h).map some
  waiting_eq : numbered h waiting = queue.map some
  /-- Every dropped message was counted, and the counts were logged. -/
  dropped_eq : dropped.length = overflow h
  logged : OverflowLogged h
  /-- What was discarded was submitted before work was last discarded … -/
  discarded_lt : ∀ i ∈ discarded, i < (submissions (untilDiscard h)).length
  /-- … and what waits was submitted after that. -/
  waiting_ge : ∀ i ∈ waiting, (submissions (untilDiscard h)).length ≤ i

/-- There is a ledger for a history and the messages that wait. -/
def Balanced (h : List Event) (queue : List (Option Message)) : Prop :=
  ∃ sent waiting dropped discarded, Ledger h queue sent waiting dropped discarded

namespace Balanced

variable {h : List Event} {queue : List (Option Message)}

theorem nil : Balanced [] [] :=
  ⟨[], [], [], [], by simp [submissions], .nil, rfl, rfl, rfl, by simp [OverflowLogged], by simp,
    by simp⟩

/-- An event that is no concern of the backlog. -/
theorem spared {e : Event} (he : e.sparesBacklog = true) (hb : Balanced h queue) :
    Balanced (h ++ [e]) queue := by
  obtain ⟨s, w, d, x, hl⟩ := hb
  have hsub : submissions (h ++ [e]) = submissions h := by
    rw [submissions_append]
    cases e <;> simp_all [submissions, Event.sparesBacklog]
  have hsent : handOffs (h ++ [e]) = handOffs h := by
    rw [handOffs_append]
    cases e with
    | handOff label m accepted => cases label <;> simp_all [handOffs, Event.sparesBacklog]
    | _ => simp [handOffs]
  have hover : overflow (h ++ [e]) = overflow h := by
    rw [overflow_append]
    cases e <;> simp_all [overflow, Event.overflow, Event.sparesBacklog]
  have huntil : untilDiscard (h ++ [e]) = untilDiscard h := by
    apply untilDiscard_append
    cases e <;> simp_all [Event.discards, Event.sparesBacklog]
  refine ⟨s, w, d, x, ?_, hl.ordered, ?_, ?_, ?_, ?_, ?_, ?_⟩
  · rw [hsub]; exact hl.places
  · rw [numbered, hsub, hsent]; exact hl.sent_eq
  · rw [numbered, hsub]; exact hl.waiting_eq
  · rw [hover]; exact hl.dropped_eq
  · refine hl.logged.append ?_
    rintro n rfl
    cases he
  · rw [huntil]; exact hl.discarded_lt
  · rw [huntil]; exact hl.waiting_ge

/-- A message is submitted and waits behind the others. -/
theorem submitted (m : Option Message) (hb : Balanced h queue) :
    Balanced (h ++ [.submitted m]) (queue ++ [m]) := by
  obtain ⟨s, w, d, x, hl⟩ := hb
  have hsub : submissions (h ++ [.submitted m]) = submissions h ++ [m] := submissions_append _ _
  have hlt : ∀ i ∈ s ++ w, i < (submissions h).length := by
    intro i hi
    have : i ∈ s ++ w ++ d ++ x := by
      rw [List.append_assoc]
      exact List.mem_append_left _ hi
    simpa using hl.places.mem_iff.1 this
  have hkeep (is : List Nat) (his : ∀ i ∈ is, i < (submissions h).length) :
      numbered (h ++ [.submitted m]) is = numbered h is := by
    refine List.map_congr_left fun i hi => ?_
    rw [hsub, List.getElem?_append_left (his i hi)]
  have huntil : untilDiscard (h ++ [.submitted m]) = untilDiscard h := untilDiscard_append rfl
  refine ⟨s, w ++ [(submissions h).length], d, x, ?_, ?_, ?_, ?_, ?_, hl.logged.append nofun,
    ?_, ?_⟩
  · rw [hsub, List.length_append, List.length_singleton, List.range_succ]
    refine List.Perm.trans ?_ (hl.places.append_right [(submissions h).length])
    simp only [List.append_assoc]
    refine (List.perm_append_left_iff _).2 ((List.perm_append_left_iff _).2 ?_)
    exact List.perm_append_comm.trans (by simp)
  · rw [← List.append_assoc, List.pairwise_append]
    exact ⟨hl.ordered, List.pairwise_singleton _ _, fun i hi j hj => by simp_all⟩
  · rw [hkeep s fun i hi => hlt i (List.mem_append_left _ hi), hl.sent_eq, handOffs_append]
    simp [handOffs]
  · have hnew : numbered (h ++ [.submitted m]) [(submissions h).length] = [some m] := by
      simp [numbered, hsub]
    rw [numbered, List.map_append, List.map_append, ← numbered,
      hkeep w fun i hi => hlt i (List.mem_append_right _ hi), hl.waiting_eq]
    exact congrArg _ hnew
  · rw [overflow_append, hl.dropped_eq]
    rfl
  · rw [huntil]; exact hl.discarded_lt
  · rw [huntil]
    intro i hi
    rcases List.mem_append.1 hi with hi | hi
    · exact hl.waiting_ge i hi
    · rw [List.mem_singleton.1 hi]
      exact length_submissions_untilDiscard h

/-- The first message that waits is handed over. -/
theorem handedOff {m : Option Message} (accepted : Bool) (hb : Balanced h (m :: queue)) :
    Balanced (h ++ [.handOff .fifo m accepted]) queue := by
  obtain ⟨s, w, d, x, hl⟩ := hb
  have hsub : submissions (h ++ [.handOff .fifo m accepted]) = submissions h := by
    simp [submissions]
  have huntil : untilDiscard (h ++ [.handOff .fifo m accepted]) = untilDiscard h :=
    untilDiscard_append rfl
  cases w with
  | nil => exact absurd hl.waiting_eq (by simp [numbered])
  | cons i w =>
    obtain ⟨hi, hw⟩ : (submissions h)[i]? = some m ∧ numbered h w = queue.map some := by
      simpa [numbered] using hl.waiting_eq
    refine ⟨s ++ [i], w, d, x, ?_, ?_, ?_, ?_, ?_, hl.logged.append nofun, ?_, ?_⟩
    · rw [hsub]
      simpa using hl.places
    · simpa using hl.ordered
    · rw [numbered, hsub, List.map_append, ← numbered, hl.sent_eq, handOffs_append, List.map_append]
      simp [handOffs, hi]
    · rw [numbered, hsub]
      exact hw
    · rw [overflow_append, hl.dropped_eq]
      rfl
    · rw [huntil]; exact hl.discarded_lt
    · rw [huntil]
      exact fun j hj => hl.waiting_ge j (List.mem_cons_of_mem _ hj)

/-- Some of the messages that wait are dropped and counted. -/
theorem overflowed {front cut rest : List (Option Message)}
    (hb : Balanced h (front ++ cut ++ rest)) :
    Balanced (h ++ [.overflowed cut.length] ++ [.logged .session (overflowEntry cut.length)])
      (front ++ rest) := by
  obtain ⟨s, w, d, x, hl⟩ := hb
  set entry := Event.logged .session (overflowEntry cut.length)
  have hsub : submissions (h ++ [.overflowed cut.length] ++ [entry]) = submissions h := by
    simp [submissions, entry]
  have huntil : untilDiscard (h ++ [.overflowed cut.length] ++ [entry]) = untilDiscard h := by
    rw [untilDiscard_append rfl, untilDiscard_append rfl]
  obtain ⟨w₁, w₂, w₃, rfl, h₁, h₂, h₃⟩ : ∃ w₁ w₂ w₃, w = w₁ ++ w₂ ++ w₃ ∧
      numbered h w₁ = front.map some ∧ numbered h w₂ = cut.map some ∧
      numbered h w₃ = rest.map some := by
    have hw := hl.waiting_eq
    simp only [numbered, List.map_append] at hw
    obtain ⟨w₁₂, w₃, rfl, h₁₂, h₃⟩ := List.map_eq_append_iff.1 hw
    obtain ⟨w₁, w₂, rfl, h₁, h₂⟩ := List.map_eq_append_iff.1 h₁₂
    exact ⟨w₁, w₂, w₃, rfl, h₁, h₂, h₃⟩
  refine ⟨s, w₁ ++ w₃, d ++ w₂, x, ?_, ?_, ?_, ?_, ?_, hl.logged.overflowed _, ?_, ?_⟩
  · rw [hsub]
    refine List.Perm.trans ?_ hl.places
    simp only [List.append_assoc]
    refine (List.perm_append_left_iff _).2 ((List.perm_append_left_iff _).2 ?_)
    rw [← List.append_assoc, ← List.append_assoc, ← List.append_assoc w₂, ← List.append_assoc]
    refine List.Perm.append_right _ ?_
    exact List.perm_append_comm.trans (by simp)
  · refine hl.ordered.sublist (List.Sublist.append_left ?_ s)
    exact (List.sublist_append_left w₁ w₂).append_right w₃
  · rw [numbered, hsub, handOffs_append, handOffs_append, ← numbered, hl.sent_eq]
    simp [handOffs, entry]
  · rw [numbered, hsub, List.map_append, List.map_append]
    exact congrArg₂ _ h₁ h₃
  · have hcut : w₂.length = cut.length := by simpa [numbered] using congrArg List.length h₂
    rw [List.length_append, hl.dropped_eq, hcut, overflow_append, overflow_append]
    simp [overflow, Event.overflow, entry]
  · rw [huntil]; exact hl.discarded_lt
  · rw [huntil]
    exact fun i hi => hl.waiting_ge i (by simp_all; tauto)

/-- All that waits is discarded. -/
theorem discard {e : Event} (he : e.discards = true) (hb : Balanced h queue) :
    Balanced (h ++ [e]) [] := by
  obtain ⟨s, w, d, x, hl⟩ := hb
  have hsub : submissions (h ++ [e]) = submissions h := by
    rw [submissions_append]
    cases e <;> simp_all [submissions, Event.discards]
  have hsent : handOffs (h ++ [e]) = handOffs h := by
    rw [handOffs_append]
    cases e <;> simp_all [handOffs, Event.discards]
  have hover : overflow (h ++ [e]) = overflow h := by
    rw [overflow_append]
    cases e <;> simp_all [overflow, Event.overflow, Event.discards]
  refine ⟨s, [], d, x ++ w, ?_, ?_, ?_, rfl, ?_, ?_, ?_, by simp⟩
  · rw [hsub]
    refine List.Perm.trans ?_ hl.places
    simp only [List.append_assoc, List.nil_append]
    refine (List.perm_append_left_iff _).2 ?_
    rw [← List.append_assoc]
    exact List.perm_append_comm
  · simpa using (List.pairwise_append.1 hl.ordered).1
  · rw [numbered, hsub, hsent]; exact hl.sent_eq
  · rw [hover]; exact hl.dropped_eq
  · refine hl.logged.append ?_
    rintro n rfl
    cases he
  · rw [untilDiscard_append_of_discards he, hsub]
    intro i hi
    have : i ∈ s ++ w ++ d ++ x := by simp_all; tauto
    simpa using hl.places.mem_iff.1 this

theorem spared_all {es : List Event} (he : ∀ e ∈ es, e.sparesBacklog = true)
    (hb : Balanced h queue) : Balanced (h ++ es) queue := by
  induction es generalizing h with
  | nil => simpa using hb
  | cons e es ih =>
    rw [List.append_cons]
    exact ih (fun e' h' => he e' (List.mem_cons_of_mem _ h'))
      (hb.spared (he e List.mem_cons_self))

end Balanced

/-! ## What a ledger tells -/

section Reading

variable {h : List Event} {queue : List (Option Message)}
  {sent waiting dropped discarded : List Nat}

theorem numbered_range (h : List Event) :
    numbered h (List.range (submissions h).length) = (submissions h).map some := by
  refine List.ext_getElem? fun i => ?_
  by_cases hi : i < (submissions h).length
  · simp [numbered, hi]
  · simp [numbered, hi]

/-- What was handed over and what waits is part of what was submitted, in the order of
submission. -/
theorem Ledger.sublist (hl : Ledger h queue sent waiting dropped discarded) :
    (handOffs h ++ queue).Sublist (submissions h) := by
  have subperm : (sent ++ waiting).Subperm (List.range (submissions h).length) := by
    refine List.Subperm.trans (List.Sublist.subperm ?_) hl.places.subperm
    rw [List.append_assoc]
    exact List.sublist_append_left _ _
  have sublist : (sent ++ waiting).Sublist (List.range (submissions h).length) :=
    List.sublist_of_subperm_of_pairwise subperm (hl.ordered.imp Nat.le_of_lt)
      (List.pairwise_lt_range.imp Nat.le_of_lt)
  have hmap : ((handOffs h ++ queue).map some).Sublist ((submissions h).map some) := by
    rw [← numbered_range, List.map_append, ← hl.sent_eq, ← hl.waiting_eq, numbered, numbered,
      ← List.map_append]
    exact sublist.map _
  obtain ⟨l, hl, he⟩ := List.sublist_map_iff.1 hmap
  rwa [List.map_injective_iff.2 (Option.some_injective _) he]

/-- If nothing was dropped or discarded, nothing is missing. -/
theorem Ledger.eq_of_lossless (hl : Ledger h queue sent waiting dropped discarded)
    (lossless : ∀ e ∈ h, e.loses = false) : handOffs h ++ queue = submissions h := by
  obtain rfl : dropped = [] :=
    List.length_eq_zero_iff.1 (hl.dropped_eq.trans (overflow_eq_zero lossless))
  obtain rfl : discarded = [] := by
    refine List.eq_nil_iff_forall_not_mem.2 fun i hi => ?_
    have := hl.discarded_lt i hi
    simp [untilDiscard_eq_nil lossless, submissions] at this
  refine hl.sublist.eq_of_length ?_
  have hlen := hl.places.length_eq
  have hs := congrArg List.length hl.sent_eq
  have hw := congrArg List.length hl.waiting_eq
  simp only [numbered, List.length_map, List.length_append, List.length_range,
    List.length_nil] at *
  omega

end Reading

/-! ## Sessions -/

variable {χ π ι : Type}

/-- The ledger of a session that holds some messages in its hand. -/
def World.Balanced (hand : List Message) (w : World χ π) : Prop :=
  Teleop.Balanced w.history (hand.map some ++ w.session.backlog.items)

namespace World.Balanced

variable {hand : List Message} {w w' : World χ π}

theorem same (hb : w.Balanced hand) (h : w.Same (·.backlog) Event.sparesBacklog w') :
    w'.Balanced hand := by
  obtain ⟨es, hh, he⟩ := h.history
  rw [World.Balanced, hh, h.part]
  exact hb.spared_all he

theorem passing (hb : w.Balanced hand) (h : w.Passing w') : w'.Balanced hand :=
  hb.same (h.same (fun _ _ _ _ _ _ => rfl) fun _ => Event.sparesBacklog_of_passing)

theorem note (hb : w.Balanced hand) {e : Event} (he : e.sparesBacklog = true) :
    (w.note e).Balanced hand := by
  rw [World.Balanced, history_note]
  exact hb.spared he

/-- A change of the session that leaves the backlog alone. -/
theorem remember (hb : w.Balanced hand) {f : Session → Session}
    (hf : (f w.session).backlog = w.session.backlog) : (w.remember f).Balanced hand := by
  rw [World.Balanced, history_remember, remember_session, hf]
  exact hb

/-- Messages are dropped after those in the hand. -/
theorem overflowing {cut rest : List (Option Message)}
    (hb : Teleop.Balanced w.history (hand.map some ++ cut ++ rest))
    (hrest : w.session.backlog.items = rest) : (World.overflowing cut.length w).Balanced hand := by
  subst hrest
  unfold World.overflowing
  split
  · rw [World.Balanced, history_note, history_note]
    exact hb.overflowed
  · obtain rfl : cut = [] := List.length_eq_zero_iff.1 (by omega)
    simpa [World.Balanced] using hb

end World.Balanced

namespace Wiring

variable {W : Wiring χ π ι} {hand : List Message} {w w' : World χ π}

theorem Engaged.balanced (h : Engaged w w') (hb : w.Balanced hand) : w'.Balanced hand := by
  cases h with
  | nothing => exact hb
  | requested m => exact (hb.note rfl).remember rfl
  | @submitted _ m dropped backlog pushed h' =>
    subst h'
    obtain ⟨hle, hitems⟩ := Backlog.push_eq_ok pushed
    have hcut : (w.session.backlog.items.take dropped).length = dropped :=
      List.length_take_of_le hle
    -- what overflows is cut out behind the hand, in front of the new message
    rw [← hcut]
    refine World.Balanced.overflowing ?_ hitems
    have := hb.submitted m
    rw [← List.take_append_drop dropped w.session.backlog.items] at this
    simpa only [World.history_remember, World.history_note, List.append_assoc] using this
  | batched number batch _ _ => exact (hb.note rfl).remember rfl

theorem Called.balanced (h : Called w w') (hb : w.Balanced hand) : w'.Balanced hand := by
  cases h with
  | quiet h =>
    obtain ⟨hp, es, hj, he⟩ := h
    exact hb.same ⟨congrArg (·.1) hp, es, hj, fun e h => Event.sparesBacklog_of_passing (he e h)⟩
  | created interval => exact hb.remember rfl
  | cleared number _ => exact (hb.note rfl).remember rfl
  | closed number _ => exact (hb.note rfl).remember rfl
  | started run _ h' => exact ((hb.note rfl).remember rfl).passing h'
  | wanted h => exact ((h.balanced hb).note rfl).remember rfl

theorem Moves.balanced (h : W.Moves w w') (hb : w.Balanced hand) : w'.Balanced hand := by
  refine Moves.invariant (fun w w' hm hb => ?_) h hb
  cases hm with
  | passing h => exact hb.passing h
  | call c r h => exact Called.balanced (perform_cases c w r w' h) hb

theorem Ensured.balanced {kept : Bool} (h : W.Ensured w kept w') (hb : w.Balanced hand) :
    w'.Balanced hand := by
  cases h with
  | linked h₁ _ => exact (h₁.balanced hb).note rfl
  | spent h₁ _ _ => exact (h₁.balanced hb).note rfl
  | @tried w₁ w₂ w₃ _ h₁ _ _ h₂ h₃ h₄ =>
    have hb₂ : w₂.Balanced hand :=
      ((((h₁.balanced hb).note rfl).remember rfl).note rfl).passing h₂
    have hb₃ : w₃.Balanced hand := by
      cases h₃ with
      | noPort => exact hb₂
      | asked => exact hb₂.note rfl
    exact h₄.balanced hb₃

/-- Looking after the link leaves the hand as it is, or everything is lost with it. -/
theorem Maintained.balanced {kept : Bool} (h : W.Maintained w kept w') (hb : w.Balanced hand) :
    w'.Balanced (if kept then hand else []) := by
  cases h with
  | unwanted => exact hb
  | ensured _ h₁ => exact h₁.balanced hb
  | gaveUp _ h₁ h₂ =>
    refine World.Balanced.passing ?_ h₂
    rw [World.Balanced, World.history_note]
    exact (h₁.balanced hb).discard rfl

theorem HandedOff.balanced {label : Label} {ms : List (Option Message)}
    (hlabel : label ≠ .fifo) (h : HandedOff label ms w w') (hb : w.Balanced hand) :
    w'.Balanced hand := by
  induction h with
  | nil => exact hb
  | cons accepted h₁ h₂ _ ih =>
    refine ih (((hb.passing h₁).note ?_).passing h₂)
    cases label <;> first | rfl | exact absurd rfl hlabel

/-- Handing over what is in the hand empties it. -/
theorem HandedOff.balanced_fifo (h : HandedOff .fifo (hand.map some) w w')
    (hb : w.Balanced hand) : w'.Balanced [] := by
  induction hand generalizing w with
  | nil =>
    cases h
    exact hb
  | cons m hand ih =>
    cases h with
    | cons accepted h₁ h₂ h₃ =>
      refine ih h₃ (World.Balanced.passing ?_ h₂)
      rw [World.Balanced, World.history_note]
      exact (hb.passing h₁).handedOff accepted

theorem Dispatched.balanced {request : Option Message} {pending : List Message}
    (h : W.Dispatched request pending w w') (hb : w.Balanced pending) : w'.Balanced [] := by
  cases h with
  | sent _ _ h₁ h₂ h₃ =>
    have hb₂ := h₂.balanced_fifo (h₁.balanced (by decide) (hb.note rfl))
    exact h₃.balanced (by decide) ((hb₂.note rfl).remember rfl)
  | nothing _ _ hp =>
    subst hp
    exact hb.note rfl
  | @putBack _ dropped backlog _ restored h₂ =>
    subst h₂
    obtain ⟨hle, hitems⟩ := Backlog.restore_eq_ok restored
    have hcut : ((pending.map some ++ w.session.backlog.items).take dropped).length = dropped :=
      List.length_take_of_le hle
    rw [← hcut]
    refine World.Balanced.overflowing ?_ hitems
    rw [List.map_nil, List.nil_append, List.take_append_drop]
    exact hb.note rfl

theorem Ticked.balanced {more : Bool} (h : W.Ticked w more w') (hb : w.Balanced []) :
    w'.Balanced [] := by
  rcases h with ⟨_, _, rfl⟩ | ⟨_, _, pending, backlog, kept, w₁, w₂, w₃, h⟩
  · exact hb
  · obtain ⟨hitems, hempty⟩ := Backlog.drain_eq_ok h.drained
    have taken : (w.remember fun s => { s with request := none, backlog }).Balanced pending := by
      rw [World.Balanced, World.history_remember, World.remember_session, hempty, List.append_nil,
        ← hitems]
      exact hb
    have hb₂ := h.maintained.balanced (h.updated.balanced taken)
    exact h.published.balanced (h.dispatched.balanced hb₂)

theorem Ended.balanced (h : W.Ended w w') (hb : w.Balanced []) : w'.Balanced [] := by
  obtain ⟨w₁, h₁, h₂⟩ := h
  refine h₂.balanced ?_
  rw [World.Balanced, World.history_note]
  exact (h₁.balanced hb).discard rfl

theorem Fresh.balanced {w₀ : World χ π} (h₀ : W.Fresh w₀) : w₀.Balanced [] := by
  rw [World.Balanced, h₀.history, h₀.session_eq]
  exact Balanced.nil

theorem Reaches.balanced (hW : W.CallbacksOnlyMove) {w₀ : World χ π} (h₀ : W.Fresh w₀)
    (h : W.Reaches W.EnvironmentOrNotice w₀ w) : w.Balanced [] := by
  induction h with
  | refl => exact h₀.balanced
  | tail _ hs ih =>
    cases hs with
    | call c r h => exact (perform_cases c _ r _ h).balanced ih
    | tick more h => exact (tick_cases hW _ more _ h).balanced ih
    | shutdown polls h => exact (shutdown_cases hW polls _ () _ h).balanced ih
    | outside h => exact (h.moves hW).balanced ih

/-- In every run every submitted message is in exactly one place: handed over once, waiting, dropped
and counted, or discarded. Messages are handed over in the order of their submission, and as long as
none is lost, all that were submitted were handed over or wait. -/
theorem submissions_accounted (hW : W.CallbacksOnlyCall EnvironmentStep) {w₀ : World χ π}
    (h₀ : W.Fresh w₀) (h : W.Reaches W.EnvironmentOrNotice w₀ w) :
    (∃ sent waiting dropped discarded,
      Ledger w.history w.session.backlog.items sent waiting dropped discarded) ∧
    (handOffs w.history).Sublist (submissions w.history) ∧
    ((∀ e ∈ w.history, e.loses = false) →
      handOffs w.history ++ w.session.backlog.items = submissions w.history) := by
  obtain ⟨sent, waiting, dropped, discarded, hl⟩ :=
    Reaches.balanced (hW.onlyMove fun _ _ => EnvironmentStep.passing) h₀ h
  refine ⟨⟨sent, waiting, dropped, discarded, hl⟩, ?_, fun lossless => ?_⟩
  · exact (List.sublist_append_left _ _).trans hl.sublist
  · exact hl.eq_of_lossless lossless

end Wiring

namespace Rehearsal

/-- A numbered message. -/
def parcel (n : UInt8) : Message :=
  .raw applicationTag [n]

/-- Messages wait until the session is ready. -/
def patience : List Cue :=
  [.call .start, .call (.send (parcel 1)), .call (.send (parcel 2)), .tick, welcoming 0, .tick,
    beating 0, .tick, .call (.send (parcel 3))]

/-- More messages are submitted than may wait, some of them by a subscriber in the middle of a
tick. -/
def rush : List Cue :=
  [.call (.subscribe { name := [9] }), .call .start, .call (.send (parcel 1)),
    .call (.send (parcel 2)), .call (.send (parcel 3)), .tick, welcoming 0, .tick, beating 0,
    .call (.send (parcel 4)), .tick, .call (.send (parcel 5))]

theorem submissions_accounted_rehearsed :
    (∃ w : World (Wired Loopback) (Option PortSupply),
      (echoing modest).Reaches (echoing modest).EnvironmentOrNotice (opening modest) w ∧
      (∀ e ∈ w.history, e.loses = false) ∧ handOffs w.history = [1, 2].map (some ∘ parcel) ∧
      handOffs w.history ++ w.session.backlog.items = submissions w.history) ∧
    ∃ w : World (Wired Loopback) (Option PortSupply),
      (echoing modest).Reaches (echoing modest).EnvironmentOrNotice (opening modest) w ∧
      submissions w.history = [1, 2, 3, 9, 9, 4, 9, 5].map (some ∘ parcel) ∧
      handOffs w.history = [9, 4].map (some ∘ parcel) ∧
      w.session.backlog.items = [9, 5].map (some ∘ parcel) ∧ overflow w.history = 4 ∧
      ∃ sent waiting dropped discarded,
        Ledger w.history w.session.backlog.items sent waiting dropped discarded := by
  have fresh := opening_fresh (show modest.validate = .ok () by decide +kernel)
  have accounted {w : World (Wired Loopback) (Option PortSupply)}
      (h : (echoing modest).Reaches World.NetworkStep (opening modest) w) :=
    have run := h.mono fun w w' h =>
      Wiring.EnvironmentOrNotice.environment (World.NetworkStep.environmentStep w w' h)
    And.intro run (Wiring.submissions_accounted (echoing_onlyCall _ _) fresh run)
  constructor
  · have played : ((echoing modest).play patience (opening modest)).map (fun w =>
        (w.history.all (!·.loses), handOffs w.history)) =
        some (true, [1, 2].map (some ∘ parcel)) := by
      decide +kernel
    obtain ⟨w, hw, facts⟩ := Option.map_eq_some_iff.1 played
    simp only [Prod.mk.injEq, List.all_eq_true, Bool.not_eq_true'] at facts
    obtain ⟨run, -, -, conserved⟩ := accounted (Wiring.reaches_of_play hw)
    exact ⟨w, run, facts.1, facts.2, conserved facts.1⟩
  · have played : ((echoing modest).play rush (opening modest)).map (fun w =>
        (submissions w.history, handOffs w.history, w.session.backlog.items, overflow w.history)) =
        some ([1, 2, 3, 9, 9, 4, 9, 5].map (some ∘ parcel), [9, 4].map (some ∘ parcel),
          [9, 5].map (some ∘ parcel), 4) := by
      decide +kernel
    obtain ⟨w, hw, facts⟩ := Option.map_eq_some_iff.1 played
    simp only [Prod.mk.injEq] at facts
    obtain ⟨submitted, handed, waiting, overflowed⟩ := facts
    obtain ⟨run, ledger, -⟩ := accounted (Wiring.reaches_of_play hw)
    exact ⟨w, run, submitted, handed, waiting, overflowed, ledger⟩

end Rehearsal

end Teleop
