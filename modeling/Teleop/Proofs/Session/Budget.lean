import Teleop.Proofs.Session.History
import Teleop.Proofs.Session.Runs

/-!
# The budget of connect attempts

A session makes a first connect attempt and `retryLimit` more before it gives up; asking for a
connection and starting a run restore the budget. A `Meter` follows the history and says which
events may come next: an attempt only while one is left, a give-up only when none is.

* `Metered`: the history of a session keeps to the meter, and the session's counter is the meter's;
* `Budgeted`: what that means for the attempts and give-ups in a history;
* `Wiring.attempts_within_budget`: every run is budgeted, and a session that asked for a connection
  and never gets one makes an attempt per tick until it gives up.
-/

namespace Teleop

/-! ## Metered events -/

namespace Event

/-- The budget of connect attempts is restored. -/
def resets : Event → Bool
  | started | wanted => true
  | _ => false

/-- Work is handed in. -/
def engages : Event → Bool
  | submitted _ | requested _ | batched .. => true
  | _ => false

/-- A connection is asked for. -/
def asks : Event → Bool
  | wanted => true
  | _ => false

/-- The session looked for a link and found none. -/
def finds : Event → Bool
  | checked active => !active
  | _ => false

def isAttempt : Event → Bool
  | attempted => true
  | _ => false

def isGiveUp : Event → Bool
  | gaveUp => true
  | _ => false

/-- The event is one that a meter turns on. -/
def metered : Event → Bool
  | started | wanted | attempted | connect .. | gaveUp | discarded => true
  | e => e.engages

theorem metered_of_passing {e : Event} (h : e.passing = true) : e.metered = false := by
  cases e <;> first | rfl | cases h

end Event

/-- The connect attempts in a history. -/
def attempts (h : List Event) : Nat :=
  h.countP Event.isAttempt

/-- The times that a session gave up. -/
def giveUps (h : List Event) : Nat :=
  h.countP Event.isGiveUp

theorem attempts_append (h h' : List Event) : attempts (h ++ h') = attempts h + attempts h' :=
  List.countP_append

theorem giveUps_append (h h' : List Event) : giveUps (h ++ h') = giveUps h + giveUps h' :=
  List.countP_append

/-- What came after the budget was last restored. -/
def sinceReset (h : List Event) : List Event :=
  h.rtakeWhile (!·.resets)

/-! ## The meter -/

/-- What a history says about connect attempts. -/
structure Meter where
  /-- The attempts since the budget was last restored. -/
  tries : Nat := 0
  /-- A connection is wanted. -/
  wanted : Bool := false
  /-- Work was handed in for which no connection has been asked for yet. -/
  owing : Bool := false
  /-- The session has just seen that there is no link. -/
  looked : Bool := false
  /-- An attempt has begun that has not asked for a link yet. -/
  dialling : Bool := false

namespace Meter

/-- The meter after one more event. -/
def after (m : Meter) (e : Event) : Meter where
  tries := if e.resets then 0 else if e.isAttempt then m.tries + 1 else m.tries
  wanted := e.asks || (m.wanted && !e.discards)
  owing := !e.resets && (e.engages || m.owing)
  looked := e.finds
  dialling := e.isAttempt || (m.dialling && e.passing)

/-- What may happen next. -/
def Allows (limit : Int) (m : Meter) : Event → Prop
  | .attempted => m.wanted = true ∧ m.looked = true ∧ m.tries ≤ limit
  | .connect .. => m.dialling = true
  | .gaveUp => m.wanted = true ∧ m.owing = false ∧ limit < m.tries
  | _ => True

/-- Other events only end what the session was about to do. -/
theorem after_of_not_metered {e : Event} (h : e.metered = false) (m : Meter) :
    m.after e = { m with looked := e.finds, dialling := m.dialling && e.passing } := by
  cases e with
  | submitted | requested | batched | started | wanted | attempted | connect | gaveUp | discarded =>
    cases h
  | _ => simp [after, Event.resets, Event.isAttempt, Event.asks, Event.discards, Event.engages]

theorem allows_of_not_metered {e : Event} (h : e.metered = false) (limit : Int) (m : Meter) :
    m.Allows limit e := by
  cases e with
  | attempted | connect | gaveUp => cases h
  | _ => trivial

/-- The meter at the end of a history. -/
def of (h : List Event) : Meter :=
  h.foldl after {}

@[simp] theorem of_concat (h : List Event) (e : Event) : of (h ++ [e]) = (of h).after e := by
  simp [of]

section Readings

variable {h s : List Event}

/-- The meter counts the attempts since the budget was last restored. -/
theorem tries_of (h : List Event) : (of h).tries = attempts (sinceReset h) := by
  induction h using List.reverseRecOn with
  | nil => rfl
  | append_singleton h e ih =>
    rw [of_concat, sinceReset, List.rtakeWhile_concat]
    cases he : e.resets with
    | true => simp [after, he, attempts]
    | false =>
      rw [after, ih]
      cases ha : e.isAttempt <;> simp [he, ha, attempts, sinceReset]

theorem tries_append (hs : ∀ e ∈ s, e.resets = false) :
    (of (h ++ s)).tries = (of h).tries + attempts s := by
  induction s using List.reverseRecOn with
  | nil => simp [attempts]
  | append_singleton s e ih =>
    rw [List.forall_mem_append, List.forall_mem_singleton] at hs
    obtain ⟨hs, he⟩ := hs
    rw [← List.append_assoc, of_concat, after, ih hs]
    cases ha : e.isAttempt <;> simp [he, ha, attempts, Nat.add_assoc]

theorem tries_append_le (hs : ∃ e ∈ s, e.resets = true) :
    (of (h ++ s)).tries ≤ attempts s := by
  induction s using List.reverseRecOn with
  | nil => simp at hs
  | append_singleton s e ih =>
    rw [← List.append_assoc, of_concat, after]
    cases he : e.resets with
    | true => simp
    | false =>
      have := ih (by simpa [he, or_and_right, exists_or] using hs)
      cases ha : e.isAttempt <;> simpa [he, ha, attempts] using this

theorem wanted_append (hw : (of h).wanted = false) (hs : ∀ e ∈ s, e.asks = false) :
    (of (h ++ s)).wanted = false := by
  induction s using List.reverseRecOn with
  | nil => simpa using hw
  | append_singleton s e ih =>
    rw [List.forall_mem_append, List.forall_mem_singleton] at hs
    rw [← List.append_assoc, of_concat, after]
    simp [ih hs.1, hs.2]

theorem owing_append (ho : (of h).owing = true) (hs : ∀ e ∈ s, e.resets = false) :
    (of (h ++ s)).owing = true := by
  induction s using List.reverseRecOn with
  | nil => simpa using ho
  | append_singleton s e ih =>
    rw [List.forall_mem_append, List.forall_mem_singleton] at hs
    rw [← List.append_assoc, of_concat, after]
    simp [ih hs.1, hs.2]

theorem append_of_not_metered (hs : ∀ e ∈ s, e.metered = false) :
    (of (h ++ s)).tries = (of h).tries ∧ (of (h ++ s)).wanted = (of h).wanted ∧
      (of (h ++ s)).owing = (of h).owing := by
  induction s using List.reverseRecOn with
  | nil => simp
  | append_singleton s e ih =>
    rw [List.forall_mem_append, List.forall_mem_singleton] at hs
    rw [← List.append_assoc, of_concat, after_of_not_metered hs.2]
    exact ih hs.1

theorem dialling_append (hd : (of h).dialling = true) (hs : ∀ e ∈ s, e.passing = true) :
    (of (h ++ s)).dialling = true := by
  induction s using List.reverseRecOn with
  | nil => simpa using hd
  | append_singleton s e ih =>
    rw [List.forall_mem_append, List.forall_mem_singleton] at hs
    rw [← List.append_assoc, of_concat, after]
    simp [ih hs.1, hs.2]

theorem exists_of_looked (hl : (of h).looked = true) : ∃ a, h = a ++ [.checked false] := by
  rcases List.eq_nil_or_concat' h with rfl | ⟨a, e, rfl⟩
  · cases hl
  · rw [of_concat] at hl
    refine ⟨a, ?_⟩
    cases e with
    | checked active =>
      obtain rfl : active = false := by simpa [after, Event.finds] using hl
      rfl
    | _ => cases hl

theorem exists_of_dialling (hd : (of h).dialling = true) :
    ∃ a s, h = a ++ .attempted :: s ∧ ∀ e ∈ s, e.passing = true := by
  induction h using List.reverseRecOn with
  | nil => cases hd
  | append_singleton h e ih =>
    rw [of_concat, after] at hd
    cases ha : e.isAttempt with
    | true =>
      obtain rfl : e = .attempted := by cases e <;> first | rfl | cases ha
      exact ⟨h, [], by simp⟩
    | false =>
      obtain ⟨hd, he⟩ : (of h).dialling = true ∧ e.passing = true := by simpa [ha] using hd
      obtain ⟨a, s, rfl, hs⟩ := ih hd
      refine ⟨a, s ++ [e], by simp, ?_⟩
      rw [List.forall_mem_append, List.forall_mem_singleton]
      exact ⟨hs, he⟩

end Readings

end Meter

/-! ## What keeping to the meter means -/

/-- Every event was allowed by the meter. -/
abbrev Lawful (limit : Int) (h : List Event) : Prop :=
  Each (fun a => (Meter.of a).Allows limit) h

/-- The attempts and give-ups of a history keep to a budget of one attempt and `limit` more. -/
structure Budgeted (limit : Int) (h : List Event) : Prop where
  /-- As long as the budget is not restored there are no more attempts. -/
  bounded : ∀ a s b, h = a ++ s ++ b → (∀ e ∈ s, e.resets = false) → attempts s ≤ limit + 1
  /-- An attempt begins when the session has just seen that there is no link. -/
  unlinked : ∀ a b, h = a ++ .attempted :: b → ∃ a', a = a' ++ [.checked false]
  /-- A link is asked for only as part of an attempt, and at most once. -/
  dialled : ∀ a identity localPort host port b,
    h = a ++ .connect identity localPort host port :: b →
    ∃ a' s, a = a' ++ .attempted :: s ∧ ∀ e ∈ s, e.passing = true
  /-- At a give-up the budget is spent. -/
  spent : ∀ a b, h = a ++ .gaveUp :: b → attempts (sinceReset a) = limit + 1
  /-- After a give-up nothing is tried until a connection is asked for. -/
  silent : ∀ a s b, h = a ++ .gaveUp :: s ++ b → (∀ e ∈ s, e.asks = false) →
    attempts s = 0 ∧ giveUps s = 0
  /-- Work that a give-up discards was worth a whole budget. -/
  pursued : ∀ a e s b, h = a ++ e :: s ++ .gaveUp :: b → e.engages = true → limit + 1 ≤ attempts s

namespace Lawful

variable {limit : Int} {h : List Event}

theorem tries_le (hlimit : 0 ≤ limit) (hl : Lawful limit h) : (Meter.of h).tries ≤ limit + 1 := by
  induction h using List.reverseRecOn with
  | nil => simpa [Meter.of] using by omega
  | append_singleton h e ih =>
    have := ih hl.left
    have allowed := hl h e [] rfl
    rw [Meter.of_concat, Meter.after]
    cases hr : e.resets with
    | true => simpa using by omega
    | false =>
      cases ha : e.isAttempt with
      | false => simpa using this
      | true =>
        obtain rfl : e = .attempted := by cases e <;> first | rfl | cases ha
        simpa using allowed.2.2

/-- While nothing asks for a connection that is not wanted, none is tried. -/
theorem unwanted {s : List Event} (hl : Lawful limit (h ++ s)) (hw : (Meter.of h).wanted = false)
    (hs : ∀ e ∈ s, e.asks = false) : attempts s = 0 ∧ giveUps s = 0 := by
  have idle : ∀ e ∈ s, e.isAttempt = false ∧ e.isGiveUp = false := by
    intro e he
    obtain ⟨s₁, s₂, rfl⟩ := List.append_of_mem he
    have unwanted := Meter.wanted_append hw fun e' h' => hs e' (List.mem_append_left _ h')
    have allowed := hl (h ++ s₁) e s₂ (by simp)
    cases e with
    | attempted => exact absurd allowed.1 (by simp [unwanted])
    | gaveUp => exact absurd allowed.1 (by simp [unwanted])
    | _ => exact ⟨rfl, rfl⟩
  simp only [attempts, giveUps, List.countP_eq_zero]
  exact ⟨fun e he => by simp [(idle e he).1], fun e he => by simp [(idle e he).2]⟩

theorem budgeted (hlimit : 0 ≤ limit) (hl : Lawful limit h) : Budgeted limit h where
  bounded := by
    rintro a s b rfl hs
    have := tries_le hlimit hl.left
    rw [Meter.tries_append hs] at this
    omega
  unlinked a b heq := Meter.exists_of_looked (hl a .attempted b heq).2.1
  dialled a _ _ _ _ b heq := Meter.exists_of_dialling (hl a _ b heq)
  spent := by
    intro a b heq
    have spent := (hl a .gaveUp b heq).2.2
    have := tries_le hlimit (heq ▸ hl).left
    rw [← Meter.tries_of]
    omega
  silent := by
    intro a s b heq hs
    have hl : Lawful limit (a ++ [.gaveUp] ++ s ++ b) := by simpa [heq] using hl
    refine Lawful.unwanted hl.left ?_ hs
    simp [Meter.after, Event.asks, Event.discards]
  pursued := by
    intro a e s b heq he
    obtain ⟨-, paid, spent⟩ := hl (a ++ e :: s) .gaveUp b heq
    rw [List.append_cons] at paid spent
    by_cases hs : ∃ e ∈ s, e.resets = true
    · have := Meter.tries_append_le (h := a ++ [e]) hs
      omega
    · -- without a reset the work would still wait for its connection
      have hr : e.resets = false := by cases e <;> first | rfl | cases he
      have owing : (Meter.of (a ++ [e])).owing = true := by
        rw [Meter.of_concat, Meter.after]
        simp [hr, he]
      have := Meter.owing_append owing fun e' h' => by simpa using fun hr => hs ⟨e', h', hr⟩
      rw [this] at paid
      cases paid

end Lawful

/-! ## Sessions -/

variable {χ π ι : Type}

/-- The session has kept to the meter, which shows its own counter and wish. -/
structure World.Metered (limit : Int) (w : World χ π) : Prop where
  lawful : Lawful limit w.history
  tries : (Meter.of w.history).tries = w.session.tries
  wanted : (Meter.of w.history).wanted = w.session.connectRequested
  owing : (Meter.of w.history).owing = false

namespace World.Metered

variable {limit : Int} {w w' : World χ π}

theorem note (hm : w.Metered limit) {e : Event} (he : e.metered = false) :
    (w.note e).Metered limit where
  lawful := by
    rw [history_note]
    exact hm.lawful.concat (Meter.allows_of_not_metered he limit _)
  tries := by
    rw [history_note, Meter.of_concat, Meter.after_of_not_metered he]
    exact hm.tries
  wanted := by
    rw [history_note, Meter.of_concat, Meter.after_of_not_metered he]
    exact hm.wanted
  owing := by
    rw [history_note, Meter.of_concat, Meter.after_of_not_metered he]
    exact hm.owing

/-- An event that the meter allows, with the change of the session that goes with it. -/
theorem event (hl : Lawful limit w.history) {e : Event} {f : Session → Session}
    (allowed : (Meter.of w.history).Allows limit e)
    (ht : ((Meter.of w.history).after e).tries = (f w.session).tries)
    (hc : ((Meter.of w.history).after e).wanted = (f w.session).connectRequested)
    (ho : ((Meter.of w.history).after e).owing = false) :
    ((w.note e).remember f).Metered limit := by
  have hist : ((w.note e).remember f).history = w.history ++ [e] := history_note w e
  refine ⟨?_, ?_, ?_, ?_⟩
  · rw [hist]
    exact hl.concat allowed
  · rw [hist, Meter.of_concat]
    exact ht
  · rw [hist, Meter.of_concat]
    exact hc
  · rw [hist, Meter.of_concat]
    exact ho

/-- A change of the session that leaves its counter and its wish alone. -/
theorem remember (hm : w.Metered limit) {f : Session → Session}
    (ht : (f w.session).tries = w.session.tries)
    (hc : (f w.session).connectRequested = w.session.connectRequested) :
    (w.remember f).Metered limit :=
  ⟨hm.lawful, hm.tries.trans ht.symm, hm.wanted.trans hc.symm, hm.owing⟩

theorem same (hm : w.Metered limit)
    (h : w.Same (fun s => (s.tries, s.connectRequested)) (!·.metered) w') : w'.Metered limit := by
  obtain ⟨es, hh, he⟩ := h.history
  obtain ⟨ht, hc⟩ := Prod.mk.inj h.part
  have he : ∀ e ∈ es, e.metered = false := fun e h => by simpa using he e h
  obtain ⟨tries, wanted, owing⟩ := Meter.append_of_not_metered (h := w.history) he
  rw [← hh] at tries wanted owing
  refine ⟨?_, ?_, ?_, ?_⟩
  · rw [hh]
    exact hm.lawful.append fun e h a => Meter.allows_of_not_metered (he e h) limit _
  · rw [tries, hm.tries, ht]
  · rw [wanted, hm.wanted, hc]
  · rw [owing, hm.owing]

theorem passing (hm : w.Metered limit) (h : w.Passing w') : w'.Metered limit :=
  hm.same (h.same (fun _ _ _ _ _ _ => rfl) fun _ he => by simp [Event.metered_of_passing he])

end World.Metered

namespace Wiring

variable {W : Wiring χ π ι} {limit : Int} {w w' : World χ π}

theorem Engaged.lawful (h : Engaged w w') (hl : Lawful limit w.history) :
    Lawful limit w'.history := by
  cases h with
  | nothing => exact hl
  | requested m =>
    rw [World.history_remember, World.history_note]
    exact hl.concat trivial
  | submitted m _ h' =>
    subst h'
    have hl : Lawful limit (w.history ++ [.submitted m]) := hl.concat trivial
    unfold World.overflowing
    split
    · rw [World.history_note, World.history_note, World.history_remember, World.history_note]
      exact Each.concat (Each.concat hl trivial) trivial
    · rw [World.history_remember, World.history_note]
      exact hl
  | batched number batch _ _ =>
    rw [World.history_remember, World.history_note]
    exact hl.concat trivial

theorem Called.metered (h : Called w w') (hm : w.Metered limit) : w'.Metered limit := by
  cases h with
  | quiet h =>
    obtain ⟨hp, es, hj, he⟩ := h
    refine hm.same ⟨?_, es, hj, fun e h => by simp [Event.metered_of_passing (he e h)]⟩
    exact congrArg (fun b : Backlog × Option Message × List Queue × Nat × Bool => b.2.2.2) hp
  | created interval => exact hm.remember rfl rfl
  | cleared number _ => exact (hm.note rfl).remember rfl rfl
  | closed number _ => exact (hm.note rfl).remember rfl rfl
  | started run _ h' =>
    refine World.Metered.passing (.event hm.lawful ?_ ?_ ?_ ?_) h'
    · trivial
    · simp [Meter.after, Event.resets]
    · simp [Meter.after, Event.asks, Event.discards, hm.wanted]
    · simp [Meter.after, Event.resets]
  | wanted h =>
    refine .event (h.lawful hm.lawful) trivial ?_ ?_ ?_
    · simp [Meter.after, Event.resets]
    · simp [Meter.after, Event.asks]
    · simp [Meter.after, Event.resets]

theorem Moves.metered (h : W.Moves w w') (hm : w.Metered limit) : w'.Metered limit := by
  refine Moves.invariant (fun w w' hs hm => ?_) h hm
  cases hs with
  | passing h => exact hm.passing h
  | call c r h => exact Called.metered (perform_cases c w r w' h) hm

/-- No move takes back the wish for a connection. -/
theorem HandedOff.wanting {label : Label} {ms : List (Option Message)}
    (h : HandedOff label ms w w') (hc : w.session.connectRequested = true) :
    w'.session.connectRequested = true := by
  induction h with
  | nil => exact hc
  | cons accepted h₁ h₂ _ ih => exact ih (h₂.wanting.trans (h₁.wanting.trans hc))

theorem Dispatched.wanting {request : Option Message} {pending : List Message}
    (h : W.Dispatched request pending w w') (hc : w.session.connectRequested = true) :
    w'.session.connectRequested = true := by
  cases h with
  | sent _ _ h₁ h₂ h₃ => exact h₃.wanting (h₂.wanting (h₁.wanting hc))
  | nothing => exact hc
  | putBack _ _ h₂ =>
    subst h₂
    unfold World.overflowing
    split
    · exact hc
    · exact hc

/-- Making sure of a link keeps to the budget; it fails only when the budget is spent. -/
theorem Ensured.metered {kept : Bool} (h : W.Ensured w kept w')
    (hc : w.session.connectRequested = true) (hm : w.Metered W.config.retryLimit) :
    w'.Metered W.config.retryLimit ∧ w'.session.connectRequested = true ∧
      (kept = false → W.config.retryLimit < w'.session.tries) := by
  cases h with
  | linked h₁ _ => exact ⟨(h₁.metered hm).note rfl, h₁.wanting hc, nofun⟩
  | spent h₁ _ budget => exact ⟨(h₁.metered hm).note rfl, h₁.wanting hc, fun _ => budget⟩
  | @tried w₁ w₂ w₃ _ h₁ _ budget h₂ h₃ h₄ =>
    have hm₁ := h₁.metered hm
    have looked : (w₁.note (.checked false)).Metered W.config.retryLimit := hm₁.note rfl
    have begun : (((w₁.note (.checked false)).note .attempted).remember fun s =>
        { s with tries := s.tries + 1 }).Metered W.config.retryLimit := by
      refine .event looked.lawful ⟨looked.wanted.trans (h₁.wanting hc), ?_, ?_⟩ ?_ ?_ ?_
      · simp [Meter.after, Event.finds]
      · rw [looked.tries]
        exact Int.not_lt.1 budget
      · simp [Meter.after, Event.resets, Event.isAttempt, hm₁.tries]
      · simp [Meter.after, Event.asks, Event.discards, hm₁.wanted]
      · simp [Meter.after, Event.resets, Event.engages, hm₁.owing]
    have dialling : (Meter.of w₂.history).dialling = true := by
      obtain ⟨es, hh, he⟩ := h₂.history
      rw [hh, World.history_note]
      refine Meter.dialling_append ?_ he
      rw [Meter.of_concat]
      rfl
    have hm₂ := begun.passing h₂
    have hc₂ : w₂.session.connectRequested = true :=
      (Moves.of_passing (W := W) h₂).wanting (h₁.wanting hc)
    have ⟨hm₃, hc₃⟩ : w₃.Metered W.config.retryLimit ∧ w₃.session.connectRequested = true := by
      cases h₃ with
      | noPort => exact ⟨hm₂, hc₂⟩
      | asked identity localPort host port =>
        refine ⟨World.Metered.event (f := id) hm₂.lawful dialling ?_ ?_ ?_, hc₂⟩
        · simp [Meter.after, Event.resets, Event.isAttempt, hm₂.tries]
        · simp [Meter.after, Event.asks, Event.discards, hm₂.wanted]
        · simp [Meter.after, Event.resets, Event.engages, hm₂.owing]
    exact ⟨h₄.metered hm₃, h₄.wanting hc₃, nofun⟩

theorem Maintained.metered {kept : Bool} (h : W.Maintained w kept w')
    (hm : w.Metered W.config.retryLimit) : w'.Metered W.config.retryLimit := by
  cases h with
  | unwanted => exact hm
  | ensured hc h₁ => exact (h₁.metered hc hm).1
  | gaveUp hc h₁ h₂ =>
    obtain ⟨hm₁, hc₁, spent⟩ := h₁.metered hc hm
    refine World.Metered.passing (w := (World.note _ .gaveUp).remember discardWork)
      (.event hm₁.lawful ⟨hm₁.wanted.trans hc₁, hm₁.owing, ?_⟩ ?_ ?_ ?_) h₂
    · rw [hm₁.tries]
      exact spent rfl
    · simp [Meter.after, Event.resets, Event.isAttempt, hm₁.tries, discardWork]
    · simp [Meter.after, Event.asks, Event.discards, discardWork]
    · simp [Meter.after, Event.resets, Event.engages, hm₁.owing]

theorem HandedOff.metered {label : Label} {ms : List (Option Message)}
    (h : HandedOff label ms w w') (hm : w.Metered limit) : w'.Metered limit := by
  induction h with
  | nil => exact hm
  | cons accepted h₁ h₂ _ ih => exact ih (((hm.passing h₁).note rfl).passing h₂)

theorem Dispatched.metered {request : Option Message} {pending : List Message}
    (h : W.Dispatched request pending w w') (hm : w.Metered limit) : w'.Metered limit := by
  cases h with
  | sent _ _ h₁ h₂ h₃ =>
    have hm₂ := h₂.metered (h₁.metered (hm.note rfl))
    exact h₃.metered ((hm₂.note rfl).remember rfl rfl)
  | nothing => exact hm.note rfl
  | putBack _ _ h₂ =>
    subst h₂
    have weighed : (W.weighing w).Metered limit := hm.note rfl
    unfold World.overflowing
    split
    · exact ((weighed.remember rfl rfl).note rfl).note rfl
    · exact weighed.remember rfl rfl

theorem Ticked.metered {more : Bool} (h : W.Ticked w more w')
    (hm : w.Metered W.config.retryLimit) : w'.Metered W.config.retryLimit := by
  rcases h with ⟨_, _, rfl⟩ | ⟨_, _, pending, backlog, kept, w₁, w₂, w₃, h⟩
  · exact hm
  · have hm₂ := h.maintained.metered (h.updated.metered (hm.remember rfl rfl))
    exact h.published.metered (h.dispatched.metered hm₂)

theorem Ended.metered (h : W.Ended w w') (hm : w.Metered limit) : w'.Metered limit := by
  obtain ⟨w₁, h₁, h₂⟩ := h
  have hm₁ := h₁.metered hm
  have ended : ((w₁.note .discarded).remember fun s =>
      { discardWork s with running := false, ready := false }).Metered limit := by
    refine .event hm₁.lawful ?_ ?_ ?_ ?_
    · trivial
    · simp [Meter.after, Event.resets, Event.isAttempt, hm₁.tries, discardWork]
    · simp [Meter.after, Event.asks, Event.discards, discardWork]
    · simp [Meter.after, Event.resets, Event.engages, hm₁.owing]
  exact h₂.metered ended

theorem Fresh.metered (h₀ : W.Fresh w) : w.Metered limit := by
  refine ⟨?_, ?_, ?_, ?_⟩
  · rw [h₀.history]
    exact Each.nil
  all_goals
    simp only [h₀.history, h₀.session_eq]
    rfl

theorem Reaches.metered (hW : W.CallbacksOnlyMove) (h₀ : W.Fresh w)
    (h : W.Reaches W.EnvironmentOrNotice w w') : w'.Metered W.config.retryLimit := by
  induction h with
  | refl => exact h₀.metered
  | tail _ hs ih =>
    cases hs with
    | call c r h => exact (perform_cases c _ r _ h).metered ih
    | tick more h => exact (tick_cases hW _ more _ h).metered ih
    | shutdown polls h => exact (shutdown_cases hW polls _ () _ h).metered ih
    | outside h => exact (h.moves hW).metered ih

/-! ## Sessions that never get a link -/

end Wiring

namespace Event

/-- The budget is restored, or there is a link. -/
def relieves : Event → Bool
  | checked active => active
  | e => e.resets

theorem not_resets_of_not_relieves {e : Event} (h : e.relieves = false) : e.resets = false := by
  cases e <;> first | rfl | exact h

end Event

namespace Wiring

variable {W : Wiring χ π ι} {limit : Int} {v w w' : World χ π}

theorem counts_of_not_tends {es : List Event} (h : ∀ e ∈ es, (!e.tends) = true) :
    attempts es = 0 ∧ giveUps es = 0 := by
  simp only [attempts, giveUps, List.countP_eq_zero]
  refine ⟨fun e he ha => ?_, fun e he hg => ?_⟩
  · cases e with
    | attempted => exact absurd (h _ he) nofun
    | _ => cases ha
  · cases e with
    | gaveUp => exact absurd (h _ he) nofun
    | _ => cases hg

/-- The session has not looked after its link since the world `v`. -/
theorem Moves.aside (h : W.Moves v w) : v.Adds (!·.tends) w :=
  h.adds (fun _ he => by simp [Event.tends_of_aside he]) (.refl v)

/-- Without relief the counter stays as it is. -/
theorem Moves.tries_eq (h : W.Moves w w') (hm : w.Metered limit) {es : List Event}
    (hes : w'.history = w.history ++ es) (still : ∀ e ∈ es, e.relieves = false) :
    w'.session.tries = w.session.tries := by
  obtain ⟨es', hes', aside⟩ := h.aside
  obtain rfl := List.append_cancel_left (hes.symm.trans hes')
  rw [← (h.metered hm).tries, hes, Meter.tries_append, (counts_of_not_tends aside).1, hm.tries,
    Nat.add_zero]
  exact fun e h => Event.not_resets_of_not_relieves (still e h)

/-- Without relief, looking after a wanted link is one attempt while there is one left, and after
that giving up. -/
theorem Maintained.counts {kept : Bool} (h : W.Maintained w kept w')
    (hm : w.Metered W.config.retryLimit) (hc : w.session.connectRequested = true)
    {es : List Event} (hes : w'.history = w.history ++ es) (still : ∀ e ∈ es, e.relieves = false) :
    kept = true ∧ w.session.tries ≤ W.config.retryLimit ∧ attempts es = 1 ∧ giveUps es = 0 ∨
      kept = false ∧ W.config.retryLimit < w.session.tries ∧ attempts es = 0 ∧ giveUps es = 1 := by
  cases h with
  | unwanted h => rw [hc] at h; cases h
  | ensured _ h₁ =>
    cases h₁ with
    | linked h₁ _ =>
      obtain ⟨es₁, hh, he⟩ := h₁.aside
      rw [World.history_note, hh, List.append_assoc] at hes
      obtain rfl := List.append_cancel_left hes
      cases still (.checked true) (by simp)
    | @tried w₁ w₂ w₃ _ h₁ _ budget h₂ h₃ h₄ =>
      obtain ⟨es₁, hh₁, he₁⟩ := h₁.aside
      obtain ⟨es₂, hh₂, he₂⟩ := (Moves.of_passing (W := W) h₂).aside
      obtain ⟨es₃, hh₃, he₃⟩ : w₂.Adds (!·.tends) w₃ := by
        cases h₃ with
        | noPort => exact .refl _
        | asked => exact (World.Adds.refl _).note rfl
      obtain ⟨es₄, hh₄, he₄⟩ := h₄.aside
      rw [hh₄, hh₃, hh₂, World.history_note, World.history_remember, World.history_note, hh₁] at hes
      simp only [List.append_assoc] at hes
      obtain rfl := List.append_cancel_left hes
      have tries := h₁.tries_eq hm hh₁ fun e h => still e (List.mem_append_left _ h)
      rw [tries] at budget
      obtain ⟨a₁, g₁⟩ := counts_of_not_tends he₁
      obtain ⟨a₂, g₂⟩ := counts_of_not_tends he₂
      obtain ⟨a₃, g₃⟩ := counts_of_not_tends he₃
      obtain ⟨a₄, g₄⟩ := counts_of_not_tends he₄
      refine .inl ⟨rfl, Int.not_lt.1 budget, ?_, ?_⟩
      · simp only [attempts_append, a₁, a₂, a₃, a₄]
        rfl
      · simp only [giveUps_append, g₁, g₂, g₃, g₄]
        rfl
  | gaveUp _ h₁ h₂ =>
    cases h₁ with
    | spent h₁ _ budget =>
      obtain ⟨es₁, hh₁, he₁⟩ := h₁.aside
      obtain ⟨es₂, hh₂, he₂⟩ := (Moves.of_passing (W := W) h₂).aside
      rw [hh₂, World.history_note, World.history_remember, World.history_note, hh₁] at hes
      simp only [List.append_assoc] at hes
      obtain rfl := List.append_cancel_left hes
      have tries := h₁.tries_eq hm hh₁ fun e h => still e (List.mem_append_left _ h)
      rw [tries] at budget
      obtain ⟨a₁, g₁⟩ := counts_of_not_tends he₁
      obtain ⟨a₂, g₂⟩ := counts_of_not_tends he₂
      refine .inr ⟨rfl, budget, ?_, ?_⟩
      · simp only [attempts_append, a₁, a₂]
        rfl
      · simp only [giveUps_append, g₁, g₂]
        rfl

/-- Histories only grow. -/
theorem Ticked.grows {more : Bool} (h : W.Ticked w more w') : w.Adds (fun _ => true) w' := by
  rcases h with ⟨_, _, rfl⟩ | ⟨_, _, pending, backlog, kept, w₁, w₂, w₃, h⟩
  · exact .refl _
  · have hm₂ : w.Adds (fun _ => true) w₂ :=
      h.maintained.adds (by simp) (h.updated.adds (by simp) ((World.Adds.refl w).remember _))
    exact h.published.adds (by simp) (h.dispatched.adds (by simp) hm₂)

/-- Without relief, a tick of a session that wants a connection makes one attempt while there is one
left, and after that it gives up. -/
theorem Ticked.counts (h : W.Ticked w true w') (hm : w.Metered W.config.retryLimit)
    (hc : w.session.connectRequested = true) {es : List Event}
    (hes : w'.history = w.history ++ es) (still : ∀ e ∈ es, e.relieves = false) :
    w.session.tries ≤ W.config.retryLimit ∧ attempts es = 1 ∧ giveUps es = 0 ∧
        w'.session.connectRequested = true ∨
      W.config.retryLimit < w.session.tries ∧ attempts es = 0 ∧ giveUps es = 1 := by
  rcases h with ⟨_, h, _⟩ | ⟨_, _, pending, backlog, kept, w₁, w₂, w₃, h⟩
  · cases h
  obtain ⟨es₁, hh₁, he₁⟩ := h.updated.aside
  obtain ⟨es₂, hh₂, -⟩ := h.maintained.adds (by simp)
    (show w₁.Adds (fun _ => true) w₁ from .refl w₁)
  obtain ⟨es₃, hh₃, he₃⟩ := h.published.adds (fun _ he => by simp [Event.tends_of_aside he])
    (h.dispatched.adds (by simp) (show w₂.Adds (!·.tends) w₂ from .refl w₂))
  rw [World.history_remember] at hh₁
  rw [hh₃, hh₂, hh₁, List.append_assoc, List.append_assoc] at hes
  obtain rfl := List.append_cancel_left hes
  rw [List.forall_mem_append, List.forall_mem_append] at still
  obtain ⟨still₁, still₂, -⟩ := still
  obtain ⟨a₁, g₁⟩ := counts_of_not_tends he₁
  obtain ⟨a₃, g₃⟩ := counts_of_not_tends he₃
  have hm₁ := h.updated.metered (hm.remember rfl rfl)
  have hc₁ := h.updated.wanting hc
  have tries : w₁.session.tries = w.session.tries :=
    h.updated.tries_eq (hm.remember rfl rfl) hh₁ still₁
  rw [attempts_append, attempts_append, giveUps_append, giveUps_append, a₁, a₃, g₁, g₃, ← tries]
  rcases h.maintained.counts hm₁ hc₁ hh₂ still₂ with ⟨rfl, left, ha, hg⟩ | ⟨rfl, spent, ha, hg⟩
  · refine .inl ⟨left, by omega, by omega, h.published.wanting (h.dispatched.wanting ?_)⟩
    cases h.maintained with
    | unwanted _ => exact hc₁
    | ensured _ h₁ => exact (h₁.metered hc₁ hm₁).2.1
  · exact .inr ⟨spent, by omega, by omega⟩

/-- Part of a run, with this many ticks that go through, in which the session is not shut down. -/
inductive Persists (W : Wiring χ π ι) (E : World χ π → World χ π → Prop) :
    Nat → World χ π → World χ π → Prop
  | refl (w : World χ π) : Persists W E 0 w w
  | tick {k : Nat} {v w w' : World χ π} (hp : Persists W E k v w)
    (h : W.tick.run w = .ok (true, w')) : Persists W E (k + 1) v w'
  | call {k : Nat} {v w w' : World χ π} (hp : Persists W E k v w) (c : Call) (r : CallReply)
    (h : (W.perform c).run w = .ok (r, w')) : Persists W E k v w'
  | outside {k : Nat} {v w w' : World χ π} (hp : Persists W E k v w) (h : E w w') :
    Persists W E k v w'

variable {k : Nat}

theorem Persists.grows (hW : W.CallbacksOnlyMove) (h : W.Persists W.EnvironmentOrNotice k v w) :
    v.Adds (fun _ => true) w := by
  induction h with
  | refl w => exact .refl w
  | tick _ h ih =>
    obtain ⟨es, hes, he⟩ := (tick_cases hW _ _ _ h).grows
    exact ih.append hes he
  | call _ c r h ih => exact (perform_cases c _ r _ h).adds (by simp) ih
  | outside _ h ih => exact (h.moves hW).adds (by simp) ih

/-- Between ticks, moves without relief neither use up attempts nor restore them. -/
theorem Persists.tries_eq_of_moves (hW : W.CallbacksOnlyMove)
    (hp : W.Persists W.EnvironmentOrNotice k v w) (h : W.Moves w w')
    (ih : (∀ e ∈ w.since v, e.relieves = false) → k ≤ W.config.retryLimit + 1 →
      w.Metered W.config.retryLimit ∧ w.session.connectRequested = true ∧ w.session.tries = k)
    (still : ∀ e ∈ w'.since v, e.relieves = false) (hk : k ≤ W.config.retryLimit + 1) :
    w'.Metered W.config.retryLimit ∧ w'.session.connectRequested = true ∧
      w'.session.tries = k := by
  obtain ⟨es, hes, he⟩ := h.aside
  rw [(hp.grows hW).since_eq_append ⟨es, hes, he⟩, World.since_eq hes,
    List.forall_mem_append] at still
  obtain ⟨hm₁, hc₁, ht₁⟩ := ih still.1 hk
  exact ⟨h.metered hm₁, h.wanting hc₁, (h.tries_eq hm₁ hes still.2).trans ht₁⟩

/-- Without relief every tick uses up one attempt, until none is left. -/
theorem Persists.tries_eq (hW : W.CallbacksOnlyMove) (h : W.Persists W.EnvironmentOrNotice k v w)
    (hm : v.Metered W.config.retryLimit) (hc : v.session.connectRequested = true)
    (ht : v.session.tries = 0) (still : ∀ e ∈ w.since v, e.relieves = false)
    (hk : k ≤ W.config.retryLimit + 1) :
    w.Metered W.config.retryLimit ∧ w.session.connectRequested = true ∧ w.session.tries = k := by
  induction h with
  | refl => exact ⟨hm, hc, ht⟩
  | @tick k _ w w' hp h ih =>
    have ticked := tick_cases hW _ _ _ h
    obtain ⟨es, hes, he⟩ := ticked.grows
    rw [(hp.grows hW).since_eq_append ⟨es, hes, he⟩, World.since_eq hes,
      List.forall_mem_append] at still
    obtain ⟨hm₁, hc₁, ht₁⟩ := ih hm hc ht still.1 (by omega)
    have hm₂ := ticked.metered hm₁
    rcases ticked.counts hm₁ hc₁ hes still.2 with ⟨_, ha, _, hc₂⟩ | ⟨spent, _⟩
    · refine ⟨hm₂, hc₂, ?_⟩
      rw [← hm₂.tries, hes, Meter.tries_append, hm₁.tries, ht₁, ha]
      exact fun e h => Event.not_resets_of_not_relieves (still.2 e h)
    · omega
  | call hp c r h ih =>
    exact hp.tries_eq_of_moves hW (.single (.call c r h)) (ih hm hc ht) still hk
  | outside hp h ih =>
    exact hp.tries_eq_of_moves hW (h.moves hW) (ih hm hc ht) still hk

/-- In every run the connect attempts and the give-ups keep to the budget. When a connection has
just been asked for and then nothing restores the budget and there is never a link, every tick makes
one attempt as long as one is left, and the tick after that gives up. -/
theorem attempts_within_budget (hW : W.CallbacksOnlyCall EnvironmentStep) {w₀ : World χ π}
    (h₀ : W.Fresh w₀) (h : W.Reaches W.EnvironmentOrNotice w₀ w) :
    Budgeted W.config.retryLimit w.history ∧
    ∀ k w₁ w₂, (∃ a, w.history = a ++ [.wanted]) → W.Persists W.EnvironmentOrNotice k w w₁ →
      W.tick.run w₁ = .ok (true, w₂) → (∀ e ∈ w₂.since w, e.relieves = false) →
        (k ≤ W.config.retryLimit → attempts (w₂.since w₁) = 1 ∧ giveUps (w₂.since w₁) = 0) ∧
        (k = W.config.retryLimit + 1 →
          attempts (w₂.since w₁) = 0 ∧ giveUps (w₂.since w₁) = 1) := by
  have hW := hW.onlyMove fun _ _ => EnvironmentStep.passing
  have hm := Reaches.metered hW h₀ h
  refine ⟨hm.lawful.budgeted (SessionConfig.of_validate h₀.validate).2, ?_⟩
  intro k w₁ w₂ ⟨a, asked⟩ hp ht still
  have hc : w.session.connectRequested = true := by
    rw [← hm.wanted, asked, Meter.of_concat]
    rfl
  have ht₀ : w.session.tries = 0 := by
    rw [← hm.tries, asked, Meter.of_concat]
    rfl
  have ticked := tick_cases hW _ _ _ ht
  obtain ⟨es, hes, he⟩ := ticked.grows
  rw [(hp.grows hW).since_eq_append ⟨es, hes, he⟩, World.since_eq hes,
    List.forall_mem_append] at still
  rw [World.since_eq hes]
  constructor
  · intro hk
    obtain ⟨hm₁, hc₁, ht₁⟩ := hp.tries_eq hW hm hc ht₀ still.1 (by omega)
    rcases ticked.counts hm₁ hc₁ hes still.2 with ⟨_, ha, hg, _⟩ | ⟨spent, _⟩
    · exact ⟨ha, hg⟩
    · omega
  · intro hk
    obtain ⟨hm₁, hc₁, ht₁⟩ := hp.tries_eq hW hm hc ht₀ still.1 (by omega)
    rcases ticked.counts hm₁ hc₁ hes still.2 with ⟨left, _⟩ | ⟨_, ha, hg⟩
    · omega
    · exact ⟨ha, hg⟩

theorem persists_of_ticks {E : World χ π → World χ π → Prop} :
    ∀ {k : Nat} {w w' : World χ π}, W.ticks k w = some w' → W.Persists E k w w'
  | 0, w, _, h => by
    cases h
    exact .refl w
  | k + 1, w, w', h => by
    obtain ⟨w₁, h₁, h₂⟩ := Option.bind_eq_some_iff.1 h
    split at h₂
    · cases h₂
      exact .tick (persists_of_ticks h₁) ‹_›
    · cases h₂

end Wiring

namespace Rehearsal

/-- A small session whose peer has a name that nobody knows. -/
def lost : SessionConfig :=
  { modest with remoteHost := [113] }

theorem attempts_within_budget_lost : ∃ w w₁ w₂ : World (Wired Loopback) (Option PortSupply),
    (echoing lost).Reaches (echoing lost).EnvironmentOrNotice (opening lost) w ∧
    (∃ a, w.history = a ++ [.wanted]) ∧
    (echoing lost).Persists (echoing lost).EnvironmentOrNotice 2 w w₁ ∧
    (echoing lost).tick.run w₁ = .ok (true, w₂) ∧ (∀ e ∈ w₂.since w, e.relieves = false) ∧
    attempts (w₁.since w) = 2 ∧ attempts (w₂.since w₁) = 0 ∧ giveUps (w₂.since w₁) = 1 := by
  have played : (((echoing lost).play [.call .start, .call .requestConnect] (opening lost)).bind
      fun w => ((echoing lost).ticks 2 w).bind fun w₁ => ((echoing lost).ticks 1 w₁).map fun w₂ =>
        (w.history.getLast?.any (·.asks), (w₂.since w).all (!·.relieves), attempts (w₁.since w))) =
      some (true, true, 2) := by
    decide +kernel
  obtain ⟨w, hw, played⟩ := Option.bind_eq_some_iff.1 played
  obtain ⟨w₁, hw₁, played⟩ := Option.bind_eq_some_iff.1 played
  obtain ⟨w₂, hw₂, facts⟩ := Option.map_eq_some_iff.1 played
  simp only [Prod.mk.injEq, List.all_eq_true, Bool.not_eq_true'] at facts
  obtain ⟨last, still, two⟩ := facts
  have run : (echoing lost).Reaches (echoing lost).EnvironmentOrNotice (opening lost) w :=
    Wiring.environmentOrNotice_of_play hw
  have asked : ∃ a, w.history = a ++ [.wanted] := by
    obtain ⟨e, he, asks⟩ := (Option.any_eq_true _ _).1 last
    obtain rfl : e = .wanted := by cases e <;> first | rfl | cases asks
    exact List.getLast?_eq_some_iff.1 he
  have ticked : (echoing lost).tick.run w₁ = .ok (true, w₂) := Wiring.tick_of_ticks hw₂
  have persists : (echoing lost).Persists (echoing lost).EnvironmentOrNotice 2 w w₁ :=
    Wiring.persists_of_ticks hw₁
  have fresh := opening_fresh (show lost.validate = .ok () by decide +kernel)
  obtain ⟨-, progress⟩ := Wiring.attempts_within_budget (echoing_onlyCall _ _) fresh run
  obtain ⟨none, gaveUp⟩ := (progress 2 w₁ w₂ asked persists ticked still).2 rfl
  exact ⟨w, w₁, w₂, run, asked, persists, ticked, still, two, none, gaveUp⟩

end Rehearsal

end Teleop
