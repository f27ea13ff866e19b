import Mathlib.Data.List.DropRight
import Teleop.Proofs.Session.Round

/-!
# Histories

* `Each P h` says that every event of a history meets a condition on the events before it. Histories
  grow at their end, so such a condition is kept by showing it for one more event (`Each.concat`);
* `World.Adds` says by what kind of events a history has grown, and `World.since` is what it has
  grown by. Moves add only events of calls and passing ones (`Moves.adds`).
-/

namespace Teleop

/-- All waiting work was discarded. -/
def Event.discards : Event → Bool
  | .gaveUp | .discarded => true
  | _ => false

/-- An event of a longer history is the new one or one of the old ones. -/
theorem concat_eq_append_cons {h a b : List Event} {e x : Event} (heq : h ++ [e] = a ++ x :: b) :
    h = a ∧ e = x ∧ b = [] ∨ ∃ b', b = b' ++ [e] ∧ h = a ++ x :: b' := by
  rcases List.eq_nil_or_concat' b with rfl | ⟨b', e', rfl⟩
  · obtain ⟨rfl, he⟩ := List.append_inj' heq rfl
    exact .inl ⟨rfl, by simpa using he, rfl⟩
  · rw [← List.cons_append, ← List.append_assoc] at heq
    obtain ⟨rfl, he⟩ := List.append_inj' heq rfl
    obtain rfl : e = e' := by simpa using he
    exact .inr ⟨b', rfl, rfl⟩

/-- Every event meets a condition on the events before it. -/
def Each (P : List Event → Event → Prop) (h : List Event) : Prop :=
  ∀ a e b, h = a ++ e :: b → P a e

namespace Each

variable {P : List Event → Event → Prop} {h : List Event}

theorem nil : Each P [] := by
  intro a e b heq
  simp at heq

theorem concat {e : Event} (hh : Each P h) (he : P h e) : Each P (h ++ [e]) := by
  intro a e' b heq
  rcases concat_eq_append_cons heq with ⟨rfl, rfl, rfl⟩ | ⟨b', rfl, old⟩
  · exact he
  · exact hh a e' b' old

/-- Events that meet the condition whatever came before them. -/
theorem append {es : List Event} (hh : Each P h) (hes : ∀ e ∈ es, ∀ a, P a e) :
    Each P (h ++ es) := by
  induction es generalizing h with
  | nil => simpa using hh
  | cons e es ih =>
    obtain ⟨he, hes⟩ := List.forall_mem_cons.1 hes
    rw [List.append_cons]
    exact ih (hh.concat (he h)) hes

theorem left {h' : List Event} (hh : Each P (h ++ h')) : Each P h := by
  rintro a e b rfl
  exact hh a e (b ++ h') (by simp)

end Each

/-! ## Growth -/

/-- The session looks after its link. -/
def Event.tends : Event → Bool
  | checked _ | attempted | gaveUp => true
  | _ => false

/-- Events of calls, and events that tell nothing about work and connect attempts. -/
def Event.aside : Event → Bool
  | submitted _ | overflowed _ | requested _ | batched .. | cleared _ | closed _ | started
  | wanted => true
  | e => e.passing

theorem Event.aside_of_passing {e : Event} (h : e.passing = true) : e.aside = true := by
  cases e <;> first | rfl | exact h

theorem Event.tends_of_aside {e : Event} (h : e.aside = true) : e.tends = false := by
  cases e <;> first | rfl | cases h

/-- Events of looking after the link, and those that may come with it. -/
def Event.upkeep : Event → Bool
  | checked _ | attempted | connect .. | gaveUp => true
  | e => e.aside

theorem Event.upkeep_of_aside {e : Event} (h : e.aside = true) : e.upkeep = true := by
  cases e <;> first | rfl | exact h

variable {χ π ι : Type}

/-- Events of a kind were added to the history since the world `v`. -/
def World.Adds (kind : Event → Bool) (v w : World χ π) : Prop :=
  ∃ es, w.history = v.history ++ es ∧ ∀ e ∈ es, kind e = true

namespace World.Adds

variable {kind : Event → Bool} {v w w' : World χ π}

theorem refl (w : World χ π) : w.Adds kind w :=
  ⟨[], by simp⟩

theorem append (ha : v.Adds kind w) {es : List Event} (hh : w'.history = w.history ++ es)
    (he : ∀ e ∈ es, kind e = true) : v.Adds kind w' := by
  obtain ⟨es', hh', he'⟩ := ha
  refine ⟨es' ++ es, by rw [hh, hh', List.append_assoc], ?_⟩
  rw [List.forall_mem_append]
  exact ⟨he', he⟩

theorem trans (ha : v.Adds kind w) (hb : w.Adds kind w') : v.Adds kind w' := by
  obtain ⟨es, hh, he⟩ := hb
  exact ha.append hh he

theorem note (ha : v.Adds kind w) {e : Event} (he : kind e = true) : v.Adds kind (w.note e) :=
  ha.append (history_note w e) (by simpa using he)

theorem remember (ha : v.Adds kind w) (f : Session → Session) : v.Adds kind (w.remember f) :=
  ha

theorem overflowing (ha : v.Adds kind w) (dropped : Nat)
    (counted : kind (.overflowed dropped) = true)
    (logged : kind (.logged .session (overflowEntry dropped)) = true) :
    v.Adds kind (World.overflowing dropped w) := by
  unfold World.overflowing
  split
  · exact (ha.note counted).note logged
  · exact ha

theorem passing (hk : ∀ e, e.aside = true → kind e = true) (ha : v.Adds kind w)
    (h : w.Passing w') : v.Adds kind w' := by
  obtain ⟨es, hh, he⟩ := h.history
  exact ha.append hh fun e h => hk e (Event.aside_of_passing (he e h))

end World.Adds

theorem World.Same.adds {α : Type} {part : Session → α} {kind kind' : Event → Bool}
    {w w' : World χ π} (h : w.Same part kind w') (hk : ∀ e, kind e = true → kind' e = true) :
    w.Adds kind' w' := by
  obtain ⟨es, hh, he⟩ := h.history
  exact ⟨es, hh, fun e h => hk e (he e h)⟩

/-- What has happened since the world `v`. -/
def World.since (w v : World χ π) : List Event :=
  w.history.drop v.history.length

theorem World.since_eq {v w : World χ π} {es : List Event} (h : w.history = v.history ++ es) :
    w.since v = es := by
  rw [since, h, List.drop_left]

theorem World.Adds.since_eq_append {kind kind' : Event → Bool} {u v w : World χ π}
    (h : u.Adds kind v) (h' : v.Adds kind' w) : w.since u = v.since u ++ w.since v := by
  obtain ⟨es, hes, -⟩ := h
  obtain ⟨es', hes', -⟩ := h'
  have hes'' : w.history = u.history ++ (es ++ es') := by rw [hes', hes, List.append_assoc]
  rw [since_eq hes, since_eq hes', since_eq hes'']

namespace Wiring

variable {W : Wiring χ π ι} {kind : Event → Bool} {v w w' : World χ π}

section Aside

variable (hk : ∀ e, e.aside = true → kind e = true)

include hk

theorem Engaged.adds (h : Engaged w w') (ha : v.Adds kind w) : v.Adds kind w' := by
  cases h with
  | nothing => exact ha
  | requested m => exact (ha.note (hk _ rfl)).remember _
  | submitted m _ h' =>
    subst h'
    exact ((ha.note (hk _ rfl)).remember _).overflowing _ (hk _ rfl) (hk _ rfl)
  | batched number batch _ _ => exact (ha.note (hk _ rfl)).remember _

theorem Called.adds (h : Called w w') (ha : v.Adds kind w) : v.Adds kind w' := by
  cases h with
  | quiet h =>
    obtain ⟨es, hh, he⟩ := h.history
    exact ha.append hh fun e h => hk e (Event.aside_of_passing (he e h))
  | created interval => exact ha.remember _
  | cleared number _ => exact (ha.note (hk _ rfl)).remember _
  | closed number _ => exact (ha.note (hk _ rfl)).remember _
  | started run _ h' => exact World.Adds.passing hk ((ha.note (hk _ rfl)).remember _) h'
  | wanted h => exact ((h.adds hk ha).note (hk _ rfl)).remember _

theorem Moves.adds (h : W.Moves w w') (ha : v.Adds kind w) : v.Adds kind w' := by
  refine Moves.invariant (fun w w' hs ha => ?_) h ha
  cases hs with
  | passing h => exact World.Adds.passing hk ha h
  | call c r h => exact Called.adds hk (perform_cases c w r w' h) ha

theorem HandedOff.adds {label : Label} {ms : List (Option Message)}
    (hl : ∀ m accepted, kind (.handOff label m accepted) = true)
    (h : HandedOff label ms w w') (ha : v.Adds kind w) : v.Adds kind w' := by
  induction h with
  | nil => exact ha
  | cons accepted h₁ h₂ _ ih =>
    exact ih (World.Adds.passing hk ((World.Adds.passing hk ha h₁).note (hl _ _)) h₂)

end Aside

section Upkeep

variable (hk : ∀ e, e.upkeep = true → kind e = true)

include hk

theorem Ensured.adds {kept : Bool} (h : W.Ensured w kept w') (ha : v.Adds kind w) :
    v.Adds kind w' := by
  have aside : ∀ e, e.aside = true → kind e = true := fun e h => hk e (Event.upkeep_of_aside h)
  cases h with
  | linked h₁ _ => exact (h₁.adds aside ha).note (hk _ rfl)
  | spent h₁ _ _ => exact (h₁.adds aside ha).note (hk _ rfl)
  | tried h₁ _ _ h₂ h₃ h₄ =>
    have checked := (h₁.adds aside ha).note (hk (.checked false) rfl)
    have tried := World.Adds.passing aside ((checked.remember _).note (hk _ rfl)) h₂
    refine h₄.adds aside ?_
    cases h₃ with
    | noPort => exact tried
    | asked => exact tried.note (hk _ rfl)

theorem Maintained.adds {kept : Bool} (h : W.Maintained w kept w') (ha : v.Adds kind w) :
    v.Adds kind w' := by
  cases h with
  | unwanted => exact ha
  | ensured _ h₁ => exact h₁.adds hk ha
  | gaveUp _ h₁ h₂ =>
    have lost := ((h₁.adds hk ha).remember discardWork).note (hk .gaveUp rfl)
    exact World.Adds.passing (fun e h => hk e (Event.upkeep_of_aside h)) lost h₂

end Upkeep

theorem Dispatched.adds (hk : ∀ e, e.tends = false → kind e = true) {request : Option Message}
    {pending : List Message} (h : W.Dispatched request pending w w') (ha : v.Adds kind w) :
    v.Adds kind w' := by
  have aside : ∀ e, e.aside = true → kind e = true := fun e h => hk e (Event.tends_of_aside h)
  cases h with
  | sent _ _ h₁ h₂ h₃ =>
    have ha₂ := h₂.adds aside (fun _ _ => hk _ rfl)
      (h₁.adds aside (fun _ _ => hk _ rfl) (ha.note (hk _ rfl)))
    exact h₃.adds aside (fun _ _ => hk _ rfl) ((ha₂.note (hk _ rfl)).remember _)
  | nothing => exact ha.note (hk _ rfl)
  | putBack _ _ h₂ =>
    subst h₂
    exact ((ha.note (hk _ rfl)).remember _).overflowing _ (hk _ rfl) (hk _ rfl)

end Wiring

end Teleop
