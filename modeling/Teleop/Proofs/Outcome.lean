import Mathlib.Logic.Relation
import Teleop.Session.World

/-!
# Outcomes of operations

Operations on a state may break off with a fault. `Yields x s Q` says that whatever `x` returns when
it is run in `s`, together with the state it leaves, satisfies `Q`; an operation that breaks off
yields everything. The rules below run an operation symbolically: each rewrites `Yields` of a
compound operation into `Yields` of its parts.

`Keeps R x` is the special case of a relation between the states before and after, and `Upholds I x`
that of an invariant. `Returns x s Q` says in addition that `x` does not break off, and `Maintains I
x` that it does not wherever the invariant holds.
-/

namespace Teleop

section Rules

variable {σ ε α β : Type}

/-- Whatever `x` returns when it is run in `s` satisfies `Q`. -/
def Yields (x : StateT σ (Except ε) α) (s : σ) (Q : α → σ → Prop) : Prop :=
  ∀ a s', x.run s = .ok (a, s') → Q a s'

variable {s : σ} {Q : α → σ → Prop}

theorem Yields.mono {x : StateT σ (Except ε) α} {R : α → σ → Prop} (h : Yields x s Q)
    (hQ : ∀ a s', Q a s' → R a s') : Yields x s R :=
  fun a s' e => hQ a s' (h a s' e)

theorem Yields.and {x : StateT σ (Except ε) α} {R : α → σ → Prop} (h : Yields x s Q)
    (h' : Yields x s R) : Yields x s fun a s' => Q a s' ∧ R a s' :=
  fun a s' e => ⟨h a s' e, h' a s' e⟩

/-- An operation has at most one outcome. -/
theorem yields_of_run {x : StateT σ (Except ε) α} {a : α} {s' : σ} (h : x.run s = .ok (a, s'))
    (hQ : Q a s') : Yields x s Q := by
  intro b s'' e
  obtain ⟨rfl, rfl⟩ := Prod.mk.inj (Except.ok.inj (h.symm.trans e))
  exact hQ

@[simp] theorem yields_pure (a : α) :
    Yields (pure a : StateT σ (Except ε) α) s Q ↔ Q a s := by
  constructor
  · intro h
    exact h a s rfl
  · rintro h b s' e
    have e : Except.ok (a, s) = Except.ok (b, s') := e
    cases e
    exact h

@[simp] theorem yields_bind {P : β → σ → Prop} (x : StateT σ (Except ε) α)
    (f : α → StateT σ (Except ε) β) :
    Yields (x >>= f) s P ↔ Yields x s fun a s' => Yields (f a) s' P := by
  constructor
  · intro h a s' e b s'' e'
    refine h b s'' ?_
    rw [StateT.run_bind, e]
    exact e'
  · intro h b s'' e
    rw [StateT.run_bind] at e
    cases hx : x.run s with
    | error f => rw [hx] at e; cases e
    | ok r =>
      rw [hx] at e
      exact h r.1 r.2 hx b s'' e

@[simp] theorem yields_get {P : σ → σ → Prop} :
    Yields (get : StateT σ (Except ε) σ) s P ↔ P s s :=
  yields_pure s

@[simp] theorem yields_modify {P : Unit → σ → Prop} (f : σ → σ) :
    Yields (modify f : StateT σ (Except ε) Unit) s P ↔ P () (f s) := by
  constructor
  · intro h
    exact h () (f s) rfl
  · rintro h ⟨⟩ s' e
    have e : Except.ok ((), f s) = Except.ok ((), s') := e
    cases e
    exact h

@[simp] theorem yields_throw (e : ε) :
    Yields (throw e : StateT σ (Except ε) α) s Q ↔ True := by
  refine iff_of_true ?_ trivial
  rintro a s' h
  cases h

@[simp] theorem yields_lift (x : Except ε α) :
    Yields (liftM x : StateT σ (Except ε) α) s Q ↔ ∀ a, x = .ok a → Q a s := by
  cases x with
  | error e => exact iff_of_true (fun a s' h => nomatch h) fun a h => nomatch h
  | ok a =>
    refine (yields_pure a).trans ⟨fun h b e => ?_, fun h => h a rfl⟩
    cases e
    exact h

theorem yields_ite {c : Prop} [Decidable c] (x y : StateT σ (Except ε) α) :
    Yields (if c then x else y) s Q ↔ (c → Yields x s Q) ∧ (¬c → Yields y s Q) := by
  split <;> simp [*]

/-! ## What is kept -/

/-- The states before and after `x` are related by `R`. -/
def Keeps (R : σ → σ → Prop) (x : StateT σ (Except ε) α) : Prop :=
  ∀ s, Yields x s fun _ s' => R s s'

namespace Keeps

variable {R : σ → σ → Prop}

theorem throw (e : ε) : Keeps R (throw e : StateT σ (Except ε) α) :=
  fun _ => (yields_throw e).2 trivial

theorem ite {c : Prop} [Decidable c] {x y : StateT σ (Except ε) α} (hx : Keeps R x)
    (hy : Keeps R y) : Keeps R (if c then x else y) := by
  split
  · exact hx
  · exact hy

variable [IsPreorder σ R]

theorem pure (a : α) : Keeps R (Pure.pure a : StateT σ (Except ε) α) :=
  fun s => (yields_pure a).2 (Std.Refl.refl s)

theorem get : Keeps R (MonadState.get : StateT σ (Except ε) σ) :=
  fun s => yields_get.2 (Std.Refl.refl s)

theorem lift (x : Except ε α) : Keeps R (liftM x : StateT σ (Except ε) α) :=
  fun s => (yields_lift x).2 fun _ _ => Std.Refl.refl s

theorem bind {x : StateT σ (Except ε) α} {f : α → StateT σ (Except ε) β} (hx : Keeps R x)
    (hf : ∀ a, Keeps R (f a)) : Keeps R (x >>= f) := by
  intro s
  rw [yields_bind]
  refine (hx s).mono fun a s' h => (hf a s').mono fun b s'' h' => ?_
  exact IsTrans.trans _ _ _ h h'

theorem forM {f : α → StateT σ (Except ε) Unit} :
    ∀ {l : List α}, (∀ a ∈ l, Keeps R (f a)) → Keeps R (l.forM f)
  | [], _ => pure _
  | a :: l, hf => by
    change Keeps R (f a >>= fun _ => l.forM f)
    exact bind (hf a List.mem_cons_self) fun _ => forM fun b hb => hf b (List.mem_cons_of_mem _ hb)

end Keeps

/-- An invariant holds after `x` if it held before. -/
abbrev Upholds (I : σ → Prop) (x : StateT σ (Except ε) α) : Prop :=
  Keeps (fun s s' => I s → I s') x

instance upholdsPreorder (I : σ → Prop) : IsPreorder σ (fun s s' => I s → I s') where
  refl _ h := h
  trans _ _ _ h h' hs := h' (h hs)

theorem upholds_iff {I : σ → Prop} {x : StateT σ (Except ε) α} :
    Upholds I x ↔ ∀ s, I s → Yields x s fun _ s' => I s' :=
  ⟨fun h s hs => (h s).mono fun _ _ hI => hI hs, fun h s a s' e hs => h s hs a s' e⟩

/-! ## Operations that do not break off -/

/-- `x` returns something when it is run in `s`, and what it returns satisfies `Q`. -/
def Returns (x : StateT σ (Except ε) α) (s : σ) (Q : α → σ → Prop) : Prop :=
  ∃ a s', x.run s = .ok (a, s') ∧ Q a s'

theorem Returns.mono {x : StateT σ (Except ε) α} {R : α → σ → Prop} (h : Returns x s Q)
    (hQ : ∀ a s', Q a s' → R a s') : Returns x s R := by
  obtain ⟨a, s', e, hq⟩ := h
  exact ⟨a, s', e, hQ a s' hq⟩

/-- An operation returns one thing only. -/
theorem Returns.and {x : StateT σ (Except ε) α} {R : α → σ → Prop} (h : Returns x s Q)
    (h' : Returns x s R) : Returns x s fun a s' => Q a s' ∧ R a s' := by
  obtain ⟨a, s', e, hq⟩ := h
  obtain ⟨b, s'', e', hr⟩ := h'
  obtain ⟨rfl, rfl⟩ := Prod.mk.inj (Except.ok.inj (e.symm.trans e'))
  exact ⟨a, s', e, hq, hr⟩

theorem returns_pure {a : α} (h : Q a s) : Returns (pure a : StateT σ (Except ε) α) s Q :=
  ⟨a, s, rfl, h⟩

theorem returns_bind {P : β → σ → Prop} {x : StateT σ (Except ε) α}
    {f : α → StateT σ (Except ε) β} (h : Returns x s fun a s' => Returns (f a) s' P) :
    Returns (x >>= f) s P := by
  obtain ⟨a, s', e, b, s'', e', hp⟩ := h
  refine ⟨b, s'', ?_, hp⟩
  rw [StateT.run_bind, e]
  exact e'

theorem returns_get {P : σ → σ → Prop} (h : P s s) :
    Returns (get : StateT σ (Except ε) σ) s P :=
  returns_pure h

theorem returns_modify {P : Unit → σ → Prop} {f : σ → σ} (h : P () (f s)) :
    Returns (modify f : StateT σ (Except ε) Unit) s P :=
  ⟨(), f s, rfl, h⟩

theorem returns_ite {c : Prop} [Decidable c] {x y : StateT σ (Except ε) α}
    (hx : c → Returns x s Q) (hy : ¬c → Returns y s Q) : Returns (if c then x else y) s Q := by
  split
  · next h => exact hx h
  · next h => exact hy h

/-- An invariant of a loop, which depends on what is left to do. -/
theorem returns_forM {I : List α → σ → Prop} {f : α → StateT σ (Except ε) Unit}
    (step : ∀ a l s, I (a :: l) s → Returns (f a) s fun _ s' => I l s') :
    ∀ {l : List α} {s : σ}, I l s → Returns (l.forM f) s fun _ s' => I [] s'
  | [], _, h => returns_pure h
  | a :: l, s, h => by
    change Returns (f a >>= fun _ => l.forM f) s _
    exact returns_bind ((step a l s h).mono fun _ _ h' => returns_forM step h')

theorem returns_lift {x : Except ε α} {a : α} (h : x = .ok a) (hQ : Q a s) :
    Returns (liftM x : StateT σ (Except ε) α) s Q := by
  subst h
  exact returns_pure hQ

/-- Wherever an invariant holds `x` returns, and the invariant holds after it. -/
def Maintains (I : σ → Prop) (x : StateT σ (Except ε) α) : Prop :=
  ∀ s, I s → Returns x s fun _ s' => I s'

theorem Returns.of_maintains {I : σ → Prop} {x : StateT σ (Except ε) α} (hs : I s)
    (h : Maintains I x) : Returns x s fun _ s' => I s' :=
  h s hs

namespace Maintains

variable {I : σ → Prop}

theorem pure (a : α) : Maintains I (Pure.pure a : StateT σ (Except ε) α) :=
  fun _ h => returns_pure h

theorem get : Maintains I (MonadState.get : StateT σ (Except ε) σ) :=
  fun _ h => returns_get h

theorem modifying {f : σ → σ} (h : ∀ s, I s → I (f s)) :
    Maintains I (modify f : StateT σ (Except ε) Unit) :=
  fun s hs => returns_modify (h s hs)

theorem bind {x : StateT σ (Except ε) α} {f : α → StateT σ (Except ε) β} (hx : Maintains I x)
    (hf : ∀ a, Maintains I (f a)) : Maintains I (x >>= f) :=
  fun s hs => returns_bind ((hx s hs).mono fun a s' hs' => hf a s' hs')

theorem ite {c : Prop} [Decidable c] {x y : StateT σ (Except ε) α} (hx : Maintains I x)
    (hy : Maintains I y) : Maintains I (if c then x else y) := by
  split
  · exact hx
  · exact hy

theorem forM {f : α → StateT σ (Except ε) Unit} :
    ∀ {l : List α}, (∀ a ∈ l, Maintains I (f a)) → Maintains I (l.forM f)
  | [], _ => pure _
  | a :: l, hf => by
    change Maintains I (f a >>= fun _ => l.forM f)
    exact bind (hf a List.mem_cons_self) fun _ => forM fun b hb => hf b (List.mem_cons_of_mem _ hb)

end Maintains

/-! ## Refinement -/

/-- Whatever `x` returns, `y` returns too. -/
def Refines (x y : StateT σ (Except ε) α) : Prop :=
  ∀ s, Yields x s fun a s' => y.run s = .ok (a, s')

namespace Refines

theorem refl (x : StateT σ (Except ε) α) : Refines x x :=
  fun _ _ _ e => e

theorem bind {x y : StateT σ (Except ε) α} {f g : α → StateT σ (Except ε) β} (h : Refines x y)
    (hf : ∀ a, Refines (f a) (g a)) : Refines (x >>= f) (y >>= g) := by
  intro s
  refine (yields_bind _ _).2 ((h s).mono fun a s' e => (hf a s').mono fun b s'' e' => ?_)
  rw [StateT.run_bind, e]
  exact e'

theorem ite {c : Prop} [Decidable c] {x x' y y' : StateT σ (Except ε) α} (h : Refines x y)
    (h' : Refines x' y') : Refines (if c then x else x') (if c then y else y') := by
  split
  · exact h
  · exact h'

end Refines

end Rules

end Teleop
