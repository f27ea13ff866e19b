import Mathlib.Data.Int.Range
import Mathlib.Data.List.Rotate
import Teleop.Port.Allocator

/-!
# Ports in rotation

A search that starts at a port comes to the ports of the range in cyclic order, the `rotation` of
that port. With every step the rotation turns by one place (`rotation_cyclicSucc`). A search is
therefore a walk through a list that stops at the first free port, and calls that find the same
ports free go through the list of these ports again and again.

* `search_of_free`, `search_of_busy`: what a search comes to;
* `Reachable`: the states of an allocator, whatever is free and however its provisionings go;
* `next_takes_first_free`: what one call does;
* `free_ports_in_turn`: what a cycle of calls does that all find the same ports free.
-/

namespace Teleop

namespace Allocator

/-! ## Cyclic order -/

theorem range_eq_cons {first last : Int} (h : first < last) :
    Int.range first last = first :: Int.range (first + 1) last := by
  have count : (last - first).toNat = (last - (first + 1)).toNat + 1 := by omega
  unfold Int.range
  rw [count, List.range_succ_eq_map, List.map_cons, List.map_map]
  congr 1
  · simp
  · apply List.map_congr_left
    intro i _
    rw [Function.comp_apply]
    omega

theorem range_succ {first last : Int} (h : first ≤ last) :
    Int.range first (last + 1) = Int.range first last ++ [last] := by
  have count : (last + 1 - first).toNat = (last - first).toNat + 1 := by omega
  unfold Int.range
  rw [count, List.range_succ, List.map_append, List.map_singleton]
  congr 2
  omega

theorem range_eq_nil (first : Int) : Int.range first first = [] := by
  simp [Int.range]

theorem nodup_range (first last : Int) : (Int.range first last).Nodup := by
  apply List.Nodup.map
  · intro i j h
    dsimp only at h
    omega
  · exact List.nodup_range

/-- The ports from `min` to `max` in cyclic order from `port` on. -/
def rotation (min max port : Int) : List Int :=
  Int.range port (max + 1) ++ Int.range min port

/-- The port after `port` in cyclic order. -/
def cyclicSucc (min max port : Int) : Int :=
  if port = max then min else port + 1

variable {min max port : Int}

theorem mem_rotation (lo : min ≤ port) (hi : port ≤ max) {q : Int} :
    q ∈ rotation min max port ↔ min ≤ q ∧ q ≤ max := by
  unfold rotation
  rw [List.mem_append, Int.mem_range_iff, Int.mem_range_iff]
  omega

theorem nodup_rotation (min max port : Int) : (rotation min max port).Nodup := by
  unfold rotation
  refine List.nodup_append.2 ⟨nodup_range _ _, nodup_range _ _, ?_⟩
  intro q hq r hr
  rw [Int.mem_range_iff] at hq hr
  omega

theorem length_rotation (lo : min ≤ port) (hi : port ≤ max) :
    (rotation min max port).length = (max - min + 1).toNat := by
  simp only [rotation, Int.range, List.length_append, List.length_map, List.length_range]
  omega

variable (min) in
theorem head?_rotation (hi : port ≤ max) : (rotation min max port).head? = some port := by
  unfold rotation
  rw [range_eq_cons (by omega), List.cons_append, List.head?_cons]

theorem eq_of_rotation_eq {port' : Int} (hi : port ≤ max) (hi' : port' ≤ max)
    (h : rotation min max port = rotation min max port') : port = port' := by
  have heads := head?_rotation min hi
  rw [h, head?_rotation min hi'] at heads
  exact (Option.some.inj heads).symm

/-- One step turns the order by one place. -/
theorem rotation_cyclicSucc (lo : min ≤ port) (hi : port ≤ max) :
    rotation min max (cyclicSucc min max port) = (rotation min max port).rotate 1 := by
  have front : Int.range port (max + 1) = port :: Int.range (port + 1) (max + 1) :=
    range_eq_cons (by omega)
  unfold rotation cyclicSucc
  rw [front, List.cons_append, List.rotate_cons_succ, List.rotate_zero, List.append_assoc,
    ← range_succ lo]
  split
  · next last =>
    subst last
    simp [range_eq_nil]
  · rfl

theorem cyclicSucc_bounds (lo : min ≤ port) (hi : port ≤ max) :
    min ≤ cyclicSucc min max port ∧ cyclicSucc min max port ≤ max := by
  unfold cyclicSucc
  split <;> omega

theorem rotation_iterate (lo : min ≤ port) (hi : port ≤ max) (n : Nat) :
    (min ≤ (cyclicSucc min max)^[n] port ∧ (cyclicSucc min max)^[n] port ≤ max) ∧
      rotation min max ((cyclicSucc min max)^[n] port) = (rotation min max port).rotate n := by
  induction n with
  | zero => exact ⟨⟨lo, hi⟩, (List.rotate_zero _).symm⟩
  | succ n ih =>
    obtain ⟨⟨lo', hi'⟩, turned⟩ := ih
    rw [Function.iterate_succ_apply']
    refine ⟨cyclicSucc_bounds lo' hi', ?_⟩
    rw [rotation_cyclicSucc lo' hi', turned, List.rotate_rotate]

/-- The order from one of the ports on: those behind it, and then those before it. -/
theorem rotation_of_split {passed rest : List Int} {q : Int} (lo : min ≤ port) (hi : port ≤ max)
    (order : rotation min max port = passed ++ q :: rest) :
    (cyclicSucc min max)^[passed.length] port = q ∧
      rotation min max q = q :: (rest ++ passed) := by
  obtain ⟨⟨-, hi'⟩, turned⟩ := rotation_iterate lo hi passed.length
  rw [order, List.rotate_append_length_eq, List.cons_append] at turned
  have head := head?_rotation min hi'
  rw [turned, List.head?_cons] at head
  have here := (Option.some.inj head).symm
  exact ⟨here, here ▸ turned⟩

theorem iterate_length_rotation (lo : min ≤ port) (hi : port ≤ max) :
    (cyclicSucc min max)^[(rotation min max port).length] port = port := by
  obtain ⟨⟨-, hi'⟩, turned⟩ := rotation_iterate lo hi (rotation min max port).length
  rw [List.rotate_length] at turned
  exact eq_of_rotation_eq hi' hi turned

/-! ## Searches -/

/-- The first free port of a list, and the ports before it. -/
def FirstFree (free : Int → Bool) (order passed : List Int) (port : Int) : Prop :=
  ∃ rest, order = passed ++ port :: rest ∧ (∀ q ∈ passed, free q = false) ∧ free port = true

theorem FirstFree.mem {free : Int → Bool} {order passed : List Int}
    (h : FirstFree free order passed port) : port ∈ order := by
  obtain ⟨rest, rfl, -⟩ := h
  simp

theorem FirstFree.not_busy {free : Int → Bool} {order passed : List Int}
    (h : FirstFree free order passed port) : ¬∀ q ∈ order, free q = false := by
  intro busy
  have isBusy := busy port h.mem
  obtain ⟨-, -, -, isFree⟩ := h
  simp [isFree] at isBusy

theorem busy_or_firstFree (free : Int → Bool) (order : List Int) :
    (∀ q ∈ order, free q = false) ∨ ∃ passed port, FirstFree free order passed port := by
  cases found : order.find? free with
  | none =>
    left
    simpa using List.find?_eq_none.1 found
  | some port =>
    right
    obtain ⟨isFree, passed, rest, split, busy⟩ := List.find?_eq_some_iff_append.1 found
    exact ⟨passed, port, rest, split, by simpa using busy, isFree⟩

variable {a : Allocator} {free : Int → Bool}

theorem succ_eq_cyclicSucc (hi : port ≤ a.max) : a.succ port = cyclicSucc a.min a.max port := by
  unfold succ cyclicSucc
  split
  · rw [if_pos (by omega)]
  · rw [if_neg (by omega)]

/-- A search passes busy ports in order. -/
theorem search_busy (n : Nat) {passed rest : List Int} (lo : a.min ≤ port) (hi : port ≤ a.max)
    (order : rotation a.min a.max port = passed ++ rest) (busy : ∀ q ∈ passed, free q = false) :
    a.search free (passed.length + n) port =
      let rest := a.search free n ((cyclicSucc a.min a.max)^[passed.length] port)
      { rest with probed := passed ++ rest.probed } := by
  induction passed generalizing port rest with
  | nil => simp
  | cons q passed ih =>
    obtain ⟨lo', hi'⟩ := cyclicSucc_bounds lo hi
    have turned := rotation_cyclicSucc lo hi
    have here := head?_rotation a.min hi
    rw [List.cons_append] at order
    rw [order, List.rotate_cons_succ, List.rotate_zero, List.append_assoc] at turned
    rw [order, List.head?_cons, Option.some.injEq] at here
    subst here
    have searched := ih lo' hi' turned fun r hr => busy r (List.mem_cons_of_mem _ hr)
    rw [List.length_cons, Nat.add_right_comm, search,
      if_neg (by simp [busy q List.mem_cons_self]), succ_eq_cyclicSucc hi, searched]
    rfl

/-- An allocator of a range, whose next search starts at a port of the range. -/
structure Spans (min max : Int) (a : Allocator) : Prop where
  min_eq : a.min = min
  max_eq : a.max = max
  min_le : min ≤ a.cursor
  le_max : a.cursor ≤ max

theorem Spans.size_eq (h : Spans min max a) : a.size = (rotation min max a.cursor).length := by
  obtain ⟨rfl, rfl, lo, hi⟩ := h
  exact (length_rotation lo hi).symm

/-- A search ends at the first free port. -/
theorem search_of_free {passed : List Int} {q : Int} (h : Spans min max a)
    (first : FirstFree free (rotation min max a.cursor) passed q) :
    a.search free a.size a.cursor = ⟨some q, cyclicSucc min max q, passed ++ [q]⟩ := by
  obtain ⟨rest, order, busy, isFree⟩ := first
  have size : a.size = passed.length + (rest.length + 1) := by
    rw [h.size_eq, order, List.length_append, List.length_cons]
  obtain ⟨rfl, rfl, lo, hi⟩ := h
  obtain ⟨-, hi'⟩ := (rotation_iterate lo hi passed.length).1
  rw [(rotation_of_split lo hi order).1] at hi'
  rw [size, search_busy _ lo hi order busy, (rotation_of_split lo hi order).1, search,
    if_pos isFree, succ_eq_cyclicSucc hi']

/-- If no port is free, a search passes all of them and ends where it started. -/
theorem search_of_busy (h : Spans min max a)
    (busy : ∀ q ∈ rotation min max a.cursor, free q = false) :
    a.search free a.size a.cursor = ⟨none, a.cursor, rotation min max a.cursor⟩ := by
  rw [h.size_eq]
  obtain ⟨rfl, rfl, lo, hi⟩ := h
  have searched := search_busy 0 lo hi (List.append_nil _).symm busy
  rw [Nat.add_zero, iterate_length_rotation lo hi] at searched
  simpa [search] using searched

/-! ## Calls -/

theorem next_of_free {passed : List Int} {q : Int} {failure : Option Text} (h : Spans min max a)
    (ready : a.provisioned = true ∨ failure = none)
    (first : FirstFree free (rotation min max a.cursor) passed q) :
    a.next free failure =
      { result := .ok q
        allocator := { a with provisioned := true, cursor := cyclicSucc min max q }
        provisioning := !a.provisioned
        probed := passed ++ [q] } := by
  unfold next
  split
  · simp_all
  · rw [search_of_free h first]

theorem next_of_busy {failure : Option Text} (h : Spans min max a)
    (ready : a.provisioned = true ∨ failure = none)
    (busy : ∀ q ∈ rotation min max a.cursor, free q = false) :
    a.next free failure =
      { result := .error (.noFreePort min max)
        allocator := { a with provisioned := true }
        provisioning := !a.provisioned
        probed := rotation min max a.cursor } := by
  unfold next
  split
  · simp_all
  · rw [search_of_busy h busy, h.min_eq, h.max_eq]

/-- The states of an allocator of a range, after any number of calls. -/
inductive Reachable (min max : Int) : Allocator → Prop
  | new {a : Allocator} (h : new min max = .ok a) : Reachable min max a
  | next {a : Allocator} (h : Reachable min max a) (free : Int → Bool) (failure : Option Text) :
    Reachable min max (a.next free failure).allocator

theorem spans_new (h : new min max = .ok a) : Spans min max a := by
  unfold new at h
  split at h
  · cases h
  · next valid =>
    cases h
    have nonempty : min ≤ max := by omega
    exact ⟨rfl, rfl, le_refl min, nonempty⟩

theorem Spans.next (h : Spans min max a) (free : Int → Bool) (failure : Option Text) :
    Spans min max (a.next free failure).allocator := by
  by_cases ready : a.provisioned = true ∨ failure = none
  · rcases busy_or_firstFree free (rotation min max a.cursor) with busy | ⟨passed, q, first⟩
    · rw [next_of_busy h ready busy]
      exact ⟨h.min_eq, h.max_eq, h.min_le, h.le_max⟩
    · rw [next_of_free h ready first]
      obtain ⟨lo, hi⟩ := (mem_rotation h.min_le h.le_max).1 first.mem
      obtain ⟨lo', hi'⟩ := cyclicSucc_bounds lo hi
      exact ⟨h.min_eq, h.max_eq, lo', hi'⟩
  · -- The range could not be provisioned, and nothing has changed.
    obtain ⟨unready, failed⟩ := not_or.1 ready
    obtain ⟨reason, rfl⟩ := Option.ne_none_iff_exists'.1 failed
    unfold Allocator.next
    rw [Bool.eq_false_iff.2 unready]
    exact h

theorem Reachable.spans (h : Reachable min max a) : Spans min max a := by
  induction h with
  | new h => exact spans_new h
  | next _ free failure ih => exact ih.next free failure

/-- In every state of an allocator its cursor is a port of the range. A call of a provisioned one
returns the first free port in cyclic order from the cursor on; it has probed the ports up to that
one, and the next call starts behind it. The call fails if no port is free; it has then probed all
ports of the range once, and the next call starts where this one did. -/
theorem next_takes_first_free (h : Reachable min max a) :
    (min ≤ a.cursor ∧ a.cursor ≤ max) ∧
    ∀ (free : Int → Bool) (failure : Option Text), a.provisioned = true ∨ failure = none →
      let order := rotation min max a.cursor
      let taken := a.next free failure
      order.Nodup ∧ (∀ p, p ∈ order ↔ min ≤ p ∧ p ≤ max) ∧
      (∀ p, taken.result = .ok p ↔ ∃ passed, FirstFree free order passed p) ∧
      (∀ p passed, FirstFree free order passed p → taken.probed = passed ++ [p] ∧
        taken.allocator = { a with provisioned := true, cursor := cyclicSucc min max p }) ∧
      (taken.result = .error (.noFreePort min max) ↔ ∀ p, min ≤ p → p ≤ max → free p = false) ∧
      ((∀ p, min ≤ p → p ≤ max → free p = false) →
        taken.probed = order ∧ taken.allocator = { a with provisioned := true }) := by
  have spans := h.spans
  have members (p : Int) : p ∈ rotation min max a.cursor ↔ min ≤ p ∧ p ≤ max :=
    mem_rotation spans.min_le spans.le_max
  refine ⟨⟨spans.min_le, spans.le_max⟩, fun free failure ready => ?_⟩
  refine ⟨nodup_rotation _ _ _, members, ?_⟩
  have allBusy : (∀ q ∈ rotation min max a.cursor, free q = false) ↔
      ∀ p, min ≤ p → p ≤ max → free p = false := by
    simp only [members, and_imp]
  rcases busy_or_firstFree free (rotation min max a.cursor) with busy | ⟨passed, port, first⟩
  · rw [next_of_busy spans ready busy]
    refine ⟨fun p => ⟨nofun, fun ⟨_, first⟩ => absurd busy first.not_busy⟩,
      fun p _ first => absurd busy first.not_busy,
      iff_of_true rfl (allBusy.1 busy), fun _ => ⟨rfl, rfl⟩⟩
  · have some_free : ¬∀ p, min ≤ p → p ≤ max → free p = false :=
      fun busy => first.not_busy (allBusy.2 busy)
    refine ⟨fun p => ⟨fun result => ?_, fun ⟨passed', first'⟩ => ?_⟩, fun p passed' first' => ?_,
      ?_, fun busy => absurd busy some_free⟩
    · rw [next_of_free spans ready first] at result
      cases result
      exact ⟨passed, first⟩
    · rw [next_of_free spans ready first']
    · rw [next_of_free spans ready first']
      exact ⟨rfl, rfl⟩
    · rw [next_of_free spans ready first]
      exact iff_of_false nofun some_free

/-- The ports 5 to 8, of which two have been handed out. -/
def halfway : Allocator where
  min := 5
  max := 8
  cursor := 7
  provisioned := true

theorem halfway_reachable : Reachable 5 8 halfway :=
  .next (.next (.new (a := ⟨5, 8, 5, false⟩) rfl) (fun _ => true) none) (fun _ => true) none

/-- With the first two ports free the search goes past the end of the range; with none free it goes
all the way round. -/
theorem next_takes_first_free_halfway :
    (halfway.next (fun p => p < 7) none).result = .ok 5 ∧
      (halfway.next (fun p => p < 7) none).probed = [7, 8, 5] ∧
      (halfway.next (fun p => p < 7) none).allocator = { halfway with cursor := 6 } ∧
      (halfway.next (fun _ => false) none).result = .error (.noFreePort 5 8) ∧
      (halfway.next (fun _ => false) none).probed = [7, 8, 5, 6] ∧
      (halfway.next (fun _ => false) none).allocator = halfway := by
  obtain ⟨-, called⟩ := next_takes_first_free halfway_reachable
  obtain ⟨-, -, result, probed, -⟩ := called (fun p => p < 7) none (.inl rfl)
  obtain ⟨-, -, -, -, failed, searched⟩ := called (fun _ => false) none (.inl rfl)
  have first : FirstFree (fun p => p < 7) (rotation 5 8 7) [7, 8] 5 :=
    ⟨[6], by decide, by decide, by decide⟩
  obtain ⟨taken, left⟩ := probed 5 [7, 8] first
  obtain ⟨all, same⟩ := searched fun _ _ _ => rfl
  exact ⟨(result 5).2 ⟨_, first⟩, taken, left, failed.2 fun _ _ _ => rfl, all, same⟩

/-! ## Cycles of calls -/

/-- What a call comes upon: the ports that the probe reports free during it, and what goes wrong if
the range is to be provisioned. -/
structure Conditions where
  free : Int → Bool
  failure : Option Text := none

/-- What calls do, one after the other. -/
def calls (a : Allocator) : List Conditions → List Taken
  | [] => []
  | c :: rest => a.next c.free c.failure :: (a.next c.free c.failure).allocator.calls rest

/-- The free ports in the order in which an allocator comes to them. -/
def freeOrder (a : Allocator) (free : Int → Bool) : List Int :=
  (rotation a.min a.max a.cursor).filter free

/-- A call takes the first one of the free ports, which is the last one from then on. -/
theorem next_of_freeOrder {q : Int} {rest : List Int} (h : Spans min max a)
    (provisioned : a.provisioned = true) (order : a.freeOrder free = q :: rest)
    (failure : Option Text) :
    (a.next free failure).result = .ok q ∧ (a.next free failure).allocator.provisioned = true ∧
      (a.next free failure).allocator.freeOrder free = rest ++ [q] := by
  rcases busy_or_firstFree free (rotation min max a.cursor) with busy | ⟨passed, port, first⟩
  · obtain ⟨rfl, rfl, -⟩ := h
    rw [freeOrder, List.filter_eq_nil_iff.2 (by simpa using busy)] at order
    cases order
  · rw [next_of_free h (.inl provisioned) first]
    obtain ⟨rfl, rfl, lo, hi⟩ := h
    obtain ⟨lo', hi'⟩ := (mem_rotation lo hi).1 first.mem
    obtain ⟨behind, split, busy, isFree⟩ := first
    have passing : passed.filter free = [] := List.filter_eq_nil_iff.2 (by simpa using busy)
    rw [freeOrder, split, List.filter_append, passing, List.nil_append,
      List.filter_cons_of_pos isFree, List.cons.injEq] at order
    obtain ⟨rfl, rfl⟩ := order
    refine ⟨rfl, rfl, ?_⟩
    change (rotation a.min a.max (cyclicSucc a.min a.max port)).filter free = _
    rw [rotation_cyclicSucc lo' hi', (rotation_of_split lo hi split).2, List.rotate_cons_succ,
      List.rotate_zero, List.filter_append, List.filter_append, passing, List.append_nil,
      List.filter_cons_of_pos isFree, List.filter_nil]

/-- Calls that find the same ports free take them one after the other. -/
theorem calls_of_freeOrder {taken rest : List Int} {cs : List Conditions} (h : Spans min max a)
    (provisioned : a.provisioned = true) (order : a.freeOrder free = taken ++ rest)
    (unchanged : ∀ c ∈ cs, c.free = free) (count : cs.length = taken.length) :
    ∃ a', Spans min max a' ∧ a'.provisioned = true ∧ a'.freeOrder free = rest ++ taken ∧
      ∀ more, (a.calls (cs ++ more)).map Taken.result =
        taken.map .ok ++ (a'.calls more).map Taken.result := by
  induction taken generalizing a rest cs with
  | nil =>
    obtain rfl := List.length_eq_zero_iff.1 count
    exact ⟨a, h, provisioned, by simpa using order, fun more => by simp⟩
  | cons q taken ih =>
    cases cs with
    | nil => simp at count
    | cons c cs =>
      obtain rfl := unchanged c List.mem_cons_self
      rw [List.cons_append] at order
      obtain ⟨result, provisioned', order'⟩ := next_of_freeOrder h provisioned order c.failure
      rw [List.append_assoc] at order'
      obtain ⟨a', spans, provisioned'', order'', results⟩ := ih (h.next c.free c.failure)
        provisioned' order' (fun c hc => unchanged c (List.mem_cons_of_mem _ hc))
        (by simpa using count)
      refine ⟨a', spans, provisioned'', by simpa using order'', fun more => ?_⟩
      rw [List.cons_append, calls, List.map_cons, result, results, List.map_cons, List.cons_append]

theorem length_freeOrder (h : Spans min max a) (free : Int → Bool) :
    (a.freeOrder free).length = (Int.range min (max + 1)).countP free := by
  obtain ⟨rfl, rfl, lo, hi⟩ := h
  have same : (rotation a.min a.max a.cursor).Perm (Int.range a.min (a.max + 1)) := by
    apply (List.perm_ext_iff_of_nodup (nodup_rotation _ _ _) (nodup_range _ _)).2
    intro q
    rw [mem_rotation lo hi, Int.mem_range_iff]
    omega
  rw [freeOrder, ← List.countP_eq_length_filter]
  exact same.countP_eq _

/-- Calls of a provisioned allocator that all find the same ports free, one call more than there are
free ports: each free port is returned once, and then the first one again. -/
theorem free_ports_in_turn (h : Reachable min max a) (provisioned : a.provisioned = true)
    {free : Int → Bool} {f : Nat} (positive : 1 ≤ f)
    (count : (Int.range min (max + 1)).countP free = f)
    {cs : List Conditions} (unchanged : ∀ c ∈ cs, c.free = free) (length : cs.length = f + 1) :
    ∃ first rest, (a.calls cs).map Taken.result = (first :: rest ++ [first]).map .ok ∧
      (first :: rest).length = f ∧ (first :: rest).Nodup ∧
      ∀ p, p ∈ first :: rest ↔ min ≤ p ∧ p ≤ max ∧ free p = true := by
  have spans := h.spans
  rw [← length_freeOrder spans] at count
  cases order : a.freeOrder free with
  | nil =>
    rw [order, List.length_nil] at count
    omega
  | cons first rest =>
    rw [order] at count
    obtain ⟨cycle, last, rfl⟩ : ∃ cycle last, cs = cycle ++ [last] := by
      refine ⟨cs.dropLast, cs.getLast ?_, (List.dropLast_append_getLast _).symm⟩
      rintro rfl
      simp at length
    rw [List.length_append, List.length_singleton, Nat.add_right_cancel_iff] at length
    obtain ⟨a', spans', provisioned', order', results⟩ := calls_of_freeOrder spans provisioned
      (order.trans (List.append_nil _).symm) (fun c hc => unchanged c (List.mem_append_left _ hc))
      (length.trans count.symm)
    obtain rfl := unchanged last (List.mem_append_right _ List.mem_cons_self)
    have again := (next_of_freeOrder spans' provisioned' order' last.failure).1
    refine ⟨first, rest, ?_, count, ?_, fun p => ?_⟩
    · rw [results, calls, calls, List.map_singleton, again, List.map_append, List.map_singleton]
    · rw [← order]
      exact (nodup_rotation _ _ _).filter _
    · obtain ⟨rfl, rfl, lo, hi⟩ := spans
      rw [← order, freeOrder, List.mem_filter, mem_rotation lo hi, and_assoc]

/-- Two of the ports are free, one on either side of the cursor. -/
theorem free_ports_in_turn_halfway :
    let free : Int → Bool := fun p => p = 6 || p = 8
    let cs : List Conditions := List.replicate 3 { free }
    (Int.range 5 (8 + 1)).countP free = 2 ∧
      ∃ first rest, (halfway.calls cs).map Taken.result = (first :: rest ++ [first]).map .ok ∧
        (first :: rest).length = 2 ∧ (first :: rest).Nodup ∧
        ∀ p, p ∈ first :: rest ↔ 5 ≤ p ∧ p ≤ 8 ∧ free p = true := by
  intro free cs
  have count : (Int.range 5 (8 + 1)).countP free = 2 := by decide
  refine ⟨count, free_ports_in_turn halfway_reachable rfl (by decide) count ?_ rfl⟩
  intro c hc
  rw [List.eq_of_mem_replicate hc]

end Allocator

end Teleop
