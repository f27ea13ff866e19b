import Teleop.Port.Supply
import Teleop.Proofs.Port.Rotation

/-!
# Provisioning comes first

What a supply of ports shows over a sequence of calls: the calls of its provisioner, the ports that
it probes and the results. Until the provisioner succeeds each call asks it once and does nothing
else. From then on the supply behaves as one that has nothing to provision, and which is called for
the first time.

* `calls`: the calls of a supply, each with a probe of its own;
* `calls_provisioned`: after a success the provisioner does not count any more;
* `provisioned_once_before_ports`: the whole sequence.
-/

namespace Teleop

variable {min max : Int} {a : Allocator}

/-! ## One call -/

namespace Allocator

theorem next_of_failure (unready : a.provisioned = false) (free : Int → Bool) (reason : Text) :
    a.next free (some reason) =
      { result := .error (.provisioning a.min a.max reason), allocator := a, provisioning := true,
        probed := [] } := by
  obtain ⟨min, max, cursor, provisioned⟩ := a
  cases unready
  rfl

theorem next_of_provisioned (ready : a.provisioned = true) (free : Int → Bool)
    (failure : Option Text) : a.next free failure = a.next free none := by
  obtain ⟨min, max, cursor, provisioned⟩ := a
  cases ready
  rfl

theorem provisioning_next (a : Allocator) (free : Int → Bool) :
    (a.next free none).provisioning = !a.provisioned := by
  obtain ⟨min, max, cursor, provisioned⟩ := a
  cases provisioned <;> rfl

theorem provisioned_next (a : Allocator) (free : Int → Bool) :
    (a.next free none).allocator.provisioned = true := by
  obtain ⟨min, max, cursor, provisioned⟩ := a
  cases provisioned <;> rfl

theorem provisioned_new (h : new min max = .ok a) : a.provisioned = false := by
  unfold new at h
  split at h <;> cases h
  rfl

end Allocator

namespace PortSupply

/-- A supply in whose range those ports are free that a probe reports free. -/
def probing (a : Allocator) (outcomes : Option (List (Option Text))) (probe : Int → Bool) :
    PortSupply where
  allocator := a
  outcomes
  busy := (Int.range a.min (a.max + 1)).filter fun port => !probe port

theorem free_probing (outcomes : Option (List (Option Text))) (probe : Int → Bool) {port : Int}
    (lo : a.min ≤ port) (hi : port ≤ a.max) :
    (probing a outcomes probe).free port = probe port := by
  have listed : port ∈ Int.range a.min (a.max + 1) := by
    rw [Int.mem_range_iff]
    omega
  cases answer : probe port <;> simp [free, probing, listed, answer]

variable {p : PortSupply}

/-- A call does what the allocator does with the next outcome of the provisioner. -/
theorem take_eq {failure : Option Text} {taken : Allocator.Taken}
    (outcome : (p.outcomes.bind List.head?).join = failure)
    (called : p.allocator.next p.free failure = taken) :
    p.take = (taken.result,
      { p with
        allocator := taken.allocator
        outcomes := if taken.provisioning then p.outcomes.map List.tail else p.outcomes },
      (if taken.provisioning && p.outcomes.isSome then
        [.provisioning p.allocator.min p.allocator.max] else []) ++
        taken.probed.map .probed) := by
  subst called outcome
  rfl

/-- A call whose provisioning fails does nothing else. -/
theorem take_of_failure {reason : Text} {outcomes : List (Option Text)}
    (unready : p.allocator.provisioned = false)
    (failing : p.outcomes = some (some reason :: outcomes)) :
    p.take = (.error (.provisioning p.allocator.min p.allocator.max reason),
      { p with outcomes := some outcomes },
      [.provisioning p.allocator.min p.allocator.max]) := by
  have outcome : (p.outcomes.bind List.head?).join = some reason := by
    rw [failing]
    rfl
  rw [take_eq outcome (Allocator.next_of_failure unready _ _), failing]
  rfl

theorem take_plain (nothing : p.outcomes = none) :
    p.take = ((p.allocator.next p.free none).result,
      { p with allocator := (p.allocator.next p.free none).allocator },
      (p.allocator.next p.free none).probed.map .probed) := by
  have outcome : (p.outcomes.bind List.head?).join = none := by
    rw [nothing]
    rfl
  rw [take_eq outcome rfl]
  simp [nothing]

/-- A call whose provisioning succeeds goes on as if there were nothing to provision. -/
theorem take_of_success {outcomes : List (Option Text)}
    (unready : p.allocator.provisioned = false) (given : p.outcomes = some outcomes)
    (succeeding : outcomes.head?.join = none) :
    p.take = ((p.allocator.next p.free none).result,
      { p with
        allocator := (p.allocator.next p.free none).allocator
        outcomes := some outcomes.tail },
      .provisioning p.allocator.min p.allocator.max ::
        (p.allocator.next p.free none).probed.map .probed) := by
  have outcome : (p.outcomes.bind List.head?).join = none := by
    rw [given]
    exact succeeding
  rw [take_eq outcome rfl, Allocator.provisioning_next, unready, given]
  rfl

/-- A call after a success goes on as if there were nothing to provision. -/
theorem take_of_provisioned (ready : p.allocator.provisioned = true) :
    p.take = ((p.allocator.next p.free none).result,
      { p with allocator := (p.allocator.next p.free none).allocator },
      (p.allocator.next p.free none).probed.map .probed) := by
  rw [take_eq rfl (Allocator.next_of_provisioned ready _ _), Allocator.provisioning_next, ready]
  rfl

/-! ## Sequences of calls -/

/-- What one call showed. -/
structure Call where
  result : Except Allocator.Error Int
  /-- The allocator after the call. -/
  allocator : Allocator
  events : List PortEvent

/-- Calls one after the other, each with its own probe. The outcomes are those of the provisioner,
if there is one. -/
def calls (a : Allocator) (outcomes : Option (List (Option Text))) :
    List (Int → Bool) → List Call
  | [] => []
  | probe :: probes =>
    let (result, supply, events) := (probing a outcomes probe).take
    ⟨result, supply.allocator, events⟩ :: calls supply.allocator supply.outcomes probes

variable {outcomes : Option (List (Option Text))} {probe : Int → Bool}

theorem calls_cons {result : Except Allocator.Error Int} {supply : PortSupply}
    {events : List PortEvent} (called : (probing a outcomes probe).take = (result, supply, events))
    (probes : List (Int → Bool)) :
    calls a outcomes (probe :: probes) =
      ⟨result, supply.allocator, events⟩ :: calls supply.allocator supply.outcomes probes := by
  simp only [calls, called]

/-- After a success the provisioner does not count any more. -/
theorem calls_provisioned (ready : a.provisioned = true) (outcomes : Option (List (Option Text)))
    (probes : List (Int → Bool)) : calls a outcomes probes = calls a none probes := by
  induction probes generalizing a with
  | nil => rfl
  | cons probe probes ih =>
    rw [calls_cons (take_of_provisioned ready), calls_cons (take_plain rfl)]
    exact congrArg (List.cons _) (ih (Allocator.provisioned_next _ _))

/-- Without a provisioner an allocator counts as provisioned from its first call on, and all that
is done is to probe ports. -/
theorem calls_plain (a : Allocator) (probes : List (Int → Bool)) :
    ∀ c ∈ calls a none probes, c.allocator.provisioned = true ∧
      ∀ event ∈ c.events, ∃ port, event = .probed port := by
  induction probes generalizing a with
  | nil => exact fun _ mem => absurd mem List.not_mem_nil
  | cons probe probes ih =>
    rw [calls_cons (take_plain rfl)]
    refine List.forall_mem_cons.2 ⟨⟨Allocator.provisioned_next _ _, fun event mem => ?_⟩, ih _⟩
    obtain ⟨port, -, rfl⟩ := List.mem_map.1 mem
    exact ⟨port, rfl⟩

/-- A call that asked the provisioner in vain. -/
def Call.refused (a : Allocator) (reason : Text) : Call where
  result := .error (.provisioning a.min a.max reason)
  allocator := a
  events := [.provisioning a.min a.max]

/-- A call that asked the provisioner before it did the rest. -/
def Call.admitted (a : Allocator) (c : Call) : Call :=
  { c with events := .provisioning a.min a.max :: c.events }

theorem calls_of_success (unready : a.provisioned = false) (outcomes : List (Option Text))
    (succeeding : outcomes.head?.join = none) (probes : List (Int → Bool)) :
    calls a (some outcomes) probes = (calls a none probes).modifyHead (Call.admitted a) := by
  cases probes with
  | nil => rfl
  | cons probe probes =>
    rw [calls_cons (take_of_success unready rfl succeeding), calls_cons (take_plain rfl),
      List.modifyHead_cons, calls_provisioned (Allocator.provisioned_next _ _)]
    rfl

/-- The reasons for which a provisioner fails before it first succeeds. -/
def failures : List (Option Text) → List Text
  | some reason :: outcomes => reason :: failures outcomes
  | _ => []

theorem calls_of_outcomes (unready : a.provisioned = false) (outcomes : List (Option Text))
    (probes : List (Int → Bool)) :
    calls a (some outcomes) probes =
      ((failures outcomes).take probes.length).map (Call.refused a) ++
        (calls a none (probes.drop (failures outcomes).length)).modifyHead (Call.admitted a) := by
  -- A call that fails takes one of the outcomes and leaves the allocator, so the same statement is
  -- about the calls after it.
  induction outcomes generalizing probes with
  | nil => simpa [failures] using calls_of_success unready [] rfl probes
  | cons outcome outcomes ih =>
    cases outcome with
    | none => simpa [failures] using calls_of_success unready (none :: outcomes) rfl probes
    | some reason =>
      cases probes with
      | nil => rfl
      | cons probe probes =>
        rw [calls_cons (take_of_failure unready rfl)]
        exact congrArg (List.cons _) (ih probes)

/-- The calls of a new supply. As long as its provisioner fails, each call asks it once for the
range, returns the reason, probes nothing and leaves the allocator as it was. The next call asks it
once more, and then it is not asked again. This call and those after it are otherwise those of a
supply that has nothing to provision, and which was not called before: all that they do is to probe
ports. The allocator is provisioned after them, and not before. -/
theorem provisioned_once_before_ports (h : Allocator.new min max = .ok a)
    (outcomes : List (Option Text)) (probes : List (Int → Bool)) :
    let failed := (failures outcomes).take probes.length
    let served := calls a none (probes.drop (failures outcomes).length)
    calls a (some outcomes) probes =
      failed.map (fun reason =>
        { result := .error (.provisioning min max reason)
          allocator := a
          events := [.provisioning min max] }) ++
      served.modifyHead (fun c => { c with events := .provisioning min max :: c.events }) ∧
    a.provisioned = false ∧
    (∀ c ∈ served, c.allocator.provisioned = true ∧
      ∀ event ∈ c.events, ∃ port, event = .probed port) ∧
    (∀ reason, (Allocator.Error.provisioning min max reason).message =
      utf8 "provision ports " ++ decimal min ++ utf8 "-" ++ decimal max ++ utf8 ": " ++ reason) ∧
    ∀ outcomes probe port, min ≤ port → port ≤ max →
      (probing a outcomes probe).free port = probe port := by
  have unready := Allocator.provisioned_new h
  obtain ⟨rfl, rfl, -, -⟩ := Allocator.spans_new h
  exact ⟨calls_of_outcomes unready outcomes probes, unready, calls_plain a _, fun _ => rfl,
    fun outcomes probe _ => free_probing outcomes probe⟩

/-- A provisioner that fails twice: only the third call comes to the ports. The fourth call does not
ask the provisioner, which would fail again. -/
theorem provisioned_once_before_ports_denied :
    let a : Allocator := ⟨5, 8, 5, false⟩
    let shown := calls a (some [some (utf8 "denied"), some (utf8 "late"), none, some []])
      [fun _ => true, fun _ => true, fun port => port = 7, fun port => port = 6]
    Allocator.new 5 8 = .ok a ∧
      shown.map Call.result =
        [.error (.provisioning 5 8 (utf8 "denied")), .error (.provisioning 5 8 (utf8 "late")),
          .ok 7, .ok 6] ∧
      shown.map Call.allocator = [a, a, ⟨5, 8, 8, true⟩, ⟨5, 8, 7, true⟩] ∧
      shown.map Call.events =
        [[.provisioning 5 8], [.provisioning 5 8],
          [.provisioning 5 8, .probed 5, .probed 6, .probed 7],
          [.probed 8, .probed 5, .probed 6]] := by
  intro a shown
  have made : Allocator.new 5 8 = .ok a := rfl
  have sequence := (provisioned_once_before_ports made
    [some (utf8 "denied"), some (utf8 "late"), none, some []]
    [fun _ => true, fun _ => true, fun port => port = 7, fun port => port = 6]).1
  rw [show shown = _ from sequence]
  exact ⟨made, rfl, rfl, rfl⟩

end PortSupply

end Teleop
