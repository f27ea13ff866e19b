import Teleop.Program
import Teleop.Proofs.Session.Round
import Teleop.Rehearsal.Loopback

/-!
# Runs

A run of a session is any sequence of calls, ticks and shutdowns, with anything happening in
between. `Wiring.Step` is one step, over a relation that says what may happen outside;
`Wiring.Reaches` is a run, which begins in a world that is `Wiring.Fresh`.

* `Wiring.EnvironmentOrNotice`: what may happen to a session whatever its transport is;
* `World.NetworkStep`: what happens to a session over a datagram channel that nobody else drives;
* `Wiring.play`: runs from a script, which can be computed.
-/

namespace Teleop

open Relation

variable {χ π ι : Type}

/-- What a valid configuration is known for. -/
theorem SessionConfig.of_validate {c : SessionConfig} (h : c.validate = .ok ()) :
    0 < c.livenessTimeout ∧ 0 ≤ c.retryLimit := by
  unfold validate at h
  iterate 3
    split at h
    · cases h
  split at h
  · cases h
  next live =>
    split at h
    · cases h
    next retry => exact ⟨Int.not_le.1 live, Int.not_lt.1 retry⟩

namespace Wiring

variable {W : Wiring χ π ι}

/-! ## Runs -/

section Runs

variable (W : Wiring χ π ι) (E : World χ π → World χ π → Prop)

/-- One step of a run: a call, a tick, a shutdown, or something that happens outside. -/
inductive Step : World χ π → World χ π → Prop
  | call {w w' : World χ π} (c : Call) (r : CallReply) (h : (W.perform c).run w = .ok (r, w')) :
    Step w w'
  | tick {w w' : World χ π} (more : Bool) (h : W.tick.run w = .ok (more, w')) : Step w w'
  | shutdown {w w' : World χ π} (polls : Nat) (h : (W.shutdown polls).run w = .ok ((), w')) :
    Step w w'
  | outside {w w' : World χ π} (h : E w w') : Step w w'

/-- Any run. -/
abbrev Reaches : World χ π → World χ π → Prop :=
  ReflTransGen (W.Step E)

/-- A world in which nothing has happened yet: the session is new and its configuration valid. -/
structure Fresh (w : World χ π) : Prop where
  session : Session.new W.config true = .ok w.session
  journal : w.journal = []

end Runs

theorem Fresh.validate {w : World χ π} (h : W.Fresh w) : W.config.validate = .ok () := by
  have hs := h.session
  unfold Session.new at hs
  split at hs
  · cases hs
  · assumption

theorem Fresh.session_eq {w : World χ π} (h : W.Fresh w) :
    w.session = { backlog := { limit := W.config.maxPending } } := by
  have hs := h.session
  rw [Session.new, h.validate] at hs
  exact (Except.ok.inj hs).symm

theorem Fresh.history {w : World χ π} (h : W.Fresh w) : w.history = [] := by
  rw [World.history, h.journal, List.reverse_nil]

/-- What goes on around a session: the transport changes and reports events, the ports and the
clocks change, and whoever holds the session writes to the log. -/
inductive EnvironmentStep : World χ π → World χ π → Prop
  | changed (w : World χ π) (channel : χ) (events : List ChannelEvent) (ports : π)
    (clock : Instant) :
    EnvironmentStep w { w with
      channel, ports, clock, journal := (events.map Event.ofChannel).reverse ++ w.journal }
  | noted (w : World χ π) (entry : Log.Entry) : EnvironmentStep w (w.note (.logged .holder entry))

/-- What may happen to a session between its steps: its surroundings change, or a notice comes. -/
inductive EnvironmentOrNotice (W : Wiring χ π ι) : World χ π → World χ π → Prop
  | environment {w w' : World χ π} (h : EnvironmentStep w w') : EnvironmentOrNotice W w w'
  | notice {w w' : World χ π} (link : Option Nat) (n : Notice)
    (h : (W.takeNotice link n).run w = .ok ((), w')) : EnvironmentOrNotice W w w'

theorem EnvironmentStep.passing {w w' : World χ π} (h : EnvironmentStep w w') : w.Passing w' := by
  cases h with
  | changed channel events => exact ⟨⟨_, _, _, _, _, rfl⟩, _, rfl, by simp⟩
  | noted => exact .noting rfl

theorem Reaches.mono {E E' : World χ π → World χ π → Prop} (hE : ∀ w w', E w w' → E' w w')
    {w w' : World χ π} (h : W.Reaches E w w') : W.Reaches E' w w' := by
  refine ReflTransGen.mono (fun w w' hs => ?_) _ _ h
  cases hs with
  | call c r h => exact .call c r h
  | tick more h => exact .tick more h
  | shutdown polls h => exact .shutdown polls h
  | outside h => exact .outside (hE _ _ h)

theorem EnvironmentOrNotice.moves (hW : W.CallbacksOnlyMove) {w w' : World χ π}
    (h : W.EnvironmentOrNotice w w') : W.Moves w w' := by
  cases h with
  | environment h => exact .of_passing h.passing
  | notice link n h => exact gentle_moves.takeNotice hW link n w () w' h

end Wiring

/-! ## Datagrams -/

section Datagrams

variable {ν : Type}

/-- The network brings something between two steps. -/
def World.arrive (a : Channel.Arrival) (w : World (Wired ν) π) : World (Wired ν) π :=
  { w with
    channel := { w.channel with channel := (w.channel.channel.arrive a).1 }
    journal := ((w.channel.channel.arrive a).2.map Event.ofChannel).reverse ++ w.journal }

/-- What happens to a session over a datagram channel that nobody else drives: the clocks, the ports
and the network change, something comes in from the network, and whoever holds the session writes to
the log. -/
inductive World.NetworkStep : World (Wired ν) π → World (Wired ν) π → Prop
  | changed (w : World (Wired ν) π) (network : ν) (ports : π) (clock : Instant) :
    NetworkStep w { w with channel := { w.channel with network }, ports, clock }
  | arrived (w : World (Wired ν) π) (a : Channel.Arrival) : NetworkStep w (w.arrive a)
  | noted (w : World (Wired ν) π) (entry : Log.Entry) :
    NetworkStep w (w.note (.logged .holder entry))

theorem World.NetworkStep.environmentStep (w w' : World (Wired ν) π) (h : w.NetworkStep w') :
    Wiring.EnvironmentStep w w' := by
  cases h with
  | changed => exact .changed w _ [] _ _
  | arrived a => exact .changed w _ _ _ _
  | noted entry => exact .noted w entry

end Datagrams

/-! ## Scripts -/

/-- One step of a script for a session over a datagram channel. -/
inductive Cue where
  | call (c : Call)
  | tick
  | shutdown (polls : Nat)
  /-- The network brings something. -/
  | arrive (a : Channel.Arrival)
  /-- Time passes. -/
  | wait (d : Duration)
  deriving DecidableEq, Repr

namespace Wiring

/-- The world that an operation leaves, if it does not break off. -/
def leaves {α : Type} (x : Act χ π α) (w : World χ π) : Option (World χ π) :=
  match x.run w with
  | .ok (_, w') => some w'
  | .error _ => none

theorem leaves_eq_some {α : Type} {x : Act χ π α} {w w' : World χ π}
    (h : leaves x w = some w') : ∃ a, x.run w = .ok (a, w') := by
  unfold leaves at h
  split at h
  · cases h
    exact ⟨_, ‹_›⟩
  · cases h

/-- Some ticks, all of which go through. -/
def ticks (W : Wiring χ π ι) : Nat → World χ π → Option (World χ π)
  | 0, w => some w
  | k + 1, w => (ticks W k w).bind fun w =>
    match W.tick.run w with
    | .ok (true, w') => some w'
    | _ => none

theorem tick_of_ticks {W : Wiring χ π ι} {w w' : World χ π} (h : W.ticks 1 w = some w') :
    W.tick.run w = .ok (true, w') := by
  simp only [ticks, Option.bind_some] at h
  split at h
  · cases h
    assumption
  · cases h

section Play

variable {ν : Type} (W : Wiring (Wired ν) π ι)

/-- Carries out one cue. -/
def cued (w : World (Wired ν) π) : Cue → Option (World (Wired ν) π)
  | .call c => leaves (W.perform c) w
  | .tick => leaves W.tick w
  | .shutdown polls => leaves (W.shutdown polls) w
  | .arrive a => some (w.arrive a)
  | .wait d => some { w with clock := w.clock.add d }

/-- Carries out the cues of a script one after the other. -/
def play : List Cue → World (Wired ν) π → Option (World (Wired ν) π)
  | [], w => some w
  | cue :: rest, w => (W.cued w cue).bind (play rest)

variable {W}

/-- What a cue comes to. -/
inductive Cued (W : Wiring (Wired ν) π ι) (w : World (Wired ν) π) :
    Cue → World (Wired ν) π → Prop
  | call {w' : World (Wired ν) π} (c : Call) (r : CallReply)
    (h : (W.perform c).run w = .ok (r, w')) : Cued W w (.call c) w'
  | tick {w' : World (Wired ν) π} (more : Bool) (h : W.tick.run w = .ok (more, w')) :
    Cued W w .tick w'
  | shutdown {w' : World (Wired ν) π} (polls : Nat)
    (h : (W.shutdown polls).run w = .ok ((), w')) : Cued W w (.shutdown polls) w'
  | outside {w' : World (Wired ν) π} (cue : Cue) (h : w.NetworkStep w') : Cued W w cue w'

theorem cued_cases {w w' : World (Wired ν) π} {cue : Cue} (h : W.cued w cue = some w') :
    W.Cued w cue w' := by
  cases cue with
  | call c =>
    obtain ⟨r, h⟩ := leaves_eq_some h
    exact .call c r h
  | tick =>
    obtain ⟨more, h⟩ := leaves_eq_some h
    exact .tick more h
  | shutdown polls =>
    obtain ⟨_, h⟩ := leaves_eq_some h
    exact .shutdown polls h
  | arrive a =>
    cases h
    exact .outside _ (.arrived w a)
  | wait d =>
    cases h
    exact .outside _ (.changed w _ _ _)

/-- A script that can be played is a run, whatever the steps of the run are if its cues are such. -/
theorem steps_of_play {R : World (Wired ν) π → World (Wired ν) π → Prop} :
    ∀ {script : List Cue} {w w' : World (Wired ν) π},
      (∀ cue ∈ script, ∀ w w', W.Cued w cue w' → R w w') → W.play script w = some w' →
        ReflTransGen R w w'
  | [], _, _, _, h => by
    cases h
    exact .refl
  | _ :: _, _, _, step, h => by
    obtain ⟨w₁, h₁, h₂⟩ := Option.bind_eq_some_iff.1 h
    exact .head (step _ List.mem_cons_self _ _ (cued_cases h₁))
      (steps_of_play (fun cue hc => step cue (List.mem_cons_of_mem _ hc)) h₂)

theorem reaches_of_play {script : List Cue} {w w' : World (Wired ν) π}
    (h : W.play script w = some w') : W.Reaches World.NetworkStep w w' := by
  refine steps_of_play (fun cue _ w w' hs => ?_) h
  cases hs with
  | call c r h => exact .call c r h
  | tick more h => exact .tick more h
  | shutdown polls h => exact .shutdown polls h
  | outside _ h => exact .outside h

/-- Playing a script is one of all the runs that there may be. -/
theorem environmentOrNotice_of_play {script : List Cue} {w w' : World (Wired ν) π}
    (h : W.play script w = some w') : W.Reaches W.EnvironmentOrNotice w w' :=
  (reaches_of_play h).mono fun _ _ h => .environment (World.NetworkStep.environmentStep _ _ h)

end Play

end Wiring

/-! ## A rehearsal -/

namespace Rehearsal

open Wiring

/-- A session over the loopback network, where the peer is known as `p`. A subscriber that is shown
a text submits a message of its own. -/
def echoing (config : SessionConfig) : Wiring (Wired Loopback) (Option PortSupply) Empty :=
  { Program.wiring { session := config }
      { Loopback.network with names := [([112], Address.loopbackIp)] } (fun _ => Uuid.zero)
      (fun _ => .year2100) with
    react := fun s _ => submit (some (.raw applicationTag s.name)) }

theorem echoing_onlyCall (config : SessionConfig)
    (E : World (Wired Loopback) (Option PortSupply) → World (Wired Loopback) (Option PortSupply) →
      Prop) : (echoing config).CallbacksOnlyCall E where
  react s _ w := by
    intro _ w' h
    have h : (submit (some (.raw applicationTag s.name))).run w = .ok ((), w') := h
    refine .single (.call (.send (some (.raw applicationTag s.name))) .none ?_)
    change (submit (some (.raw applicationTag s.name)) >>= fun _ => pure CallReply.none).run w = _
    rw [StateT.run_bind, h]
    rfl
  interrupt := nofun

/-- The world before the session over the loopback network has done anything. -/
def opening (config : SessionConfig) : Program.ProgramWorld Loopback where
  session := { backlog := { limit := config.maxPending } }
  channel := { channel := Channel.new {}, network := {} }
  ports := none
  clock := .year2100

theorem opening_fresh {config : SessionConfig} (h : config.validate = .ok ()) :
    (echoing config).Fresh (opening config) where
  session := by
    change Session.new config true = _
    rw [Session.new, h]
    rfl
  journal := rfl

/-- A small session: two messages may wait, and after the first connect attempt there is one
more. -/
def modest : SessionConfig where
  remoteHost := [112]
  remotePort := 40000
  retryLimit := 1
  maxPending := 2

theorem modest_fresh : (echoing modest).Fresh (opening modest) :=
  opening_fresh rfl

/-- The peer sends a datagram to a link. -/
def fromPeer (link : Nat) (datagram : Bytes) : Cue :=
  .arrive (.datagram link ⟨Address.loopbackIp, 40000⟩ datagram)

/-- The peer grants a link that was opened under the nonce of the rehearsal. -/
def welcoming (link : Nat) : Cue :=
  fromPeer link (Frame.welcome Uuid.zero [115])

/-- The peer sends a heartbeat to a link. -/
def beating (link : Nat) : Cue :=
  fromPeer link (Frame.data (Kind.agentStatus.tag :: List.replicate Kind.agentStatus.bodySize 0))

end Rehearsal

end Teleop
