import Teleop.Proofs.Session.CoupledRuns

/-!
# The handshake comes first

On every link of a session the two messages of the handshake are offered as soon as the link comes
up, before any other data frame, and nothing that waits for a heartbeat is accepted before there was
one on that very link.

* `Wiring.frames_in_order`: the statement for all runs and all links.
-/

namespace Teleop

namespace InOrder

variable {config : SessionConfig} {h : List Event} {link : Nat}

/-- The first event that shows a link to be in use is that it comes up. -/
theorem greeted_of_use (hh : InOrder config [] h) (used : ∃ e ∈ h, e.use? = some link) :
    ∃ a session b, h = a ++ .noticed (some link) (.connected session) :: b ∧
      (∀ e ∈ a, e.use? ≠ some link) ∧ Greeted config link a b := by
  obtain ⟨e, he, hu⟩ := used
  have found : (h.find? (·.use? == some link)).isSome := by
    rw [List.find?_isSome]
    exact ⟨e, he, by simp [hu]⟩
  obtain ⟨e, found⟩ := Option.isSome_iff_exists.1 found
  obtain ⟨hu, a, b, heq, first⟩ := List.find?_eq_some_iff_append.1 found
  have first : ∀ e ∈ a, e.use? ≠ some link := fun e he => by simpa using first e he
  have orderly := hh.orderly heq
  rw [List.nil_append] at orderly
  rcases Event.use?_eq_some (by simpa using hu) with ⟨session, rfl⟩ | ⟨payload, rfl⟩
  · exact ⟨a, session, b, heq, first, (orderly.greeted link session rfl).2⟩
  · obtain ⟨⟨session, hs⟩, _⟩ := orderly.carried link payload rfl
    exact absurd rfl (first _ hs)

end InOrder

namespace Wiring

variable {ν π ι : Type} {W : Wiring (Wired ν) π ι} {net : Network ν} {w₀ w : World (Wired ν) π}

/-- In every run of a session over a datagram channel, and for every link: unless the link has never
been in use, it came up before any data frame was accepted on it, and then the messages of the
handshake were offered at once, one after the other; every data frame carries a message that the
session handed over, and one from the request slot, the backlog, a queue or the idle message was
accepted only after a heartbeat that had come in on the same link. -/
theorem frames_in_order (hnet : W.transport = net.transport)
    (hW : W.CallbacksOnlyCall World.NetworkStep) (h₀ : W.Fresh w₀) {c : ChannelConfig}
    (hc : w₀.channel.channel = Channel.new c)
    (h : W.Reaches World.NetworkStep w₀ w) (link : Nat) :
    ((∀ e ∈ w.history, e.use? ≠ some link) ∨
      ∃ a session b, w.history = a ++ .noticed (some link) (.connected session) :: b ∧
        (∀ e ∈ a, e.use? ≠ some link) ∧ Greeted W.config link a b) ∧
    ∀ a payload b, w.history = a ++ .link (.accepted link (Frame.data payload)) :: b →
      Carried link payload a b := by
  obtain ⟨st, coupled⟩ := Reaches.coupled hnet hW h₀ hc h
  constructor
  · by_cases used : ∃ e ∈ w.history, e.use? = some link
    · exact .inr (coupled.inOrder.greeted_of_use used)
    · exact .inl fun e he hu => used ⟨e, he, hu⟩
  · intro a payload b heq
    exact ((coupled.inOrder.orderly heq).carried link payload rfl).2

end Wiring

namespace Rehearsal

/-- The peer grants a link and a message goes out on it; after a reset the same happens on the next
link. -/
def twice : List Cue :=
  [.call .start, .call .requestConnect, .tick, welcoming 0, .tick, beating 0,
    .call (.send (some (.raw applicationTag [1]))), .tick, .call .reset, .tick, welcoming 1, .tick,
    beating 1, .call (.setIdle (some (.raw applicationTag [2]))), .tick]

theorem frames_in_order_twice : ∃ w, (echoing modest).Reaches World.NetworkStep (opening modest) w ∧
    (w.history.filter (·.use? == some 1)).length = 4 ∧
    (∃ a session b, w.history = a ++ .noticed (some 1) (.connected session) :: b ∧
      (∀ e ∈ a, e.use? ≠ some 1) ∧ Greeted modest 1 a b) ∧
    ∀ a payload b, w.history = a ++ .link (.accepted 1 (Frame.data payload)) :: b →
      Carried 1 payload a b := by
  have played : ((echoing modest).play twice (opening modest)).map (fun w =>
      (w.history.filter (·.use? == some 1)).length) = some 4 := by
    decide +kernel
  obtain ⟨w, hw, uses⟩ := Option.map_eq_some_iff.1 played
  have run := Wiring.reaches_of_play hw
  have fresh := opening_fresh (show modest.validate = .ok () by decide +kernel)
  obtain ⟨greeted, carried⟩ :=
    Wiring.frames_in_order rfl (echoing_onlyCall modest _) fresh rfl run 1
  refine ⟨w, run, uses, greeted.resolve_left fun unused => ?_, carried⟩
  rw [List.filter_eq_nil_iff.2 fun e he => by simpa using unused e he] at uses
  cases uses

end Rehearsal

end Teleop
