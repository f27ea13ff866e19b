import Teleop.Frame
import Teleop.Proofs.Message.Layout

/-!
# Bodies of the handshake

The body of a hello or a welcome is a nonce and a text field of fixed size. A long text is cut when
it is written, a short one is filled up with zero bytes, and what is read ends at the first zero
byte.

* `nonced?_eq_some_iff` says what is read out of a body, `nonced?_written` what becomes of a nonce
  and a text that were written;
* `readNonced_of_lt`, `readNonced_of_le`: the two cases of a size, by whether the end of its field
  is a word;
* `handshake_round_trip`: both frames of the handshake are read back, and how reading depends on the
  body.
-/

namespace Teleop

namespace Frame

/-! ## What is read -/

section

variable {body : Bytes} {size : Nat} {nonce : Uuid} {text : Text}

theorem ofBytes_eq_iff {b : Bytes} (h : b.length = 16) :
    Uuid.ofBytes b = nonce ↔ b = nonce.bytes := by
  have whole : resize 16 b = b := by
    simp [resize, padTo, ← h]
  obtain ⟨bytes, _⟩ := nonce
  rw [Uuid.ofBytes, Uuid.mk.injEq, whole]

theorem nonced?_eq_none_iff : nonced? body size = none ↔ body.length < nonceSize + size := by
  unfold nonced?
  split
  · next short => exact iff_of_true rfl short
  · next long => exact iff_of_false nofun long

/-- A body that is long enough begins with the nonce, and the text lies in the field after it. -/
theorem nonced?_eq_some_iff :
    nonced? body size = some (nonce, text) ↔
      nonceSize + size ≤ body.length ∧ body.take nonceSize = nonce.bytes ∧
        text = cutAtZero ((body.drop nonceSize).take size) := by
  unfold nonced?
  split
  · next short =>
    refine iff_of_false nofun ?_
    rintro ⟨long, -⟩
    exact Nat.not_le_of_lt short long
  · next h =>
    have long := Nat.not_lt.1 h
    have whole : (body.take nonceSize).length = 16 :=
      List.length_take_of_le (Nat.le_trans (Nat.le_add_right _ _) long)
    rw [Option.some.injEq, Prod.mk.injEq, ofBytes_eq_iff whole]
    constructor
    · rintro ⟨same, rfl⟩
      exact ⟨long, same, rfl⟩
    · rintro ⟨-, same, rfl⟩
      exact ⟨same, rfl⟩

/-- What was written into a body is read, whatever follows it. -/
theorem nonced?_written (nonce : Uuid) (text : Text) (extra : Bytes) :
    nonced? (nonce.bytes ++ resize size text ++ extra) size =
      some (nonce, cutAtZero (text.take size)) := by
  rw [nonced?_eq_some_iff, List.append_assoc]
  have nonceBytes : nonce.bytes.length = nonceSize := nonce.length_eq
  have field : (resize size text ++ extra).take size = resize size text :=
    List.take_left' (length_resize size text)
  refine ⟨?_, List.take_left' nonceBytes, ?_⟩
  · simp only [List.length_append, length_resize, nonceBytes]
    omega
  · rw [List.drop_left' nonceBytes, field, resize, cutAtZero_padTo]

/-- Only the nonce and the field are looked at. -/
theorem nonced?_take (body : Bytes) (size : Nat) :
    nonced? (body.take (nonceSize + size)) size = nonced? body size := by
  unfold nonced?
  have short : (body.take (nonceSize + size)).length < nonceSize + size ↔
      body.length < nonceSize + size := by
    rw [List.length_take]
    omega
  rw [List.take_take, Nat.min_eq_left (Nat.le_add_right _ _), List.drop_take,
    Nat.add_sub_cancel_left, List.take_take, Nat.min_self]
  simp only [short]

end

/-! ## Sizes that are words -/

/-- The least number that is too large for a signed word of 64 bits. Sizes are such words, and so
are the lengths of byte strings. -/
def wordLimit : Int := 9223372036854775808

/-- Neither a nonce nor a text is read: the body is refused, or reading breaks off. -/
def Fails (body : Bytes) (size : Int) : Prop :=
  ∀ read, readNonced body size ≠ .ok (some read)

section

variable {body body' : Bytes} {size : Int}

theorem readNonced_eq {fieldEnd : Int}
    (h : (16 + size).bmod 18446744073709551616 = fieldEnd) :
    readNonced body size =
      if (body.length : Int) < fieldEnd then .ok none
      else if fieldEnd < 16 then .error .invertedRange
      else .ok (nonced? body size.toNat) := by
  subst h
  rfl

/-- The end of the field is a word. -/
theorem readNonced_of_lt (nonneg : 0 ≤ size) (fits : 16 + size < wordLimit) :
    readNonced body size = .ok (nonced? body size.toNat) := by
  unfold wordLimit at fits
  rw [readNonced_eq (Int.bmod_eq_of_le (by omega) (by omega))]
  split
  · next short =>
    have refused : nonced? body size.toNat = none :=
      nonced?_eq_none_iff.2 (by unfold nonceSize; omega)
    rw [refused]
  · rw [if_neg (by omega)]

/-- The end of the field wraps around to a negative word, for which no body is too short. -/
theorem readNonced_of_le (word : size < wordLimit) (wraps : wordLimit ≤ 16 + size) :
    readNonced body size = .error .invertedRange := by
  unfold wordLimit at word wraps
  have fieldEnd : (16 + size).bmod 18446744073709551616 = 16 + size - 18446744073709551616 :=
    (Int.sub_bmod_right _ _).symm.trans (Int.bmod_eq_of_le (by omega) (by omega))
  rw [readNonced_eq fieldEnd, if_neg (by omega), if_pos (by omega)]

theorem readNonced_eq_ok_none_iff (nonneg : 0 ≤ size) (word : size < wordLimit) :
    readNonced body size = .ok none ↔ body.length < 16 + size ∧ 16 + size < wordLimit := by
  rcases Int.lt_or_le (16 + size) wordLimit with fits | wraps
  · rw [readNonced_of_lt nonneg fits, Except.ok.injEq, nonced?_eq_none_iff, nonceSize]
    omega
  · rw [readNonced_of_le word wraps]
    exact iff_of_false nofun fun ⟨_, fits⟩ => Int.not_le.2 fits wraps

theorem readNonced_eq_error_iff (nonneg : 0 ≤ size) (word : size < wordLimit) :
    (∃ fault, readNonced body size = .error fault) ↔ wordLimit ≤ 16 + size := by
  rcases Int.lt_or_le (16 + size) wordLimit with fits | wraps
  · rw [readNonced_of_lt nonneg fits]
    exact iff_of_false nofun (Int.not_le.2 fits)
  · exact iff_of_true ⟨_, readNonced_of_le word wraps⟩ wraps

/-- Reading has three outcomes, and it fails in two of them. -/
theorem fails_iff : Fails body size ↔
    readNonced body size = .ok none ∨ ∃ fault, readNonced body size = .error fault := by
  unfold Fails
  cases readNonced body size with
  | error fault => exact iff_of_true nofun (.inr ⟨fault, rfl⟩)
  | ok outcome =>
    cases outcome with
    | none => exact iff_of_true nofun (.inl rfl)
    | some read => exact iff_of_false (fun h => h read rfl) nofun

theorem fails_iff_length_lt (nonneg : 0 ≤ size) (word : size < wordLimit)
    (short : body.length < wordLimit) : Fails body size ↔ body.length < 16 + size := by
  rw [fails_iff, readNonced_eq_ok_none_iff nonneg word, readNonced_eq_error_iff nonneg word]
  -- Where reading breaks off, the field ends after every body that there can be.
  omega

theorem readNonced_congr (nonneg : 0 ≤ size) (word : size < wordLimit)
    (same : body.take (16 + size).toNat = body'.take (16 + size).toNat) :
    readNonced body size = readNonced body' size := by
  rcases Int.lt_or_le (16 + size) wordLimit with fits | wraps
  · have front : (16 + size).toNat = nonceSize + size.toNat := by
      unfold nonceSize
      omega
    rw [front] at same
    rw [readNonced_of_lt nonneg fits, readNonced_of_lt nonneg fits, ← nonced?_take body, same,
      nonced?_take]
  · rw [readNonced_of_le word wraps, readNonced_of_le word wraps]

end

/-! ## Frames of the handshake -/

/-- A body is read back as the nonce and the text that were written into it, whatever follows it;
the text is cut, unless it has no zero byte and fits into the field. -/
structure ReadsBack (body : Bytes) (size : Nat) (nonce : Uuid) (text : Text) : Prop where
  cut : ∀ extra, readNonced (body ++ extra) size = .ok (some (nonce, cutAtZero (text.take size)))
  whole : 0 ∉ text → text.length ≤ size →
    ∀ extra, readNonced (body ++ extra) size = .ok (some (nonce, text))

theorem readsBack_written {size : Nat} (fits : 16 + size < wordLimit) (nonce : Uuid)
    (text : Text) : ReadsBack (nonce.bytes ++ resize size text) size nonce text := by
  have cut (extra : Bytes) : readNonced (nonce.bytes ++ resize size text ++ extra) size =
      .ok (some (nonce, cutAtZero (text.take size))) := by
    rw [readNonced_of_lt (Int.natCast_nonneg size) fits, Int.toNat_natCast, nonced?_written]
  refine ⟨cut, fun nonzero short extra => ?_⟩
  rw [cut, List.take_of_length_le short, cutAtZero_eq_self nonzero]

/-- A hello and a welcome are read back from their bodies, with the text cut to its field and at its
first zero byte. Reading at a size fails exactly if the body is shorter than a nonce and a field of
this size, and it looks at no other bytes. A body that fails is refused, unless the size is so large
that the end of the field is not a word; then reading breaks off. For the field of a welcome this is
the reading by which a channel takes its session. -/
theorem handshake_round_trip :
    (∀ (nonce : Uuid) (text : Text),
      ReadsBack (hello nonce text).tail 32 nonce text ∧
      ReadsBack (welcome nonce text).tail 64 nonce text) ∧
    (∀ (body : Bytes) (size : Int), 0 ≤ size → size < wordLimit →
      (body.length < wordLimit → (Fails body size ↔ body.length < 16 + size)) ∧
      (readNonced body size = .ok none ↔ body.length < 16 + size ∧ 16 + size < wordLimit) ∧
      ((∃ fault, readNonced body size = .error fault) ↔ wordLimit ≤ 16 + size) ∧
      ∀ body' : Bytes, body.take (16 + size).toNat = body'.take (16 + size).toNat →
        readNonced body size = readNonced body' size) ∧
    ∀ body, readNonced body 64 = .ok (nonced? body sessionSize) := by
  refine ⟨fun nonce text => ⟨?_, ?_⟩, fun body size nonneg word => ?_, fun body => ?_⟩
  · exact readsBack_written (by decide) nonce text
  · exact readsBack_written (by decide) nonce text
  · exact ⟨fails_iff_length_lt nonneg word, readNonced_eq_ok_none_iff nonneg word,
      readNonced_eq_error_iff nonneg word, fun _ => readNonced_congr nonneg word⟩
  · exact readNonced_of_lt (by decide) (by decide)

/-- An identity that fills its field, bodies around the length of a welcome, and the last size whose
field ends at a word next to one whose field does not. -/
theorem handshake_round_trip_at_limits :
    readNonced ((hello .zero (List.replicate 32 97)).tail ++ [1]) 32 =
      .ok (some (.zero, List.replicate 32 97)) ∧
    Fails (List.replicate 79 97) 64 ∧ ¬Fails (List.replicate 80 97) 64 ∧
    readNonced (List.replicate 80 97 ++ [1]) 64 = readNonced (List.replicate 80 97) 64 ∧
    readNonced [] 9223372036854775791 = .ok none ∧
    ∃ fault, readNonced [] 9223372036854775792 = .error fault := by
  obtain ⟨frames, bodies, -⟩ := handshake_round_trip
  obtain ⟨failsShort, -⟩ := bodies (List.replicate 79 97) 64 (by decide) (by decide)
  obtain ⟨failsFull, -⟩ := bodies (List.replicate 80 97) 64 (by decide) (by decide)
  obtain ⟨-, -, -, front⟩ := bodies (List.replicate 80 97 ++ [1]) 64 (by decide) (by decide)
  obtain ⟨-, refused, -⟩ := bodies [] 9223372036854775791 (by decide) (by decide)
  obtain ⟨-, -, brokenOff, -⟩ := bodies [] 9223372036854775792 (by decide) (by decide)
  refine ⟨(frames .zero (List.replicate 32 97)).1.whole (by decide) (by decide) [1],
    (failsShort (by decide)).2 (by decide), fun fails => ?_, front _ (by decide),
    refused.2 (by decide), brokenOff.2 (by decide)⟩
  exact absurd ((failsFull (by decide)).1 fails) (by decide)

end Frame

end Teleop
