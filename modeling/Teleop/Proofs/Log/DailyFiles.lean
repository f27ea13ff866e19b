import Teleop.Log.Daily
import Teleop.Proofs.Disk
import Teleop.Time.Calendar

/-!
# Daily files lose nothing

A writer keeps one file open and remembers its date. The date may go on, come back or stay, and
opening the file of another date may fail at any time. Each text that was accepted is in the file of
the date at which it was, behind what was accepted for that date before.

* `Diary`, `Diary.run`: a writer, the disk and the attempts to write, after any calls;
* `written`: the texts that were accepted for a date;
* `Diary.Kept`: what every call keeps;
* `Diary.daily_files_lose_nothing`: what the files hold after any calls.
-/

namespace Teleop

/-! ## Dates in names -/

theorem slash_notMem_decimal (n : Nat) : 47 ∉ decimal n := by
  have digits : decimal n = (Nat.toDigits 10 n).flatMap String.utf8EncodeChar := by
    rw [decimal, show toString (n : Int) = n.repr from rfl, Nat.repr_eq_ofList_toDigits]
    simp [utf8, List.utf8Encode]
  rw [digits, List.mem_flatMap]
  rintro ⟨c, mem, slash⟩
  have digit := Nat.isDigit_of_mem_toDigits (by decide) (by decide) mem
  have bounds : 48 ≤ c.toNat ∧ c.toNat ≤ 57 := by
    simpa [Char.isDigit, UInt32.le_iff_toNat_le] using digit
  have small : c.val.toNat ≤ 127 := Nat.le_trans bounds.2 (by decide)
  simp only [String.utf8EncodeChar, if_pos small, List.mem_singleton] at slash
  have value : 47 = c.toNat % 256 := by simpa using congrArg UInt8.toNat slash
  omega

theorem Date.slash_notMem_text (d : Date) : 47 ∉ d.text := by
  have padded (width n : Nat) : 47 ∉ zeroPadded width n := by
    rw [zeroPadded, List.mem_append, not_or]
    exact ⟨by simp [List.mem_replicate], slash_notMem_decimal n⟩
  have dash : 47 ∉ utf8 "-" := by decide
  simp only [text, List.mem_append, padded, dash, or_false]
  split
  · exact dash
  · exact List.not_mem_nil

namespace Log

/-- A storage in which no file can be opened, if there is a reason for that. -/
def Storage.barred {m : Type → Type} [Monad m] {φ : Type} (S : Storage m φ)
    (reason : Option PathError) : Storage m φ where
  openFile path :=
    match reason with
    | some reason => pure (.error reason)
    | none => S.openFile path
  append := S.append

theorem onDisk_bind {α β : Type} (act : StateM Disk α) (next : α → StateM Disk β) (d : Disk) :
    onDisk (act >>= next) d = onDisk (next (onDisk act d).1) (onDisk act d).2 :=
  rfl

/-- What opening a file on a disk comes to. -/
theorem openFile_cases (bar : Option PathError) (path : Text) (d : Disk) :
    (∃ reason, onDisk ((diskStorage.barred bar).openFile path) d = (.error reason, d)) ∨
    ∃ d', d.openFile path = .ok d' ∧
      onDisk ((diskStorage.barred bar).openFile path) d = (.ok path, d') := by
  cases bar with
  | some reason => exact .inl ⟨reason, rfl⟩
  | none =>
    change (∃ reason, diskStorage.openFile path d = _) ∨ ∃ d', _ ∧ diskStorage.openFile path d = _
    unfold diskStorage
    dsimp only
    split
    · next reason _ => exact .inl ⟨reason, rfl⟩
    · next d' opened => exact .inr ⟨d', opened, rfl⟩

namespace DailyWriter

/-! ## One call -/

variable {w : DailyWriter Text} {d : Disk} {date date' : Text}

/-- The file for the date is open. -/
def Holds (w : DailyWriter Text) (date : Text) : Prop :=
  w.file ≠ none ∧ w.date = date

/-- The name of a file is made of the same text for all dates, the date and an ending. -/
theorem exists_pathParts_path (w : DailyWriter Text) : ∃ base, ∀ date, 47 ∉ date →
    IsName (base ++ (utf8 "_" ++ date ++ utf8 ".log")) ∧
      ∃ front, pathParts (w.path date) = front ++ [base ++ (utf8 "_" ++ date ++ utf8 ".log")] := by
  obtain ⟨base, ends⟩ := exists_pathParts_joinPath w.folder w.service
  refine ⟨base, fun date plain => ?_⟩
  have rest : 47 ∉ utf8 "_" ++ date ++ utf8 ".log" := by
    rw [List.mem_append, List.mem_append, not_or, not_or]
    exact ⟨⟨by decide, plain⟩, by decide⟩
  have long : 2 < (utf8 "_" ++ date ++ utf8 ".log").length := by
    rw [List.length_append, show (utf8 ".log").length = 4 from rfl]
    omega
  have parts := ends _ rest long
  rwa [← List.append_assoc w.service, ← List.append_assoc w.service] at parts

/-- Files for different dates are different files. -/
theorem locate_path_ne {place : Place} (plain : 47 ∉ date) (plain' : 47 ∉ date')
    (ne : date ≠ date') (located : d.locate (w.path date) = .ok place) :
    d.locate (w.path date') ≠ .ok place := by
  intro located'
  obtain ⟨base, ends⟩ := w.exists_pathParts_path
  obtain ⟨named, front, parts⟩ := ends date plain
  obtain ⟨named', front', parts'⟩ := ends date' plain'
  have last := Disk.getLast?_of_locate named parts located
  rw [Disk.getLast?_of_locate named' parts' located', Option.some.injEq] at last
  simp only [List.append_cancel_left_eq, List.append_cancel_right_eq] at last
  exact ne last.symm

/-- The file for a date is taken as it is if it is open, and opened otherwise. -/
theorem fileFor_cases {m : Type → Type} [Monad m] (S : Storage m Text) (w : DailyWriter Text)
    (date : Text) :
    (∃ file, w.file = some file ∧ w.date = date ∧ w.fileFor S date = pure (.ok file, w)) ∨
      ¬w.Holds date ∧ w.fileFor S date = w.turnTo S date := by
  unfold fileFor Holds
  cases opened : w.file with
  | none => exact .inr ⟨fun h => h.1 rfl, rfl⟩
  | some file =>
    dsimp only
    split
    · next same => exact .inl ⟨file, rfl, same.symm, rfl⟩
    · next other => exact .inr ⟨fun h => other h.2.symm, rfl⟩

/-- What comes of a call to write: the writer is closed, or the file of the date cannot be opened,
or the text is appended to that file. -/
theorem write_cases (bar : Option PathError) (w : DailyWriter Text) (date : Text) (text : Bytes)
    (d : Disk) :
    (w.closed = true ∧
      onDisk (w.write (diskStorage.barred bar) date text) d = (({ error := some .closed }, w), d)) ∨
    (w.closed = false ∧ ¬w.Holds date ∧
      ∃ reason, onDisk ((diskStorage.barred bar).openFile (w.path date)) d = (.error reason, d) ∧
        onDisk (w.write (diskStorage.barred bar) date text) d =
          (({ error := some (.unopened (w.path date) reason) }, { w with file := none }), d)) ∨
    (w.closed = false ∧ ∃ file d',
      (w.file = some file ∧ w.date = date ∧ d' = d ∨
        ¬w.Holds date ∧ file = w.path date ∧ d.openFile (w.path date) = .ok d' ∧
          onDisk ((diskStorage.barred bar).openFile (w.path date)) d = (.ok file, d')) ∧
      onDisk (w.write (diskStorage.barred bar) date text) d =
        (({ count := text.length }, { w with file := some file, date }), d'.append file text)) := by
  unfold write
  rcases Bool.eq_false_or_eq_true w.closed with closed | isOpen
  · rw [if_pos closed]
    exact .inl ⟨closed, rfl⟩
  rw [if_neg (Bool.eq_false_iff.1 isOpen)]
  rcases w.fileFor_cases (diskStorage.barred bar) date with
    ⟨file, opened, rfl, taken⟩ | ⟨other, turned⟩
  · refine .inr (.inr ⟨isOpen, file, d, .inl ⟨opened, rfl, rfl⟩, ?_⟩)
    rw [taken, ← opened]
    rfl
  · rw [turned]
    unfold turnTo
    rcases openFile_cases bar (w.path date) d with ⟨reason, failed⟩ | ⟨d', done, opened⟩
    · refine .inr (.inl ⟨isOpen, other, reason, failed, ?_⟩)
      rw [onDisk_bind, onDisk_bind, failed]
      rfl
    · refine .inr (.inr ⟨isOpen, _, d', .inr ⟨other, rfl, done, opened⟩, ?_⟩)
      rw [onDisk_bind, onDisk_bind, opened]
      rfl

end DailyWriter

/-! ## Sequences of calls -/

/-- A call on a writer. -/
inductive Op where
  /-- A text is written while the clock shows a date. No file can be opened meanwhile if there is a
  reason for that. -/
  | write (date : Date) (text : Bytes) (bar : Option PathError)
  | close

/-- An attempt to write. -/
structure Attempt where
  date : Text
  text : Bytes
  outcome : DailyWriter.Written

/-- The texts that were accepted for a date, one behind the other. -/
def written (date : Text) (attempts : List Attempt) : Bytes :=
  (attempts.filter fun a => a.date = date ∧ a.outcome.error = none).flatMap (·.text)

theorem written_concat (date : Text) (attempts : List Attempt) (a : Attempt) :
    written date (attempts ++ [a]) = written date attempts ++
      if a.date = date ∧ a.outcome.error = none then a.text else [] := by
  by_cases counts : a.date = date ∧ a.outcome.error = none <;> simp [written, counts]

/-- A writer, the disk that it writes to, and what was attempted so far. -/
structure Diary where
  writer : DailyWriter Text
  disk : Disk
  attempts : List Attempt := []

namespace Diary

def step (s : Diary) : Op → Diary
  | .write date text bar =>
    let ((outcome, writer), disk) :=
      onDisk (s.writer.write (diskStorage.barred bar) date.text text) s.disk
    { writer, disk, attempts := s.attempts ++ [⟨date.text, text, outcome⟩] }
  | .close => { s with writer := s.writer.close }

def run (s : Diary) (ops : List Op) : Diary :=
  ops.foldl step s

variable {w : DailyWriter Text} {before : Disk} {s : Diary}

theorem run_cons (s : Diary) (op : Op) (ops : List Op) : s.run (op :: ops) = (s.step op).run ops :=
  rfl

theorem step_write {date : Date} {text : Bytes} {bar : Option PathError}
    {outcome : DailyWriter.Written} {w' : DailyWriter Text} {d' : Disk}
    (h : onDisk (s.writer.write (diskStorage.barred bar) date.text text) s.disk =
      ((outcome, w'), d')) :
    s.step (.write date text bar) =
      { writer := w', disk := d', attempts := s.attempts ++ [⟨date.text, text, outcome⟩] } := by
  simp only [step, h]

/-- What every call keeps: the file that counts as open is there and is the one of the date, and
each file holds what it held before and the texts that were accepted for its date. -/
structure Kept (w : DailyWriter Text) (before : Disk) (s : Diary) : Prop where
  path : s.writer.path = w.path
  current : ∀ file, s.writer.file = some file →
    file = w.path s.writer.date ∧ s.disk.HasFile file
  closed : s.writer.closed = true → s.writer.file = none
  content : ∀ date, 47 ∉ date →
    s.disk.content (w.path date) = before.content (w.path date) ++ written date s.attempts

/-- A text that is appended to the file of its date, while all contents were kept. -/
theorem Kept.accepted (h : s.Kept w before) (isOpen : s.writer.closed = false) {date : Text}
    (plain : 47 ∉ date) {opened : Disk} (there : opened.HasFile (w.path date))
    (same : ∀ path, opened.content path = s.disk.content path) (text : Bytes) (count : Nat) :
    Kept w before
      { writer := { s.writer with file := some (w.path date), date }
        disk := opened.append (w.path date) text
        attempts := s.attempts ++ [⟨date, text, { count }⟩] } where
  path := h.path
  current := by
    rintro _ ⟨⟩
    exact ⟨rfl, there.append _ _⟩
  closed := by
    intro closed
    rw [isOpen] at closed
    cases closed
  content := by
    intro other plain'
    rw [written_concat]
    by_cases today : date = other
    · subst today
      rw [Disk.content_append there, same, h.content date plain, List.append_assoc]
      simp
    · rw [Disk.content_append_of_apart text fun place =>
        DailyWriter.locate_path_ne plain plain' today, same, h.content other plain']
      simp [today]

theorem Kept.step (h : s.Kept w before) (op : Op) : (s.step op).Kept w before := by
  cases op with
  | close =>
    unfold Diary.step DailyWriter.close
    dsimp only
    split
    · exact h
    · exact ⟨h.path, nofun, fun _ => rfl, h.content⟩
  | write date text bar =>
    have failed (e : DailyWriter.Error) (other : Text) :
        written other (s.attempts ++ [⟨date.text, text, { error := some e }⟩]) =
          written other s.attempts := by
      simp [written_concat]
    rcases s.writer.write_cases bar date.text text s.disk with
      ⟨-, written⟩ | ⟨-, -, reason, -, written⟩ | ⟨isOpen, file, opened, open', written⟩
    · rw [step_write written]
      refine ⟨h.path, h.current, h.closed, fun other plain => ?_⟩
      rw [failed]
      exact h.content other plain
    · rw [step_write written]
      refine ⟨h.path, nofun, fun _ => rfl, fun other plain => ?_⟩
      rw [failed]
      exact h.content other plain
    · rw [step_write written]
      rw [h.path] at open'
      rcases open' with ⟨current, same, rfl⟩ | ⟨-, rfl, done, -⟩
      · obtain ⟨rfl, there⟩ := h.current file current
        rw [same] at there ⊢
        exact h.accepted isOpen date.slash_notMem_text there (fun _ => rfl) text text.length
      · exact h.accepted isOpen date.slash_notMem_text (Disk.hasFile_openFile done)
          (Disk.content_openFile done) text text.length

theorem Kept.run (h : s.Kept w before) (ops : List Op) : (s.run ops).Kept w before := by
  induction ops generalizing s with
  | nil => exact h
  | cons op ops ih =>
    rw [run_cons]
    exact ih (h.step op)

theorem kept_new {service folder : Text} {date : Text} {disk : Disk}
    (made : onDisk (DailyWriter.new diskStorage service folder date) before = (.ok w, disk)) :
    Kept w before { writer := w, disk } := by
  obtain ⟨opened, path, file, isOpen⟩ : before.openFile (w.path date) = .ok disk ∧
      w.date = date ∧ w.file = some (w.path date) ∧ w.closed = false := by
    unfold DailyWriter.new DailyWriter.turnTo at made
    rw [onDisk_bind, onDisk_bind] at made
    rcases openFile_cases none (DailyWriter.path { service, folder : DailyWriter Text } date) before
      with ⟨reason, failed⟩ | ⟨d', done, opened⟩
    · change onDisk (diskStorage.openFile _) before = _ at failed
      rw [failed] at made
      cases made
    · change onDisk (diskStorage.openFile _) before = _ at opened
      rw [opened] at made
      cases made
      exact ⟨done, rfl, rfl, rfl⟩
  refine ⟨rfl, fun file' current => ?_, fun closed => ?_, fun other _ => ?_⟩
  · obtain rfl := Option.some.inj (file.symm.trans current)
    exact ⟨by rw [path], Disk.hasFile_openFile opened⟩
  · rw [isOpen] at closed
    cases closed
  · rw [Disk.content_openFile opened]
    exact (List.append_nil _).symm

/-- What opening the file of a date comes to. -/
def opening (s : Diary) (date : Date) (bar : Option PathError) : Except PathError Text :=
  (onDisk ((diskStorage.barred bar).openFile (s.writer.path date.text)) s.disk).1

/-- What writing a text comes to. -/
def outcome (s : Diary) (date : Date) (text : Bytes) (bar : Option PathError) :
    DailyWriter.Written :=
  (onDisk (s.writer.write (diskStorage.barred bar) date.text text) s.disk).1.1

/-- A text is accepted unless the writer is closed or has to open the file and cannot. It is written
as a whole or not at all. -/
theorem outcome_spec (s : Diary) (date : Date) (text : Bytes) (bar : Option PathError) :
    ((s.outcome date text bar).error = none ↔
      s.writer.closed = false ∧ (s.writer.Holds date.text ∨ (s.opening date bar).isOk)) ∧
    (s.outcome date text bar).count =
      if (s.outcome date text bar).error = none then text.length else 0 := by
  unfold outcome opening
  rcases s.writer.write_cases bar date.text text s.disk with
    ⟨closed, written⟩ | ⟨isOpen, other, reason, failed, written⟩ |
      ⟨isOpen, file, opened, open', written⟩
  · simp [written, closed]
  · simp [written, other, failed, Except.isOk, Except.toBool]
  · rcases open' with ⟨current, same, -⟩ | ⟨-, -, -, done⟩
    · simp [written, isOpen, DailyWriter.Holds, current, same]
    · simp [written, isOpen, done, Except.isOk, Except.toBool]

/-- A text is refused if its file cannot be opened; no file is open then. -/
theorem Kept.refusal (h : s.Kept w before) {date : Date} {bar : Option PathError}
    {reason : PathError} (isOpen : s.writer.closed = false) (other : ¬s.writer.Holds date.text)
    (failed : s.opening date bar = .error reason) (text : Bytes) :
    s.outcome date text bar = { error := some (.unopened (w.path date.text) reason) } ∧
      (s.step (.write date text bar)).disk = s.disk ∧
      (s.step (.write date text bar)).writer.file = none ∧
      (s.step (.write date text bar)).writer.closed = false := by
  unfold opening at failed
  rcases s.writer.write_cases bar date.text text s.disk with
    ⟨closed, -⟩ | ⟨-, -, reason', failed', written⟩ | ⟨-, file, opened, open', -⟩
  · rw [isOpen] at closed
    cases closed
  · rw [failed'] at failed
    cases failed
    rw [step_write written, outcome, written, h.path]
    exact ⟨rfl, rfl, rfl, isOpen⟩
  · rcases open' with ⟨current, same, -⟩ | ⟨-, -, -, done⟩
    · exact absurd ⟨by simp [current], same⟩ other
    · rw [done] at failed
      cases failed

/-- The attempt that a call to a closed writer comes to. -/
def refused : Op → Option Attempt
  | .write date text _ => some ⟨date.text, text, { error := some .closed }⟩
  | .close => none

theorem step_of_closed (closed : s.writer.closed = true) (op : Op) :
    s.step op = { s with attempts := s.attempts ++ (refused op).toList } := by
  cases op with
  | close =>
    rw [step, DailyWriter.close, if_pos closed, refused, Option.toList_none, List.append_nil]
  | write date text bar =>
    refine step_write ?_
    rw [DailyWriter.write, if_pos closed]
    rfl

/-- Nothing happens any more after a writer was closed. -/
theorem run_of_closed (ops : List Op) (closed : s.writer.closed = true) :
    s.run ops = { s with attempts := s.attempts ++ ops.filterMap refused } := by
  induction ops generalizing s with
  | nil => simp [run]
  | cons op ops ih =>
    have rest := ih (s := { s with attempts := s.attempts ++ (refused op).toList }) closed
    rw [run_cons, step_of_closed closed, rest, List.append_assoc]
    cases op <;> rfl

/-- The files of a writer after any calls, at any dates in any order and with any openings that
fail. Each file holds what it held at first and, behind that, the texts that were accepted on its
date, in their order. A text is accepted unless the writer is closed or has to open the file of the
date and cannot; the count is that of its bytes, and zero if it is not accepted. If the file cannot
be opened, the attempt fails, no file is changed, no file is current, and the next attempt succeeds
exactly if the file of its own date can be opened. After closing every attempt fails, nothing is
changed, and no file is current. -/
theorem daily_files_lose_nothing {service folder : Text} {first : Date} {before disk : Disk}
    (made : onDisk (DailyWriter.new diskStorage service folder first.text) before = (.ok w, disk))
    (ops : List Op) :
    let s := run { writer := w, disk } ops
    (∀ date : Date, s.disk.content (w.path date.text) =
      before.content (w.path date.text) ++ written date.text s.attempts) ∧
    (∀ date text bar,
      ((s.outcome date text bar).error = none ↔
        s.writer.closed = false ∧ (s.writer.Holds date.text ∨ (s.opening date bar).isOk)) ∧
      (s.outcome date text bar).count =
        if (s.outcome date text bar).error = none then text.length else 0) ∧
    (∀ date text bar reason, s.writer.closed = false → ¬s.writer.Holds date.text →
      s.opening date bar = .error reason →
      let s' := s.step (.write date text bar)
      s.outcome date text bar = { error := some (.unopened (w.path date.text) reason) } ∧
      s'.disk = s.disk ∧ s'.writer.current = none ∧
      ∀ next more bar', (s'.outcome next more bar').error = none ↔ (s'.opening next bar').isOk) ∧
    ∀ later,
      let s' := (s.step .close).run later
      s'.disk = s.disk ∧ s'.writer.current = none ∧
      s'.attempts = s.attempts ++ later.filterMap refused := by
  intro s
  have kept : s.Kept w before := (kept_new made).run ops
  refine ⟨fun date => kept.content date.text date.slash_notMem_text, s.outcome_spec,
    fun date text bar reason isOpen other failed => ?_, fun later => ?_⟩
  · obtain ⟨written, unchanged, idle⟩ := kept.refusal isOpen other failed text
    refine ⟨written, unchanged, by rw [DailyWriter.current, idle.1]; rfl, fun next more bar' => ?_⟩
    rw [(outcome_spec ..).1, idle.2]
    simp [DailyWriter.Holds, idle.1]
  · have silent : (s.step .close).writer.closed = true ∧ (s.step .close).writer.file = none := by
      unfold step DailyWriter.close
      dsimp only
      split
      · next closed => exact ⟨closed, kept.closed closed⟩
      · exact ⟨rfl, rfl⟩
    rw [run_of_closed later silent.1]
    exact ⟨rfl, by rw [DailyWriter.current, silent.2]; rfl, rfl⟩

/-- The date goes back and comes again, and the file of the other day cannot be opened at first. -/
theorem daily_files_lose_nothing_returning :
    let eve : Date := ⟨2099, 12, 31⟩
    let day : Date := ⟨2100, 1, 1⟩
    let w : DailyWriter Text :=
      { service := utf8 "svc", folder := utf8 "logs", file := some (utf8 "logs/svc_2100-01-01.log")
        date := day.text }
    let before : Disk :=
      { files := [(home ++ [utf8 "logs", utf8 "svc_2100-01-01.log"], utf8 "old")] }
    let ops : List Op :=
      [.write day (utf8 " a") none, .write eve (utf8 "lost") (some .notFound),
        .write eve (utf8 "b") none, .write day (utf8 " c") none, .close,
        .write day (utf8 " d") none]
    let s := run { writer := w, disk := before } ops
    onDisk (DailyWriter.new diskStorage (utf8 "svc") (utf8 "logs") day.text) before =
        (.ok w, before) ∧
      s.attempts.map (·.outcome.count) = [2, 0, 1, 2, 0] ∧
      s.disk.content (w.path day.text) = utf8 "old a c" ∧
      s.disk.content (w.path eve.text) = utf8 "b" := by
  intro eve day w before ops s
  obtain ⟨made, outcomes, here, there⟩ :
      onDisk (DailyWriter.new diskStorage (utf8 "svc") (utf8 "logs") day.text) before =
        (.ok w, before) ∧
      s.attempts.map (·.outcome.count) = [2, 0, 1, 2, 0] ∧
      before.content (w.path day.text) ++ written day.text s.attempts = utf8 "old a c" ∧
      before.content (w.path eve.text) ++ written eve.text s.attempts = utf8 "b" := by
    decide +kernel +revert
  have contents := (daily_files_lose_nothing made ops).1
  exact ⟨made, outcomes, (contents day).trans here, (contents eve).trans there⟩

end Diary

end Log

end Teleop
