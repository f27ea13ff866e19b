import Mathlib.Data.List.Induction
import Teleop.Disk

/-!
# What opening and appending do to files

The place that a path means depends only on where one can pass, and neither opening nor appending
changes that. So contents can be followed through both: opening leaves all of them, and appending
changes that of one file. The last part of a path is the name of the file, so paths with different
last parts mean different files.

* `exists_pathParts_joinPath`: the last part of a path survives being cleaned up;
* `Disk.getLast?_of_locate`: the place of a path ends with its last part;
* `Disk.Passable`, `Disk.locate_congr`: what a path means;
* `Disk.content`, `Disk.HasFile`: the content of a file, and whether there is one;
* `Disk.content_openFile`, `Disk.content_append`: the two operations.
-/

namespace Teleop

/-! ## The last part of a path -/

theorem splitAt_cons_self (s : UInt8) (t : Text) : splitAt s (s :: t) = [] :: splitAt s t := by
  simp [splitAt]

theorem splitAt_cons_of_ne {s b : UInt8} {t part : Text} {rest : List Text} (ne : b ≠ s)
    (h : splitAt s t = part :: rest) : splitAt s (b :: t) = (b :: part) :: rest := by
  simp only [splitAt, List.foldr_cons, if_neg ne] at h ⊢
  rw [h]

theorem splitAt_of_notMem {s : UInt8} {t : Text} (h : s ∉ t) : splitAt s t = [t] := by
  induction t with
  | nil => rfl
  | cons b t ih =>
    rw [List.mem_cons, not_or] at h
    exact splitAt_cons_of_ne (Ne.symm h.1) (ih h.2)

/-- What is put behind a text without a separator goes to its last part. -/
theorem exists_splitAt_append (s : UInt8) (t : Text) :
    ∃ front base, s ∉ base ∧ (∀ u, s ∉ u → splitAt s (t ++ u) = front ++ [base ++ u]) ∧
      ∀ u, splitAt s (t ++ s :: u) = front ++ base :: splitAt s u := by
  induction t with
  | nil => exact ⟨[], [], List.not_mem_nil, fun u h => splitAt_of_notMem h, splitAt_cons_self s⟩
  | cons b t ih =>
    obtain ⟨front, base, within, plain, separated⟩ := ih
    by_cases separator : b = s
    · refine ⟨[] :: front, base, within, fun u h => ?_, fun u => ?_⟩
      · rw [separator, List.cons_append, splitAt_cons_self, plain u h, List.cons_append]
      · rw [separator, List.cons_append, splitAt_cons_self, separated, List.cons_append]
    · cases front with
      | nil =>
        exact ⟨[], b :: base, List.not_mem_cons_of_ne_of_not_mem (Ne.symm separator) within,
          fun u h => splitAt_cons_of_ne separator (plain u h),
          fun u => splitAt_cons_of_ne separator (separated u)⟩
      | cons first front =>
        exact ⟨(b :: first) :: front, base, within,
          fun u h => splitAt_cons_of_ne separator (plain u h),
          fun u => splitAt_cons_of_ne separator (separated u)⟩

theorem splitAt_separator (s : UInt8) (t u : Text) :
    splitAt s (t ++ s :: u) = splitAt s t ++ splitAt s u := by
  obtain ⟨front, base, -, plain, separated⟩ := exists_splitAt_append s t
  have alone := plain [] List.not_mem_nil
  rw [List.append_nil, List.append_nil] at alone
  rw [separated, alone, List.append_assoc, List.singleton_append]

/-- A part of a path that is neither blank nor a point nor a step up. -/
structure IsName (part : Text) : Prop where
  ne_nil : part ≠ []
  ne_point : part ≠ utf8 "."
  ne_up : part ≠ utf8 ".."
  plain : 47 ∉ part

theorem IsName.of_length {part : Text} (long : 2 < part.length) (plain : 47 ∉ part) :
    IsName part := by
  refine ⟨?_, ?_, ?_, plain⟩ <;> rintro rfl <;> exact absurd long (by decide)

theorem cleanParts_concat {name : Text} (h : IsName name) (absolute : Bool)
    (done parts : List Text) :
    cleanParts absolute done (parts ++ [name]) = name :: cleanParts absolute done parts := by
  fun_induction cleanParts absolute done parts with
  | case1 done => simp [cleanParts, h.ne_nil, h.ne_point, h.ne_up]
  | _ => simp_all [cleanParts]

theorem joinWith_concat (separator : Text) {parts : List Text} (h : parts ≠ []) (part : Text) :
    joinWith separator (parts ++ [part]) = joinWith separator parts ++ separator ++ part := by
  induction parts with
  | nil => exact absurd rfl h
  | cons first parts ih =>
    cases parts with
    | nil => rfl
    | cons second parts =>
      have rest := ih (List.cons_ne_nil _ _)
      simp only [List.cons_append, joinWith] at rest ⊢
      rw [rest]
      simp only [List.append_assoc]

theorem exists_pathParts_cleanPath {t name : Text} {front : List Text} (h : IsName name)
    (ht : pathParts t = front ++ [name]) :
    ∃ front', pathParts (cleanPath t) = front' ++ [name] := by
  have joined (parts : List Text) :
      ∃ front', pathParts (joinWith (utf8 "/") (parts ++ [name])) = front' ++ [name] := by
    by_cases nothing : parts = []
    · exact ⟨[], by rw [nothing]; exact splitAt_of_notMem h.plain⟩
    · refine ⟨pathParts (joinWith (utf8 "/") parts), ?_⟩
      rw [joinWith_concat _ nothing, List.append_assoc]
      exact (splitAt_separator 47 _ name).trans (by rw [splitAt_of_notMem h.plain]; rfl)
  obtain ⟨front', hfront⟩ := joined (cleanParts (t.head? = some 47) [] front).reverse
  simp only [cleanPath, ht, cleanParts_concat h, List.reverse_cons]
  split
  · refine ⟨[] :: front', ?_⟩
    rw [List.cons_append, ← hfront]
    exact splitAt_cons_self 47 _
  · split
    · next empty => simp at empty
    · exact ⟨front', hfront⟩

/-- What is put behind a path without a slash becomes the end of its name. -/
theorem exists_pathParts_joinPath (folder t : Text) :
    ∃ base, ∀ u, 47 ∉ u → 2 < u.length → IsName (base ++ u) ∧
      ∃ front, pathParts (joinPath folder (t ++ u)) = front ++ [base ++ u] := by
  obtain ⟨front, base, within, plain, -⟩ := exists_splitAt_append 47 t
  refine ⟨base, fun u hu long => ?_⟩
  have named : IsName (base ++ u) := by
    refine .of_length (by rw [List.length_append]; omega) ?_
    rw [List.mem_append, not_or]
    exact ⟨within, hu⟩
  refine ⟨named, ?_⟩
  unfold joinPath
  split
  · exact exists_pathParts_cleanPath named (plain u hu)
  · have parts : pathParts (folder ++ [47] ++ (t ++ u)) =
        (pathParts folder ++ front) ++ [base ++ u] := by
      rw [List.append_assoc, List.append_assoc, ← plain u hu]
      exact splitAt_separator 47 folder (t ++ u)
    exact exists_pathParts_cleanPath named parts

namespace Disk

/-- A path that can be followed leads to another position with its first part, one down if that is
a name. -/
theorem Position.follow_cons {p : Position} {part : Text} {rest : List Text} {place : Place}
    (h : p.follow (part :: rest) = .ok place) :
    ∃ p' : Position, p'.follow rest = .ok place ∧ (IsName part → p' = p.down part) := by
  rw [follow] at h
  split at h
  · cases h
  · split at h
    · cases h
    · split at h
      · next stays =>
        exact ⟨p, h, fun named => absurd stays (not_or.2 ⟨named.ne_nil, named.ne_point⟩)⟩
      · split at h
        · next up => exact ⟨p.up, h, fun named => absurd up named.ne_up⟩
        · split at h
          · cases h
          · exact ⟨p.down part, h, fun _ => rfl⟩

theorem Position.follow_concat {name : Text} (h : IsName name) (parts : List Text) :
    ∀ {p : Position} {place : Place}, p.follow (parts ++ [name]) = .ok place →
      place.getLast? = some name := by
  induction parts with
  | nil =>
    intro p place followed
    obtain ⟨p', arrived, down⟩ := follow_cons followed
    rw [down h] at arrived
    cases arrived
    simp [Position.down]
  | cons part parts ih =>
    intro p place followed
    obtain ⟨p', followed', -⟩ := follow_cons followed
    exact ih followed'

variable {d d' : Disk} {path : Text} {place : Place}

/-- A path that is neither blank nor too long and has no zero in it. -/
def Legible (path : Text) : Prop :=
  0 ∉ path ∧ path ≠ [] ∧ path.length < 4096

theorem locate_eq_ok : d.locate path = .ok place ↔
    Legible path ∧ (d.start path).follow (pathParts path) = .ok place := by
  unfold locate Legible
  split
  · next zero => simp_all
  · split
    · next empty => simp_all
    · split
      · next long => simp [Nat.not_lt.2 long]
      · next zero empty short => simp_all

/-- The place of a path ends with its last part. -/
theorem getLast?_of_locate {name : Text} (h : IsName name) {front : List Text}
    (ends : pathParts path = front ++ [name]) (located : d.locate path = .ok place) :
    place.getLast? = some name := by
  have followed := (locate_eq_ok.1 located).2
  rw [ends] at followed
  exact Position.follow_concat h front followed

/-! ## Where one can pass -/

theorem mem_files_below {name : Text} {r : Place} {content : Bytes} :
    (r, content) ∈ (d.below name).files ↔ (name :: r, content) ∈ d.files := by
  simp only [below, List.mem_filterMap]
  constructor
  · rintro ⟨⟨place, content'⟩, mem, h⟩
    cases place with
    | nil => simp at h
    | cons first rest =>
      by_cases same : first = name
      · simp only [same, if_true, Option.map_some, Option.some.injEq, Prod.mk.injEq] at h
        rwa [← h.1, ← h.2, ← same]
      · simp [same] at h
  · exact fun mem => ⟨_, mem, by simp⟩

theorem mem_folders_below {name : Text} {r : Place} :
    r ∈ (d.below name).folders ↔ name :: r ∈ d.folders := by
  simp only [below, List.mem_filterMap]
  constructor
  · rintro ⟨place, mem, h⟩
    cases place with
    | nil => simp at h
    | cons first rest =>
      by_cases same : first = name
      · simp only [same, if_true, Option.some.injEq] at h
        rwa [← h, ← same]
      · simp [same] at h
  · exact fun mem => ⟨_, mem, by simp⟩

/-- The position that is reached by going down from the root. -/
def position (d : Disk) (q : Place) : Position :=
  q.foldl Position.down { here := d }

theorem position_concat (d : Disk) (q : Place) (name : Text) :
    d.position (q ++ [name]) = (d.position q).down name := by
  simp [position]

theorem names_position (d : Disk) (q : Place) : (d.position q).names = q.reverse := by
  induction q using List.reverseRecOn with
  | nil => rfl
  | append_singleton q name ih => simp [position_concat, Position.down, ih]

theorem up_position (d : Disk) (q : Place) : (d.position q).up = d.position q.dropLast := by
  rcases List.eq_nil_or_concat q with rfl | ⟨q, name, rfl⟩
  · rfl
  · rw [List.concat_eq_append, position_concat, List.dropLast_concat]
    rfl

theorem mem_files_position {q r : Place} {content : Bytes} :
    (r, content) ∈ (d.position q).here.files ↔ (q ++ r, content) ∈ d.files := by
  induction q using List.reverseRecOn generalizing r with
  | nil => rfl
  | append_singleton q name ih =>
    rw [position_concat, List.append_assoc, List.singleton_append, ← ih]
    exact mem_files_below

theorem mem_folders_position {q r : Place} :
    r ∈ (d.position q).here.folders ↔ q ++ r ∈ d.folders := by
  induction q using List.reverseRecOn generalizing r with
  | nil => rfl
  | append_singleton q name ih =>
    rw [position_concat, List.append_assoc, List.singleton_append, ← ih]
    exact mem_folders_below

theorem isFile_iff {q : Place} : d.isFile q = true ↔ ∃ content, (q, content) ∈ d.files := by
  simp [isFile]

/-- Something lies at a place or below it. -/
def Reaches (d : Disk) (q : Place) : Prop :=
  (∃ file ∈ d.files, q <+: file.1) ∨ ∃ folder ∈ d.folders, q <+: folder

theorem Reaches.above {q r : Place} (h : d.Reaches r) (below : q <+: r) : d.Reaches q := by
  rcases h with ⟨file, mem, h⟩ | ⟨folder, mem, h⟩
  · exact .inl ⟨file, mem, below.trans h⟩
  · exact .inr ⟨folder, mem, below.trans h⟩

theorem isFolder_iff {q : Place} : d.isFolder q = true ↔ q = [] ∨
    (∃ folder ∈ d.folders, q <+: folder) ∨
      ∃ file ∈ d.files, q <+: file.1 ∧ q.length < file.1.length := by
  simp [isFolder, or_assoc]

theorem reaches_of_isFolder {q : Place} (h : d.isFolder q = true) : q = [] ∨ d.Reaches q := by
  rcases isFolder_iff.1 h with nil | folder | ⟨file, mem, h, -⟩
  · exact .inl nil
  · exact .inr (.inr folder)
  · exact .inr (.inl ⟨file, mem, h⟩)

/-- What is reached is a file or a folder. -/
theorem Reaches.isFile_or_isFolder {q : Place} (h : d.Reaches q) :
    d.isFile q = true ∨ d.isFolder q = true := by
  rcases h with ⟨file, mem, h⟩ | folder
  · by_cases same : q = file.1
    · exact .inl (isFile_iff.2 ⟨file.2, same ▸ mem⟩)
    · have shorter : q.length < file.1.length :=
        Nat.lt_of_le_of_ne h.length_le fun length => same (h.eq_of_length length)
      exact .inr (isFolder_iff.2 (.inr (.inr ⟨file, mem, h, shorter⟩)))
  · exact .inr (isFolder_iff.2 (.inr (.inl folder)))

/-- A path can go on from a place. -/
def Passable (d : Disk) (q : Place) : Prop :=
  d.isFile q = false ∧ (q = [] ∨ d.Reaches q)

theorem isFile_position (d : Disk) (q : Place) : (d.position q).here.isFile [] = d.isFile q := by
  rw [Bool.eq_iff_iff, isFile_iff, isFile_iff]
  simp only [mem_files_position, List.append_nil]

theorem isEmpty_position (d : Disk) (q : Place) :
    ((d.position q).here.files.isEmpty && (d.position q).here.folders.isEmpty) = true ↔
      ¬d.Reaches q := by
  rw [Bool.and_eq_true, List.isEmpty_iff, List.isEmpty_iff, List.eq_nil_iff_forall_not_mem,
    List.eq_nil_iff_forall_not_mem, Reaches, not_or]
  refine and_congr ⟨?_, ?_⟩ ⟨?_, ?_⟩
  · rintro none ⟨⟨place, content⟩, mem, r, rfl⟩
    exact none (r, content) (mem_files_position.2 mem)
  · rintro none ⟨r, content⟩ mem
    exact none ⟨_, mem_files_position.1 mem, List.prefix_append q r⟩
  · rintro none ⟨folder, mem, r, rfl⟩
    exact none r (mem_folders_position.2 mem)
  · rintro none r mem
    exact none ⟨_, mem_folders_position.1 mem, List.prefix_append q r⟩

theorem follow_of_not_passable {q : Place} (h : ¬d.Passable q) (part : Text) (rest : List Text) :
    ∃ e, (d.position q).follow (part :: rest) = .error e := by
  rw [Position.follow, isFile_position]
  split
  · exact ⟨_, rfl⟩
  · next file =>
    have blocked : (!(d.position q).names.isEmpty && (d.position q).here.files.isEmpty &&
        (d.position q).here.folders.isEmpty) = true := by
      rw [Passable, not_and, not_or] at h
      obtain ⟨ne, unreached⟩ := h (by simpa using file)
      rw [Bool.and_assoc, Bool.and_eq_true, isEmpty_position, names_position]
      exact ⟨by simpa using ne, unreached⟩
    rw [if_pos blocked]
    exact ⟨_, rfl⟩

theorem follow_of_passable {q : Place} (h : d.Passable q) (part : Text) (rest : List Text) :
    (d.position q).follow (part :: rest) =
      if part = [] ∨ part = utf8 "." then (d.position q).follow rest
      else if part = utf8 ".." then (d.position q.dropLast).follow rest
      else if 255 < part.length then .error .nameTooLong
      else (d.position (q ++ [part])).follow rest := by
  have unblocked : ¬(!(d.position q).names.isEmpty && (d.position q).here.files.isEmpty &&
      (d.position q).here.folders.isEmpty) = true := by
    rw [Bool.and_assoc, Bool.and_eq_true, isEmpty_position, names_position, not_and, not_not]
    intro ne
    exact h.2.resolve_left (by simpa using ne)
  rw [Position.follow, isFile_position, h.1, if_neg Bool.false_ne_true, if_neg unblocked,
    up_position, position_concat]

/-- Paths mean the same on two disks that let pass at the same places. -/
theorem follow_congr (same : ∀ q, d'.Passable q ↔ d.Passable q) (parts : List Text) (q : Place) :
    (d'.position q).follow parts = .ok place ↔ (d.position q).follow parts = .ok place := by
  induction parts generalizing q with
  | nil => rw [Position.follow, Position.follow, names_position, names_position]
  | cons part rest ih =>
    by_cases pass : d.Passable q
    · rw [follow_of_passable pass, follow_of_passable ((same q).2 pass)]
      split
      · exact ih q
      · split
        · exact ih q.dropLast
        · split
          · exact Iff.rfl
          · exact ih (q ++ [part])
    · obtain ⟨e, blocked⟩ := follow_of_not_passable pass part rest
      obtain ⟨e', blocked'⟩ := follow_of_not_passable (mt (same q).1 pass) part rest
      rw [blocked, blocked']
      simp

theorem locate_congr (same : ∀ q, d'.Passable q ↔ d.Passable q) (path : Text) :
    d'.locate path = .ok place ↔ d.locate path = .ok place := by
  have start_eq (d : Disk) :
      d.start path = d.position (if path.head? = some 47 then [] else home) := by
    unfold start
    split <;> rfl
  rw [locate_eq_ok, locate_eq_ok, start_eq, start_eq]
  exact and_congr_right fun _ => follow_congr same _ _

/-! ## Contents -/

/-- The content of a file; where nothing can be read, there is none. -/
def content (d : Disk) (path : Text) : Bytes :=
  match d.readFile path with
  | .ok content => content
  | .error _ => []

theorem content_of_locate (h : d.locate path = .ok place) :
    d.content path = (d.files.lookup place).getD [] := by
  simp only [content, readFile, h]
  cases d.files.lookup place <;> rfl

theorem content_of_lost (h : ∀ place, d.locate path ≠ .ok place) : d.content path = [] := by
  cases located : d.locate path with
  | ok place => exact absurd located (h place)
  | error e => simp only [content, readFile, located]

theorem content_congr (same : ∀ q, d'.Passable q ↔ d.Passable q)
    (kept : ∀ place, d.locate path = .ok place →
      (d'.files.lookup place).getD [] = (d.files.lookup place).getD []) :
    d'.content path = d.content path := by
  cases located : d.locate path with
  | ok place =>
    rw [content_of_locate located, content_of_locate ((locate_congr same path).2 located)]
    exact kept place located
  | error e =>
    have lost (place : Place) : d.locate path ≠ .ok place := by simp [located]
    rw [content_of_lost lost]
    exact content_of_lost fun place => mt (locate_congr same path).1 (lost place)

/-- There is a file. -/
def HasFile (d : Disk) (path : Text) : Prop :=
  ∃ place, d.locate path = .ok place ∧ d.isFile place = true

/-! ## Opening -/

theorem openFile_cases (h : d.openFile path = .ok d') :
    ∃ place, d.locate path = .ok place ∧
      (d.isFile place = true ∧ d' = d ∨
        d.isFile place = false ∧ d.isFolder place = false ∧ d.isFolder place.dropLast = true ∧
          d' = { d with files := d.files ++ [(place, [])] }) := by
  unfold openFile at h
  cases located : d.locate path with
  | error e =>
    rw [located] at h
    cases h
  | ok place =>
    rw [located] at h
    refine ⟨place, rfl, ?_⟩
    simp only [bind, Except.bind, throw, throwThe, MonadExceptOf.throw, pure, Except.pure] at h
    split at h
    · cases h
    · next folder =>
      split at h
      · next file => exact .inl ⟨file, (Except.ok.inj h).symm⟩
      · next file =>
        split at h
        · cases h
        · next parent =>
          exact .inr ⟨by simpa using file, by simpa using folder, by simpa using parent,
            (Except.ok.inj h).symm⟩

theorem prefix_dropLast {q place : Place} (h : q <+: place) (ne : q ≠ place) :
    q <+: place.dropLast := by
  obtain ⟨r, rfl⟩ := h
  have rest : r ≠ [] := fun nil => ne (by rw [nil, List.append_nil])
  rw [List.dropLast_append_of_ne_nil rest]
  exact List.prefix_append _ _

/-- What a new file makes reachable has been on the way to its folder before. -/
theorem reaches_create (parent : d.isFolder place.dropLast = true) {q : Place} (ne : q ≠ place) :
    (q = [] ∨ Reaches { d with files := d.files ++ [(place, [])] } q) ↔ (q = [] ∨ d.Reaches q) := by
  constructor
  · rintro (nil | ⟨file, mem, h⟩ | folder)
    · exact .inl nil
    · rcases List.mem_append.1 mem with mem | mem
      · exact .inr (.inl ⟨file, mem, h⟩)
      · rw [List.mem_singleton.1 mem] at h
        have above := prefix_dropLast h ne
        rcases reaches_of_isFolder parent with nil | reached
        · rw [nil] at above
          exact .inl (List.prefix_nil.1 above)
        · exact .inr (reached.above above)
    · exact .inr (.inr folder)
  · rintro (nil | ⟨file, mem, h⟩ | folder)
    · exact .inl nil
    · exact .inr (.inl ⟨file, List.mem_append_left _ mem, h⟩)
    · exact .inr (.inr folder)

/-- A new file stands where nobody could pass, in a folder. -/
theorem passable_create (absent : d.isFile place = false) (free : d.isFolder place = false)
    (parent : d.isFolder place.dropLast = true) (q : Place) :
    Passable { d with files := d.files ++ [(place, [])] } q ↔ d.Passable q := by
  by_cases new : q = place
  · refine iff_of_false (fun h => ?_) fun h => ?_
    · simp [Passable, isFile, new] at h
    · rcases h.2 with nil | reached
      · rw [← new, isFolder_iff.2 (.inl nil)] at free
        cases free
      · rcases reached.isFile_or_isFolder with file | folder
        · rw [← new, file] at absent
          cases absent
        · rw [← new, folder] at free
          cases free
  · have file : isFile { d with files := d.files ++ [(place, [])] } q = d.isFile q := by
      simp [isFile, Ne.symm new]
    rw [Passable, Passable, file, reaches_create parent new]

theorem passable_openFile (h : d.openFile path = .ok d') (q : Place) :
    d'.Passable q ↔ d.Passable q := by
  obtain ⟨place, -, ⟨-, rfl⟩ | ⟨absent, free, parent, rfl⟩⟩ := openFile_cases h
  · exact Iff.rfl
  · exact passable_create absent free parent q

/-- Opening a file changes no content. -/
theorem content_openFile (h : d.openFile path = .ok d') (other : Text) :
    d'.content other = d.content other := by
  refine content_congr (passable_openFile h) fun q _ => ?_
  obtain ⟨place, -, ⟨-, rfl⟩ | ⟨-, -, -, rfl⟩⟩ := openFile_cases h
  · rfl
  · rw [List.lookup_append]
    cases d.files.lookup q with
    | some content => rfl
    | none => cases new : q == place <;> simp [List.lookup_cons, new]

theorem hasFile_openFile (h : d.openFile path = .ok d') : d'.HasFile path := by
  obtain ⟨place, located, ⟨file, rfl⟩ | ⟨absent, free, parent, rfl⟩⟩ := openFile_cases h
  · exact ⟨place, located, file⟩
  · refine ⟨place, (locate_congr (passable_create absent free parent) path).2 located, ?_⟩
    exact isFile_iff.2 ⟨[], List.mem_append_right _ (List.mem_singleton.2 rfl)⟩

/-! ## Appending -/

theorem append_of_locate (h : d.locate path = .ok place) (text : Bytes) :
    d.append path text = { d with files := d.files.map fun file =>
      if file.1 = place then (place, file.2 ++ text) else file } := by
  simp only [append, h]

theorem places_append (d : Disk) (path : Text) (text : Bytes) :
    (d.append path text).files.map (·.1) = d.files.map (·.1) ∧
      (d.append path text).folders = d.folders := by
  unfold append
  split
  · exact ⟨rfl, rfl⟩
  · next place _ =>
    refine ⟨?_, rfl⟩
    rw [List.map_map]
    refine List.map_congr_left fun file _ => ?_
    by_cases same : file.1 = place <;> simp [same]

theorem isFile_append (d : Disk) (path : Text) (text : Bytes) (q : Place) :
    (d.append path text).isFile q = d.isFile q := by
  have places (d : Disk) : d.isFile q = (d.files.map (·.1)).any (· == q) := by
    rw [isFile, List.any_map]
    rfl
  rw [places, places, (d.places_append path text).1]

theorem passable_append (d : Disk) (path : Text) (text : Bytes) (q : Place) :
    (d.append path text).Passable q ↔ d.Passable q := by
  have places (d : Disk) : d.Reaches q ↔ (∃ place ∈ d.files.map (·.1), q <+: place) ∨
      ∃ folder ∈ d.folders, q <+: folder := by
    simp [Reaches]
  rw [Passable, Passable, isFile_append, places, places, (d.places_append path text).1,
    (d.places_append path text).2]

theorem HasFile.append {other : Text} (there : d.HasFile other) (path : Text) (text : Bytes) :
    (d.append path text).HasFile other := by
  obtain ⟨place, located, file⟩ := there
  exact ⟨place, (locate_congr (passable_append d path text) other).2 located,
    (isFile_append d path text place).trans file⟩

theorem lookup_extend (files : List (Place × Bytes)) (place q : Place) (text : Bytes) :
    (files.map fun file => if file.1 = place then (place, file.2 ++ text) else file).lookup q =
      if q = place then (files.lookup q).map (· ++ text) else files.lookup q := by
  induction files with
  | nil => simp
  | cons file files ih =>
    rw [List.map_cons, List.lookup_cons, List.lookup_cons, ih]
    by_cases first : q = file.1
    · by_cases same : q = place <;> simp [← first, same]
    · have differ : (q == file.1) = false := beq_false_of_ne first
      by_cases same : file.1 = place
      · simp [← same, differ]
      · simp [same, differ]

/-- Appending to a file puts the text behind its content. -/
theorem content_append (there : d.HasFile path) (text : Bytes) :
    (d.append path text).content path = d.content path ++ text := by
  obtain ⟨place, located, file⟩ := there
  obtain ⟨content, held⟩ : ∃ content, d.files.lookup place = some content := by
    obtain ⟨content, mem⟩ := isFile_iff.1 file
    refine Option.ne_none_iff_exists'.1 fun none => ?_
    exact absurd (List.lookup_eq_none_iff.1 none _ mem) (by simp)
  rw [content_of_locate ((locate_congr (passable_append d path text) path).2 located),
    append_of_locate located, lookup_extend, if_pos rfl, content_of_locate located, held]
  rfl

/-- Appending to a file leaves the content of every other one. -/
theorem content_append_of_apart (text : Bytes) {other : Text}
    (apart : ∀ place, d.locate path = .ok place → d.locate other ≠ .ok place) :
    (d.append path text).content other = d.content other := by
  refine content_congr (passable_append d path text) fun q hq => ?_
  cases located : d.locate path with
  | error e => simp only [append, located]
  | ok place =>
    have ne : q ≠ place := fun same => apart place located (same ▸ hq)
    rw [append_of_locate located, lookup_extend, if_neg ne]

end Disk

end Teleop
