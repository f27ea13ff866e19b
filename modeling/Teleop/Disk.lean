import Teleop.Bytes

/-!
# Files

A host with files and folders, and a directory in which paths start. Paths are resolved part by
part; every part but the last has to be a folder. Next to nothing is known about what there is
outside the directory.

* `readFile`, `openFile`, `append`, `makeFolders` and `removeFolder` are the operations;
* `cleanPath` is the shortest path that means the same, `joinPath` puts a name behind a folder.
-/

namespace Teleop

/-- Why a path cannot be used. -/
inductive PathError where
  | notFound
  | notFolder
  | isFolder
  | taken
  | nameTooLong
  | denied
  | invalid
  deriving DecidableEq, Repr

def PathError.message : PathError → String
  | notFound => "no such file or directory"
  | notFolder => "not a directory"
  | isFolder => "is a directory"
  | taken => "file exists"
  | nameTooLong => "file name too long"
  | denied => "permission denied"
  | invalid => "invalid argument"

/-- The text of a failed operation on a path. -/
def PathError.describe (e : PathError) (operation : String) (path : Text) : Text :=
  utf8 operation ++ utf8 " " ++ path ++ utf8 ": " ++ utf8 e.message

/-! ## Paths -/

/-- The parts of a path between slashes. -/
def pathParts (path : Text) : List Text :=
  splitAt 47 path

/-- The parts that are left after blanks, points and steps up have been worked off; the latest part
comes first. A step up from the start stays unless the path is absolute. -/
def cleanParts (absolute : Bool) : List Text → List Text → List Text
  | done, [] => done
  | done, part :: rest =>
    if part = [] ∨ part = utf8 "." then cleanParts absolute done rest
    else if part = utf8 ".." then
      match done with
      | last :: before =>
        if last = utf8 ".." then cleanParts absolute (part :: done) rest
        else cleanParts absolute before rest
      | [] => cleanParts absolute (if absolute then [] else [part]) rest
    else cleanParts absolute (part :: done) rest

/-- The shortest path that means the same. -/
def cleanPath (path : Text) : Text :=
  let absolute := path.head? = some 47
  let parts := (cleanParts absolute [] (pathParts path)).reverse
  let joined := joinWith (utf8 "/") parts
  if absolute then utf8 "/" ++ joined
  else if parts.isEmpty then utf8 "."
  else joined

/-- The path of a name in a folder. -/
def joinPath (folder name : Text) : Text :=
  if folder.isEmpty then cleanPath name else cleanPath (folder ++ utf8 "/" ++ name)

/-! ## Storage -/

/-- A place, as the names on the way to it from the root. -/
abbrev Place := List Text

/-- The directory in which paths start. -/
def home : Place := [utf8 "tmp", utf8 "linkctl"]

/-- The files and folders of a host. What is on the way to something is a folder, too, so only the
last ones need to be listed. -/
structure Disk where
  files : List (Place × Bytes) := []
  folders : List Place := [home]
  deriving DecidableEq, Repr

namespace Disk

def isFile (d : Disk) (p : Place) : Bool :=
  d.files.any (·.1 == p)

/-- The root, and everything on the way to something, is a folder. -/
def isFolder (d : Disk) (p : Place) : Bool :=
  p.isEmpty || d.folders.any (p.isPrefixOf ·) ||
    d.files.any fun (q, _) => p.isPrefixOf q && p.length < q.length

/-- What lies below a name, by the rest of the way to it. -/
def below (d : Disk) (name : Text) : Disk :=
  let after (p : Place) : Option Place := match p with
    | first :: rest => if first = name then some rest else none
    | [] => none
  { files := d.files.filterMap fun (p, content) => (after p).map (·, content)
    folders := d.folders.filterMap after }

/-- A place that has been reached: `here` is what lies below it, `above` what lies below those on
the way to it, and `names` leads back from it. -/
structure Position where
  here : Disk
  above : List Disk := []
  names : List Text := []

namespace Position

/-- One step down, to something that need not be there. -/
def down (p : Position) (name : Text) : Position :=
  ⟨p.here.below name, p.here :: p.above, name :: p.names⟩

/-- One step up; above the root is the root. -/
def up (p : Position) : Position :=
  match p.above, p.names with
  | before :: earlier, _ :: back => ⟨before, earlier, back⟩
  | _, _ => p

/-- Follows the parts of a path. -/
def follow (p : Position) : List Text → Except PathError Place
  | [] => .ok p.names.reverse
  | part :: rest =>
    if p.here.isFile [] then .error .notFolder
    else if !p.names.isEmpty && p.here.files.isEmpty && p.here.folders.isEmpty then
      .error .notFound
    else if part = [] ∨ part = utf8 "." then p.follow rest
    else if part = utf8 ".." then p.up.follow rest
    else if 255 < part.length then .error .nameTooLong
    else (p.down part).follow rest

end Position

/-- Where a path starts. -/
def start (d : Disk) (path : Text) : Position :=
  let root : Position := { here := d }
  if path.head? = some 47 then root else home.foldl Position.down root

/-- The place that a path means; whether anything is there is another question. -/
def locate (d : Disk) (path : Text) : Except PathError Place :=
  if path.contains 0 then .error .invalid
  else if path.isEmpty then .error .notFound
  else if 4096 ≤ path.length then .error .nameTooLong
  else (d.start path).follow (pathParts path)

/-- The content of a file, or which operation fails and why. A folder can be opened but not
read. -/
def readFile (d : Disk) (path : Text) : Except (String × PathError) Bytes :=
  match d.locate path with
  | .error e => .error ("open", e)
  | .ok place =>
    match d.files.lookup place with
    | some content => .ok content
    | none => .error (if d.isFolder place then ("read", .isFolder) else ("open", .notFound))

/-- Opens a file for appending; it is made if there is none. -/
def openFile (d : Disk) (path : Text) : Except PathError Disk := do
  let place ← d.locate path
  if d.isFolder place then throw .isFolder
  if d.isFile place then return d
  if !d.isFolder place.dropLast then throw .notFound
  return { d with files := d.files ++ [(place, [])] }

/-- Appends to a file that is open; one that has been removed meanwhile stays away. -/
def append (d : Disk) (path : Text) (text : Bytes) : Disk :=
  match d.locate path with
  | .error _ => d
  | .ok place =>
    { d with files := d.files.map fun file =>
        if file.1 = place then (place, file.2 ++ text) else file }

/-! ## Making folders -/

/-- A path without the slashes at its end. -/
def trimSlashes (path : Text) : Text :=
  (path.reverse.dropWhile (· = 47)).reverse

/-- The path of the folder that a path lies in, if it names one. -/
def parentPath (path : Text) : Text :=
  (((trimSlashes path).reverse.dropWhile (· ≠ 47)).drop 1).reverse

/-- What a path means satisfies a condition. -/
def holds (d : Disk) (path : Text) (p : Place → Bool) : Bool :=
  match d.locate path with
  | .ok place => p place
  | .error _ => false

/-- A disk that also has a folder; those on the way to it need no entries of their own. -/
def addFolder (d : Disk) (place : Place) : Disk :=
  { d with folders := place :: d.folders.filter (!·.isPrefixOf place) }

/-- Makes one folder, unless it is there. -/
def makeFolder (d : Disk) (path : Text) : Except PathError Disk := do
  if 4096 ≤ path.length then throw .nameTooLong
  let place ← d.locate (trimSlashes path)
  if d.isFolder place then return d
  if d.isFile place then throw .taken
  return d.addFolder place

/-- Makes a folder and those on the way to it, of which there are fewer than `fuel`. A failure goes
with the path of the folder that could not be made. -/
def makeFoldersWithin : Nat → Disk → Text → Except (Text × PathError) Disk
  | 0, _, path => .error (path, .notFound)
  | fuel + 1, d, path =>
    if d.holds path d.isFolder then .ok d
    else if d.holds path d.isFile then .error (path, .notFolder)
    else do
      let parent := parentPath path
      let d ← if parent.isEmpty then .ok d else makeFoldersWithin fuel d parent
      (d.makeFolder path).mapError (path, ·)

/-- Makes a folder and those on the way to it. -/
def makeFolders (d : Disk) (path : Text) : Except (Text × PathError) Disk :=
  makeFoldersWithin (path.length + 1) d path

/-- Removes a folder and everything in it. -/
def removeFolder (d : Disk) (path : Text) : Disk :=
  match d.locate path with
  | .error _ => d
  | .ok place =>
    { files := d.files.filter fun (p, _) => !place.isPrefixOf p
      folders := place.dropLast :: d.folders.filter fun p => !place.isPrefixOf p }

/-! ## Views -/

/-- The files in the directory, by their paths. -/
def list (d : Disk) : List (Text × Bytes) :=
  (home.foldl below d).files.map fun (place, content) => (joinWith (utf8 "/") place, content)

/-- The place of a path on a disk that has all the folders on the way. -/
def placeOf (path : Text) : Place :=
  let start := if path.head? = some 47 then [] else home.reverse
  (cleanParts true start (pathParts path)).reverse

/-- A host with some files and folders, given by their paths, besides what every host has: a few
folders, and a file that stays empty. -/
def ofFiles (files : List (Text × Bytes)) (folders : List Text := []) : Disk :=
  let given := files.map fun (path, content) => (placeOf path, content)
  { files := given ++ [(placeOf (utf8 "/dev/null"), [])]
    folders := folders.map placeOf ++ home ::
      ["/etc", "/proc", "/usr"].map fun path => placeOf (utf8 path) }

end Disk

end Teleop
