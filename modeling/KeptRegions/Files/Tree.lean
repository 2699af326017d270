import KeptRegions.Files.Path

namespace KeptRegions

/-!
# Files

A file tree holds directories and the bytes of regular files, and has a working directory. Operations
follow a path name by name, through directories only, and fail as a path does that leads nowhere,
through a file, to a directory or to something that is there already.

What the system refuses for other reasons, such as permissions or a device that is full, is part of the
tree as well, and nothing is assumed of it. To write is to open a file, which makes or empties it, and
then to store the bytes; each of the two may fail. The same operation on the same tree is refused alike,
and a location has one path from the root: other links to it are not part of a tree.
-/

/-- The names on the way from the root. -/
abbrev Location := List String

/-- What a location holds. -/
inductive Entry where
  | directory
  | file (bytes : ByteArray)

instance : DecidableEq Entry
  | .directory, .directory => isTrue rfl
  | .file a, .file b =>
    if h : a.data = b.data then isTrue (congrArg Entry.file (ByteArray.ext h))
    else isFalse fun e => h (by cases e; rfl)
  | .directory, .file _ => isFalse nofun
  | .file _, .directory => isFalse nofun

/-! ## Faults -/

/-- Why an operation on a file fails. -/
structure FileFault.Cause where
  number : Nat
  wording : String
deriving DecidableEq

namespace FileFault.Cause

/-- A path leads nowhere. -/
def notFound : FileFault.Cause :=
  { number := 2, wording := "No such file or directory" }

/-- There is something already where something new is to be made. -/
def alreadyThere : FileFault.Cause :=
  { number := 17, wording := "File exists" }

/-- A path leads through a file. -/
def notDirectory : FileFault.Cause :=
  { number := 20, wording := "Not a directory" }

/-- A path leads to a directory where a file is needed. -/
def isDirectory : FileFault.Cause :=
  { number := 21, wording := "Is a directory" }

/-- Whether the cause is that something is not there. -/
def isNotFound (cause : FileFault.Cause) : Bool :=
  cause.number = notFound.number

/-- Whether a path that cannot be followed for this cause counts as one where nothing is. Besides a
path that leads nowhere or through a file, this is one of a file that is not open any more, and one
that leads in a circle. -/
def meansAbsent (cause : FileFault.Cause) : Bool :=
  [notFound.number, 9, notDirectory.number, 40].contains cause.number

end FileFault.Cause

/-- A failed operation on a file. Once the file is open its path is not told. -/
structure FileFault where
  cause : FileFault.Cause
  path : Option String
deriving DecidableEq

/-- The fault of an operation on a path. -/
def FileFault.of (cause : FileFault.Cause) (path : String) : FileFault :=
  { cause, path := some path }

/-- What the system refuses for reasons that the entries of a tree do not give. -/
structure Refusals where
  /-- To follow a name from a directory. -/
  follow : Location → String → Option FileFault.Cause := fun _ _ => none
  /-- To open what is at a location for reading. -/
  read : Location → Option FileFault.Cause := fun _ => none
  /-- To hand out the bytes of a file that was opened. -/
  fetch : Location → Option FileFault.Cause := fun _ => none
  /-- To open the file at a location for writing. -/
  write : Location → Option FileFault.Cause := fun _ => none
  /-- To make a file or a directory at a location. -/
  make : List (Location × Entry) → Location → Option FileFault.Cause := fun _ _ => none
  /-- To store all of some bytes in the file at a location. The number says how many are stored. -/
  store : List (Location × Entry) → Location → ByteArray → Option (Nat × FileFault.Cause) :=
    fun _ _ _ => none

/-- Directories and files by their locations, and what the system refuses. The root is a directory in
any case. -/
structure FileTree where
  cwd : Location
  entries : List (Location × Entry)
  refusals : Refusals := {}

namespace FileTree

/-- What a location holds. -/
def entry? (t : FileTree) (l : Location) : Option Entry :=
  if l.isEmpty then some .directory else t.entries.lookup l

/-- Puts an entry at a location. -/
def put (t : FileTree) (l : Location) (e : Entry) : FileTree :=
  { t with entries := (l, e) :: t.entries.filter fun (m, _) => m ≠ l }

/-- Whether a location holds a directory. -/
def isDirectory (t : FileTree) (l : Location) : Bool :=
  t.entry? l = some .directory

/-! ## Paths -/

/-- Where a name leads to from a directory. -/
def next (l : Location) (name : String) : Location :=
  if name = "" || name = "." then l else if name = ".." then l.dropLast else l ++ [name]

/-- Follows a name from a location, where a directory has to be. An empty name, as behind a slash, is
not looked up, so that this cannot be refused. -/
def follow (t : FileTree) (l : Location) (name : String) : Except FileFault.Cause Location :=
  match t.entry? l with
  | none => .error .notFound
  | some (.file _) => .error .notDirectory
  | some .directory =>
    match if name = "" then none else t.refusals.follow l name with
    | none => .ok (next l name)
    | some cause => .error cause

/-- The location that names lead to from a location. All but the last have to lead to directories. -/
def walk (t : FileTree) (l : Location) (names : List String) : Except FileFault.Cause Location :=
  names.foldlM t.follow l

/-- The location of a path. The empty path leads nowhere. -/
def locate (t : FileTree) (path : String) : Except FileFault.Cause Location :=
  if path = "" then .error .notFound
  else t.walk (if path.startsWith "/" then [] else t.cwd) (Path.components path)

/-- What is at a path. -/
def find (t : FileTree) (path : String) : Except FileFault.Cause (Option Entry) :=
  if hasNull path then .ok none
  else
    match t.locate path with
    | .ok l => .ok (t.entry? l)
    | .error cause => if cause.meansAbsent then .ok none else .error cause

/-- Whether a path leads to a file or directory. -/
def has (t : FileTree) (path : String) : Except FileFault.Cause Bool :=
  Option.isSome <$> t.find path

/-- Whether a path leads to a directory. -/
def hasDirectory (t : FileTree) (path : String) : Except FileFault.Cause Bool :=
  (fun found => found = some .directory) <$> t.find path

/-- Whether a path leads to a regular file. -/
def hasFile (t : FileTree) (path : String) : Except FileFault.Cause Bool :=
  (fun found => found.isSome && found ≠ some .directory) <$> t.find path

/-! ## Reading -/

/-- Opens the file at a path for reading: its location and its bytes. -/
def openToRead (t : FileTree) (path : String) : Except FileFault.Cause (Location × ByteArray) := do
  let l ← t.locate path
  match t.entry? l, t.refusals.read l with
  | none, _ => throw .notFound
  | some _, some cause => throw cause
  | some .directory, none => throw .isDirectory
  | some (.file bytes), none => return (l, bytes)

/-- The bytes of the file at a path. -/
def read (t : FileTree) (path : String) : Except FileFault ByteArray :=
  match t.openToRead path with
  | .error cause => .error (.of cause path)
  | .ok (l, bytes) =>
    match t.refusals.fetch l with
    | none => .ok bytes
    | some cause => .error { cause, path := none }

/-! ## Writing -/

/-- Why no file can be opened for writing at a location. -/
def writeRefusal? (t : FileTree) (l : Location) : Option FileFault.Cause :=
  match t.entry? l with
  | some .directory => some .isDirectory
  | some (.file _) => t.refusals.write l
  | none => t.refusals.make t.entries l

/-- Opens the file at a path for writing: its location, and the tree in which it is empty. A file that
is not there is made. A path that ends with a slash is one of a directory, be there one or not. -/
def openToWrite (t : FileTree) (path : String) : Except FileFault.Cause (Location × FileTree) := do
  if path.endsWith "/" then
    let bare := String.ofList (path.toList.reverse.dropWhile (· = '/')).reverse
    if bare ≠ "" then
      let _ ← t.locate bare
    throw .isDirectory
  else
    let l ← t.locate path
    match t.writeRefusal? l with
    | some cause => throw cause
    | none => return (l, t.put l (.file .empty))

/-- Stores bytes in the file at a location. If not all of them are stored the others are lost. -/
def store (t : FileTree) (l : Location) (bytes : ByteArray) : FileTree × Option FileFault.Cause :=
  match t.refusals.store t.entries l bytes with
  | none => (t.put l (.file bytes), none)
  | some (count, cause) => (t.put l (.file (bytes.extract 0 count)), some cause)

/-- Writes bytes to the file at a path. A file that was opened stays as it is then, whatever becomes of
the bytes. -/
def write (t : FileTree) (path : String) (bytes : ByteArray) : FileTree × Option FileFault :=
  match t.openToWrite path with
  | .error cause => (t, some (.of cause path))
  | .ok (l, t) =>
    match t.store l bytes with
    | (t, none) => (t, none)
    | (t, some cause) => (t, some { cause, path := none })

/-! ## Making directories -/

/-- The tree with a new directory at a path. -/
def makeDirectory (t : FileTree) (path : String) : Except FileFault.Cause FileTree := do
  let l ← t.locate path
  match t.entry? l, t.refusals.make t.entries l with
  | some _, _ => throw .alreadyThere
  | none, some cause => throw cause
  | none, none => return t.put l .directory

/-- The fault of a directory that could not be made. There is none if it is there. -/
def unlessThere (t : FileTree) (path : String) (cause : FileFault.Cause) : Option FileFault :=
  match t.hasDirectory path with
  | .ok true => none
  | .ok false => some (.of cause path)
  | .error cause => some (.of cause path)

/-- The tree with a directory at a path and at all paths above it. It does not matter if some are
there already. What was made stays, also if a later step fails; then the path that failed is named.
-/
def makeDirectories (t : FileTree) : Nat → Path → FileTree × Option FileFault
  | 0, p => (t, some (.of .notFound p.toString))
  | bound + 1, p =>
    match t.makeDirectory p.toString with
    | .ok t => (t, none)
    | .error cause =>
      if !cause.isNotFound then (t, t.unlessThere p.toString cause)
      else if p.names.isEmpty then (t, some (.of cause p.toString))
      else
        match t.makeDirectories bound p.parent with
        | (t, some fault) => (t, some fault)
        | (t, none) =>
          match t.makeDirectory p.toString with
          | .ok t => (t, none)
          | .error cause =>
            if cause.isNotFound then (t, some (.of cause p.toString))
            else (t, t.unlessThere p.toString cause)

end FileTree

end KeptRegions
