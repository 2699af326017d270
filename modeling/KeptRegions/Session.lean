import KeptRegions.Config.Setup
import KeptRegions.Files.Tree
import KeptRegions.Journal
import KeptRegions.Text.Decoding

namespace KeptRegions

/-!
# Sessions

A session works on a file tree and keeps a journal. A step that fails leaves the tree and the journal
as they are at that moment. That need not be the tree the step started from: a file that was opened to
write to it has lost what it held.
-/

/-- Why a step of a session fails. -/
inductive Failure where
  | region (fault : RegionFault)
  | setup (fault : SetupFault)
  | file (fault : FileFault)
  | decode (fault : DecodeFault)
  | load (fault : LoadFault)
  | unknownMode (name : String)
  /-- A path has a character of code zero, which no file name can have. -/
  | nullInPath
  /-- A path is needed and none was given. -/
  | noPath
  /-- A path starts at the home directory of a user who has none. -/
  | noHome
  /-- A text has a character that cannot be printed. -/
  | unprintable (message : String)

namespace Failure

/-- The number and wording of a failed operation on a file, and the path if it is told. -/
def fileMessage (fault : FileFault) : String :=
  "[Errno " ++ toString fault.cause.number ++ "] " ++ fault.cause.wording ++
    match fault.path with
    | some path => ": " ++ Text.quoted path.toList
    | none => ""

/-- The message of a failure. -/
def message : Failure → String
  | region fault => fault.message
  | setup fault => fault.message
  | file fault => fileMessage fault
  | decode fault => fault.message
  | load fault => fault.message
  | unknownMode name => "Unknown sync mode '" ++ name ++ "' (valid: merge, fill-in)"
  | nullInPath => "embedded null byte"
  | noPath => "expected str, bytes or os.PathLike object, not list"
  | noHome => "Could not determine home directory."
  | unprintable message => message

/-- Whether the failure is one that a command reports and ends with: a fault of a text, of the
configuration, or of a file. -/
def isReported : Failure → Bool
  | region _ => true
  | setup (.config _) => true
  | setup (.kind _) => false
  | setup (.uncovered _) => false
  | file _ => true
  | decode _ => false
  | load .form => true
  | load _ => false
  | unknownMode _ => false
  | nullInPath => false
  | noPath => false
  | noHome => false
  | unprintable _ => false

end Failure

/-- What a session works on. -/
structure World where
  tree : FileTree
  journal : List Event

/-- Steps of a session. -/
abbrev Session := ExceptT Failure (StateM World)

namespace Session

/-- Runs steps on a file tree, with an empty journal. -/
def runOn {α : Type} (s : Session α) (tree : FileTree) : Except Failure α × World :=
  s.run.run { tree, journal := [] }

/-- What steps come to, be it a failure. -/
def outcome {α : Type} (s : Session α) : Session (Except Failure α) :=
  ExceptT.lift s.run

/-- A result that may be a fault. -/
def lift {ε α : Type} (wrap : ε → Failure) : Except ε α → Session α
  | .ok a => pure a
  | .error e => throw (wrap e)

/-- Adds entries to the journal. -/
def note (events : List Event) : Session Unit :=
  modify fun w => { w with journal := w.journal ++ events }

/-! ## Files -/

/-- A path that is needed. -/
def required (path : Option String) : Session String :=
  match path with
  | some path => pure path
  | none => throw .noPath

/-- Fails for a path that has a character of code zero. -/
def checkPath (path : String) : Session Unit :=
  if hasNull path then throw .nullInPath else pure ()

/-- The bytes of the file at a path. -/
def readBytes (path : String) : Session ByteArray := do
  checkPath path
  lift .file ((← get).tree.read path)

/-- The text of the file at a path. -/
def readText (encoding : Encoding) (path : String) : Session Text := do
  lift .decode (encoding.decode (← readBytes path))

/-- Whether there is something at a path. -/
def there (path : String) : Session Bool := do
  lift (fun cause => .file (.of cause path)) ((← get).tree.has path)

/-- Changes the files, as far as that goes. -/
def change (f : FileTree → FileTree × Option FileFault) : Session Unit := do
  let (tree, fault) := f (← get).tree
  modify ({ · with tree })
  match fault with
  | none => return ()
  | some fault => throw (.file fault)

/-- Writes a text to the file at a path. -/
def writeText (path : String) (text : Text) : Session Unit := do
  checkPath path
  change (·.write path (Utf8.encode text))

/-- Makes the directory at a path and those above it. -/
def makeDirectories (path : Path) : Session Unit := do
  checkPath path.toString
  change (·.makeDirectories (path.names.length + 1) path)

/-! ## Documents -/

/-- Reads a text as a document. -/
def read (reader : RegionReader) (text : Text) : Session Document := do
  let d ← lift .region (reader.read text)
  note [.ofDocument d]
  return d

/-- Reads a file as a document. -/
def readDocument (reader : RegionReader) (encoding : Encoding) (path : String) : Session Document := do
  read reader (← readText encoding path)

/-- Reconciles two documents. -/
def reconcile (keep : Region → Bool) (current previous : Document) : Session Document := do
  note (Event.ofReconciling current previous keep)
  lift .region (current.reconcile previous keep)

end Session

end KeptRegions
