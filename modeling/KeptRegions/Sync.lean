import KeptRegions.Session

namespace KeptRegions

/-!
# Bringing files up to date

A generated text replaces the text of a file, except that the bodies of the regions that the mode
keeps stay as they are in the file. A file that is not there is made. A dry run does all this without
changing a file.
-/

/-- Which regions keep their bodies. -/
inductive Mode where
  /-- Those that are enabled. -/
  | merge
  /-- Those that are disabled. -/
  | fillIn
deriving DecidableEq

namespace Mode

/-- The name of a mode. -/
def name : Mode → String
  | merge => "merge"
  | fillIn => "fill-in"

/-- The mode of a name. -/
def ofName? (s : String) : Option Mode :=
  [merge, fillIn].find? fun m => m.name == s

/-- Whether a region keeps its body. -/
def keeps : Mode → Region → Bool
  | merge, r => r.enabled
  | fillIn, r => !r.enabled

end Mode

namespace Session

/-- The generated text with the bodies that the mode keeps taken from the existing one. The mode is
given by its name, which is looked at before the texts. -/
def reconcileTexts (reader : RegionReader) (mode : String) (generated existing : Text) :
    Session Text := do
  match Mode.ofName? mode with
  | none => throw (.unknownMode mode)
  | some mode =>
    let current ← read reader generated
    let previous ← read reader existing
    return (← reconcile mode.keeps current previous).content

/-- Brings the file at a path up to date. The mode matters only if the file is there. -/
def syncFile (reader : RegionReader) (mode : String) (dryRun : Bool) (target : String)
    (generated : Text) : Session Action := do
  let path := Path.ofString target
  if ← there path.toString then
    let existing ← readText .utf8 path.toString
    let renewed ← reconcileTexts reader mode generated existing
    if renewed = existing then
      note [.synced path.toString .unchanged]
      return .unchanged
    else
      unless dryRun do writeText path.toString renewed
      note [.synced path.toString .updated]
      return .updated
  else
    unless dryRun do
      makeDirectories path.parent
      writeText path.toString generated
    note [.synced path.toString .created]
    return .created

end Session

/-! ## Batches -/

/-- What became of the files of a batch, each list in the order of the batch. -/
structure SyncReport where
  created : List String
  updated : List String
  skipped : List String
  errors : List (String × String)
deriving DecidableEq

namespace SyncReport

/-- The report of no files. -/
def empty : SyncReport :=
  { created := [], updated := [], skipped := [], errors := [] }

/-- The report with another file in front that was brought up to date. -/
def add (r : SyncReport) (target : String) : Action → SyncReport
  | .created => { r with created := target :: r.created }
  | .updated => { r with updated := target :: r.updated }
  | .unchanged => { r with skipped := target :: r.skipped }

/-- The report with another file in front that was passed over. -/
def addError (r : SyncReport) (target message : String) : SyncReport :=
  { r with errors := (target, message) :: r.errors }

end SyncReport

/-- Whether a batch goes on with the next file after the failure: it does after faults of regions and
of files. -/
def Failure.isPassedOver : Failure → Bool
  | .region _ => true
  | .file _ => true
  | _ => false

/-- Brings the files of a batch up to date, one after the other. -/
def Session.syncFiles (reader : RegionReader) (mode : String) (dryRun : Bool) :
    List (String × Text) → Session SyncReport
  | [] => return .empty
  | (target, generated) :: rest => do
    match ← outcome (syncFile reader mode dryRun target generated) with
    | .ok action => return (← syncFiles reader mode dryRun rest).add target action
    | .error failure =>
      if failure.isPassedOver then
        note [.passedOver target failure.message]
        return (← syncFiles reader mode dryRun rest).addError target failure.message
      else throw failure

end KeptRegions
