import KeptRegions.CommandLine.Arguments
import KeptRegions.CommandLine.Listing
import KeptRegions.Config.Load
import KeptRegions.Sync

namespace KeptRegions

/-!
# Commands

The commands of the program and what each does. A command either ends with a status and what is to be
printed, or fails; then nothing is.
-/

/-- A command with its arguments. -/
inductive Command where
  /-- Prints or writes the current file with the bodies that the mode keeps from the previous one,
  whose path may have been left out. -/
  | reconcile (mode : Mode) (current : String) (previous output : Option String)
  /-- Lists the regions of a file. -/
  | regions (file : String) (json : Bool)
  /-- Says of each file whether it can be read. -/
  | check (files : List String)
  /-- Brings a file up to date, whose path may have been left out. -/
  | sync (generated : String) (target : Option String) (mode : Mode) (dryRun : Bool)
  /-- Lists the presets. -/
  | presets
deriving DecidableEq

/-- A command line that was understood: the options for all commands, and the command. -/
structure Invocation where
  preset : Option String
  config : Option String
  verbose : Bool
  command : Command
deriving DecidableEq

/-- The paths that a command is given. -/
def Command.paths : Command → List String
  | reconcile _ current previous output => current :: previous.toList ++ output.toList
  | regions file _ => [file]
  | check files => files
  | sync generated target _ _ => generated :: target.toList
  | presets => []

namespace Invocation

/-- The options for all commands. -/
def mainSwitches : List Switch :=
  [ { long := "preset", short := none, takesValue := true },
    { long := "config", short := none, takesValue := true },
    { long := "verbose", short := some 'v', takesValue := false } ]

/-- What a command takes, by its name. -/
def grammar? (name : String) : Option Grammar :=
  let output : Switch := { long := "output", short := some 'o', takesValue := true }
  let flag (long : String) : Switch := { long, short := none, takesValue := false }
  match name with
  | "merge" | "fill-in" => some { switches := [output], operands := .exactly 2 }
  | "regions" => some { switches := [flag "json"], operands := .exactly 1 }
  | "check" => some { switches := [], operands := .some }
  | "sync" => some { switches := [flag "fill-in", flag "dry-run"], operands := .exactly 2 }
  | "presets" => some { switches := [], operands := .exactly 0 }
  | _ => none

/-- The command of a name and its words. -/
def command? (name : String) (w : Words) : Option Command :=
  match name, w.operands with
  | "merge", [some current, previous] =>
    some (.reconcile .merge current previous (w.value? "output"))
  | "fill-in", [some current, previous] =>
    some (.reconcile .fillIn current previous (w.value? "output"))
  | "regions", [some file] => some (.regions file (w.has "json"))
  | "check", _ => some (.check w.present)
  | "sync", [some generated, target] =>
    some (.sync generated target (if w.has "fill-in" then .fillIn else .merge) (w.has "dry-run"))
  | "presets", [] => some .presets
  | _, _ => none

/-- What the program takes: the options for all commands, and a command with its words. -/
def grammar : Grammar :=
  { switches := mainSwitches, operands := .command }

/-- The command that some words stand for. -/
def readCommand (words : List String) : Except Refusal Command :=
  match words with
  | [] => .error .help
  | name :: words => do
    match grammar? name with
    | none => .error .misuse
    | some g =>
      match command? name (← g.read words) with
      | none => .error .misuse
      | some command => .ok command

/-- The invocation that the words of a command line stand for. Without a command help is given, but
words that are left over are a misuse even then. -/
def ofArguments (arguments : List String) : Except Refusal Invocation := do
  let w ← grammar.readLoosely arguments
  match w.strays, readCommand w.present with
  | true, .error .help => .error (if w.operands.isEmpty then .misuse else .help)
  | true, _ => .error .misuse
  | false, .error refusal => .error refusal
  | false, .ok command =>
    .ok
      { preset := w.value? "preset", config := w.value? "config"
        verbose := w.has "verbose", command }

end Invocation

/-! ## Carrying out commands -/

/-- What a command has to say and the status it ends with. -/
structure Report where
  output : String
  status : Nat
deriving DecidableEq

namespace Command

/-- A report of success. -/
def done (output : String) : Report :=
  { output, status := 0 }

/-- What `check` says of one file. -/
def checkFile (reader : RegionReader) (path : String) : Session (Bool × String) := do
  match ← Session.outcome (Session.readDocument reader .utf8 path) with
  | .ok d => return (true, "  ✓ " ++ path ++ ": " ++ toString d.ids.length ++ " regions\n")
  | .error failure => return (false, "  ✗ " ++ path ++ ": " ++ failure.message ++ "\n")

/-- Prints or writes the content that two files are reconciled to. -/
def runReconcile (reader : RegionReader) (mode : Mode) (current : String)
    (previous output : Option String) : Session Report := do
  let current ← Session.readDocument reader .utf8 current
  let previous ← Session.readDocument reader .utf8 (← Session.required previous)
  let result ← Session.reconcile mode.keeps current previous
  match output.filter (· ≠ "") with
  | none => return done (Text.toStr result.content)
  | some path => do
    Session.writeText path result.content
    return done ""

/-- Lists the regions of a file. -/
def runRegions (reader : RegionReader) (file : String) (json : Bool) : Session Report := do
  let d ← Session.readDocument reader .utf8 file
  return done (if json then regionJson d.regions else regionTable file d.regions)

/-- Says of each file whether it can be read, and fails in the end if one cannot. -/
def runCheck (reader : RegionReader) (files : List String) : Session Report := do
  let results ← files.mapM (checkFile reader)
  let good := (results.filter Prod.fst).length
  pure
    { output :=
        String.join (results.map Prod.snd) ++ "\n" ++ toString good ++ "/" ++ toString files.length
          ++ " files parsed cleanly\n"
      status := if good = files.length then 0 else 1 }

/-- Brings a file up to date with the text of another one. -/
def runSync (reader : RegionReader) (generated : String) (target : Option String) (mode : Mode)
    (dryRun : Bool) : Session Report := do
  let text ← Session.readText .utf8 generated
  let target ← Session.required target
  let action ← Session.syncFile reader mode.name dryRun target text
  return done
    (target ++ ": " ++ action.name ++ "\n"
      ++ if dryRun then "\n[DRY RUN] No files were modified.\n" else "")

/-- Carries out a command with a reader. -/
def runWith (reader : RegionReader) : Command → Session Report
  | reconcile mode current previous output => runReconcile reader mode current previous output
  | regions file json => runRegions reader file json
  | check files => runCheck reader files
  | sync generated target mode dryRun => runSync reader generated target mode dryRun
  | presets => return done presetTable

end Command

/-- Carries out an invocation. All commands but the list of presets need a reader first. -/
def Invocation.run (env : Environment) (i : Invocation) : Session Report := do
  match i.command with
  | .presets => return Command.done presetTable
  | command =>
    let setup ← Session.resolve env i.config i.preset
    command.runWith setup.reader

end KeptRegions
