import KeptRegions.CommandLine.Run
import KeptRegions.Yaml.Value

/-!
# The program

A run takes the words of a command line to what is printed and to the files as they are afterwards.
What is left to do here is to fetch the files that the words name, to run, to store the files that
have changed, and to print.
-/

namespace KeptRegions.Program

/-- The first line of the texts about usage. -/
def usageLine : String :=
  "usage: protected-regions [-h] [--preset NAME] [--config PATH] [-v] COMMAND ..."

/-- The text for help. -/
def help : String :=
  String.join <| List.map (· ++ "\n")
    [ usageLine
    , ""
    , "Keep hand-written edits in marked regions across code regeneration."
    , ""
    , "commands:"
    , "  merge CURRENT PREVIOUS [-o OUT]      keep the previous bodies of enabled regions"
    , "  fill-in CURRENT PREVIOUS [-o OUT]    keep the previous bodies of disabled regions"
    , "  regions FILE [--json]                list the marked regions of a file"
    , "  check FILE...                        verify that files parse cleanly"
    , "  sync GENERATED TARGET [--fill-in] [--dry-run]"
    , "                                       write generated output, keeping edits"
    , "  presets                              list the comment grammar presets"
    , ""
    , "options:"
    , "  -h, --help       show this text"
    , "  --preset NAME    comment grammar preset (see 'presets')"
    , "  --config PATH    configuration file"
    , "  -v, --verbose    show the journal of the run" ]

/-- The text about wrong usage. -/
def misuse : String :=
  usageLine ++ "\nprotected-regions: error: these arguments cannot be understood\n"

/-- A location as an absolute path. -/
def absolute (l : Location) : String :=
  "/" ++ String.intercalate "/" l

/-! ## Fetching and storing files -/

/-- The tree with what is at a location on disk. A directory shows by its having no bytes to read. Of a
file that may not be read nothing is known but that. -/
def fetchInto (t : FileTree) (l : Location) : IO FileTree := do
  match ← (IO.FS.readBinFile (absolute l)).toBaseIO with
  | .ok bytes => return t.put l (.file bytes)
  | .error (.inappropriateType ..) => return t.put l .directory
  | .error (.permissionDenied _ code wording) =>
    let cause : FileFault.Cause := { number := code.toNat, wording }
    let read := fun m => if m = l then some cause else t.refusals.read m
    return { t.put l (.file .empty) with refusals := { t.refusals with read } }
  | .error _ => return t

/-- The tree with what is on disk on the way along names from a location. -/
def fetchAlong (t : FileTree) (l : Location) : List String → IO FileTree
  | [] => fetchInto t l
  | name :: rest => do
    let t ← fetchInto t l
    fetchAlong t (FileTree.next l name) rest

/-- The tree with what is on disk on the way along a path. -/
def fetchPath (t : FileTree) (path : String) : IO FileTree :=
  fetchAlong t (if path.startsWith "/" then [] else t.cwd) (Path.components path)

/-- The paths that a run may look at. -/
def pathsOf (env : Environment) (arguments : List String) : List String :=
  let configs :=
    [Environment.localName]
      ++ env.config.toList.filterMap fun path =>
        ((Path.ofString path).expandHome? env.homes).map Path.toString
  match Invocation.ofArguments arguments with
  | .ok i => configs ++ i.config.toList ++ i.command.paths
  | .error _ => []

/-- Stores what a run has changed. Directories come before what is in them, as their locations are
shorter. -/
def store (before after : FileTree) : IO Unit := do
  let changed := after.entries.filter fun (l, e) => before.entry? l ≠ some e
  for (l, e) in changed.mergeSort fun a b => a.1.length ≤ b.1.length do
    match e with
    | .directory => IO.FS.createDirAll (absolute l)
    | .file bytes => IO.FS.writeBinFile (absolute l) bytes

/-- Runs the program on the files on disk. -/
def run (arguments : List String) : IO UInt32 := do
  let home ← IO.getEnv "HOME"
  let env : Environment :=
    { config := ← IO.getEnv "PROTECTED_REGIONS_CONFIG"
      preset := ← IO.getEnv "PROTECTED_REGIONS_PRESET"
      homes := fun user => if user = "" then home else none
      load := Yaml.load }
  let cwd := (Path.ofString (← IO.currentDir).toString).names
  let tree ← fetchPath { cwd, entries := [] } "."
  let tree ← (pathsOf env arguments).foldlM fetchPath tree
  let outcome := runCommandLine { help, misuse } env tree arguments
  if let .error e ← (store tree outcome.tree).toBaseIO then
    IO.eprintln ("Error: " ++ toString e)
    return 1
  IO.print outcome.output
  IO.eprint outcome.errors
  match outcome.ending with
  | .status n => return n.toUInt32
  | .failed failure =>
    IO.eprintln failure.message
    return 1

end KeptRegions.Program

/-- Runs the program with the words of a command line. -/
def main (arguments : List String) : IO UInt32 :=
  KeptRegions.Program.run arguments
