import KeptRegions.Session

namespace KeptRegions

/-!
# Configuration files

The setup of a run comes from a configuration file and from the preset asked for. The file is the one
named, or the one that the environment names, or the one of the usual name in the working directory
if there is one; without a file or a word about comments in it the usual preset is used. How values are
written in a file is left to a loader, which the environment brings along.
-/

/-- What the environment of a run says. The home directories are listed by the names of the users;
the own one has an empty name. -/
structure Environment where
  config : Option String
  preset : Option String
  homes : String → Option String
  load : Loader

namespace Environment

/-- The preset that is used when nothing else is said. -/
def defaultPreset (env : Environment) : String :=
  env.preset.getD Preset.fallback

/-- The name of a configuration file in the working directory. -/
def localName : String :=
  ".protected-regions.yaml"

/-- The configuration file that is used if none is named. -/
def defaultConfig (env : Environment) (tree : FileTree) : Except Failure (Option String) :=
  match env.config.filter (· ≠ "") with
  | some (path : String) =>
    match (Path.ofString path).expandHome? env.homes with
    | some path => .ok (some path.toString)
    | none => .error .noHome
  | none =>
    let path := "/" ++ String.intercalate "/" (tree.cwd ++ [localName])
    match tree.hasFile localName with
    | .ok found => .ok (if found then some path else none)
    | .error cause => .error (.file (.of cause path))

end Environment

namespace Session

/-- The entries of the configuration file at a path. -/
def loadConfig (load : Loader) (path : String) : Session Entries := do
  let path := (Path.ofString path).toString
  let bytes ← readBytes path
  let value ← lift .load (load bytes)
  lift .setup (Setup.entriesOf path value)

/-- Sets the value of a textual key. -/
def withEntry (key value : String) (entries : Entries) : Entries :=
  Value.setEntry (.text key.toList) (.text value.toList) entries

/-- Whether the entries say anything about a key. -/
def speaksOf (key : String) (entries : Entries) : Bool :=
  (Value.entry? key entries).any Value.holds

/-- The setup of a run. A preset that is asked for replaces that of the configuration; an empty path
or name counts as none. -/
def resolve (env : Environment) (config preset : Option String) : Session Setup := do
  let named := config.filter (· ≠ "") |>.map fun p => (Path.ofString p).toString
  let path ←
    match named with
    | some path => pure (some path)
    | none => lift id (env.defaultConfig (← get).tree)
  let entries ←
    match path with
    | some path => loadConfig env.load path
    | none => pure []
  let entries :=
    match preset.filter (· ≠ "") with
    | some preset => withEntry "preset" preset entries
    | none =>
      if speaksOf "preset" entries || speaksOf "comments" entries then entries
      else withEntry "preset" env.defaultPreset entries
  lift .setup (Setup.ofConfig entries)

end Session

end KeptRegions
