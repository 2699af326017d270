import KeptRegions.Config.Value
import KeptRegions.Setup

namespace KeptRegions

/-!
# Setups from configurations

A configuration may name a preset, list comments, and say how comments nest, what markers look like
and whether they stand outside of comments. What it says is checked entry by entry; some values of a
kind that nobody expected are not caught by a check, and then the operation that meets them fails. Where
a pattern goes beyond what is read here, that is all that is said.
-/

/-- What is wrong with a configuration. -/
inductive ConfigFault where
  | style (fault : StyleFault)
  | markers (fault : MarkerFault)
  | unknownPreset (name : Text)
  | noRules (value : Value)
  | notMapping (path : String)
  | unknownKeys (keys : List Text)
  | markersKind (kind : String)
  | unknownBuiltin (name : Text)
  | patternKind (key : String)
  | commentsKind
  | badComment (entry : Value)
  | nothingToUse
  | inverseKind

/-- The message of a fault of a configuration. -/
def ConfigFault.message : ConfigFault → String
  | style fault => fault.message
  | markers fault => fault.message
  | unknownPreset name =>
    "Unknown preset '" ++ Text.toStr name ++ "' (known: " ++ String.intercalate ", " Preset.names
      ++ ")"
  | noRules value => value.shown ++ " does not implement the region oracle methods"
  | notMapping path => "Config at " ++ path ++ " is not a YAML mapping"
  | unknownKeys keys =>
    "Unknown config keys: " ++ String.intercalate ", " (keys.map Text.toStr)
  | markersKind kind => "oracle must be a name or a mapping, got " ++ kind
  | unknownBuiltin name =>
    "Unknown builtin oracle '" ++ Text.toStr name ++ "' (known: "
      ++ String.intercalate ", " (ReadyMarkers.all.map ReadyMarkers.name) ++ ")"
  | patternKind key => "oracle." ++ key ++ " must be a regular expression string"
  | commentsKind => "comments must be a non-empty list"
  | badComment entry => "Invalid comment entry: " ++ entry.shown
  | nothingToUse => "Config needs either a preset or a comments list"
  | inverseKind => "inverse must be true or false"

/-- An operation that met a value it does not take, mostly because of its kind. -/
inductive KindFault where
  /-- Only a text has a lower case. -/
  | noLowerCase (kind : String)
  /-- A list or a mapping cannot be looked up. -/
  | noKey (kind : String)
  /-- Only texts can be joined. -/
  | noText (position : Nat) (kind : String)
  /-- The two kinds have no common order. -/
  | noOrder (left right : String)
  /-- A whole number is too large. -/
  | number (fault : NumberFault)
deriving DecidableEq

/-- The message of a fault of a kind. -/
def KindFault.message : KindFault → String
  | noLowerCase kind => "'" ++ kind ++ "' object has no attribute 'lower'"
  | noKey kind => "unhashable type: '" ++ kind ++ "'"
  | noText position kind =>
    "sequence item " ++ toString position ++ ": expected str instance, " ++ kind ++ " found"
  | noOrder left right =>
    "'<' not supported between instances of '" ++ left ++ "' and '" ++ right ++ "'"
  | number fault => fault.message

/-- Why no setup comes of a configuration. -/
inductive SetupFault where
  | config (fault : ConfigFault)
  | kind (fault : KindFault)
  /-- A pattern has a sign that is not read here. Nothing is said about such a configuration. -/
  | uncovered (pattern : Text)

/-- The message of a fault. -/
def SetupFault.message : SetupFault → String
  | config fault => fault.message
  | kind fault => fault.message
  | uncovered pattern => "Pattern not covered: " ++ Text.quoted pattern

/-- The entries of a mapping. -/
abbrev Entries := List (Value × Value)

namespace Setup

/-- A result whose faults are faults of a configuration. -/
def checked {ε α : Type} (wrap : ε → ConfigFault) : Except ε α → Except SetupFault α
  | .ok a => .ok a
  | .error e => .error (.config (wrap e))

/-- A value as a text. -/
def written (v : Value) : Except SetupFault Text :=
  if v.isWritable then .ok v.plain else .error (.kind (.number .unwritable))

/-- Fails for a value with a fault whose message shows it. -/
def refuse {α : Type} (v : Value) (fault : ConfigFault) : Except SetupFault α := do
  let _ ← written v
  throw (.config fault)

/-- The preset of a name. -/
def preset (name : Text) : Except SetupFault Preset :=
  match Preset.find? (Text.toStr name) with
  | some p => .ok p
  | none => .error (.config (.unknownPreset name))

/-- The preset that a value names. -/
def presetOf (v : Value) : Except SetupFault Preset :=
  match v with
  | .text name => preset name
  | v => .error (.kind (.noLowerCase v.kind))

/-! ## Markers -/

/-- The pattern at a key of a description of markers. -/
def patternAt (key : String) (entries : Entries) : Except SetupFault Text :=
  match (Value.entry? key entries).bind Value.text? with
  | some s => .ok s
  | none => .error (.config (.patternKind key))

/-- The ready-made markers that a value names. -/
def builtinOf (v : Value) : Except SetupFault ReadyMarkers :=
  if v.isCompound then .error (.kind (.noKey v.kind))
  else
    match v.text?.bind fun name => ReadyMarkers.ofName? (Text.toStr name) with
    | some m => .ok m
    | none => refuse v (.unknownBuiltin v.plain)

/-- What a fault of marker patterns is for a configuration. A bound that is no number is not one of
the written form, and a sign that is not read here is no fault at all. -/
def markersFault : MarkerFault → SetupFault
  | .pattern _ { cause := .number fault, .. } => .kind (.number fault)
  | .pattern text { cause := .unsupported, .. } => .uncovered text
  | fault => .config (.markers fault)

/-- The marker patterns that entries describe. -/
def patternsOf (entries : Entries) : Except SetupFault MarkerPatterns := do
  let start ← patternAt "start" entries
  let stop ← patternAt "end" entries
  let keyword ← (Value.entry? "keyword" entries).elim (pure "ENABLED".toList) written
  let whenPresent := (Value.entry? "enabled_when_present" entries).elim true Value.holds
  (MarkerPatterns.of? start stop keyword whenPresent).mapError markersFault

/-- The markers that a value describes: a name, or a mapping that has a name or patterns. -/
def markersOf (v : Value) : Except SetupFault MarkerSource :=
  match v with
  | .text _ => .ready <$> builtinOf v
  | .map entries =>
    match Value.entry? "builtin" entries with
    | some .null | none => .patterns <$> patternsOf entries
    | some v => .ready <$> builtinOf v
  | v => .error (.config (.markersKind v.kind))

/-! ## Comments -/

/-- Adds the comment that an entry describes: a text, or a list of one or two values. -/
def addComment (b : Builder) (entry : Value) : Except SetupFault Builder :=
  match entry with
  | .text s => .ok (b.addComment s none)
  | .list [opening] => do
    return b.addComment (← written opening) none
  | .list [opening, closing] => do
    return b.addComment (← written opening) (some (← written closing))
  | entry => refuse entry (.badComment entry)

/-- The builder for the comments that are listed in place of those of a preset, which then decides
about nesting only. -/
def listedComments (base comments : Value) : Except SetupFault Builder := do
  let nesting ← if base.holds then (·.nesting) <$> presetOf base else pure .flat
  match comments with
  | .list (first :: rest) =>
    (first :: rest).foldlM addComment { Builder.start with nesting := nesting.name }
  | _ => throw (.config .commentsKind)

/-- The builder for the preset and the comments of a configuration. -/
def commentsOf (base comments : Value) : Except SetupFault Builder :=
  match comments with
  | .null =>
    if base.holds then Builder.ofPreset <$> presetOf base else .error (.config .nothingToUse)
  | comments => listedComments base comments

/-! ## Configurations -/

/-- Sets the nesting that the entries ask for, if they do. -/
def setNesting (entries : Entries) (b : Builder) : Except SetupFault Builder :=
  match Value.entry? "nesting" entries with
  | some v => do return { b with nesting := Text.toStr (← written v) }
  | none => .ok b

/-- Sets where markers are looked for, if the entries say so. -/
def setInverse (entries : Entries) (b : Builder) : Except SetupFault Builder :=
  match Value.entry? "inverse" entries with
  | some (.bool inverse) => .ok { b with inverse }
  | some _ => .error (.config .inverseKind)
  | none => .ok b

/-- Sets the markers that the entries describe, if they do. -/
def setMarkers (entries : Entries) (b : Builder) : Except SetupFault Builder :=
  match Value.entry? "oracle" entries with
  | some v => do return { b with markers := ← markersOf v }
  | none => .ok b

/-- The setup that the entries of a configuration describe. -/
def ofConfig (entries : Entries) : Except SetupFault Setup := do
  let base := (Value.entry? "preset" entries).getD .null
  let comments := (Value.entry? "comments" entries).getD .null
  let b ← commentsOf base comments
  let b ← setNesting entries b
  let b ← setInverse entries b
  let b ← setMarkers entries b
  checked .style b.build

/-! ## Keys -/

/-- The keys that a configuration may have. -/
def knownKeys : List Text :=
  ["preset", "comments", "nesting", "inverse", "oracle"].map String.toList

/-- The order of texts by their code points. -/
def textLe (s t : Text) : Bool :=
  !(t < s : Bool)

/-- Whether two values have no common order. -/
def apart (a b : Value) : Bool :=
  !(a.isNumber && b.isNumber) && (a.text?.isNone || b.text?.isNone)

/-- The fault that is reported for some unknown keys. Texts are put in order and named. Other keys
should not be there at all: if two neighbours have no common order they are reported, and else the
least of the keys. -/
def unknownKeyFault (keys : List Value) : SetupFault :=
  match keys.mapM Value.text? with
  | some texts => .config (.unknownKeys (texts.mergeSort textLe))
  | none =>
    match (keys.zip keys.tail).find? fun (a, b) => apart a b with
    | some (a, b) => .kind (.noOrder b.kind a.kind)
    | none =>
      let least (first : Value) (others : List Value) : Value :=
        others.foldl (fun least v => if v.isLess least then v else least) first
      match keys with
      | [] => .config (.unknownKeys [])
      | first :: others => .kind (.noText 0 (least first others).kind)

/-- The entries of a configuration that was read from the file at `path`. -/
def entriesOf (path : String) (v : Value) : Except SetupFault Entries :=
  match v with
  | .null => .ok []
  | .map entries =>
    let unknown := (entries.map Prod.fst).filter fun k =>
      !k.text?.any (knownKeys.contains ·)
    if unknown.isEmpty then .ok entries else .error (unknownKeyFault unknown)
  | _ => .error (.config (.notMapping path))

end Setup

end KeptRegions
