import KeptRegions.Document.Reading
import KeptRegions.Marker.Builtin
import KeptRegions.Preset

namespace KeptRegions

/-!
# Setting up a reader

A setup says how regions are to be read: with which comments, which markers, and whether markers
stand outside of comments. A builder gathers the parts of a setup and checks them in the end.
-/

/-- Where marker rules come from: ready-made markers, marker patterns, or functions given otherwise. -/
inductive MarkerSource where
  | ready (markers : ReadyMarkers)
  | patterns (patterns : MarkerPatterns)
  | custom (rules : MarkerRules)

namespace MarkerSource

/-- The patterns of a source that has some. -/
def patterns? : MarkerSource → Option MarkerPatterns
  | ready m => some m.patterns
  | patterns p => some p
  | custom _ => none

/-- The rules of a source. -/
def rules : MarkerSource → MarkerRules
  | ready m => m.patterns.rules
  | patterns p => p.rules
  | custom r => r

/-- The name of a source that is ready-made. -/
def name? : MarkerSource → Option String
  | ready m => some m.name
  | _ => none

end MarkerSource

/-- A checked setup. -/
structure Setup where
  style : CommentStyle
  markers : MarkerSource
  inverse : Bool

/-- The reader of a setup. -/
def Setup.reader (s : Setup) : RegionReader :=
  { style := s.style, rules := s.markers.rules, inverse := s.inverse }

/-- The parts of a setup, gathered one by one. -/
structure Builder where
  blocks : List Block
  lines : List Text
  nesting : String
  markers : MarkerSource
  inverse : Bool

namespace Builder

/-- No comments, flat nesting, the markers of protected regions, looked for within comments. -/
def start : Builder :=
  { blocks := [], lines := [], nesting := Nesting.flat.name
    markers := .ready .protectedRegion, inverse := false }

/-- Adds a block comment, or a line comment if no closing delimiter is given. -/
def addComment (b : Builder) (opening : Text) (closing : Option Text) : Builder :=
  match closing with
  | some closing => { b with blocks := b.blocks ++ [{ opening, closing }] }
  | none => { b with lines := b.lines ++ [opening] }

/-- The builder of a preset. -/
def ofPreset (p : Preset) : Builder :=
  { start with blocks := p.blockList, lines := p.lineList, nesting := p.nesting.name }

/-- The setup of the parts, if they are in order. -/
def build (b : Builder) : Except StyleFault Setup := do
  let style ← CommentStyle.of? b.blocks b.lines b.nesting
  return { style, markers := b.markers, inverse := b.inverse }

end Builder

/-! ## Description -/

namespace Setup

/-- Entries in parentheses; a single entry is followed by a comma. -/
def group (entries : List String) : String :=
  match entries with
  | [entry] => "(" ++ entry ++ ",)"
  | entries => "(" ++ String.intercalate ", " entries ++ ")"

/-- A truth value as descriptions show it. -/
def truth (b : Bool) : String :=
  if b then "True" else "False"

/-- The description of a comment style. -/
def describeStyle (style : CommentStyle) : String :=
  let blocks := style.blocks.map fun b => group [Text.quoted b.opening, Text.quoted b.closing]
  "CommentSyntax(blocks=" ++ group blocks ++ ", lines=" ++ group (style.lines.map Text.quoted)
    ++ ", nesting='" ++ style.nesting.name ++ "')"

/-- The description of marker patterns. -/
def describePatterns (p : MarkerPatterns) : String :=
  "PatternOracle(start=" ++ Text.quoted p.startText ++ ", end=" ++ Text.quoted p.endText
    ++ ", keyword=" ++ Text.quoted p.keyword
    ++ ", enabled_when_present=" ++ truth p.enabledWhenPresent ++ ")"

/-- The description of a setup: each part with its name. -/
def describe (s : Setup) : String :=
  let markers := (s.markers.patterns?.map describePatterns).getD "RegionOracle()"
  "RegionParser(syntax=" ++ describeStyle s.style ++ ", oracle=" ++ markers
    ++ ", inverse=" ++ truth s.inverse ++ ")"

end Setup

end KeptRegions
