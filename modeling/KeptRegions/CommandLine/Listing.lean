import KeptRegions.Document.Segments
import KeptRegions.Preset
import KeptRegions.Text.Quoted

namespace KeptRegions

/-!
# Listings

What the commands print about regions and presets: a table for reading, or the regions as Json with
the same facts and their whole bodies.
-/

namespace Json

/-- A code unit of sixteen bits as an escape. -/
def unit (n : Nat) : Text :=
  ['\\', 'u'] ++ Quoted.hex 4 n

/-- One character of a string. All but the printable ASCII characters are escaped; a code point
beyond sixteen bits takes a pair of escapes. -/
def escape (c : Char) : Text :=
  if c = '"' then ['\\', '"']
  else if c = '\\' then ['\\', '\\']
  else if c = '\n' then ['\\', 'n']
  else if c = '\r' then ['\\', 'r']
  else if c = '\t' then ['\\', 't']
  else if c = '\x08' then ['\\', 'b']
  else if c = '\x0c' then ['\\', 'f']
  else if ' ' ≤ c && c ≤ '~' then [c]
  else if c.toNat < 0x10000 then unit c.toNat
  else
    let n := c.toNat - 0x10000
    unit (0xd800 + n / 0x400) ++ unit (0xdc00 + n % 0x400)

/-- A text as a string. -/
def string (s : Text) : String :=
  Text.toStr ('"' :: s.flatMap escape ++ ['"'])

end Json

namespace Region

/-- Whether the region is enabled, in a word. -/
def flag (r : Region) : String :=
  if r.enabled then "enabled" else "disabled"

/-- The line of a table for one region. -/
def row (r : Region) : String :=
  "  " ++ padRight 30 (Text.toStr r.id) ++ " " ++ padRight 9 r.flag ++ " "
    ++ toString (r.body.content.count '\n') ++ " lines\n"

/-- The region as a Json object, indented by two. -/
def json (r : Region) : String :=
  "  \x7b\n    \"id\": " ++ Json.string r.id
    ++ ",\n    \"enabled\": " ++ (if r.enabled then "true" else "false")
    ++ ",\n    \"body\": " ++ Json.string r.body.content ++ "\n  \x7d"

end Region

/-- The regions of a file as a table. -/
def regionTable (path : String) (regions : List Region) : String :=
  path ++ ": " ++ toString regions.length ++ " marked regions\n"
    ++ String.join (regions.map Region.row)

/-- The regions of a file as Json. -/
def regionJson (regions : List Region) : String :=
  if regions.isEmpty then "[]\n"
  else "[\n" ++ String.intercalate ",\n" (regions.map Region.json) ++ "\n]\n"

/-- The line of a table for one preset. -/
def Preset.row (p : Preset) : String :=
  let delimiters := p.blocks.map (fun (opening, closing) => opening ++ " " ++ closing) ++ p.lines
  "  " ++ padRight 12 p.name ++ " " ++ padRight 7 p.nesting.name ++ " "
    ++ String.intercalate ", " delimiters ++ "\n"

/-- The presets as a table. -/
def presetTable : String :=
  String.join (Preset.all.map Preset.row)

end KeptRegions
