import KeptRegions.Comment.Style

namespace KeptRegions

/-!
# Presets

The comment styles of common host languages have names. A name is found whatever the case of its
letters.
-/

/-- The delimiters of a host language. -/
structure Preset where
  name : String
  blocks : List (String × String)
  lines : List String
  nesting : Nesting
deriving DecidableEq

namespace Preset

/-- Languages with the comments of C. -/
def slashes (name : String) (nesting : Nesting) : Preset :=
  { name, blocks := [("/*", "*/")], lines := ["//"], nesting }

/-- Languages whose comments follow a number sign. -/
def hash (name : String) : Preset :=
  { name, blocks := [], lines := ["#"], nesting := .flat }

/-- Markup languages. -/
def markup (name : String) : Preset :=
  { name, blocks := [("<!--", "-->")], lines := [], nesting := .flat }

/-- All presets in the order of their names. -/
def all : List Preset :=
  [ slashes "c" .flat,
    slashes "cpp" .flat,
    slashes "csharp" .flat,
    { name := "css", blocks := [("/*", "*/")], lines := [], nesting := .flat },
    slashes "go" .flat,
    { name := "haskell", blocks := [("\x7b-", "-\x7d")], lines := ["--"], nesting := .nested },
    markup "html",
    slashes "java" .flat,
    slashes "javascript" .flat,
    slashes "kotlin" .nested,
    hash "properties",
    hash "python",
    hash "ruby",
    slashes "scala" .nested,
    hash "shell",
    { name := "sql", blocks := [("/*", "*/")], lines := ["--"], nesting := .flat },
    slashes "swift" .nested,
    slashes "typescript" .flat,
    markup "xml",
    hash "yaml" ]

/-- The names of all presets. -/
def names : List String :=
  all.map Preset.name

/-- The preset that is used when nothing else is said. -/
def fallback : String :=
  "java"

/-- The ASCII letter, if any, that the character is written as in lower case; any other character
stays itself. Beside the capital letters this concerns the Kelvin sign only. -/
def lowerAscii (c : Char) : Char :=
  if c = '\u212a' then 'k' else c.toLower

/-- The preset of a name in upper or lower case. -/
def find? (name : String) : Option Preset :=
  all.find? fun p => p.name.toList == name.toList.map lowerAscii

/-- The block delimiters as blocks. -/
def blockList (p : Preset) : List Block :=
  p.blocks.map fun (opening, closing) => { opening := opening.toList, closing := closing.toList }

/-- The line delimiters as texts. -/
def lineList (p : Preset) : List Text :=
  p.lines.map String.toList

end Preset

end KeptRegions
