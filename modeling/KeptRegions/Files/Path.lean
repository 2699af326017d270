namespace KeptRegions

/-!
# Paths

A path is a sequence of names, from the root or from the working directory. In its normal form it has
no empty names and no single dots; two dots stay, since what they lead to depends on the files.
-/

/-- A path in normal form. -/
structure Path where
  /-- One or two slashes, or nothing for a path from the working directory. -/
  root : String
  names : List String
deriving DecidableEq

/-- Whether no file can have this path, since it has a character of code zero. -/
def hasNull (path : String) : Bool :=
  path.toList.contains '\x00'

namespace Path

/-- The names between the slashes of a path. -/
def components (s : String) : List String :=
  (s.toList.splitOnP (· = '/')).map String.ofList

/-- The path that a string writes. Two slashes in front are kept, more than two count as one. -/
def ofString (s : String) : Path :=
  let slashes := (s.toList.takeWhile (· = '/')).length
  { root := if slashes = 0 then "" else if slashes = 2 then "//" else "/"
    names := (components s).filter fun name => name ≠ "" && name ≠ "." }

/-- The path as a string. -/
def toString (p : Path) : String :=
  if p.root = "" && p.names.isEmpty then "." else p.root ++ String.intercalate "/" p.names

/-- The path without its last name. -/
def parent (p : Path) : Path :=
  { p with names := p.names.dropLast }

/-- The path with a tilde in front replaced by a home directory: that of the user whose name follows
the tilde, with no name the own one. Nothing if there is no such directory. -/
def expandHome? (homes : String → Option String) (p : Path) : Option Path :=
  match p.root, p.names.map String.toList with
  | "", ('~' :: user) :: _ => do
    let home := ofString (← homes (String.ofList user))
    return { home with names := home.names ++ p.names.tail }
  | _, _ => some p

end Path

end KeptRegions
