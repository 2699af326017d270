import KeptRegions.Text.Blank
import KeptRegions.Text.Lines
import KeptRegions.Text.Quoted

namespace KeptRegions

/-!
# What can be wrong with a text

Every fault ends the reading of its text. A fault found while reading knows its position and its
place; a fault of a document that was put together from parts has neither.
-/

/-- The reason why a text is not a document of marked regions. -/
inductive RegionFault.Cause where
  /-- A comment that starts with `opener` never ends. -/
  | unclosedComment (opener : Text) (nested : Bool)
  /-- An end marker where no region is open. -/
  | strayEnd (marker : Text)
  /-- A region that is still open at the end of the text. -/
  | unclosedRegion (id : Text)
  /-- A start marker without an id. -/
  | missingId (marker : Text)
  /-- A second region with the id of an earlier one. -/
  | duplicateId (id : Text)
deriving DecidableEq

/-- The wording of a cause, without the place. -/
def RegionFault.Cause.wording : RegionFault.Cause → String
  | unclosedComment opener false =>
    "Unterminated comment starting with '" ++ Text.toStr opener ++ "'"
  | unclosedComment opener true =>
    "Unterminated nested comment starting with '" ++ Text.toStr opener ++ "'"
  | strayEnd marker => "End marker without open region: " ++ Text.quoted (Text.strip marker)
  | unclosedRegion id => "Unterminated marked region: " ++ Text.toStr id
  | missingId marker => "Marked region start without id: " ++ Text.quoted (Text.strip marker)
  | duplicateId id => "Duplicate marked region id: " ++ Text.toStr id

/-- A cause together with where it arose. -/
structure RegionFault where
  cause : RegionFault.Cause
  position : Option Int
  place : Option Place
deriving DecidableEq

namespace RegionFault

/-- The fault of a cause at a position of a text, as far as both are known. -/
def of (cause : Cause) (position : Option Int) (text : Option Text) : RegionFault :=
  { cause, position, place := Place.of? text position }

/-- The fault of a cause at a position of a text. -/
def found (cause : Cause) (position : Nat) (text : Text) : RegionFault :=
  of cause (some position) (some text)

/-- The message of a fault ends with its place, if that is known. -/
def message (fault : RegionFault) : String :=
  Place.annotate fault.cause.wording fault.place

end RegionFault

end KeptRegions
