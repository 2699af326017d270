import KeptRegions.Document.Reading
import KeptRegions.Document.Reconcile

namespace KeptRegions

/-!
# The journal

What happens while documents are read, reconciled and written to files is noted in a journal. An
entry has a level and comes from one of three sources.
-/

/-- What bringing a file up to date did to it. -/
inductive Action where
  | created
  | updated
  | unchanged
deriving DecidableEq

/-- The name of an action. -/
def Action.name : Action → String
  | created => "created"
  | updated => "updated"
  | unchanged => "unchanged"

/-- An entry of the journal. -/
inductive Event where
  /-- A text was read as a document with so many segments at top level and so many regions. -/
  | parsed (segments regions : Nat)
  /-- A decision about a region. -/
  | decided (decision : Decision)
  /-- A file was brought up to date. -/
  | synced (path : String) (action : Action)
  /-- A file was passed over for the reason given. -/
  | passedOver (path reason : String)
deriving DecidableEq

/-- The wording of a decision. -/
def Decision.wording : Decision → String
  | keptPrevious id => "Region " ++ Text.toStr id ++ ": keeping previous body"
  | keptGenerated id => "Region " ++ Text.toStr id ++ ": keeping generated body"
  | movedAway id => "Region " ++ Text.toStr id ++ ": moved out of copied body, dropping old copy"

namespace Event

/-- Whether the entry is a warning, which is shown even where the journal is not. -/
def isWarning : Event → Bool
  | passedOver _ _ => true
  | _ => false

/-- The text of an entry without its level and source. -/
def wording : Event → String
  | parsed segments regions =>
    "Parsed " ++ toString segments ++ " segments, " ++ toString regions ++ " regions"
  | decided decision => decision.wording
  | synced path action => path ++ ": " ++ action.name
  | passedOver path reason => path ++ ": " ++ reason

/-- The level and the source of an entry. -/
def heading : Event → String
  | parsed _ _ => "DEBUG protected_regions.parser"
  | decided _ => "DEBUG protected_regions.reconcile"
  | synced _ _ => "INFO protected_regions.sync"
  | passedOver _ _ => "WARNING protected_regions.sync"

/-- An entry as a line of the journal. -/
def line (e : Event) : String :=
  e.heading ++ ": " ++ e.wording

/-- The entry for a document that was read. -/
def ofDocument (d : Document) : Event :=
  parsed d.segments.length d.ids.length

/-- The entries for two documents that are reconciled. -/
def ofReconciling (current previous : Document) (keep : Region → Bool) : List Event :=
  (current.decisions previous keep).map decided

end Event

end KeptRegions
