import KeptRegions.Document.Basic

namespace KeptRegions

/-!
# Reconciling two documents

A generator has written `current` anew, and `previous` is what it wrote before, edited since. The
result has the layout of `current`: its plain text, its markers, its regions in their order. Only the
bodies of some regions come from `previous`, namely of those that a policy keeps and that `previous`
has as well. A region that `current` places elsewhere is left out of a copied body.
-/

namespace Segments

/-- The segments without the regions whose id is in `away`, at whatever depth. Plain texts that come
to stand next to each other are joined. -/
def without (away : Text → Bool) : Segments → Segments
  | nil => nil
  | plain text rest => (rest.without away).joinPlain text
  | region fence body rest =>
    if away fence.id then rest.without away
    else region fence (body.without away) (rest.without away)

end Segments

/-- Whether an id belongs to `ids` but not to the region. -/
def Region.isElsewhere (r : Region) (ids : List Text) (id : Text) : Bool :=
  ids.contains id && !r.ids.contains id

/-- The segments of the current document with the bodies that are kept taken from `previous`. The
list `ids` holds the ids of the whole current document. -/
def Segments.keepBodies (previous : Document) (keep : Region → Bool) (ids : List Text) :
    Segments → Segments
  | nil => nil
  | plain text rest => plain text (rest.keepBodies previous keep ids)
  | region fence body rest =>
    let rest := rest.keepBodies previous keep ids
    let r : Region := { fence, body }
    match previous.find? fence.id with
    | some old =>
      if keep r then region fence (old.body.without (r.isElsewhere ids)) rest
      else region fence (body.keepBodies previous keep ids) rest
    | none => region fence (body.keepBodies previous keep ids) rest

namespace Document

/-- The current document with the bodies that the policy keeps taken from the previous one. -/
def reconcile (current previous : Document) (keep : Region → Bool) : Except RegionFault Document :=
  Document.of? (current.segments.keepBodies previous keep current.ids)

/-- Keeps the bodies of enabled regions. -/
def merge (current previous : Document) : Except RegionFault Document :=
  current.reconcile previous Region.enabled

/-- Keeps the bodies of disabled regions, so that the enabled ones are filled in anew. -/
def fillIn (current previous : Document) : Except RegionFault Document :=
  current.reconcile previous fun r => !r.enabled

end Document

/-! ## Decisions -/

/-- What was decided about a region. -/
inductive Decision where
  /-- Its body comes from the previous document. -/
  | keptPrevious (id : Text)
  /-- Its body stays as generated. -/
  | keptGenerated (id : Text)
  /-- It is left out of a copied body, since it now stands elsewhere. -/
  | movedAway (id : Text)
deriving DecidableEq

namespace Segments

/-- The decisions of `without`, in document order. -/
def removals (away : Text → Bool) : Segments → List Decision
  | nil => []
  | plain _ rest => rest.removals away
  | region fence body rest =>
    if away fence.id then .movedAway fence.id :: rest.removals away
    else body.removals away ++ rest.removals away

/-- The decisions of `keepBodies`, in document order. -/
def decisions (previous : Document) (keep : Region → Bool) (ids : List Text) :
    Segments → List Decision
  | nil => []
  | plain _ rest => rest.decisions previous keep ids
  | region fence body rest =>
    let r : Region := { fence, body }
    let generated := .keptGenerated fence.id :: body.decisions previous keep ids
    let here :=
      match previous.find? fence.id with
      | some old =>
        if keep r then .keptPrevious fence.id :: old.body.removals (r.isElsewhere ids) else generated
      | none => generated
    here ++ rest.decisions previous keep ids

end Segments

/-- The decisions taken when two documents are reconciled, in document order. -/
def Document.decisions (current previous : Document) (keep : Region → Bool) : List Decision :=
  current.segments.decisions previous keep current.ids

end KeptRegions
