import KeptRegions.Document.Fault
import KeptRegions.Document.Segments

namespace KeptRegions

/-!
# Documents

A document is a sequence of segments in which no id occurs twice, at whatever depth.
-/

/-- The first entry of a list that repeats an earlier one, where those in `seen` count as earlier. -/
def firstRepeat? {α : Type} [DecidableEq α] (seen : List α) : List α → Option α
  | [] => none
  | x :: xs => if x ∈ seen then some x else firstRepeat? (x :: seen) xs

theorem firstRepeat?_eq_none {α : Type} [DecidableEq α] {seen xs : List α} :
    firstRepeat? seen xs = none ↔ xs.Nodup ∧ ∀ x ∈ xs, x ∉ seen := by
  fun_induction firstRepeat? seen xs <;> grind

/-- Segments with unique region ids. -/
structure Document where
  segments : Segments
  nodup : segments.ids.Nodup

namespace Document

/-- The document of some segments. It is refused for the first region, in document order, whose id
an earlier region has. -/
def of? (segments : Segments) : Except RegionFault Document :=
  match h : firstRepeat? [] segments.ids with
  | some id => .error (.of (.duplicateId id) none none)
  | none => .ok { segments, nodup := (firstRepeat?_eq_none.1 h).1 }

/-- The text of the document. -/
def content (d : Document) : Text :=
  d.segments.content

/-- The ids of all regions in document order. -/
def ids (d : Document) : List Text :=
  d.segments.ids

/-- The regions in document order. -/
def regions (d : Document) : List Region :=
  d.segments.regions

/-- The region with the id. -/
def find? (d : Document) (id : Text) : Option Region :=
  d.segments.find? id

end Document

end KeptRegions
