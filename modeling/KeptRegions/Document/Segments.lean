import KeptRegions.Text.Basic

namespace KeptRegions

/-!
# Segments

A document is plain text with marked regions in it, and a region holds plain text and regions again.
The content of segments is their text with all markers.
-/

/-- What the two markers of a region say: its id, whether it is enabled, and their own text. -/
structure Fence where
  id : Text
  enabled : Bool
  opening : Text
  closing : Text
deriving DecidableEq

/-- A sequence of segments: nothing, or a plain text or a region followed by more segments. -/
inductive Segments where
  | nil
  | plain (text : Text) (rest : Segments)
  | region (fence : Fence) (body rest : Segments)
deriving DecidableEq, Inhabited

/-- One region: its markers and what is between them. -/
structure Region where
  fence : Fence
  body : Segments
deriving DecidableEq

namespace Segments

/-- The text of the segments, markers included. -/
def content : Segments → Text
  | nil => []
  | plain text rest => text ++ rest.content
  | region fence body rest => fence.opening ++ (body.content ++ (fence.closing ++ rest.content))

/-- All regions in the order of their start markers, so a region precedes those in its body. -/
def regions : Segments → List Region
  | nil => []
  | plain _ rest => rest.regions
  | region fence body rest => { fence, body } :: (body.regions ++ rest.regions)

/-- The ids of all regions in the order of their start markers. -/
def ids : Segments → List Text
  | nil => []
  | plain _ rest => rest.ids
  | region fence body rest => fence.id :: (body.ids ++ rest.ids)

/-- The number of segments, those inside of regions not counted. -/
def length : Segments → Nat
  | nil => 0
  | plain _ rest => rest.length + 1
  | region _ _ rest => rest.length + 1

/-- The first region with the id. -/
def find? (id : Text) : Segments → Option Region
  | nil => none
  | plain _ rest => rest.find? id
  | region fence body rest =>
    if fence.id = id then some { fence, body } else (body.find? id).or (rest.find? id)

/-- A plain text in front of segments; it is joined to a plain text that these start with. -/
def joinPlain (text : Text) : Segments → Segments
  | plain next rest => plain (text ++ next) rest
  | rest => plain text rest

theorem ids_eq_map_regions (s : Segments) : s.ids = s.regions.map (·.fence.id) := by
  induction s with
  | nil => rfl
  | plain text rest ih => simpa [ids, regions] using ih
  | region fence body rest ihb ihr => simp [ids, regions, ihb, ihr]

@[simp] theorem content_joinPlain (text : Text) (s : Segments) :
    (s.joinPlain text).content = text ++ s.content := by
  cases s <;> simp [joinPlain, content]

@[simp] theorem ids_joinPlain (text : Text) (s : Segments) : (s.joinPlain text).ids = s.ids := by
  cases s <;> rfl

end Segments

namespace Region

/-- The id of a region. -/
def id (r : Region) : Text :=
  r.fence.id

/-- Whether the region is enabled. -/
def enabled (r : Region) : Bool :=
  r.fence.enabled

/-- The text of the region with its markers. -/
def content (r : Region) : Text :=
  r.fence.opening ++ (r.body.content ++ r.fence.closing)

/-- The region with another body between the same markers. -/
def withBody (r : Region) (body : Segments) : Region :=
  { r with body }

/-- The id of the region and of all regions in it. -/
def ids (r : Region) : List Text :=
  r.fence.id :: r.body.ids

end Region

end KeptRegions
