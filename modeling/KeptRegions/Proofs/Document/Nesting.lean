import KeptRegions.Document.Basic
import Mathlib.Data.List.Nodup

namespace KeptRegions

/-!
# Regions in regions

The regions of segments form a forest. A region that lies in a second one lies in everything that
holds the second, and where ids are unique two regions with a common id are the same, or one of
them lies in the other.
-/

namespace Segments

variable {s body rest : Segments} {fence : Fence} {a b r : Region} {x : Text}

/-! ## Ids and regions -/

@[simp] theorem regions_joinPlain (text : Text) (s : Segments) :
    (s.joinPlain text).regions = s.regions := by
  cases s <;> rfl

theorem mem_ids_iff : x ∈ s.ids ↔ ∃ r ∈ s.regions, r.fence.id = x := by
  simp [ids_eq_map_regions]

/-- Ids are unique if the first region, its body and what is behind it have no id in common. -/
theorem nodup_ids_region :
    (region fence body rest).ids.Nodup ↔
      fence.id ∉ body.ids ∧ fence.id ∉ rest.ids ∧ body.ids.Nodup ∧ rest.ids.Nodup ∧
        body.ids.Disjoint rest.ids := by
  simp only [ids, List.nodup_cons, List.mem_append, not_or, List.nodup_append',
    and_assoc]

theorem ids_region_subset {l : List Text} :
    (region fence body rest).ids ⊆ l ↔ fence.id ∈ l ∧ body.ids ⊆ l ∧ rest.ids ⊆ l := by
  simp only [ids, List.cons_subset, List.append_subset]

/-- The id of a region is an id of the segments that hold it. -/
theorem id_mem_ids (hr : r ∈ s.regions) : r.fence.id ∈ s.ids :=
  mem_ids_iff.2 ⟨r, hr, rfl⟩

/-- The ids in a region are ids of the segments that hold it. -/
theorem ids_subset_of_mem_regions (hr : r ∈ s.regions) : r.ids ⊆ s.ids := by
  induction s with
  | nil => simp [regions] at hr
  | plain text rest ih => exact ih hr
  | region fence body rest ihb ihr =>
    simp only [regions, List.mem_cons, List.mem_append] at hr
    intro x hx
    rcases hr with rfl | hr | hr
    · rcases List.mem_cons.1 hx with rfl | hx
      · exact List.mem_cons_self
      · exact List.mem_cons_of_mem _ (List.mem_append_left _ hx)
    · exact List.mem_cons_of_mem _ (List.mem_append_left _ (ihb hr hx))
    · exact List.mem_cons_of_mem _ (List.mem_append_right _ (ihr hr hx))

/-- The regions in a region are regions of the segments that hold it. -/
theorem regions_subset_of_mem_regions (hr : r ∈ s.regions) : r.body.regions ⊆ s.regions := by
  induction s with
  | nil => simp [regions] at hr
  | plain text rest ih => exact ih hr
  | region fence body rest ihb ihr =>
    simp only [regions, List.mem_cons, List.mem_append] at hr
    intro a ha
    simp only [regions, List.mem_cons, List.mem_append]
    rcases hr with rfl | hr | hr
    · exact .inr (.inl ha)
    · exact .inr (.inl (ihb hr ha))
    · exact .inr (.inr (ihr hr ha))

/-- Where ids are unique, they are unique within a region as well. -/
theorem nodup_ids_of_mem_regions (hs : s.ids.Nodup) (hr : r ∈ s.regions) : r.ids.Nodup := by
  induction s with
  | nil => simp [regions] at hr
  | plain text rest ih => exact ih hs hr
  | region fence body rest ihb ihr =>
    rcases nodup_ids_region.1 hs with ⟨hidb, -, hbody, hrest, -⟩
    simp only [regions, List.mem_cons, List.mem_append] at hr
    rcases hr with rfl | hr | hr
    · exact List.nodup_cons.2 ⟨hidb, hbody⟩
    · exact ihb hbody hr
    · exact ihr hrest hr

theorem nodup_ids_body_of_mem_regions (hs : s.ids.Nodup) (hr : r ∈ s.regions) :
    r.body.ids.Nodup :=
  (List.nodup_cons.1 (nodup_ids_of_mem_regions hs hr)).2

/-- A region is found under an id only if it is one of the regions and has the id. -/
theorem mem_regions_of_find? (h : s.find? x = some r) : r ∈ s.regions ∧ r.fence.id = x := by
  induction s with
  | nil => simp [find?] at h
  | plain text rest ih => exact ih h
  | region fence body rest ihb ihr =>
    simp only [find?] at h
    split at h
    · rename_i hid
      cases h
      exact ⟨List.mem_cons_self, hid⟩
    · rcases Option.or_eq_some_iff.1 h with h | ⟨-, h⟩
      · rcases ihb h with ⟨hmem, hid⟩
        exact ⟨List.mem_cons_of_mem _ (List.mem_append_left _ hmem), hid⟩
      · rcases ihr h with ⟨hmem, hid⟩
        exact ⟨List.mem_cons_of_mem _ (List.mem_append_right _ hmem), hid⟩

/-- Where ids are unique, each region is found under its id. -/
theorem find?_of_mem_regions (hs : s.ids.Nodup) (hr : r ∈ s.regions) :
    s.find? r.fence.id = some r := by
  induction s with
  | nil => simp [regions] at hr
  | plain text rest ih => exact ih hs hr
  | region fence body rest ihb ihr =>
    rcases nodup_ids_region.1 hs with ⟨hidb, hidr, hbody, hrest, hdisj⟩
    simp only [regions, List.mem_cons, List.mem_append] at hr
    rcases hr with rfl | hr | hr
    · simp [find?]
    · have hne : fence.id ≠ r.fence.id := fun h => hidb (h ▸ id_mem_ids hr)
      simp [find?, hne, ihb hbody hr]
    · -- the search finds nothing in the body, which shares no id with what is behind it
      have hne : fence.id ≠ r.fence.id := fun h => hidr (h ▸ id_mem_ids hr)
      have hbodynone : body.find? r.fence.id = none := by
        rw [Option.eq_none_iff_forall_ne_some]
        intro q hq
        rcases mem_regions_of_find? hq with ⟨hmem, hid⟩
        exact hdisj (id_mem_ids hmem) (hid ▸ id_mem_ids hr)
      simp [find?, hne, hbodynone, ihr hrest hr]

/-- An id of the segments is the id of a region that is found under it. -/
theorem exists_find?_of_mem_ids (hs : s.ids.Nodup) (hx : x ∈ s.ids) :
    ∃ r, s.find? x = some r := by
  rcases mem_ids_iff.1 hx with ⟨r, hr, rfl⟩
  exact ⟨r, find?_of_mem_regions hs hr⟩

/-! ## Nesting -/

/-- Two regions that share an id are one region, or one of them lies in the other. -/
theorem nested_of_common_id (hs : s.ids.Nodup) (ha : a ∈ s.regions) (hb : b ∈ s.regions)
    (hxa : x ∈ a.ids) (hxb : x ∈ b.ids) :
    a = b ∨ b ∈ a.body.regions ∨ a ∈ b.body.regions := by
  induction s with
  | nil => simp [regions] at ha
  | plain text rest ih => exact ih hs ha hb
  | region fence body rest ihb ihr =>
    rcases nodup_ids_region.1 hs with ⟨-, hid, hbody, hrest, hdisj⟩
    -- an id of the first region cannot occur behind it
    have apart : ∀ {r : Region}, r ∈ rest.regions → x ∈ fence.id :: body.ids → x ∉ r.ids := by
      intro r hr hx hxr
      have hxrest := ids_subset_of_mem_regions hr hxr
      rcases List.mem_cons.1 hx with rfl | hx
      · exact hid hxrest
      · exact hdisj hx hxrest
    have inside : ∀ {r : Region}, r ∈ body.regions → x ∈ r.ids → x ∈ fence.id :: body.ids := by
      intro r hr hx
      exact List.mem_cons_of_mem _ (ids_subset_of_mem_regions hr hx)
    simp only [regions, List.mem_cons, List.mem_append] at ha hb
    rcases ha with rfl | ha | ha <;> rcases hb with rfl | hb | hb
    · exact .inl rfl
    · exact .inr (.inl hb)
    · exact absurd hxb (apart hb hxa)
    · exact .inr (.inr ha)
    · exact ihb hbody ha hb
    · exact absurd hxb (apart hb (inside ha hxa))
    · exact absurd hxa (apart ha hxb)
    · exact absurd hxa (apart ha (inside hb hxb))
    · exact ihr hrest ha hb

end Segments

/-- Segments with unique ids are accepted as a document. -/
theorem Document.of?_eq_ok {s : Segments} (h : s.ids.Nodup) :
    Document.of? s = .ok { segments := s, nodup := h } := by
  have hnone : firstRepeat? [] s.ids = none := firstRepeat?_eq_none.2 ⟨h, by simp⟩
  unfold Document.of?
  split
  · rename_i hsome
    rw [hnone] at hsome
    cases hsome
  · rfl

theorem Document.segments_of_of?_eq_ok {s : Segments} {d : Document}
    (h : Document.of? s = .ok d) : d.segments = s := by
  unfold Document.of? at h
  split at h
  · cases h
  · cases h
    rfl

/-- The markers of a protected region in block comments. -/
def Fence.block (id : String) (enabled : Bool) : Fence where
  id := id.toList
  enabled
  opening :=
    ("/* PROTECTED REGION ID(" ++ id ++ ")" ++ (if enabled then " ENABLED" else "") ++
      " START */").toList
  closing := "/* PROTECTED REGION END */".toList

end KeptRegions
