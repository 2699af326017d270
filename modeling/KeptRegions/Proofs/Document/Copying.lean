import KeptRegions.Document.Reconcile
import KeptRegions.Proofs.Document.Nesting

namespace KeptRegions

/-!
# Copied bodies

Reconciling copies bodies of the previous document into the current one. A copied body has none of
the ids that the current document places elsewhere, and since a region is left out with all that is
in it, two copied bodies never share an id. So the ids stay unique, and reconciling cannot fail
(`reconcile_eq_ok`).
-/

/-- The region of the previous document that a region takes its body from, if it keeps one. -/
def Region.source? (r : Region) (previous : Document) (keep : Region → Bool) : Option Region :=
  if keep r then previous.find? r.fence.id else none

theorem Region.source?_eq_some_iff {r old : Region} {previous : Document} {keep : Region → Bool} :
    r.source? previous keep = some old ↔
      keep r = true ∧ previous.find? r.fence.id = some old := by
  unfold Region.source?
  split <;> simp_all

theorem Region.mem_of_source? {r old : Region} {previous : Document} {keep : Region → Bool}
    (h : r.source? previous keep = some old) :
    old ∈ previous.regions ∧ old.fence.id = r.fence.id :=
  Segments.mem_regions_of_find? (Region.source?_eq_some_iff.1 h).2

namespace Segments

/-- The regions whose body is copied, each with the region that it is copied from. Nothing is
copied into a region whose own body is a copy. -/
def copies (previous : Document) (keep : Region → Bool) : Segments → List (Region × Region)
  | nil => []
  | plain _ rest => rest.copies previous keep
  | region fence body rest =>
    let r : Region := { fence, body }
    match r.source? previous keep with
    | some old => (r, old) :: rest.copies previous keep
    | none => body.copies previous keep ++ rest.copies previous keep

/-! ## Leaving regions out -/

section Without

attribute [local simp] without

variable {away : Text → Bool} {s : Segments} {r : Region} {x : Text}

/-- Leaving regions out keeps the order of the other ids. -/
theorem ids_without_sublist : (s.without away).ids.Sublist s.ids := by
  induction s with
  | nil => exact List.Sublist.slnil
  | plain text rest ih => simpa [ids] using ih
  | region fence body rest ihb ihr =>
    simp only [without, ids]
    split
    · exact (ihr.trans (List.sublist_append_right _ _)).cons _
    · exact (ihb.append ihr).cons_cons _

theorem mem_ids_of_mem_without (hx : x ∈ (s.without away).ids) : x ∈ s.ids :=
  ids_without_sublist.subset hx

theorem nodup_ids_without (hs : s.ids.Nodup) : (s.without away).ids.Nodup :=
  hs.sublist ids_without_sublist

/-- No region that is to be left out remains. -/
theorem away_eq_false_of_mem_without (hx : x ∈ (s.without away).ids) : away x = false := by
  induction s with
  | nil => simp [ids] at hx
  | plain text rest ih => exact ih (by simpa using hx)
  | region fence body rest ihb ihr =>
    simp only [without] at hx
    split at hx
    · exact ihr hx
    · rename_i haway
      simp only [ids, List.mem_cons, List.mem_append] at hx
      rcases hx with rfl | hx | hx
      · simpa using haway
      · exact ihb hx
      · exact ihr hx

/-- A region that is left out takes all that is in it along. -/
theorem not_mem_without_of_mem_region (hs : s.ids.Nodup) (hr : r ∈ s.regions)
    (haway : away r.fence.id = true) (hx : x ∈ r.ids) : x ∉ (s.without away).ids := by
  induction s with
  | nil => simp [regions] at hr
  | plain text rest ih => simpa using ih hs hr
  | region fence body rest ihb ihr =>
    rcases nodup_ids_region.1 hs with ⟨hidb, hidr, hbody, hrest, hdisj⟩
    simp only [regions, List.mem_cons, List.mem_append] at hr
    simp only [without]
    rcases hr with rfl | hr | hr
    · -- the region itself goes, and its ids do not occur behind it
      rw [if_pos haway]
      intro hxr
      have hxrest := mem_ids_of_mem_without hxr
      rcases List.mem_cons.1 hx with rfl | hxb
      · exact hidr hxrest
      · exact hdisj hxb hxrest
    · -- the region is in the body, which goes as a whole or has it left out
      have hxb := ids_subset_of_mem_regions hr hx
      have hxr : x ∉ (rest.without away).ids := by
        intro h
        exact hdisj hxb (mem_ids_of_mem_without h)
      split
      · exact hxr
      · simp only [ids, List.mem_cons, List.mem_append, not_or]
        exact ⟨fun h => hidb (h ▸ hxb), ihb hbody hr, hxr⟩
    · -- the region is behind the first one
      have hxr := ids_subset_of_mem_regions hr hx
      have hxb : x ∉ (body.without away).ids := by
        intro h
        exact hdisj (mem_ids_of_mem_without h) hxr
      split
      · exact ihr hrest hr
      · simp only [ids, List.mem_cons, List.mem_append, not_or]
        exact ⟨fun h => hidr (h ▸ hxr), hxb, ihr hrest hr⟩

/-- An id remains if it is in no region that is to be left out. -/
theorem mem_ids_without_iff (hs : s.ids.Nodup) :
    x ∈ (s.without away).ids ↔
      x ∈ s.ids ∧ ∀ r ∈ s.regions, x ∈ r.ids → away r.fence.id = false := by
  constructor
  · intro hx
    refine ⟨mem_ids_of_mem_without hx, fun r hr hxr => ?_⟩
    cases haway : away r.fence.id with
    | false => rfl
    | true => exact absurd hx (not_mem_without_of_mem_region hs hr haway hxr)
  · rintro ⟨hx, hstays⟩
    clear hs
    induction s with
    | nil => cases hx
    | plain text rest ih => simpa using ih hx hstays
    | region fence body rest ihb ihr =>
      simp only [ids, List.mem_cons, List.mem_append] at hx
      simp only [regions, List.mem_cons, List.mem_append] at hstays
      -- if the first region is left out, the id is behind it
      by_cases haway : away fence.id = true
      · have hnot : x ∉ fence.id :: body.ids := by
          intro h
          have hfalse := hstays { fence, body } (.inl rfl) h
          rw [haway] at hfalse
          cases hfalse
        simp only [List.mem_cons, not_or] at hnot
        rw [without, if_pos haway]
        have hxr : x ∈ rest.ids := (hx.resolve_left hnot.1).resolve_left hnot.2
        exact ihr hxr fun r hr => hstays r (.inr (.inr hr))
      · rw [without, if_neg haway]
        simp only [ids, List.mem_cons, List.mem_append]
        rcases hx with hx | hx | hx
        · exact .inl hx
        · exact .inr (.inl (ihb hx fun r hr => hstays r (.inr (.inl hr))))
        · exact .inr (.inr (ihr hx fun r hr => hstays r (.inr (.inr hr))))

/-- Each region that remains has its markers, and its own body less what is left out of it. -/
theorem exists_of_mem_regions_without (hr : r ∈ (s.without away).regions) :
    ∃ r' ∈ s.regions, r = r'.withBody (r'.body.without away) := by
  induction s with
  | nil => simp [regions] at hr
  | plain text rest ih => exact ih (by simpa using hr)
  | region fence body rest ihb ihr =>
    simp only [without] at hr
    simp only [regions, List.mem_cons, List.mem_append]
    split at hr
    · -- the first region is gone
      rcases ihr hr with ⟨r', hr', hr⟩
      exact ⟨r', .inr (.inr hr'), hr⟩
    · simp only [regions, List.mem_cons, List.mem_append] at hr
      rcases hr with rfl | hr | hr
      · exact ⟨_, .inl rfl, rfl⟩
      · rcases ihb hr with ⟨r', hr', hr⟩
        exact ⟨r', .inr (.inl hr'), hr⟩
      · rcases ihr hr with ⟨r', hr', hr⟩
        exact ⟨r', .inr (.inr hr'), hr⟩

end Without

/-! ## Copying -/

section Copying

attribute [local simp] keepBodies

variable {previous : Document} {keep : Region → Bool} {ids : List Text} {fence : Fence}
  {body rest : Segments} {old : Region}

theorem keepBodies_of_source (h : Region.source? { fence, body } previous keep = some old) :
    (region fence body rest).keepBodies previous keep ids =
      region fence (old.body.without (Region.isElsewhere { fence, body } ids))
        (rest.keepBodies previous keep ids) := by
  simp only [Region.source?] at h
  split at h
  · rename_i hkeep
    simp only [keepBodies, h, hkeep, if_true]
  · cases h

theorem keepBodies_of_no_source (h : Region.source? { fence, body } previous keep = none) :
    (region fence body rest).keepBodies previous keep ids =
      region fence (body.keepBodies previous keep ids) (rest.keepBodies previous keep ids) := by
  simp only [Region.source?] at h
  split at h
  · simp only [keepBodies, h]
  · rename_i hkeep
    cases hfind : previous.find? fence.id <;> simp [hfind, hkeep]

theorem copies_of_source (h : Region.source? { fence, body } previous keep = some old) :
    (region fence body rest).copies previous keep =
      ({ fence, body }, old) :: rest.copies previous keep := by
  simp only [copies, h]

theorem copies_of_no_source (h : Region.source? { fence, body } previous keep = none) :
    (region fence body rest).copies previous keep =
      body.copies previous keep ++ rest.copies previous keep := by
  simp only [copies, h]

/-- Induction along the copying: a region either takes the body of its source, or what is in it is
searched for regions that do. -/
@[elab_as_elim]
theorem copyInduction (previous : Document) (keep : Region → Bool) {P : Segments → Prop}
    (nil : P nil)
    (plain : ∀ text rest, P rest → P (plain text rest))
    (copied : ∀ fence body rest old, Region.source? { fence, body } previous keep = some old →
      P rest → P (region fence body rest))
    (searched : ∀ fence body rest, Region.source? { fence, body } previous keep = none →
      P body → P rest → P (region fence body rest)) (s : Segments) : P s := by
  induction s with
  | nil => exact nil
  | plain text rest ih => exact plain text rest ih
  | region fence body rest ihb ihr =>
    cases h : Region.source? { fence, body } previous keep with
    | some old => exact copied fence body rest old h ihr
    | none => exact searched fence body rest h ihb ihr

theorem mem_of_mem_copies {s : Segments} {r : Region} (h : (r, old) ∈ s.copies previous keep) :
    r ∈ s.regions ∧ old ∈ previous.regions ∧ old.fence.id = r.fence.id := by
  induction s using copyInduction previous keep with
  | nil => simp [copies] at h
  | plain text rest ih => exact ih h
  | copied fence body rest found hsource ih =>
    rw [copies_of_source hsource] at h
    simp only [regions, List.mem_cons, List.mem_append]
    rcases List.mem_cons.1 h with heq | h
    · cases heq
      exact ⟨.inl rfl, Region.mem_of_source? hsource⟩
    · exact ⟨.inr (.inr (ih h).1), (ih h).2⟩
  | searched fence body rest hsource ihb ihr =>
    rw [copies_of_no_source hsource] at h
    simp only [regions, List.mem_cons, List.mem_append]
    rcases List.mem_append.1 h with h | h
    · exact ⟨.inr (.inl (ihb h).1), (ihb h).2⟩
    · exact ⟨.inr (.inr (ihr h).1), (ihr h).2⟩

/-- A region takes the body of its source unless it lies in a region that does. -/
theorem mem_copies_of_source {s : Segments} {r : Region} (hr : r ∈ s.regions)
    (hsource : r.source? previous keep = some old)
    (houter : ∀ a ∈ s.regions, r ∈ a.body.regions → a.source? previous keep = none) :
    (r, old) ∈ s.copies previous keep := by
  induction s using copyInduction previous keep with
  | nil => simp [regions] at hr
  | plain text rest ih => exact ih hr houter
  | copied fence body rest found hfound ih =>
    rw [copies_of_source hfound]
    simp only [regions, List.mem_cons, List.mem_append] at hr houter ⊢
    rcases hr with rfl | hr | hr
    · rw [hfound] at hsource
      cases hsource
      exact .inl rfl
    · -- a region around it has a source
      have hnone := houter _ (.inl rfl) hr
      rw [hfound] at hnone
      cases hnone
    · exact .inr (ih hr fun a ha => houter a (.inr (.inr ha)))
  | searched fence body rest hnone ihb ihr =>
    rw [copies_of_no_source hnone]
    simp only [regions, List.mem_cons, List.mem_append] at hr houter ⊢
    rcases hr with rfl | hr | hr
    · rw [hnone] at hsource
      cases hsource
    · exact .inl (ihb hr fun a ha => houter a (.inr (.inl ha)))
    · exact .inr (ihr hr fun a ha => houter a (.inr (.inr ha)))

/-- In the result, a region that takes the body of its source has this body, less what belongs
elsewhere, between its own markers. -/
theorem withBody_mem_keepBodies {s : Segments} {r : Region}
    (h : (r, old) ∈ s.copies previous keep) :
    r.withBody (old.body.without (r.isElsewhere ids)) ∈
      (s.keepBodies previous keep ids).regions := by
  induction s using copyInduction previous keep with
  | nil => simp [copies] at h
  | plain text rest ih => exact ih h
  | copied fence body rest found hsource ih =>
    rw [copies_of_source hsource] at h
    rw [keepBodies_of_source hsource]
    simp only [regions, List.mem_cons, List.mem_append]
    rcases List.mem_cons.1 h with heq | h
    · cases heq
      exact .inl rfl
    · exact .inr (.inr (ih h))
  | searched fence body rest hsource ihb ihr =>
    rw [copies_of_no_source hsource] at h
    rw [keepBodies_of_no_source hsource]
    simp only [regions, List.mem_cons, List.mem_append]
    rcases List.mem_append.1 h with h | h
    · exact .inr (.inl (ihb h))
    · exact .inr (.inr (ihr h))

/-- A region of the result has no source and is searched, or it takes the body of its source, or it
comes with a copied body. -/
theorem mem_regions_keepBodies {s : Segments} {r : Region}
    (hr : r ∈ (s.keepBodies previous keep ids).regions) :
    (∃ r' ∈ s.regions, r'.source? previous keep = none ∧
      r = r'.withBody (r'.body.keepBodies previous keep ids)) ∨
    ∃ copy ∈ s.copies previous keep,
      r = copy.1.withBody (copy.2.body.without (copy.1.isElsewhere ids)) ∨
        r ∈ (copy.2.body.without (copy.1.isElsewhere ids)).regions := by
  induction s using copyInduction previous keep with
  | nil => simp [regions] at hr
  | plain text rest ih => exact ih hr
  | copied fence body rest old hsource ih =>
    rw [keepBodies_of_source hsource] at hr
    rw [copies_of_source hsource]
    simp only [regions, List.mem_cons, List.mem_append] at hr ⊢
    rcases hr with rfl | hr | hr
    · exact .inr ⟨_, .inl rfl, .inl rfl⟩
    · exact .inr ⟨_, .inl rfl, .inr hr⟩
    · rcases ih hr with ⟨r', hr', h⟩ | ⟨copy, hcopy, h⟩
      · exact .inl ⟨r', .inr (.inr hr'), h⟩
      · exact .inr ⟨copy, .inr hcopy, h⟩
  | searched fence body rest hsource ihb ihr =>
    rw [keepBodies_of_no_source hsource] at hr
    rw [copies_of_no_source hsource]
    simp only [regions, List.mem_cons, List.mem_append] at hr ⊢
    rcases hr with rfl | hr | hr
    · exact .inl ⟨_, .inl rfl, hsource, rfl⟩
    · rcases ihb hr with ⟨r', hr', h⟩ | ⟨copy, hcopy, h⟩
      · exact .inl ⟨r', .inr (.inl hr'), h⟩
      · exact .inr ⟨copy, .inl hcopy, h⟩
    · rcases ihr hr with ⟨r', hr', h⟩ | ⟨copy, hcopy, h⟩
      · exact .inl ⟨r', .inr (.inr hr'), h⟩
      · exact .inr ⟨copy, .inr hcopy, h⟩

/-- Each region of the result has the markers of a region of the current document or of the previous
one. -/
theorem exists_fence_of_mem_keepBodies {s : Segments} {r : Region}
    (hr : r ∈ (s.keepBodies previous keep ids).regions) :
    ∃ r', (r' ∈ s.regions ∨ r' ∈ previous.regions) ∧ r'.fence = r.fence := by
  rcases mem_regions_keepBodies hr with ⟨r', hr', -, rfl⟩ | ⟨copy, hcopy, rfl | h⟩
  · exact ⟨r', .inl hr', rfl⟩
  · exact ⟨copy.1, .inl (mem_of_mem_copies hcopy).1, rfl⟩
  · -- the region came with the body of the source
    rcases exists_of_mem_regions_without h with ⟨r', hr', rfl⟩
    have hold := (mem_of_mem_copies hcopy).2.1
    exact ⟨r', .inr (regions_subset_of_mem_regions hold hr'), rfl⟩

end Copying

/-! ## The ids of copied bodies -/

section Ids

variable {previous : Document} {keep : Region → Bool} {ids : List Text}

/-- An id of the result is an id of the current segments, or it comes with a copied body. -/
theorem mem_ids_keepBodies {s : Segments} {x : Text}
    (hx : x ∈ (s.keepBodies previous keep ids).ids) :
    x ∈ s.ids ∨ ∃ r old, (r, old) ∈ s.copies previous keep ∧
      x ∈ (old.body.without (r.isElsewhere ids)).ids := by
  rcases mem_ids_iff.1 hx with ⟨q, hq, rfl⟩
  rcases mem_regions_keepBodies hq with ⟨r, hr, -, rfl⟩ | ⟨copy, hcopy, rfl | hcopied⟩
  · exact .inl (mem_ids_iff.2 ⟨r, hr, rfl⟩)
  · exact .inl (mem_ids_iff.2 ⟨copy.1, (mem_of_mem_copies hcopy).1, rfl⟩)
  · exact .inr ⟨copy.1, copy.2, hcopy, id_mem_ids hcopied⟩

/-- Of the ids of the current document, a copied body has only those of the region it is copied
to. -/
theorem mem_region_ids_of_mem_copy {s : Segments} {r : Region} {x : Text}
    (hx : x ∈ (s.without (r.isElsewhere ids)).ids) (hcurrent : x ∈ ids) : x ∈ r.ids := by
  have := away_eq_false_of_mem_without hx
  simpa [Region.isElsewhere, hcurrent] using this

/-- Two regions without a common id get bodies without a common id. For an id that the current
document does not have, both sources would have to hold it, one inside the other; but then the inner
one was left out of the copy of the outer one. -/
theorem copies_disjoint {s t : Segments} {r r' old old' : Region} {x : Text}
    (hs : s.ids ⊆ ids) (ht : t.ids ⊆ ids)
    (hr : (r, old) ∈ s.copies previous keep) (hr' : (r', old') ∈ t.copies previous keep)
    (hdisj : r.ids.Disjoint r'.ids)
    (hx : x ∈ (old.body.without (r.isElsewhere ids)).ids)
    (hx' : x ∈ (old'.body.without (r'.isElsewhere ids)).ids) : False := by
  rcases mem_of_mem_copies hr with ⟨hmem, hold, hid⟩
  rcases mem_of_mem_copies hr' with ⟨hmem', hold', hid'⟩
  by_cases hcurrent : x ∈ ids
  · exact hdisj (mem_region_ids_of_mem_copy hx hcurrent) (mem_region_ids_of_mem_copy hx' hcurrent)
  -- the id of either region counts as elsewhere for the other
  have haway : r.isElsewhere ids old'.fence.id = true := by
    have h : r'.fence.id ∉ r.ids := by
      intro h
      exact hdisj h List.mem_cons_self
    simpa [Region.isElsewhere, hid', h] using ht (id_mem_ids hmem')
  have haway' : r'.isElsewhere ids old.fence.id = true := by
    have h : r.fence.id ∉ r'.ids := hdisj List.mem_cons_self
    simpa [Region.isElsewhere, hid, h] using hs (id_mem_ids hmem)
  have hxold : x ∈ old.ids := List.mem_cons_of_mem _ (mem_ids_of_mem_without hx)
  have hxold' : x ∈ old'.ids := List.mem_cons_of_mem _ (mem_ids_of_mem_without hx')
  have hbody := nodup_ids_body_of_mem_regions previous.nodup hold
  have hbody' := nodup_ids_body_of_mem_regions previous.nodup hold'
  rcases nested_of_common_id previous.nodup hold hold' hxold hxold' with rfl | hin | hin
  · -- one source for both, so both regions have its id
    have hself : r.fence.id ∈ r'.ids := by rw [← hid, hid']; exact List.mem_cons_self
    exact hdisj List.mem_cons_self hself
  · -- the second source lies in the first, but was left out of its copy
    exact not_mem_without_of_mem_region hbody hin haway hxold' hx
  · exact not_mem_without_of_mem_region hbody' hin haway' hxold hx'

/-- The ids of the current document stay in the segments where they are. -/
theorem mem_ids_of_mem_keepBodies {s : Segments} {x : Text}
    (hx : x ∈ (s.keepBodies previous keep ids).ids) (hcurrent : x ∈ ids) : x ∈ s.ids := by
  rcases mem_ids_keepBodies hx with h | ⟨r, old, hmem, h⟩
  · exact h
  · exact ids_subset_of_mem_regions (mem_of_mem_copies hmem).1
      (mem_region_ids_of_mem_copy h hcurrent)

/-- Segments without a common id still have none when bodies are copied into them. -/
theorem disjoint_ids_keepBodies {s t : Segments} (hs : s.ids ⊆ ids) (ht : t.ids ⊆ ids)
    (hdisj : s.ids.Disjoint t.ids) :
    (s.keepBodies previous keep ids).ids.Disjoint (t.keepBodies previous keep ids).ids := by
  intro x hx hx'
  by_cases hcurrent : x ∈ ids
  · exact hdisj (mem_ids_of_mem_keepBodies hx hcurrent) (mem_ids_of_mem_keepBodies hx' hcurrent)
  · -- an id that only the previous document has comes with a copied body on both sides
    rcases mem_ids_keepBodies hx with h | ⟨r, old, hmem, h⟩
    · exact hcurrent (hs h)
    rcases mem_ids_keepBodies hx' with h' | ⟨r', old', hmem', h'⟩
    · exact hcurrent (ht h')
    have hregions : r.ids.Disjoint r'.ids := by
      intro y hy hy'
      have hys := ids_subset_of_mem_regions (mem_of_mem_copies hmem).1 hy
      have hyt := ids_subset_of_mem_regions (mem_of_mem_copies hmem').1 hy'
      exact hdisj hys hyt
    exact copies_disjoint hs ht hmem hmem' hregions h h'

/-- The first region with its new body shares no id with what is behind it. -/
theorem disjoint_first_keepBodies (previous : Document) (keep : Region → Bool) {fence : Fence}
    {body rest : Segments} (hs : (region fence body rest).ids.Nodup)
    (hsub : (region fence body rest).ids ⊆ ids) :
    ((region fence body nil).keepBodies previous keep ids).ids.Disjoint
      (rest.keepBodies previous keep ids).ids := by
  rcases nodup_ids_region.1 hs with ⟨-, hidr, -, -, hdisj⟩
  rcases ids_region_subset.1 hsub with ⟨hid, hsubb, hsubr⟩
  have hfirst : (region fence body nil).ids ⊆ ids :=
    ids_region_subset.2 ⟨hid, hsubb, List.nil_subset _⟩
  refine disjoint_ids_keepBodies hfirst hsubr ?_
  intro x hx hxr
  simp only [Segments.ids, List.append_nil, List.mem_cons] at hx
  rcases hx with rfl | hx
  · exact hidr hxr
  · exact hdisj hx hxr

/-- Copying bodies keeps ids unique. -/
theorem nodup_ids_keepBodies {s : Segments} (hs : s.ids.Nodup) (hsub : s.ids ⊆ ids) :
    (s.keepBodies previous keep ids).ids.Nodup := by
  induction s using copyInduction previous keep with
  | nil => simp [keepBodies, Segments.ids]
  | plain text rest ih => exact ih hs hsub
  | copied fence body rest old hsource ih =>
    rcases nodup_ids_region.1 hs with ⟨-, -, -, hrest, -⟩
    rcases ids_region_subset.1 hsub with ⟨-, -, hsubr⟩
    have hfirst := disjoint_first_keepBodies previous keep hs hsub
    rw [keepBodies_of_source hsource] at hfirst ⊢
    simp only [Segments.ids, keepBodies, List.append_nil, List.disjoint_cons_left] at hfirst
    -- the source holds no second region with its own id
    rcases Region.mem_of_source? hsource with ⟨hold, hid⟩
    have hnodup := nodup_ids_of_mem_regions previous.nodup hold
    rcases List.nodup_cons.1 hnodup with ⟨hidold, holdbody⟩
    refine nodup_ids_region.2 ⟨?_, hfirst.1, nodup_ids_without holdbody, ih hrest hsubr, hfirst.2⟩
    intro h
    exact hidold (hid ▸ mem_ids_of_mem_without h)
  | searched fence body rest hsource ihb ihr =>
    rcases nodup_ids_region.1 hs with ⟨hidb, -, hbody, hrest, -⟩
    rcases ids_region_subset.1 hsub with ⟨hid, hsubb, hsubr⟩
    have hfirst := disjoint_first_keepBodies previous keep hs hsub
    rw [keepBodies_of_no_source hsource] at hfirst ⊢
    simp only [Segments.ids, keepBodies, List.append_nil, List.disjoint_cons_left] at hfirst
    refine nodup_ids_region.2 ⟨?_, hfirst.1, ihb hbody hsubb, ihr hrest hsubr, hfirst.2⟩
    -- nothing of the current document comes into the body from outside
    intro h
    exact hidb (mem_ids_of_mem_keepBodies h hid)

end Ids

end Segments

namespace Document

/-- The current document with the kept bodies of the previous one. Its ids are unique. -/
def reconciled (current previous : Document) (keep : Region → Bool) : Document where
  segments := current.segments.keepBodies previous keep current.ids
  nodup := Segments.nodup_ids_keepBodies current.nodup (List.Subset.refl _)

/-- Reconciling two documents always gives a document: the current segments with their copied bodies
have unique ids, however regions were moved between the two. -/
theorem reconcile_eq_ok (current previous : Document) (keep : Region → Bool) :
    ∃ h : (current.segments.keepBodies previous keep current.ids).ids.Nodup,
      current.reconcile previous keep =
        .ok { segments := current.segments.keepBodies previous keep current.ids, nodup := h } :=
  ⟨(current.reconciled previous keep).nodup, of?_eq_ok _⟩

end Document

end KeptRegions
