import KeptRegions.Proofs.Document.Copying

namespace KeptRegions

/-!
# Regions that move

Between two runs a generator may move a region out of another one, into another one, or from one to
another. A copied body stands for all that the current document has in that place. So a region in a
kept region is in the result exactly if the copied body has it and keeps it (`mem_ids_merge_iff`). A
region that was moved from one kept region into another is lost (`merge_loses_moved_region`): at its
new place the copied body does not have it, and at its old place it is left out as one that belongs
elsewhere.
-/

namespace Segments

/-- The regions that lie in no other region. -/
def outermost : Segments → List Region
  | nil => []
  | plain _ rest => rest.outermost
  | region fence body rest => { fence, body } :: rest.outermost

variable {previous : Document} {keep : Region → Bool} {ids : List Text} {s : Segments} {x : Text}

theorem mem_regions_of_mem_outermost {r : Region} (hr : r ∈ s.outermost) : r ∈ s.regions := by
  induction s with
  | nil => cases hr
  | plain text rest ih => exact ih hr
  | region fence body rest ihb ihr =>
    simp only [regions, List.mem_cons, List.mem_append]
    rcases List.mem_cons.1 hr with rfl | hr
    · exact .inl rfl
    · exact .inr (.inr (ihr hr))

/-! ## Ids that stay -/

/-- Whether a copied body has the id if the body that it replaces has it. -/
def Brings (ids : List Text) (x : Text) (copy : Region × Region) : Prop :=
  x ∈ copy.1.body.ids → x ∈ (copy.2.body.without (copy.1.isElsewhere ids)).ids

/-- Copied bodies replace no id that the segments do not have. -/
theorem brings_of_not_mem (hx : x ∉ s.ids) :
    ∀ copy ∈ s.copies previous keep, Brings ids x copy := by
  intro copy hcopy hxr
  have hr := (mem_of_mem_copies hcopy).1
  exact absurd (ids_subset_of_mem_regions hr (List.mem_cons_of_mem _ hxr)) hx

/-- A copied body has the id if its source has it in no region that belongs elsewhere. -/
theorem brings_iff {r old : Region} (hold : old.body.ids.Nodup) :
    Brings ids x (r, old) ↔
      (x ∈ r.body.ids → x ∈ old.body.ids ∧
        ∀ q ∈ old.body.regions, x ∈ q.body.ids → r.isElsewhere ids q.fence.id = false) := by
  unfold Brings
  refine imp_congr_right fun hxr => ?_
  rw [mem_ids_without_iff hold]
  refine and_congr_right fun _ => ⟨fun h q hq hxq => ?_, fun h q hq hxq => ?_⟩
  · exact h q hq (List.mem_cons_of_mem _ hxq)
  · rcases List.mem_cons.1 hxq with rfl | hxq
    · -- the region with the id itself belongs where it is
      have hin : q.fence.id ∈ r.ids := List.mem_cons_of_mem _ hxr
      simp [Region.isElsewhere, hin]
    · exact h q hq hxq

/-- An id stays exactly if each copied body has it that replaces a body with it. -/
theorem mem_ids_keepBodies_iff (hs : s.ids.Nodup) (hsub : s.ids ⊆ ids) (hx : x ∈ s.ids) :
    x ∈ (s.keepBodies previous keep ids).ids ↔
      ∀ copy ∈ s.copies previous keep, Brings ids x copy := by
  have hcurrent : x ∈ ids := hsub hx
  -- an id of the current document that segments do not have does not come into them
  have stays_out : ∀ {t : Segments}, x ∉ t.ids → x ∉ (t.keepBodies previous keep ids).ids :=
    fun h => mt (fun h' => mem_ids_of_mem_keepBodies h' hcurrent) h
  induction s using copyInduction previous keep with
  | nil => cases hx
  | plain text rest ih => exact ih hs hsub hx
  | copied fence body rest old hsource ih =>
    rcases nodup_ids_region.1 hs with ⟨hidb, hidr, hbody, hrest, hdisj⟩
    rcases ids_region_subset.1 hsub with ⟨hid, hsubb, hsubr⟩
    rw [keepBodies_of_source hsource, copies_of_source hsource, List.forall_mem_cons]
    simp only [Segments.ids, List.mem_cons, List.mem_append, Brings] at hx ⊢
    by_cases hxr : x ∈ rest.ids
    · have hne : x ≠ fence.id := fun h => hidr (h ▸ hxr)
      have hxb : x ∉ body.ids := fun h => hdisj h hxr
      -- of the ids of the current document, a copied body has only those of its region
      have hcopy : x ∉ (old.body.without (Region.isElsewhere { fence, body } ids)).ids := by
        intro h
        rcases List.mem_cons.1 (mem_region_ids_of_mem_copy h hcurrent) with h | h
        · exact hne h
        · exact hxb h
      simp only [hne, hxb, hcopy, false_or, false_implies, true_and]
      exact ih hrest hsubr hxr
    · have hbehind : ∀ copy ∈ rest.copies previous keep, Brings ids x copy := brings_of_not_mem hxr
      simp only [stays_out hxr, hxr, or_false] at hx ⊢
      constructor
      · intro h
        refine ⟨fun hxb => ?_, hbehind⟩
        rcases h with rfl | h
        · exact absurd hxb hidb
        · exact h
      · intro h
        exact hx.imp_right h.1
  | searched fence body rest hsource ihb ihr =>
    rcases nodup_ids_region.1 hs with ⟨hidb, hidr, hbody, hrest, hdisj⟩
    rcases ids_region_subset.1 hsub with ⟨hid, hsubb, hsubr⟩
    rw [keepBodies_of_no_source hsource, copies_of_no_source hsource, List.forall_mem_append]
    simp only [Segments.ids, List.mem_cons, List.mem_append] at hx ⊢
    rcases hx with rfl | hx | hx
    · exact iff_of_true (.inl rfl) ⟨brings_of_not_mem hidb, brings_of_not_mem hidr⟩
    · have hne : x ≠ fence.id := fun h => hidb (h ▸ hx)
      have hxr : x ∉ rest.ids := fun h => hdisj hx h
      simp only [hne, stays_out hxr, false_or, or_false]
      exact (ihb hbody hsubb hx).trans (and_iff_left (brings_of_not_mem hxr)).symm
    · have hne : x ≠ fence.id := fun h => hidr (h ▸ hx)
      have hxb : x ∉ body.ids := fun h => hdisj h hx
      simp only [hne, stays_out hxb, false_or]
      exact (ihr hrest hsubr hx).trans (and_iff_right (brings_of_not_mem hxb)).symm

/-! ## Where every region is kept -/

/-- If all regions have a source, it is the outermost ones that take the body of theirs. -/
theorem mem_copies_iff_of_forall_source {r old : Region}
    (hall : ∀ r ∈ s.regions, r.source? previous keep ≠ none) :
    (r, old) ∈ s.copies previous keep ↔
      r ∈ s.outermost ∧ r.source? previous keep = some old := by
  induction s using copyInduction previous keep with
  | nil => simp [copies, outermost]
  | plain text rest ih => exact ih hall
  | copied fence body rest found hsource ih =>
    have hrest := ih fun r hr => hall r (by simp [regions, hr])
    rw [copies_of_source hsource, outermost, List.mem_cons, List.mem_cons, hrest]
    constructor
    · rintro (heq | ⟨hr, hold⟩)
      · cases heq
        exact ⟨.inl rfl, hsource⟩
      · exact ⟨.inr hr, hold⟩
    · rintro ⟨rfl | hr, hold⟩
      · rw [hsource] at hold
        cases hold
        exact .inl rfl
      · exact .inr ⟨hr, hold⟩
  | searched fence body rest hsource ihb ihr =>
    exact absurd hsource (hall _ (by simp [regions]))

/-- If all regions have a source, each region of the result has the body that the previous document
has under its id, less what belongs elsewhere than to the outermost region around it. -/
theorem exists_body_of_mem_keepBodies {q : Region}
    (hall : ∀ r ∈ s.regions, r.source? previous keep ≠ none)
    (hq : q ∈ (s.keepBodies previous keep ids).regions) (hcurrent : q.fence.id ∈ ids) :
    ∃ r ∈ s.outermost, q.fence.id ∈ r.ids ∧ ∃ old ∈ previous.find? q.fence.id,
      q.body = old.body.without (r.isElsewhere ids) := by
  rcases mem_regions_keepBodies hq with ⟨r, hr, hnone, -⟩ | ⟨⟨r, old⟩, hcopy, h⟩
  · exact absurd hnone (hall r hr)
  have hr := ((mem_copies_iff_of_forall_source hall).1 hcopy).1
  have hold := (mem_of_mem_copies hcopy).2
  rcases h with rfl | h
  · refine ⟨r, hr, List.mem_cons_self, old, ?_, rfl⟩
    have hfind := find?_of_mem_regions previous.nodup hold.1
    rwa [hold.2] at hfind
  · -- the region came with the body of the outermost one
    have hin := mem_region_ids_of_mem_copy (id_mem_ids h) hcurrent
    rcases exists_of_mem_regions_without h with ⟨old', hold', rfl⟩
    have hmem := regions_subset_of_mem_regions hold.1 hold'
    exact ⟨r, hr, hin, old', find?_of_mem_regions previous.nodup hmem, rfl⟩

end Segments

namespace Document

variable {current previous : Document}

/-- If every region of the current document is enabled and the previous document has its id too,
then the merged document has the id exactly if the outermost region around it brings it along: in the
previous document the outermost region has to hold it as well, and no region in between may now
belong elsewhere. What the merged document has under the id is the previous body. -/
theorem mem_ids_merge_iff
    (hshared : ∀ r ∈ current.regions, r.enabled = true ∧ r.fence.id ∈ previous.ids) :
    ∃ merged, current.merge previous = .ok merged ∧
      ∀ x ∈ current.ids,
        (x ∈ merged.ids ↔
          ∀ r ∈ current.segments.outermost, x ∈ r.body.ids →
            ∃ old ∈ previous.find? r.fence.id, x ∈ old.body.ids ∧
              ∀ q ∈ old.body.regions, x ∈ q.body.ids →
                r.isElsewhere current.ids q.fence.id = false) ∧
        ∀ q ∈ merged.find? x,
          ∃ r ∈ current.segments.outermost, x ∈ r.ids ∧
            ∃ old ∈ previous.find? x,
              q.body = old.body.without (r.isElsewhere current.ids) := by
  have hall : ∀ r ∈ current.segments.regions, r.source? previous Region.enabled ≠ none := by
    intro r hr
    rcases hshared r hr with ⟨henabled, hid⟩
    rcases Segments.exists_find?_of_mem_ids previous.nodup hid with ⟨old, hold⟩
    rw [Region.source?_eq_some_iff.2 ⟨henabled, hold⟩]
    exact Option.some_ne_none old
  refine ⟨current.reconciled previous Region.enabled, of?_eq_ok _, fun x hx => ⟨?_, ?_⟩⟩
  · refine (Segments.mem_ids_keepBodies_iff current.nodup (List.Subset.refl _) hx).trans ?_
    constructor
    · -- an outermost region is enabled, and the previous document has it
      intro h r hr hxr
      obtain ⟨old, hsource⟩ :=
        Option.ne_none_iff_exists'.1 (hall r (Segments.mem_regions_of_mem_outermost hr))
      have hcopy := (Segments.mem_copies_iff_of_forall_source hall).2 ⟨hr, hsource⟩
      have hold := Segments.nodup_ids_body_of_mem_regions previous.nodup
        (Region.mem_of_source? hsource).1
      exact ⟨old, (Region.source?_eq_some_iff.1 hsource).2,
        (Segments.brings_iff hold).1 (h _ hcopy) hxr⟩
    · -- what is found under the id of an outermost region is its source
      rintro h ⟨r, old⟩ hcopy
      rcases (Segments.mem_copies_iff_of_forall_source hall).1 hcopy with ⟨hr, hsource⟩
      have hold := Segments.nodup_ids_body_of_mem_regions previous.nodup
        (Region.mem_of_source? hsource).1
      refine (Segments.brings_iff hold).2 fun hxr => ?_
      rcases h r hr hxr with ⟨old', hfind, hbrings⟩
      have hfind' := (Region.source?_eq_some_iff.1 hsource).2
      obtain rfl : old' = old := Option.some.inj (hfind.symm.trans hfind')
      exact hbrings
  · intro q hq
    rcases Segments.mem_regions_of_find? hq with ⟨hmem, rfl⟩
    exact Segments.exists_body_of_mem_keepBodies hall hmem hx

/-- A region comes along within its kept region, where the developer put another one around it, and
a region that was moved out is found at its new place. -/
theorem merge_keeps_region_moved_out :
    ∃ current previous merged : Document,
      (∀ r ∈ current.regions, r.enabled = true ∧ r.fence.id ∈ previous.ids) ∧
        current.merge previous = .ok merged ∧
        "m".toList ∈ merged.ids ∧ "z".toList ∈ merged.ids := by
  let region := fun id => Segments.region (.block id true)
  let current : Document :=
    { segments := region "a" (region "m" .nil .nil) (region "z" .nil .nil), nodup := by decide }
  let previous : Document :=
    { segments :=
        region "a" (region "b" (region "m" (.plain ['x'] .nil) .nil) (region "z" .nil .nil)) .nil
      nodup := by decide }
  have hshared : ∀ r ∈ current.regions, r.enabled = true ∧ r.fence.id ∈ previous.ids := by
    decide
  obtain ⟨merged, hmerge, h⟩ := mem_ids_merge_iff hshared
  have hm := (h "m".toList (by decide)).1.2 (by decide)
  have hz := (h "z".toList (by decide)).1.2 (by decide)
  exact ⟨current, previous, merged, hshared, hmerge, hm, hz⟩

/-- A region that was moved from a kept region into another one is lost. -/
theorem merge_loses_moved_region :
    ¬ ∀ current previous : Document,
      (∀ r ∈ current.regions, r.enabled = true ∧ r.fence.id ∈ previous.ids) →
      ∃ merged, current.merge previous = .ok merged ∧ ∀ x ∈ current.ids, x ∈ merged.ids := by
  intro h
  let region := fun id => Segments.region (.block id true)
  let edited := Segments.plain "edited".toList .nil
  let current : Document :=
    { segments := region "a" (region "m" (.plain "new".toList .nil) .nil) (region "z" .nil .nil)
      nodup := by decide }
  let previous : Document :=
    { segments := region "a" .nil (region "z" (region "m" edited .nil) .nil), nodup := by decide }
  obtain ⟨merged, hmerge, hall⟩ := h current previous (by decide)
  have hids : (current.merge previous).map ids = .ok ["a".toList, "z".toList] := by decide
  rw [hmerge] at hids
  have hm : "m".toList ∈ merged.ids := hall _ (by decide)
  rw [Except.ok.inj hids] at hm
  exact absurd hm (by decide)

end Document

end KeptRegions
