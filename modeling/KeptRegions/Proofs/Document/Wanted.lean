import KeptRegions.Proofs.Document.Copying

namespace KeptRegions

/-!
# What matters of the previous document

A region that the policy keeps asks the previous document for a body under its id. The answers to
these questions are all that reconciling uses of the previous document (`reconcile_congr`): its text
outside of the regions asked for, its order and nesting, its markers and flags, and the bodies of
regions that are not kept make no difference.
-/

namespace Document

/-- Whether the document has a region with the id and the body, in whatever place and between
whatever markers. -/
def Offers (d : Document) (id : Text) (body : Segments) : Prop :=
  ∃ r ∈ d.regions, r.fence.id = id ∧ r.body = body

/-- Whether two documents answer alike when asked for a body: neither has the id, or both have it
with the same body. -/
def OffersAlike (d e : Document) (id : Text) : Prop :=
  (id ∉ d.ids ∧ id ∉ e.ids) ∨ ∃ body, d.Offers id body ∧ e.Offers id body

variable {d e : Document} {id : Text} {body : Segments}

theorem Offers.exists_find? (h : d.Offers id body) : ∃ r, d.find? id = some r ∧ r.body = body := by
  rcases h with ⟨r, hr, rfl, hbody⟩
  exact ⟨r, Segments.find?_of_mem_regions d.nodup hr, hbody⟩

theorem find?_eq_none_of_not_mem (h : id ∉ d.ids) : d.find? id = none := by
  rw [Option.eq_none_iff_forall_ne_some]
  intro r hr
  rcases Segments.mem_regions_of_find? hr with ⟨hmem, rfl⟩
  exact h (Segments.id_mem_ids hmem)

theorem OffersAlike.map_body_find? (h : d.OffersAlike e id) :
    (d.find? id).map Region.body = (e.find? id).map Region.body := by
  rcases h with ⟨hd, he⟩ | ⟨body, hd, he⟩
  · rw [find?_eq_none_of_not_mem hd, find?_eq_none_of_not_mem he]
  · rcases hd.exists_find? with ⟨r, hr, hbody⟩
    rcases he.exists_find? with ⟨r', hr', hbody'⟩
    rw [hr, hr', Option.map_some, Option.map_some, hbody, hbody']

end Document

/-! ## Two previous documents -/

section Sources

variable {previous previous' : Document} {keep : Region → Bool} {ids : List Text}

theorem Region.map_body_source? {r : Region}
    (h : keep r = true → previous.OffersAlike previous' r.fence.id) :
    (r.source? previous keep).map Region.body = (r.source? previous' keep).map Region.body := by
  unfold Region.source?
  by_cases hkeep : keep r = true
  · rw [if_pos hkeep, if_pos hkeep]
    exact (h hkeep).map_body_find?
  · rw [if_neg hkeep, if_neg hkeep]

/-- The same bodies are copied from documents in which the sources have equal bodies. -/
theorem Segments.keepBodies_congr {s : Segments}
    (h : ∀ r ∈ s.regions,
      (r.source? previous keep).map Region.body = (r.source? previous' keep).map Region.body) :
    s.keepBodies previous keep ids = s.keepBodies previous' keep ids := by
  induction s using copyInduction previous keep with
  | nil => rfl
  | plain text rest ih => rw [keepBodies, keepBodies, ih h]
  | copied fence body rest old hsource ih =>
    simp only [regions, List.mem_cons, List.mem_append] at h
    have hself := h _ (.inl rfl)
    rw [hsource] at hself
    -- the other document has a source too, and its body is the same
    rcases Option.map_eq_some_iff.1 hself.symm with ⟨old', hsource', hbody⟩
    have hrest := ih fun r hr => h r (.inr (.inr hr))
    rw [keepBodies_of_source hsource, keepBodies_of_source hsource', hbody, hrest]
  | searched fence body rest hnone ihb ihr =>
    simp only [regions, List.mem_cons, List.mem_append] at h
    have hself := h _ (.inl rfl)
    rw [hnone] at hself
    have hnone' := Option.map_eq_none_iff.1 hself.symm
    have hbody := ihb fun r hr => h r (.inr (.inl hr))
    have hrest := ihr fun r hr => h r (.inr (.inr hr))
    rw [keepBodies_of_no_source hnone, keepBodies_of_no_source hnone', hbody, hrest]

end Sources

namespace Document

variable {current previous previous' : Document}

theorem reconcile_congr_of_offersAlike {keep : Region → Bool}
    (h : ∀ r ∈ current.regions, keep r = true → previous.OffersAlike previous' r.fence.id) :
    current.reconcile previous keep = current.reconcile previous' keep := by
  have hbodies : current.segments.keepBodies previous keep current.ids =
      current.segments.keepBodies previous' keep current.ids :=
    Segments.keepBodies_congr fun r hr => Region.map_body_source? (h r hr)
  rw [reconcile, reconcile, hbodies]

/-- Two previous documents give the same result if for each region that the policy keeps they answer
alike: neither has its id, or both have it with the same body. So merging asks for nothing but the
bodies of enabled regions, and filling in for nothing but those of disabled ones. -/
theorem reconcile_congr (current previous previous' : Document) :
    (∀ keep : Region → Bool,
      (∀ r ∈ current.regions, keep r = true → previous.OffersAlike previous' r.fence.id) →
      current.reconcile previous keep = current.reconcile previous' keep) ∧
    ((∀ r ∈ current.regions, r.enabled = true → previous.OffersAlike previous' r.fence.id) →
      current.merge previous = current.merge previous') ∧
    ((∀ r ∈ current.regions, r.enabled = false → previous.OffersAlike previous' r.fence.id) →
      current.fillIn previous = current.fillIn previous') := by
  refine ⟨fun keep h => reconcile_congr_of_offersAlike h, ?_, ?_⟩
  · intro h
    exact reconcile_congr_of_offersAlike h
  · intro h
    refine reconcile_congr_of_offersAlike fun r hr hkeep => h r hr ?_
    simpa using hkeep

/-- Two previous documents with the same body of the region `a`. In the second one its markers and
flag are others, it lies in `d`, which comes first and has another body, and the text is gone. -/
theorem reconcile_congr_rearranged :
    let region := fun id enabled => Segments.region (.block id enabled)
    let line : Fence :=
      { id := "a".toList, enabled := false, opening := "// a".toList, closing := "// end".toList }
    let body := Segments.plain ['x'] (region "m" true .nil .nil)
    ∃ previous previous' : Document,
      previous.segments =
        .plain ['t'] (region "a" true body (region "d" true (.plain ['u'] .nil) .nil)) ∧
      previous'.segments = region "d" false (.region line body (.plain ['v'] .nil)) .nil ∧
      (∃ current result : Document, current.merge previous = .ok result ∧
        current.merge previous' = .ok result ∧
        result.segments = region "d" false (.plain ['g'] .nil) (region "a" true body .nil)) ∧
      ∃ current result : Document, current.fillIn previous = .ok result ∧
        current.fillIn previous' = .ok result ∧
        result.segments = region "d" true (.plain ['g'] .nil) (region "a" false body .nil) := by
  intro region line body
  let previous : Document :=
    { segments := .plain ['t'] (region "a" true body (region "d" true (.plain ['u'] .nil) .nil))
      nodup := by decide }
  let previous' : Document :=
    { segments := region "d" false (.region line body (.plain ['v'] .nil)) .nil
      nodup := by decide }
  have hoffers : previous.OffersAlike previous' "a".toList := by
    refine .inr ⟨body, ?_, ?_⟩
    · exact ⟨{ fence := .block "a" true, body }, by decide, rfl, rfl⟩
    · exact ⟨{ fence := line, body }, by decide, rfl, rfl⟩
  refine ⟨previous, previous', rfl, rfl, ?_, ?_⟩
  · let current : Document :=
      { segments := region "d" false (.plain ['g'] .nil) (region "a" true .nil .nil)
        nodup := by decide }
    have hasks : ∀ r ∈ current.regions, r.enabled = true → r.fence.id = "a".toList := by decide
    have hsame : current.merge previous = current.merge previous' := by
      refine (reconcile_congr current previous previous').2.1 fun r hr henabled => ?_
      rw [hasks r hr henabled]
      exact hoffers
    have hresult : current.merge previous = .ok (current.reconciled previous Region.enabled) :=
      of?_eq_ok (current.reconciled previous Region.enabled).nodup
    exact ⟨current, _, hresult, hsame ▸ hresult, by decide⟩
  · let current : Document :=
      { segments := region "d" true (.plain ['g'] .nil) (region "a" false .nil .nil)
        nodup := by decide }
    have hasks : ∀ r ∈ current.regions, r.enabled = false → r.fence.id = "a".toList := by decide
    have hsame : current.fillIn previous = current.fillIn previous' := by
      refine (reconcile_congr current previous previous').2.2 fun r hr henabled => ?_
      rw [hasks r hr henabled]
      exact hoffers
    let disabled : Region → Bool := fun r => !r.enabled
    have hresult : current.fillIn previous = .ok (current.reconciled previous disabled) :=
      of?_eq_ok (current.reconciled previous disabled).nodup
    exact ⟨current, _, hresult, hsame ▸ hresult, by decide⟩

end Document

end KeptRegions
