import KeptRegions.Proofs.Document.Copying
import KeptRegions.Proofs.Document.Layout

namespace KeptRegions

/-!
# Canonical segments

Segments are canonical if at every depth no plain text is empty and no two plain texts are next to
each other. Reading gives canonical segments, and leaving regions out and copying bodies keep them
canonical. Without the first condition segments are spaced. Joining all plain texts that are next to
each other makes segments spaced and changes nothing else. Seen level by level, canonical segments
are those whose levels are all tidy (`canonical_iff_levels`).
-/

namespace Segments

/-- Whether the first segment is plain text. -/
def startsPlain : Segments → Bool
  | plain _ _ => true
  | _ => false

/-- No plain text is empty, and none is next to another. -/
def Canonical : Segments → Prop
  | nil => True
  | plain text rest => text ≠ [] ∧ rest.startsPlain = false ∧ rest.Canonical
  | region _ body rest => body.Canonical ∧ rest.Canonical

/-- No plain text is next to another. -/
def Spaced : Segments → Prop
  | nil => True
  | plain _ rest => rest.startsPlain = false ∧ rest.Spaced
  | region _ body rest => body.Spaced ∧ rest.Spaced

/-- The segments with all plain texts joined that are next to each other. -/
def joined (s : Segments) : Segments :=
  s.without fun _ => false

variable {s : Segments} {text : Text} {away away' : Text → Bool}

theorem Canonical.spaced (hs : s.Canonical) : s.Spaced := by
  induction s with
  | nil => trivial
  | plain text rest ih => exact ⟨hs.2.1, ih hs.2.2⟩
  | region fence body rest ihb ihr => exact ⟨ihb hs.1, ihr hs.2⟩

/-! ## Joining plain text -/

theorem joinPlain_of_not_startsPlain (h : s.startsPlain = false) :
    s.joinPlain text = plain text s := by
  cases s with
  | plain => cases h
  | nil => rfl
  | region => rfl

theorem Canonical.joinPlain (hs : s.Canonical) (htext : text ≠ []) :
    (s.joinPlain text).Canonical := by
  cases s with
  | nil => exact ⟨htext, rfl, hs⟩
  | plain next rest => exact ⟨by simp [htext], hs.2⟩
  | region fence body rest => exact ⟨htext, rfl, hs⟩

theorem Spaced.joinPlain (hs : s.Spaced) : (s.joinPlain text).Spaced := by
  cases s with
  | nil => exact ⟨rfl, hs⟩
  | plain next rest => exact hs
  | region fence body rest => exact ⟨rfl, hs⟩

theorem spaced_without (s : Segments) : (s.without away).Spaced := by
  induction s with
  | nil => trivial
  | plain text rest ih => exact ih.joinPlain
  | region fence body rest ihb ihr =>
    simp only [Segments.without]
    split
    · exact ihr
    · exact ⟨ihb, ihr⟩

theorem Spaced.joined_eq (hs : s.Spaced) : s.joined = s := by
  induction s with
  | nil => rfl
  | plain text rest ih =>
    have hrest : rest.joined = rest := ih hs.2
    calc (plain text rest).joined = rest.joined.joinPlain text := rfl
      _ = rest.joinPlain text := by rw [hrest]
      _ = plain text rest := joinPlain_of_not_startsPlain hs.1
  | region fence body rest ihb ihr =>
    have hbody : body.joined = body := ihb hs.1
    have hrest : rest.joined = rest := ihr hs.2
    calc (region fence body rest).joined = region fence body.joined rest.joined := rfl
      _ = region fence body rest := by rw [hbody, hrest]

@[simp] theorem joined_joined (s : Segments) : s.joined.joined = s.joined :=
  (spaced_without s).joined_eq

/-- If no region is to be left out, plain texts are joined and nothing else changes. -/
theorem without_eq_joined (haway : ∀ x ∈ s.ids, away x = false) : s.without away = s.joined := by
  induction s with
  | nil => rfl
  | plain text rest ih =>
    calc (plain text rest).without away = (rest.without away).joinPlain text := rfl
      _ = rest.joined.joinPlain text := by rw [ih haway]
  | region fence body rest ihb ihr =>
    simp only [ids, List.mem_cons, List.mem_append] at haway
    have hfence : away fence.id = false := haway _ (.inl rfl)
    have hbody := ihb fun x hx => haway x (.inr (.inl hx))
    have hrest := ihr fun x hx => haway x (.inr (.inr hx))
    simp only [Segments.without, hfence, Bool.false_eq_true, if_false, hbody, hrest]
    rfl

theorem joinPlain_joinPlain (text next : Text) (s : Segments) :
    (s.joinPlain next).joinPlain text = s.joinPlain (text ++ next) := by
  cases s <;> simp [joinPlain]

/-- A text in front is joined to what remains. -/
theorem without_joinPlain (text : Text) (s : Segments) :
    (s.joinPlain text).without away = (s.without away).joinPlain text := by
  cases s with
  | nil => rfl
  | region fence body rest => rfl
  | plain next rest =>
    calc ((plain next rest).joinPlain text).without away
        = (rest.without away).joinPlain (text ++ next) := rfl
      _ = ((rest.without away).joinPlain next).joinPlain text := (joinPlain_joinPlain ..).symm

/-- What is left out in two steps can be left out in one. -/
theorem without_without_or (s : Segments) (away away' : Text → Bool) :
    (s.without away).without away' = s.without fun x => away x || away' x := by
  induction s with
  | nil => rfl
  | plain text rest ih =>
    calc ((rest.without away).joinPlain text).without away'
        = ((rest.without away).without away').joinPlain text := without_joinPlain ..
      _ = (rest.without fun x => away x || away' x).joinPlain text := by rw [ih]
  | region fence body rest ihb ihr =>
    cases haway : away fence.id with
    | true => simp [Segments.without, haway, ihr]
    | false =>
      -- the first step keeps the region, so the second one decides
      cases haway' : away' fence.id <;> simp [Segments.without, haway, haway', ihb, ihr]

/-- What is left out once is left out for good. -/
theorem without_without (s : Segments) : (s.without away).without away = s.without away := by
  simp [without_without_or]

@[simp] theorem content_joined (s : Segments) : s.joined.content = s.content := by
  induction s with
  | nil => rfl
  | plain text rest ih =>
    calc (rest.joined.joinPlain text).content = text ++ rest.joined.content := by simp
      _ = text ++ rest.content := by rw [ih]
  | region fence body rest ihb ihr =>
    calc (region fence body.joined rest.joined).content
        = fence.opening ++ (body.joined.content ++ (fence.closing ++ rest.joined.content)) := rfl
      _ = (region fence body rest).content := by rw [ihb, ihr, content]

@[simp] theorem ids_joined (s : Segments) : s.joined.ids = s.ids := by
  induction s with
  | nil => rfl
  | plain text rest ih =>
    calc (rest.joined.joinPlain text).ids = rest.joined.ids := by simp
      _ = rest.ids := ih
  | region fence body rest ihb ihr =>
    calc (region fence body.joined rest.joined).ids
        = fence.id :: (body.joined.ids ++ rest.joined.ids) := rfl
      _ = (region fence body rest).ids := by rw [ihb, ihr, ids]

/-! ## Leaving regions out and copying bodies -/

theorem Canonical.body {r : Region} (hs : s.Canonical) (hr : r ∈ s.regions) :
    r.body.Canonical := by
  induction s with
  | nil => simp [regions] at hr
  | plain text rest ih => exact ih hs.2.2 hr
  | region fence body rest ihb ihr =>
    simp only [regions, List.mem_cons, List.mem_append] at hr
    rcases hr with rfl | hr | hr
    · exact hs.1
    · exact ihb hs.1 hr
    · exact ihr hs.2 hr

/-- Texts that come to stand next to each other are joined. -/
theorem Canonical.without (hs : s.Canonical) : (s.without away).Canonical := by
  induction s with
  | nil => trivial
  | plain text rest ih => exact (ih hs.2.2).joinPlain hs.1
  | region fence body rest ihb ihr =>
    simp only [Segments.without]
    split
    · -- the region is left out
      exact ihr hs.2
    · exact ⟨ihb hs.1, ihr hs.2⟩

section Copying

variable {previous : Document} {keep : Region → Bool} {ids : List Text}

/-- Copying bodies changes no segment outside of regions into another kind. -/
theorem startsPlain_keepBodies :
    (s.keepBodies previous keep ids).startsPlain = s.startsPlain := by
  induction s using copyInduction previous keep with
  | nil => rfl
  | plain text rest ih => rfl
  | copied fence body rest old hsource ih => rw [keepBodies_of_source hsource]; rfl
  | searched fence body rest hsource ihb ihr => rw [keepBodies_of_no_source hsource]; rfl

theorem Spaced.keepBodies (hs : s.Spaced) : (s.keepBodies previous keep ids).Spaced := by
  induction s using copyInduction previous keep with
  | nil => trivial
  | plain text rest ih => exact ⟨by rw [startsPlain_keepBodies]; exact hs.1, ih hs.2⟩
  | copied fence body rest old hsource ih =>
    rw [keepBodies_of_source hsource]
    exact ⟨spaced_without old.body, ih hs.2⟩
  | searched fence body rest hsource ihb ihr =>
    rw [keepBodies_of_no_source hsource]
    exact ⟨ihb hs.1, ihr hs.2⟩

theorem Canonical.keepBodies (hs : s.Canonical) (hprevious : previous.segments.Canonical) :
    (s.keepBodies previous keep ids).Canonical := by
  induction s using copyInduction previous keep with
  | nil => trivial
  | plain text rest ih => exact ⟨hs.1, by rw [startsPlain_keepBodies]; exact hs.2.1, ih hs.2.2⟩
  | copied fence body rest old hsource ih =>
    -- regions are left out of the copy, and the texts around them are joined
    rw [keepBodies_of_source hsource]
    exact ⟨(hprevious.body (Region.mem_of_source? hsource).1).without, ih hs.2⟩
  | searched fence body rest hsource ihb ihr =>
    rw [keepBodies_of_no_source hsource]
    exact ⟨ihb hs.1, ihr hs.2⟩

end Copying

end Segments

/-- What is laid out as pieces is canonical. -/
theorem Layout.canonical {rules : MarkerRules} {qs : List Slice} {s : Segments}
    (h : Layout rules qs s) : s.Canonical := by
  induction h with
  | nil => trivial
  | plain hq h ih =>
    simp only [Part.before]
    split
    · exact ih
    · rename_i hne
      exact ih.joinPlain (by simpa using hne)
  | region hq hid hne hbody hq' h ihb ih => exact ⟨ihb, ih⟩

/-! ## Reconciled documents -/

namespace RegionReader

variable {reader : RegionReader} {currentText previousText : Text} {current previous : Document}

/-- Documents that were read have canonical segments, and so has the result of reconciling them. -/
theorem canonical_reconciled (hcurrent : reader.read currentText = .ok current)
    (hprevious : reader.read previousText = .ok previous) (keep : Region → Bool) :
    (current.reconciled previous keep).segments.Canonical :=
  (read_eq_ok_iff.1 hcurrent).2.canonical.keepBodies (read_eq_ok_iff.1 hprevious).2.canonical

/-- The regions of the result follow their markers. -/
theorem follows_reconciled (hcurrent : reader.read currentText = .ok current)
    (hprevious : reader.read previousText = .ok previous) (keep : Region → Bool) :
    ∀ r ∈ (current.reconciled previous keep).regions, r.fence.Follows reader.rules := by
  intro r hr
  rcases Segments.exists_fence_of_mem_keepBodies hr with ⟨r', hr', hfence⟩
  rw [← hfence]
  rcases hr' with hr' | hr'
  · exact follows_of_read hcurrent hr'
  · exact follows_of_read hprevious hr'

end RegionReader

/-! ## Levels -/

/-- The parts of the outermost level, in document order. -/
def Segments.parts : Segments → List Part
  | nil => []
  | plain text rest => .plain text :: rest.parts
  | region fence body rest => .region fence body :: rest.parts

/-- The parts of every level: those at the top, and those in the body of each region. -/
def Segments.levels (s : Segments) : List (List Part) :=
  s.parts :: s.regions.map fun r => r.body.parts

/-- No plain text of the level is empty, and none stands right behind another one. -/
structure Tidy (level : List Part) : Prop where
  filled : Part.plain [] ∉ level
  apart : ∀ text next, ¬ [Part.plain text, Part.plain next] <:+: level

section Levels

variable {s : Segments} {level : List Part} {text : Text} {fence : Fence} {body : Segments}

theorem tidy_nil : Tidy [] :=
  ⟨List.not_mem_nil, fun text next h => by simpa using List.infix_nil.1 h⟩

theorem tidy_plain_cons_iff :
    Tidy (.plain text :: level) ↔
      text ≠ [] ∧ (∀ next, ¬ [Part.plain next] <+: level) ∧ Tidy level := by
  constructor
  · intro h
    have hfilled := h.filled
    simp only [List.mem_cons, not_or] at hfilled
    refine ⟨fun htext => hfilled.1 (by rw [htext]), ?_, hfilled.2, ?_⟩
    · intro next hnext
      have hprefix : [Part.plain text, .plain next] <+: .plain text :: level := by
        simpa using hnext
      exact h.apart text next hprefix.isInfix
    · intro a b hab
      exact h.apart a b (List.infix_cons hab)
  · rintro ⟨htext, hnext, hlevel⟩
    constructor
    · simp only [List.mem_cons, Part.plain.injEq, not_or]
      exact ⟨fun h => htext h.symm, hlevel.filled⟩
    · intro a b hab
      rcases List.infix_cons_iff.1 hab with hab | hab
      · exact hnext b (List.cons_prefix_cons.1 hab).2
      · exact hlevel.apart a b hab

theorem tidy_region_cons_iff : Tidy (.region fence body :: level) ↔ Tidy level := by
  constructor
  · intro h
    exact ⟨fun hmem => h.filled (List.mem_cons_of_mem _ hmem),
      fun a b hab => h.apart a b (List.infix_cons hab)⟩
  · intro h
    constructor
    · simpa using h.filled
    · intro a b hab
      rcases List.infix_cons_iff.1 hab with hab | hab
      · exact absurd (List.cons_prefix_cons.1 hab).1 (by simp)
      · exact h.apart a b hab

theorem startsPlain_eq_false_iff :
    s.startsPlain = false ↔ ∀ next, ¬ [Part.plain next] <+: s.parts := by
  cases s with
  | nil => simp [Segments.startsPlain, Segments.parts]
  | plain text rest => simp [Segments.startsPlain, Segments.parts]
  | region fence body rest => simp [Segments.startsPlain, Segments.parts]

/-- Segments are canonical if each of their levels is tidy. -/
theorem canonical_iff_levels : s.Canonical ↔ ∀ level ∈ s.levels, Tidy level := by
  induction s with
  | nil =>
    have hlevels : Segments.nil.levels = [[]] := rfl
    simp [hlevels, Segments.Canonical, tidy_nil]
  | plain text rest ih =>
    have hlevels : (Segments.plain text rest).levels =
        (.plain text :: rest.parts) :: rest.regions.map fun r => r.body.parts := rfl
    rw [Segments.Canonical, ih, startsPlain_eq_false_iff, hlevels, Segments.levels,
      List.forall_mem_cons, List.forall_mem_cons, tidy_plain_cons_iff, and_assoc, and_assoc]
  | region fence body rest ihb ihr =>
    have hlevels : (Segments.region fence body rest).levels =
        (.region fence body :: rest.parts) ::
          (body.levels ++ rest.regions.map fun r => r.body.parts) := by
      simp [Segments.levels, Segments.parts, Segments.regions]
    rw [Segments.Canonical, ihb, ihr, hlevels, List.forall_mem_cons, List.forall_mem_append,
      tidy_region_cons_iff, Segments.levels, Segments.levels, List.forall_mem_cons,
      List.forall_mem_cons]
    exact and_left_comm

end Levels

/-! ## What is read and reconciled -/

/-- Two texts that can be read and merged are the texts of two documents that can be merged, and what
is found out about these on the way is true of them. -/
theorem RegionReader.exists_of_read_merge {reader : RegionReader} {currentText previousText : Text}
    {α : Type} {found : Document → Document → Document → α} {a : α}
    (h : (do
      let current ← reader.read currentText
      let previous ← reader.read previousText
      let result ← current.merge previous
      return found current previous result : Except RegionFault α) = .ok a) :
    ∃ current previous result, reader.read currentText = .ok current ∧
      reader.read previousText = .ok previous ∧ current.merge previous = .ok result ∧
        found current previous result = a := by
  rcases exists_eq_ok_of_bind h with ⟨current, hcurrent, h⟩
  rcases exists_eq_ok_of_bind h with ⟨previous, hprevious, h⟩
  rcases exists_eq_ok_of_bind h with ⟨result, hmerge, h⟩
  exact ⟨current, previous, result, hcurrent, hprevious, hmerge, Except.ok.inj h⟩

namespace Document

/-- Whatever is read has tidy levels only. So has what documents with tidy levels are reconciled to,
also where regions are left out of a copied body. -/
theorem tidy_of_read_and_reconcile :
    (∀ (reader : RegionReader) (text : Text) (d : Document), reader.read text = .ok d →
      ∀ level ∈ d.segments.levels, Tidy level) ∧
    ∀ (current previous : Document) (keep : Region → Bool),
      (∀ level ∈ current.segments.levels, Tidy level) →
      (∀ level ∈ previous.segments.levels, Tidy level) →
      ∃ result, current.reconcile previous keep = .ok result ∧
        ∀ level ∈ result.segments.levels, Tidy level := by
  constructor
  · intro reader text d hread
    rw [← canonical_iff_levels]
    exact (RegionReader.read_eq_ok_iff.1 hread).2.canonical
  · intro current previous keep hcurrent hprevious
    rw [← canonical_iff_levels] at hcurrent hprevious
    have hresult : (current.reconciled previous keep).segments.Canonical :=
      hcurrent.keepBodies hprevious
    exact ⟨current.reconciled previous keep, of?_eq_ok _, canonical_iff_levels.1 hresult⟩

/-- Three regions are moved out of the body that is kept. Two of them stand side by side and the
third one at its end; the texts around them become one. -/
theorem tidy_of_read_and_merge_moved_regions :
    let reader := RegionReader.slashes .flat true
    let region := fun (id : Char) (body : Text) =>
      "PROTECTED REGION ID(".toList ++ id :: ") ENABLED START\n".toList ++ body ++
        "PROTECTED REGION END\n".toList
    let currentText := ['x', 'a', 'b', 'c'].flatMap fun id => region id []
    let previousText := region 'x' ("u\n".toList ++ region 'a' "v\n".toList ++ region 'b' [] ++
      "w /*\n*/\r".toList ++ region 'c' [])
    ∃ current previous result,
      reader.read currentText = .ok current ∧ reader.read previousText = .ok previous ∧
        current.merge previous = .ok result ∧
        [Part.plain "\nu\n\n\nw /*\n*/\r\n".toList] ∈ result.segments.levels ∧
        ∀ level ∈ result.segments.levels, Tidy level := by
  intro reader region currentText previousText
  have hcheck : ((do
      let current ← reader.read currentText
      let previous ← reader.read previousText
      let result ← current.merge previous
      return decide ([Part.plain "\nu\n\n\nw /*\n*/\r\n".toList] ∈ result.segments.levels)) :
      Except RegionFault Bool) = .ok true := by
    decide +kernel
  obtain ⟨current, previous, merged, hcurrent, hprevious, hmerge, hjoined⟩ :=
    RegionReader.exists_of_read_merge hcheck
  obtain ⟨hread, hreconcile⟩ := tidy_of_read_and_reconcile
  obtain ⟨result, hresult, htidy⟩ := hreconcile current previous Region.enabled
    (hread reader currentText current hcurrent) (hread reader previousText previous hprevious)
  obtain rfl : merged = result := Except.ok.inj (hmerge.symm.trans hresult)
  exact ⟨current, previous, merged, hcurrent, hprevious, hmerge, of_decide_eq_true hjoined, htidy⟩

end Document

end KeptRegions
