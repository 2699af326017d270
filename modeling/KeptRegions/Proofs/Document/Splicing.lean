import KeptRegions.Proofs.Comment.Splicing
import KeptRegions.Proofs.Document.Standing
import KeptRegions.Setup

namespace KeptRegions

/-!
# Reading reconciled documents

Copying a body puts comments of the previous document between comments of the current one. If all
delimiters of the style are of one length, and the markers of a region and of its source start with
the same delimiters, then every token of either text is cut off again at its new place. So the
reconciled text is read as the reconciled document (`read_content_reconcile`).
-/

/-! ## Segments in front of other texts -/

section Splicing

variable {style : CommentStyle} {rules : MarkerRules} {width : Nat} {s : Segments} {u v : Text}

namespace Segments

/-- Whether segments stand in front of a text is seen from its beginning. -/
theorem Stands.congr (huniform : style.Uniform width) (huv : u.take width = v.take width)
    (hs : s.Stands style rules u) : s.Stands style rules v := by
  induction s generalizing u v with
  | nil => trivial
  | plain text rest ih =>
    rcases hs with ⟨⟨ls, htext, hcuts, hplain⟩, hrest⟩
    exact ⟨⟨ls, htext, hcuts.congr huniform (take_append_congr huv), hplain⟩, ih huv hrest⟩
  | region fence body rest ihb ihr =>
    rcases hs with ⟨hopening, hbody, hclosing, hrest⟩
    -- each marker is followed by what it was followed by, up to the end of one delimiter
    have hbehind : (fence.closing ++ (rest.content ++ u)).take width =
        (fence.closing ++ (rest.content ++ v)).take width :=
      take_append_congr (take_append_congr huv)
    refine ⟨?_, ihb hbehind hbody, ?_, ihr huv hrest⟩
    · exact hopening.of_other huniform hopening rfl (take_append_congr hbehind)
    · exact hclosing.of_other huniform hclosing rfl (take_append_congr huv)

/-- The markers and the body of a region stand where the region does. -/
theorem Stands.region {r : Region} (hs : s.Stands style rules u) (hr : r ∈ s.regions) :
    ∃ behind, style.CutsComment r.fence.opening (r.body.content ++ (r.fence.closing ++ behind)) ∧
      r.body.Stands style rules (r.fence.closing ++ behind) ∧
      style.CutsComment r.fence.closing behind := by
  induction s generalizing u with
  | nil => simp [regions] at hr
  | plain text rest ih => exact ih hs.2 hr
  | region fence body rest ihb ihr =>
    rcases hs with ⟨hopening, hbody, hclosing, hrest⟩
    simp only [regions, List.mem_cons, List.mem_append] at hr
    rcases hr with rfl | hr | hr
    · exact ⟨_, hopening, hbody, hclosing⟩
    · exact ihb hbody hr
    · exact ihr hrest hr

end Segments

/-! ## Copied bodies -/

/-- A region takes its body from a region whose markers start with the same delimiters, and none of
the ids in that body belongs elsewhere. -/
def Region.Fits (style : CommentStyle) (ids : List Text) (r old : Region) : Prop :=
  style.openerOf? r.fence.opening = style.openerOf? old.fence.opening ∧
    style.openerOf? r.fence.closing = style.openerOf? old.fence.closing ∧
    ∀ x ∈ old.body.ids, r.isElsewhere ids x = false

instance (style : CommentStyle) (ids : List Text) (r old : Region) :
    Decidable (r.Fits style ids old) :=
  inferInstanceAs (Decidable (_ ∧ _ ∧ _))

/-- Segments still stand when fitting bodies are copied into them, and their text begins as
before. -/
theorem Segments.Stands.keepBodies {previous : Document} {keep : Region → Bool} {ids : List Text}
    (hs : s.Stands style rules u) (huniform : style.Uniform width)
    (hprevious : previous.segments.Stands style rules [])
    (hcanonical : previous.segments.Canonical) (huv : u.take width = v.take width)
    (hfits : ∀ r old, (r, old) ∈ s.copies previous keep → r.Fits style ids old) :
    (s.keepBodies previous keep ids).Stands style rules v ∧
      (s.content ++ u).take width =
        ((s.keepBodies previous keep ids).content ++ v).take width := by
  induction s using copyInduction previous keep generalizing u v with
  | nil => exact ⟨trivial, huv⟩
  | plain text rest ih =>
    rcases hs with ⟨⟨ls, htext, hcuts, hplain⟩, hrest⟩
    rcases ih hrest huv hfits with ⟨hrest', hbegin⟩
    refine ⟨⟨⟨ls, htext, hcuts.congr huniform hbegin, hplain⟩, hrest'⟩, ?_⟩
    simpa [keepBodies, content] using take_append_congr (w := text) hbegin
  | searched fence body rest hsource ihb ihr =>
    -- what is behind comes first, since the body stands in front of it
    rw [copies_of_no_source hsource] at hfits
    rcases hs with ⟨hopening, hbody, hclosing, hrest⟩
    obtain ⟨hrest', hbeginr⟩ := ihr hrest huv
      fun r old hr => hfits r old (List.mem_append_right _ hr)
    obtain ⟨hbody', hbeginb⟩ := ihb hbody (take_append_congr (w := fence.closing) hbeginr)
      fun r old hr => hfits r old (List.mem_append_left _ hr)
    rw [keepBodies_of_no_source hsource]
    refine ⟨⟨?_, hbody', ?_, hrest'⟩, ?_⟩
    · exact hopening.of_other huniform hopening rfl hbeginb
    · exact hclosing.of_other huniform hclosing rfl hbeginr
    · simpa [content] using take_append_congr (w := fence.opening) hbeginb
  | copied fence body rest old hsource ih =>
    rw [copies_of_source hsource] at hfits
    rcases hs with ⟨hopening, hbody, hclosing, hrest⟩
    obtain ⟨hrest', hbegin⟩ := ih hrest huv fun r old hr => hfits r old (List.mem_cons_of_mem _ hr)
    rcases hfits _ _ List.mem_cons_self with ⟨hsameopening, hsameclosing, haway⟩
    -- the body stands in front of the end marker of its source, which begins as the new one
    have hold := (Region.mem_of_source? hsource).1
    rcases hprevious.region hold with ⟨behind, hopening', hbody', hclosing'⟩
    have hsame : (old.fence.closing ++ behind).take width =
        (fence.closing ++ ((rest.keepBodies previous keep ids).content ++ v)).take width :=
      hclosing'.take_eq huniform hclosing hsameclosing.symm
    rw [keepBodies_of_source hsource, without_eq_joined haway,
      (hcanonical.body hold).spaced.joined_eq]
    refine ⟨⟨?_, hbody'.congr huniform hsame, ?_, hrest'⟩, ?_⟩
    · exact hopening.of_other huniform hopening' hsameopening (take_append_congr hsame)
    · exact hclosing.of_other huniform hclosing rfl hbegin
    · simpa [content] using hopening.take_eq huniform hopening rfl

end Splicing

/-! ## Presets -/

/-- A built style has the delimiters of its builder. -/
theorem Builder.style_of_build {b : Builder} {setup : Setup} (h : b.build = .ok setup) :
    setup.style.blocks = b.blocks ∧ setup.style.lines = b.lines ∧
      Nesting.ofName? b.nesting = some setup.style.nesting := by
  unfold build at h
  rcases exists_eq_ok_of_bind h with ⟨style, hstyle, hsetup⟩
  cases hsetup
  unfold CommentStyle.of? at hstyle
  split at hstyle
  · cases hstyle
  · rename_i nesting hname
    split at hstyle
    · split at hstyle
      · cases hstyle
      · split at hstyle
        · cases hstyle
        · cases hstyle
          exact ⟨rfl, rfl, hname⟩
    · cases hstyle

/-- The opening delimiters of a preset. -/
def Preset.openers (p : Preset) : List Text :=
  p.blockList.map Block.opening ++ p.lineList

/-- The length of the first opening delimiter of a preset. -/
def Preset.width (p : Preset) : Nat :=
  (p.openers.headD []).length

/-- In each preset the opening delimiters are within a line and have the same length, and where
comments nest so have the closing ones. -/
theorem Preset.delimiters_even : ∀ p ∈ Preset.all,
    (Builder.ofPreset p).build.isOk = true ∧
      (∀ d ∈ p.openers, d.length = p.width ∧ d.all (fun c => !isLineEnd c) = true) ∧
      (p.nesting = .nested → ∀ b ∈ p.blockList, b.closing.length = b.opening.length) := by
  decide +kernel

/-- The style of each preset is uniform. -/
theorem Preset.exists_uniform {p : Preset} (hp : p ∈ Preset.all) :
    ∃ setup, (Builder.ofPreset p).build = .ok setup ∧ setup.style.Uniform p.width ∧
      ∀ d ∈ setup.style.openers, ∀ c ∈ d, isLineEnd c = false := by
  rcases delimiters_even p hp with ⟨hok, hopeners, hclosing⟩
  cases hbuild : (Builder.ofPreset p).build with
  | error e => simp [hbuild, Except.isOk, Except.toBool] at hok
  | ok setup =>
    rcases Builder.style_of_build hbuild with ⟨hblocks, hlines, hnesting⟩
    have hstyle : setup.style.openers = p.openers := by
      simp only [CommentStyle.openers, hblocks, hlines]
      rfl
    refine ⟨setup, rfl, ⟨?_, ?_⟩, ?_⟩
    · rw [hstyle]
      exact fun d hd => (hopeners d hd).1
    · -- the policy of the style is that of the preset, since policies have different names
      rw [hblocks]
      intro hnested
      refine hclosing ?_
      rw [hnested] at hnesting
      cases hp' : p.nesting with
      | nested => rfl
      | flat =>
        rw [show (Builder.ofPreset p).nesting = p.nesting.name from rfl, hp'] at hnesting
        exact absurd hnesting (by decide)
    · rw [hstyle]
      intro d hd c hc
      simpa using List.all_eq_true.1 (hopeners d hd).2 c hc

/-! ## Reconciled documents -/

/-- Reconciled text is read as the reconciled document, under a uniform style and with markers in
comments, if every copied body fits its new place. Each preset has a uniform style. -/
theorem read_content_reconcile :
    (∀ p ∈ Preset.all, ∃ setup width, (Builder.ofPreset p).build = .ok setup ∧
      setup.style.Uniform width ∧ ∀ d ∈ setup.style.openers, ∀ c ∈ d, isLineEnd c = false) ∧
    ∀ {reader : RegionReader} {width : Nat} {currentText previousText : Text}
      {current previous : Document} (keep : Region → Bool),
      reader.style.Uniform width → reader.inverse = false →
      reader.read currentText = .ok current → reader.read previousText = .ok previous →
      (∀ r old, (r, old) ∈ current.segments.copies previous keep →
        r.Fits reader.style current.ids old) →
      ∃ result, current.reconcile previous keep = .ok result ∧
        reader.read result.content = .ok result := by
  constructor
  · intro p hp
    rcases Preset.exists_uniform hp with ⟨setup, hsetup⟩
    exact ⟨setup, p.width, hsetup⟩
  · intro reader width currentText previousText current previous keep huniform hinverse hcurrent
      hprevious hfits
    have hcanonical := (RegionReader.read_eq_ok_iff.1 hprevious).2.canonical
    have hstands := RegionReader.stands_of_read hinverse hcurrent
    have hstands' := RegionReader.stands_of_read hinverse hprevious
    refine ⟨current.reconciled previous keep, Document.of?_eq_ok _, ?_⟩
    rw [RegionReader.read_content_iff_stands hinverse
      (RegionReader.canonical_reconciled hcurrent hprevious keep)
      (RegionReader.follows_reconciled hcurrent hprevious keep)]
    exact (hstands.keepBodies huniform hstands' hcanonical rfl hfits).1

/-- A body with a nested region and with another kind of line end is copied between line
comments. -/
theorem read_content_merge_line_comments :
    let reader := RegionReader.slashes .flat false
    let currentText :=
      "a // PROTECTED REGION ID(x) ENABLED START\nnew\n// PROTECTED REGION END\nb".toList
    let previousText := ("// PROTECTED REGION ID(x) ENABLED START\r\nold " ++
      "/* PROTECTED REGION ID(y) START */ in /* PROTECTED REGION END */\n" ++
      "// PROTECTED REGION END").toList
    ∃ current previous result,
      reader.read currentText = .ok current ∧ reader.read previousText = .ok previous ∧
        current.merge previous = .ok result ∧ reader.read result.content = .ok result ∧
        result.ids = ["x".toList, "y".toList] := by
  intro reader currentText previousText
  have hcheck : ((do
      let current ← reader.read currentText
      let previous ← reader.read previousText
      let result ← current.merge previous
      return ((current.segments.copies previous Region.enabled).all fun (r, old) =>
        decide (r.Fits reader.style current.ids old), result.ids)) :
      Except RegionFault (Bool × List Text)) = .ok (true, ["x".toList, "y".toList]) := by
    decide +kernel
  obtain ⟨current, previous, merged, hcurrent, hprevious, hmerge, hfound⟩ :=
    RegionReader.exists_of_read_merge hcheck
  simp only [Prod.mk.injEq, List.all_eq_true, Prod.forall, decide_eq_true_eq] at hfound
  have huniform : reader.style.Uniform 2 := ⟨by decide, by decide⟩
  obtain ⟨result, hresult, hread⟩ :=
    read_content_reconcile.2 Region.enabled huniform rfl hcurrent hprevious hfound.1
  obtain rfl : merged = result := Except.ok.inj (hmerge.symm.trans hresult)
  exact ⟨current, previous, merged, hcurrent, hprevious, hmerge, hread, hfound.2⟩

end KeptRegions
