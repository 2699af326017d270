import KeptRegions.Proofs.Document.Canonical
import KeptRegions.Proofs.Document.Lossless

namespace KeptRegions

/-!
# Segments that stand in a text

When markers are comments, segments stand in a text if each marker is cut off as a comment at its
place and each plain text is cut into tokens that are no markers. The text of a document is read as
this document exactly if its segments stand in it (`read_content_iff_stands`).
-/

/-- The piece that a token is when markers are comments. -/
def Lexeme.slice (l : Lexeme) : Slice :=
  { candidate := l.kind = .comment, text := l.text }

@[simp] theorem Lexeme.text_slice (l : Lexeme) : l.slice.text = l.text := rfl

theorem Lexeme.flatMap_text_slice (ls : List Lexeme) :
    (ls.map Lexeme.slice).flatMap Slice.text = Lexeme.textOf ls := by
  rw [List.flatMap_map]
  rfl

/-- Whether the segments stand in front of `after`. -/
def Segments.Stands (style : CommentStyle) (rules : MarkerRules) : Segments → Text → Prop
  | nil, _ => True
  | plain text rest, after =>
    (∃ ls, text = Lexeme.textOf ls ∧ style.CutsAll ls (rest.content ++ after) ∧
      ∀ l ∈ ls, rules.roleOf l.slice = .plain) ∧ rest.Stands style rules after
  | region fence body rest, after =>
    style.CutsComment fence.opening (body.content ++ (fence.closing ++ (rest.content ++ after))) ∧
      body.Stands style rules (fence.closing ++ (rest.content ++ after)) ∧
      style.CutsComment fence.closing (rest.content ++ after) ∧ rest.Stands style rules after

/-! ## Tokens and segments -/

section Stands

variable {style : CommentStyle} {rules : MarkerRules} {s : Segments} {after : Text}

/-- A marker is cut off as a comment. -/
theorem cuts_marker_iff {l : Lexeme} (hrole : rules.roleOf l.slice ≠ .plain) :
    style.Cuts l after ↔ style.CutsComment l.text after := by
  have hkind : l.kind = .comment := by
    simpa [Lexeme.slice] using MarkerRules.candidate_of_roleOf_ne_plain hrole
  simp only [CommentStyle.Cuts, hkind]

/-- A token that is no marker may stand in front of segments. -/
theorem Segments.Stands.joinPlain {l : Lexeme} (hs : s.Stands style rules after)
    (hl : style.Cuts l (s.content ++ after)) (hrole : rules.roleOf l.slice = .plain) :
    (s.joinPlain l.text).Stands style rules after := by
  cases s with
  | plain next rest =>
    -- the token becomes the first one of this plain text
    rcases hs with ⟨⟨ls, rfl, hcuts, hplain⟩, hrest⟩
    refine ⟨⟨l :: ls, rfl, ⟨by simpa [content] using hl, hcuts⟩, ?_⟩, hrest⟩
    simpa [hrole] using hplain
  | nil => exact ⟨⟨[l], by simp, ⟨by simpa [content] using hl, trivial⟩, by simpa using hrole⟩, hs⟩
  | region fence body rest =>
    exact ⟨⟨[l], by simp, ⟨by simpa using hl, trivial⟩, by simpa using hrole⟩, hs⟩

/-- What tokens are laid out as stands where they are cut off. -/
theorem Layout.stands {qs : List Slice} {ls : List Lexeme} (h : Layout rules qs s)
    (hls : ls.map Lexeme.slice = qs) (hcuts : style.CutsAll ls after) :
    s.Stands style rules after := by
  induction h generalizing ls after with
  | nil => trivial
  | plain hq h ih =>
    rcases List.map_eq_cons_iff.1 hls with ⟨l, ls, rfl, rfl, hrest⟩
    have hcontent := h.content_eq
    rw [← hrest, Lexeme.flatMap_text_slice] at hcontent
    rw [Part.before, if_neg (by simpa using hcuts.1.ne_nil)]
    exact (ih hrest hcuts.2).joinPlain (hcontent ▸ hcuts.1) hq
  | region hq hid hne hbody hq' h ihb ih =>
    rcases List.map_eq_cons_iff.1 hls with ⟨m, behind, rfl, rfl, hbehind⟩
    rcases List.map_eq_append_iff.1 hbehind with ⟨bs, outer, rfl, rfl, houter⟩
    rcases List.map_eq_cons_iff.1 houter with ⟨e, rs, rfl, rfl, rfl⟩
    -- the tokens of the body and those behind the region have the text of the segments
    have hbs := hbody.content_eq
    have hrs := h.content_eq
    rw [Lexeme.flatMap_text_slice] at hbs hrs
    rcases hcuts with ⟨hm, hinside⟩
    rcases CommentStyle.cutsAll_append.1 hinside with ⟨hcutsb, he, hcutsr⟩
    have hopening := (cuts_marker_iff (by rw [hq]; decide)).1 hm
    have hclosing := (cuts_marker_iff (by rw [hq']; decide)).1 he
    refine ⟨?_, ihb rfl ?_, ?_, ih rfl hcutsr⟩
    · simpa [hbs, hrs] using hopening
    · simpa [hrs] using hcutsb
    · simpa [hrs] using hclosing

/-- Tokens that are no markers make one plain text. -/
theorem Layout.plains {qs : List Slice} (h : Layout rules qs s) {ls : List Lexeme}
    (hls : ∀ l ∈ ls, rules.roleOf l.slice = .plain) :
    Layout rules (ls.map Lexeme.slice ++ qs) ((Part.plain (Lexeme.textOf ls)).before s) := by
  induction ls with
  | nil => exact h
  | cons l ls ih =>
    have hplain := Layout.plain (hls l List.mem_cons_self)
      (ih fun m hm => hls m (List.mem_cons_of_mem _ hm))
    have hbefore : ∀ t u : Text, (Part.plain t).before ((Part.plain u).before s) =
        (Part.plain (t ++ u)).before s := by
      intro t u
      cases s <;> cases t <;> cases u <;> simp [Part.before, Segments.joinPlain]
    rwa [Lexeme.text_slice, hbefore] at hplain

/-- Canonical segments that follow their markers are laid out as the tokens that they stand with. -/
theorem Segments.Stands.exists_layout (hs : s.Stands style rules after) (hcanonical : s.Canonical)
    (hfollows : ∀ r ∈ s.regions, r.fence.Follows rules) :
    ∃ ls, style.CutsAll ls after ∧ Layout rules (ls.map Lexeme.slice) s := by
  induction s generalizing after with
  | nil => exact ⟨[], trivial, .nil⟩
  | plain text rest ih =>
    -- the tokens of this plain text come in front of those of the rest, which is not plain
    rcases hs with ⟨⟨ls, rfl, hcuts, hplain⟩, hrest⟩
    rcases hcanonical with ⟨hne, hstart, hcanonical⟩
    rcases ih hrest hcanonical hfollows with ⟨ms, hcutsm, hlayout⟩
    have hcontent := hlayout.content_eq
    rw [Lexeme.flatMap_text_slice] at hcontent
    refine ⟨ls ++ ms, CommentStyle.cutsAll_append.2 ⟨hcontent ▸ hcuts, hcutsm⟩, ?_⟩
    have hplains := hlayout.plains hplain
    rwa [← List.map_append, Part.before, if_neg (by simpa using hne),
      joinPlain_of_not_startsPlain hstart] at hplains
  | region fence body rest ihb ihr =>
    rcases hs with ⟨hopening, hbody, hclosing, hrest⟩
    simp only [regions, List.mem_cons, List.mem_append] at hfollows
    rcases hfollows _ (.inl rfl) with ⟨hopens, hcloses, hid, hne, henabled⟩
    obtain ⟨bs, hcutsb, hlayoutb⟩ := ihb hbody hcanonical.1 fun r hr => hfollows r (.inr (.inl hr))
    obtain ⟨rs, hcutsr, hlayoutr⟩ := ihr hrest hcanonical.2 fun r hr => hfollows r (.inr (.inr hr))
    have hbs := hlayoutb.content_eq
    have hrs := hlayoutr.content_eq
    rw [Lexeme.flatMap_text_slice] at hbs hrs
    refine ⟨{ kind := .comment, text := fence.opening } ::
      (bs ++ { kind := .comment, text := fence.closing } :: rs), ⟨?_, ?_⟩, ?_⟩
    · simpa [CommentStyle.Cuts, hbs, hrs] using hopening
    · refine CommentStyle.cutsAll_append.2 ⟨by simpa [hrs] using hcutsb, ?_, hcutsr⟩
      simpa [CommentStyle.Cuts, hrs] using hclosing
    · have hregion := Layout.region hopens hid hne hlayoutb hcloses hlayoutr
      rw [henabled] at hregion
      simpa [Lexeme.slice] using hregion

end Stands

/-! ## Reading -/

namespace RegionReader

variable {reader : RegionReader} {text : Text} {d : Document}

theorem map_slice_pieces (hinverse : reader.inverse = false) (start : Nat) (ls : List Lexeme) :
    (reader.pieces (Lexeme.place start ls)).map Piece.slice = ls.map Lexeme.slice := by
  induction ls generalizing start with
  | nil => rfl
  | cons l ls ih =>
    have hcons : reader.pieces (Lexeme.place start (l :: ls)) =
        { candidate := l.kind = .comment, start, text := l.text } ::
          reader.pieces (Lexeme.place (start + l.text.length) ls) := by
      simp [pieces, Lexeme.place, Piece.ofToken, hinverse]
    rw [hcons, List.map_cons, ih]
    rfl

/-- A text is read as a document exactly if it can be cut into tokens that the document is laid out
as. -/
theorem read_eq_ok_iff_cuts (hinverse : reader.inverse = false) :
    reader.read text = .ok d ↔
      ∃ ls, text = Lexeme.textOf ls ∧ reader.style.CutsAll ls [] ∧
        Layout reader.rules (ls.map Lexeme.slice) d.segments := by
  rw [read_eq_ok_iff]
  constructor
  · rintro ⟨hclosed, hlayout⟩
    rcases CommentStyle.scanFrom_cuts reader.style 0 text with ⟨ls, rest, hscan⟩
    have hstops := hscan.stops
    rw [show (reader.style.scanFrom 0 text).unclosed = none from hclosed] at hstops
    obtain rfl : rest = [] := hstops
    refine ⟨ls, by simpa using hscan.text, hscan.cuts, ?_⟩
    rw [← map_slice_pieces hinverse 0, ← hscan.tokens]
    exact hlayout
  · rintro ⟨ls, rfl, hcuts, hlayout⟩
    have hscan : reader.style.scan (Lexeme.textOf ls) =
        { tokens := Lexeme.place 0 ls, unclosed := none } := by
      rw [← List.append_nil (Lexeme.textOf ls)]
      exact CommentStyle.scanFrom_textOf hcuts rfl
    refine ⟨by rw [hscan], ?_⟩
    unfold slices
    rw [hscan, map_slice_pieces hinverse]
    exact hlayout

/-- A document that was read stands in its text. -/
theorem stands_of_read (hinverse : reader.inverse = false) (h : reader.read text = .ok d) :
    d.segments.Stands reader.style reader.rules [] := by
  rcases (read_eq_ok_iff_cuts hinverse).1 h with ⟨ls, -, hcuts, hlayout⟩
  exact hlayout.stands rfl hcuts

/-- The text of a document is read as this document exactly if its segments stand in it. -/
theorem read_content_iff_stands (hinverse : reader.inverse = false)
    (hcanonical : d.segments.Canonical) (hfollows : ∀ r ∈ d.regions, r.fence.Follows reader.rules) :
    reader.read d.content = .ok d ↔ d.segments.Stands reader.style reader.rules [] := by
  constructor
  · exact stands_of_read hinverse
  · intro h
    rcases h.exists_layout hcanonical hfollows with ⟨ls, hcuts, hlayout⟩
    refine (read_eq_ok_iff_cuts hinverse).2 ⟨ls, ?_, hcuts, hlayout⟩
    exact hlayout.content_eq.trans (Lexeme.flatMap_text_slice ls)

end RegionReader

end KeptRegions
