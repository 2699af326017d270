import KeptRegions.Document.Reading
import KeptRegions.Marker.Builtin
import KeptRegions.Proofs.Document.Nesting

namespace KeptRegions

/-!
# The layout of documents

A document is laid out as pieces of text: start and end markers that match like brackets, and plain
pieces between them. Reading succeeds exactly if the pieces of a text are the layout of a document
(`read_eq_ok_iff`), and it gives that document.
-/

/-- A piece without its position. -/
structure Slice where
  candidate : Bool
  text : Text
deriving DecidableEq

/-- What a piece is to a reader. -/
inductive Role where
  | opens
  | closes
  | plain
deriving DecidableEq

/-- The piece without its position. -/
def Piece.slice (p : Piece) : Slice :=
  { candidate := p.candidate, text := p.text }

/-- What a piece is under some marker rules. A candidate that could be both markers opens a
region. -/
def MarkerRules.roleOf (rules : MarkerRules) (q : Slice) : Role :=
  if q.candidate && rules.isStart q.text then .opens
  else if q.candidate && rules.isEnd q.text then .closes
  else .plain

/-- The pieces that segments are laid out as. -/
inductive Layout (rules : MarkerRules) : List Slice → Segments → Prop where
  | nil : Layout rules [] .nil
  | plain {q : Slice} {qs : List Slice} {s : Segments} (hq : rules.roleOf q = .plain)
      (h : Layout rules qs s) : Layout rules (q :: qs) ((Part.plain q.text).before s)
  | region {q q' : Slice} {id : Text} {bs qs : List Slice} {body s : Segments}
      (hq : rules.roleOf q = .opens) (hid : rules.idOf q.text = some id) (hne : id ≠ [])
      (hbody : Layout rules bs body) (hq' : rules.roleOf q' = .closes) (h : Layout rules qs s) :
      Layout rules (q :: (bs ++ q' :: qs))
        (.region
          { id, enabled := rules.isEnabled q.text, opening := q.text, closing := q'.text } body s)

@[simp] theorem Part.ids_before_plain (text : Text) (s : Segments) :
    ((Part.plain text).before s).ids = s.ids := by
  simp only [Part.before]
  split <;> simp

@[simp] theorem Part.regions_before_plain (text : Text) (s : Segments) :
    ((Part.plain text).before s).regions = s.regions := by
  simp only [Part.before]
  split
  · rfl
  · cases s <;> rfl

@[simp] theorem Part.content_before_plain (text : Text) (s : Segments) :
    ((Part.plain text).before s).content = text ++ s.content := by
  simp only [Part.before]
  split <;> simp_all

/-- The layout of segments shows their text. -/
theorem Layout.content_eq {rules : MarkerRules} {qs : List Slice} {s : Segments}
    (h : Layout rules qs s) : s.content = qs.flatMap Slice.text := by
  induction h with
  | nil => rfl
  | plain hq h ih => rw [Part.content_before_plain, ih, List.flatMap_cons]
  | region hq hid hne hbody hq' h ihb ih =>
    simp only [Segments.content, ihb, ih, List.flatMap_cons, List.flatMap_append]

/-- The markers of a region are markers, and its id and flag are those that the start marker
says. -/
structure Fence.Follows (f : Fence) (rules : MarkerRules) : Prop where
  roleOf_opening : rules.roleOf { candidate := true, text := f.opening } = .opens
  roleOf_closing : rules.roleOf { candidate := true, text := f.closing } = .closes
  idOf_opening : rules.idOf f.opening = some f.id
  id_ne_nil : f.id ≠ []
  isEnabled_opening : rules.isEnabled f.opening = f.enabled

/-- Only a candidate is a marker. -/
theorem MarkerRules.candidate_of_roleOf_ne_plain {rules : MarkerRules} {q : Slice}
    (h : rules.roleOf q ≠ .plain) : q.candidate = true := by
  cases hq : q.candidate with
  | true => rfl
  | false => simp [roleOf, hq] at h

/-- The regions of a layout follow their markers. -/
theorem Layout.follows {rules : MarkerRules} {qs : List Slice} {s : Segments}
    (h : Layout rules qs s) {r : Region} (hr : r ∈ s.regions) : r.fence.Follows rules := by
  induction h with
  | nil => simp [Segments.regions] at hr
  | plain hq h ih => exact ih (by simpa using hr)
  | @region q q' id bs qs body s hq hid hne hbody hq' h ihb ih =>
    simp only [Segments.regions, List.mem_cons, List.mem_append] at hr
    rcases hr with rfl | hr | hr
    · have hplain : rules.roleOf q ≠ .plain := by rw [hq]; decide
      have hplain' : rules.roleOf q' ≠ .plain := by rw [hq']; decide
      have hopening := MarkerRules.candidate_of_roleOf_ne_plain hplain
      have hclosing := MarkerRules.candidate_of_roleOf_ne_plain hplain'
      refine ⟨?_, ?_, hid, hne, rfl⟩
      · rw [← hq, ← hopening]
      · rw [← hq', ← hclosing]
    · exact ihb hr
    · exact ih hr

/-- Two markers determine what a region says of itself. -/
theorem Fence.Follows.eq_of_markers {rules : MarkerRules} {f g : Fence} (hf : f.Follows rules)
    (hg : g.Follows rules) (hopening : f.opening = g.opening) (hclosing : f.closing = g.closing) :
    f = g := by
  have hid : f.id = g.id := by
    have h := hf.idOf_opening
    rw [hopening, hg.idOf_opening] at h
    exact (Option.some.inj h).symm
  have henabled : f.enabled = g.enabled := by
    rw [← hf.isEnabled_opening, hopening, hg.isEnabled_opening]
  cases f
  cases g
  cases hid
  cases henabled
  cases hopening
  cases hclosing
  rfl

/-! ## Parts and open regions -/

section Unfinished

variable {rules : MarkerRules} {parts : List Part} {opened : List OpenRegion}
  {qs rs : List Slice} {s : Segments}

/-- The pieces that the parts of a scope, which are given last first, are laid out as. -/
inductive Spelled (rules : MarkerRules) : List Part → List Slice → Prop where
  | nil : Spelled rules [] []
  | plain {parts : List Part} {qs : List Slice} {q : Slice} (h : Spelled rules parts qs)
      (hq : rules.roleOf q = .plain) : Spelled rules (.plain q.text :: parts) (qs ++ [q])
  | region {parts : List Part} {qs bs : List Slice} {q q' : Slice} {id : Text} {body : Segments}
      (h : Spelled rules parts qs) (hq : rules.roleOf q = .opens)
      (hid : rules.idOf q.text = some id) (hne : id ≠ []) (hbody : Layout rules bs body)
      (hq' : rules.roleOf q' = .closes) :
      Spelled rules
        (.region
          { id, enabled := rules.isEnabled q.text, opening := q.text, closing := q'.text } body
            :: parts)
        (qs ++ q :: (bs ++ [q']))

theorem Spelled.layout_append (h : Spelled rules parts qs) (hs : Layout rules rs s) :
    Layout rules (qs ++ rs) (parts.foldl (fun rest part => part.before rest) s) := by
  induction h generalizing rs s with
  | nil => exact hs
  | plain h hq ih =>
    rw [List.append_assoc]
    exact ih (.plain hq hs)
  | region h hq hid hne hbody hq' ih =>
    rw [List.append_assoc, List.cons_append, List.append_assoc, List.singleton_append]
    exact ih (.region hq hid hne hbody hq' hs)

/-- Finished parts make segments with the same layout. -/
theorem Spelled.layout (h : Spelled rules parts qs) : Layout rules qs (assemble parts) := by
  have := h.layout_append .nil
  rwa [List.append_nil] at this

/-- The pieces read so far, when some regions are still open. -/
inductive Unfinished (rules : MarkerRules) : List OpenRegion → List Part → List Slice → Prop where
  | top {parts : List Part} {qs : List Slice} (h : Spelled rules parts qs) :
      Unfinished rules [] parts qs
  | inner {o : OpenRegion} {opened : List OpenRegion} {parts : List Part} {qs rs : List Slice}
      {q : Slice} (h : Unfinished rules opened o.outer qs) (hq : rules.roleOf q = .opens)
      (hid : rules.idOf q.text = some o.id) (hne : o.id ≠ [])
      (hmarker : o.marker = q.text) (henabled : o.enabled = rules.isEnabled q.text)
      (hs : Spelled rules parts rs) : Unfinished rules (o :: opened) parts (qs ++ q :: rs)

/-- More parts in the innermost scope. -/
theorem Unfinished.extend {part : Part} (h : Unfinished rules opened parts qs)
    (hpart : ∀ qs, Spelled rules parts qs → Spelled rules (part :: parts) (qs ++ rs)) :
    Unfinished rules opened (part :: parts) (qs ++ rs) := by
  cases h with
  | top h => exact .top (hpart _ h)
  | inner h hq hid hne hmarker henabled hs =>
    rw [List.append_assoc, List.cons_append]
    exact .inner h hq hid hne hmarker henabled (hpart _ hs)

end Unfinished

/-! ## Steps of reading -/

/-- Two steps succeed only if the first does, and then the second. -/
theorem exists_eq_ok_of_bind {ε α β : Type} {x : Except ε α} {f : α → Except ε β} {b : β}
    (h : (x >>= f) = .ok b) : ∃ a, x = .ok a ∧ f a = .ok b := by
  cases x with
  | error e => cases h
  | ok a => exact ⟨a, rfl, h⟩

namespace Progress

/-- The region that a start marker opens. -/
def openRegion (p : Progress) (rules : MarkerRules) (piece : Piece) (id : Text) : OpenRegion :=
  { id
    enabled := rules.isEnabled piece.text
    marker := piece.text
    start := piece.start
    outer := p.parts }

/-- Behind a start marker, inside of its region. -/
def enter (p : Progress) (rules : MarkerRules) (piece : Piece) (id : Text) : Progress :=
  { seen := id :: p.seen, parts := [], opened := p.openRegion rules piece id :: p.opened }

/-- Behind the end marker of the region `o`, with `opened` around it. -/
def leave (p : Progress) (piece : Piece) (o : OpenRegion) (opened : List OpenRegion) : Progress :=
  { p with
    parts :=
      .region { id := o.id, enabled := o.enabled, opening := o.marker, closing := piece.text }
        (assemble p.parts) :: o.outer
    opened }

/-- Behind finished parts with some ids. -/
def add (p : Progress) (ids : List Text) (parts : List Part) : Progress :=
  { p with seen := ids.reverse ++ p.seen, parts := parts ++ p.parts }

/-- A region that is opened, filled and closed becomes one part more. -/
theorem add_leave_add (p : Progress) (rules : MarkerRules) (start stop : Piece) (id : Text)
    (ids ids' : List Text) (inside after : List Part) :
    (((p.enter rules start id).add ids inside).leave stop (p.openRegion rules start id)
        p.opened).add ids' after =
      p.add (id :: (ids ++ ids'))
        (after ++
          [.region
            { id, enabled := rules.isEnabled start.text, opening := start.text,
              closing := stop.text } (assemble inside)]) := by
  simp [add, leave, enter, openRegion]

/-- What reading one piece does if it succeeds. -/
inductive Takes (rules : MarkerRules) : Progress → Piece → Progress → Prop where
  | plain (p : Progress) (piece : Piece) (hrole : rules.roleOf piece.slice = .plain) :
      Takes rules p piece { p with parts := .plain piece.text :: p.parts }
  | opens (p : Progress) (piece : Piece) (id : Text) (hrole : rules.roleOf piece.slice = .opens)
      (hid : rules.idOf piece.text = some id) (hne : id ≠ []) (hnew : id ∉ p.seen) :
      Takes rules p piece (p.enter rules piece id)
  | closes (p : Progress) (piece : Piece) (o : OpenRegion) (opened : List OpenRegion)
      (hrole : rules.roleOf piece.slice = .closes) (hopened : p.opened = o :: opened) :
      Takes rules p piece (p.leave piece o opened)

end Progress

/-- A step adds its piece to the layout. -/
theorem Unfinished.takes {rules : MarkerRules} {p p' : Progress} {piece : Piece} {qs : List Slice}
    (h : Unfinished rules p.opened p.parts qs) (hstep : p.Takes rules piece p') :
    Unfinished rules p'.opened p'.parts (qs ++ [piece.slice]) := by
  cases hstep with
  | plain hrole => exact h.extend fun qs hs => .plain (q := piece.slice) hs hrole
  | opens id hrole hid hne hnew =>
    -- a new scope without any parts
    exact .inner (q := piece.slice) h hrole hid hne rfl rfl .nil
  | closes o opened hrole hopened =>
    -- the innermost open region becomes a part of the scope around it
    rw [hopened] at h
    cases h with
    | inner h hq hid hne hmarker henabled hs =>
      rw [List.append_assoc, List.cons_append]
      refine h.extend fun qs hout => ?_
      rw [hmarker, henabled]
      have hregion := Spelled.region hout hq hid hne hs.layout hrole
      exact hregion

namespace RegionReader

variable {reader : RegionReader} {text : Text} {p p' : Progress} {piece : Piece}
  {pieces : List Piece} {qs : List Slice}

/-- The role of a piece decides what is done with it. -/
theorem step_eq_match :
    reader.step text p piece =
      match reader.rules.roleOf piece.slice with
      | .opens =>
        match reader.rules.idOf piece.text with
        | none | some [] => .error (.found (.missingId piece.text) piece.start text)
        | some id =>
          if id ∈ p.seen then .error (.found (.duplicateId id) piece.start text)
          else .ok (p.enter reader.rules piece id)
      | .closes =>
        match p.opened with
        | [] => .error (.found (.strayEnd piece.text) piece.start text)
        | o :: opened => .ok (p.leave piece o opened)
      | .plain => .ok { p with parts := .plain piece.text :: p.parts } := by
  unfold step MarkerRules.roleOf Piece.slice
  split
  · rfl
  · split <;> rfl

/-- Reading a piece succeeds with just these effects. -/
theorem step_eq_ok_iff : reader.step text p piece = .ok p' ↔ p.Takes reader.rules piece p' := by
  rw [step_eq_match]
  constructor
  · intro h
    split at h
    · -- a start marker with an id that has not been met
      rename_i hrole
      split at h
      · cases h
      · cases h
      · rename_i id hne hid
        split at h
        · cases h
        · rename_i hnew
          cases h
          exact .opens p piece id hrole hid hne hnew
    · -- an end marker inside of a region
      rename_i hrole
      split at h
      · cases h
      · rename_i o opened hopened
        cases h
        exact .closes p piece o opened hrole hopened
    · -- plain text
      rename_i hrole
      cases h
      exact .plain p piece hrole
  · intro h
    cases h with
    | plain hrole => simp only [hrole]
    | opens id hrole hid hne hnew => simp only [hrole, hid, if_neg hnew]
    | closes o opened hrole hopened => simp only [hrole, hopened]

/-! ## Runs of reading -/

theorem foldlM_step_cons (h : reader.step text p piece = .ok p') :
    (piece :: pieces).foldlM (reader.step text) p = pieces.foldlM (reader.step text) p' := by
  rw [List.foldlM_cons, h]
  rfl

/-- What is read of a text is laid out as the pieces that were taken. -/
theorem unfinished_of_foldlM (h : Unfinished reader.rules p.opened p.parts qs)
    (hrun : pieces.foldlM (reader.step text) p = .ok p') :
    Unfinished reader.rules p'.opened p'.parts (qs ++ pieces.map Piece.slice) := by
  induction pieces generalizing p qs with
  | nil =>
    cases hrun
    simpa using h
  | cons piece pieces ih =>
    rw [List.foldlM_cons] at hrun
    -- the invariant passes the first step, and the rest of the run keeps it
    rcases exists_eq_ok_of_bind hrun with ⟨q, hstep, hrun⟩
    have hq := ih (h.takes (step_eq_ok_iff.1 hstep)) hrun
    simpa [List.append_assoc] using hq

theorem assemble_append_singleton (parts : List Part) (part : Part) :
    assemble (parts ++ [part]) = part.before (assemble parts) := by
  simp [assemble]

/-- Reading takes pieces that lay out segments with new ids, and adds these segments to the scope
it is in. -/
theorem foldlM_of_layout (text : Text) {s : Segments} (h : Layout reader.rules qs s)
    (hqs : pieces.map Piece.slice = qs) (hids : s.ids.Nodup) (hnew : ∀ x ∈ s.ids, x ∉ p.seen) :
    ∃ parts, pieces.foldlM (reader.step text) p = .ok (p.add s.ids parts) ∧
      assemble parts = s := by
  induction h generalizing pieces p with
  | nil =>
    obtain rfl := List.map_eq_nil_iff.1 hqs
    exact ⟨[], rfl, rfl⟩
  | plain hq h ih =>
    rcases List.map_eq_cons_iff.1 hqs with ⟨piece, pieces, rfl, rfl, hrest⟩
    simp only [Part.ids_before_plain] at hids hnew ⊢
    -- a plain piece becomes a part, and parts are given last first
    have hstep : reader.step text p piece = .ok _ := step_eq_ok_iff.2 (.plain p piece hq)
    obtain ⟨parts, hrun, hparts⟩ :=
      ih (p := { p with parts := .plain piece.text :: p.parts }) hrest hids hnew
    refine ⟨parts ++ [.plain piece.text], ?_, ?_⟩
    · rw [foldlM_step_cons hstep, hrun]
      simp [Progress.add]
    · rw [assemble_append_singleton, hparts]
      rfl
  | @region q q' id bs qs body s hq hid hne hbody hq' h ihb ih =>
    rcases List.map_eq_cons_iff.1 hqs with ⟨start, behind, rfl, rfl, hbehind⟩
    rcases List.map_eq_append_iff.1 hbehind with ⟨inner, outer, rfl, hinner, houter⟩
    rcases List.map_eq_cons_iff.1 houter with ⟨stop, rest, rfl, rfl, hrest⟩
    rcases Segments.nodup_ids_region.1 hids with ⟨hidb, hids, hbnodup, hsnodup, hdisj⟩
    simp only [Segments.ids, List.mem_cons, List.mem_append] at hnew
    -- the start marker opens a scope, the body is read into it, and the end marker closes it
    have hopen : reader.step text p start = .ok _ :=
      step_eq_ok_iff.2 (.opens p start id hq hid hne (hnew id (.inl rfl)))
    obtain ⟨inside, hrunb, hinside⟩ := ihb (p := p.enter reader.rules start id) hinner hbnodup (by
      intro x hx
      simp only [Progress.enter, List.mem_cons, not_or]
      exact ⟨fun h => hidb (h ▸ hx), hnew x (.inr (.inl hx))⟩)
    have hclose : reader.step text ((p.enter reader.rules start id).add body.ids inside) stop =
        .ok _ :=
      step_eq_ok_iff.2 (.closes _ stop _ _ hq' rfl)
    obtain ⟨after, hrun, hafter⟩ := ih
      (p := ((p.enter reader.rules start id).add body.ids inside).leave stop
        (p.openRegion reader.rules start id) p.opened) hrest hsnodup (by
      intro x hx
      simp only [Progress.leave, Progress.add, Progress.enter, List.mem_append, List.mem_reverse,
        List.mem_cons, not_or]
      exact ⟨fun hxb => hdisj hxb hx, fun h => hids (h ▸ hx), hnew x (.inr (.inr hx))⟩)
    refine ⟨after ++ [.region
      { id, enabled := reader.rules.isEnabled start.text, opening := start.text,
        closing := stop.text } (assemble inside)], ?_, ?_⟩
    · rw [foldlM_step_cons hopen, List.foldlM_append, hrunb]
      refine (foldlM_step_cons hclose).trans (hrun.trans ?_)
      exact congrArg _ (p.add_leave_add reader.rules start stop id body.ids s.ids inside after)
    · rw [assemble_append_singleton, hafter, hinside]
      rfl

/-! ## Reading a text -/

/-- The pieces of a text, up to a comment that never ends. -/
def slices (reader : RegionReader) (text : Text) : List Slice :=
  (reader.pieces (reader.style.scan text).tokens).map Piece.slice

/-- Reading succeeds exactly if all comments end and the pieces are the layout of a document, and
the document is the result. -/
theorem read_eq_ok_iff {d : Document} :
    reader.read text = .ok d ↔
      (reader.style.scan text).unclosed = none ∧
        Layout reader.rules (reader.slices text) d.segments := by
  constructor
  · intro h
    unfold read at h
    -- nothing may be left open at the end of the run, no comment and no region
    rcases exists_eq_ok_of_bind h with ⟨p, hrun, h⟩
    have hread := unfinished_of_foldlM (p := .start) (.top .nil) hrun
    cases hunclosed : (reader.style.scan text).unclosed with
    | some c => simp [hunclosed] at h
    | none =>
      cases hopened : p.opened with
      | cons o opened => simp [hunclosed, hopened] at h
      | nil =>
        simp only [hunclosed, hopened] at h
        rw [hopened] at hread
        rcases hread with ⟨hspelled⟩
        rw [Document.segments_of_of?_eq_ok h]
        exact ⟨rfl, hspelled.layout⟩
  · rintro ⟨hunclosed, hlayout⟩
    obtain ⟨parts, hrun, hparts⟩ :=
      foldlM_of_layout text (p := .start) hlayout rfl d.nodup (by simp [Progress.start])
    unfold read
    simp only [hrun, hunclosed, bind, Except.bind]
    simp only [Progress.add, Progress.start, List.append_nil, hparts]
    exact Document.of?_eq_ok d.nodup

/-- The regions of a document that was read follow their markers. -/
theorem follows_of_read {d : Document} (h : reader.read text = .ok d) {r : Region}
    (hr : r ∈ d.regions) : r.fence.Follows reader.rules :=
  (read_eq_ok_iff.1 h).2.follows hr

/-- The reader of protected regions in a language with the comments of C. -/
def slashes (nesting : Nesting) (inverse : Bool) : RegionReader :=
  { style :=
      { blocks := [{ opening := "/*".toList, closing := "*/".toList }]
        lines := ["//".toList]
        nesting
        delimited := by decide
        blocks_full := by decide
        lines_full := by decide }
    rules := ReadyMarkers.protectedRegion.patterns.rules
    inverse }

end RegionReader

end KeptRegions
