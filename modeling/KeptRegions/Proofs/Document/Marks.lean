import KeptRegions.Proofs.Document.Lossless

namespace KeptRegions

/-!
# Marks

Seen without its tokens, a text is a sequence of marks: the start and end markers and the plain text
between them. The marks alone decide how the text is read: it is a document with certain ids exactly
if the markers balance and the start markers say these ids (`exists_read_iff`), and it is a certain
document exactly if it has the marks of that document (`read_eq_ok_iff_marks`).
-/

/-- A marker, or the text between two markers. -/
inductive Mark where
  | opens (marker : Text)
  | closes (marker : Text)
  | plain (text : Text)
deriving DecidableEq

namespace Mark

/-- Plain text in front of marks. It is joined to plain text that these start with, and empty text
is nothing. -/
def joinPlain (text : Text) : List Mark → List Mark
  | plain next :: rest => plain (text ++ next) :: rest
  | [] => if text.isEmpty then [] else [plain text]
  | m :: rest => if text.isEmpty then m :: rest else plain text :: m :: rest

/-- The number of regions that are open behind the marks if `depth` are open in front of them. There
is none if an end marker meets no open region. -/
def depthAfter? (depth : Nat) : List Mark → Option Nat
  | [] => some depth
  | plain _ :: rest => depthAfter? depth rest
  | opens _ :: rest => depthAfter? (depth + 1) rest
  | closes _ :: rest =>
    match depth with
    | 0 => none
    | depth + 1 => depthAfter? depth rest

/-- The ids that the start markers say. -/
def openedIds (rules : MarkerRules) : List Mark → List (Option Text)
  | [] => []
  | opens marker :: rest => rules.idOf marker :: openedIds rules rest
  | closes _ :: rest => openedIds rules rest
  | plain _ :: rest => openedIds rules rest

variable {rules : MarkerRules} {text : Text} {depth : Nat} {ms ns : List Mark}

@[simp] theorem depthAfter?_joinPlain :
    depthAfter? depth (joinPlain text ms) = depthAfter? depth ms := by
  cases ms with
  | nil =>
    simp only [joinPlain]
    split <;> rfl
  | cons m ms =>
    cases m <;> simp only [joinPlain] <;> (try split) <;> rfl

@[simp] theorem openedIds_joinPlain : openedIds rules (joinPlain text ms) = openedIds rules ms := by
  cases ms with
  | nil =>
    simp only [joinPlain]
    split <;> rfl
  | cons m ms =>
    cases m <;> simp only [joinPlain] <;> (try split) <;> rfl

@[simp] theorem openedIds_append :
    openedIds rules (ms ++ ns) = openedIds rules ms ++ openedIds rules ns := by
  induction ms with
  | nil => rfl
  | cons m ms ih => cases m <;> simp [openedIds, ih]

/-- Plain text is not joined across a marker. -/
theorem joinPlain_append {m : Mark} (hm : ∀ t, m ≠ plain t) :
    joinPlain text (ms ++ m :: ns) = joinPlain text ms ++ m :: ns := by
  cases ms with
  | nil =>
    cases m with
    | plain t => exact absurd rfl (hm t)
    | opens | closes =>
      simp only [List.nil_append, joinPlain]
      split <;> rfl
  | cons k ms =>
    cases k <;> simp only [List.cons_append, joinPlain] <;> (try split) <;> rfl

end Mark

/-- The marks of some pieces. -/
def MarkerRules.marks (rules : MarkerRules) : List Slice → List Mark
  | [] => []
  | q :: qs =>
    match rules.roleOf q with
    | .opens => .opens q.text :: rules.marks qs
    | .closes => .closes q.text :: rules.marks qs
    | .plain => Mark.joinPlain q.text (rules.marks qs)

/-- The marks of a text. -/
def RegionReader.marks (reader : RegionReader) (text : Text) : List Mark :=
  reader.rules.marks (reader.slices text)

/-- The marks of segments. -/
def Segments.marks : Segments → List Mark
  | nil => []
  | plain text rest => .plain text :: rest.marks
  | region fence body rest =>
    .opens fence.opening :: (body.marks ++ .closes fence.closing :: rest.marks)

/-! ## The marks of a layout -/

section Marks

variable {rules : MarkerRules} {qs : List Slice} {s : Segments} {depth : Nat}

theorem MarkerRules.marks_append {ps : List Slice} {q : Slice} (hq : rules.roleOf q ≠ .plain) :
    rules.marks (ps ++ q :: qs) = rules.marks ps ++ rules.marks (q :: qs) := by
  have hmarker : ∃ m, (∀ t, m ≠ Mark.plain t) ∧ rules.marks (q :: qs) = m :: rules.marks qs := by
    cases hrole : rules.roleOf q with
    | plain => exact absurd hrole hq
    | opens => exact ⟨.opens q.text, nofun, by simp only [marks, hrole]⟩
    | closes => exact ⟨.closes q.text, nofun, by simp only [marks, hrole]⟩
  rcases hmarker with ⟨m, hm, hmarks⟩
  rw [hmarks]
  induction ps with
  | nil => exact hmarks
  | cons p ps ih =>
    rw [List.cons_append, marks, marks, ih]
    split
    · rfl
    · rfl
    · exact Mark.joinPlain_append hm

@[simp] theorem Part.marks_before_plain (text : Text) (s : Segments) :
    ((Part.plain text).before s).marks = Mark.joinPlain text s.marks := by
  simp only [Part.before]
  cases s <;> simp only [Segments.marks, Segments.joinPlain, Mark.joinPlain] <;> split <;>
    simp_all [Segments.marks]

theorem Layout.marks_eq (h : Layout rules qs s) : rules.marks qs = s.marks := by
  induction h with
  | nil => rfl
  | plain hq h ih => simp only [MarkerRules.marks, hq, ih, Part.marks_before_plain]
  | @region q q' id bs qs body s hq hid hne hbody hq' h ihb ih =>
    -- the end marker keeps the plain text of the body and that behind the region apart
    have hinner : rules.marks (bs ++ q' :: qs) = rules.marks bs ++ rules.marks (q' :: qs) :=
      MarkerRules.marks_append (by rw [hq']; decide)
    simp only [MarkerRules.marks, hq, hinner, hq', ihb, ih, Segments.marks]

/-! ## The marks of segments -/

namespace Segments

/-- Segments open no region that they do not close. -/
theorem depthAfter?_marks {ms : List Mark} :
    Mark.depthAfter? depth (s.marks ++ ms) = Mark.depthAfter? depth ms := by
  induction s generalizing depth ms with
  | nil => rfl
  | plain text rest ih => exact ih
  | region fence body rest ihb ihr =>
    simp only [marks, List.cons_append, List.append_assoc, Mark.depthAfter?]
    rw [ihb]
    simp only [Mark.depthAfter?, ihr]

theorem openedIds_marks (h : ∀ r ∈ s.regions, r.fence.Follows rules) :
    Mark.openedIds rules s.marks = s.ids.map some := by
  induction s with
  | nil => rfl
  | plain text rest ih => exact ih h
  | region fence body rest ihb ihr =>
    simp only [regions, List.mem_cons, List.mem_append] at h
    have hid := (h _ (.inl rfl)).idOf_opening
    have hbody := ihb fun r hr => h r (.inr (.inl hr))
    have hrest := ihr fun r hr => h r (.inr (.inr hr))
    simp [marks, Mark.openedIds, ids, hid, hbody, hrest]

theorem ne_nil_of_mem_ids (h : ∀ r ∈ s.regions, r.fence.Follows rules) {x : Text}
    (hx : x ∈ s.ids) : x ≠ [] := by
  rw [ids_eq_map_regions] at hx
  rcases List.mem_map.1 hx with ⟨r, hr, rfl⟩
  exact (h r hr).id_ne_nil

/-- Where an end marker may follow, or nothing, the marks determine the segments. -/
theorem eq_of_marks_append {t : Segments} {ms ns : List Mark}
    (hs : ∀ r ∈ s.regions, r.fence.Follows rules) (ht : ∀ r ∈ t.regions, r.fence.Follows rules)
    (hms : ∀ m ∈ ms.head?, ∃ marker, m = .closes marker)
    (hns : ∀ m ∈ ns.head?, ∃ marker, m = .closes marker)
    (h : s.marks ++ ms = t.marks ++ ns) : s = t ∧ ms = ns := by
  induction s generalizing t ms ns with
  | nil =>
    cases t with
    | nil => exact ⟨rfl, h⟩
    | plain | region =>
      -- the marks on the other side would start with no end marker
      subst h
      simp [marks] at hms
  | plain text rest ih =>
    cases t with
    | nil =>
      have h : ns = _ := h.symm
      subst h
      simp [marks] at hns
    | plain text' rest' =>
      simp only [marks, List.cons_append, List.cons.injEq, Mark.plain.injEq] at h
      rcases ih (t := rest') hs ht hms hns h.2 with ⟨rfl, hbehind⟩
      rw [h.1]
      exact ⟨rfl, hbehind⟩
    | region => simp [marks] at h
  | region fence body rest ihb ihr =>
    cases t with
    | nil =>
      have h : ns = _ := h.symm
      subst h
      simp [marks] at hns
    | plain => simp [marks] at h
    | region fence' body' rest' =>
      -- equal start markers, equal bodies up to the end markers, and equal segments behind them
      simp only [marks, List.cons_append, List.append_assoc, List.cons.injEq,
        Mark.opens.injEq] at h
      simp only [regions, List.mem_cons, List.mem_append] at hs ht
      rcases h with ⟨hopening, h⟩
      obtain ⟨rfl, hbehind⟩ := ihb (t := body') (fun r hr => hs r (.inr (.inl hr)))
        (fun r hr => ht r (.inr (.inl hr))) (by simp) (by simp) h
      simp only [List.cons.injEq, Mark.closes.injEq] at hbehind
      rcases hbehind with ⟨hclosing, hbehind⟩
      obtain ⟨rfl, hrest⟩ := ihr (t := rest') (fun r hr => hs r (.inr (.inr hr)))
        (fun r hr => ht r (.inr (.inr hr))) hms hns hbehind
      -- the start marker gives the same id and the same flag
      have hfence : fence = fence' :=
        (hs _ (.inl rfl)).eq_of_markers (ht _ (.inl rfl)) hopening hclosing
      exact ⟨by rw [hfence], hrest⟩

theorem eq_of_marks {t : Segments} (hs : ∀ r ∈ s.regions, r.fence.Follows rules)
    (ht : ∀ r ∈ t.regions, r.fence.Follows rules) (h : s.marks = t.marks) : s = t := by
  have happend : s.marks ++ [] = t.marks ++ [] := by rw [h]
  exact (eq_of_marks_append hs ht (by simp) (by simp) happend).1

end Segments

/-! ## Balanced markers -/

/-- Pieces behind the start markers of `depth` regions that are still open: each of the regions
comes to its end, and a layout follows. -/
inductive Closing (rules : MarkerRules) : Nat → List Slice → Prop where
  | none {qs : List Slice} {s : Segments} (h : Layout rules qs s) : Closing rules 0 qs
  | one {depth : Nat} {bs qs : List Slice} {q : Slice} {s : Segments} (hbody : Layout rules bs s)
      (hq : rules.roleOf q = .closes) (h : Closing rules depth qs) :
      Closing rules (depth + 1) (bs ++ q :: qs)

/-- What may stand in front of a layout may stand in front of more open regions. -/
theorem Closing.append {ps : List Slice} (h : Closing rules depth qs)
    (hps : ∀ {qs s}, Layout rules qs s → ∃ s', Layout rules (ps ++ qs) s') :
    Closing rules depth (ps ++ qs) := by
  cases h with
  | none h =>
    rcases hps h with ⟨s', h⟩
    exact .none h
  | one hbody hq h =>
    rcases hps hbody with ⟨s', hbody⟩
    rw [← List.append_assoc]
    exact .one hbody hq h

/-- Pieces whose markers balance come to an end. -/
theorem closing_of_depthAfter? (hdepth : Mark.depthAfter? depth (rules.marks qs) = some 0)
    (hids : ∀ x ∈ Mark.openedIds rules (rules.marks qs), ∃ id, x = some id ∧ id ≠ []) :
    Closing rules depth qs := by
  induction qs generalizing depth with
  | nil =>
    obtain rfl : depth = 0 := by simpa [MarkerRules.marks, Mark.depthAfter?] using hdepth
    exact .none .nil
  | cons q qs ih =>
    cases hq : rules.roleOf q with
    | plain =>
      simp only [MarkerRules.marks, hq, Mark.depthAfter?_joinPlain,
        Mark.openedIds_joinPlain] at hdepth hids
      have happend : Closing rules depth ([q] ++ qs) :=
        (ih hdepth hids).append fun h => ⟨_, .plain hq h⟩
      exact happend
    | opens =>
      simp only [MarkerRules.marks, hq, Mark.depthAfter?, Mark.openedIds,
        List.mem_cons] at hdepth hids
      rcases hids _ (.inl rfl) with ⟨id, hid, hne⟩
      -- the region that is opened is the first that is closed
      cases ih hdepth fun x hx => hids x (.inr hx) with
      | @one _ bs rest q' s hbody hq' hrest =>
        have happend : Closing rules depth ((q :: (bs ++ [q'])) ++ rest) :=
          hrest.append fun h => ⟨_, by simpa using Layout.region hq hid hne hbody hq' h⟩
        simpa using happend
    | closes =>
      simp only [MarkerRules.marks, hq, Mark.openedIds] at hdepth hids
      cases depth with
      | zero =>
        -- an end marker that meets no open region
        simp [Mark.depthAfter?] at hdepth
      | succ depth =>
        have hone : Closing rules (depth + 1) ([] ++ q :: qs) := .one .nil hq (ih hdepth hids)
        exact hone

end Marks

/-! ## Reading by marks -/

namespace RegionReader

variable {reader : RegionReader} {text : Text}

/-- A text is read as a document with the ids of `d` exactly if all comments end, the markers
balance, and the start markers say these ids. -/
theorem exists_read_iff {d : Document} (hd : ∀ r ∈ d.regions, r.fence.Follows reader.rules) :
    (∃ e, reader.read text = .ok e ∧ e.content = text ∧ e.ids = d.ids) ↔
      (reader.style.scan text).unclosed = none ∧
        Mark.depthAfter? 0 (reader.marks text) = some 0 ∧
        Mark.openedIds reader.rules (reader.marks text) = d.ids.map some := by
  constructor
  · rintro ⟨e, hread, -, hids⟩
    rcases read_eq_ok_iff.1 hread with ⟨hclosed, hlayout⟩
    refine ⟨hclosed, ?_, ?_⟩
    · rw [marks, hlayout.marks_eq, ← List.append_nil e.segments.marks, Segments.depthAfter?_marks]
      rfl
    · rw [marks, hlayout.marks_eq, ← hids]
      exact Segments.openedIds_marks fun r hr => hlayout.follows hr
  · rintro ⟨hclosed, hdepth, hids⟩
    have hsome : ∀ x ∈ Mark.openedIds reader.rules (reader.marks text),
        ∃ id, x = some id ∧ id ≠ [] := by
      rw [hids]
      intro x hx
      rcases List.mem_map.1 hx with ⟨id, hid, rfl⟩
      exact ⟨id, rfl, Segments.ne_nil_of_mem_ids hd hid⟩
    -- with nothing open at the beginning, balanced pieces are one layout
    cases closing_of_depthAfter? hdepth hsome with
    | @none _ s hlayout =>
      have hsegments : s.ids = d.ids := by
        refine List.map_injective_iff.2 (fun _ _ h => Option.some.inj h) ?_
        rw [← hids, marks, hlayout.marks_eq]
        exact (Segments.openedIds_marks fun r hr => hlayout.follows hr).symm
      have hnodup : s.ids.Nodup := hsegments ▸ d.nodup
      refine ⟨{ segments := s, nodup := hnodup }, ?_, ?_, hsegments⟩
      · exact read_eq_ok_iff.2 ⟨hclosed, hlayout⟩
      · exact hlayout.content_eq.trans (flatMap_text_slices hclosed)

/-- A text is read as `d` exactly if all comments end and the text has the marks of `d`. -/
theorem read_eq_ok_iff_marks {d : Document} (hd : ∀ r ∈ d.regions, r.fence.Follows reader.rules) :
    reader.read text = .ok d ↔
      (reader.style.scan text).unclosed = none ∧ reader.marks text = d.segments.marks := by
  constructor
  · intro h
    rcases read_eq_ok_iff.1 h with ⟨hclosed, hlayout⟩
    exact ⟨hclosed, hlayout.marks_eq⟩
  · rintro ⟨hclosed, hmarks⟩
    have hdepth : Mark.depthAfter? 0 (reader.marks text) = some 0 := by
      rw [hmarks, ← List.append_nil d.segments.marks, Segments.depthAfter?_marks]
      rfl
    have hids : Mark.openedIds reader.rules (reader.marks text) = d.ids.map some := by
      rw [hmarks]
      exact Segments.openedIds_marks hd
    rcases (exists_read_iff hd).2 ⟨hclosed, hdepth, hids⟩ with ⟨e, hread, -⟩
    have hlayout := (read_eq_ok_iff.1 hread).2
    have hsegments : e.segments = d.segments :=
      Segments.eq_of_marks (fun r hr => hlayout.follows hr) hd (hlayout.marks_eq.symm.trans hmarks)
    have hed : e = d := by
      cases e
      cases d
      simpa using hsegments
    rwa [← hed]

end RegionReader

end KeptRegions
