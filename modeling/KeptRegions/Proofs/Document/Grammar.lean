import KeptRegions.Proofs.Document.Balance

namespace KeptRegions

/-!
# What is read, and what is refused

Pieces are sound if each start marker says a new id and no end marker is stray. A text is read
exactly if all comments end, its pieces are sound, and all regions are closed. Otherwise the fault is
that of the first piece that makes the pieces unsound, or else of an unclosed comment, or else of the
innermost open region (`read_eq_error_iff`).
-/

/-- Pieces that can be read one after the other: each start marker says an id that none before it
says, and there is no stray end marker. -/
structure MarkerRules.Sound (rules : MarkerRules) (qs : List Slice) : Prop where
  ids : ∀ x ∈ rules.startIds qs, ∃ id, x = some id ∧ id ≠ []
  nodup : (rules.startIds qs).Nodup
  noStrayEnd : rules.NoStrayEnd qs

/-- What is wrong with a piece behind the pieces `before`. -/
inductive MarkerRules.Violates (rules : MarkerRules) (before : List Slice) (q : Slice) :
    RegionFault.Cause → Prop where
  | missingId (hq : rules.roleOf q = .opens) (hid : ∀ id, rules.idOf q.text = some id → id = []) :
      Violates rules before q (.missingId q.text)
  | duplicateId {id : Text} (hq : rules.roleOf q = .opens) (hid : rules.idOf q.text = some id)
      (hne : id ≠ []) (hseen : some id ∈ rules.startIds before) :
      Violates rules before q (.duplicateId id)
  | strayEnd (hq : rules.roleOf q = .closes) (hopen : rules.starts before ≤ rules.ends before) :
      Violates rules before q (.strayEnd q.text)

namespace MarkerRules

variable {rules : MarkerRules} {q : Slice} {qs rs : List Slice}
  {cause cause' : RegionFault.Cause}

theorem sound_nil : rules.Sound [] where
  ids := by simp [startIds]
  nodup := by simp [startIds]
  noStrayEnd := noStrayEnd_nil

theorem Sound.of_prefix (h : rules.Sound qs) (hrs : rs <+: qs) : rules.Sound rs := by
  rcases hrs with ⟨ts, rfl⟩
  have hids := h.ids
  have hnodup := h.nodup
  rw [startIds_append] at hids hnodup
  refine ⟨fun x hx => hids x (List.mem_append_left _ hx), hnodup.of_append_left, ?_⟩
  exact h.noStrayEnd.of_prefix (List.prefix_append rs ts)

theorem Sound.concat_of_opens {id : Text} (h : rules.Sound qs) (hq : rules.roleOf q = .opens)
    (hid : rules.idOf q.text = some id) (hne : id ≠ []) (hnew : some id ∉ rules.startIds qs) :
    rules.Sound (qs ++ [q]) := by
  have hids : rules.startIds (qs ++ [q]) = rules.startIds qs ++ [some id] := by
    rw [startIds_append, startIds_cons_of_opens hq, hid]
    rfl
  refine ⟨?_, ?_, h.noStrayEnd.concat ?_⟩
  · intro x hx
    rw [hids, List.mem_append, List.mem_singleton] at hx
    rcases hx with hx | rfl
    · exact h.ids x hx
    · exact ⟨id, rfl, hne⟩
  · rw [hids, List.nodup_append]
    refine ⟨h.nodup, List.nodup_singleton _, ?_⟩
    intro x hx y hy
    rw [List.mem_singleton.1 hy]
    exact fun hxy => hnew (hxy ▸ hx)
  · have hqs := h.noStrayEnd qs (List.prefix_refl qs)
    simp only [starts_append, ends_append, starts_cons, ends_cons, hq, reduceCtorEq, if_true,
      if_false, starts_nil, ends_nil]
    omega

theorem Sound.concat_of_ne_opens (h : rules.Sound qs) (hq : rules.roleOf q ≠ .opens)
    (hcount : rules.ends (qs ++ [q]) ≤ rules.starts (qs ++ [q])) : rules.Sound (qs ++ [q]) := by
  have hids : rules.startIds (qs ++ [q]) = rules.startIds qs := by
    rw [startIds_append, startIds_cons_of_ne hq]
    exact List.append_nil _
  refine ⟨?_, ?_, h.noStrayEnd.concat hcount⟩
  · rw [hids]
    exact h.ids
  · rw [hids]
    exact h.nodup

/-- With a violation the pieces are unsound. -/
theorem Violates.not_sound (h : rules.Violates qs q cause) : ¬ rules.Sound (qs ++ [q]) := by
  intro hsound
  cases h with
  | missingId hq hid =>
    have hmem : rules.idOf q.text ∈ rules.startIds (qs ++ [q]) := by
      simp [startIds_cons_of_opens hq]
    rcases hsound.ids _ hmem with ⟨id, hsome, hne⟩
    exact hne (hid id hsome)
  | duplicateId hq hid hne hseen =>
    have hnodup := hsound.nodup
    rw [startIds_append, startIds_cons_of_opens hq, hid, List.nodup_append] at hnodup
    exact hnodup.2.2 _ hseen _ List.mem_cons_self rfl
  | strayEnd hq hopen =>
    have hcount := hsound.noStrayEnd _ (List.prefix_refl _)
    simp only [starts_append, ends_append, starts_cons, ends_cons, hq, reduceCtorEq, if_true,
      if_false, starts_nil, ends_nil] at hcount
    omega

/-- A piece has at most one violation. -/
theorem Violates.unique (h : rules.Violates qs q cause) (h' : rules.Violates qs q cause') :
    cause = cause' := by
  cases h with
  | missingId hq hid =>
    cases h' with
    | missingId => rfl
    | duplicateId hq' hid' hne' => exact absurd (hid _ hid') hne'
    | strayEnd hq' => rw [hq] at hq'; cases hq'
  | duplicateId hq hid hne =>
    cases h' with
    | missingId hq' hid' => exact absurd (hid' _ hid) hne
    | duplicateId hq' hid' =>
      rw [hid] at hid'
      cases hid'
      rfl
    | strayEnd hq' => rw [hq] at hq'; cases hq'
  | strayEnd hq =>
    cases h' with
    | missingId hq' => rw [hq] at hq'; cases hq'
    | duplicateId hq' => rw [hq] at hq'; cases hq'
    | strayEnd => rfl

end MarkerRules

/-! ## Open regions -/

/-- The regions that are open behind some pieces, innermost first: behind the start marker of each
the pieces balance up to the start marker of the next. -/
inductive Pending (rules : MarkerRules) : List OpenRegion → List Piece → Prop where
  | none {ps : List Piece} (h : rules.Balanced (ps.map Piece.slice)) : Pending rules [] ps
  | one {o : OpenRegion} {opened : List OpenRegion} {before inside : List Piece} {start : Piece}
      (h : Pending rules opened before) (hstart : rules.roleOf start.slice = .opens)
      (hid : rules.idOf start.text = some o.id) (hposition : o.start = start.start)
      (hinside : rules.Balanced (inside.map Piece.slice)) :
      Pending rules (o :: opened) (before ++ start :: inside)

namespace Pending

variable {rules : MarkerRules} {opened : List OpenRegion} {ps qs : List Piece}

/-- Balanced pieces open and close nothing. -/
theorem append (h : Pending rules opened ps) (hqs : rules.Balanced (qs.map Piece.slice)) :
    Pending rules opened (ps ++ qs) := by
  cases h with
  | none h =>
    refine .none ?_
    rw [List.map_append]
    exact h.append hqs
  | one h hstart hid hposition hinside =>
    rw [List.append_assoc, List.cons_append]
    refine .one h hstart hid hposition ?_
    rw [List.map_append]
    exact hinside.append hqs

/-- As many regions are open as there are more start markers than end markers. -/
theorem starts_eq (h : Pending rules opened ps) :
    rules.starts (ps.map Piece.slice) = rules.ends (ps.map Piece.slice) + opened.length := by
  induction h with
  | none h => exact h.starts_eq_ends
  | one h hstart hid hposition hinside ih =>
    have hcount := hinside.starts_eq_ends
    simp only [List.map_append, List.map_cons, MarkerRules.starts_append, MarkerRules.ends_append,
      MarkerRules.starts_cons, MarkerRules.ends_cons, hstart, List.length_cons, reduceCtorEq,
      if_true, if_false]
    omega

theorem ends_le (h : Pending rules opened ps) :
    rules.ends (ps.map Piece.slice) ≤ rules.starts (ps.map Piece.slice) := by
  rw [h.starts_eq]
  exact Nat.le_add_right _ _

/-- An end marker closes the innermost open region. -/
theorem close {o : OpenRegion} {stop : Piece} (h : Pending rules (o :: opened) ps)
    (hstop : rules.roleOf stop.slice = .closes) : Pending rules opened (ps ++ [stop]) := by
  cases h with
  | one h hstart hid hposition hinside =>
    rw [List.append_assoc, List.cons_append]
    refine h.append ?_
    rw [List.map_cons, List.map_append]
    exact hinside.enclose hstart hstop

end Pending

/-! ## Runs -/

/-- Where reading has come to behind some pieces. -/
structure Progress.Reaches (rules : MarkerRules) (ps : List Piece) (p : Progress) : Prop where
  sound : rules.Sound (ps.map Piece.slice)
  seen : p.seen.reverse.map some = rules.startIds (ps.map Piece.slice)
  pending : Pending rules p.opened ps

namespace Progress

variable {rules : MarkerRules} {ps : List Piece} {p p' : Progress} {piece : Piece}

theorem reaches_start : Progress.start.Reaches rules [] where
  sound := MarkerRules.sound_nil
  seen := rfl
  pending := .none MarkerRules.balanced_nil

theorem Reaches.mem_seen_iff (h : p.Reaches rules ps) {id : Text} :
    id ∈ p.seen ↔ some id ∈ rules.startIds (ps.map Piece.slice) := by
  rw [← h.seen]
  simp

/-- Behind one more piece that opens no region. -/
theorem Reaches.concat_of_ne_opens (h : p.Reaches rules ps)
    (hne : rules.roleOf piece.slice ≠ .opens) (hseen : p'.seen = p.seen)
    (hpending : Pending rules p'.opened (ps ++ [piece])) : p'.Reaches rules (ps ++ [piece]) := by
  have hmap : (ps ++ [piece]).map Piece.slice = ps.map Piece.slice ++ [piece.slice] :=
    List.map_append
  have hcount := hpending.ends_le
  rw [hmap] at hcount
  refine ⟨?_, ?_, hpending⟩
  · rw [hmap]
    exact h.sound.concat_of_ne_opens hne hcount
  · rw [hmap, MarkerRules.startIds_append, MarkerRules.startIds_cons_of_ne hne, hseen, h.seen]
    exact (List.append_nil _).symm

/-- A step that succeeds comes one piece further. -/
theorem Reaches.takes (h : p.Reaches rules ps) (hstep : p.Takes rules piece p') :
    p'.Reaches rules (ps ++ [piece]) := by
  cases hstep with
  | plain hrole =>
    refine h.concat_of_ne_opens (by rw [hrole]; decide) rfl ?_
    exact h.pending.append (MarkerRules.balanced_of_plain hrole)
  | opens id hrole hid hne hnew =>
    have hmap : (ps ++ [piece]).map Piece.slice = ps.map Piece.slice ++ [piece.slice] :=
      List.map_append
    refine ⟨?_, ?_, .one h.pending hrole hid rfl MarkerRules.balanced_nil⟩
    · rw [hmap]
      exact h.sound.concat_of_opens hrole hid hne (mt h.mem_seen_iff.2 hnew)
    · rw [hmap, MarkerRules.startIds_append, MarkerRules.startIds_cons_of_opens hrole, ← h.seen]
      simp [enter, MarkerRules.startIds, Piece.slice, hid]
  | closes o opened hrole hopened =>
    refine h.concat_of_ne_opens (by rw [hrole]; decide) rfl ?_
    exact Pending.close (hopened ▸ h.pending) hrole

end Progress

namespace RegionReader

variable {reader : RegionReader} {text : Text} {p p' : Progress} {piece : Piece}
  {ps pieces : List Piece} {fault fault' : RegionFault}

/-- A step that fails does so for a violation. -/
theorem violates_of_step (h : p.Reaches reader.rules ps)
    (hstep : reader.step text p piece = .error fault) :
    ∃ cause, reader.rules.Violates (ps.map Piece.slice) piece.slice cause ∧
      fault = .found cause piece.start text := by
  rw [step_eq_match] at hstep
  split at hstep
  · rename_i hrole
    split at hstep
    · rename_i hid
      cases hstep
      refine ⟨_, .missingId hrole fun id hsome => ?_, rfl⟩
      rw [Piece.slice, hid] at hsome
      cases hsome
    · rename_i hid
      cases hstep
      refine ⟨_, .missingId hrole fun id hsome => ?_, rfl⟩
      rw [Piece.slice, hid] at hsome
      cases hsome
      rfl
    · rename_i id hne hid
      split at hstep
      · rename_i hseen
        cases hstep
        exact ⟨_, .duplicateId hrole hid hne (h.mem_seen_iff.1 hseen), rfl⟩
      · cases hstep
  · rename_i hrole
    split at hstep
    · -- no region is open, so there are no more start markers than end markers
      rename_i hopened
      cases hstep
      have hcount := h.pending.starts_eq
      rw [hopened] at hcount
      exact ⟨_, .strayEnd hrole (Nat.le_of_eq hcount), rfl⟩
    · cases hstep
  · cases hstep

/-- A run that succeeds comes to its end. -/
theorem reaches_of_foldlM (h : p.Reaches reader.rules ps)
    (hrun : pieces.foldlM (reader.step text) p = .ok p') :
    p'.Reaches reader.rules (ps ++ pieces) := by
  induction pieces generalizing p ps with
  | nil =>
    cases hrun
    simpa using h
  | cons piece pieces ih =>
    rw [List.foldlM_cons] at hrun
    rcases exists_eq_ok_of_bind hrun with ⟨q, hstep, hrun⟩
    have hq := ih (h.takes (step_eq_ok_iff.1 hstep)) hrun
    simpa [List.append_assoc] using hq

/-- A run that fails does so for the first violation. -/
theorem violates_of_foldlM (h : p.Reaches reader.rules ps)
    (hrun : pieces.foldlM (reader.step text) p = .error fault) :
    ∃ before piece after cause, pieces = before ++ piece :: after ∧
      reader.rules.Sound ((ps ++ before).map Piece.slice) ∧
      reader.rules.Violates ((ps ++ before).map Piece.slice) piece.slice cause ∧
      fault = .found cause piece.start text := by
  induction pieces generalizing p ps with
  | nil => cases hrun
  | cons piece pieces ih =>
    rw [List.foldlM_cons] at hrun
    cases hstep : reader.step text p piece with
    | error fault₀ =>
      rw [hstep] at hrun
      cases hrun
      rcases violates_of_step h hstep with ⟨cause, hviolates, rfl⟩
      refine ⟨[], piece, pieces, cause, rfl, ?_, ?_, rfl⟩
      · rw [List.append_nil]
        exact h.sound
      · rw [List.append_nil]
        exact hviolates
    | ok q =>
      rw [hstep] at hrun
      rcases ih (h.takes (step_eq_ok_iff.1 hstep)) hrun with
        ⟨before, piece', after, cause, rfl, hsound, hviolates, hfault⟩
      refine ⟨piece :: before, piece', after, cause, rfl, ?_, ?_, hfault⟩
      · simpa using hsound
      · simpa using hviolates

/-! ## Faults -/

/-- What is wrong with a text: the first violation among its pieces, or else a comment that never
ends, or else the innermost region that is never closed. -/
inductive Fails (reader : RegionReader) (text : Text) : RegionFault → Prop where
  | marker {before after : List Piece} {piece : Piece} {cause : RegionFault.Cause}
      (hpieces : reader.pieces (reader.style.scan text).tokens = before ++ piece :: after)
      (hbefore : reader.rules.Sound (before.map Piece.slice))
      (h : reader.rules.Violates (before.map Piece.slice) piece.slice cause) :
      Fails reader text (.found cause piece.start text)
  | comment {c : OpenComment} (hsound : reader.rules.Sound (reader.slices text))
      (hunclosed : (reader.style.scan text).unclosed = some c) :
      Fails reader text (.found (.unclosedComment c.opener c.nested) c.start text)
  | region {before after : List Piece} {start : Piece} {id : Text}
      (hsound : reader.rules.Sound (reader.slices text))
      (hclosed : (reader.style.scan text).unclosed = none)
      (hpieces : reader.pieces (reader.style.scan text).tokens = before ++ start :: after)
      (hstart : reader.rules.roleOf start.slice = .opens)
      (hid : reader.rules.idOf start.text = some id)
      (hafter : reader.rules.Balanced (after.map Piece.slice)) :
      Fails reader text (.found (.unclosedRegion id) start.start text)

section Unique

variable {before after before' after' : List Piece} {start start' : Piece}
  {cause cause' : RegionFault.Cause}

/-- Pieces that go on behind a violation are unsound. -/
theorem not_sound_of_violates
    (h : reader.rules.Violates (before.map Piece.slice) piece.slice cause) :
    ¬ reader.rules.Sound ((before ++ piece :: after).map Piece.slice) := by
  intro hsound
  refine h.not_sound (hsound.of_prefix ⟨after.map Piece.slice, ?_⟩)
  simp

theorem violation_unique
    (hpieces : before ++ piece :: after = before' ++ start :: after')
    (hbefore : reader.rules.Sound (before.map Piece.slice))
    (h : reader.rules.Violates (before.map Piece.slice) piece.slice cause)
    (hbefore' : reader.rules.Sound (before'.map Piece.slice))
    (h' : reader.rules.Violates (before'.map Piece.slice) start.slice cause') :
    piece = start ∧ cause = cause' := by
  -- if one were behind the other, the later one would follow unsound pieces
  rcases cut_cases hpieces with ⟨rfl, rfl, -⟩ | ⟨mid, rfl, -⟩ | ⟨mid, rfl, -⟩
  · exact ⟨rfl, h.unique h'⟩
  · exact absurd hbefore' (not_sound_of_violates h)
  · exact absurd hbefore (not_sound_of_violates h')

theorem innermost_unique
    (hpieces : before ++ start :: after = before' ++ start' :: after')
    (hstart : reader.rules.roleOf start.slice = .opens)
    (hafter : reader.rules.Balanced (after.map Piece.slice))
    (hstart' : reader.rules.roleOf start'.slice = .opens)
    (hafter' : reader.rules.Balanced (after'.map Piece.slice)) : start = start' := by
  -- if one were behind the other, it would be left open in pieces that balance
  rcases cut_cases hpieces with ⟨-, rfl, -⟩ | ⟨mid, -, rfl⟩ | ⟨mid, -, rfl⟩
  · rfl
  · rw [List.map_append, List.map_cons] at hafter
    exact (hafter.false_of_open hstart' hafter').elim
  · rw [List.map_append, List.map_cons] at hafter'
    exact (hafter'.false_of_open hstart hafter).elim

/-- A text has at most one fault. -/
theorem Fails.unique (h : reader.Fails text fault) (h' : reader.Fails text fault') :
    fault = fault' := by
  -- with a violation the pieces are unsound, and the other two faults are met on sound pieces
  have unsound : ∀ {before after : List Piece} {piece : Piece} {cause : RegionFault.Cause},
      reader.pieces (reader.style.scan text).tokens = before ++ piece :: after →
      reader.rules.Violates (before.map Piece.slice) piece.slice cause →
      ¬ reader.rules.Sound (reader.slices text) := by
    intro before after piece cause hpieces hviolates
    rw [slices, hpieces]
    exact not_sound_of_violates hviolates
  cases h with
  | marker hpieces hbefore hviolates =>
    cases h' with
    | marker hpieces' hbefore' hviolates' =>
      obtain ⟨rfl, rfl⟩ := violation_unique (hpieces.symm.trans hpieces') hbefore hviolates
        hbefore' hviolates'
      rfl
    | comment hsound => exact absurd hsound (unsound hpieces hviolates)
    | region hsound => exact absurd hsound (unsound hpieces hviolates)
  | comment hsound hunclosed =>
    cases h' with
    | marker hpieces' hbefore' hviolates' => exact absurd hsound (unsound hpieces' hviolates')
    | comment hsound' hunclosed' =>
      rw [hunclosed] at hunclosed'
      cases hunclosed'
      rfl
    | region hsound' hclosed => rw [hunclosed] at hclosed; cases hclosed
  | region hsound hclosed hpieces hstart hid hafter =>
    cases h' with
    | marker hpieces' hbefore' hviolates' => exact absurd hsound (unsound hpieces' hviolates')
    | comment hsound' hunclosed => rw [hunclosed] at hclosed; cases hclosed
    | region hsound' hclosed' hpieces' hstart' hid' hafter' =>
      obtain rfl := innermost_unique (hpieces.symm.trans hpieces') hstart hafter hstart' hafter'
      rw [hid] at hid'
      cases hid'
      rfl

end Unique

/-! ## Reading -/

/-- Once all regions are closed, the ids are known to be unique. -/
theorem of?_assemble_eq_ok (hrun : pieces.foldlM (reader.step text) .start = .ok p)
    (hopened : p.opened = []) : ∃ d, Document.of? (assemble p.parts) = .ok d := by
  have hread := unfinished_of_foldlM (.top .nil) hrun
  have hreaches := reaches_of_foldlM Progress.reaches_start hrun
  rw [List.nil_append] at hread hreaches
  rw [hopened] at hread
  cases hread with
  | top hspelled =>
    -- each start marker said a new id, and the ids of the segments are those
    have hnodup := hreaches.sound.nodup
    rw [hspelled.layout.startIds_eq] at hnodup
    exact ⟨_, Document.of?_eq_ok hnodup.of_map⟩

/-- A document has sound pieces. -/
theorem sound_of_read {d : Document} (h : reader.read text = .ok d) :
    reader.rules.Sound (reader.slices text) := by
  have hlayout := (read_eq_ok_iff.1 h).2
  refine ⟨?_, ?_, hlayout.balanced.noStrayEnd⟩
  · intro x hx
    rw [hlayout.startIds_eq] at hx
    rcases List.mem_map.1 hx with ⟨id, hid, rfl⟩
    rcases Segments.mem_ids_iff.1 hid with ⟨r, hr, rfl⟩
    exact ⟨_, rfl, (hlayout.follows hr).id_ne_nil⟩
  · rw [hlayout.startIds_eq]
    exact d.nodup.map fun _ _ h => Option.some.inj h

theorem fails_of_read (h : reader.read text = .error fault) : reader.Fails text fault := by
  unfold read at h
  cases hrun : (reader.pieces (reader.style.scan text).tokens).foldlM (reader.step text) .start with
  | error fault₀ =>
    simp only [hrun, bind, Except.bind] at h
    cases h
    rcases violates_of_foldlM Progress.reaches_start hrun with
      ⟨before, piece, after, cause, hpieces, hsound, hviolates, rfl⟩
    exact .marker hpieces hsound hviolates
  | ok p =>
    simp only [hrun, bind, Except.bind] at h
    have hreaches := reaches_of_foldlM Progress.reaches_start hrun
    rw [List.nil_append] at hreaches
    cases hunclosed : (reader.style.scan text).unclosed with
    | some c =>
      simp only [hunclosed] at h
      cases h
      exact .comment hreaches.sound hunclosed
    | none =>
      cases hopened : p.opened with
      | cons o opened =>
        simp only [hunclosed, hopened] at h
        cases h
        have hpending := hreaches.pending
        rw [hopened] at hpending
        generalize hpieces : reader.pieces (reader.style.scan text).tokens = all at hpending
        -- the region that is open innermost is the one opened last
        cases hpending with
        | one hbefore hstart hid hposition hinside =>
          rw [hposition]
          exact .region hreaches.sound hunclosed hpieces hstart hid hinside
      | nil =>
        simp only [hunclosed, hopened] at h
        rcases of?_assemble_eq_ok hrun hopened with ⟨d, hd⟩
        rw [hd] at h
        cases h

/-- Sound pieces with all comments and all regions closed have no fault. -/
theorem not_fails_of_sound (hclosed : (reader.style.scan text).unclosed = none)
    (hsound : reader.rules.Sound (reader.slices text))
    (hcount : reader.rules.starts (reader.slices text) = reader.rules.ends (reader.slices text)) :
    ¬ reader.Fails text fault := by
  intro h
  cases h with
  | marker hpieces hbefore hviolates =>
    rw [slices, hpieces] at hsound
    exact not_sound_of_violates hviolates hsound
  | comment hsound' hunclosed => rw [hunclosed] at hclosed; cases hclosed
  | region hsound' hclosed' hpieces hstart hid hafter =>
    have hbalanced : reader.rules.Balanced (reader.slices text) := ⟨hsound.noStrayEnd, hcount⟩
    rw [slices, hpieces, List.map_append, List.map_cons] at hbalanced
    exact hbalanced.false_of_open hstart hafter

theorem exists_read_iff_sound :
    (∃ d, reader.read text = .ok d) ↔
      (reader.style.scan text).unclosed = none ∧ reader.rules.Sound (reader.slices text) ∧
        reader.rules.starts (reader.slices text) = reader.rules.ends (reader.slices text) := by
  constructor
  · rintro ⟨d, h⟩
    rcases read_eq_ok_iff.1 h with ⟨hclosed, hlayout⟩
    exact ⟨hclosed, sound_of_read h, hlayout.balanced.starts_eq_ends⟩
  · rintro ⟨hclosed, hsound, hcount⟩
    cases h : reader.read text with
    | ok d => exact ⟨d, rfl⟩
    | error fault => exact absurd (fails_of_read h) (not_fails_of_sound hclosed hsound hcount)

/-- Reading fails with exactly the fault that the text has. -/
theorem read_eq_error_iff : reader.read text = .error fault ↔ reader.Fails text fault := by
  constructor
  · exact fails_of_read
  · intro hfails
    cases h : reader.read text with
    | ok d =>
      rcases exists_read_iff_sound.1 ⟨d, h⟩ with ⟨hclosed, hsound, hcount⟩
      exact absurd hfails (not_fails_of_sound hclosed hsound hcount)
    | error fault' => rw [(fails_of_read h).unique hfails]

/-- A text is read exactly if its comments end, each start marker says a new id, no end marker is
stray, and there are as many start markers as end markers. Otherwise its fault is reported. The
document has the ids of the start markers in their order, and the region of each start marker reaches
to the end marker that makes up for it. The document is never refused for its ids once all regions
are closed. -/
theorem read_follows_grammar (reader : RegionReader) (text : Text) :
    ((∃ d, reader.read text = .ok d) ↔
      (reader.style.scan text).unclosed = none ∧ reader.rules.Sound (reader.slices text) ∧
        reader.rules.starts (reader.slices text) = reader.rules.ends (reader.slices text)) ∧
    (∀ fault, reader.read text = .error fault ↔ reader.Fails text fault) ∧
    (∀ d, reader.read text = .ok d →
      d.ids.map some = reader.rules.startIds (reader.slices text) ∧
      ∀ before start after, reader.slices text = before ++ start :: after →
        reader.rules.roleOf start = .opens →
        ∃ inner stop outer r, after = inner ++ stop :: outer ∧ reader.rules.Balanced inner ∧
          d.regions[reader.rules.starts before]? = some r ∧
          r.Spans reader.rules start inner stop) ∧
    ∀ p, (reader.pieces (reader.style.scan text).tokens).foldlM (reader.step text) .start = .ok p →
      p.opened = [] → ∃ d, Document.of? (assemble p.parts) = .ok d := by
  refine ⟨exists_read_iff_sound, fun fault => read_eq_error_iff, fun d h => ?_, ?_⟩
  · have hlayout := (read_eq_ok_iff.1 h).2
    exact ⟨hlayout.startIds_eq.symm, fun before start after => hlayout.exists_spans⟩
  · exact fun p hrun hopened => of?_assemble_eq_ok hrun hopened

/-- A region in another one, and the same text with an end marker too many. -/
theorem read_follows_grammar_nested :
    let reader := slashes .flat false
    let start : Slice :=
      { candidate := true, text := "/* PROTECTED REGION ID(a) START */".toList }
    let closing := "/* PROTECTED REGION END */".toList
    let text := start.text ++ ("/* PROTECTED REGION ID(b) START */y".toList ++
      (closing ++ ("z".toList ++ closing)))
    (∃ d, reader.read text = .ok d ∧ d.ids = ["a".toList, "b".toList] ∧
      ∃ inner stop outer r, reader.slices text = start :: (inner ++ stop :: outer) ∧
        reader.rules.Balanced inner ∧ d.regions[0]? = some r ∧
        r.Spans reader.rules start inner stop) ∧
    reader.Fails (text ++ closing) (.found (.strayEnd closing) text.length (text ++ closing)) := by
  intro reader start closing text
  constructor
  · have hids : (do return (← reader.read text).ids) = .ok ["a".toList, "b".toList] := by
      decide +kernel
    rcases exists_eq_ok_of_bind hids with ⟨d, hread, hd⟩
    have hhead : (reader.slices text).head? = some start := by decide +kernel
    rcases List.head?_eq_some_iff.1 hhead with ⟨after, hslices⟩
    have hopens : reader.rules.roleOf start = .opens := by decide +kernel
    obtain ⟨inner, stop, outer, r, rfl, hinner, hr, hspans⟩ :=
      ((read_follows_grammar reader text).2.2.1 d hread).2 [] start after hslices hopens
    exact ⟨d, hread, Except.ok.inj hd, inner, stop, outer, r, hslices, hinner, hr, hspans⟩
  · have hfault : (reader.read (text ++ closing)).map Document.ids =
        .error (.found (.strayEnd closing) text.length (text ++ closing)) := by
      decide +kernel
    cases hread : reader.read (text ++ closing) with
    | ok d => rw [hread] at hfault; cases hfault
    | error fault =>
      rw [hread] at hfault
      cases hfault
      exact ((read_follows_grammar reader (text ++ closing)).2.1 _).1 hread

end RegionReader

end KeptRegions
