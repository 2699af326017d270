import KeptRegions.Proofs.Document.Canonical

namespace KeptRegions

/-!
# What reconciling leaves alone

Outside of the regions that get a copied body, reconciling changes nothing: with these bodies emptied
the result is the current document. A copied body has every character and every marker of its source,
in the same regions and in the same order, except for the regions that the current document places
elsewhere (`reconcile_keeps_layout`). Canonical segments are determined by their characters and
markers (`Canonical.eq_of_atoms`).
-/

/-! ## Characters and markers -/

/-- One character of plain text, or one marker. -/
inductive Sign where
  | char (c : Char)
  | opening (fence : Fence)
  | closing (fence : Fence)
deriving DecidableEq

/-- A sign and the ids of the regions that it belongs to, innermost first. A marker belongs to its
own region. -/
structure Atom where
  around : List Text
  sign : Sign
deriving DecidableEq

namespace Atom

/-- The characters of a plain text. -/
def chars (around : List Text) (text : Text) : List Atom :=
  text.map fun c => { around, sign := .char c }

/-- Whether the sign is a character of plain text. -/
def isChar (a : Atom) : Bool :=
  match a.sign with
  | .char _ => true
  | _ => false

variable {around : List Text} {text text' : Text} {a : Atom}

theorem mem_chars : a ∈ chars around text ↔ ∃ c ∈ text, a = { around, sign := .char c } := by
  simp [chars, eq_comm]

theorem isChar_of_mem_chars (ha : a ∈ chars around text) : a.isChar = true := by
  rcases mem_chars.1 ha with ⟨c, -, rfl⟩
  rfl

@[simp] theorem chars_append : chars around (text ++ text') = chars around text ++ chars around text' :=
  List.map_append

theorem chars_eq_nil_iff : chars around text = [] ↔ text = [] :=
  List.map_eq_nil_iff

theorem chars_injective (h : chars around text = chars around text') : text = text' := by
  refine List.map_injective_iff.2 ?_ h
  intro c c' hc
  cases hc
  rfl

end Atom

namespace Segments

/-- The characters and markers of segments in the order of the text, where the segments themselves
lie in the regions `around`. -/
def atoms (around : List Text) : Segments → List Atom
  | nil => []
  | plain text rest => Atom.chars around text ++ rest.atoms around
  | region fence body rest =>
    let inside := fence.id :: around
    { around := inside, sign := .opening fence } ::
      (body.atoms inside ++ { around := inside, sign := .closing fence } :: rest.atoms around)

section Atoms

variable {s t : Segments} {away : Text → Bool} {around : List Text} {a : Atom} {text : Text}
  {behind behind' : List Atom}

@[simp] theorem atoms_joinPlain :
    (s.joinPlain text).atoms around = Atom.chars around text ++ s.atoms around := by
  cases s <;> simp [joinPlain, atoms]

/-- What is in segments belongs to all regions around them. -/
theorem around_subset (ha : a ∈ s.atoms around) : around ⊆ a.around := by
  induction s generalizing around with
  | nil => cases ha
  | plain text rest ih =>
    rcases List.mem_append.1 ha with ha | ha
    · rcases Atom.mem_chars.1 ha with ⟨c, -, rfl⟩
      exact List.Subset.refl _
    · exact ih ha
  | region fence body rest ihb ihr =>
    simp only [atoms, List.mem_cons, List.mem_append] at ha
    rcases ha with rfl | ha | rfl | ha
    · exact List.subset_cons_self _ _
    · exact List.Subset.trans (List.subset_cons_self _ _) (ihb ha)
    · exact List.subset_cons_self _ _
    · exact ihr ha

/-- Leaving regions out leaves out what belongs to them, and nothing else. -/
theorem atoms_without (h : ∀ x ∈ around, away x = false) :
    (s.without away).atoms around =
      (s.atoms around).filter fun a => ∀ x ∈ a.around, away x = false := by
  induction s generalizing around with
  | nil => rfl
  | plain text rest ih =>
    have htext : ∀ a ∈ Atom.chars around text,
        decide (∀ x ∈ a.around, away x = false) = true := by
      intro a ha
      rcases Atom.mem_chars.1 ha with ⟨c, -, rfl⟩
      exact decide_eq_true h
    simp only [without, atoms_joinPlain, atoms, List.filter_append, ih h,
      List.filter_eq_self.2 htext]
  | region fence body rest ihb ihr =>
    simp only [without, atoms, List.filter_cons, List.filter_append]
    by_cases haway : away fence.id = true
    · -- the region goes with all that belongs to it
      have hgone : ∀ path : List Text, fence.id ∈ path →
          ¬ decide (∀ x ∈ path, away x = false) = true := by
        intro path hpath hall
        rw [of_decide_eq_true hall _ hpath] at haway
        cases haway
      have hself := hgone (fence.id :: around) List.mem_cons_self
      have hbody : (body.atoms (fence.id :: around)).filter
          (fun a => ∀ x ∈ a.around, away x = false) = [] := by
        rw [List.filter_eq_nil_iff]
        intro a ha
        exact hgone a.around (around_subset ha List.mem_cons_self)
      rw [if_pos haway, hbody, ihr h, if_neg hself, if_neg hself, List.nil_append]
    · have hinside : ∀ x ∈ fence.id :: around, away x = false := by
        intro x hx
        rcases List.mem_cons.1 hx with rfl | hx
        · exact Bool.eq_false_iff.2 haway
        · exact h x hx
      rw [if_neg haway, atoms, ihb hinside, ihr h, if_pos (decide_eq_true hinside),
        if_pos (decide_eq_true hinside)]

/-! ## Canonical segments from their characters and markers -/

/-- Whether a scope may end in front of these: nothing follows, or an end marker. -/
def EndsScope (behind : List Atom) : Prop :=
  ∀ a ∈ behind.head?, ∃ fence, a.sign = .closing fence

theorem endsScope_nil : EndsScope [] := by
  intro a ha
  cases ha

theorem endsScope_closing (fence : Fence) :
    EndsScope ({ around, sign := .closing fence } :: behind) := by
  intro a ha
  cases ha
  exact ⟨fence, rfl⟩

/-- As long as there are canonical segments left, the scope does not end. -/
theorem Canonical.not_endsScope (hs : s.Canonical) (hne : s ≠ nil) :
    ¬ EndsScope (s.atoms around ++ behind) := by
  intro h
  cases s with
  | nil => exact hne rfl
  | plain text rest =>
    rcases List.exists_cons_of_ne_nil hs.1 with ⟨c, text, rfl⟩
    rcases h _ rfl with ⟨fence, hsign⟩
    cases hsign
  | region fence body rest =>
    rcases h _ rfl with ⟨fence', hsign⟩
    cases hsign

/-- A plain text reaches up to the next marker. -/
theorem takeWhile_isChar (around : List Text) (text : Text) (hs : s.startsPlain = false)
    (hbehind : EndsScope behind) :
    ((plain text s).atoms around ++ behind).takeWhile Atom.isChar = Atom.chars around text := by
  have hstop : (s.atoms around ++ behind).takeWhile Atom.isChar = [] := by
    cases s with
    | nil =>
      cases behind with
      | nil => rfl
      | cons a behind =>
        rcases hbehind a rfl with ⟨fence, hsign⟩
        simp [atoms, Atom.isChar, hsign]
    | plain text rest => cases hs
    | region fence body rest => rfl
  rw [atoms, List.append_assoc,
    List.takeWhile_append_of_pos fun a ha => Atom.isChar_of_mem_chars ha, hstop, List.append_nil]

/-- Where a scope ends behind them, canonical segments are determined by their characters and
markers. -/
theorem Canonical.eq_of_atoms_append (hs : s.Canonical) (ht : t.Canonical)
    (hbehind : EndsScope behind) (hbehind' : EndsScope behind')
    (h : s.atoms around ++ behind = t.atoms around ++ behind') : s = t ∧ behind = behind' := by
  induction s generalizing t around behind behind' with
  | nil =>
    have h : behind = t.atoms around ++ behind' := h
    subst h
    have hnil : t = nil := by
      by_contra hne
      exact ht.not_endsScope hne hbehind
    subst hnil
    exact ⟨rfl, rfl⟩
  | plain text rest ih =>
    have hchars := takeWhile_isChar around text hs.2.1 hbehind
    rw [h] at hchars
    cases t with
    | nil =>
      have h : behind' = (plain text rest).atoms around ++ behind := h.symm
      subst h
      exact absurd hbehind' (hs.not_endsScope (by simp))
    | plain text' rest' =>
      rw [takeWhile_isChar around text' ht.2.1 hbehind'] at hchars
      obtain rfl := Atom.chars_injective hchars
      simp only [atoms, List.append_assoc] at h
      have hrest := List.append_cancel_left h
      obtain ⟨rfl, htail⟩ := ih hs.2.2 ht.2.2 hbehind hbehind' hrest
      exact ⟨rfl, htail⟩
    | region fence body rest' =>
      -- a marker comes first on the other side
      exact absurd (Atom.chars_eq_nil_iff.1 hchars.symm) hs.1
  | region fence body rest ihb ihr =>
    cases t with
    | nil =>
      have h : behind' = (region fence body rest).atoms around ++ behind := h.symm
      subst h
      exact absurd hbehind' (hs.not_endsScope (by simp))
    | plain text' rest' =>
      have hchars := takeWhile_isChar around text' ht.2.1 hbehind'
      rw [← h] at hchars
      exact absurd (Atom.chars_eq_nil_iff.1 hchars.symm) ht.1
    | region fence' body' rest' =>
      -- the same start marker, the same body up to the end marker, and the same behind it
      simp only [atoms, List.cons_append, List.append_assoc, List.cons.injEq, Atom.mk.injEq,
        Sign.opening.injEq] at h
      rcases h with ⟨⟨-, rfl⟩, h⟩
      obtain ⟨rfl, hafter⟩ :=
        ihb hs.1 ht.1 (endsScope_closing fence) (endsScope_closing fence) h
      obtain ⟨rfl, htail⟩ := ihr hs.2 ht.2 hbehind hbehind' (List.cons.inj hafter).2
      exact ⟨rfl, htail⟩

/-- Canonical segments are determined by their characters and markers. -/
theorem Canonical.eq_of_atoms (hs : s.Canonical) (ht : t.Canonical)
    (h : s.atoms around = t.atoms around) : s = t := by
  have happend : s.atoms around ++ [] = t.atoms around ++ [] := by rw [h]
  exact (hs.eq_of_atoms_append ht endsScope_nil endsScope_nil happend).1

end Atoms

/-! ## Kept regions -/

/-- The segments with the bodies of the regions emptied that have one of the ids. -/
def emptied (ids : List Text) : Segments → Segments
  | nil => nil
  | plain text rest => plain text (rest.emptied ids)
  | region fence body rest =>
    region fence (if ids.contains fence.id then nil else body.emptied ids) (rest.emptied ids)

section Kept

variable {s : Segments} {previous : Document} {keep : Region → Bool} {ids : List Text}
  {r old : Region}

theorem source?_of_mem_copies (h : (r, old) ∈ s.copies previous keep) :
    r.source? previous keep = some old := by
  induction s using copyInduction previous keep with
  | nil => cases h
  | plain text rest ih => exact ih h
  | copied fence body rest found hsource ih =>
    rw [copies_of_source hsource] at h
    rcases List.mem_cons.1 h with heq | h
    · cases heq
      exact hsource
    · exact ih h
  | searched fence body rest hsource ihb ihr =>
    rw [copies_of_no_source hsource] at h
    rcases List.mem_append.1 h with h | h
    · exact ihb h
    · exact ihr h

/-- A region with a source is kept, or it lies in one that is. -/
theorem exists_mem_copies_of_source (hr : r ∈ s.regions)
    (hsource : r.source? previous keep = some old) :
    ∃ copy ∈ s.copies previous keep, r = copy.1 ∨ r ∈ copy.1.body.regions := by
  induction s using copyInduction previous keep with
  | nil => cases hr
  | plain text rest ih => exact ih hr
  | copied fence body rest found hfound ih =>
    rw [copies_of_source hfound]
    simp only [regions, List.mem_cons, List.mem_append] at hr
    rcases hr with rfl | hr | hr
    · exact ⟨_, List.mem_cons_self, .inl rfl⟩
    · exact ⟨_, List.mem_cons_self, .inr hr⟩
    · rcases ih hr with ⟨copy, hcopy, h⟩
      exact ⟨copy, List.mem_cons_of_mem _ hcopy, h⟩
  | searched fence body rest hnone ihb ihr =>
    rw [copies_of_no_source hnone]
    simp only [regions, List.mem_cons, List.mem_append] at hr
    rcases hr with rfl | hr | hr
    · rw [hnone] at hsource
      cases hsource
    · rcases ihb hr with ⟨copy, hcopy, h⟩
      exact ⟨copy, List.mem_append_left _ hcopy, h⟩
    · rcases ihr hr with ⟨copy, hcopy, h⟩
      exact ⟨copy, List.mem_append_right _ hcopy, h⟩

/-- No kept region lies in a kept region. -/
theorem not_mem_body_of_mem_copies {a b : Region × Region} (hs : s.ids.Nodup)
    (ha : a ∈ s.copies previous keep) (hb : b ∈ s.copies previous keep) :
    b.1 ∉ a.1.body.regions := by
  induction s using copyInduction previous keep with
  | nil => cases ha
  | plain text rest ih => exact ih hs ha hb
  | copied fence body rest found hsource ih =>
    rcases nodup_ids_region.1 hs with ⟨hidb, hidr, -, hrest, hdisj⟩
    rw [copies_of_source hsource] at ha hb
    intro h
    rcases List.mem_cons.1 ha with rfl | ha <;> rcases List.mem_cons.1 hb with rfl | hb
    · exact hidb (id_mem_ids h)
    · exact hdisj (id_mem_ids h) (id_mem_ids (mem_of_mem_copies hb).1)
    · have hmem := regions_subset_of_mem_regions (mem_of_mem_copies ha).1 h
      exact hidr (id_mem_ids hmem)
    · exact ih hrest ha hb h
  | searched fence body rest hsource ihb ihr =>
    rcases nodup_ids_region.1 hs with ⟨-, -, hbody, hrest, hdisj⟩
    rw [copies_of_no_source hsource] at ha hb
    intro h
    rcases List.mem_append.1 ha with ha | ha <;> rcases List.mem_append.1 hb with hb | hb
    · exact ihb hbody ha hb h
    · have hmem := regions_subset_of_mem_regions (mem_of_mem_copies ha).1 h
      exact hdisj (id_mem_ids hmem) (id_mem_ids (mem_of_mem_copies hb).1)
    · have hmem := regions_subset_of_mem_regions (mem_of_mem_copies ha).1 h
      exact hdisj (id_mem_ids (mem_of_mem_copies hb).1) (id_mem_ids hmem)
    · exact ihr hrest ha hb h

/-- With the bodies of the kept regions emptied, nothing has changed. -/
theorem emptied_keepBodies {kept : List Text}
    (h : ∀ copy ∈ s.copies previous keep, copy.1.fence.id ∈ kept) :
    (s.keepBodies previous keep ids).emptied kept = s.emptied kept := by
  induction s using copyInduction previous keep with
  | nil => rfl
  | plain text rest ih => rw [keepBodies, emptied, emptied, ih h]
  | copied fence body rest found hsource ih =>
    rw [copies_of_source hsource, List.forall_mem_cons] at h
    have hkept : kept.contains fence.id = true := List.contains_iff_mem.2 h.1
    rw [keepBodies_of_source hsource, emptied, emptied, if_pos hkept, if_pos hkept, ih h.2]
  | searched fence body rest hsource ihb ihr =>
    rw [copies_of_no_source hsource, List.forall_mem_append] at h
    rw [keepBodies_of_no_source hsource, emptied, emptied, ihb h.1, ihr h.2]

/-- A copied body has all that its source has, in its order, except for what belongs to a region that
the current document places outside of the region it is copied to. -/
theorem atoms_without_isElsewhere (body : Segments) (r : Region) (ids : List Text) :
    (body.without (r.isElsewhere ids)).atoms [] =
      (body.atoms []).filter fun a => ∀ x ∈ a.around, x ∈ ids → x ∈ r.ids := by
  rw [atoms_without (by simp)]
  refine List.filter_congr fun a _ => ?_
  simp [Region.isElsewhere]

end Kept

end Segments

namespace Document

/-- The regions of the current document whose bodies are taken from the previous one. -/
def kept (current previous : Document) (keep : Region → Bool) : List Region :=
  (current.segments.copies previous keep).map Prod.fst

variable {current previous : Document} {keep : Region → Bool} {r : Region}

theorem exists_mem_copies_of_mem_kept (hr : r ∈ current.kept previous keep) :
    ∃ old, (r, old) ∈ current.segments.copies previous keep := by
  rcases List.mem_map.1 hr with ⟨⟨r, old⟩, hcopy, rfl⟩
  exact ⟨old, hcopy⟩

/-- A region is kept if the policy says so and the previous document has it, unless it lies in a kept
one. -/
theorem mem_kept_iff :
    r ∈ current.kept previous keep ↔
      r ∈ current.regions ∧ keep r = true ∧ r.fence.id ∈ previous.ids ∧
        ∀ a ∈ current.kept previous keep, r ∉ a.body.regions := by
  constructor
  · intro hr
    rcases exists_mem_copies_of_mem_kept hr with ⟨old, hcopy⟩
    have hsource := Segments.source?_of_mem_copies hcopy
    rcases Region.mem_of_source? hsource with ⟨hold, hid⟩
    refine ⟨(Segments.mem_of_mem_copies hcopy).1, (Region.source?_eq_some_iff.1 hsource).1, ?_, ?_⟩
    · rw [← hid]
      exact Segments.id_mem_ids hold
    · intro a ha
      rcases exists_mem_copies_of_mem_kept ha with ⟨old', hcopy'⟩
      exact Segments.not_mem_body_of_mem_copies current.nodup hcopy' hcopy
  · rintro ⟨hr, hkeep, hid, houter⟩
    rcases Segments.exists_find?_of_mem_ids previous.nodup hid with ⟨old, hold⟩
    have hsource := Region.source?_eq_some_iff.2 ⟨hkeep, hold⟩
    rcases Segments.exists_mem_copies_of_source hr hsource with ⟨copy, hcopy, rfl | hin⟩
    · exact List.mem_map_of_mem hcopy
    · exact absurd hin (houter copy.1 (List.mem_map_of_mem hcopy))

/-- Reconciling keeps the layout of the current document. Call a region kept if the policy keeps it,
the previous document has its id, and it lies in no kept region. With the bodies of the kept regions
emptied, the result and the current document are the same. A kept region of the result has the body
of the previous region with its id: every character and every marker in the same regions and in the
same order, except for what belongs to a region that the current document places outside of the kept
one. Plain texts that come to stand next to each other are joined. -/
theorem reconcile_keeps_layout (current previous : Document) (keep : Region → Bool) :
    (∀ r, r ∈ current.kept previous keep ↔
      r ∈ current.regions ∧ keep r = true ∧ r.fence.id ∈ previous.ids ∧
        ∀ a ∈ current.kept previous keep, r ∉ a.body.regions) ∧
    ∃ result, current.reconcile previous keep = .ok result ∧
      result.segments.emptied ((current.kept previous keep).map Region.id) =
        current.segments.emptied ((current.kept previous keep).map Region.id) ∧
      ∀ r ∈ current.kept previous keep, ∃ old ∈ previous.regions, ∃ new ∈ result.regions,
        old.fence.id = r.fence.id ∧ new.fence = r.fence ∧
          new.body.atoms [] =
            (old.body.atoms []).filter (fun a => ∀ x ∈ a.around, x ∈ current.ids → x ∈ r.ids) ∧
          new.body.Spaced := by
  refine ⟨fun r => mem_kept_iff, current.reconciled previous keep, of?_eq_ok _, ?_, ?_⟩
  · refine Segments.emptied_keepBodies ?_
    intro copy hcopy
    exact List.mem_map_of_mem (List.mem_map_of_mem hcopy)
  · intro r hr
    rcases exists_mem_copies_of_mem_kept hr with ⟨old, hcopy⟩
    rcases (Segments.mem_of_mem_copies hcopy).2 with ⟨hold, hid⟩
    refine ⟨old, hold, _, Segments.withBody_mem_keepBodies hcopy, hid, rfl, ?_, ?_⟩
    · exact Segments.atoms_without_isElsewhere old.body r current.ids
    · exact Segments.spaced_without old.body

/-- Two regions are moved out of the region `a`: one next to it, one into the region `o` that is not
kept. The texts around the first one are joined. -/
theorem reconcile_keeps_layout_moved_regions :
    let region := fun id enabled => Segments.region (.block id enabled)
    ∃ current previous result : Document, current.merge previous = .ok result ∧
      (current.kept previous Region.enabled).map Region.id =
        ["a".toList, "b".toList, "z".toList] ∧
      result.segments.emptied ["a".toList, "b".toList, "z".toList] =
        .plain ['h'] (region "a" true .nil (region "o" false (region "b" true .nil .nil)
          (region "z" true .nil .nil))) ∧
      ∃ new ∈ result.regions, new.fence = .block "a" true ∧
        new.body = .plain ['x', 'y'] (region "m" true (.plain ['w'] .nil) .nil) := by
  intro region
  let inside := Segments.plain ['x'] (region "z" true (.plain ['u'] .nil)
    (.plain ['y'] (region "m" true (region "b" true .nil (.plain ['w'] .nil)) .nil)))
  let current : Document :=
    { segments :=
        .plain ['h'] (region "a" true (.plain ['n'] .nil)
          (region "o" false (region "b" true (.plain ['n'] .nil) .nil) (region "z" true .nil .nil)))
      nodup := by decide }
  let previous : Document := { segments := region "a" true inside .nil, nodup := by decide }
  obtain ⟨-, result, hresult, hemptied, hbodies⟩ :=
    reconcile_keeps_layout current previous Region.enabled
  have hids : (current.kept previous Region.enabled).map Region.id =
      ["a".toList, "b".toList, "z".toList] := by decide
  rw [hids] at hemptied
  obtain ⟨old, hold, new, hnew, hid, hfence, hatoms, -⟩ :=
    hbodies { fence := .block "a" true, body := .plain ['n'] .nil } (by decide)
  refine ⟨current, previous, result, hresult, hids, hemptied, new, hnew, hfence, ?_⟩
  -- the source is the only region of the previous document with the id
  have hfind := Segments.find?_of_mem_regions previous.nodup hold
  rw [hid] at hfind
  cases hfind
  obtain rfl : current.reconciled previous Region.enabled = result :=
    Except.ok.inj ((of?_eq_ok _).symm.trans hresult)
  have hcanonical : (current.reconciled previous Region.enabled).segments.Canonical := by
    refine Segments.Canonical.keepBodies ?_ ?_
    · simp [current, region, Segments.Canonical, Segments.startsPlain]
    · simp [previous, inside, region, Segments.Canonical, Segments.startsPlain]
  let expected := Segments.plain ['x', 'y'] (region "m" true (.plain ['w'] .nil) .nil)
  have hexpected : expected.Canonical := by
    simp [expected, region, Segments.Canonical, Segments.startsPlain]
  have hsame : new.body.atoms [] = expected.atoms [] := hatoms.trans (by decide)
  exact (hcanonical.body hnew).eq_of_atoms hexpected hsame

end Document

end KeptRegions
