import KeptRegions.Proofs.Files.Paths

namespace KeptRegions

/-!
# What a write leaves

A write that goes well leaves a file with all its bytes. One that fails may come too early to change
a file, but when a file is open and not all bytes are stored, what it held is lost and the first of the
bytes are there instead (`written_error_cases`). No other file is changed in either case.
-/

namespace FileTree

variable {t t' t₁ : FileTree} {l : Location} {path : String} {bytes : ByteArray} {text : Text}

/-- Whether the file at a path, be it new or not, holds some bytes, the other files being as before. -/
structure Holds (t t' : FileTree) (path : String) (l : Location) (bytes : ByteArray) : Prop where
  place : t'.locate path = .ok l
  file : t'.entry? l = some (.file bytes)
  others : ∀ m, m ≠ l → ∀ b, t.entry? m = some (.file b) ↔ t'.entry? m = some (.file b)

/-- Whether a text has come to be what the file at a path holds, and the other files are as before. -/
def Arrived (t t' : FileTree) (path : String) (text : Text) : Prop :=
  ∃ l, t.Holds t' path l (Utf8.encode text)

/-- Whether the file at a path was opened, directories having been made at most, and not all of a text
was stored in it, so that it holds the part that was. The other files are as before. -/
def CutShort (t t' : FileTree) (path : String) (text : Text) : Prop :=
  ∃ t₁ t₂ l count cause, t.Grown t₁ ∧ t₁.openToWrite path = .ok (l, t₂) ∧
    t₂.store l (Utf8.encode text) = (t', some cause) ∧
      t.Holds t' path l ((Utf8.encode text).extract 0 count)

theorem SameFiles.holds (h : t.SameFiles t₁) (h' : t₁.Holds t' path l bytes) :
    t.Holds t' path l bytes :=
  ⟨h'.place, h'.file, fun m hm b => (h m b).trans (h'.others m hm b)⟩

theorem Grown.arrived (h : t.Grown t₁) (h' : t₁.Arrived t' path text) : t.Arrived t' path text :=
  h'.imp fun _ hholds => h.sameFiles.holds hholds

theorem Grown.cutShort (h : t.Grown t₁) (h' : t₁.CutShort t' path text) :
    t.CutShort t' path text := by
  obtain ⟨t₂, t₃, l, count, cause, hgrown, hopen, hstore, hholds⟩ := h'
  exact ⟨t₂, t₃, l, count, cause, h.trans hgrown, hopen, hstore, h.sameFiles.holds hholds⟩

/-- Nothing is cut short where the system stores all that it is given. -/
theorem StoresAll.not_cutShort (h : t.StoresAll) : ¬ t.CutShort t' path text := by
  rintro ⟨t₁, t₂, l, count, cause, hgrown, hopen, hstore, -⟩
  obtain ⟨-, -, -, rfl⟩ := openToWrite_eq_ok.1 hopen
  have hnone : t₁.refusals.store (t₁.put l (.file .empty)).entries l (Utf8.encode text) = none := by
    rw [hgrown.refusals]
    exact h _ _ _
  unfold store at hstore
  rw [show (t₁.put l (.file .empty)).refusals = t₁.refusals from rfl, hnone] at hstore
  cases hstore

/-- A file that was opened for writing is the one at the path, whatever it then holds. -/
theorem holds_of_openToWrite (hopen : t.openToWrite path = .ok (l, t₁)) (bytes : ByteArray) :
    t.Holds (t.put l (.file bytes)) path l bytes := by
  have hfile := not_isDirectory_of_openToWrite hopen
  have hl := (openToWrite_eq_ok.1 hopen).2.1
  refine ⟨(sameDirectories_put hfile bytes).locate hl, ?_, fun m hm b => ?_⟩
  · rw [entry?_put, if_pos]
    refine ⟨?_, rfl⟩
    -- the root is a directory
    rintro rfl
    cases hfile
  · rw [entry?_put, if_neg fun h => hm h.2]

theorem arrived_of_written (h : t.written path text = (.ok (), t')) : t.Arrived t' path text := by
  rcases written_cases h with ⟨-, hfail, -⟩ | ⟨-, fault, hwrites, hresult⟩
  · cases hfail
  · cases hwrites with
    | closed | cut => cases hresult
    | whole hopen => exact ⟨_, holds_of_openToWrite hopen _⟩

/-- A failed write leaves all files as they were, or the file at the path with a part of the text. -/
theorem written_error_cases {e : Failure} (h : t.written path text = (.error e, t')) :
    t.SameFiles t' ∨ t.CutShort t' path text ∧ ∃ fault, e = .file fault := by
  rcases written_cases h with ⟨-, -, rfl⟩ | ⟨-, fault, hwrites, hresult⟩
  · exact .inl (.refl _)
  · cases hwrites with
    | closed => exact .inl (.refl _)
    | @cut l count cause hopen hstore =>
      exact .inr ⟨⟨t, _, l, count, cause, .refl, hopen, store_of_refused hstore,
        holds_of_openToWrite hopen _⟩, _, Except.error.inj hresult⟩
    | whole => cases hresult

/-- To write the text that a file holds changes nothing. -/
theorem entry?_of_rewritten (hread : t.textAt path = .ok text)
    (h : t.written path text = (.ok (), t')) (m : Location) : t'.entry? m = t.entry? m := by
  obtain ⟨l, bytes, hnull, hl, hfile, hdecode⟩ := exists_file_of_textAt hread
  rcases written_cases h with ⟨hnull', -⟩ | ⟨-, fault, hwrites, hresult⟩
  · rw [hnull] at hnull'
    cases hnull'
  · cases hwrites with
    | closed | cut => cases hresult
    | whole hopen =>
      obtain ⟨-, hl', -⟩ := openToWrite_eq_ok.1 hopen
      cases hl.symm.trans hl'
      rw [Utf8.encode_of_decode hdecode]
      exact entry?_put_self hfile m

/-- To write to the path of a file or to its normal form comes to the same, up to the path that a fault
tells. -/
theorem written_ofString_cases {existing : Text} (h : t.textAt path = .ok existing) (text : Text) :
    ∃ t', (t.written path text = (.ok (), t') ∧
        t.written (Path.ofString path).toString text = (.ok (), t')) ∨
      ∃ fault fault', t.written path text = (.error (.file fault), t') ∧
        t.written (Path.ofString path).toString text = (.error (.file fault'), t') := by
  have h' := textAt_ofString h
  obtain ⟨l, bytes, hnull, hl, -⟩ := exists_file_of_textAt h
  obtain ⟨hnull', -⟩ := textAt_eq_ok.1 h'
  obtain ⟨htree, hcause⟩ := write_congr (endsWith_slash_of_textAt h) (endsWith_slash_of_textAt h') hl
    (locate_ofString hl) (Utf8.encode text)
  simp only [written, changed, hnull, hnull', Bool.false_eq_true, if_false, ← htree]
  refine ⟨(t.write path (Utf8.encode text)).1, ?_⟩
  -- both faults have the same cause, so there is one if there is the other
  cases hfault : (t.write path (Utf8.encode text)).2 with
  | none =>
    rw [hfault, Option.map_none, eq_comm, Option.map_eq_none_iff] at hcause
    rw [hcause]
    exact .inl ⟨rfl, rfl⟩
  | some fault =>
    rw [hfault, Option.map_some, eq_comm, Option.map_eq_some_iff] at hcause
    obtain ⟨fault', hfault', -⟩ := hcause
    rw [hfault']
    exact .inr ⟨fault, fault', rfl, rfl⟩

/-! ## Bringing a file up to date -/

/-- The text that is written to bring the file at a path up to date, if one is. -/
def renewal? (t : FileTree) (reader : RegionReader) (mode path : String) (generated : Text) :
    Option Text :=
  match t.seenAt path with
  | .error _ => none
  | .ok false => some generated
  | .ok true => do
    let existing ← (t.textAt path).toOption
    let renewed ← (reader.renewed mode generated existing).toOption
    if renewed = existing then none else some renewed

end FileTree

section Syncs

variable {reader : RegionReader} {mode : String} {dryRun : Bool} {path : Path} {generated : Text}
  {t t' : FileTree}

/-- A failure to bring a file up to date leaves all files as they were, or that file with a part of the
text that was to be written. -/
theorem Syncs.error_leaves {e : Failure}
    (h : Syncs reader mode dryRun path generated t (.error e) t') :
    t.SameFiles t' ∨ (∃ fault, e = .file fault) ∧ ∃ text, dryRun = false ∧
      t.renewal? reader mode path.toString generated = some text ∧
        t.CutShort t' path.toString text := by
  cases h with
  | unseen | unreadable | refused => exact .inl (.refl t)
  | unwritten hthere hread hrenew hne hreal hwrite =>
    refine (FileTree.written_error_cases hwrite).imp_right fun ⟨hcut, hfault⟩ =>
      ⟨hfault, _, hreal, ?_, hcut⟩
    simp [FileTree.renewal?, hthere, hread, hrenew, hne, Except.toOption]
  | noDirectory _ _ hdirs => exact .inl (FileTree.grown_withDirectories hdirs).sameFiles
  | uncreated hnew hreal hdirs hwrite =>
    have hgrown := FileTree.grown_withDirectories hdirs
    rcases FileTree.written_error_cases hwrite with hsame | ⟨hcut, hfault⟩
    · exact .inl (hgrown.sameFiles.trans hsame)
    · exact .inr ⟨hfault, generated, hreal, by simp [FileTree.renewal?, hnew], hgrown.cutShort hcut⟩

/-- A file that was brought up to date holds the text that was to be written. If there was none, nothing
has changed. -/
theorem Syncs.ok_leaves {action : Action}
    (h : Syncs reader mode dryRun path generated t (.ok action) t') :
    ((dryRun = true ∨ t.renewal? reader mode path.toString generated = none) ∧ t' = t) ∨
      ∃ text, dryRun = false ∧ t.renewal? reader mode path.toString generated = some text ∧
        t.Arrived t' path.toString text := by
  cases h with
  | unchanged hthere hread hrenew =>
    refine .inl ⟨.inr ?_, rfl⟩
    simp [FileTree.renewal?, hthere, hread, hrenew, Except.toOption]
  | foreseen _ _ _ _ hdry | foreseenNew _ hdry => exact .inl ⟨.inl hdry, rfl⟩
  | updated hthere hread hrenew hne hreal hwrite =>
    refine .inr ⟨_, hreal, ?_, FileTree.arrived_of_written hwrite⟩
    simp [FileTree.renewal?, hthere, hread, hrenew, hne, Except.toOption]
  | created hnew hreal hdirs hwrite =>
    exact .inr ⟨generated, hreal, by simp [FileTree.renewal?, hnew],
      (FileTree.grown_withDirectories hdirs).arrived (FileTree.arrived_of_written hwrite)⟩

end Syncs

end KeptRegions
