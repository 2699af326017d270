import KeptRegions.Proofs.Files.Writing
import KeptRegions.Proofs.Session.Batch

namespace KeptRegions

/-!
# Dry runs

A real run changes files that later targets of the batch are not, so what becomes of a target is
decided by what was there before the batch. A dry run looks at that, but does not try to write. It
foresees how the real run ends, up to files that the system refuses to open for writing or to store
(`dryRun_foresees`).
-/

namespace FileTree

/-- Whether a target is a path that a file can have, in a directory that is there. -/
structure HasPlaceFor (t : FileTree) (target : String) : Prop where
  noNull : hasNull target = false
  directory : t.hasDirectory (Path.ofString target).parent.toString = .ok true

/-- Whether the file at a path is all that is different in another tree. -/
structure TouchesOnly (t t' : FileTree) (path : String) : Prop where
  directories : t.SameDirectories t'
  others : ∀ m, t.locate path ≠ .ok m → t'.entry? m = t.entry? m

/-- Whether the system refuses, for this cause, that a text be written to the file at a path, which may
be new. -/
inductive Refuses (t : FileTree) (path : String) (text : Text) (cause : FileFault.Cause) : Prop where
  /-- The path cannot be followed. -/
  | astray (h : t.locate path = .error cause)
  /-- The file that is there cannot be opened. -/
  | unopened {l : Location} {bytes : ByteArray} (hl : t.locate path = .ok l)
      (hfile : t.entry? l = some (.file bytes)) (h : t.refusals.write l = some cause)
  /-- No file can be made there. -/
  | unmade {l : Location} {entries : List (Location × Entry)} (hl : t.locate path = .ok l)
      (hnone : t.entry? l = none) (h : t.refusals.make entries l = some cause)
  /-- The file cannot take all of the text. -/
  | unstored {l : Location} {entries : List (Location × Entry)} {count : Nat}
      (hl : t.locate path = .ok l)
      (h : t.refusals.store entries l (Utf8.encode text) = some (count, cause))

/-- Whether the text that brings a target up to date, if one does, can be written to it. -/
def Takes (t : FileTree) (reader : RegionReader) (mode : String) (pair : String × Text) : Prop :=
  let path := (Path.ofString pair.1).toString
  ∀ text cause, t.renewal? reader mode path pair.2 = some text → ¬ t.Refuses path text cause

/-- Whether what a dry run foresees for a target comes true: the same becomes of it, or it is one to be
made or changed, and the system refuses the text. -/
def Foresees (t : FileTree) (reader : RegionReader) (mode : String) (pair : String × Text)
    (r r' : Except Failure Action) : Prop :=
  let path := (Path.ofString pair.1).toString
  r' = r ∨ (r = .ok .created ∨ r = .ok .updated) ∧
    ∃ text fault, t.renewal? reader mode path pair.2 = some text ∧ r' = .error (.file fault) ∧
      t.Refuses path text fault.cause

/-- Whether what a dry run foresees for targets comes true. -/
inductive ForeseesAll (t : FileTree) (reader : RegionReader) (mode : String) :
    List (String × Text) → List (String × Except Failure Action) →
      List (String × Except Failure Action) → Prop where
  | nil : ForeseesAll t reader mode [] [] []
  | cons {pair : String × Text} {pairs : List (String × Text)} {r r' : Except Failure Action}
      {outcomes outcomes' : List (String × Except Failure Action)}
      (h : t.Foresees reader mode pair r r')
      (hrest : ForeseesAll t reader mode pairs outcomes outcomes') :
      ForeseesAll t reader mode (pair :: pairs) ((pair.1, r) :: outcomes)
        ((pair.1, r') :: outcomes')

end FileTree

/-- Whether a batch from a tree ends at a file with a failure, those before it being done. -/
def StopsAt (reader : RegionReader) (mode : String) (dryRun : Bool) (t : FileTree)
    (before : List (String × Text)) (pair : String × Text) (failure : Failure) : Prop :=
  ∃ outcomes t₁ t', SyncsAll reader mode dryRun t before outcomes t₁ ∧ GoesOn outcomes ∧
    Syncs reader mode dryRun (Path.ofString pair.1) pair.2 t₁ (.error failure) t' ∧
      failure.isPassedOver = false

section DryRun

variable {reader : RegionReader} {mode target path : String} {generated : Text}
  {t t' t₁ : FileTree} {r : Except Failure Action}
  {pairs before after : List (String × Text)}
  {outcomes outcomes' : List (String × Except Failure Action)}

/-! ## One file -/

theorem Syncs.eq_of_dry {path : Path} (h : Syncs reader mode true path generated t r t') :
    t' = t := by
  cases h with
  | unseen | unreadable | refused | unchanged | foreseen | foreseenNew => rfl
  | unwritten _ _ _ _ hreal | updated _ _ _ _ hreal
  | noDirectory _ hreal | uncreated _ hreal | created _ hreal => cases hreal

namespace FileTree

theorem HasPlaceFor.hasNull_eq_false (h : t.HasPlaceFor target) :
    hasNull (Path.ofString target).toString = false :=
  Path.hasNull_eq_false h.noNull rfl fun _ hname => hname

/-- Where no directory is, a file that cannot be opened for writing is one that the system refuses. -/
theorem refuses_of_openToWrite {cause : FileFault.Cause} (text : Text)
    (hslash : path.endsWith "/" = false)
    (hfile : ∀ l, t.locate path = .ok l → t.isDirectory l = false)
    (h : t.openToWrite path = .error cause) : t.Refuses path text cause := by
  unfold openToWrite at h
  rw [if_neg (by simp [hslash])] at h
  cases hl : t.locate path with
  | error cause =>
    rw [hl] at h
    cases h
    exact .astray hl
  | ok l =>
    have hdir := hfile l hl
    rw [hl] at h
    simp only [bind, Except.bind] at h
    cases hrefusal : t.writeRefusal? l with
    | none =>
      rw [hrefusal] at h
      cases h
    | some cause =>
      rw [hrefusal] at h
      cases h
      unfold writeRefusal? at hrefusal
      split at hrefusal
      · rename_i hentry
        rw [entry?_eq_directory.1 hentry] at hdir
        cases hdir
      · rename_i hentry
        exact .unopened hl hentry hrefusal
      · rename_i hentry
        exact .unmade hl hentry hrefusal

theorem TouchesOnly.refl (t : FileTree) (path : String) : t.TouchesOnly t path :=
  ⟨.refl t, fun _ _ => rfl⟩

theorem touchesOnly_of_openToWrite {l : Location} (hopen : t.openToWrite path = .ok (l, t₁))
    (bytes : ByteArray) : t.TouchesOnly (t.put l (.file bytes)) path := by
  refine ⟨sameDirectories_put (not_isDirectory_of_openToWrite hopen) bytes, fun m hm => ?_⟩
  rw [entry?_put, if_neg]
  rintro ⟨-, rfl⟩
  exact hm (openToWrite_eq_ok.1 hopen).2.1

/-- What writing a text does where no directory is: nothing else is touched, and if it fails the system
has refused it. -/
theorem effects_of_written {text : Text} {res : Except Failure Unit} (hnull : hasNull path = false)
    (hslash : path.endsWith "/" = false)
    (hfile : ∀ l, t.locate path = .ok l → t.isDirectory l = false)
    (h : t.written path text = (res, t')) :
    t.TouchesOnly t' path ∧
      ∀ e, res = .error e → ∃ fault, e = .file fault ∧ t.Refuses path text fault.cause := by
  rcases written_cases h with ⟨hnull', -⟩ | ⟨-, fault, hwrites, rfl⟩
  · rw [hnull] at hnull'
    cases hnull'
  · cases hwrites with
    | closed hopen =>
      exact ⟨.refl t path, fun e he =>
        ⟨_, (Except.error.inj he).symm, refuses_of_openToWrite text hslash hfile hopen⟩⟩
    | cut hopen hstore =>
      exact ⟨touchesOnly_of_openToWrite hopen _, fun e he =>
        ⟨_, (Except.error.inj he).symm, .unstored (openToWrite_eq_ok.1 hopen).2.1 hstore⟩⟩
    | whole hopen _ =>
      refine ⟨touchesOnly_of_openToWrite hopen _, fun e he => ?_⟩
      cases he

theorem Refuses.of_same {text : Text} {cause : FileFault.Cause} (h : t'.Refuses path text cause)
    (hrefusals : t'.refusals = t.refusals) (hlocate : t'.locate path = t.locate path)
    (hentry : ∀ l, t.locate path = .ok l → t'.entry? l = t.entry? l) : t.Refuses path text cause := by
  cases h with
  | astray h => exact .astray (hlocate ▸ h)
  | unopened hl hfile h =>
    rw [hlocate] at hl
    exact .unopened hl (hentry _ hl ▸ hfile) (hrefusals ▸ h)
  | unmade hl hnone h =>
    rw [hlocate] at hl
    exact .unmade hl (hentry _ hl ▸ hnone) (hrefusals ▸ h)
  | unstored hl h => exact .unstored (hlocate ▸ hl) (hrefusals ▸ h)

/-- A path that leads to no directory, below one that is there, does not end with a slash. -/
theorem endsWith_slash_of_place {p : Path} (hp : p.Normal)
    (hparent : t.hasDirectory p.parent.toString = .ok true)
    (hfile : ∀ l, t.locate p.toString = .ok l → t.isDirectory l = false) :
    p.toString.endsWith "/" = false := by
  rw [Bool.eq_false_iff]
  intro hslash
  obtain ⟨-, l, hl, hdir⟩ := hasDirectory_eq_true.1 hparent
  rw [Path.parent_eq_self (hp.names_eq_nil hslash)] at hl
  rw [hfile l hl] at hdir
  cases hdir

/-- What writing a text to a target does in a tree with the same directories and the same entry in its
place. If it fails, the system refuses it in the one tree as in the other. -/
theorem HasPlaceFor.effects_of_written {text : Text} {res : Except Failure Unit}
    {t'' : FileTree} (hplace : t.HasPlaceFor target) (hdirs : t.SameDirectories t')
    (hentry : ∀ l, t.locate (Path.ofString target).toString = .ok l → t'.entry? l = t.entry? l)
    (hfile : ∀ l, t'.locate (Path.ofString target).toString = .ok l → t'.isDirectory l = false)
    (h : t'.written (Path.ofString target).toString text = (res, t'')) :
    t'.TouchesOnly t'' (Path.ofString target).toString ∧
      ∀ e, res = .error e → ∃ fault, e = .file fault ∧
        t.Refuses (Path.ofString target).toString text fault.cause := by
  have hp := Path.normal_ofString target
  have hslash := endsWith_slash_of_place hp (hdirs.hasDirectory hplace.directory) hfile
  obtain ⟨hothers, hfault⟩ := FileTree.effects_of_written hplace.hasNull_eq_false hslash hfile h
  refine ⟨hothers, fun e he => ?_⟩
  obtain ⟨fault, hfault, hrefuses⟩ := hfault e he
  exact ⟨fault, hfault,
    hrefuses.of_same hdirs.refusals (hdirs.locate_eq hp hplace.directory) hentry⟩

end FileTree

/-- What a dry run foresees for a file comes true in every tree with the same directories and the same
entry in its place, or the system refuses it. Nothing else is touched then. -/
theorem Syncs.real_of_dry (h : Syncs reader mode true (Path.ofString target) generated t r t₁)
    (hplace : t.HasPlaceFor target) (hdirs : t.SameDirectories t')
    (hentry : ∀ l, t.locate (Path.ofString target).toString = .ok l → t'.entry? l = t.entry? l) :
    ∃ r' t'', Syncs reader mode false (Path.ofString target) generated t' r' t'' ∧
      t.Foresees reader mode (target, generated) r r' ∧
        t'.TouchesOnly t'' (Path.ofString target).toString := by
  have hlocate := hdirs.locate_eq (Path.normal_ofString target) hplace.directory
  have hseen' := FileTree.seenAt_congr hlocate hentry
  have htext' := FileTree.textAt_congr hdirs.refusals hlocate hentry
  have hstays := FileTree.TouchesOnly.refl t' (Path.ofString target).toString
  cases h with
  | unseen hseen => exact ⟨_, t', .unseen (hseen'.trans hseen), .inl rfl, hstays⟩
  | unreadable hthere hread =>
    exact ⟨_, t', .unreadable (hseen'.trans hthere) (htext'.trans hread), .inl rfl, hstays⟩
  | refused hthere hread hrenew =>
    exact ⟨_, t', .refused (hseen'.trans hthere) (htext'.trans hread) hrenew, .inl rfl, hstays⟩
  | unchanged hthere hread hrenew =>
    exact ⟨_, t', .unchanged (hseen'.trans hthere) (htext'.trans hread) hrenew, .inl rfl, hstays⟩
  | @foreseen existing renewed hthere hread hrenew hne _ =>
    have hrenewal :
        t.renewal? reader mode (Path.ofString target).toString generated = some renewed := by
      simp [FileTree.renewal?, hthere, hread, hrenew, hne, Except.toOption]
    rw [← hseen'] at hthere
    rw [← htext'] at hread
    obtain ⟨l, bytes, -, hl, hfile, -⟩ := FileTree.exists_file_of_textAt hread
    rcases hwrite : t'.written (Path.ofString target).toString renewed with ⟨res, t''⟩
    obtain ⟨hothers, hfault⟩ := hplace.effects_of_written hdirs hentry (fun m hm => by
      cases hl.symm.trans hm
      exact FileTree.not_isDirectory_of_file hfile) hwrite
    rcases res with e | ⟨⟨⟩⟩
    · obtain ⟨fault, rfl, hrefuses⟩ := hfault e rfl
      exact ⟨_, t'', .unwritten hthere hread hrenew hne rfl hwrite,
        .inr ⟨.inr rfl, renewed, fault, hrenewal, rfl, hrefuses⟩, hothers⟩
    · exact ⟨_, t'', .updated hthere hread hrenew hne rfl hwrite, .inl rfl, hothers⟩
  | foreseenNew hnew _ =>
    have hrenewal :
        t.renewal? reader mode (Path.ofString target).toString generated = some generated := by
      simp [FileTree.renewal?, hnew]
    rw [← hseen'] at hnew
    have hmade := FileTree.withDirectories_of_hasDirectory (hdirs.hasDirectory hplace.directory)
    rcases hwrite : t'.written (Path.ofString target).toString generated with ⟨res, t''⟩
    obtain ⟨hothers, hfault⟩ := hplace.effects_of_written hdirs hentry (fun m hm => by
      rw [FileTree.seenAt_of_locate hplace.hasNull_eq_false hm] at hnew
      have hnone : t'.entry? m = none := by simpa using hnew
      simp [FileTree.isDirectory, hnone]) hwrite
    rcases res with e | ⟨⟨⟩⟩
    · obtain ⟨fault, rfl, hrefuses⟩ := hfault e rfl
      exact ⟨_, t'', .uncreated hnew rfl hmade hwrite,
        .inr ⟨.inl rfl, generated, fault, hrenewal, rfl, hrefuses⟩, hothers⟩
    · exact ⟨_, t'', .created hnew rfl hmade hwrite, .inl rfl, hothers⟩
  | unwritten _ _ _ _ hreal | updated _ _ _ _ hreal
  | noDirectory _ hreal | uncreated _ hreal | created _ hreal => cases hreal

/-! ## Batches -/

/-- Whether a tree is as good as another for targets yet to come: it has the same directories, and the
same entries in the places of the targets. The targets have places, each its own. -/
structure Awaits (t t' : FileTree) (pairs : List (String × Text)) : Prop where
  places : ∀ pair ∈ pairs, t.HasPlaceFor pair.1
  apart : pairs.Pairwise fun a b => ∀ l, t.locate (Path.ofString a.1).toString = .ok l →
    t.locate (Path.ofString b.1).toString ≠ .ok l
  directories : t.SameDirectories t'
  entries : ∀ pair ∈ pairs, ∀ l, t.locate (Path.ofString pair.1).toString = .ok l →
    t'.entry? l = t.entry? l

theorem SyncsAll.eq_of_dry (h : SyncsAll reader mode true t pairs outcomes t') : t' = t := by
  induction h with
  | nil => rfl
  | cons h _ ih => exact ih.trans h.eq_of_dry

theorem Awaits.step {pair : String × Text} (h : Awaits t t' (pair :: pairs))
    (hsyncs : Syncs reader mode true (Path.ofString pair.1) pair.2 t r t₁) :
    ∃ r' t'', Syncs reader mode false (Path.ofString pair.1) pair.2 t' r' t'' ∧
      t.Foresees reader mode pair r r' ∧ Awaits t t'' pairs := by
  have hplace := h.places pair List.mem_cons_self
  obtain ⟨r', t'', hreal, hforesees, hdirs, hrest⟩ :=
    hsyncs.real_of_dry hplace h.directories (h.entries pair List.mem_cons_self)
  rw [h.directories.locate_eq (Path.normal_ofString pair.1) hplace.directory] at hrest
  obtain ⟨hfirst, hapart⟩ := List.pairwise_cons.1 h.apart
  refine ⟨r', t'', hreal, hforesees,
    fun other hother => h.places other (List.mem_cons_of_mem _ hother), hapart, h.directories.trans hdirs, fun other hother m hm => ?_⟩
  -- the other target has a place of its own, which this step did not touch
  rw [hrest m fun hm' => hfirst other hother m hm' hm]
  exact h.entries other (List.mem_cons_of_mem _ hother) m hm

/-- What a dry run foresees for the first files of a batch comes true, and the others are awaited as
before. -/
theorem Awaits.run (hawaits : Awaits t t' (before ++ after))
    (h : SyncsAll reader mode true t before outcomes t₁) :
    ∃ outcomes' t'', SyncsAll reader mode false t' before outcomes' t'' ∧
      t.ForeseesAll reader mode before outcomes outcomes' ∧ Awaits t t'' after := by
  induction before generalizing t' outcomes t₁ with
  | nil =>
    cases h
    exact ⟨[], t', .nil, .nil, hawaits⟩
  | cons pair before ih =>
    cases h with
    | cons h hrest =>
      obtain ⟨r', t₂, hreal, hforesees, hawaits'⟩ := hawaits.step h
      rw [h.eq_of_dry] at hrest
      obtain ⟨outcomes', t'', hall, hforesees', hafter⟩ := ih hawaits' hrest
      exact ⟨_, t'', .cons hreal hall, .cons hforesees hforesees', hafter⟩

theorem SyncReport.Accounts.unique {report report' : SyncReport} {targets : List String}
    (h : report.Accounts targets outcomes) (h' : report'.Accounts targets outcomes) :
    report = report' := by
  obtain ⟨created, updated, skipped, errors⟩ := report
  obtain ⟨created', updated', skipped', errors'⟩ := report'
  have hcreated := h.created.trans h'.created.symm
  have hupdated := h.updated.trans h'.updated.symm
  have hskipped := h.skipped.trans h'.skipped.symm
  have herrors := h.errors.trans h'.errors.symm
  dsimp only at hcreated hupdated hskipped herrors
  rw [hcreated, hupdated, hskipped, herrors]

end DryRun

end KeptRegions
