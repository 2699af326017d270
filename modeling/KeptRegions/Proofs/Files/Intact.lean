import KeptRegions.Proofs.Session.Syncing

namespace KeptRegions

/-!
# What becomes of files

Making directories changes no file. Writing changes one at most: if it cannot be opened none, and else
the one at the path, which then holds as many of the bytes as are stored.
-/

namespace FileTree

variable {t t' t₁ : FileTree} {l m : Location} {path : String} {bytes : ByteArray}

/-- Whether the same files are there with the same bytes. Directories do not count. -/
def SameFiles (t t' : FileTree) : Prop :=
  ∀ l bytes, t.entry? l = some (.file bytes) ↔ t'.entry? l = some (.file bytes)

theorem SameFiles.refl (t : FileTree) : t.SameFiles t :=
  fun _ _ => Iff.rfl

theorem SameFiles.trans (h : t.SameFiles t₁) (h' : t₁.SameFiles t') : t.SameFiles t' :=
  fun l bytes => (h l bytes).trans (h' l bytes)

/-! ## Entries -/

theorem lookup_filter_ne (h : m ≠ l) (entries : List (Location × Entry)) :
    (entries.filter fun (k, _) => k ≠ l).lookup m = entries.lookup m := by
  induction entries with
  | nil => rfl
  | cons entry entries ih =>
    rcases entry with ⟨k, e⟩
    by_cases hk : k = l
    · subst hk
      simp only [List.lookup_cons, List.filter_cons, ne_eq, not_true, decide_false,
        beq_eq_false_iff_ne.2 h]
      exact ih
    · simp only [List.lookup_cons, List.filter_cons, ne_eq, hk, not_false_eq_true, decide_true,
        if_true]
      split
      · rfl
      · exact ih

/-- A new entry is found at its own location, and no other location is touched. The root stays a
directory. -/
theorem entry?_put (t : FileTree) (l m : Location) (e : Entry) :
    FileTree.entry? (t.put l e) m = if m ≠ [] ∧ m = l then some e else t.entry? m := by
  unfold entry? put
  cases m with
  | nil => simp
  | cons name m =>
    by_cases h : name :: m = l
    · subst h
      simp
    · have hne : (name :: m == l) = false := beq_eq_false_iff_ne.2 h
      simp only [List.isEmpty_cons, Bool.false_eq_true, if_false, List.lookup_cons, hne, ne_eq,
        reduceCtorEq, not_false_eq_true, h, and_false]
      exact lookup_filter_ne h t.entries

/-- Putting a directory where nothing is changes no file. -/
theorem sameFiles_put (h : t.entry? l = none) : t.SameFiles (t.put l .directory) := by
  intro m bytes
  rw [entry?_put]
  split
  · rename_i hm
    rw [hm.2, h]
    simp
  · rfl

theorem put_put (t : FileTree) (l : Location) (e e' : Entry) : (t.put l e).put l e' = t.put l e' := by
  simp [put, List.filter_filter]

/-! ## Making directories -/

/-- Whether a tree comes of another by making directories where nothing is. -/
inductive Grown (t : FileTree) : FileTree → Prop where
  | refl : Grown t t
  | put {t₁ : FileTree} {l : Location} (h : Grown t t₁) (hnone : t₁.entry? l = none) :
      Grown t (t₁.put l .directory)

theorem Grown.trans (h : t.Grown t₁) (h' : t₁.Grown t') : t.Grown t' := by
  induction h' with
  | refl => exact h
  | put _ hnone ih => exact ih.put hnone

theorem Grown.refusals (h : t.Grown t') : t'.refusals = t.refusals := by
  induction h with
  | refl => rfl
  | put _ _ ih => exact ih

theorem Grown.sameFiles (h : t.Grown t') : t.SameFiles t' := by
  induction h with
  | refl => exact .refl t
  | put _ hnone ih => exact ih.trans (sameFiles_put hnone)

theorem grown_makeDirectory (h : t.makeDirectory path = .ok t') : t.Grown t' := by
  unfold makeDirectory at h
  obtain ⟨l, -, h⟩ := exists_eq_ok_of_bind h
  split at h
  · cases h
  · cases h
  · rename_i hentry _
    cases h
    exact .put .refl hentry

theorem grown_makeDirectories (bound : Nat) (p : Path) (t : FileTree) :
    t.Grown (t.makeDirectories bound p).1 := by
  induction bound generalizing p t with
  | zero => exact .refl
  | succ bound ih =>
    unfold makeDirectories
    split
    · rename_i t' hmade
      exact grown_makeDirectory hmade
    · split
      · exact .refl
      · split
        · exact .refl
        · have hparent := ih p.parent t
          split
          · rename_i t₁ failure hdirs
            rwa [hdirs] at hparent
          · rename_i t₁ hdirs
            rw [hdirs] at hparent
            split
            · rename_i t' hmade
              exact hparent.trans (grown_makeDirectory hmade)
            · split <;> exact hparent

theorem grown_withDirectories {p : Path} {r : Except Failure Unit}
    (h : t.withDirectories p = (r, t')) : t.Grown t' := by
  unfold withDirectories changed at h
  split at h <;> cases h
  · exact .refl
  · exact grown_makeDirectories (p.names.length + 1) p t

/-! ## Writing -/

/-- What becomes of the tree when bytes are written to the file at a path, and what is wrong then. -/
inductive Writes (t : FileTree) (path : String) (bytes : ByteArray) :
    FileTree → Option FileFault → Prop where
  /-- The file cannot be opened. -/
  | closed {cause : FileFault.Cause} (hopen : t.openToWrite path = .error cause) :
      Writes t path bytes t (some (.of cause path))
  /-- Not all bytes are stored. -/
  | cut {l : Location} {count : Nat} {cause : FileFault.Cause}
      (hopen : t.openToWrite path = .ok (l, t.put l (.file .empty)))
      (hstore : t.refusals.store (t.put l (.file .empty)).entries l bytes = some (count, cause)) :
      Writes t path bytes (t.put l (.file (bytes.extract 0 count))) (some { cause, path := none })
  /-- All bytes are stored. -/
  | whole {l : Location} (hopen : t.openToWrite path = .ok (l, t.put l (.file .empty)))
      (hstore : t.refusals.store (t.put l (.file .empty)).entries l bytes = none) :
      Writes t path bytes (t.put l (.file bytes)) none

theorem openToWrite_eq_ok :
    t.openToWrite path = .ok (l, t') ↔
      path.endsWith "/" = false ∧ t.locate path = .ok l ∧ t.writeRefusal? l = none ∧
        t' = t.put l (.file .empty) := by
  unfold openToWrite
  cases hslash : path.endsWith "/" with
  | true =>
    -- a path of a directory is never written to
    refine iff_of_false (fun h => ?_) (by simp)
    rw [if_pos rfl] at h
    dsimp only at h
    split at h
    · obtain ⟨_, -, h⟩ := exists_eq_ok_of_bind h
      cases h
    · cases h
  | false =>
    cases hlocate : t.locate path with
    | error cause => simp [bind, Except.bind]
    | ok m =>
      cases hrefusal : t.writeRefusal? m with
      | some cause =>
        refine iff_of_false (by simp [bind, Except.bind, hrefusal]) ?_
        rintro ⟨-, hm, hnone, -⟩
        cases hm
        rw [hrefusal] at hnone
        cases hnone
      | none =>
        simp only [bind, Except.bind, hrefusal, Bool.false_eq_true, if_false, pure, Except.pure,
          Except.ok.injEq, Prod.mk.injEq, true_and]
        constructor
        · rintro ⟨rfl, rfl⟩
          exact ⟨rfl, hrefusal, rfl⟩
        · rintro ⟨rfl, -, rfl⟩
          exact ⟨rfl, rfl⟩

theorem store_of_refused {e : Entry} {count : Nat} {cause : FileFault.Cause}
    (h : t.refusals.store (t.put l e).entries l bytes = some (count, cause)) :
    (t.put l e).store l bytes = (t.put l (.file (bytes.extract 0 count)), some cause) := by
  unfold store
  rw [show (t.put l e).refusals = t.refusals from rfl, h]
  exact Prod.ext (put_put t l e _) rfl

theorem store_of_stored {e : Entry} (h : t.refusals.store (t.put l e).entries l bytes = none) :
    (t.put l e).store l bytes = (t.put l (.file bytes), none) := by
  unfold store
  rw [show (t.put l e).refusals = t.refusals from rfl, h]
  exact Prod.ext (put_put t l e _) rfl

theorem writes_write (t : FileTree) (path : String) (bytes : ByteArray) :
    t.Writes path bytes (t.write path bytes).1 (t.write path bytes).2 := by
  unfold write
  rcases hopen : t.openToWrite path with cause | ⟨l, t₁⟩
  · exact .closed hopen
  · obtain rfl := (openToWrite_eq_ok.1 hopen).2.2.2
    dsimp only
    rcases hstore : t.refusals.store (t.put l (.file .empty)).entries l bytes with _ | ⟨count, cause⟩
    · rw [store_of_stored hstore]
      exact .whole hopen hstore
    · rw [store_of_refused hstore]
      exact .cut hopen hstore

/-- A file is opened for writing where no directory is. -/
theorem not_isDirectory_of_openToWrite (h : t.openToWrite path = .ok (l, t')) :
    t.isDirectory l = false := by
  have hrefusal := (openToWrite_eq_ok.1 h).2.2.1
  unfold writeRefusal? at hrefusal
  unfold isDirectory
  split at hrefusal
  · cases hrefusal
  · rename_i hentry
    simp [hentry]
  · rename_i hentry
    simp [hentry]

theorem Writes.refusals {fault : Option FileFault} (h : t.Writes path bytes t' fault) :
    t'.refusals = t.refusals := by
  cases h <;> rfl

/-- What writing a text comes to is what writing its bytes comes to, at a path that a file can have. -/
theorem written_cases {text : Text} {r : Except Failure Unit} (h : t.written path text = (r, t')) :
    hasNull path = true ∧ r = .error .nullInPath ∧ t' = t ∨
      hasNull path = false ∧ ∃ fault, t.Writes path (Utf8.encode text) t' fault ∧
        r = unlessFault fault := by
  unfold written changed at h
  split at h
  · rename_i hnull
    cases h
    exact .inl ⟨hnull, rfl, rfl⟩
  · rename_i hnull
    cases h
    exact .inr ⟨by simpa using hnull, _, t.writes_write path (Utf8.encode text), rfl⟩

/-- Whatever is changed, what the system refuses stays the same. -/
theorem refusals_of_written {text : Text} {r : Except Failure Unit}
    (h : t.written path text = (r, t')) : t'.refusals = t.refusals := by
  rcases written_cases h with ⟨-, -, rfl⟩ | ⟨-, fault, hwrites, -⟩
  · rfl
  · exact hwrites.refusals

end FileTree

/-! ## Bringing a file up to date -/

theorem Syncs.refusals {reader : RegionReader} {mode : String} {dryRun : Bool} {path : Path}
    {generated : Text} {t t' : FileTree} {r : Except Failure Action}
    (h : Syncs reader mode dryRun path generated t r t') : t'.refusals = t.refusals := by
  cases h with
  | unseen | unreadable | refused | unchanged | foreseen | foreseenNew => rfl
  | unwritten _ _ _ _ _ hwrite | updated _ _ _ _ _ hwrite => exact FileTree.refusals_of_written hwrite
  | noDirectory _ _ hdirs => exact (FileTree.grown_withDirectories hdirs).refusals
  | uncreated _ _ hdirs hwrite | created _ _ hdirs hwrite =>
    exact (FileTree.refusals_of_written hwrite).trans (FileTree.grown_withDirectories hdirs).refusals

/-- If bringing a file up to date fails for another reason than a fault of a file, all files are as
before. -/
theorem Syncs.sameFiles_of_not_file {reader : RegionReader} {mode : String} {dryRun : Bool}
    {path : Path} {generated : Text} {t t' : FileTree} {e : Failure}
    (h : Syncs reader mode dryRun path generated t (.error e) t') (he : ∀ fault, e ≠ .file fault) :
    t.SameFiles t' := by
  cases h with
  | unseen | unreadable | refused => exact .refl t
  | unwritten _ _ _ _ _ hwrite =>
    rcases FileTree.changed_error_cases hwrite with ⟨-, -, rfl⟩ | ⟨-, fault, rfl, -⟩
    · exact .refl _
    · exact absurd rfl (he fault)
  | noDirectory _ _ hdirs => exact (FileTree.grown_withDirectories hdirs).sameFiles
  | uncreated _ _ hdirs hwrite =>
    rcases FileTree.changed_error_cases hwrite with ⟨-, -, rfl⟩ | ⟨-, fault, rfl, -⟩
    · exact (FileTree.grown_withDirectories hdirs).sameFiles
    · exact absurd rfl (he fault)

end KeptRegions
