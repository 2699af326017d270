import KeptRegions.Proofs.Session.Steps

namespace KeptRegions

/-!
# Bringing one file up to date

All that can come of bringing a file up to date, with the conditions under which it does
(`syncFile_ends_iff`).
-/

/-- Bringing the file at a path up to date with a generated text, from one tree to another. -/
inductive Syncs (reader : RegionReader) (mode : String) (dryRun : Bool) (path : Path)
    (generated : Text) : FileTree → Except Failure Action → FileTree → Prop where
  | unseen {t : FileTree} {e : Failure} (hseen : t.seenAt path.toString = .error e) :
      Syncs reader mode dryRun path generated t (.error e) t
  | unreadable {t : FileTree} {e : Failure} (hthere : t.seenAt path.toString = .ok true)
      (hread : t.textAt path.toString = .error e) :
      Syncs reader mode dryRun path generated t (.error e) t
  | refused {t : FileTree} {existing : Text} {e : Failure}
      (hthere : t.seenAt path.toString = .ok true) (hread : t.textAt path.toString = .ok existing)
      (hrenew : reader.renewed mode generated existing = .error e) :
      Syncs reader mode dryRun path generated t (.error e) t
  | unchanged {t : FileTree} {existing : Text} (hthere : t.seenAt path.toString = .ok true)
      (hread : t.textAt path.toString = .ok existing)
      (hrenew : reader.renewed mode generated existing = .ok existing) :
      Syncs reader mode dryRun path generated t (.ok .unchanged) t
  | foreseen {t : FileTree} {existing renewed : Text} (hthere : t.seenAt path.toString = .ok true)
      (hread : t.textAt path.toString = .ok existing)
      (hrenew : reader.renewed mode generated existing = .ok renewed) (hne : renewed ≠ existing)
      (hdry : dryRun = true) : Syncs reader mode dryRun path generated t (.ok .updated) t
  | unwritten {t t' : FileTree} {existing renewed : Text} {e : Failure}
      (hthere : t.seenAt path.toString = .ok true) (hread : t.textAt path.toString = .ok existing)
      (hrenew : reader.renewed mode generated existing = .ok renewed) (hne : renewed ≠ existing)
      (hreal : dryRun = false) (hwrite : t.written path.toString renewed = (.error e, t')) :
      Syncs reader mode dryRun path generated t (.error e) t'
  | updated {t t' : FileTree} {existing renewed : Text} (hthere : t.seenAt path.toString = .ok true)
      (hread : t.textAt path.toString = .ok existing)
      (hrenew : reader.renewed mode generated existing = .ok renewed) (hne : renewed ≠ existing)
      (hreal : dryRun = false) (hwrite : t.written path.toString renewed = (.ok (), t')) :
      Syncs reader mode dryRun path generated t (.ok .updated) t'
  | foreseenNew {t : FileTree} (hnew : t.seenAt path.toString = .ok false) (hdry : dryRun = true) :
      Syncs reader mode dryRun path generated t (.ok .created) t
  | noDirectory {t t' : FileTree} {e : Failure} (hnew : t.seenAt path.toString = .ok false)
      (hreal : dryRun = false) (hdirs : t.withDirectories path.parent = (.error e, t')) :
      Syncs reader mode dryRun path generated t (.error e) t'
  | uncreated {t t₁ t' : FileTree} {e : Failure} (hnew : t.seenAt path.toString = .ok false)
      (hreal : dryRun = false) (hdirs : t.withDirectories path.parent = (.ok (), t₁))
      (hwrite : t₁.written path.toString generated = (.error e, t')) :
      Syncs reader mode dryRun path generated t (.error e) t'
  | created {t t₁ t' : FileTree} (hnew : t.seenAt path.toString = .ok false) (hreal : dryRun = false)
      (hdirs : t.withDirectories path.parent = (.ok (), t₁))
      (hwrite : t₁.written path.toString generated = (.ok (), t')) :
      Syncs reader mode dryRun path generated t (.ok .created) t'

section Syncing

variable {reader : RegionReader} {mode target : String} {dryRun : Bool} {path : Path}
  {generated : Text} {t t' : FileTree} {r : Except Failure Action}

/-- Whatever the tree, something comes of it. -/
theorem exists_syncs (reader : RegionReader) (mode : String) (dryRun : Bool) (path : Path)
    (generated : Text) (t : FileTree) :
    ∃ r t', Syncs reader mode dryRun path generated t r t' := by
  -- the cases are told apart in the order in which the steps ask
  rcases hseen : t.seenAt path.toString with e | _ | _
  · exact ⟨_, _, .unseen hseen⟩
  · cases hdry : dryRun with
    | true => exact ⟨_, _, .foreseenNew hseen rfl⟩
    | false =>
      rcases hdirs : t.withDirectories path.parent with ⟨e | ⟨⟨⟩⟩, t₁⟩
      · exact ⟨_, _, .noDirectory hseen rfl hdirs⟩
      · rcases hwrite : t₁.written path.toString generated with ⟨e | ⟨⟨⟩⟩, t'⟩
        · exact ⟨_, _, .uncreated hseen rfl hdirs hwrite⟩
        · exact ⟨_, _, .created hseen rfl hdirs hwrite⟩
  · cases hread : t.textAt path.toString with
    | error e => exact ⟨_, _, .unreadable hseen hread⟩
    | ok existing =>
      cases hrenew : reader.renewed mode generated existing with
      | error e => exact ⟨_, _, .refused hseen hread hrenew⟩
      | ok renewed =>
        by_cases hne : renewed = existing
        · exact ⟨_, _, .unchanged hseen hread (hne ▸ hrenew)⟩
        · cases hdry : dryRun with
          | true => exact ⟨_, _, .foreseen hseen hread hrenew hne rfl⟩
          | false =>
            rcases hwrite : t.written path.toString renewed with ⟨e | ⟨⟨⟩⟩, t'⟩
            · exact ⟨_, _, .unwritten hseen hread hrenew hne rfl hwrite⟩
            · exact ⟨_, _, .updated hseen hread hrenew hne rfl hwrite⟩

namespace Session

theorem ends_syncFile (h : Syncs reader mode dryRun (Path.ofString target) generated t r t') :
    (syncFile reader mode dryRun target generated).Ends t r t' := by
  have hseen := ends_there (Path.ofString target).toString t
  have hread := ends_readText (Path.ofString target).toString t
  have hrenew := fun existing => ends_reconcileTexts reader mode generated existing t
  have hdone : ∀ action t', Ends (do
      note [.synced (Path.ofString target).toString action]
      return action) t' (.ok action) t' :=
    fun action t' => (ends_note _ t').bind (ends_pure action t')
  -- a case says of each step what comes of it: of looking, reading, renewing and writing
  unfold syncFile
  cases h with
  | unseen hunseen =>
    rw [hunseen] at hseen
    exact hseen.bind_error
  | unreadable hthere htext =>
    rw [hthere] at hseen
    rw [htext] at hread
    refine hseen.bind ?_
    rw [if_pos rfl]
    exact hread.bind_error
  | refused hthere htext hfault =>
    rw [hthere] at hseen
    rw [htext] at hread
    refine hseen.bind ?_
    rw [if_pos rfl]
    exact hread.bind (hfault ▸ hrenew _).bind_error
  | unchanged hthere htext hrenewed =>
    rw [hthere] at hseen
    rw [htext] at hread
    refine hseen.bind ?_
    rw [if_pos rfl]
    refine hread.bind ((hrenewed ▸ hrenew _).bind ?_)
    rw [if_pos rfl]
    exact hdone _ t
  | foreseen hthere htext hrenewed hne hdry =>
    rw [hthere] at hseen
    rw [htext] at hread
    refine hseen.bind ?_
    rw [if_pos rfl]
    refine hread.bind ((hrenewed ▸ hrenew _).bind ?_)
    rw [if_neg hne, if_pos hdry]
    exact hdone _ t
  | unwritten hthere htext hrenewed hne hreal hwrite =>
    rw [hthere] at hseen
    rw [htext] at hread
    refine hseen.bind ?_
    rw [if_pos rfl]
    refine hread.bind ((hrenewed ▸ hrenew _).bind ?_)
    rw [if_neg hne, if_neg (by simp [hreal])]
    exact (ends_writeText hwrite).bind_error
  | updated hthere htext hrenewed hne hreal hwrite =>
    rw [hthere] at hseen
    rw [htext] at hread
    refine hseen.bind ?_
    rw [if_pos rfl]
    refine hread.bind ((hrenewed ▸ hrenew _).bind ?_)
    rw [if_neg hne, if_neg (by simp [hreal])]
    exact (ends_writeText hwrite).bind (hdone _ t')
  | foreseenNew hnew hdry =>
    rw [hnew] at hseen
    refine hseen.bind ?_
    rw [if_neg (by simp), if_pos hdry]
    exact hdone _ t
  | noDirectory hnew hreal hdirs =>
    rw [hnew] at hseen
    refine hseen.bind ?_
    rw [if_neg (by simp), if_neg (by simp [hreal])]
    exact (ends_makeDirectories hdirs).bind_error
  | uncreated hnew hreal hdirs hwrite =>
    rw [hnew] at hseen
    refine hseen.bind ?_
    rw [if_neg (by simp), if_neg (by simp [hreal])]
    exact (ends_makeDirectories hdirs).bind (ends_writeText hwrite).bind_error
  | created hnew hreal hdirs hwrite =>
    rw [hnew] at hseen
    refine hseen.bind ?_
    rw [if_neg (by simp), if_neg (by simp [hreal])]
    exact (ends_makeDirectories hdirs).bind ((ends_writeText hwrite).bind (hdone _ t'))

theorem syncFile_ends_iff :
    (syncFile reader mode dryRun target generated).Ends t r t' ↔
      Syncs reader mode dryRun (Path.ofString target) generated t r t' := by
  refine ⟨fun h => ?_, ends_syncFile⟩
  obtain ⟨r', t'', hsyncs⟩ :=
    exists_syncs reader mode dryRun (Path.ofString target) generated t
  obtain ⟨rfl, rfl⟩ := h.unique (ends_syncFile hsyncs)
  exact hsyncs

end Session

theorem Syncs.unique {r' : Except Failure Action} {t₁ : FileTree}
    (h : Syncs reader mode dryRun (Path.ofString target) generated t r t')
    (h' : Syncs reader mode dryRun (Path.ofString target) generated t r' t₁) : r = r' ∧ t' = t₁ :=
  (Session.ends_syncFile h).unique (Session.ends_syncFile h')

/-! ## What can go wrong -/

/-- Whether a file is to be made at a path that no file can have. -/
def FileTree.MeetsNull (t : FileTree) (dryRun : Bool) (path : Path) : Prop :=
  t.seenAt path.toString = .ok false ∧ dryRun = false ∧
    (hasNull path.parent.toString = true ∨
      (t.withDirectories path.parent).1 = .ok () ∧ hasNull path.toString = true)

theorem FileTree.not_meetsNull_of_seen (hthere : t.seenAt path.toString = .ok true) :
    ¬ t.MeetsNull dryRun path := by
  rintro ⟨hnew, -⟩
  rw [hthere] at hnew
  cases hnew

theorem FileTree.not_meetsNull_of_unseen {e : Failure} (hseen : t.seenAt path.toString = .error e) :
    ¬ t.MeetsNull dryRun path := by
  rintro ⟨hnew, -⟩
  rw [hseen] at hnew
  cases hnew

theorem Syncs.not_meetsNull {action : Action}
    (h : Syncs reader mode dryRun path generated t (.ok action) t') : ¬ t.MeetsNull dryRun path := by
  rintro ⟨hnew, hreal, hnull⟩
  cases h with
  | unchanged hthere _ _
  | foreseen hthere _ _ _ _
  | updated hthere _ _ _ _ _ =>
    rw [hthere] at hnew
    cases hnew
  | foreseenNew _ hdry =>
    rw [hdry] at hreal
    cases hreal
  | created _ _ hdirs hwrite =>
    rcases hnull with hnull | ⟨-, hnull⟩
    · rw [(FileTree.changed_eq_ok.1 hdirs).1] at hnull
      cases hnull
    · rw [(FileTree.changed_eq_ok.1 hwrite).1] at hnull
      cases hnull

/-- Where it cannot be told whether there is a file, that is what comes of it. -/
theorem Syncs.eq_of_unseen {e : Failure} (h : Syncs reader mode dryRun path generated t r t')
    (hseen : t.seenAt path.toString = .error e) : r = .error e ∧ t' = t := by
  cases h with
  | unseen hseen' =>
    rw [hseen] at hseen'
    cases hseen'
    exact ⟨rfl, rfl⟩
  | unreadable hseen' | refused hseen' | unchanged hseen' | foreseen hseen' | unwritten hseen'
  | updated hseen' | foreseenNew hseen' | noDirectory hseen' | uncreated hseen' | created hseen' =>
    rw [hseen] at hseen'
    cases hseen'

/-- A new file cannot be made where a path is met that no file can have, or where an operation on
files fails. -/
theorem Syncs.new_error_cases {e : Failure}
    (h : Syncs reader mode dryRun path generated t (.error e) t')
    (hnew : t.seenAt path.toString = .ok false) :
    t.MeetsNull dryRun path ∧ e = .nullInPath ∨
      ¬ t.MeetsNull dryRun path ∧ ∃ fault, e = .file fault := by
  cases h with
  | unseen hseen | unreadable hseen | refused hseen | unwritten hseen =>
    rw [hnew] at hseen
    cases hseen
  | noDirectory _ hreal hdirs =>
    -- no directory was made, so the path of the file itself does not come into it
    rcases FileTree.changed_error_cases hdirs with ⟨hnull, rfl, -⟩ | ⟨hnull, fault, rfl, -⟩
    · exact .inl ⟨⟨hnew, hreal, .inl hnull⟩, rfl⟩
    · refine .inr ⟨?_, fault, rfl⟩
      rintro ⟨-, -, hnull' | ⟨hmade, -⟩⟩
      · rw [hnull] at hnull'
        cases hnull'
      · rw [hdirs] at hmade
        cases hmade
  | uncreated _ hreal hdirs hwrite =>
    rcases FileTree.changed_error_cases hwrite with ⟨hnull, rfl, -⟩ | ⟨hnull, fault, rfl, -⟩
    · exact .inl ⟨⟨hnew, hreal, .inr ⟨by rw [hdirs], hnull⟩⟩, rfl⟩
    · refine .inr ⟨?_, fault, rfl⟩
      rintro ⟨-, -, hnull' | ⟨-, hnull'⟩⟩
      · rw [(FileTree.changed_eq_ok.1 hdirs).1] at hnull'
        cases hnull'
      · rw [hnull] at hnull'
        cases hnull'

/-- A file that is there is not brought up to date if its text cannot be read, if one of the texts is
refused, or if the new text cannot be written. -/
theorem Syncs.there_error_cases {e : Failure}
    (h : Syncs reader mode dryRun path generated t (.error e) t')
    (hthere : t.seenAt path.toString = .ok true) :
    t.textAt path.toString = .error e ∧ t' = t ∨
      ∃ existing, t.textAt path.toString = .ok existing ∧
        (reader.renewed mode generated existing = .error e ∧ t' = t ∨
          ∃ renewed fault, reader.renewed mode generated existing = .ok renewed ∧
            e = .file fault) := by
  cases h with
  | unreadable _ hread => exact .inl ⟨hread, rfl⟩
  | refused _ hread hrenew => exact .inr ⟨_, hread, .inl ⟨hrenew, rfl⟩⟩
  | unwritten _ hread hrenew _ _ hwrite =>
    -- the path was read from, so a file can have it
    rcases FileTree.changed_error_cases hwrite with ⟨hnull, -⟩ | ⟨-, fault, rfl, -⟩
    · exact absurd (.inl hnull) (FileTree.not_garbles_of_textAt hread)
    · exact .inr ⟨_, hread, .inr ⟨_, fault, hrenew, rfl⟩⟩
  | unseen hseen | noDirectory hseen | uncreated hseen =>
    rw [hthere] at hseen
    cases hseen

theorem Syncs.there_ok {action : Action}
    (h : Syncs reader mode dryRun path generated t (.ok action) t')
    (hthere : t.seenAt path.toString = .ok true) :
    ∃ existing renewed, t.textAt path.toString = .ok existing ∧
      reader.renewed mode generated existing = .ok renewed := by
  cases h with
  | unchanged _ hread hrenew
  | foreseen _ hread hrenew _ _
  | updated _ hread hrenew _ _ _ => exact ⟨_, _, hread, hrenew⟩
  | foreseenNew hnew _
  | created hnew _ _ _ =>
    rw [hthere] at hnew
    cases hnew

end Syncing

end KeptRegions
