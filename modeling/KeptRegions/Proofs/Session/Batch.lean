import KeptRegions.Proofs.Files.Texts

namespace KeptRegions

/-!
# Bringing files up to date in a batch

A batch goes through its files in order. After a fault of a region or of a file it goes on, and the
report accounts for every file. What stops it is a file that is no text, a path that no file can have,
and an unknown mode once a text is to be renewed; the files before that one are done and those after it
are not looked at (`syncFiles_returns_iff`).
-/

/-! ## Reports -/

namespace SyncReport

/-- The file of an outcome, if this action was taken for it. -/
def taken? (action : Action) : String × Except Failure Action → Option String
  | (target, .ok taken) => if taken = action then some target else none
  | (_, .error _) => none

/-- The file of an outcome and the reason, if it was passed over. -/
def refusal? : String × Except Failure Action → Option (String × String)
  | (_, .ok _) => none
  | (target, .error failure) => some (target, failure.message)

/-- Whether a report accounts for all files of a batch: something became of each, and it is listed by
what became of it, in the order of the batch. -/
structure Accounts (report : SyncReport) (targets : List String)
    (outcomes : List (String × Except Failure Action)) : Prop where
  complete : outcomes.map Prod.fst = targets
  created : report.created = outcomes.filterMap (taken? .created)
  updated : report.updated = outcomes.filterMap (taken? .updated)
  skipped : report.skipped = outcomes.filterMap (taken? .unchanged)
  errors : report.errors = outcomes.filterMap refusal?

variable {report : SyncReport} {targets : List String} {target : String}
  {outcomes : List (String × Except Failure Action)}

theorem accounts_empty : empty.Accounts [] [] :=
  ⟨rfl, rfl, rfl, rfl, rfl⟩

theorem Accounts.add (h : report.Accounts targets outcomes) (target : String) (action : Action) :
    (report.add target action).Accounts (target :: targets) ((target, .ok action) :: outcomes) := by
  obtain ⟨hcomplete, hcreated, hupdated, hskipped, herrors⟩ := h
  constructor <;>
    cases action <;> simp [SyncReport.add, List.filterMap_cons, taken?, refusal?, *]

theorem Accounts.addError (h : report.Accounts targets outcomes) (target : String)
    (failure : Failure) :
    (report.addError target failure.message).Accounts (target :: targets)
      ((target, .error failure) :: outcomes) := by
  obtain ⟨hcomplete, hcreated, hupdated, hskipped, herrors⟩ := h
  constructor <;> simp [SyncReport.addError, List.filterMap_cons, taken?, refusal?, *]

theorem perm_outcomes (outcomes : List (String × Except Failure Action)) :
    (outcomes.filterMap (taken? .created) ++ (outcomes.filterMap (taken? .updated) ++
      (outcomes.filterMap (taken? .unchanged) ++ (outcomes.filterMap refusal?).map Prod.fst))).Perm
      (outcomes.map Prod.fst) := by
  -- an outcome adds one to the count of its file, and does so in one of the lists only
  rw [List.perm_iff_count]
  intro target
  induction outcomes with
  | nil => rfl
  | cons outcome outcomes ih =>
    simp only [List.count_append] at ih ⊢
    obtain ⟨other, (failure | action)⟩ := outcome
    · simp [List.filterMap_cons, taken?, refusal?, List.count_cons]
      omega
    · cases action <;> simp [List.filterMap_cons, taken?, refusal?, List.count_cons] <;> omega

/-- Every file of the batch is in exactly one place of the four lists. -/
theorem Accounts.perm (h : report.Accounts targets outcomes) :
    (report.created ++ (report.updated ++ (report.skipped ++ report.errors.map Prod.fst))).Perm
      targets := by
  rw [h.created, h.updated, h.skipped, h.errors, ← h.complete]
  exact perm_outcomes outcomes

end SyncReport

/-! ## Batches -/

/-- Bringing the files of a batch up to date, whatever becomes of them. -/
inductive SyncsAll (reader : RegionReader) (mode : String) (dryRun : Bool) :
    FileTree → List (String × Text) → List (String × Except Failure Action) → FileTree → Prop where
  | nil {t : FileTree} : SyncsAll reader mode dryRun t [] [] t
  | cons {t t₁ t' : FileTree} {target : String} {generated : Text} {r : Except Failure Action}
      {pairs : List (String × Text)} {outcomes : List (String × Except Failure Action)}
      (h : Syncs reader mode dryRun (Path.ofString target) generated t r t₁)
      (hrest : SyncsAll reader mode dryRun t₁ pairs outcomes t') :
      SyncsAll reader mode dryRun t ((target, generated) :: pairs) ((target, r) :: outcomes) t'

/-- A file at which a batch stops: a file that is no text, a text that is to be renewed in an unknown
mode, or a file to be made at a path that no file can have. -/
def FileTree.Halts (t : FileTree) (mode : String) (dryRun : Bool) (path : Path) : Prop :=
  t.seenAt path.toString = .ok true ∧
      (t.Garbles path.toString ∨
        (∃ text, t.textAt path.toString = .ok text) ∧ Mode.ofName? mode = none) ∨
    t.MeetsNull dryRun path

section Batch

variable {reader : RegionReader} {mode : String} {dryRun : Bool} {path : Path} {generated : Text}
  {t t' t₁ : FileTree} {r : Except Failure Action} {pairs before after : List (String × Text)}
  {outcomes outcomes' : List (String × Except Failure Action)}

/-- Texts are refused with a failure that a batch passes over, unless the mode is unknown. -/
theorem renewed_error_isPassedOver {existing : Text} {e : Failure}
    (h : reader.renewed mode generated existing = .error e) :
    e.isPassedOver = false ↔ Mode.ofName? mode = none := by
  unfold RegionReader.renewed at h
  cases hmode : Mode.ofName? mode with
  | none =>
    rw [hmode] at h
    cases h
    exact iff_of_true rfl rfl
  | some known =>
    rw [hmode] at h
    refine iff_of_false ?_ (by simp)
    cases hcurrent : reader.read generated <;> cases hprevious : reader.read existing <;>
      rw [hcurrent, hprevious] at h <;> cases h <;> simp [Failure.isPassedOver]

theorem known_of_renewed {existing renewed : Text}
    (h : reader.renewed mode generated existing = .ok renewed) : Mode.ofName? mode ≠ none := by
  intro hmode
  unfold RegionReader.renewed at h
  rw [hmode] at h
  cases h

theorem Syncs.halts_iff (h : Syncs reader mode dryRun path generated t r t') :
    (∃ e, r = .error e ∧ e.isPassedOver = false) ↔ t.Halts mode dryRun path := by
  unfold FileTree.Halts
  rcases hseen : t.seenAt path.toString with e | _ | _
  · -- it cannot be told whether there is a file, as the system refuses to say
    obtain ⟨rfl, -⟩ := h.eq_of_unseen hseen
    obtain ⟨cause, -, rfl⟩ := FileTree.seenAt_eq_error.1 hseen
    simp [FileTree.not_meetsNull_of_unseen hseen, Failure.isPassedOver]
  · cases r with
    | ok action => simp [h.not_meetsNull]
    | error e =>
      rcases h.new_error_cases hseen with ⟨hnull, rfl⟩ | ⟨hnull, fault, rfl⟩ <;>
        simp [hnull, Failure.isPassedOver]
  · have hnull : ¬ t.MeetsNull dryRun path := FileTree.not_meetsNull_of_seen hseen
    cases r with
    | ok action =>
      obtain ⟨existing, renewed, hexisting, hrenew⟩ := h.there_ok hseen
      simp [hnull, FileTree.not_garbles_of_textAt hexisting, known_of_renewed hrenew]
    | error e =>
      -- what stops a batch is garbage that was to be read, or a refusal if the mode is unknown
      rcases h.there_error_cases hseen with
        ⟨hunreadable, -⟩ | ⟨existing, hexisting, ⟨hrefused, -⟩ | ⟨_, fault, hrenew, rfl⟩⟩
      · rcases FileTree.textAt_error_cases hunreadable with ⟨hgarbles, rfl | ⟨fault, rfl⟩⟩ |
          ⟨hgarbles, fault, rfl⟩ <;>
          simp [hgarbles, hnull, hunreadable, Failure.isPassedOver]
      · simp [hnull, hexisting, FileTree.not_garbles_of_textAt hexisting,
          renewed_error_isPassedOver hrefused]
      · simp [hnull, FileTree.not_garbles_of_textAt hexisting, known_of_renewed hrenew,
          Failure.isPassedOver]

theorem SyncsAll.append {first second : List (String × Text)}
    (h : SyncsAll reader mode dryRun t (first ++ second) outcomes t') :
    ∃ outcomes₁ outcomes₂ t₁, outcomes = outcomes₁ ++ outcomes₂ ∧
      SyncsAll reader mode dryRun t first outcomes₁ t₁ ∧
        SyncsAll reader mode dryRun t₁ second outcomes₂ t' := by
  induction first generalizing t outcomes with
  | nil => exact ⟨[], outcomes, t, rfl, .nil, h⟩
  | cons pair first ih =>
    cases h with
    | cons h hrest =>
      obtain ⟨outcomes₁, outcomes₂, t₁, rfl, hfirst, hsecond⟩ := ih hrest
      exact ⟨_, outcomes₂, t₁, rfl, .cons h hfirst, hsecond⟩

theorem SyncsAll.unique (h : SyncsAll reader mode dryRun t pairs outcomes t')
    (h' : SyncsAll reader mode dryRun t pairs outcomes' t₁) : outcomes = outcomes' ∧ t' = t₁ := by
  induction h generalizing outcomes' with
  | nil =>
    cases h'
    exact ⟨rfl, rfl⟩
  | cons h _ ih =>
    cases h' with
    | cons h' hrest' =>
      obtain ⟨rfl, rfl⟩ := h.unique h'
      obtain ⟨rfl, rfl⟩ := ih hrest'
      exact ⟨rfl, rfl⟩

/-- Whether none of the outcomes stops a batch. -/
def GoesOn (outcomes : List (String × Except Failure Action)) : Prop :=
  ∀ target e, (target, .error e) ∈ outcomes → e.isPassedOver = true

/-- A batch goes on to its end, or there is a first file at which it stops. -/
theorem syncsAll_or_halts (reader : RegionReader) (mode : String) (dryRun : Bool) (t : FileTree)
    (pairs : List (String × Text)) :
    (∃ outcomes t', SyncsAll reader mode dryRun t pairs outcomes t' ∧ GoesOn outcomes) ∨
      ∃ before target generated after outcomes t₁ e t',
        pairs = before ++ (target, generated) :: after ∧
          SyncsAll reader mode dryRun t before outcomes t₁ ∧ GoesOn outcomes ∧
            Syncs reader mode dryRun (Path.ofString target) generated t₁ (.error e) t' ∧
              e.isPassedOver = false := by
  induction pairs generalizing t with
  | nil => exact .inl ⟨[], t, .nil, by simp [GoesOn]⟩
  | cons pair pairs ih =>
    obtain ⟨target, generated⟩ := pair
    obtain ⟨r, t₁, hsyncs⟩ := exists_syncs reader mode dryRun (Path.ofString target) generated t
    -- this file is the one to stop at, or whatever comes of the others comes behind it
    by_cases hhalts : ∃ e, r = .error e ∧ e.isPassedOver = false
    · obtain ⟨e, rfl, he⟩ := hhalts
      exact .inr ⟨[], target, generated, pairs, [], t, e, t₁, rfl, .nil, by simp [GoesOn], hsyncs, he⟩
    · have hgo : ∀ outcomes, GoesOn outcomes → GoesOn ((target, r) :: outcomes) := by
        intro outcomes hgo other e hmem
        rcases List.mem_cons.1 hmem with hfirst | hmem
        · cases hfirst
          by_contra hstop
          exact hhalts ⟨e, rfl, by simpa using hstop⟩
        · exact hgo other e hmem
      rcases ih t₁ with ⟨outcomes, t', hall, houtcomes⟩ |
        ⟨before, target', generated', after, outcomes, t₂, e, t', rfl, hall, houtcomes, hrest⟩
      · exact .inl ⟨_, t', .cons hsyncs hall, hgo outcomes houtcomes⟩
      · exact .inr ⟨_ :: before, target', generated', after, _, t₂, e, t', rfl,
          .cons hsyncs hall, hgo outcomes houtcomes, hrest⟩

namespace Session

theorem ends_syncFiles (h : SyncsAll reader mode dryRun t pairs outcomes t')
    (hgo : GoesOn outcomes) :
    ∃ report, (syncFiles reader mode dryRun pairs).Ends t (.ok report) t' ∧
      report.Accounts (pairs.map Prod.fst) outcomes := by
  induction h with
  | nil => exact ⟨_, ends_pure _ _, SyncReport.accounts_empty⟩
  | @cons t t₁ t' target generated r pairs outcomes h _ ih =>
    obtain ⟨report, hends, haccounts⟩ :=
      ih fun other e hmem => hgo other e (List.mem_cons_of_mem _ hmem)
    cases r with
    | ok action =>
      exact ⟨_, (ends_syncFile h).outcome.bind (hends.bind (ends_pure _ t')),
        haccounts.add target action⟩
    | error e =>
      refine ⟨_, (ends_syncFile h).outcome.bind ?_, haccounts.addError target e⟩
      dsimp only
      rw [if_pos (hgo target e List.mem_cons_self)]
      exact (ends_note _ t₁).bind (hends.bind (ends_pure _ t'))

theorem ends_syncFiles_error {target : String} {e : Failure} (after : List (String × Text))
    (hbefore : SyncsAll reader mode dryRun t before outcomes t₁) (hgo : GoesOn outcomes)
    (h : Syncs reader mode dryRun (Path.ofString target) generated t₁ (.error e) t')
    (he : e.isPassedOver = false) :
    (syncFiles reader mode dryRun (before ++ (target, generated) :: after)).Ends t (.error e) t' := by
  induction hbefore with
  | nil =>
    refine (ends_syncFile h).outcome.bind ?_
    dsimp only
    rw [if_neg (by simp [he])]
    exact ends_throw e t'
  | @cons t t₂ t₁ other text r pairs outcomes hother _ ih =>
    have hends := ih (fun other e hmem => hgo other e (List.mem_cons_of_mem _ hmem)) h
    refine (ends_syncFile hother).outcome.bind ?_
    cases r with
    | ok action => exact hends.bind_error
    | error failure =>
      dsimp only
      rw [if_pos (hgo other failure List.mem_cons_self)]
      exact (ends_note _ t₂).bind hends.bind_error

end Session

/-! ## When a batch goes through -/

theorem SyncsAll.allText (h : SyncsAll reader mode dryRun t pairs outcomes t') (ht : t.AllText)
    (hall : t.StoresAll) : t'.AllText := by
  induction h with
  | nil => exact ht
  | cons h _ ih =>
    refine ih (h.allText ht hall) fun entries l bytes => ?_
    rw [h.refusals]
    exact hall entries l bytes

/-- Where all files are texts and the mode is known, no file stops a batch. -/
theorem FileTree.AllText.not_halts {target : String} (ht : t.AllText)
    (hmode : Mode.ofName? mode ≠ none) (hnull : hasNull target = false) :
    ¬ t.Halts mode dryRun (Path.ofString target) := by
  have hpath : hasNull (Path.ofString target).toString = false :=
    Path.hasNull_eq_false hnull rfl fun _ hname => hname
  have hparent : hasNull (Path.ofString target).parent.toString = false :=
    Path.hasNull_eq_false hnull rfl fun _ hname => List.dropLast_subset _ hname
  rintro (⟨-, hgarbles | ⟨-, hunknown⟩⟩ | ⟨-, -, hnull' | ⟨-, hnull'⟩⟩)
  · exact ht.not_garbles hpath hgarbles
  · exact hmode hunknown
  · rw [hparent] at hnull'
    cases hnull'
  · rw [hpath] at hnull'
    cases hnull'

/-- No file of a batch that goes on to its end is one to stop at. -/
theorem SyncsAll.not_halts {target : String}
    (hbefore : SyncsAll reader mode dryRun t before outcomes' t₁)
    (hall : SyncsAll reader mode dryRun t (before ++ (target, generated) :: after) outcomes t')
    (hgo : GoesOn outcomes) : ¬ t₁.Halts mode dryRun (Path.ofString target) := by
  intro hhalts
  obtain ⟨outcomes₁, outcomes₂, t₂, rfl, hfirst, hsecond⟩ := hall.append
  obtain ⟨rfl, rfl⟩ := hbefore.unique hfirst
  cases hsecond with
  | cons h hrest =>
    obtain ⟨e, rfl, he⟩ := h.halts_iff.2 hhalts
    rw [hgo target e (by simp)] at he
    cases he

/-- A batch returns exactly if none of its files, when its turn comes, is one to stop at. Then the
report accounts for all files, each in one place. If it does not return, it has ended at such a file,
with all files before that one done and no others changed. With a known mode, where all files are
texts and all bytes that are written are stored, and no target has a character that no file name can
have, every batch returns. -/
theorem syncFiles_returns_iff (reader : RegionReader) (mode : String) (dryRun : Bool)
    (pairs : List (String × Text)) (tree : FileTree) :
    let batch := (Session.syncFiles reader mode dryRun pairs).runOn tree
    ((∃ report w, batch = (.ok report, w)) ↔
      ∀ before target generated after outcomes t, pairs = before ++ (target, generated) :: after →
        SyncsAll reader mode dryRun tree before outcomes t →
          ¬ t.Halts mode dryRun (Path.ofString target)) ∧
    (∀ report w, batch = (.ok report, w) →
      (∃ outcomes, SyncsAll reader mode dryRun tree pairs outcomes w.tree ∧
        report.Accounts (pairs.map Prod.fst) outcomes) ∧
      (report.created ++ (report.updated ++ (report.skipped ++ report.errors.map Prod.fst))).Perm
        (pairs.map Prod.fst)) ∧
    (∀ failure w, batch = (.error failure, w) →
      ∃ before target generated after outcomes t, pairs = before ++ (target, generated) :: after ∧
        SyncsAll reader mode dryRun tree before outcomes t ∧
          t.Halts mode dryRun (Path.ofString target) ∧ t.SameFiles w.tree) ∧
    (Mode.ofName? mode ≠ none → tree.AllText → tree.StoresAll →
      (∀ pair ∈ pairs, hasNull pair.1 = false) → ∃ report w, batch = (.ok report, w)) := by
  intro batch
  rcases syncsAll_or_halts reader mode dryRun tree pairs with ⟨outcomes, t', hall, hgo⟩ |
    ⟨before, target, generated, after, outcomes, t₁, e, t', rfl, hbefore, hgo, hsyncs, he⟩
  · -- the batch goes on to its end
    obtain ⟨report, hends, haccounts⟩ := Session.ends_syncFiles hall hgo
    have hreturns : ∃ report w, batch = (.ok report, w) :=
      hends.exists_runOn.elim fun journal hrun => ⟨report, _, hrun⟩
    refine ⟨iff_of_true hreturns ?_, ?_, ?_, fun _ _ _ _ => hreturns⟩
    · rintro before target generated after outcomes' t rfl hbefore
      exact hbefore.not_halts hall hgo
    · intro report' w hrun
      obtain ⟨hreport, rfl⟩ := hends.eq_of_runOn hrun
      cases hreport
      exact ⟨⟨outcomes, hall, haccounts⟩, haccounts.perm⟩
    · intro failure w hrun
      obtain ⟨hfailure, -⟩ := hends.eq_of_runOn hrun
      cases hfailure
  · -- there is a first file at which the batch stops
    have hends := Session.ends_syncFiles_error after hbefore hgo hsyncs he
    have hhalts : t₁.Halts mode dryRun (Path.ofString target) := hsyncs.halts_iff.1 ⟨e, rfl, he⟩
    have hfails : ¬ ∃ report w, batch = (.ok report, w) := by
      rintro ⟨report, w, hrun⟩
      obtain ⟨hreport, -⟩ := hends.eq_of_runOn hrun
      cases hreport
    refine ⟨iff_of_false hfails ?_, ?_, ?_, ?_⟩
    · exact fun hnone => hnone before target generated after outcomes t₁ rfl hbefore hhalts
    · exact fun report w hrun => absurd ⟨report, w, hrun⟩ hfails
    · intro failure w hrun
      obtain ⟨hfailure, rfl⟩ := hends.eq_of_runOn hrun
      refine ⟨before, target, generated, after, outcomes, t₁, rfl, hbefore, hhalts,
        hsyncs.sameFiles_of_not_file ?_⟩
      rintro fault rfl
      cases he
    · intro hmode htext hall hnull
      have htarget : hasNull target = false := hnull (target, generated) (by simp)
      exact absurd hhalts ((hbefore.allText htext hall).not_halts hmode htarget)

end Batch

/-- A target in which a comment is left open stops no batch. -/
theorem batch_passes_over_open_comment :
    let tree : FileTree := { cwd := [], entries := [(["a"], .file "/*".toUTF8)] }
    let pairs := [("b", "x".toList), ("a", "y".toList), ("c", "z".toList)]
    let batch := (Session.syncFiles (.slashes .flat false) "merge" false pairs).runOn tree
    Mode.ofName? "merge" ≠ none ∧ tree.AllText ∧ tree.StoresAll ∧
      (∀ pair ∈ pairs, hasNull pair.1 = false) ∧
      (∃ report w, batch = (.ok report, w)) ∧
      batch.1.toOption.map (fun report => (report.created, report.errors.map Prod.fst)) =
        some (["b", "c"], ["a"]) := by
  intro tree pairs batch
  have htext : tree.AllText := by
    intro l bytes hl
    unfold FileTree.entry? at hl
    split at hl
    · cases hl
    · rw [List.lookup_cons] at hl
      split at hl <;> cases hl
      exact ⟨_, Utf8.decode_encode "/*".toList⟩
  have hall : tree.StoresAll := fun _ _ _ => rfl
  have hnull : ∀ pair ∈ pairs, hasNull pair.1 = false := by decide
  exact ⟨by decide, htext, hall, hnull,
    (syncFiles_returns_iff _ _ _ pairs tree).2.2.2 (by decide) htext hall hnull, by decide +kernel⟩

/-- A target that is no text stops a batch, with the files after it left out. -/
theorem batch_stops_at_undecodable_file :
    ¬ ∀ (reader : RegionReader) (mode : String) (dryRun : Bool) (pairs : List (String × Text))
      (tree : FileTree),
      let batch := (Session.syncFiles reader mode dryRun pairs).runOn tree
      (Mode.ofName? mode = none ∧
        ∃ w, batch = (.error (.unknownMode mode), w) ∧ tree.SameFiles w.tree) ∨
      ∃ report w outcomes, batch = (.ok report, w) ∧
        report.Accounts (pairs.map Prod.fst) outcomes := by
  intro h
  let tree : FileTree := { cwd := [], entries := [(["a"], .file ⟨#[0xff]⟩)] }
  let pairs := [("b", "x".toList), ("a", "y".toList), ("c", "z".toList)]
  have hfails : ((Session.syncFiles (.slashes .flat false) "merge" false pairs).runOn tree).1.isOk =
      false := by
    decide +kernel
  rcases h (.slashes .flat false) "merge" false pairs tree with ⟨hmode, -⟩ | ⟨report, w, _, hrun, -⟩
  · exact absurd hmode (by decide)
  · rw [hrun] at hfails
    cases hfails

end KeptRegions
