import KeptRegions.CommandLine.Run
import KeptRegions.Proofs.Files.Writing

namespace KeptRegions

/-!
# What commands come to

A command needs texts or documents from some files and may write a text to one. The first of its needs
that cannot be met is the fault it ends with, and then it has changed nothing. If all are met it
succeeds, or it fails to write; then no file is changed, unless the one to be written was opened. Only
`check` goes on after a fault and counts it instead (`runWith_comes`).
-/

/-- What a command needs of a file, whose path may have been left out. -/
inductive Need where
  | text (path : Option String)
  | document (path : Option String)
  /-- To be told whether there is something at a path. -/
  | presence (path : String)

/-- The failure of a result, if it is one. -/
def Failure.of? {α : Type} : Except Failure α → Option Failure
  | .ok _ => none
  | .error e => some e

@[simp] theorem Failure.of?_ok {α : Type} (a : α) : Failure.of? (.ok a) = none := rfl

@[simp] theorem Failure.of?_error {α : Type} (e : Failure) :
    Failure.of? (.error e : Except Failure α) = some e := rfl

/-- Why a need cannot be met. -/
def Need.fault? (reader : RegionReader) (t : FileTree) : Need → Option Failure
  | text none => some .noPath
  | text (some path) => Failure.of? (t.textAt path)
  | document none => some .noPath
  | document (some path) => Failure.of? (t.documentAt reader path)
  | presence path => Failure.of? (t.seenAt path)

namespace Command

/-- What a command needs, in the order in which it is looked for. The target of `sync` need not be
there, and only if it is the texts are read as documents. -/
def needs (t : FileTree) : Command → List Need
  | reconcile _ current previous _ => [.document (some current), .document previous]
  | regions file _ => [.document (some file)]
  | check _ => []
  | sync generated none _ _ => [.text (some generated), .text none]
  | sync generated (some target) _ _ =>
    let path := (Path.ofString target).toString
    .text (some generated) :: .presence path ::
      match t.seenAt path with
      | .ok true => [.text (some path), .document (some generated), .document (some path)]
      | _ => []
  | presets => []

/-- The first need of a command that cannot be met, by its failure. -/
def fault? (reader : RegionReader) (t : FileTree) (c : Command) : Option Failure :=
  (c.needs t).findSome? (Need.fault? reader t)

/-- Whether a command comes to write to a path that no file can have. -/
def MeetsNull (t : FileTree) : Command → Prop
  | reconcile _ _ _ output => ∃ path, output = some path ∧ hasNull path = true
  | sync _ (some target) _ dryRun => t.MeetsNull dryRun (Path.ofString target)
  | _ => False

/-- The text that a command writes if its needs are met, behind the path it writes to. -/
def writes? (reader : RegionReader) (t : FileTree) : Command → Option (String × Text)
  | reconcile mode current (some previous) (some path) =>
    if path = "" then none
    else do
      let c ← (t.documentAt reader current).toOption
      let p ← (t.documentAt reader previous).toOption
      return (path, (c.reconciled p mode.keeps).content)
  | sync generated (some target) mode false => do
    let path := (Path.ofString target).toString
    let text ← (t.textAt generated).toOption
    return (path, ← t.renewal? reader mode.name path text)
  | _ => none

/-- What `sync` says of its target. -/
def syncLine (target : String) (action : Action) : String :=
  target ++ ": " ++ action.name ++ "\n"

/-- What a command has to say when it has written a text: only `sync` says something. -/
def Says (c : Command) (output : String) : Prop :=
  output = "" ∨ ∃ generated target mode action, c = sync generated (some target) mode false ∧
    output = syncLine target action

/-- What a command comes to: the result and the tree it leaves. -/
inductive Comes (reader : RegionReader) :
    Command → FileTree → Except Failure Report → FileTree → Prop where
  /-- A need cannot be met. -/
  | faulty {c : Command} {t : FileTree} {e : Failure} (hfault : c.fault? reader t = some e) :
      Comes reader c t (.error e) t
  /-- All needs are met and nothing is to be written. -/
  | done {c : Command} {t : FileTree} {report : Report} (hfault : c.fault? reader t = none)
      (hnull : ¬ c.MeetsNull t) (hwrites : c.writes? reader t = none) (hstatus : report.status = 0) :
      Comes reader c t (.ok report) t
  /-- All needs are met and what is to be written is written. -/
  | written {c : Command} {t t' : FileTree} {report : Report} {path : String} {text : Text}
      (hfault : c.fault? reader t = none) (hnull : ¬ c.MeetsNull t)
      (hwrites : c.writes? reader t = some (path, text)) (harrived : t.Arrived t' path text)
      (hstatus : report.status = 0) (hsaid : c.Says report.output) : Comes reader c t (.ok report) t'
  /-- All needs are met, and the file to write to cannot be opened. -/
  | unwritten {c : Command} {t t' : FileTree} {fault : FileFault} (hfault : c.fault? reader t = none)
      (hnull : ¬ c.MeetsNull t) (hsame : t.SameFiles t') : Comes reader c t (.error (.file fault)) t'
  /-- All needs are met, and not all that is to be written is stored. -/
  | cutShort {c : Command} {t t' : FileTree} {fault : FileFault} {path : String} {text : Text}
      (hfault : c.fault? reader t = none) (hnull : ¬ c.MeetsNull t)
      (hwrites : c.writes? reader t = some (path, text)) (hcut : t.CutShort t' path text) :
      Comes reader c t (.error (.file fault)) t'
  /-- All needs are met and the path to write to is none of a file. -/
  | null {c : Command} {t t' : FileTree} (hfault : c.fault? reader t = none)
      (hnull : c.MeetsNull t) (hsame : t.SameFiles t') : Comes reader c t (.error .nullInPath) t'
  /-- Some files were checked. -/
  | checked {files : List String} {t : FileTree} {report : Report}
      (hstatus : report.status =
        if files.all fun path => (t.documentAt reader path).isOk then 0 else 1) :
      Comes reader (check files) t (.ok report) t

end Command

namespace Command

open Session

/-! ## Running commands -/

/-- The steps end as the command does. -/
def RunsAs (reader : RegionReader) (x : Session Report) (c : Command) : Prop :=
  ∀ t, ∃ r t', x.Ends t r t' ∧ c.Comes reader t r t'

variable {reader : RegionReader}

/-- Two documents are reconciled, and all that is left to do is to write the result. -/
theorem ends_runReconcile_writing {t t' : FileTree} {current previous path : String}
    {output : Option String} {c p : Document} {r : Except Failure Unit} (mode : Mode)
    (houtput : output.filter (· ≠ "") = some path) (hc : t.documentAt reader current = .ok c)
    (hp : t.documentAt reader previous = .ok p)
    (h : (writeText path (c.reconciled p mode.keeps).content).Ends t r t') :
    (runReconcile reader mode current (some previous) output).Ends t (r.map fun _ => done "")
      t' := by
  have hcurrent := ends_readDocument reader current t
  have hrequired : (required (some previous)).Ends t (.ok previous) t := ends_pure previous t
  have hprevious := ends_readDocument reader previous t
  rw [hc] at hcurrent
  rw [hp] at hprevious
  unfold runReconcile
  rw [houtput]
  refine hcurrent.bind (hrequired.bind (hprevious.bind
    ((ends_reconcile mode.keeps c p t).bind ?_)))
  cases r with
  | ok _ => exact h.bind (ends_pure _ t')
  | error e => exact h.bind_error

/-- Two documents are reconciled, and the result is printed, or written to a path that is not empty. -/
theorem runReconcile_comes_of_documents {t : FileTree} {current previous : String} {c p : Document}
    (mode : Mode) (output : Option String) (hc : t.documentAt reader current = .ok c)
    (hp : t.documentAt reader previous = .ok p) :
    ∃ r t', (runReconcile reader mode current (some previous) output).Ends t r t' ∧
      Comes reader (.reconcile mode current (some previous) output) t r t' := by
  have hcurrent := ends_readDocument reader current t
  have hrequired : (required (some previous)).Ends t (.ok previous) t := ends_pure previous t
  have hprevious := ends_readDocument reader previous t
  have hresult := ends_reconcile mode.keeps c p t
  have hfault : (Command.reconcile mode current (some previous) output).fault? reader t = none := by
    simp [fault?, needs, Need.fault?, hc, hp]
  rw [hc] at hcurrent
  rw [hp] at hprevious
  -- an empty path counts as none, and then the result is printed
  cases houtput : output.filter (· ≠ "") with
  | none =>
    have hends : (runReconcile reader mode current (some previous) output).Ends t
        (.ok (done (Text.toStr (c.reconciled p mode.keeps).content))) t := by
      unfold runReconcile
      rw [houtput]
      exact hcurrent.bind (hrequired.bind (hprevious.bind (hresult.bind (ends_pure _ t))))
    have hempty : ∀ path, output = some path → path = "" := by
      rintro path rfl
      simpa using houtput
    refine ⟨_, t, hends, .done hfault ?_ ?_ rfl⟩
    · rintro ⟨path, hpath, hnull⟩
      rw [hempty path hpath] at hnull
      cases hnull
    · cases output with
      | none => rfl
      | some path => simp [writes?, hempty path rfl]
  | some path =>
    obtain ⟨rfl, hne⟩ := Option.filter_eq_some_iff.1 houtput
    have hwrites : (Command.reconcile mode current (some previous) (some path)).writes? reader t =
        some (path, (c.reconciled p mode.keeps).content) := by
      simp [writes?, show path ≠ "" by simpa using hne, hc, hp, Except.toOption]
    rcases hwrite : t.written path (c.reconciled p mode.keeps).content with ⟨res, t'⟩
    have hends := ends_runReconcile_writing mode houtput hc hp (ends_writeText hwrite)
    rcases res with e | ⟨⟨⟩⟩
    · rcases FileTree.changed_error_cases hwrite with ⟨hnull, rfl, rfl⟩ | ⟨hnull, fault, rfl, -⟩
      · exact ⟨_, _, hends, .null hfault ⟨path, rfl, hnull⟩ (.refl _)⟩
      · have hno : ¬ (Command.reconcile mode current (some previous) (some path)).MeetsNull t := by
          rintro ⟨_, ⟨⟩, hnull'⟩
          rw [hnull] at hnull'
          cases hnull'
        rcases FileTree.written_error_cases hwrite with hsame | ⟨hcut, -⟩
        · exact ⟨_, t', hends, .unwritten hfault hno hsame⟩
        · exact ⟨_, t', hends, .cutShort hfault hno hwrites hcut⟩
    · refine ⟨_, t', hends, .written hfault ?_ hwrites (FileTree.arrived_of_written hwrite) rfl
        (.inl rfl)⟩
      rintro ⟨_, ⟨⟩, hnull⟩
      rw [(FileTree.changed_eq_ok.1 hwrite).1] at hnull
      cases hnull

theorem runReconcile_comes (mode : Mode) (current : String) (previous output : Option String) :
    RunsAs reader (runReconcile reader mode current previous output)
      (.reconcile mode current previous output) := by
  intro t
  have hcurrent := ends_readDocument reader current t
  cases hc : t.documentAt reader current with
  | error e =>
    rw [hc] at hcurrent
    exact ⟨_, _, hcurrent.bind_error, .faulty (by simp [fault?, needs, Need.fault?, hc])⟩
  | ok c =>
    rw [hc] at hcurrent
    cases previous with
    | none =>
      exact ⟨_, _, hcurrent.bind (ends_throw .noPath t).bind_error,
        .faulty (by simp [fault?, needs, Need.fault?, hc])⟩
    | some previous =>
      have hrequired : (required (some previous)).Ends t (.ok previous) t := ends_pure previous t
      have hprevious := ends_readDocument reader previous t
      cases hp : t.documentAt reader previous with
      | error e =>
        rw [hp] at hprevious
        exact ⟨_, _, hcurrent.bind (hrequired.bind hprevious.bind_error),
          .faulty (by simp [fault?, needs, Need.fault?, hc, hp])⟩
      | ok p => exact runReconcile_comes_of_documents mode output hc hp

theorem runRegions_comes (file : String) (json : Bool) :
    RunsAs reader (runRegions reader file json) (.regions file json) := by
  intro t
  have hfile := ends_readDocument reader file t
  cases hd : t.documentAt reader file with
  | error e =>
    rw [hd] at hfile
    exact ⟨_, _, hfile.bind_error,
      .faulty (by simp [fault?, needs, Need.fault?, hd])⟩
  | ok d =>
    rw [hd] at hfile
    exact ⟨_, _, hfile.bind (ends_pure _ t),
      .done (by simp [fault?, needs, Need.fault?, hd]) id rfl rfl⟩

/-! ## Checking files -/

/-- What `check` says of a file of a tree. -/
def verdict (reader : RegionReader) (t : FileTree) (path : String) : Bool × String :=
  match t.documentAt reader path with
  | .ok d => (true, "  ✓ " ++ path ++ ": " ++ toString d.ids.length ++ " regions\n")
  | .error failure => (false, "  ✗ " ++ path ++ ": " ++ failure.message ++ "\n")

theorem verdict_fst (reader : RegionReader) (t : FileTree) (path : String) :
    (verdict reader t path).1 = (t.documentAt reader path).isOk := by
  unfold verdict
  cases t.documentAt reader path <;> rfl

theorem ends_checkFile (reader : RegionReader) (path : String) (t : FileTree) :
    (checkFile reader path).Ends t (.ok (verdict reader t path)) t := by
  refine (ends_readDocument reader path t).outcome.bind ?_
  unfold verdict
  cases t.documentAt reader path with
  | ok d => exact ends_pure _ t
  | error failure => exact ends_pure _ t

/-- Files are checked without a failure, and the status tells whether all are documents. -/
theorem exists_runCheck_ends (reader : RegionReader) (files : List String) (t : FileTree) :
    ∃ report, (runCheck reader files).Ends t (.ok report) t ∧
      report.status = if files.all fun path => (t.documentAt reader path).isOk then 0 else 1 := by
  have hresults := ends_mapM (fun path => ends_checkFile reader path t) files
  -- the status is zero if no result was sorted out
  have hgood : (files.map (verdict reader t)).filter Prod.fst =
      (files.filter fun path => (t.documentAt reader path).isOk).map (verdict reader t) := by
    rw [List.filter_map]
    congr 1
    exact List.filter_congr fun path _ => verdict_fst reader t path
  refine ⟨_, hresults.bind (ends_pure _ t), ?_⟩
  simp only [hgood, List.length_map, List.length_filter_eq_length_iff, List.all_eq_true]

theorem runCheck_comes (files : List String) :
    RunsAs reader (runCheck reader files) (.check files) := by
  intro t
  obtain ⟨report, hends, hstatus⟩ := exists_runCheck_ends reader files t
  exact ⟨_, t, hends, .checked hstatus⟩

/-! ## Synchronizing -/

theorem ofName?_name (mode : Mode) : Mode.ofName? mode.name = some mode := by
  cases mode <;> decide

/-- Texts are refused for the first of them that cannot be read. -/
theorem of?_renewed (mode : Mode) (generated existing : Text) :
    Failure.of? (reader.renewed mode.name generated existing) =
      (Failure.of? ((reader.read generated).mapError Failure.region)).or
        (Failure.of? ((reader.read existing).mapError Failure.region)) := by
  unfold RegionReader.renewed
  rw [ofName?_name]
  cases reader.read generated <;> cases reader.read existing <;> rfl

section Sync

variable {t t' : FileTree} {generated target : String} {text existing : Text} {mode : Mode}
  {dryRun : Bool} {e : Failure} {r : Except Failure Action}

theorem fault?_sync_unseen (hgenerated : t.textAt generated = .ok text)
    (hseen : t.seenAt (Path.ofString target).toString = .error e) :
    (sync generated (some target) mode dryRun).fault? reader t = some e := by
  simp [fault?, needs, Need.fault?, hgenerated, hseen]

theorem fault?_sync_new (reader : RegionReader) (hgenerated : t.textAt generated = .ok text)
    (hnew : t.seenAt (Path.ofString target).toString = .ok false) :
    (sync generated (some target) mode dryRun).fault? reader t = none := by
  simp [fault?, needs, Need.fault?, hgenerated, hnew]

theorem fault?_sync_unreadable (hgenerated : t.textAt generated = .ok text)
    (hthere : t.seenAt (Path.ofString target).toString = .ok true)
    (hexisting : t.textAt (Path.ofString target).toString = .error e) :
    (sync generated (some target) mode dryRun).fault? reader t = some e := by
  simp [fault?, needs, Need.fault?, hgenerated, hthere, hexisting]

theorem fault?_sync_there (hgenerated : t.textAt generated = .ok text)
    (hthere : t.seenAt (Path.ofString target).toString = .ok true)
    (hexisting : t.textAt (Path.ofString target).toString = .ok existing) :
    (sync generated (some target) mode dryRun).fault? reader t =
      Failure.of? (reader.renewed mode.name text existing) := by
  simp only [fault?, needs, Need.fault?, hthere, hgenerated, hexisting, Failure.of?_ok,
    List.findSome?_cons, List.findSome?_nil, FileTree.documentAt_of_textAt reader hgenerated,
    FileTree.documentAt_of_textAt reader hexisting, of?_renewed]
  cases reader.read text <;> cases reader.read existing <;> rfl

/-- What is written to the target is what brings it up to date. -/
theorem writes?_sync (hgenerated : t.textAt generated = .ok text) :
    (sync generated (some target) mode false).writes? reader t =
      (t.renewal? reader mode.name (Path.ofString target).toString text).map
        ((Path.ofString target).toString, ·) := by
  simp only [writes?, hgenerated, Except.toOption, Option.bind_eq_bind, Option.bind_some]
  cases t.renewal? reader mode.name (Path.ofString target).toString text <;> rfl

/-- A command whose target could not be brought up to date has met its needs and comes to a fault of a
file. -/
theorem comes_of_file_fault {fault : FileFault} (hgenerated : t.textAt generated = .ok text)
    (hfault : (sync generated (some target) mode dryRun).fault? reader t = none)
    (hnull : ¬ t.MeetsNull dryRun (Path.ofString target))
    (h : Syncs reader mode.name dryRun (Path.ofString target) text t (.error (.file fault)) t') :
    Comes reader (sync generated (some target) mode dryRun) t (.error (.file fault)) t' := by
  rcases h.error_leaves with hsame | ⟨-, renewed, rfl, hrenewal, hcut⟩
  · exact .unwritten hfault hnull hsame
  · exact .cutShort hfault hnull ((writes?_sync hgenerated).trans (by rw [hrenewal]; rfl)) hcut

/-- A command has met its needs if its target was brought up to date. -/
theorem fault?_sync_of_ok {action : Action} (hgenerated : t.textAt generated = .ok text)
    (h : Syncs reader mode.name dryRun (Path.ofString target) text t (.ok action) t') :
    (sync generated (some target) mode dryRun).fault? reader t = none := by
  rcases hseen : t.seenAt (Path.ofString target).toString with e | _ | _
  · cases (h.eq_of_unseen hseen).1
  · exact fault?_sync_new reader hgenerated hseen
  · obtain ⟨existing, renewed, hexisting, hrenew⟩ := h.there_ok hseen
    rw [fault?_sync_there hgenerated hseen hexisting, hrenew]
    rfl

/-- Bringing the target up to date with the text of the other file is all that the command does. -/
theorem comes_of_syncs (hgenerated : t.textAt generated = .ok text) {report : Action → Report}
    (hstatus : ∀ action, (report action).status = 0)
    (hsaid : dryRun = false → ∀ action, (report action).output = syncLine target action)
    (h : Syncs reader mode.name dryRun (Path.ofString target) text t r t') :
    Comes reader (sync generated (some target) mode dryRun) t (r.map report) t' := by
  cases r with
  | ok action =>
    have hfault := fault?_sync_of_ok hgenerated h
    rcases h.ok_leaves with ⟨hnothing, rfl⟩ | ⟨renewed, rfl, hrenewal, harrived⟩
    · refine .done hfault h.not_meetsNull ?_ (hstatus action)
      cases dryRun with
      | true => rfl
      | false => rw [writes?_sync hgenerated, hnothing.resolve_left Bool.false_ne_true]; rfl
    · exact .written hfault h.not_meetsNull
        ((writes?_sync hgenerated).trans (by rw [hrenewal]; rfl)) harrived (hstatus action)
        (.inr ⟨generated, target, mode, action, rfl, hsaid rfl action⟩)
  | error e =>
    rcases hseen : t.seenAt (Path.ofString target).toString with e' | _ | _
    · obtain ⟨⟨⟩, rfl⟩ := h.eq_of_unseen hseen
      exact .faulty (fault?_sync_unseen hgenerated hseen)
    · have hfault : (sync generated (some target) mode dryRun).fault? reader t = none :=
        fault?_sync_new reader hgenerated hseen
      rcases h.new_error_cases hseen with ⟨hnull, rfl⟩ | ⟨hnull, fault, rfl⟩
      · exact .null hfault hnull (h.sameFiles_of_not_file fun _ => nofun)
      · exact comes_of_file_fault hgenerated hfault hnull h
    · -- that texts can be read and are not refused is needed, that they can be written is not
      rcases h.there_error_cases hseen with
        ⟨hunreadable, rfl⟩ | ⟨existing, hexisting, ⟨hrefused, rfl⟩ | ⟨_, fault, hrenew, rfl⟩⟩
      · exact .faulty (fault?_sync_unreadable hgenerated hseen hunreadable)
      · exact .faulty (by rw [fault?_sync_there hgenerated hseen hexisting, hrefused]; rfl)
      · refine comes_of_file_fault hgenerated ?_ (FileTree.not_meetsNull_of_seen hseen) h
        rw [fault?_sync_there hgenerated hseen hexisting, hrenew]
        rfl

variable (mode dryRun) in
/-- The command does as bringing the target up to date does, and says what became of it. -/
theorem ends_runSync (hgenerated : t.textAt generated = .ok text)
    (h : Syncs reader mode.name dryRun (Path.ofString target) text t r t') :
    ∃ report : Action → Report, (∀ action, (report action).status = 0) ∧
      (dryRun = false → ∀ action, (report action).output = syncLine target action) ∧
      (runSync reader generated (some target) mode dryRun).Ends t (r.map report) t' := by
  have hread := ends_readText generated t
  have hrequired : (required (some target)).Ends t (.ok target) t := ends_pure target t
  rw [hgenerated] at hread
  refine ⟨fun action => done (target ++ ": " ++ action.name ++ "\n"
    ++ if dryRun then "\n[DRY RUN] No files were modified.\n" else ""), fun _ => rfl, ?_,
    hread.bind (hrequired.bind ?_)⟩
  · rintro rfl action
    simp [Command.done, syncLine]
  · cases r with
    | ok action => exact (ends_syncFile h).bind (ends_pure _ t')
    | error e => exact (ends_syncFile h).bind_error

end Sync

theorem runSync_comes (generated : String) (target : Option String) (mode : Mode) (dryRun : Bool) :
    RunsAs reader (runSync reader generated target mode dryRun)
      (.sync generated target mode dryRun) := by
  intro t
  have hread := ends_readText generated t
  cases hgenerated : t.textAt generated with
  | error e =>
    rw [hgenerated] at hread
    refine ⟨_, _, hread.bind_error, .faulty ?_⟩
    cases target <;> simp [fault?, needs, Need.fault?, hgenerated]
  | ok text =>
    rw [hgenerated] at hread
    cases target with
    | none =>
      exact ⟨_, _, hread.bind (ends_throw .noPath t).bind_error,
        .faulty (by simp [fault?, needs, Need.fault?, hgenerated])⟩
    | some target =>
      obtain ⟨r, t', hsyncs⟩ :=
        exists_syncs reader mode.name dryRun (Path.ofString target) text t
      obtain ⟨report, hstatus, hsaid, hends⟩ := ends_runSync mode dryRun hgenerated hsyncs
      exact ⟨_, t', hends, comes_of_syncs hgenerated hstatus hsaid hsyncs⟩

/-! ## All commands -/

theorem runWith_comes (reader : RegionReader) (c : Command) : RunsAs reader (c.runWith reader) c := by
  cases c with
  | reconcile mode current previous output => exact runReconcile_comes mode current previous output
  | regions file json => exact runRegions_comes file json
  | check files => exact runCheck_comes files
  | sync generated target mode dryRun => exact runSync_comes generated target mode dryRun
  | presets => exact fun t => ⟨_, t, ends_pure _ t, .done rfl id rfl rfl⟩

end Command

end KeptRegions
