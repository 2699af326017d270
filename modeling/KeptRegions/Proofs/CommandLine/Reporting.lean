import KeptRegions.Proofs.CommandLine.Runs
import KeptRegions.Proofs.Document.Splicing

namespace KeptRegions

/-!
# What is reported

With a preset and without a configuration file a command has its reader at once, and all that can go
wrong is in the files. What the command does not report is a path that was left out or that no file
can have, and bytes that are no text, unless `check` is asked about them (`ends_with_preset`).
-/

/-! ## Setups of presets -/

theorem entry?_withEntry_nil (key name value : String) :
    Value.entry? key (Session.withEntry name value []) =
      if name = key then some (.text value.toList) else none := by
  simp only [Session.withEntry, Value.setEntry, Value.entry?, List.find?_cons, List.find?_nil,
    Value.sameKey, Value.toRatio?, String.toList_inj]
  split <;> simp_all

section Preset

variable {name : String} {p : Preset} {setup : Setup} {env : Environment} {t : FileTree}
  {config : Option String}

theorem Preset.ne_empty_of_find? (hfind : Preset.find? name = some p) : name ≠ "" := by
  rintro rfl
  revert hfind
  decide +revert

/-- Entries that only name a preset describe its setup. -/
theorem Setup.ofConfig_preset (hfind : Preset.find? name = some p) :
    Setup.ofConfig (Session.withEntry "preset" name []) =
      Setup.checked .style (Builder.ofPreset p).build := by
  have hpreset : Setup.presetOf (.text name.toList) = .ok p := by
    simp [Setup.presetOf, Setup.preset, Text.toStr, hfind]
  have hholds : (Value.text name.toList).holds = true := by
    simp [Value.holds, Preset.ne_empty_of_find? hfind]
  have hentry := fun key => entry?_withEntry_nil key "preset" name
  -- from here on the entries are only asked for what is under a key
  generalize Session.withEntry "preset" name [] = entries at hentry ⊢
  simp only [Setup.ofConfig, hentry, Setup.commentsOf, Setup.setInverse, Setup.setNesting,
    Setup.setMarkers, String.reduceEq, if_true, if_false, Option.getD, hholds, hpreset]
  rfl

theorem Session.ends_resolve_preset (hfind : Preset.find? name = some p)
    (hbuild : (Builder.ofPreset p).build = .ok setup) (hconfig : config.filter (· ≠ "") = none)
    (henv : env.config.filter (· ≠ "") = none) (hlocal : t.hasFile Environment.localName = .ok false) :
    (resolve env config (some name)).Ends t (.ok setup) t := by
  have hdefault : env.defaultConfig t = .ok none := by
    unfold Environment.defaultConfig
    rw [henv]
    simp [hlocal]
  have hname : (some name).filter (· ≠ "") = some name := by
    simp [Preset.ne_empty_of_find? hfind]
  have hsetup : Setup.ofConfig (withEntry "preset" name []) = .ok setup := by
    rw [Setup.ofConfig_preset hfind, hbuild]
    rfl
  have hpath : (lift id (env.defaultConfig t)).Ends t (.ok none) t := by
    rw [hdefault]
    exact ends_pure none t
  have hdone : (lift Failure.setup (Setup.ofConfig (withEntry "preset" name []))).Ends t
      (.ok setup) t := by
    rw [hsetup]
    exact ends_pure setup t
  unfold resolve
  rw [hconfig, hname]
  exact ends_get_bind fun _ => Ends.bind hpath ((ends_pure [] t).bind hdone)

end Preset

/-! ## Faults that are not reported -/

section Faults

variable {reader : RegionReader} {t : FileTree} {path : String}

/-- A need that cannot be met for a reason that is not reported: its path was left out, or there is
nothing but garbage at it. -/
def Need.Crashes (t : FileTree) : Need → Prop
  | text path => ∀ given, path = some given → t.Garbles given
  | document path => ∀ given, path = some given → t.Garbles given
  | presence _ => False

/-- A command whose first need that cannot be met is one for a reason that is not reported. -/
def Command.Crashes (reader : RegionReader) (t : FileTree) (c : Command) : Prop :=
  ∃ before need after, c.needs t = before ++ need :: after ∧
    (∀ n ∈ before, n.fault? reader t = none) ∧ need.Crashes t

theorem unreported_textAt :
    (∃ e, t.textAt path = .error e ∧ e.isReported = false) ↔ t.Garbles path := by
  cases htext : t.textAt path with
  | ok text => simp [FileTree.not_garbles_of_textAt htext]
  | error e =>
    rcases FileTree.textAt_error_cases htext with ⟨hgarbles, rfl | ⟨fault, rfl⟩⟩ |
      ⟨hgarbles, fault, rfl⟩ <;>
      simp [hgarbles, Failure.isReported]

/-- A text that is no document is reported, so nothing but texts can go unreported. -/
theorem unreported_documentAt :
    (∃ e, t.documentAt reader path = .error e ∧ e.isReported = false) ↔ t.Garbles path := by
  rw [← unreported_textAt]
  cases htext : t.textAt path with
  | error e => simp [t.documentAt_of_textAt_error reader htext]
  | ok text =>
    rw [t.documentAt_of_textAt reader htext]
    cases reader.read text <;> simp [Except.mapError, Failure.isReported]

theorem of?_eq_some_iff {α : Type} {x : Except Failure α} {e : Failure} :
    Failure.of? x = some e ↔ x = .error e := by
  cases x <;> simp

theorem Need.unreported_fault? (n : Need) :
    (∃ e, n.fault? reader t = some e ∧ e.isReported = false) ↔ n.Crashes t := by
  rcases n with ⟨_ | path⟩ | ⟨_ | path⟩ | path
  · simp [fault?, Crashes, Failure.isReported]
  · simp [fault?, Crashes, of?_eq_some_iff, unreported_textAt]
  · simp [fault?, Crashes, Failure.isReported]
  · simp [fault?, Crashes, of?_eq_some_iff, unreported_documentAt]
  · simp only [fault?, Crashes, of?_eq_some_iff, FileTree.seenAt_eq_error, iff_false]
    rintro ⟨_, ⟨cause, -, rfl⟩, hunreported⟩
    cases hunreported

theorem Command.unreported_fault? (c : Command) :
    (∃ e, c.fault? reader t = some e ∧ e.isReported = false) ↔ c.Crashes reader t := by
  unfold Command.fault? Command.Crashes
  simp only [List.findSome?_eq_some_iff]
  constructor
  · rintro ⟨e, ⟨before, need, after, hneeds, hfault, hbefore⟩, hunreported⟩
    exact ⟨before, need, after, hneeds, hbefore, need.unreported_fault?.1 ⟨e, hfault, hunreported⟩⟩
  · rintro ⟨before, need, after, hneeds, hbefore, hcrashes⟩
    obtain ⟨e, hfault, hunreported⟩ := need.unreported_fault?.2 hcrashes
    exact ⟨e, ⟨before, need, after, hneeds, hfault, hbefore⟩, hunreported⟩

end Faults

/-! ## Endings -/

section Endings

variable {reader : RegionReader} {t t' : FileTree} {c : Command} {r : Except Failure Report}

theorem Ending.ofResult_ok (report : Report) :
    ofResult (fun _ => none) (.ok report) = .status report.status :=
  report.print_of_printed (.inr rfl)

theorem Ending.ofResult_error (printing : Printing) (e : Failure) :
    ofResult printing (.error e) = if e.isReported then .status 1 else .failed e :=
  e.report_fst

/-- A command reports what it comes to, unless it crashes or comes to write to a path that no file can
have. -/
theorem Command.Comes.reported_iff (h : c.Comes reader t r t') :
    (Ending.ofResult (fun _ => none) r = .status 0 ∨ Ending.ofResult (fun _ => none) r = .status 1) ↔
      ¬ (c.Crashes reader t ∨ c.fault? reader t = none ∧ c.MeetsNull t) := by
  rw [← Command.unreported_fault?]
  cases h with
  | @faulty _ _ e hfault =>
    rw [Ending.ofResult_error]
    cases hreported : e.isReported <;> simp [hfault, hreported]
  | done hfault hnull _ hstatus | written hfault hnull _ _ hstatus =>
    simp [Ending.ofResult_ok, hfault, hnull, hstatus]
  | unwritten hfault hnull | cutShort hfault hnull =>
    simp [Ending.ofResult_error, Failure.isReported, hfault, hnull]
  | null hfault hnull => simp [Ending.ofResult_error, Failure.isReported, hfault, hnull]
  | @checked files _ report hstatus =>
    have hfault : (Command.check files).fault? reader t = none := rfl
    refine iff_of_true ?_ (by simp [hfault, Command.MeetsNull])
    rw [Ending.ofResult_ok, hstatus]
    split
    · exact .inl rfl
    · exact .inr rfl

/-- A fault that is reported ends a command with the status one. -/
theorem Command.Comes.status_one (h : c.Comes reader t r t') (hfault : c.fault? reader t ≠ none)
    (hcrashes : ¬ c.Crashes reader t) : Ending.ofResult (fun _ => none) r = .status 1 := by
  cases h with
  | @faulty _ _ e hfault =>
    rw [Ending.ofResult_error, if_pos]
    by_contra hunreported
    exact hcrashes (c.unreported_fault?.1 ⟨e, hfault, by simpa using hunreported⟩)
  | done hnone | written hnone | unwritten hnone | cutShort hnone | null hnone =>
    exact absurd hnone hfault
  | checked => exact absurd rfl hfault

end Endings

/-- With a preset and without a configuration file, a run ends with the status zero or one, unless the
first thing that goes wrong is that a path was left out, that no file can have a path, or that a file
is no text. Whatever else goes wrong first ends it with the status one, and checking files always
ends with a status, with one if a file is no document. -/
theorem ends_with_preset (usage : UsageTexts) {env : Environment} {tree : FileTree}
    {arguments : List String} {i : Invocation} {name : String} {p : Preset}
    (harguments : Invocation.ofArguments arguments = .ok i) (hpreset : i.preset = some name)
    (hfind : Preset.find? name = some p) (hconfig : i.config.filter (· ≠ "") = none)
    (henv : env.config.filter (· ≠ "") = none)
    (hlocal : tree.hasFile Environment.localName = .ok false) (hcommand : i.command ≠ .presets) :
    ∃ setup, (Builder.ofPreset p).build = .ok setup ∧
      let ending := (runCommandLine usage env tree arguments).ending
      ((ending = .status 0 ∨ ending = .status 1) ↔
        ¬ (i.command.Crashes setup.reader tree ∨
          i.command.fault? setup.reader tree = none ∧ i.command.MeetsNull tree)) ∧
      (i.command.fault? setup.reader tree ≠ none → ¬ i.command.Crashes setup.reader tree →
        ending = .status 1) ∧
      ∀ files, i.command = .check files → ending =
        .status (if files.all fun path => (tree.documentAt setup.reader path).isOk then 0 else 1) := by
  obtain ⟨setup, hbuild, -⟩ := Preset.exists_uniform (List.mem_of_find?_eq_some hfind)
  have hresolve := Session.ends_resolve_preset hfind hbuild hconfig henv hlocal
  -- once it has its setup, the run ends as its command does
  have hrun : ∀ r tree', (i.command.runWith setup.reader).Ends tree r tree' →
      (runCommandLine usage env tree arguments).ending = .ofResult (fun _ => none) r := by
    intro r tree' hends
    have hinvocation : (i.run env).Ends tree r tree' := by
      unfold Invocation.run
      split
      · exact absurd ‹_› hcommand
      · rw [hpreset]
        exact hresolve.bind hends
    exact (runPrinting_of_ends _ usage harguments hinvocation).1
  obtain ⟨r, tree', hends, hcomes⟩ := i.command.runWith_comes setup.reader tree
  refine ⟨setup, hbuild, ?_, ?_, ?_⟩
  · rw [hrun _ _ hends]
    exact hcomes.reported_iff
  · rw [hrun _ _ hends]
    exact hcomes.status_one
  · intro files hfiles
    obtain ⟨report, hchecked, hstatus⟩ := Command.exists_runCheck_ends setup.reader files tree
    rw [hrun (.ok report) tree (by rw [hfiles]; exact hchecked), ← hstatus]
    exact Ending.ofResult_ok report

/-- A file that is not there is reported. -/
theorem missing_file_reported :
    let tree : FileTree := { cwd := [], entries := [] }
    let i : Invocation :=
      { preset := some "java", config := none, verbose := false, command := .regions "a" false }
    Invocation.ofArguments ["--preset", "java", "regions", "a"] = .ok i ∧
      (runCommandLine { help := "", misuse := "" } .silent tree
        ["--preset", "java", "regions", "a"]).ending = .status 1 := by
  intro tree i
  have harguments : Invocation.ofArguments ["--preset", "java", "regions", "a"] = .ok i := by
    decide +kernel
  have hlocal : tree.hasFile Environment.localName = .ok false := by decide +kernel
  have hfind : Preset.find? "java" = some (.slashes "java" .flat) := by decide
  obtain ⟨setup, -, -, hone, -⟩ :=
    ends_with_preset { help := "", misuse := "" } harguments rfl hfind rfl
      (show Environment.silent.config.filter (· ≠ "") = none from rfl) hlocal (by decide)
  have hread : tree.read "a" = .error (.of .notFound "a") := by decide +kernel
  have hfault : i.command.fault? setup.reader tree =
      some (.file (.of .notFound "a")) := by
    simp [i, Command.fault?, Command.needs, Need.fault?, tree.documentAt_of_textAt_error setup.reader
      (tree.textAt_of_read_error (by decide) hread)]
  refine ⟨harguments, hone (by simp [hfault]) ?_⟩
  rw [← Command.unreported_fault?, hfault]
  rintro ⟨e, ⟨⟩, hunreported⟩
  cases hunreported

/-- A file that is no text is not reported, except by `check`. -/
theorem undecodable_file_not_reported :
    ¬ ∀ (usage : UsageTexts) (env : Environment) (tree : FileTree) (arguments : List String)
      (i : Invocation) (name : String) (p : Preset),
      Invocation.ofArguments arguments = .ok i → i.preset = some name →
      Preset.find? name = some p → i.config = none → env.config = none →
      tree.hasFile Environment.localName = .ok false → i.command ≠ .presets →
      (runCommandLine usage env tree arguments).ending = .status 0 ∨
        (runCommandLine usage env tree arguments).ending = .status 1 := by
  intro h
  let tree : FileTree := { cwd := [], entries := [(["a"], .file ⟨#[0xff]⟩)] }
  let i : Invocation :=
    { preset := some "java", config := none, verbose := false, command := .regions "a" false }
  have hending := h { help := "", misuse := "" } .silent tree ["--preset", "java", "regions", "a"] i
    "java" (.slashes "java" .flat) (by decide +kernel) rfl (by decide) rfl rfl (by decide +kernel)
    (by decide)
  have hfailed : (runCommandLine { help := "", misuse := "" } .silent tree
      ["--preset", "java", "regions", "a"]).ending.status? = none := by
    decide +kernel
  rcases hending with hzero | hone
  · rw [hzero] at hfailed
    cases hfailed
  · rw [hone] at hfailed
    cases hfailed

end KeptRegions
