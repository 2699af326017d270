import KeptRegions.Proofs.CommandLine.Commands

namespace KeptRegions

/-!
# Runs

Until a command has its reader nothing is written, and a command that fails for one of its needs has
changed no file. So what is lost when a run does not end well is the end of a text that was not all
stored, or what was to be printed when the text was (`intact_of_failure`).
-/

namespace Session

variable {α β : Type} {x : Session α} {f : α → Session β} {t t' : FileTree}
  {r : Except Failure α}

/-- The steps end with the tree that they start from. -/
def Leaves (x : Session α) (t : FileTree) : Prop :=
  ∃ r, x.Ends t r t

theorem leaves_pure (a : α) (t : FileTree) : (pure a : Session α).Leaves t :=
  ⟨_, ends_pure a t⟩

theorem leaves_lift {ε : Type} (wrap : ε → Failure) (e : Except ε α) (t : FileTree) :
    (lift wrap e).Leaves t :=
  ⟨_, ends_lift wrap e t⟩

theorem Leaves.bind (hx : x.Leaves t) (hf : ∀ a, (f a).Leaves t) : (x >>= f).Leaves t := by
  obtain ⟨r, hr⟩ := hx
  cases r with
  | ok a => exact (hf a).imp fun _ h => hr.bind h
  | error e => exact ⟨_, hr.bind_error⟩

/-- Of what they start from, the steps look at the tree only. -/
theorem leaves_get_bind {f : World → Session β}
    (htree : ∀ journal, f { tree := t, journal } = f { tree := t, journal := [] })
    (hf : (f { tree := t, journal := [] }).Leaves t) : (get >>= f : Session β).Leaves t := by
  obtain ⟨r, hr⟩ := hf
  exact ⟨r, ends_get_bind fun journal => htree journal ▸ hr⟩

theorem loadConfig_leaves (load : Loader) (path : String) (t : FileTree) :
    (loadConfig load path).Leaves t :=
  .bind ⟨_, ends_readBytes _ t⟩ fun _ => (leaves_lift _ _ t).bind fun _ => leaves_lift _ _ t

theorem resolve_leaves (env : Environment) (config preset : Option String) (t : FileTree) :
    (resolve env config preset).Leaves t := by
  unfold resolve
  dsimp only
  split
  · refine (leaves_pure _ t).bind fun path => ?_
    split
    · exact (loadConfig_leaves _ _ t).bind fun _ => leaves_lift _ _ t
    · exact (leaves_pure _ t).bind fun _ => leaves_lift _ _ t
  · refine leaves_get_bind (fun _ => rfl) ((leaves_lift _ _ t).bind fun path => ?_)
    split
    · exact (loadConfig_leaves _ _ t).bind fun _ => leaves_lift _ _ t
    · exact (leaves_pure _ t).bind fun _ => leaves_lift _ _ t

end Session

/-! ## How a run ends -/

/-- How a run ends whose command has come to a result. -/
def Ending.ofResult (printing : Printing) : Except Failure Report → Ending
  | .ok report => (report.print printing).1
  | .error failure => failure.report.1

/-- The status of a run that ends with one. -/
def Ending.status? : Ending → Option Nat
  | .status n => some n
  | .failed _ => none

/-- An environment that says nothing, and whose loader finds nothing in a file. -/
def Environment.silent : Environment :=
  { config := none, preset := none, homes := fun _ => none, load := fun _ => .ok .null }

variable {printing : Printing} {env : Environment} {tree tree' : FileTree}
  {arguments : List String} {i : Invocation} {r : Except Failure Report} {report : Report}

theorem Report.print_of_printed (h : report.output = "" ∨ printing report.output = none) :
    (report.print printing).1 = .status report.status := by
  unfold print
  rcases h with h | h <;> simp [h]

/-- What a failure says in place of a report is not part of how it ends. -/
theorem Failure.report_fst (failure : Failure) :
    failure.report.1 = if failure.isReported then .status 1 else .failed failure := by
  unfold report
  split <;> rfl

theorem runPrinting_of_ends (printing : Printing) (usage : UsageTexts)
    (harguments : Invocation.ofArguments arguments = .ok i)
    (hends : (i.run env).Ends tree r tree') :
    (runPrinting printing usage env tree arguments).ending = .ofResult printing r ∧
      (runPrinting printing usage env tree arguments).tree = tree' := by
  obtain ⟨journal, hrun⟩ := hends.exists_runOn
  unfold runPrinting
  rw [harguments]
  dsimp only
  rw [hrun]
  cases r <;> exact ⟨rfl, rfl⟩

/-! ## What a run leaves that fails -/

/-- Whether a command wrote to a file, and then what it has to say was not printed. -/
def Command.Unprinted (printing : Printing) (c : Command) : Prop :=
  ∃ generated target mode action, c = sync generated (some target) mode false ∧
    (printing (syncLine target action)).isSome

/-- Whether a command, with all its needs met, left a part of the text that it was to write, or all of
it and then could not say so. -/
def Command.LeavesWritten (printing : Printing) (reader : RegionReader) (t t' : FileTree)
    (c : Command) : Prop :=
  c.fault? reader t = none ∧ ∃ path text, c.writes? reader t = some (path, text) ∧
    (t.CutShort t' path text ∨ t.Arrived t' path text ∧ c.Unprinted printing)

/-- A command comes to a status other than zero or to a failure with all files as before, or with one
of them written. -/
theorem Command.Comes.leaves {reader : RegionReader} {c : Command}
    (h : c.Comes reader tree r tree') (hending : Ending.ofResult printing r ≠ .status 0) :
    tree.SameFiles tree' ∨ c.LeavesWritten printing reader tree tree' := by
  cases h with
  | faulty | done | checked => exact .inl (.refl tree)
  | unwritten _ _ hsame | null _ _ hsame => exact .inl hsame
  | cutShort hfault _ hwrites hcut => exact .inr ⟨hfault, _, _, hwrites, .inl hcut⟩
  | @written _ _ _ report _ _ hfault _ hwrites harrived hstatus hsaid =>
    refine .inr ⟨hfault, _, _, hwrites, .inr ⟨harrived, ?_⟩⟩
    -- the status is zero, so there was something to be printed, and it was not
    have hunprinted : ¬ (report.output = "" ∨ printing report.output = none) := fun hprinted =>
      hending ((report.print_of_printed hprinted).trans (congrArg Ending.status hstatus))
    obtain ⟨hnonempty, hprinting⟩ := not_or.1 hunprinted
    obtain ⟨generated, target, mode, action, rfl, houtput⟩ := hsaid.resolve_left hnonempty
    exact ⟨generated, target, mode, action, rfl, by
      rw [← houtput]
      exact Option.isSome_iff_ne_none.2 hprinting⟩

/-- Whatever an invocation ends with, unless it succeeds all files are as before, or its command left
something written. -/
theorem Invocation.exists_ends (printing : Printing) (env : Environment) (i : Invocation)
    (tree : FileTree) :
    ∃ r tree', (i.run env).Ends tree r tree' ∧
      (Ending.ofResult printing r ≠ .status 0 →
        tree.SameFiles tree' ∨ ∃ setup,
          (Session.resolve env i.config i.preset).Ends tree (.ok setup) tree ∧
            i.command.LeavesWritten printing setup.reader tree tree') := by
  -- whether or not a setup is found, nothing is written until then
  obtain ⟨setup?, hresolve⟩ := Session.resolve_leaves env i.config i.preset tree
  unfold Invocation.run
  split
  · exact ⟨_, tree, Session.ends_pure _ tree, fun _ => .inl (.refl tree)⟩
  · cases setup? with
    | error failure => exact ⟨_, tree, hresolve.bind_error, fun _ => .inl (.refl tree)⟩
    | ok setup =>
      obtain ⟨r, tree', hends, hcomes⟩ := i.command.runWith_comes setup.reader tree
      exact ⟨r, tree', hresolve.bind hends, fun hending =>
        (hcomes.leaves hending).imp_right fun hwritten => ⟨setup, hresolve, hwritten⟩⟩

/-- A run that does not end with the status zero leaves every file with its bytes, and makes none. The
exceptions are a command whose needs are met and whose text was not all stored in the file that was
opened for it, and one that has written its text and cannot say so. In either case no other file is
changed. Bringing a file up to date leaves every file with its bytes if it fails, the first of these
exceptions apart. -/
theorem intact_of_failure :
    (∀ printing usage env tree arguments,
      let run := runPrinting printing usage env tree arguments
      run.ending ≠ .status 0 →
        tree.SameFiles run.tree ∨
          ∃ i setup, Invocation.ofArguments arguments = .ok i ∧
            (Session.resolve env i.config i.preset).Ends tree (.ok setup) tree ∧
            i.command.LeavesWritten printing setup.reader tree run.tree) ∧
    ∀ reader mode dryRun target generated tree failure w,
      (Session.syncFile reader mode dryRun target generated).runOn tree = (.error failure, w) →
        tree.SameFiles w.tree ∨
          (∃ fault, failure = .file fault) ∧ ∃ text, dryRun = false ∧
            tree.renewal? reader mode (Path.ofString target).toString generated = some text ∧
            tree.CutShort w.tree (Path.ofString target).toString text := by
  constructor
  · intro printing usage env tree arguments run hending
    cases harguments : Invocation.ofArguments arguments with
    | error refusal =>
      left
      unfold run runPrinting
      rw [harguments]
      cases refusal <;> exact .refl tree
    | ok i =>
      obtain ⟨r, tree', hends, hleaves⟩ := i.exists_ends printing env tree
      obtain ⟨hending', htree⟩ := runPrinting_of_ends printing usage harguments hends
      rw [show run.ending = _ from hending'] at hending
      rw [show run.tree = _ from htree]
      exact (hleaves hending).imp_right fun ⟨setup, hwritten⟩ => ⟨i, setup, rfl, hwritten⟩
  · intro reader mode dryRun target generated tree failure w hrun
    obtain ⟨r, tree', hsyncs⟩ :=
      exists_syncs reader mode dryRun (Path.ofString target) generated tree
    obtain ⟨rfl, rfl⟩ := (Session.ends_syncFile hsyncs).eq_of_runOn hrun
    exact hsyncs.error_leaves

/-- A merge into one of its own inputs leaves it as it is if a comment of the other is left open, and
bringing a directory up to date changes nothing. -/
theorem intact_of_failing_merge :
    let tree : FileTree :=
      { cwd := []
        entries := [(["a"], .file "x".toUTF8), (["b"], .file "/*".toUTF8), (["d"], .directory)] }
    let merge :=
      runPrinting (fun _ => none) { help := "", misuse := "" } .silent tree
        ["--preset", "java", "merge", "a", "b", "-o", "a"]
    let sync := Session.syncFile (.slashes .flat false) "merge" false "d" "x".toList
    (merge.ending.status? = some 1 ∧ tree.SameFiles merge.tree) ∧
      ∃ failure w, sync.runOn tree = (.error failure, w) ∧ tree.SameFiles w.tree := by
  intro tree merge sync
  have hone : merge.ending.status? = some 1 := by decide +kernel
  have hnull : hasNull (Path.ofString "d").toString = false := by decide +kernel
  have hread : tree.read (Path.ofString "d").toString = .error (.of .isDirectory "d") := by
    decide +kernel
  have hfailed : sync.Ends tree (.error (.file (.of .isDirectory "d"))) tree :=
    Session.ends_syncFile (.unreadable
      (tree.seenAt_of_locate hnull (show tree.locate _ = .ok ["d"] by decide +kernel))
      (tree.textAt_of_read_error hnull hread))
  obtain ⟨journal, hsync⟩ := hfailed.exists_runOn
  have hstored : tree.StoresAll := fun _ _ _ => rfl
  refine ⟨⟨hone, ?_⟩, _, _, hsync, ?_⟩
  · refine (intact_of_failure.1 (fun _ => none) { help := "", misuse := "" } .silent tree
      ["--preset", "java", "merge", "a", "b", "-o", "a"] fun hzero => ?_).resolve_right ?_
    · rw [show merge.ending = .status 0 from hzero] at hone
      cases hone
    · rintro ⟨_, _, -, -, -, _, _, -, hcut | ⟨-, _, _, _, _, -, hprinting⟩⟩
      · exact hstored.not_cutShort hcut
      · cases hprinting
  · refine (intact_of_failure.2 _ _ _ _ _ _ _ _ hsync).resolve_right ?_
    rintro ⟨-, _, -, -, hcut⟩
    exact hstored.not_cutShort hcut

/-- On a device that is full a target that could be opened is emptied, and the run ends with the status
one. So it is if the file is brought up to date by itself. -/
theorem not_intact_on_full_device :
    (¬ ∀ usage env tree arguments, (runCommandLine usage env tree arguments).ending ≠ .status 0 →
        tree.SameFiles (runCommandLine usage env tree arguments).tree) ∧
      ¬ ∀ reader mode dryRun target generated tree failure w,
        (Session.syncFile reader mode dryRun target generated).runOn tree = (.error failure, w) →
          tree.SameFiles w.tree := by
  let full : FileFault.Cause := { number := 28, wording := "No space left on device" }
  let tree : FileTree :=
    { cwd := [], entries := [(["g"], .file "y".toUTF8), (["t"], .file "x".toUTF8)]
      refusals := { store := fun _ _ _ => some (0, full) } }
  -- the target does not hold what it held
  have hlost : ∀ t', FileTree.entry? t' ["t"] = some (.file .empty) → ¬ tree.SameFiles t' := by
    intro t' hempty hsame
    have hheld := (hsame ["t"] "x".toUTF8).1 rfl
    rw [hempty] at hheld
    revert hheld
    decide +kernel
  constructor
  · intro h
    let run := runCommandLine { help := "", misuse := "" } .silent tree
      ["--preset", "java", "sync", "g", "t"]
    have hone : run.ending.status? = some 1 := by decide +kernel
    refine hlost run.tree (by decide +kernel) (h _ _ _ _ fun hzero => ?_)
    rw [show run.ending = .status 0 from hzero] at hone
    cases hone
  · intro h
    let sync := (Session.syncFile (.slashes .flat false) "merge" false "t" "y".toList).runOn tree
    have hfailed : sync.1.toOption = none := by decide +kernel
    cases hresult : sync.1 with
    | ok action =>
      rw [hresult] at hfailed
      cases hfailed
    | error failure =>
      exact hlost sync.2.tree (by decide +kernel)
        (h _ _ _ _ _ _ failure sync.2 (Prod.ext hresult rfl))

end KeptRegions
