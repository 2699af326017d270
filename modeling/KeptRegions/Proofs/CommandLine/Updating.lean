import KeptRegions.Proofs.CommandLine.Reporting
import KeptRegions.Proofs.CommandLine.Words
import KeptRegions.Proofs.Files.Paths

namespace KeptRegions

/-!
# Two ways to update a file

A file is updated with a generated one by reconciling both into it, or by bringing it up to date. The
first reads one document after the other and writes in any case, the second reads both texts first,
writes what has changed and says so. For a target that is there they come to the same if what has not
changed can be written again and what is said can be printed (`updating_paths_agree`).
-/

namespace Command

open Session

variable {reader : RegionReader} {t t' : FileTree} {c : Command} {r : Except Failure Report}
  {generated target : String} {text existing : Text}

/-- A command with a need that cannot be met ends with that fault and leaves the tree. -/
theorem Comes.eq_of_fault {e : Failure} (h : c.Comes reader t r t')
    (hfault : c.fault? reader t = some e) : r = .error e ∧ t' = t := by
  cases h with
  | faulty hfault' =>
    rw [hfault] at hfault'
    cases hfault'
    exact ⟨rfl, rfl⟩
  | done hnone | written hnone | unwritten hnone | cutShort hnone | null hnone =>
    rw [hfault] at hnone
    cases hnone
  | checked => cases hfault

/-- Both ways of updating a file need that both texts are documents. -/
theorem fault?_reconcile_eq_sync (mode : Mode) (hgenerated : t.textAt generated = .ok text)
    (htarget : t.textAt target = .ok existing) :
    (reconcile mode generated (some target) (some target)).fault? reader t =
        Failure.of? (reader.renewed mode.name text existing) ∧
      (sync generated (some target) mode false).fault? reader t =
        Failure.of? (reader.renewed mode.name text existing) := by
  refine ⟨?_, fault?_sync_there hgenerated
    (FileTree.seenAt_of_textAt (FileTree.textAt_ofString htarget)) (FileTree.textAt_ofString htarget)⟩
  rw [of?_renewed]
  simp only [fault?, needs, Need.fault?, List.findSome?_cons, List.findSome?_nil,
    FileTree.documentAt_of_textAt reader hgenerated, FileTree.documentAt_of_textAt reader htarget]
  cases reader.read text <;> cases reader.read existing <;> rfl

/-- What is renewed comes from two documents. -/
theorem documents_of_renewed {mode : Mode} {renewed : Text}
    (h : reader.renewed mode.name text existing = .ok renewed) :
    ∃ current previous, reader.read text = .ok current ∧ reader.read existing = .ok previous ∧
      renewed = (current.reconciled previous mode.keeps).content := by
  unfold RegionReader.renewed at h
  rw [ofName?_name] at h
  cases hcurrent : reader.read text with
  | error fault =>
    rw [hcurrent] at h
    cases h
  | ok current =>
    cases hprevious : reader.read existing with
    | error fault =>
      rw [hcurrent, hprevious] at h
      cases h
    | ok previous =>
      rw [hcurrent, hprevious] at h
      cases h
      exact ⟨current, previous, rfl, rfl, rfl⟩

/-- With both texts readable, both ways of updating a file leave the same at every location, and they
end alike if all is printed. A text that is as before has to be one that can be written again. -/
theorem exists_ends_alike (printing : Printing) (reader : RegionReader) (mode : Mode)
    (hgenerated : t.textAt generated = .ok text) (htarget : t.textAt target = .ok existing)
    (hrewrites : reader.renewed mode.name text existing = .ok existing →
      (t.written target existing).1 = .ok ()) :
    ∃ r r' t₁ t₂, (runReconcile reader mode generated (some target) (some target)).Ends t r t₁ ∧
      (runSync reader generated (some target) mode false).Ends t r' t₂ ∧
      (∀ l, t₁.entry? l = t₂.entry? l) ∧
      ((∀ action, printing (syncLine target action) = none) →
        Ending.ofResult printing r = Ending.ofResult printing r') := by
  obtain ⟨hfault, hfault'⟩ := fault?_reconcile_eq_sync mode hgenerated htarget
  cases hrenew : reader.renewed mode.name text existing with
  | error e =>
    rw [hrenew] at hfault hfault'
    -- a text that is refused is a need of both commands that cannot be met
    have hreconcile : RunsAs reader _ (reconcile mode generated (some target) (some target)) :=
      runReconcile_comes mode generated (some target) (some target)
    have hsync : RunsAs reader _ (sync generated (some target) mode false) :=
      runSync_comes generated (some target) mode false
    obtain ⟨r, t₁, hends, hcomes⟩ := hreconcile t
    obtain ⟨r', t₂, hends', hcomes'⟩ := hsync t
    obtain ⟨rfl, rfl⟩ := hcomes.eq_of_fault hfault
    obtain ⟨rfl, rfl⟩ := hcomes'.eq_of_fault hfault'
    exact ⟨_, _, _, _, hends, hends', fun _ => rfl, fun _ => rfl⟩
  | ok renewed =>
    obtain ⟨current, previous, hcurrent, hprevious, rfl⟩ := documents_of_renewed hrenew
    have htarget' := FileTree.textAt_ofString htarget
    have hthere := FileTree.seenAt_of_textAt htarget'
    have houtput : (some target).filter (· ≠ "") = some target := by
      simp [FileTree.ne_empty_of_textAt htarget]
    have hc := (t.documentAt_of_textAt reader hgenerated).trans (by rw [hcurrent])
    have hp := (t.documentAt_of_textAt reader htarget).trans (by rw [hprevious])
    -- a report is printed, be it empty or what is said of the target
    have hprinted : ∀ report : Action → Report, (∀ action, (report action).status = 0) →
        (false = false → ∀ action, (report action).output = syncLine target action) →
        ∀ action, (∀ action, printing (syncLine target action) = none) →
          Ending.ofResult printing (.ok (done "")) =
            Ending.ofResult printing (.ok (report action)) := by
      intro report hstatus hsaid action hprinting
      have hline : printing (report action).output = none := by
        rw [hsaid rfl]
        exact hprinting action
      calc Ending.ofResult printing (.ok (done ""))
        _ = .status 0 := Report.print_of_printed (.inl rfl)
        _ = .status (report action).status := by rw [hstatus]
        _ = Ending.ofResult printing (.ok (report action)) :=
          (Report.print_of_printed (.inr hline)).symm
    by_cases hsame : (current.reconciled previous mode.keeps).content = existing
    · -- nothing has changed, and the same bytes are written again
      rw [hsame] at hrenew
      obtain ⟨t', hwrite⟩ : ∃ t', t.written target existing = (.ok (), t') :=
        ⟨_, Prod.ext (hrewrites hrenew) rfl⟩
      have hends := ends_runReconcile_writing mode houtput hc hp (ends_writeText (hsame ▸ hwrite))
      obtain ⟨report, hstatus, hsaid, hends'⟩ := ends_runSync mode false hgenerated
        (.unchanged hthere htarget' hrenew)
      exact ⟨_, _, _, _, hends, hends', FileTree.entry?_of_rewritten htarget hwrite,
        hprinted report hstatus hsaid _⟩
    · obtain ⟨t', ⟨hwrite, hwrite'⟩ | ⟨fault, fault', hwrite, hwrite'⟩⟩ :=
        FileTree.written_ofString_cases htarget (current.reconciled previous mode.keeps).content
      · have hends := ends_runReconcile_writing mode houtput hc hp (ends_writeText hwrite)
        obtain ⟨report, hstatus, hsaid, hends'⟩ := ends_runSync mode false hgenerated
          (.updated hthere htarget' hrenew hsame rfl hwrite')
        exact ⟨_, _, _, _, hends, hends', fun _ => rfl, hprinted report hstatus hsaid _⟩
      · have hends := ends_runReconcile_writing mode houtput hc hp (ends_writeText hwrite)
        obtain ⟨report, -, -, hends'⟩ := ends_runSync mode false hgenerated
          (.unwritten hthere htarget' hrenew hsame rfl hwrite')
        exact ⟨_, _, _, _, hends, hends', fun _ => rfl, fun _ => rfl⟩

end Command

open Invocation in
/-- Reconciling two files into the second and bringing the second up to date with the first leave the
same bytes in every file, and they end alike if what the second way has to say is printed. The options
in front are the same, the files are texts, and their names are taken for paths by both commands. If
the target stays as it is, it has to be one that can be written. -/
theorem updating_paths_agree (printing : Printing) (usage : UsageTexts) (env : Environment)
    (tree : FileTree) (mode : Mode) {options : List String} {w : Words} {generated target : String}
    {text existing : Text} (hoptions : grammar.ReadsOptions options w)
    (hpaths : ∀ name ∈ [mode.name, "sync"], ∀ path ∈ [generated, target], TakesAsPath name path)
    (hgenerated : tree.textAt generated = .ok text) (htarget : tree.textAt target = .ok existing)
    (hrewrites : ∀ setup,
      (Session.resolve env (w.value? "config") (w.value? "preset")).Ends tree (.ok setup) tree →
      setup.reader.renewed mode.name text existing = .ok existing →
        (tree.written target existing).1 = .ok ()) :
    let reconciled :=
      runPrinting printing usage env tree (options ++ mode.reconcilingWords generated target)
    let synced := runPrinting printing usage env tree (options ++ mode.syncingWords generated target)
    (∀ l, reconciled.tree.entry? l = synced.tree.entry? l) ∧
      ((∀ action, printing (Command.syncLine target action) = none) →
        reconciled.ending = synced.ending) := by
  intro reconciled synced
  have hreconcile := ofArguments_reconcilingWords mode hoptions
    (hpaths mode.name (by simp) generated (by simp)) (hpaths mode.name (by simp) target (by simp))
  have hsync := ofArguments_syncingWords mode hoptions
    (hpaths "sync" (by simp) generated (by simp)) (hpaths "sync" (by simp) target (by simp))
  -- the options are the same, so both runs get the same setup, or none
  obtain ⟨setup?, hresolve⟩ :=
    Session.resolve_leaves env (w.value? "config") (w.value? "preset") tree
  obtain ⟨r, r', t₁, t₂, hends, hends', hentries, hending⟩ :
      ∃ r r' t₁ t₂, (Invocation.run env (withOptions w (.reconcile mode generated (some target)
          (some target)))).Ends tree r t₁ ∧
        (Invocation.run env (withOptions w (.sync generated (some target) mode false))).Ends tree
          r' t₂ ∧
        (∀ l, t₁.entry? l = t₂.entry? l) ∧
        ((∀ action, printing (Command.syncLine target action) = none) →
          Ending.ofResult printing r = Ending.ofResult printing r') := by
    cases setup? with
    | error failure =>
      exact ⟨_, _, _, _, hresolve.bind_error, hresolve.bind_error, fun _ => rfl, fun _ => rfl⟩
    | ok setup =>
      obtain ⟨r, r', t₁, t₂, hends, hends', halike⟩ := Command.exists_ends_alike printing setup.reader
        mode hgenerated htarget (hrewrites setup hresolve)
      exact ⟨r, r', t₁, t₂, hresolve.bind hends, hresolve.bind hends', halike⟩
  obtain ⟨hending₁, htree₁⟩ := runPrinting_of_ends printing usage hreconcile hends
  obtain ⟨hending₂, htree₂⟩ := runPrinting_of_ends printing usage hsync hends'
  refine ⟨fun l => ?_, fun hprinting => hending₁.trans ((hending hprinting).trans hending₂.symm)⟩
  rw [show reconciled.tree = t₁ from htree₁, show synced.tree = t₂ from htree₂]
  exact hentries l

/-- A file is updated with one that differs from it. -/
theorem updating_paths_agree_after_preset :
    let tree : FileTree := { cwd := [], entries := [(["g"], .file "x".toUTF8),
      (["t"], .file "y".toUTF8)] }
    let options := ["--preset", "java"]
    let w : Words := { switches := [("preset", some "java")], operands := [], strays := false }
    let reconciled := runPrinting (fun _ => none) { help := "", misuse := "" } .silent tree
      (options ++ Mode.fillIn.reconcilingWords "g" "t")
    let synced := runPrinting (fun _ => none) { help := "", misuse := "" } .silent tree
      (options ++ Mode.fillIn.syncingWords "g" "t")
    (Invocation.grammar.ReadsOptions options w ∧
      (∀ name ∈ [Mode.fillIn.name, "sync"], ∀ path ∈ ["g", "t"],
        Invocation.TakesAsPath name path) ∧
      tree.textAt "g" = .ok "x".toList ∧ tree.textAt "t" = .ok "y".toList ∧
      (tree.written "t" "y".toList).1 = .ok ()) ∧
      reconciled.ending = synced.ending ∧
      (∀ l, reconciled.tree.entry? l = synced.tree.entry? l) ∧
      synced.tree.entry? ["t"] = some (.file "x".toUTF8) := by
  intro tree options w reconciled synced
  have hoptions : Invocation.grammar.ReadsOptions options w :=
    ⟨by decide +kernel, rfl, rfl⟩
  have hpaths : ∀ name ∈ [Mode.fillIn.name, "sync"], ∀ path ∈ ["g", "t"],
      Invocation.TakesAsPath name path := by
    intro name _ path hpath
    exact Invocation.takesAsPath_of_no_hyphen name (by revert hpath; revert path; decide)
  have hgenerated : tree.textAt "g" = .ok "x".toList :=
    FileTree.textAt_of_encoded rfl (by decide +kernel)
  have htarget : tree.textAt "t" = .ok "y".toList :=
    FileTree.textAt_of_encoded rfl (by decide +kernel)
  have hrewrites : (tree.written "t" "y".toList).1 = .ok () := by
    have hwrite : (tree.write "t" (Utf8.encode "y".toList)).2 = none := by decide +kernel
    exact congrArg Prod.fst (FileTree.changed_eq_ok.2 ⟨rfl, Prod.ext rfl hwrite⟩)
  obtain ⟨hentries, hending⟩ := updating_paths_agree (fun _ => none) { help := "", misuse := "" }
    .silent tree .fillIn hoptions hpaths hgenerated htarget fun _ _ _ => hrewrites
  exact ⟨⟨hoptions, hpaths, hgenerated, htarget, hrewrites⟩, hending fun _ => rfl, hentries,
    by decide +kernel⟩

/-- The two ways differ for a target whose name starts as the option for the output does, and has a
blank in it, since it is a path to one of the commands only. They also differ if the target stays as it
is and the system does not let it be written, since only one of them tries, and if what the other one
has to say is not printed. -/
theorem updating_paths_differ :
    let texts : UsageTexts := { help := "", misuse := "" }
    let reconciling := ["--preset", "java"] ++ Mode.merge.reconcilingWords "g" "t"
    let syncing := ["--preset", "java"] ++ Mode.merge.syncingWords "g" "t"
    (¬ ∀ (usage : UsageTexts) (env : Environment) (tree : FileTree) (mode : Mode)
      (options : List String) (w : Words) (setup : Setup) (generated target : String)
      (text existing : Text),
      Invocation.grammar.ReadsOptions options w →
      (Session.resolve env (w.value? "config") (w.value? "preset")).Ends tree (.ok setup) tree →
      generated.endsWith "/" = false → target.endsWith "/" = false →
      tree.textAt generated = .ok text → tree.textAt target = .ok existing →
      let reconciled :=
        runCommandLine usage env tree (options ++ mode.reconcilingWords generated target)
      let synced := runCommandLine usage env tree (options ++ mode.syncingWords generated target)
      reconciled.ending = synced.ending ∧
        ∀ l, reconciled.tree.entry? l = synced.tree.entry? l) ∧
    (∃ tree : FileTree, tree.textAt "g" = .ok "x".toList ∧ tree.textAt "t" = .ok "x".toList ∧
      (runCommandLine texts .silent tree reconciling).ending.status? = some 1 ∧
      (runCommandLine texts .silent tree syncing).ending.status? = some 0) ∧
    ∃ (printing : Printing) (tree : FileTree),
      tree.textAt "g" = .ok "x".toList ∧ tree.textAt "t" = .ok "x".toList ∧
      (runPrinting printing texts .silent tree reconciling).ending.status? = some 0 ∧
      (runPrinting printing texts .silent tree syncing).ending.status? = some 1 := by
  refine ⟨fun h => ?_, ?_, ?_⟩
  · let tree : FileTree := { cwd := [], entries := [(["g"], .file "x".toUTF8),
      (["-o x"], .file "y".toUTF8)] }
    let w : Words := { switches := [("preset", some "java")], operands := [], strays := false }
    have hfind : Preset.find? "java" = some (.slashes "java" .flat) := by decide
    obtain ⟨setup, hbuild, -⟩ := Preset.exists_uniform (List.mem_of_find?_eq_some hfind)
    have hresolve : (Session.resolve .silent (w.value? "config") (w.value? "preset")).Ends tree
        (.ok setup) tree :=
      Session.ends_resolve_preset hfind hbuild (by decide) rfl (by decide +kernel)
    have hgenerated : tree.textAt "g" = .ok "x".toList :=
      FileTree.textAt_of_encoded rfl (by decide +kernel)
    have htarget : tree.textAt "-o x" = .ok "y".toList :=
      FileTree.textAt_of_encoded rfl (by decide +kernel)
    obtain ⟨hending, -⟩ := h { help := "", misuse := "" } .silent tree .merge ["--preset", "java"] w
      setup "g" "-o x" _ _ ⟨by decide +kernel, rfl, rfl⟩ hresolve (by decide +kernel)
      (by decide +kernel) hgenerated htarget
    have hmisuse : (runCommandLine { help := "", misuse := "" } .silent tree
        (["--preset", "java"] ++ Mode.merge.reconcilingWords "g" "-o x")).ending.status? = some 2 := by
      decide +kernel
    rw [hending] at hmisuse
    revert hmisuse
    decide +kernel
  · let denied : FileFault.Cause := { number := 13, wording := "Permission denied" }
    let tree : FileTree :=
      { cwd := [], entries := [(["g"], .file "x".toUTF8), (["t"], .file "x".toUTF8)]
        refusals := { write := fun _ => some denied } }
    exact ⟨tree, FileTree.textAt_of_encoded rfl (by decide +kernel),
      FileTree.textAt_of_encoded rfl (by decide +kernel), by decide +kernel, by decide +kernel⟩
  · let full : FileFault :=
      { cause := { number := 28, wording := "No space left on device" }, path := none }
    let tree : FileTree :=
      { cwd := [], entries := [(["g"], .file "x".toUTF8), (["t"], .file "x".toUTF8)] }
    exact ⟨fun _ => some (0, .file full), tree, FileTree.textAt_of_encoded rfl (by decide +kernel),
      FileTree.textAt_of_encoded rfl (by decide +kernel), by decide +kernel, by decide +kernel⟩

end KeptRegions
