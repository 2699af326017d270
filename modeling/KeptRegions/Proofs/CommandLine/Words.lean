import KeptRegions.CommandLine.Command
import KeptRegions.Proofs.Document.Layout

namespace KeptRegions

/-!
# What words are read as

Options in front of a command are read as they are by themselves, and all words after the name of the
command are its own (`readLoosely_append_command`). A word without a hyphen in front is a plain one
to every command.
-/

namespace Words

variable {w w' : Words}

theorem note_eq_ok {s : Switch} {value : Option String} (h : w.note s value = .ok w') :
    w'.operands = w.operands ∧ w'.strays = w.strays := by
  unfold note at h
  split at h
  · cases h
  · cases h
    exact ⟨rfl, rfl⟩

/-- Noting options adds no plain words and leaves none over. -/
theorem noteAll_eq_ok {given : List (Switch × Option String)} (h : w.noteAll given = .ok w') :
    w'.operands = w.operands ∧ w'.strays = w.strays := by
  induction given generalizing w with
  | nil =>
    cases h
    exact ⟨rfl, rfl⟩
  | cons option given ih =>
    obtain ⟨w₁, hnote, hrest⟩ := exists_eq_ok_of_bind h
    obtain ⟨hoperands, hstrays⟩ := ih hrest
    obtain ⟨hoperands', hstrays'⟩ := note_eq_ok hnote
    exact ⟨hoperands.trans hoperands', hstrays.trans hstrays'⟩

end Words

namespace Grammar

variable {g : Grammar} {w w' : Words} {run : List String} {after : Option (List String)}
  {words : List (String × WordKind)}

/-! ## Reading on -/

theorem strays_takeRun (h : w.strays = true) (run : List (Option String)) :
    (g.takeRun w run).strays = true := by
  unfold takeRun
  split
  · exact h
  · split
    · split
      · exact h
      · rfl
    · simp [h]
    · rfl

/-- An option is read with its value, and reading goes on with the words after it, of which there may
be more. -/
theorem readWords_switch {word : String} {s : Switch} {byLetter : Bool} {attached : Option Text}
    (h : g.readWords w run after ((word, .switch s byLetter attached) :: words) = .ok w') :
    ∃ w₁ rest, g.readWords w₁ [] after rest = .ok w' ∧ rest.length ≤ words.length ∧
      w₁.operands = (g.takeRun w (run.map some)).operands ∧
      w₁.strays = (g.takeRun w (run.map some)).strays ∧
      ∀ more after', g.readWords w run after' ((word, .switch s byLetter attached) :: words ++ more) =
        g.readWords w₁ [] after' (rest ++ more) := by
  rw [readWords] at h
  obtain ⟨cluster, hcluster, h⟩ := exists_eq_ok_of_bind h
  rcases hawaiting : cluster.awaiting with _ | s'
  · -- every value is in the word itself
    rw [hawaiting] at h
    obtain ⟨w₁, hnoted, hrest⟩ := exists_eq_ok_of_bind h
    obtain ⟨hoperands, hstrays⟩ := Words.noteAll_eq_ok hnoted
    refine ⟨w₁, words, hrest, Nat.le_refl _, hoperands, hstrays, fun more after' => ?_⟩
    simp only [List.cons_append, readWords, hcluster, bind, Except.bind, hawaiting, hnoted]
  · -- the last option of the word has its value in the next one, which has to be plain
    rw [hawaiting] at h
    rcases words with _ | ⟨⟨value, _ | _ | _⟩, words⟩
    · cases h
    · obtain ⟨w₁, hnoted, hrest⟩ := exists_eq_ok_of_bind h
      obtain ⟨hoperands, hstrays⟩ := Words.noteAll_eq_ok hnoted
      refine ⟨w₁, words, hrest, Nat.le_succ _, hoperands, hstrays, fun more after' => ?_⟩
      simp only [List.cons_append, readWords, hcluster, bind, Except.bind, hawaiting, hnoted]
    · cases h
    · cases h

theorem strays_readWords (h : g.readWords w run after words = .ok w') (hw : w.strays = true) :
    w'.strays = true := by
  -- reading goes on after one word or two, so the induction is on their number
  induction hlength : words.length using Nat.strongRecOn generalizing w run words with
  | _ n ih =>
    rcases words with _ | ⟨⟨word, _ | ⟨s, byLetter, attached⟩ | _⟩, words⟩
    · cases h
      cases after with
      | none => exact strays_takeRun hw _
      | some after => simp [takeLast, strays_takeRun hw]
    · unfold readWords at h
      split at h
      · cases h
        exact hw
      · exact ih _ (by simp [← hlength]) h hw rfl
    · obtain ⟨w₁, rest, hrest, hshorter, -, hstrays, -⟩ := readWords_switch h
      rw [strays_takeRun hw] at hstrays
      exact ih _ (by simp [← hlength]; omega) hrest hstrays rfl
    · rw [readWords] at h
      exact ih _ (by simp [← hlength]) h rfl rfl

/-- Words that are nothing but options are read by themselves first, if a command is to follow. There
is no mark among them. -/
theorem readWords_append (hcommand : g.operands = .command)
    (h : g.readWords w [] after words = .ok w') (hoperands : w'.operands = [])
    (hstrays : w'.strays = false) :
    after = none ∧ ∀ more after',
      g.readWords w [] after' (words ++ more) = g.readWords w' [] after' more := by
  induction hlength : words.length using Nat.strongRecOn generalizing w words with
  | _ n ih =>
    rcases words with _ | ⟨⟨word, _ | ⟨s, byLetter, attached⟩ | _⟩, words⟩
    · cases h
      cases after with
      | none => exact ⟨rfl, fun _ _ => rfl⟩
      | some after =>
        -- what a mark is for belongs to the command
        simp [takeLast, room, hcommand] at hstrays
    · unfold readWords at h
      rw [if_pos hcommand] at h
      cases h
      cases hoperands
    · obtain ⟨w₁, rest, hrest, hshorter, -, -, happend⟩ := readWords_switch h
      obtain ⟨rfl, hmore⟩ := ih _ (by simp [← hlength]; omega) hrest rfl
      exact ⟨rfl, fun more after' => (happend more after').trans (hmore more after')⟩
    · rw [strays_readWords (show g.readWords _ [] after words = .ok w' from h) rfl] at hstrays
      cases hstrays

/-! ## Sorting -/

theorem sort_nil : g.sort [] = .ok { words := [], afterMark := none } := rfl

theorem sort_cons {word : String} {kind : WordKind} {rest : List String} {s : Sorted}
    (hmark : word ≠ Words.mark) (hkind : g.kindOf word = .ok kind) (hrest : g.sort rest = .ok s) :
    g.sort (word :: rest) = .ok { words := (word, kind) :: s.words, afterMark := s.afterMark } := by
  rw [sort, if_neg hmark, hkind, hrest]
  rfl

theorem sort_append {first second : List String} {s s' : Sorted} (h : g.sort first = .ok s)
    (hmark : s.afterMark = none) (h' : g.sort second = .ok s') :
    g.sort (first ++ second) = .ok { words := s.words ++ s'.words, afterMark := s'.afterMark } := by
  induction first generalizing s with
  | nil =>
    cases h
    exact h'
  | cons word first ih =>
    unfold sort at h
    split at h
    · cases h
      cases hmark
    · rename_i hword
      obtain ⟨kind, hkind, h⟩ := exists_eq_ok_of_bind h
      obtain ⟨sorted, hsorted, h⟩ := exists_eq_ok_of_bind h
      cases h
      exact sort_cons hword hkind (ih hsorted hmark)

/-- Words of which none is a mark or ambiguous can be sorted. -/
theorem exists_sort {words : List String}
    (h : ∀ word ∈ words, word ≠ Words.mark ∧ ∃ kind, g.kindOf word = .ok kind) :
    ∃ sorted, g.sort words = .ok { words := sorted, afterMark := none } ∧
      sorted.map Prod.fst = words := by
  induction words with
  | nil => exact ⟨[], rfl, rfl⟩
  | cons word words ih =>
    obtain ⟨⟨hmark, kind, hkind⟩, hwords⟩ := List.forall_mem_cons.1 h
    obtain ⟨sorted, hsorted, hfst⟩ := ih hwords
    exact ⟨(word, kind) :: sorted, sort_cons hmark hkind hsorted, by rw [List.map_cons, hfst]⟩

/-- A word without a hyphen in front is a plain one. -/
theorem kindOf_of_no_hyphen (g : Grammar) {word : String}
    (h : word.toList.head? ≠ some '-') :
    g.kindOf word = .ok .plain := by
  unfold Grammar.kindOf
  split <;> simp_all

theorem read_eq_ok {words : List String} {s : Sorted} (hsort : g.sort words = .ok s)
    (hread : g.readWords .empty [] s.afterMark s.words = .ok w) (hstrays : w.strays = false)
    (hroom : g.room w.operands.length = 0) : g.read words = .ok w := by
  unfold read readLoosely
  rw [hsort]
  show (g.readWords .empty [] s.afterMark s.words >>= _) = _
  rw [hread]
  show (if w.strays || g.room w.operands.length ≠ 0 then _ else _) = _
  rw [hstrays, hroom]
  rfl

/-! ## Options in front of a command -/

/-- Whether words are options by themselves, with their values. -/
structure ReadsOptions (g : Grammar) (options : List String) (w : Words) : Prop where
  read : g.readLoosely options = .ok w
  operands : w.operands = []
  strays : w.strays = false

/-- A command comes after the options, with all words that follow its name. -/
theorem readLoosely_append_command {options words : List String} {name : String}
    (hcommand : g.operands = .command) (hoptions : g.ReadsOptions options w)
    (hname : name ≠ Words.mark ∧ g.kindOf name = .ok .plain)
    (hwords : ∀ word ∈ words, word ≠ Words.mark ∧ ∃ kind, g.kindOf word = .ok kind) :
    g.readLoosely (options ++ name :: words) =
      .ok { w with operands := (name :: words).map some } := by
  obtain ⟨s, hsort, hread⟩ := exists_eq_ok_of_bind hoptions.read
  obtain ⟨hmark, hmore⟩ := readWords_append hcommand hread hoptions.operands hoptions.strays
  obtain ⟨sorted, hsorted, hfst⟩ := exists_sort hwords
  have hall : g.sort (name :: words) =
      .ok { words := (name, .plain) :: sorted, afterMark := none } :=
    sort_cons hname.1 hname.2 hsorted
  unfold readLoosely
  rw [sort_append hsort hmark hall]
  show g.readWords .empty [] none (s.words ++ (name, .plain) :: sorted) = _
  rw [hmore, readWords, if_pos hcommand, hfst]
  simp

end Grammar

/-! ## Commands with paths -/

/-- The words that reconcile two files and write the result in place of the second. -/
def Mode.reconcilingWords (mode : Mode) (current previous : String) : List String :=
  [mode.name, current, previous, "-o", previous]

/-- The words that bring the second of two files up to date with the first. -/
def Mode.syncingWords : Mode → String → String → List String
  | merge, generated, target => ["sync", generated, target]
  | fillIn, generated, target => ["sync", "--fill-in", generated, target]

namespace Invocation

variable {options : List String} {w : Words} {name word first second : String}

/-- Whether a command takes a word for a path, and not for an option. -/
structure TakesAsPath (name word : String) : Prop where
  unmarked : word ≠ Words.mark
  unambiguous : ∃ kind, grammar.kindOf word = .ok kind
  plain : ∀ g, grammar? name = some g → g.kindOf word = .ok .plain

/-- Every word without a hyphen in front is taken for a path. -/
theorem takesAsPath_of_no_hyphen (name : String) (h : word.toList.head? ≠ some '-') :
    TakesAsPath name word where
  unmarked := by
    rintro rfl
    exact h rfl
  unambiguous := ⟨_, Grammar.kindOf_of_no_hyphen grammar h⟩
  plain g _ := Grammar.kindOf_of_no_hyphen g h

/-- What is understood by options with a command after them. -/
def withOptions (w : Words) (command : Command) : Invocation :=
  { preset := w.value? "preset", config := w.value? "config", verbose := w.has "verbose", command }

theorem readCommand_of_read {g : Grammar} {words : List String} {command : Command}
    (hg : grammar? name = some g) (hread : g.read words = .ok w)
    (hcommand : command? name w = some command) : readCommand (name :: words) = .ok command := by
  simp only [readCommand, hg, hread, bind, Except.bind, hcommand]

theorem ofArguments_append_command {words : List String} {command : Command}
    (hoptions : grammar.ReadsOptions options w)
    (hname : name ≠ Words.mark ∧ grammar.kindOf name = .ok .plain)
    (hwords : ∀ word ∈ words, word ≠ Words.mark ∧ ∃ kind, grammar.kindOf word = .ok kind)
    (hread : readCommand (name :: words) = .ok command) :
    ofArguments (options ++ name :: words) = .ok (withOptions w command) := by
  have hloosely := Grammar.readLoosely_append_command rfl hoptions hname hwords
  rw [hoptions.strays] at hloosely
  have hpresent : Words.present { w with operands := (name :: words).map some, strays := false } =
      name :: words := by
    simp [Words.present, List.filterMap_map]
  simp only [ofArguments, hloosely, bind, Except.bind, hpresent, hread]
  rfl

theorem ofArguments_reconcilingWords (mode : Mode) (hoptions : grammar.ReadsOptions options w)
    (hfirst : TakesAsPath mode.name first) (hsecond : TakesAsPath mode.name second) :
    ofArguments (options ++ mode.reconcilingWords first second) =
      .ok (withOptions w (.reconcile mode first (some second) (some second))) := by
  let output : Switch := { long := "output", short := some 'o', takesValue := true }
  let g : Grammar := { switches := [output], operands := .exactly 2 }
  have hg : grammar? mode.name = some g := by cases mode <;> rfl
  have houtput : g.kindOf "-o" = .ok (.switch output true none) := by decide
  have hsort : g.sort [first, second, "-o", second] =
      .ok { words := [(first, .plain), (second, .plain), ("-o", .switch output true none),
              (second, .plain)]
            afterMark := none } :=
    Grammar.sort_cons hfirst.unmarked (hfirst.plain g hg) <|
      Grammar.sort_cons hsecond.unmarked (hsecond.plain g hg) <|
        Grammar.sort_cons (by decide) houtput <|
          Grammar.sort_cons hsecond.unmarked (hsecond.plain g hg) Grammar.sort_nil
  have hread : g.read [first, second, "-o", second] =
      .ok { switches := [("output", some second)], operands := [some first, some second],
            strays := false } := by
    refine Grammar.read_eq_ok hsort ?_ rfl rfl
    simp [Grammar.readWords, Grammar.takeRun, Grammar.takeLast, Grammar.room, Grammar.cluster,
      Cluster.alone, Words.empty, Words.noteAll, Words.note, g, output, bind, Except.bind, pure,
      Except.pure]
  have hcommand : readCommand (mode.reconcilingWords first second) =
      .ok (.reconcile mode first (some second) (some second)) :=
    readCommand_of_read hg hread (by cases mode <;> rfl)
  refine ofArguments_append_command hoptions ?_ ?_ hcommand
  · cases mode <;> decide
  · simp only [List.forall_mem_cons, List.not_mem_nil, false_imp_iff, implies_true, and_true]
    -- `-o` is an option of the command and a stranger among those in front of it
    exact ⟨⟨hfirst.unmarked, hfirst.unambiguous⟩, ⟨hsecond.unmarked, hsecond.unambiguous⟩,
      ⟨by decide, _, show grammar.kindOf "-o" = .ok .stranger by decide⟩,
      ⟨hsecond.unmarked, hsecond.unambiguous⟩⟩

theorem ofArguments_syncingWords (mode : Mode) (hoptions : grammar.ReadsOptions options w)
    (hfirst : TakesAsPath "sync" first) (hsecond : TakesAsPath "sync" second) :
    ofArguments (options ++ mode.syncingWords first second) =
      .ok (withOptions w (.sync first (some second) mode false)) := by
  let fillIn : Switch := { long := "fill-in", short := none, takesValue := false }
  let dryRun : Switch := { long := "dry-run", short := none, takesValue := false }
  let g : Grammar := { switches := [fillIn, dryRun], operands := .exactly 2 }
  have hg : grammar? "sync" = some g := rfl
  have hflag : g.kindOf "--fill-in" = .ok (.switch fillIn false none) := by decide
  have hsort : g.sort [first, second] =
      .ok { words := [(first, .plain), (second, .plain)], afterMark := none } :=
    Grammar.sort_cons hfirst.unmarked (hfirst.plain g hg) <|
      Grammar.sort_cons hsecond.unmarked (hsecond.plain g hg) Grammar.sort_nil
  have hpaths : ∀ word ∈ [first, second],
      word ≠ Words.mark ∧ ∃ kind, grammar.kindOf word = .ok kind := by
    simp only [List.forall_mem_cons, List.not_mem_nil, false_imp_iff, implies_true, and_true]
    exact ⟨⟨hfirst.unmarked, hfirst.unambiguous⟩, ⟨hsecond.unmarked, hsecond.unambiguous⟩⟩
  cases mode with
  | merge =>
    have hread : g.read [first, second] =
        .ok { switches := [], operands := [some first, some second], strays := false } :=
      Grammar.read_eq_ok hsort rfl rfl rfl
    exact ofArguments_append_command hoptions (by decide) hpaths (readCommand_of_read hg hread rfl)
  | fillIn =>
    have hread : g.read ["--fill-in", first, second] =
        .ok { switches := [("fill-in", none)], operands := [some first, some second],
              strays := false } := by
      refine Grammar.read_eq_ok (Grammar.sort_cons (by decide) hflag hsort) ?_ rfl rfl
      simp [Grammar.readWords, Grammar.takeRun, Grammar.takeLast, Grammar.room, Grammar.cluster,
        Cluster.alone, Words.empty, Words.noteAll, Words.note, g, fillIn, bind, Except.bind, pure,
        Except.pure]
    refine ofArguments_append_command hoptions (by decide) ?_ (readCommand_of_read hg hread rfl)
    exact List.forall_mem_cons.2
      ⟨⟨by decide, _, show grammar.kindOf "--fill-in" = .ok .stranger by decide⟩, hpaths⟩

end Invocation

end KeptRegions
