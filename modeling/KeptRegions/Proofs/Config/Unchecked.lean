import KeptRegions.Config.Load
import KeptRegions.Proofs.Session.Steps
import KeptRegions.Yaml.Value

namespace KeptRegions

/-!
# What configurations are not checked for

Most of what can be wrong with a configuration is found by a check and named. A few values get past the
checks and meet an operation that does not take them: a preset that is no text, a key that is none, a
list in place of the name of ready-made markers, and whole numbers that are too large. These are all, up
to patterns that are not covered (`setup_or_configFault_iff`).
-/

namespace Setup

/-! ## Results -/

section Results

variable {α β : Type} {x : Except SetupFault α} {f : α → Except SetupFault β}

/-- Whether a result is a fault of some form: one of a value that an operation does not take, or one of
a pattern that is not covered. -/
def FailsBy {γ : Type} (kind : γ → SetupFault) (x : Except SetupFault α) : Prop :=
  ∃ fault, x = .error (kind fault)

section

variable {γ : Type} {kind : γ → SetupFault}

@[simp]
theorem not_failsBy_ok (a : α) : ¬ FailsBy kind (.ok a) := by
  rintro ⟨fault, ⟨⟩⟩

@[simp]
theorem not_failsBy_pure (a : α) : ¬ FailsBy kind (pure a : Except SetupFault α) :=
  not_failsBy_ok a

@[simp]
theorem failsBy_error (fault : SetupFault) :
    FailsBy kind (.error fault : Except SetupFault α) ↔ ∃ c, fault = kind c := by
  simp [FailsBy]

@[simp]
theorem failsBy_throw (fault : SetupFault) :
    FailsBy kind (throw fault : Except SetupFault α) ↔ ∃ c, fault = kind c :=
  failsBy_error fault

theorem failsBy_bind :
    FailsBy kind (x >>= f) ↔ FailsBy kind x ∨ ∃ a, x = .ok a ∧ FailsBy kind (f a) := by
  cases x with
  | ok a => simp [bind, Except.bind]
  | error fault => simp [bind, Except.bind]

theorem failsBy_map (g : α → β) : FailsBy kind (g <$> x) ↔ FailsBy kind x := by
  cases x <;> simp [Functor.map, Except.map]

end

/-- Whether a result is no fault. -/
def Succeeds (x : Except SetupFault α) : Prop :=
  ∃ a, x = .ok a

@[simp]
theorem succeeds_ok (a : α) : Succeeds (.ok a) :=
  ⟨a, rfl⟩

@[simp]
theorem succeeds_pure (a : α) : Succeeds (pure a : Except SetupFault α) :=
  ⟨a, rfl⟩

@[simp]
theorem not_succeeds_error (fault : SetupFault) :
    ¬ Succeeds (.error fault : Except SetupFault α) := by
  rintro ⟨a, ⟨⟩⟩

theorem succeeds_bind : Succeeds (x >>= f) ↔ ∃ a, x = .ok a ∧ Succeeds (f a) := by
  cases x <;> simp [bind, Except.bind]

theorem succeeds_map (g : α → β) : Succeeds (g <$> x) ↔ Succeeds x := by
  cases x <;> simp [Functor.map, Except.map, Succeeds]

/-- Steps in a row, the second of which ends alike whatever the first has come to. -/
theorem failsBy_bind_iff {γ : Type} {kind : γ → SetupFault} {bad : Prop}
    (hbad : ∀ a, FailsBy kind (f a) ↔ bad) :
    FailsBy kind (x >>= f) ↔ FailsBy kind x ∨ Succeeds x ∧ bad := by
  rw [failsBy_bind]
  simp only [hbad, Succeeds, exists_and_right]

theorem succeeds_bind_iff {fine : Prop} (hfine : ∀ a, Succeeds (f a) ↔ fine) :
    Succeeds (x >>= f) ↔ Succeeds x ∧ fine := by
  rw [succeeds_bind]
  simp only [hfine, exists_and_right]
  rfl

/-- Steps whose ends depend on their entries alone: the first entry with which a step does not succeed
decides. -/
theorem failsBy_foldlM {γ : Type} {kind : γ → SetupFault} {f : β → α → Except SetupFault β}
    {fine bad : α → Prop} (hfine : ∀ b a, Succeeds (f b a) ↔ fine a)
    (hbad : ∀ b a, FailsBy kind (f b a) ↔ bad a) (b : β) (l : List α) :
    FailsBy kind (l.foldlM f b) ↔
      ∃ before a after, l = before ++ a :: after ∧ (∀ c ∈ before, fine c) ∧ bad a := by
  induction l generalizing b with
  | nil => simp
  | cons a l ih =>
    rw [List.foldlM_cons, failsBy_bind, hbad]
    constructor
    · -- the entry that decides is the first one, or it is among the rest
      rintro (ha | ⟨b', hb', hrest⟩)
      · exact ⟨[], a, l, rfl, by simp, ha⟩
      · obtain ⟨before, a', after, rfl, hbefore, ha'⟩ := (ih b').1 hrest
        exact ⟨a :: before, a', after, rfl,
          List.forall_mem_cons.2 ⟨(hfine b a).1 ⟨b', hb'⟩, hbefore⟩, ha'⟩
    · rintro ⟨_ | ⟨c, before⟩, a', after, hl, hbefore, ha'⟩
      · cases hl
        exact .inl ha'
      · cases hl
        obtain ⟨hfirst, hbefore⟩ := List.forall_mem_cons.1 hbefore
        obtain ⟨b', hb'⟩ := (hfine b a).2 hfirst
        exact .inr ⟨b', hb', (ih b').2 ⟨before, a', after, rfl, hbefore, ha'⟩⟩

theorem succeeds_foldlM {f : β → α → Except SetupFault β} {fine : α → Prop}
    (hfine : ∀ b a, Succeeds (f b a) ↔ fine a) (b : β) (l : List α) :
    Succeeds (l.foldlM f b) ↔ ∀ a ∈ l, fine a := by
  induction l generalizing b with
  | nil => simp
  | cons a l ih =>
    rw [List.foldlM_cons, succeeds_bind_iff ih, List.forall_mem_cons, hfine]

end Results

/-! ## Presets and texts -/

variable {v base comments : Value} {entries : Entries} {b : Builder}

/-- Whether a value is the name of a preset. -/
def NamesPreset (v : Value) : Prop :=
  ∃ name p, v = .text name ∧ Preset.find? (Text.toStr name) = some p

theorem trips_presetOf : FailsBy .kind (presetOf v) ↔ v.text? = none := by
  cases v with
  | text name =>
    simp only [presetOf, preset, Value.text?]
    split <;> simp
  | _ => simp [presetOf, Value.text?]

theorem succeeds_presetOf : Succeeds (presetOf v) ↔ NamesPreset v := by
  cases v with
  | text name =>
    simp only [presetOf, preset, NamesPreset, Value.text.injEq]
    split <;> simp_all
  | _ => simp [presetOf, NamesPreset]

theorem not_strays_presetOf : ¬ FailsBy .uncovered (presetOf v) := by
  cases v with
  | text name =>
    simp only [presetOf, preset]
    split <;> simp
  | _ => simp [presetOf]

theorem trips_written : FailsBy .kind (written v) ↔ v.isWritable = false := by
  unfold written
  split <;> simp_all

theorem succeeds_written : Succeeds (written v) ↔ v.isWritable = true := by
  unfold written
  split <;> simp_all

theorem not_strays_written : ¬ FailsBy .uncovered (written v) := by
  unfold written
  split <;> simp

theorem trips_refuse {α : Type} {fault : ConfigFault} :
    FailsBy .kind (refuse v fault : Except SetupFault α) ↔ v.isWritable = false := by
  unfold refuse
  rw [failsBy_bind, trips_written]
  simp

theorem not_strays_refuse {α : Type} {fault : ConfigFault} :
    ¬ FailsBy .uncovered (refuse v fault : Except SetupFault α) := by
  unfold refuse
  rw [failsBy_bind]
  simp [not_strays_written]

theorem not_succeeds_refuse {α : Type} {fault : ConfigFault} :
    ¬ Succeeds (refuse v fault : Except SetupFault α) := by
  unfold refuse
  rw [succeeds_bind]
  simp [throw, throwThe, MonadExceptOf.throw]

/-! ## Comments -/

/-- Whether a value describes a comment: it is a text, or a list of one or two values. -/
inductive IsComment : Value → Prop where
  | line (s : Text) : IsComment (.text s)
  | single (opening : Value) : IsComment (.list [opening])
  | pair (opening closing : Value) : IsComment (.list [opening, closing])

theorem isWritable_text (s : Text) : (Value.text s).isWritable = true := rfl

theorem isWritable_single (v : Value) : (Value.list [v]).isWritable = v.isWritable := by
  simp [Value.isWritable, Value.areWritable]

theorem isWritable_pair (v w : Value) :
    (Value.list [v, w]).isWritable = (v.isWritable && w.isWritable) := by
  simp [Value.isWritable, Value.areWritable]

theorem trips_addComment (b : Builder) (entry : Value) :
    FailsBy .kind (addComment b entry) ↔ entry.isWritable = false := by
  unfold addComment
  split
  · simp [isWritable_text]
  · simp [isWritable_single, failsBy_map, trips_written]
  · rename_i opening closing
    cases hopening : opening.isWritable <;> cases hclosing : closing.isWritable <;>
      simp [isWritable_pair, failsBy_bind, written, hopening, hclosing]
  · exact trips_refuse

theorem not_strays_addComment (b : Builder) (entry : Value) : ¬ FailsBy .uncovered (addComment b entry) := by
  unfold addComment
  split
  · simp
  · simp [failsBy_map, not_strays_written]
  · simp [failsBy_bind, failsBy_map, not_strays_written]
  · exact not_strays_refuse

/-- Whether the description of a comment is in order. -/
def CommentInOrder (entry : Value) : Prop :=
  IsComment entry ∧ entry.isWritable = true

theorem succeeds_addComment (b : Builder) (entry : Value) :
    Succeeds (addComment b entry) ↔ CommentInOrder entry := by
  unfold addComment CommentInOrder
  split
  · simp [isWritable_text, IsComment.line]
  · rename_i opening
    cases hopening : opening.isWritable <;>
      simp [isWritable_single, written, hopening, IsComment.single]
  · rename_i opening closing
    cases hopening : opening.isWritable <;> cases hclosing : closing.isWritable <;>
      simp [isWritable_pair, succeeds_bind, written, hopening, hclosing, IsComment.pair]
  · rename_i hline hsingle hpair
    refine iff_of_false not_succeeds_refuse ?_
    rintro ⟨hcomment, -⟩
    cases hcomment with
    | line s => exact hline s rfl
    | single opening => exact hsingle opening rfl
    | pair opening closing => exact hpair opening closing rfl

/-- Whether a preset is in order: there is none, or the name of one. -/
def PresetInOrder (base : Value) : Prop :=
  base.holds = true → NamesPreset base

/-- Whether a preset is given that is no text. -/
def PresetTrips (base : Value) : Prop :=
  base.holds = true ∧ base.text? = none

/-- Whether comments are listed and all of them are in order. -/
def ListInOrder (comments : Value) : Prop :=
  ∃ entries, comments = .list entries ∧ entries ≠ [] ∧ ∀ entry ∈ entries, CommentInOrder entry

/-- Whether comments are listed, the first one that is not in order having too large a number. -/
def ListTrips (comments : Value) : Prop :=
  ∃ before entry after, comments = .list (before ++ entry :: after) ∧
    (∀ c ∈ before, CommentInOrder c) ∧ entry.isWritable = false

/-- The nesting that a preset decides about. -/
def presetNesting (base : Value) : Except SetupFault Nesting :=
  if base.holds then (·.nesting) <$> presetOf base else pure .flat

theorem trips_presetNesting : FailsBy .kind (presetNesting base) ↔ PresetTrips base := by
  unfold presetNesting PresetTrips
  split <;> simp_all [failsBy_map, trips_presetOf]

theorem not_strays_presetNesting : ¬ FailsBy .uncovered (presetNesting base) := by
  unfold presetNesting
  split <;> simp [failsBy_map, not_strays_presetOf]

theorem succeeds_presetNesting : Succeeds (presetNesting base) ↔ PresetInOrder base := by
  unfold presetNesting PresetInOrder
  split <;> simp_all [succeeds_map, succeeds_presetOf]

/-- The builder for comments that are listed. -/
def listed (nesting : Nesting) (comments : Value) : Except SetupFault Builder :=
  match comments with
  | .list (first :: rest) =>
    (first :: rest).foldlM addComment { Builder.start with nesting := nesting.name }
  | _ => throw (.config .commentsKind)

theorem listedComments_eq :
    listedComments base comments =
      presetNesting base >>= fun nesting => listed nesting comments := by
  unfold listedComments presetNesting
  cases base.holds <;> rfl

theorem trips_listed (nesting : Nesting) : FailsBy .kind (listed nesting comments) ↔ ListTrips comments := by
  unfold listed ListTrips
  split
  · rw [failsBy_foldlM succeeds_addComment trips_addComment]
    simp
  · rename_i hlist
    refine iff_of_false (by simp) ?_
    rintro ⟨before, entry, after, rfl, -⟩
    cases before with
    | nil => exact hlist _ _ rfl
    | cons first before => exact hlist _ _ rfl

theorem not_strays_listed (nesting : Nesting) : ¬ FailsBy .uncovered (listed nesting comments) := by
  unfold listed
  split
  · rw [failsBy_foldlM succeeds_addComment fun b entry =>
      iff_of_false (not_strays_addComment b entry) not_false]
    simp
  · simp

theorem succeeds_listed (nesting : Nesting) :
    Succeeds (listed nesting comments) ↔ ListInOrder comments := by
  unfold listed ListInOrder
  split
  · rw [succeeds_foldlM succeeds_addComment]
    simp
  · rename_i hlist
    refine iff_of_false (not_succeeds_error _) ?_
    rintro ⟨entries, rfl, hne, -⟩
    obtain ⟨first, rest, rfl⟩ := List.exists_cons_of_ne_nil hne
    exact hlist first rest rfl

/-- Whether comments are in order, or there are none but a preset. -/
def CommentsInOrder (base comments : Value) : Prop :=
  comments = .null ∧ base.holds = true ∨ ListInOrder comments

theorem not_listTrips_null : ¬ ListTrips .null := by
  rintro ⟨before, entry, after, ⟨⟩, -⟩

theorem not_listInOrder_null : ¬ ListInOrder .null := by
  rintro ⟨entries, ⟨⟩, -⟩

theorem trips_commentsOf :
    FailsBy .kind (commentsOf base comments) ↔
      PresetTrips base ∨ PresetInOrder base ∧ ListTrips comments := by
  unfold commentsOf
  split
  · simp only [not_listTrips_null, and_false, or_false, PresetTrips]
    split <;> simp_all [failsBy_map, trips_presetOf]
  · rw [listedComments_eq, failsBy_bind_iff trips_listed, trips_presetNesting, succeeds_presetNesting]

theorem not_strays_commentsOf : ¬ FailsBy .uncovered (commentsOf base comments) := by
  unfold commentsOf
  split
  · split <;> simp [failsBy_map, not_strays_presetOf]
  · rw [listedComments_eq, failsBy_bind]
    simp [not_strays_presetNesting, not_strays_listed]

theorem succeeds_commentsOf :
    Succeeds (commentsOf base comments) ↔
      PresetInOrder base ∧ CommentsInOrder base comments := by
  unfold commentsOf CommentsInOrder
  split
  · simp only [not_listInOrder_null, or_false, true_and, PresetInOrder]
    split <;> simp_all [succeeds_map, succeeds_presetOf]
  · rename_i hnull
    rw [listedComments_eq, succeeds_bind_iff succeeds_listed, succeeds_presetNesting]
    simp [show comments ≠ .null from hnull]

/-! ## Nesting and the place of markers -/

/-- Whether a value with too large a number stands at a key. -/
def UnwritableAt (key : String) (entries : Entries) : Prop :=
  ∃ v, Value.entry? key entries = some v ∧ v.isWritable = false

theorem trips_setNesting (b : Builder) :
    FailsBy .kind (setNesting entries b) ↔ UnwritableAt "nesting" entries := by
  unfold setNesting UnwritableAt
  split <;> simp_all [failsBy_map, trips_written]

theorem not_strays_setNesting (b : Builder) : ¬ FailsBy .uncovered (setNesting entries b) := by
  unfold setNesting
  split <;> simp [failsBy_map, not_strays_written]

theorem succeeds_setNesting (b : Builder) :
    Succeeds (setNesting entries b) ↔ ¬ UnwritableAt "nesting" entries := by
  unfold setNesting UnwritableAt
  split <;> simp_all [succeeds_map, succeeds_written]

theorem not_failsBy_setInverse {γ : Type} {kind : γ → SetupFault}
    (hkind : ∀ fault, SetupFault.config .inverseKind ≠ kind fault) (b : Builder) :
    ¬ FailsBy kind (setInverse entries b) := by
  unfold setInverse
  split <;> simp [hkind]

theorem succeeds_setInverse (b : Builder) :
    Succeeds (setInverse entries b) ↔
      ∀ v, Value.entry? "inverse" entries = some v → ∃ inverse, v = .bool inverse := by
  unfold setInverse
  split <;> simp_all

/-! ## Markers -/

theorem trips_builtinOf :
    FailsBy .kind (builtinOf v) ↔ v.isCompound = true ∨ v.isWritable = false := by
  unfold builtinOf
  split
  · simp_all
  · rename_i hcompound
    split
    · rename_i m hname
      cases v <;> simp_all [Value.text?, Value.isWritable]
    · simp [trips_refuse, hcompound]

theorem not_strays_builtinOf : ¬ FailsBy .uncovered (builtinOf v) := by
  unfold builtinOf
  split
  · simp
  · split
    · simp
    · exact not_strays_refuse

/-- Whether a written pattern has a bound that is not taken as a number, and no fault before it. -/
def HasUntakenBound (s : Text) : Prop :=
  ∃ fault position, Pattern.read s = .error { cause := .number fault, position }

/-- Whether a written pattern has a sign that is not read here, and no fault before it. -/
def HasUncoveredSign (s : Text) : Prop :=
  ∃ position, Pattern.read s = .error { cause := .unsupported, position }

theorem trips_mapError {α : Type} {x : Except MarkerFault α} :
    FailsBy .kind (x.mapError markersFault) ↔
      ∃ text fault position, x = .error (.pattern text { cause := .number fault, position }) := by
  cases x with
  | ok a => simp [Except.mapError]
  | error e =>
    simp only [Except.mapError, failsBy_error, Except.error.injEq]
    unfold markersFault
    split <;> simp_all

theorem strays_mapError {α : Type} {x : Except MarkerFault α} :
    FailsBy .uncovered (x.mapError markersFault) ↔
      ∃ text position, x = .error (.pattern text { cause := .unsupported, position }) := by
  cases x with
  | ok a => simp [Except.mapError]
  | error e =>
    simp only [Except.mapError, failsBy_error, Except.error.injEq]
    unfold markersFault
    split <;> simp_all

/-- The start pattern is read before the end pattern. -/
theorem markerPatterns_eq_error {start stop keyword text : Text} {whenPresent : Bool}
    {fault : PatternFault} :
    MarkerPatterns.of? start stop keyword whenPresent = .error (.pattern text fault) ↔
      text = start ∧ Pattern.read start = .error fault ∨
        text = stop ∧ (∃ p, Pattern.read start = .ok p) ∧ Pattern.read stop = .error fault := by
  unfold MarkerPatterns.of?
  split
  · rename_i hstart
    simp [hstart, eq_comm]
  · rename_i hstart hstop
    simp [hstart, hstop, eq_comm]
  · rename_i hstart hstop
    split <;> simp [hstart, hstop]

theorem trips_markerPatterns {start stop keyword : Text} {whenPresent : Bool} :
    FailsBy .kind ((MarkerPatterns.of? start stop keyword whenPresent).mapError markersFault) ↔
      HasUntakenBound start ∨ (∃ p, Pattern.read start = .ok p) ∧ HasUntakenBound stop := by
  rw [trips_mapError]
  simp only [markerPatterns_eq_error, HasUntakenBound]
  constructor
  · rintro ⟨text, fault, position, ⟨-, hstart⟩ | ⟨-, hread, hstop⟩⟩
    · exact .inl ⟨fault, position, hstart⟩
    · exact .inr ⟨hread, fault, position, hstop⟩
  · rintro (⟨fault, position, hstart⟩ | ⟨hread, fault, position, hstop⟩)
    · exact ⟨start, fault, position, .inl ⟨rfl, hstart⟩⟩
    · exact ⟨stop, fault, position, .inr ⟨rfl, hread, hstop⟩⟩

theorem strays_markerPatterns {start stop keyword : Text} {whenPresent : Bool} :
    FailsBy .uncovered ((MarkerPatterns.of? start stop keyword whenPresent).mapError markersFault) ↔
      HasUncoveredSign start ∨ (∃ p, Pattern.read start = .ok p) ∧ HasUncoveredSign stop := by
  rw [strays_mapError]
  simp only [markerPatterns_eq_error, HasUncoveredSign]
  constructor
  · rintro ⟨text, position, ⟨-, hstart⟩ | ⟨-, hread, hstop⟩⟩
    · exact .inl ⟨position, hstart⟩
    · exact .inr ⟨hread, position, hstop⟩
  · rintro (⟨position, hstart⟩ | ⟨hread, position, hstop⟩)
    · exact ⟨start, position, .inl ⟨rfl, hstart⟩⟩
    · exact ⟨stop, position, .inr ⟨rfl, hread, hstop⟩⟩

/-- Whether a mapping names no ready-made markers. -/
def NamesNone (spec : Entries) : Prop :=
  Value.entry? "builtin" spec = none ∨ Value.entry? "builtin" spec = some .null

/-- Whether the descriptions of the two patterns are texts. -/
def WritesPatterns (spec : Entries) (start stop : Text) : Prop :=
  Value.entry? "start" spec = some (.text start) ∧ Value.entry? "end" spec = some (.text stop)

theorem not_failsBy_patternAt {γ : Type} {kind : γ → SetupFault}
    (hkind : ∀ config fault, SetupFault.config config ≠ kind fault) {key : String} {spec : Entries} :
    ¬ FailsBy kind (patternAt key spec) := by
  unfold patternAt
  split <;> simp [hkind]

theorem patternAt_eq_ok {key : String} {spec : Entries} {s : Text} :
    patternAt key spec = .ok s ↔ Value.entry? key spec = some (.text s) := by
  unfold patternAt
  cases hentry : Value.entry? key spec with
  | none => simp
  | some v => cases v <;> simp [Value.text?]

theorem trips_keyword {default : Text} {spec : Entries} :
    FailsBy .kind ((Value.entry? "keyword" spec).elim (pure default) written) ↔
      UnwritableAt "keyword" spec := by
  unfold UnwritableAt
  cases Value.entry? "keyword" spec <;> simp [trips_written]

theorem not_strays_keyword {default : Text} {spec : Entries} :
    ¬ FailsBy .uncovered ((Value.entry? "keyword" spec).elim (pure default) written) := by
  cases Value.entry? "keyword" spec <;> simp [not_strays_written]

theorem succeeds_keyword {default : Text} {spec : Entries} :
    Succeeds ((Value.entry? "keyword" spec).elim (pure default) written) ↔
      ¬ UnwritableAt "keyword" spec := by
  unfold UnwritableAt
  cases Value.entry? "keyword" spec <;> simp [succeeds_written]

/-- Whether two written patterns or the keyword for them have too large a number. The keyword is looked
at before the patterns, and the start pattern before the end pattern. -/
inductive PatternsTrip (spec : Entries) (start stop : Text) : Prop where
  | keyword (hkeyword : UnwritableAt "keyword" spec)
  | start (hkeyword : ¬ UnwritableAt "keyword" spec) (hstart : HasUntakenBound start)
  | stop {p : Pattern} (hkeyword : ¬ UnwritableAt "keyword" spec)
      (hstart : Pattern.read start = .ok p) (hstop : HasUntakenBound stop)

/-- Whether one of two written patterns is not covered, what is looked at before it being in order. -/
inductive PatternsStray (spec : Entries) (start stop : Text) : Prop where
  | start (hkeyword : ¬ UnwritableAt "keyword" spec) (hstart : HasUncoveredSign start)
  | stop {p : Pattern} (hkeyword : ¬ UnwritableAt "keyword" spec)
      (hstart : Pattern.read start = .ok p) (hstop : HasUncoveredSign stop)

/-- The patterns of two texts, once these are known. -/
def patternsFor (spec : Entries) (start stop : Text) : Except SetupFault MarkerPatterns := do
  let keyword ← (Value.entry? "keyword" spec).elim (pure "ENABLED".toList) written
  (MarkerPatterns.of? start stop keyword
    ((Value.entry? "enabled_when_present" spec).elim true Value.holds)).mapError markersFault

theorem trips_patternsFor {spec : Entries} {start stop : Text} :
    FailsBy .kind (patternsFor spec start stop) ↔ PatternsTrip spec start stop := by
  unfold patternsFor
  rw [failsBy_bind_iff fun keyword => trips_markerPatterns, trips_keyword, succeeds_keyword]
  constructor
  · rintro (hkeyword | ⟨hkeyword, hstart | ⟨⟨p, hstart⟩, hstop⟩⟩)
    · exact .keyword hkeyword
    · exact .start hkeyword hstart
    · exact .stop hkeyword hstart hstop
  · rintro (hkeyword | ⟨hkeyword, hstart⟩ | ⟨hkeyword, hstart, hstop⟩)
    · exact .inl hkeyword
    · exact .inr ⟨hkeyword, .inl hstart⟩
    · exact .inr ⟨hkeyword, .inr ⟨⟨_, hstart⟩, hstop⟩⟩

theorem strays_patternsFor {spec : Entries} {start stop : Text} :
    FailsBy .uncovered (patternsFor spec start stop) ↔ PatternsStray spec start stop := by
  unfold patternsFor
  rw [failsBy_bind_iff fun keyword => strays_markerPatterns, or_iff_right not_strays_keyword,
    succeeds_keyword]
  constructor
  · rintro ⟨hkeyword, hstart | ⟨⟨p, hstart⟩, hstop⟩⟩
    · exact .start hkeyword hstart
    · exact .stop hkeyword hstart hstop
  · rintro (⟨hkeyword, hstart⟩ | ⟨hkeyword, hstart, hstop⟩)
    · exact ⟨hkeyword, .inl hstart⟩
    · exact ⟨hkeyword, .inr ⟨⟨_, hstart⟩, hstop⟩⟩

/-- Other faults than those of a check come only of texts that are there. -/
theorem failsBy_patternsOf {γ : Type} {kind : γ → SetupFault}
    (hkind : ∀ config fault, SetupFault.config config ≠ kind fault) {spec : Entries} :
    FailsBy kind (patternsOf spec) ↔
      ∃ start stop, WritesPatterns spec start stop ∧ FailsBy kind (patternsFor spec start stop) := by
  rw [patternsOf, failsBy_bind, or_iff_right (not_failsBy_patternAt hkind)]
  constructor
  · rintro ⟨start, hstart, h⟩
    rw [failsBy_bind, or_iff_right (not_failsBy_patternAt hkind)] at h
    obtain ⟨stop, hstop, h⟩ := h
    exact ⟨start, stop, ⟨patternAt_eq_ok.1 hstart, patternAt_eq_ok.1 hstop⟩, h⟩
  · rintro ⟨start, stop, ⟨hstart, hstop⟩, h⟩
    refine ⟨start, patternAt_eq_ok.2 hstart, ?_⟩
    rw [failsBy_bind]
    exact .inr ⟨stop, patternAt_eq_ok.2 hstop, h⟩

theorem not_failsBy_builtinOf_text {γ : Type} {kind : γ → SetupFault}
    (hkind : ∀ config fault, SetupFault.config config ≠ kind fault) (name : Text) :
    ¬ FailsBy kind (builtinOf (.text name)) := by
  unfold builtinOf refuse written
  rw [if_neg (by simp [Value.isCompound]), if_pos (isWritable_text name)]
  split <;> simp [bind, Except.bind, hkind]

/-- Other faults than those of a check come of what stands in place of the name of ready-made markers,
or of the patterns if nothing stands there. -/
theorem failsBy_markersOf {γ : Type} {kind : γ → SetupFault}
    (hkind : ∀ config fault, SetupFault.config config ≠ kind fault) :
    FailsBy kind (markersOf v) ↔ ∃ spec, v = .map spec ∧
      ((∃ name, Value.entry? "builtin" spec = some name ∧ name ≠ .null ∧
          FailsBy kind (builtinOf name)) ∨
        NamesNone spec ∧ ∃ start stop, WritesPatterns spec start stop ∧
          FailsBy kind (patternsFor spec start stop)) := by
  unfold markersOf NamesNone
  split
  · rename_i name
    rw [failsBy_map]
    exact iff_of_false (not_failsBy_builtinOf_text hkind name) (by simp)
  · rename_i spec
    simp only [Value.map.injEq, exists_eq_left']
    split
    · rename_i hnone
      simp [failsBy_map, failsBy_patternsOf hkind, hnone]
    · rename_i hnone
      simp [failsBy_map, failsBy_patternsOf hkind, hnone]
    · rename_i name hnull hname
      simp [failsBy_map, hname, show name ≠ .null from hnull]
  · rename_i hmap
    refine iff_of_false (by simp [hkind]) ?_
    rintro ⟨spec, rfl, -⟩
    exact hmap spec rfl

/-- Whether the description of markers has a value that no check is made for: something in place of the
name of ready-made markers that cannot be looked up or shown, or too large a number in patterns. -/
inductive MarkersTrip : Value → Prop where
  | builtin {spec : Entries} {name : Value} (hname : Value.entry? "builtin" spec = some name)
      (hnull : name ≠ .null) (h : name.isCompound = true ∨ name.isWritable = false) :
      MarkersTrip (.map spec)
  | patterns {spec : Entries} {start stop : Text} (hnone : NamesNone spec)
      (hwrites : WritesPatterns spec start stop) (h : PatternsTrip spec start stop) :
      MarkersTrip (.map spec)

theorem trips_markersOf : FailsBy .kind (markersOf v) ↔ MarkersTrip v := by
  rw [failsBy_markersOf (by simp)]
  simp only [trips_builtinOf, trips_patternsFor]
  constructor
  · rintro ⟨spec, rfl, ⟨name, hname, hnull, h⟩ | ⟨hnone, start, stop, hwrites, h⟩⟩
    · exact .builtin hname hnull h
    · exact .patterns hnone hwrites h
  · rintro (⟨hname, hnull, h⟩ | ⟨hnone, hwrites, h⟩)
    · exact ⟨_, rfl, .inl ⟨_, hname, hnull, h⟩⟩
    · exact ⟨_, rfl, .inr ⟨hnone, _, _, hwrites, h⟩⟩

/-- Whether the description of markers has a pattern that is not covered. -/
inductive MarkersStray : Value → Prop where
  | patterns {spec : Entries} {start stop : Text} (hnone : NamesNone spec)
      (hwrites : WritesPatterns spec start stop) (h : PatternsStray spec start stop) :
      MarkersStray (.map spec)

theorem strays_markersOf : FailsBy .uncovered (markersOf v) ↔ MarkersStray v := by
  rw [failsBy_markersOf (by simp)]
  simp only [not_strays_builtinOf, strays_patternsFor, and_false, exists_false, false_or]
  constructor
  · rintro ⟨spec, rfl, hnone, start, stop, hwrites, h⟩
    exact .patterns hnone hwrites h
  · rintro ⟨hnone, hwrites, h⟩
    exact ⟨_, rfl, hnone, _, _, hwrites, h⟩

/-! ## Configurations -/

theorem not_failsBy_checked {γ α : Type} {kind : γ → SetupFault}
    (hkind : ∀ config fault, SetupFault.config config ≠ kind fault) (x : Except StyleFault α) :
    ¬ FailsBy kind (checked .style x) := by
  unfold checked
  split <;> simp [hkind]

/-- The value at a key, or null. -/
def valueAt (key : String) (entries : Entries) : Value :=
  (Value.entry? key entries).getD .null

/-- Whether the entries of a configuration have a value that no check is made for, those before it in
the order in which they are looked at being in order. -/
inductive EntriesTrip (entries : Entries) : Prop where
  | preset (h : PresetTrips (valueAt "preset" entries))
  | comments (hpreset : PresetInOrder (valueAt "preset" entries))
      (h : ListTrips (valueAt "comments" entries))
  | nesting (hpreset : PresetInOrder (valueAt "preset" entries))
      (hcomments : CommentsInOrder (valueAt "preset" entries) (valueAt "comments" entries))
      (h : UnwritableAt "nesting" entries)
  | markers {v : Value} (hpreset : PresetInOrder (valueAt "preset" entries))
      (hcomments : CommentsInOrder (valueAt "preset" entries) (valueAt "comments" entries))
      (hnesting : ¬ UnwritableAt "nesting" entries)
      (hinverse : ∀ v, Value.entry? "inverse" entries = some v → ∃ inverse, v = .bool inverse)
      (hmarkers : Value.entry? "oracle" entries = some v) (h : MarkersTrip v)

/-- Whether the entries of a configuration have a pattern that is not covered, all that is looked at
before it being in order. -/
structure EntriesStray (entries : Entries) : Prop where
  preset : PresetInOrder (valueAt "preset" entries)
  comments : CommentsInOrder (valueAt "preset" entries) (valueAt "comments" entries)
  nesting : ¬ UnwritableAt "nesting" entries
  inverse : ∀ v, Value.entry? "inverse" entries = some v → ∃ inverse, v = .bool inverse
  markers : ∃ v, Value.entry? "oracle" entries = some v ∧ MarkersStray v

theorem failsBy_setMarkers {γ : Type} {kind : γ → SetupFault} (b : Builder) :
    FailsBy kind (setMarkers entries b) ↔
      ∃ v, Value.entry? "oracle" entries = some v ∧ FailsBy kind (markersOf v) := by
  unfold setMarkers
  split <;> simp_all [failsBy_map]

/-- The checks are made one after the other, and each is reached if those before it have succeeded. -/
theorem failsBy_ofConfig {γ : Type} {kind : γ → SetupFault} {bad : Prop}
    (hkind : ∀ config fault, SetupFault.config config ≠ kind fault)
    (hnesting : ∀ b, FailsBy kind (setNesting entries b) ↔ bad) :
    FailsBy kind (ofConfig entries) ↔
      FailsBy kind (commentsOf (valueAt "preset" entries) (valueAt "comments" entries)) ∨
        (PresetInOrder (valueAt "preset" entries) ∧
          CommentsInOrder (valueAt "preset" entries) (valueAt "comments" entries)) ∧
        (bad ∨ ¬ UnwritableAt "nesting" entries ∧
          (∀ v, Value.entry? "inverse" entries = some v → ∃ inverse, v = .bool inverse) ∧
            ∃ v, Value.entry? "oracle" entries = some v ∧ FailsBy kind (markersOf v)) := by
  -- from the last check back to the first: none depends on the builder that is handed on
  have hlast : ∀ b, FailsBy kind (setMarkers entries b >>= fun b => checked .style b.build) ↔
      ∃ v, Value.entry? "oracle" entries = some v ∧ FailsBy kind (markersOf v) := by
    intro b
    rw [failsBy_bind, failsBy_setMarkers]
    simp [not_failsBy_checked hkind]
  have hfrom : ∀ b, FailsBy kind (setInverse entries b >>= fun b => setMarkers entries b >>= fun b =>
        checked .style b.build) ↔
      (∀ v, Value.entry? "inverse" entries = some v → ∃ inverse, v = .bool inverse) ∧
        ∃ v, Value.entry? "oracle" entries = some v ∧ FailsBy kind (markersOf v) := by
    intro b
    rw [failsBy_bind_iff hlast, or_iff_right (not_failsBy_setInverse (hkind _) b),
      succeeds_setInverse]
  have hbuilt : ∀ b, FailsBy kind (setNesting entries b >>= fun b => setInverse entries b >>= fun b =>
        setMarkers entries b >>= fun b => checked .style b.build) ↔
      bad ∨ ¬ UnwritableAt "nesting" entries ∧
        (∀ v, Value.entry? "inverse" entries = some v → ∃ inverse, v = .bool inverse) ∧
          ∃ v, Value.entry? "oracle" entries = some v ∧ FailsBy kind (markersOf v) := by
    intro b
    rw [failsBy_bind_iff hfrom, hnesting, succeeds_setNesting]
  show FailsBy kind (commentsOf (valueAt "preset" entries) (valueAt "comments" entries) >>= _) ↔ _
  rw [failsBy_bind_iff hbuilt, succeeds_commentsOf]

theorem trips_ofConfig : FailsBy .kind (ofConfig entries) ↔ EntriesTrip entries := by
  rw [failsBy_ofConfig (by simp) trips_setNesting, trips_commentsOf]
  simp only [trips_markersOf]
  constructor
  · rintro ((hpreset | ⟨hpreset, hlist⟩) | ⟨⟨hpreset, hcomments⟩,
      hnesting | ⟨hnesting, hinverse, v, hv, hmarkers⟩⟩)
    · exact .preset hpreset
    · exact .comments hpreset hlist
    · exact .nesting hpreset hcomments hnesting
    · exact .markers hpreset hcomments hnesting hinverse hv hmarkers
  · intro h
    cases h with
    | preset h => exact .inl (.inl h)
    | comments hpreset h => exact .inl (.inr ⟨hpreset, h⟩)
    | nesting hpreset hcomments h => exact .inr ⟨⟨hpreset, hcomments⟩, .inl h⟩
    | markers hpreset hcomments hnesting hinverse hv h =>
      exact .inr ⟨⟨hpreset, hcomments⟩, .inr ⟨hnesting, hinverse, _, hv, h⟩⟩

theorem strays_ofConfig : FailsBy .uncovered (ofConfig entries) ↔ EntriesStray entries := by
  have hnesting : ∀ b, FailsBy .uncovered (setNesting entries b) ↔ False :=
    fun b => iff_of_false (not_strays_setNesting b) not_false
  rw [failsBy_ofConfig (by simp) hnesting, or_iff_right not_strays_commentsOf]
  simp only [strays_markersOf, false_or]
  constructor
  · rintro ⟨⟨hpreset, hcomments⟩, hnesting, hinverse, hmarkers⟩
    exact ⟨hpreset, hcomments, hnesting, hinverse, hmarkers⟩
  · rintro ⟨hpreset, hcomments, hnesting, hinverse, hmarkers⟩
    exact ⟨⟨hpreset, hcomments⟩, hnesting, hinverse, hmarkers⟩

/-! ## Keys -/

theorem mapM_text?_eq_none {keys : List Value} :
    keys.mapM Value.text? = none ↔ ∃ k ∈ keys, k.text? = none := by
  induction keys with
  | nil => simp
  | cons k keys ih =>
    rw [List.mapM_cons]
    cases hk : k.text? <;> cases hkeys : keys.mapM Value.text? <;> simp_all

theorem unknownKeyFault_eq_kind {keys : List Value} :
    (∃ fault, unknownKeyFault keys = .kind fault) ↔ ∃ k ∈ keys, k.text? = none := by
  rw [← mapM_text?_eq_none]
  unfold unknownKeyFault
  split
  · rename_i texts htexts
    simp [htexts]
  · rename_i htexts
    refine iff_of_true ?_ htexts
    split
    · exact ⟨_, rfl⟩
    · split
      · cases htexts
      · exact ⟨_, rfl⟩

theorem unknownKeyFault_ne_uncovered {keys : List Value} (pattern : Text) :
    unknownKeyFault keys ≠ .uncovered pattern := by
  unfold unknownKeyFault
  split
  · simp
  · split
    · simp
    · split <;> simp

/-- Whether a key is one that a configuration may have. -/
def IsKnown (k : Value) : Prop :=
  ∃ name ∈ knownKeys, k = .text name

theorem isKnown_iff {k : Value} : IsKnown k ↔ k.text?.any (knownKeys.contains ·) = true := by
  unfold IsKnown
  cases k <;> simp [Value.text?]

theorem trips_entriesOf {path : String} :
    FailsBy .kind (entriesOf path v) ↔
      ∃ entries, v = .map entries ∧ ∃ k ∈ entries.map Prod.fst, k.text? = none := by
  cases v with
  | map entries =>
    simp only [entriesOf, Value.map.injEq, exists_eq_left']
    split
    · rename_i hempty
      refine iff_of_false (by simp) ?_
      rintro ⟨k, hk, htext⟩
      have hknown := List.filter_eq_nil_iff.1 (List.isEmpty_iff.1 hempty) k hk
      simp [htext] at hknown
    · simp only [failsBy_error, unknownKeyFault_eq_kind, List.mem_filter]
      constructor
      · rintro ⟨k, ⟨hk, -⟩, htext⟩
        exact ⟨k, hk, htext⟩
      · rintro ⟨k, hk, htext⟩
        exact ⟨k, ⟨hk, by simp [htext]⟩, htext⟩
  | _ => simp [entriesOf]

theorem not_strays_entriesOf {path : String} : ¬ FailsBy .uncovered (entriesOf path v) := by
  cases v with
  | map entries =>
    simp only [entriesOf]
    split <;> simp [unknownKeyFault_ne_uncovered]
  | _ => simp [entriesOf]

theorem entriesOf_eq_ok {path : String} :
    entriesOf path v = .ok entries ↔
      v = .null ∧ entries = [] ∨ v = .map entries ∧ ∀ k ∈ entries.map Prod.fst, IsKnown k := by
  cases v with
  | null => simp [entriesOf, eq_comm]
  | map found =>
    simp only [entriesOf, reduceCtorEq, false_and, false_or, Value.map.injEq]
    split
    · rename_i hempty
      have hknown := List.filter_eq_nil_iff.1 (List.isEmpty_iff.1 hempty)
      rw [Except.ok.injEq]
      refine ⟨?_, And.left⟩
      rintro rfl
      exact ⟨rfl, fun k hk => isKnown_iff.2 (by simpa using hknown k hk)⟩
    · rename_i hsome
      refine iff_of_false (by simp) ?_
      rintro ⟨rfl, hknown⟩
      apply hsome
      rw [List.isEmpty_iff, List.filter_eq_nil_iff]
      intro k hk
      simpa using isKnown_iff.1 (hknown k hk)
  | _ => simp [entriesOf]

/-- A configuration that says nothing is one that a check finds fault with. -/
theorem ofConfig_nil : ofConfig [] = .error (.config .nothingToUse) := rfl

/-- Whether a configuration has a value that no check is made for: a key that is no text, or, with all
keys known, a value among its entries. -/
inductive ConfigTrips : Value → Prop where
  | key {entries : Entries} {k : Value} (hk : k ∈ entries.map Prod.fst) (h : k.text? = none) :
      ConfigTrips (.map entries)
  | entries {entries : Entries} (hknown : ∀ k ∈ entries.map Prod.fst, IsKnown k)
      (h : EntriesTrip entries) : ConfigTrips (.map entries)

/-- Whether a configuration has a pattern that is not covered, with all keys known. -/
inductive ConfigStrays : Value → Prop where
  | entries {entries : Entries} (hknown : ∀ k ∈ entries.map Prod.fst, IsKnown k)
      (h : EntriesStray entries) : ConfigStrays (.map entries)

/-- A configuration of a file meets an operation that does not take a value of it exactly if it has a
value that no check is made for. -/
theorem trips_config (path : String) :
    FailsBy .kind (entriesOf path v >>= ofConfig) ↔ ConfigTrips v := by
  rw [failsBy_bind, trips_entriesOf]
  simp only [entriesOf_eq_ok, trips_ofConfig]
  constructor
  · rintro (⟨entries, rfl, k, hk, htext⟩ | ⟨entries, ⟨-, rfl⟩ | ⟨rfl, hknown⟩, h⟩)
    · exact .key hk htext
    · exact absurd (trips_ofConfig.2 h) (by simp [ofConfig_nil])
    · exact .entries hknown h
  · intro h
    cases h with
    | key hk htext => exact .inl ⟨_, rfl, _, hk, htext⟩
    | entries hknown h => exact .inr ⟨_, .inr ⟨rfl, hknown⟩, h⟩

/-- Of a configuration of a file nothing is said exactly if it has a pattern that is not covered. -/
theorem strays_config (path : String) :
    FailsBy .uncovered (entriesOf path v >>= ofConfig) ↔ ConfigStrays v := by
  rw [failsBy_bind, or_iff_right not_strays_entriesOf]
  simp only [entriesOf_eq_ok, strays_ofConfig]
  constructor
  · rintro ⟨entries, ⟨-, rfl⟩ | ⟨rfl, hknown⟩, h⟩
    · exact absurd (strays_ofConfig.2 h) (by simp [ofConfig_nil])
    · exact .entries hknown h
  · rintro ⟨hknown, h⟩
    exact ⟨_, .inr ⟨rfl, hknown⟩, h⟩

end Setup

/-! ## Configuration files -/

namespace Session

variable {t : FileTree} {load : Loader} {path : String} {bytes : ByteArray} {v : Value}

/-- The setup of the configuration file at a path. -/
def setupOf (load : Loader) (path : String) : Session Setup := do
  let entries ← loadConfig load path
  lift .setup (Setup.ofConfig entries)

theorem ends_loadConfig (hbytes : t.bytesAt (Path.ofString path).toString = .ok bytes)
    (hvalue : load bytes = .ok v) :
    (loadConfig load path).Ends t
      ((Setup.entriesOf (Path.ofString path).toString v).mapError .setup) t := by
  have hread := ends_readBytes (Path.ofString path).toString t
  have hloaded : (lift .load (load bytes)).Ends t (.ok v) t := by
    rw [hvalue]
    exact ends_pure v t
  rw [hbytes] at hread
  unfold loadConfig
  exact hread.bind (hloaded.bind (ends_lift _ _ t))

theorem ends_setupOf (hbytes : t.bytesAt (Path.ofString path).toString = .ok bytes)
    (hvalue : load bytes = .ok v) :
    (setupOf load path).Ends t
      ((Setup.entriesOf (Path.ofString path).toString v >>= Setup.ofConfig).mapError .setup) t := by
  have hload := ends_loadConfig hbytes hvalue
  unfold setupOf
  cases hentries : Setup.entriesOf (Path.ofString path).toString v with
  | error fault =>
    rw [hentries] at hload
    exact hload.bind_error
  | ok entries =>
    rw [hentries] at hload
    exact hload.bind (ends_lift _ _ t)

/-- Whether a setup is made or a check has found what is wrong. -/
def reports : Except Failure Setup → Bool
  | .ok _ => true
  | .error (.setup (.config _)) => true
  | .error _ => false

theorem reports_iff {r : Except Failure Setup} :
    reports r = true ↔ (∃ setup, r = .ok setup) ∨ ∃ fault, r = .error (.setup (.config fault)) := by
  unfold reports
  split <;> simp_all

/-- A file can be given by its text, and a value by what it is shown as. -/
theorem exists_value_of_shown (content shown : String) (hread : t.read path = .ok content.toUTF8)
    (hnull : hasNull path = false)
    (hshown : (Yaml.load content.toUTF8).toOption.map Value.shown = some shown) :
    t.bytesAt path = .ok content.toUTF8 ∧
      ∃ v, Yaml.load content.toUTF8 = .ok v ∧ v.shown = shown := by
  constructor
  · unfold FileTree.bytesAt usable
    rw [if_neg (by simp [hnull]), hread]
    rfl
  · obtain ⟨v, hv, hshown⟩ := Option.map_eq_some_iff.1 hshown
    cases hvalue : Yaml.load content.toUTF8 with
    | error fault =>
      rw [hvalue] at hv
      cases hv
    | ok w =>
      rw [hvalue] at hv
      cases hv
      exact ⟨v, rfl, hshown⟩

end Session

/-- The setup of a configuration file is made, or a check finds what is wrong with the file, exactly if
the file has no value that no check is made for, and no pattern that is not covered. With such a value,
an operation meets it and fails. The file is read by any loader, and the files stay as they are. -/
theorem setup_or_configFault_iff {tree : FileTree} {load : Loader} {path : String}
    {bytes : ByteArray} {v : Value}
    (hbytes : tree.bytesAt (Path.ofString path).toString = .ok bytes) (hvalue : load bytes = .ok v) :
    let run := (Session.setupOf load path).runOn tree
    ((∃ setup, run.1 = .ok setup) ∨ (∃ fault, run.1 = .error (.setup (.config fault))) ↔
      ¬ Setup.ConfigTrips v ∧ ¬ Setup.ConfigStrays v) ∧
    ((∃ fault, run.1 = .error (.setup (.kind fault))) ↔ Setup.ConfigTrips v) ∧
    ((∃ pattern, run.1 = .error (.setup (.uncovered pattern))) ↔ Setup.ConfigStrays v) ∧
    run.2.tree = tree := by
  intro run
  have htrips := Setup.trips_config (v := v) (Path.ofString path).toString
  have hstrays := Setup.strays_config (v := v) (Path.ofString path).toString
  obtain ⟨journal, hends⟩ := (Session.ends_setupOf hbytes hvalue).exists_runOn
  obtain ⟨result, hresult⟩ :
      ∃ result, result = (Setup.entriesOf (Path.ofString path).toString v >>= Setup.ofConfig) :=
    ⟨_, rfl⟩
  rw [← hresult] at hends htrips hstrays
  have hrun : run = (result.mapError .setup, { tree, journal }) := hends
  rw [hrun, ← htrips, ← hstrays]
  rcases result with ⟨fault | fault | pattern⟩ | setup <;> simp [Except.mapError]

/-- A number in place of the comments is found by a check. -/
theorem number_as_comments_reported :
    let content := "comments: 5"
    let tree : FileTree := { cwd := [], entries := [(["c"], .file content.toUTF8)] }
    let run := (Session.setupOf Yaml.load "c").runOn tree
    tree.bytesAt (Path.ofString "c").toString = .ok content.toUTF8 ∧
      ∃ v, Yaml.load content.toUTF8 = .ok v ∧
        v.shown = "\x7b'comments': 5\x7d" ∧
        ((∃ setup, run.1 = .ok setup) ∨ ∃ fault, run.1 = .error (.setup (.config fault))) := by
  intro content tree run
  have hread : tree.read (Path.ofString "c").toString = .ok content.toUTF8 := by
    decide +kernel
  obtain ⟨hbytes, v, hvalue, hshown⟩ :=
    Session.exists_value_of_shown content "\x7b'comments': 5\x7d" hread (by decide +kernel)
      (by decide +kernel)
  obtain ⟨hreported, htrips, hstrays, -⟩ := setup_or_configFault_iff hbytes hvalue
  have hreports : Session.reports run.1 = true := by
    decide +kernel
  refine ⟨hbytes, v, hvalue, hshown, hreported.2 ⟨fun h => ?_, fun h => ?_⟩⟩
  · obtain ⟨fault, hfault⟩ := htrips.2 h
    rw [show run.1 = _ from hfault] at hreports
    cases hreports
  · obtain ⟨pattern, hpattern⟩ := hstrays.2 h
    rw [show run.1 = _ from hpattern] at hreports
    cases hreports

/-- A preset that is a number meets an operation for texts. -/
theorem number_as_preset_not_reported :
    ¬ ∀ (tree : FileTree) (load : Loader) (path : String) (bytes : ByteArray) (v : Value),
      tree.bytesAt (Path.ofString path).toString = .ok bytes → load bytes = .ok v →
      let run := (Session.setupOf load path).runOn tree
      (∃ setup, run.1 = .ok setup) ∨ ∃ fault, run.1 = .error (.setup (.config fault)) := by
  intro h
  let tree : FileTree := { cwd := [], entries := [(["c"], .file "preset: 5".toUTF8)] }
  have hread : tree.read (Path.ofString "c").toString = .ok "preset: 5".toUTF8 := by
    decide +kernel
  obtain ⟨hbytes, v, hvalue, -⟩ :=
    Session.exists_value_of_shown "preset: 5" "\x7b'preset': 5\x7d" hread (by decide +kernel)
      (by decide +kernel)
  have hreports := Session.reports_iff.2 (h tree Yaml.load "c" _ v hbytes hvalue)
  have hnot : Session.reports ((Session.setupOf Yaml.load "c").runOn tree).1 = false := by
    decide +kernel
  rw [hnot] at hreports
  cases hreports

end KeptRegions
