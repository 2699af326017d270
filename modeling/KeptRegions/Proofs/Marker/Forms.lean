import KeptRegions.Proofs.Marker.Keyword
import KeptRegions.Proofs.Pattern.Spelling

namespace KeptRegions

/-!
# The forms of start markers

A start marker whose id stands in parentheses is written as words, the id and the keyword if there is
one, with delimiters around. There is one way only to see a text as such a marker
(`StartMarker.text_injective`), and the pattern reports the id of that way.
-/

/-! ## Forms -/

/-- How a start marker is written: its words before the id and the keyword that may follow. -/
structure StartForm where
  words : List Text
  keyword : Text
  words_begin : ∀ word ∈ words, BeginsWord word
  keyword_begins : BeginsWord keyword
  keyword_apart : ∀ c ∈ keyword.head?, c ∉ "START".toList
  keyword_ends : keyword.getLast?.any isWord = true

namespace StartForm

/-- `PROTECTED REGION ID(…) ENABLED START`. -/
def protectedRegion : StartForm where
  words := ["PROTECTED".toList, "REGION".toList]
  keyword := "ENABLED".toList
  words_begin := by decide
  keyword_begins := by decide
  keyword_apart c hc := by
    obtain rfl : 'E' = c := Option.some.inj hc
    decide
  keyword_ends := by decide

/-- `GENERATED ID(…) DISABLED START`. -/
def generated : StartForm where
  words := ["GENERATED".toList]
  keyword := "DISABLED".toList
  words_begin := by decide
  keyword_begins := by decide
  keyword_apart c hc := by
    obtain rfl : 'D' = c := Option.some.inj hc
    decide
  keyword_ends := by decide

/-- The keyword and the gap behind it, if they are there. -/
def flagText (form : StartForm) : Option Text → Text
  | none => []
  | some gap => form.keyword ++ gap

end StartForm

/-- A start marker in its parts. -/
@[ext]
structure StartMarker (form : StartForm) where
  /-- What comes before the first word. -/
  lead : Text
  /-- The gaps behind the words. -/
  gaps : List Text
  /-- The space between `ID` and the opening parenthesis. -/
  space : Text
  /-- The id as it is written. -/
  id : Text
  /-- The gap behind the closing parenthesis. -/
  gap : Text
  /-- The gap behind the keyword, if there is a keyword. -/
  flag : Option Text
  /-- What comes behind `START`. -/
  trail : Text
  wordless_lead : Wordless lead
  length_gaps : gaps.length = form.words.length
  gaps_between : ∀ g ∈ gaps, Gap g
  blank_space : Blank space
  id_closes : ')' ∉ id
  gap_behind : Gap gap
  gap_flag : ∀ g ∈ flag, Gap g
  wordless_trail : Wordless trail

namespace StartMarker

variable {form : StartForm}

/-- What is written before the id. -/
def beforeId (marker : StartMarker form) : Text :=
  marker.lead ++ (spacedText form.words marker.gaps ++ ("ID".toList ++ (marker.space ++ ['('])))

/-- What is written behind the id. -/
def behindId (marker : StartMarker form) : Text :=
  ')' :: (marker.gap ++ (form.flagText marker.flag ++ ("START".toList ++ marker.trail)))

/-- The marker as it is written. -/
def text (marker : StartMarker form) : Text :=
  marker.beforeId ++ marker.id ++ marker.behindId

end StartMarker

/-! ## There is one way only to see a text as a marker -/

namespace StartMarker

variable {form : StartForm}

theorem beginsWord_start (trail : Text) : BeginsWord ("START".toList ++ trail) :=
  BeginsWord.append (by decide) trail

theorem beginsWord_flagText (flag : Option Text) (trail : Text) :
    BeginsWord (form.flagText flag ++ ("START".toList ++ trail)) := by
  cases flag with
  | none => exact beginsWord_start trail
  | some gap =>
    rw [StartForm.flagText, List.append_assoc]
    exact form.keyword_begins.append _

/-- The keyword does not begin like `START`. -/
theorem flagText_some_ne {gap s trail : Text} :
    form.flagText (some gap) ++ s ≠ "START".toList ++ trail := by
  intro h
  obtain ⟨c, hc, -⟩ := form.keyword_begins.exists_head
  apply form.keyword_apart c hc
  have hhead := congrArg List.head? h
  rw [StartForm.flagText, List.append_assoc, List.head?_append, hc, Option.some_or] at hhead
  obtain rfl : c = 'S' := Option.some.inj hhead
  decide

theorem flagText_append_inj {flag flag' : Option Text} {trail trail' : Text}
    (hflag : ∀ g ∈ flag, Gap g) (hflag' : ∀ g ∈ flag', Gap g)
    (h : form.flagText flag ++ ("START".toList ++ trail) =
      form.flagText flag' ++ ("START".toList ++ trail')) : flag = flag' ∧ trail = trail' := by
  rcases flag with _ | gap <;> rcases flag' with _ | gap'
  · exact ⟨rfl, List.append_cancel_left h⟩
  · exact absurd h.symm flagText_some_ne
  · exact absurd h flagText_some_ne
  · rw [StartForm.flagText, StartForm.flagText, List.append_assoc, List.append_assoc] at h
    obtain ⟨rfl, hrest⟩ := (hflag gap rfl).2.append_inj (hflag' gap' rfl).2
      (beginsWord_start trail) (beginsWord_start trail') (List.append_cancel_left h)
    exact ⟨rfl, List.append_cancel_left hrest⟩

theorem text_injective : Function.Injective fun marker : StartMarker form => marker.text := by
  intro a b h
  have hid : ∀ rest, BeginsWord ("ID".toList ++ rest) := fun rest =>
    BeginsWord.append (by decide) rest
  have hparen : ∀ rest : Text, ∀ c ∈ (['('] ++ rest).head?, ¬isBlank c = true := by
    intro rest c hc
    obtain rfl : '(' = c := Option.some.inj hc
    decide
  have hclose : ∀ rest : Text, ∀ c ∈ (')' :: rest).head?, ¬c ≠ ')' := by
    intro rest c hc
    obtain rfl : ')' = c := Option.some.inj hc
    exact not_not_intro rfl
  simp only [text, beforeId, behindId, List.append_assoc] at h
  -- the parts are peeled off from the left: each run ends where the next part begins
  obtain ⟨hlead, h⟩ := a.wordless_lead.append_inj b.wordless_lead
    (beginsWord_spacedText_append form.words_begin a.length_gaps fun _ => hid _)
    (beginsWord_spacedText_append form.words_begin b.length_gaps fun _ => hid _) h
  obtain ⟨hgaps, h⟩ := spacedText_append_inj form.words_begin a.length_gaps b.length_gaps
    a.gaps_between b.gaps_between (hid _).not_blank (hid _).not_blank h
  obtain ⟨hspace, h⟩ := append_inj_of_run a.blank_space b.blank_space (hparen _) (hparen _)
    (List.append_cancel_left h)
  obtain ⟨hid, h⟩ := append_inj_of_run (P := (· ≠ ')'))
    (fun c hc => ne_of_mem_of_not_mem hc a.id_closes) (fun c hc => ne_of_mem_of_not_mem hc b.id_closes)
    (hclose _) (hclose _) (List.append_cancel_left h)
  obtain ⟨hgap, h⟩ := a.gap_behind.2.append_inj b.gap_behind.2 (beginsWord_flagText _ _)
    (beginsWord_flagText _ _) (List.cons.inj h).2
  obtain ⟨hflag, htrail⟩ := flagText_append_inj a.gap_flag b.gap_flag h
  exact StartMarker.ext hlead hgaps hspace hid hgap hflag htrail

end StartMarker

/-! ## The patterns of the forms -/

namespace StartForm

/-- The characters of an id in parentheses. -/
def unclosed : CharSet :=
  { negated := true, items := [.range 41 41] }

theorem has_unclosed {c : Char} : unclosed.has c = true ↔ c ≠ ')' := by
  have hnot : unclosed.has c = !(CharSet.single ')'.toNat).has c := by
    simp [unclosed, CharSet.has, CharSet.single]
  rw [hnot, Bool.not_eq_true', ← Bool.not_eq_true, Pattern.has_single]

/-- The pattern of what is behind the id. -/
def patternBehind (form : StartForm) : Pattern :=
  .spelled [')'] (.seq .gap (.seq (.times (.spelled form.keyword .gap) 0 (some 1) true)
    (.spelled "START".toList (.delimiters true))))

/-- The pattern of what follows the words. -/
def patternRest (form : StartForm) : Pattern :=
  .spelled "ID".toList (.seq .anyBlanks (.spelled ['(']
    (.seq (.named idGroup (.times (.one unclosed) 0 none true)) form.patternBehind)))

/-- The pattern of the form. -/
def pattern (form : StartForm) : Pattern :=
  .seq (.delimiters false) (.spaced form.words form.patternRest)

theorem start_protectedRegion : MarkerPatterns.protectedRegion.start = protectedRegion.pattern := by
  decide +kernel

theorem start_generated : MarkerPatterns.generated.start = generated.pattern := by
  decide +kernel

variable {form : StartForm} {m : Text} {found : Spans} {i : Nat}

theorem names_patternBehind (form : StartForm) : form.patternBehind.names = [] := by
  rw [patternBehind, Pattern.names_spelled, Pattern.names, Pattern.names, Pattern.names_spelled,
    Pattern.names, Pattern.names_spelled]
  rfl

theorem mem_language_flag :
    m ∈ (Pattern.times (.spelled form.keyword .gap) 0 (some 1) true).language ↔
      ∃ flag, (∀ g ∈ flag, Gap g) ∧ m = form.flagText flag := by
  rw [Pattern.mem_language_optional, Pattern.mem_language_spelled]
  constructor
  · rintro (rfl | ⟨gap, rfl, hgap⟩)
    · exact ⟨none, nofun, rfl⟩
    · refine ⟨some gap, ?_, rfl⟩
      rintro _ ⟨⟩
      exact Pattern.mem_language_gap.1 hgap
  · rintro ⟨flag, hflag, rfl⟩
    cases flag with
    | none => exact .inl rfl
    | some gap => exact .inr ⟨gap, rfl, Pattern.mem_language_gap.2 (hflag gap rfl)⟩

theorem mem_language_patternBehind :
    m ∈ form.patternBehind.language ↔
      ∃ gap flag trail, Gap gap ∧ (∀ g ∈ flag, Gap g) ∧ Wordless trail ∧
        m = ')' :: (gap ++ (form.flagText flag ++ ("START".toList ++ trail))) := by
  rw [patternBehind, Pattern.mem_language_spelled]
  constructor
  · rintro ⟨_, rfl, gap, hgap, _, ⟨_, hmem, _, hstart, rfl⟩, rfl⟩
    obtain ⟨flag, hflag, rfl⟩ := mem_language_flag.1 hmem
    obtain ⟨trail, rfl, htrail⟩ := Pattern.mem_language_spelled.1 hstart
    exact ⟨gap, flag, trail, Pattern.mem_language_gap.1 hgap, hflag,
      Pattern.mem_language_delimiters.1 htrail, rfl⟩
  · rintro ⟨gap, flag, trail, hgap, hflag, htrail, rfl⟩
    exact ⟨_, rfl, gap, Pattern.mem_language_gap.2 hgap, _,
      ⟨_, mem_language_flag.2 ⟨flag, hflag, rfl⟩, _,
        Pattern.mem_language_spelled.2 ⟨trail, rfl, Pattern.mem_language_delimiters.2 htrail⟩, rfl⟩, rfl⟩

/-- The characters of an id in parentheses as a run. -/
theorem mem_language_id :
    m ∈ (Pattern.times (.one unclosed) 0 none true).language ↔ ')' ∉ m := by
  rw [Pattern.mem_language_run]
  simp only [has_unclosed, Nat.zero_le, true_and]
  constructor
  · exact fun h hmem => h ')' hmem rfl
  · exact fun h c hc => ne_of_mem_of_not_mem hc h

theorem names_id : (Pattern.times (.one unclosed) 0 none true).names = [] := by
  rfl

/-- What the pattern matches is a marker of the form. -/
theorem exists_marker_of_reports (h : form.pattern.Reports i m found) :
    ∃ marker : StartMarker form, m = marker.text ∧
      found = [(idGroup, i + marker.beforeId.length,
        i + marker.beforeId.length + marker.id.length)] := by
  -- only the id is named: what comes before it moves its span, what is behind it reports nothing
  rw [pattern, Pattern.reports_seq_of_nameless (Pattern.names_delimiters false)] at h
  obtain ⟨lead, _, rfl, lead_mem, hwords⟩ := h
  obtain ⟨gaps, _, hlength, hgaps, rfl, hID⟩ := Pattern.reports_spaced.1 hwords
  obtain ⟨_, rfl, hblanks⟩ := Pattern.reports_spelled.1 hID
  obtain ⟨space, _, rfl, space_mem, hopen⟩ :=
    (Pattern.reports_seq_of_nameless Pattern.names_anyBlanks).1 hblanks
  obtain ⟨_, rfl, hnamed⟩ := Pattern.reports_spelled.1 hopen
  obtain ⟨id, rest, found', rfl, id_mem, rfl, hrest⟩ :=
    (Pattern.reports_seq_named idGroup names_id).1 hnamed
  obtain ⟨rest_mem, rfl⟩ := (Pattern.reports_iff_of_nameless (names_patternBehind form)).1 hrest
  obtain ⟨gap, flag, trail, hgap, hflag, htrail, rfl⟩ := mem_language_patternBehind.1 rest_mem
  let marker : StartMarker form :=
    { lead, gaps, space, id, gap, flag, trail
      wordless_lead := Pattern.mem_language_delimiters.1 lead_mem
      length_gaps := hlength
      gaps_between := hgaps
      blank_space := Pattern.mem_language_anyBlanks.1 space_mem
      id_closes := mem_language_id.1 id_mem
      gap_behind := hgap
      gap_flag := hflag
      wordless_trail := htrail }
  refine ⟨marker, ?_, ?_⟩
  · simp only [marker, StartMarker.text, StartMarker.beforeId, StartMarker.behindId,
      List.append_assoc]
  · simp only [marker, StartMarker.beforeId, List.length_append, Nat.add_assoc, List.nil_append]

/-- The pattern matches a marker of the form and reports its id. -/
theorem reports_text (marker : StartMarker form) (i : Nat) :
    form.pattern.Reports i marker.text [(idGroup, i + marker.beforeId.length,
      i + marker.beforeId.length + marker.id.length)] := by
  have hbehind : form.patternBehind.Reports (i + marker.beforeId.length + marker.id.length)
      marker.behindId [] := by
    refine (Pattern.reports_iff_of_nameless (names_patternBehind form)).2 ⟨?_, rfl⟩
    exact mem_language_patternBehind.2 ⟨marker.gap, marker.flag, marker.trail, marker.gap_behind,
      marker.gap_flag, marker.wordless_trail, rfl⟩
  have hnamed := (Pattern.reports_seq_named idGroup names_id).2
    ⟨marker.id, _, [], rfl, mem_language_id.2 marker.id_closes, rfl, hbehind⟩
  simp only [StartMarker.text, StartMarker.beforeId, List.append_assoc] at hnamed ⊢
  rw [pattern, Pattern.reports_seq_of_nameless (Pattern.names_delimiters false)]
  refine ⟨marker.lead, _, rfl, Pattern.mem_language_delimiters.2 marker.wordless_lead, ?_⟩
  refine Pattern.reports_spaced.2 ⟨marker.gaps, _, marker.length_gaps, marker.gaps_between, rfl, ?_⟩
  refine Pattern.reports_spelled.2 ⟨_, rfl, ?_⟩
  refine (Pattern.reports_seq_of_nameless Pattern.names_anyBlanks).2
    ⟨marker.space, _, rfl, Pattern.mem_language_anyBlanks.2 marker.blank_space, ?_⟩
  refine Pattern.reports_spelled.2 ⟨_, rfl, ?_⟩
  simpa only [List.length_append, Nat.add_assoc, List.nil_append] using hnamed

/-- The pattern reports the id of a marker of the form, and nothing but markers of the form. -/
theorem reports_pattern :
    form.pattern.Reports i m found ↔
      ∃ marker : StartMarker form, m = marker.text ∧
        found = [(idGroup, i + marker.beforeId.length,
          i + marker.beforeId.length + marker.id.length)] := by
  refine ⟨exists_marker_of_reports, ?_⟩
  rintro ⟨marker, rfl, rfl⟩
  exact reports_text marker i

end StartForm

/-! ## What is read from a marker -/

namespace StartMarker

variable {form : StartForm}

/-- Behind the id the keyword stands between word boundaries just where the marker has it. -/
theorem standsBounded_behindId (marker : StartMarker form) :
    StandsBounded form.keyword none marker.behindId ↔ marker.flag.isSome = true := by
  have hclose : Wordless (')' :: marker.gap) :=
    List.forall_mem_cons.2 ⟨by decide, marker.gap_behind.2.wordless⟩
  obtain ⟨c, hc, hword⟩ := form.keyword_begins.exists_head
  rw [behindId]
  cases hflag : marker.flag with
  | none =>
    refine iff_of_false ?_ nofun
    rintro ⟨before, after, hsplit, -⟩
    -- the first character of the keyword would be in START
    have hmem : c ∈ (')' :: marker.gap) ++ ("START".toList ++ marker.trail) := by
      have hoccurs : c ∈ before ++ form.keyword ++ after :=
        List.mem_append_left _ (List.mem_append_right _ (List.mem_of_head? hc))
      rwa [← hsplit] at hoccurs
    rcases List.mem_append.1 hmem with hmem | hmem
    · rw [hclose c hmem] at hword
      cases hword
    · rcases List.mem_append.1 hmem with hmem | hmem
      · exact form.keyword_apart c hc hmem
      · rw [marker.wordless_trail c hmem] at hword
        cases hword
  | some gap =>
    -- the keyword has a parenthesis or a blank character before it, and its own gap behind it
    refine iff_of_true ?_ rfl
    have hgap := marker.gap_flag gap hflag
    refine ⟨')' :: marker.gap, gap ++ ("START".toList ++ marker.trail), ?_, ?_, ?_⟩
    · simp only [StartForm.flagText, List.cons_append, List.append_assoc]
    · rw [Option.or_none, isWordBoundary_of_word_behind (by rw [hc]; exact hword),
        List.getLast?_eq_some_getLast (List.cons_ne_nil _ _)]
      exact hclose _ (List.getLast_mem _)
    · rw [isWordBoundary_of_word_before form.keyword_ends, List.head?_append_of_ne_nil _ hgap.1,
        List.head?_eq_some_head hgap.1]
      exact hgap.2.wordless _ (List.head_mem _)

end StartMarker

namespace MarkerPatterns

variable {m : MarkerPatterns} {form : StartForm} {s : Text}

theorem isStart_iff_of_form (hstart : m.start = form.pattern) :
    m.rules.isStart s = true ↔ ∃ marker : StartMarker form, s = marker.text := by
  have hmatch : m.rules.isStart s = true ↔ s ∈ form.pattern.language := by
    rw [← hstart, ← Pattern.isSome_fullMatch?_iff]
    rfl
  rw [hmatch, Pattern.mem_language_iff_reports 0]
  simp only [StartForm.reports_pattern]
  constructor
  · rintro ⟨found, marker, rfl, -⟩
    exact ⟨marker, rfl⟩
  · rintro ⟨marker, rfl⟩
    exact ⟨_, marker, rfl, rfl⟩

theorem idSpan?_of_form (hstart : m.start = form.pattern) (marker : StartMarker form) :
    m.idSpan? marker.text = some (marker.id, marker.beforeId.length + marker.id.length) := by
  obtain ⟨found, hfound⟩ : ∃ found, m.start.fullMatch? marker.text = some found :=
    Option.isSome_iff_exists.1 ((isStart_iff_of_form hstart).2 ⟨marker, rfl⟩)
  have hreports := Pattern.exists_reports_of_fullMatch? hfound
  rw [hstart, StartForm.reports_pattern] at hreports
  obtain ⟨marker', htext, hspans⟩ := hreports
  -- the text is of the form in one way only, so the search found the id of this marker
  obtain rfl := StartMarker.text_injective htext
  rw [Nat.zero_add] at hspans
  have hspan : found.span? idGroup =
      some (marker.beforeId.length, marker.beforeId.length + marker.id.length) := by
    rw [Spot.span?, hspans, List.lookup_cons_self]
  have hcut : (marker.text.take (marker.beforeId.length + marker.id.length)).drop
      marker.beforeId.length = marker.id := by
    rw [StartMarker.text, ← List.length_append, List.take_left, List.drop_left]
  simp only [idSpan?, hfound, hspan, Option.bind_eq_bind, Option.bind_some, Option.pure_def, hcut]

theorem idOf_of_form (hstart : m.start = form.pattern) (marker : StartMarker form) :
    m.rules.idOf marker.text =
      if Text.strip marker.id = [] then none else some (Text.strip marker.id) := by
  simp only [rules, idSpan?_of_form hstart, Option.bind_eq_bind, Option.bind_some, List.isEmpty_iff]

theorem isEnabled_iff_of_form (hstart : m.start = form.pattern) (hkeyword : m.keyword = form.keyword)
    (marker : StartMarker form) :
    m.rules.isEnabled marker.text = true ↔
      (marker.flag.isSome = true ↔ m.enabledWhenPresent = true) := by
  have hne : m.keyword ≠ [] := hkeyword ▸ form.keyword_begins.ne_nil
  have hdrop : marker.text.drop (marker.beforeId.length + marker.id.length) = marker.behindId := by
    rw [StartMarker.text, ← List.length_append, List.drop_left]
  rw [isEnabled_iff_standsBounded hne (idSpan?_of_form hstart marker), hdrop, hkeyword,
    StartMarker.standsBounded_behindId]

/-- The ready-made start markers with an id in parentheses are the texts of their form. A text is of
the form in one way only, which gives the id, without the blank characters around it, and the flag:
the keyword between the id and `START` enables a protected region and disables a generated one. -/
theorem recognises_start_forms :
    ((∀ s, protectedRegion.rules.isStart s = true ↔
        ∃ marker : StartMarker .protectedRegion, s = marker.text) ∧
      (Function.Injective fun marker : StartMarker .protectedRegion => marker.text) ∧
      ∀ marker : StartMarker .protectedRegion,
        protectedRegion.rules.idOf marker.text =
          (if Text.strip marker.id = [] then none else some (Text.strip marker.id)) ∧
        (protectedRegion.rules.isEnabled marker.text = true ↔ marker.flag.isSome = true)) ∧
    ((∀ s, generated.rules.isStart s = true ↔
        ∃ marker : StartMarker .generated, s = marker.text) ∧
      (Function.Injective fun marker : StartMarker .generated => marker.text) ∧
      ∀ marker : StartMarker .generated,
        generated.rules.idOf marker.text =
          (if Text.strip marker.id = [] then none else some (Text.strip marker.id)) ∧
        (generated.rules.isEnabled marker.text = true ↔ marker.flag = none)) := by
  have hprotected := StartForm.start_protectedRegion
  have hgenerated := StartForm.start_generated
  refine ⟨⟨fun s => isStart_iff_of_form hprotected, StartMarker.text_injective, ?_⟩,
    ⟨fun s => isStart_iff_of_form hgenerated, StartMarker.text_injective, ?_⟩⟩
  · intro marker
    refine ⟨idOf_of_form hprotected marker, ?_⟩
    rw [isEnabled_iff_of_form hprotected rfl]
    exact iff_true_right rfl
  · intro marker
    refine ⟨idOf_of_form hgenerated marker, ?_⟩
    rw [isEnabled_iff_of_form hgenerated rfl, ← Option.not_isSome_iff_eq_none]
    exact iff_false_right nofun

end MarkerPatterns

end KeptRegions
