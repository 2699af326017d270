import KeptRegions.Marker.Builtin
import KeptRegions.Proofs.Pattern.Language

namespace KeptRegions

/-!
# Keywords

The keyword of a start marker is looked for behind the id, between two word boundaries
(`occursAsWord_iff`). For a keyword that begins and ends with a word character this is to stand alone,
but for the end of the id, which counts as a boundary whatever comes before it. A keyword that begins
or ends with another character is found only where a word character is its neighbour there, so it is
not found where it stands alone.
-/

variable {keyword s tail : Text} {front : Option Char} {stop : Nat}

/-! ## Between word boundaries -/

/-- The keyword stands in the text between two word boundaries, where `front` is the character before
the text. -/
def StandsBounded (keyword : Text) (front : Option Char) (tail : Text) : Prop :=
  ∃ before after, tail = before ++ keyword ++ after ∧
    isWordBoundary (before.getLast?.or front) keyword.head? = true ∧
    isWordBoundary keyword.getLast? after.head? = true

theorem getLast?_cons_or (c : Char) (before : Text) :
    (c :: before).getLast?.or front = before.getLast?.or (some c) := by
  rw [List.getLast?_cons]
  cases before.getLast? <;> rfl

/-- The keyword begins the text, or else it stands in the text without its first character. -/
theorem standsBounded_cons_iff {c : Char} :
    StandsBounded keyword front (c :: tail) ↔
      (∃ after, c :: tail = keyword ++ after ∧ isWordBoundary front keyword.head? = true ∧
        isWordBoundary keyword.getLast? after.head? = true) ∨
      StandsBounded keyword (some c) tail := by
  constructor
  · rintro ⟨before, after, hsplit, hbefore, hafter⟩
    cases before with
    | nil => exact .inl ⟨after, hsplit, hbefore, hafter⟩
    | cons d before =>
      obtain ⟨rfl, hrest⟩ := List.cons.inj hsplit
      rw [getLast?_cons_or] at hbefore
      exact .inr ⟨before, after, hrest, hbefore, hafter⟩
  · rintro (⟨after, hsplit, hbefore, hafter⟩ | ⟨before, after, rfl, hbefore, hafter⟩)
    · exact ⟨[], after, hsplit, hbefore, hafter⟩
    · refine ⟨c :: before, after, rfl, ?_, hafter⟩
      rwa [getLast?_cons_or]

theorem begins_bounded_iff (hkeyword : keyword ≠ []) :
    (keyword.isPrefixOf tail && isWordBoundary front tail.head?
        && isWordBoundary (keyword.getLast?.or front) (tail.drop keyword.length).head?) = true ↔
      ∃ after, tail = keyword ++ after ∧ isWordBoundary front keyword.head? = true ∧
        isWordBoundary keyword.getLast? after.head? = true := by
  have hlast : keyword.getLast?.or front = keyword.getLast? := by
    rw [List.getLast?_eq_getLast_of_ne_nil hkeyword, Option.some_or]
  rw [Bool.and_eq_true, Bool.and_eq_true, List.isPrefixOf_iff_prefix, hlast]
  constructor
  · rintro ⟨⟨⟨after, rfl⟩, hbefore⟩, hafter⟩
    rw [List.head?_append_of_ne_nil _ hkeyword] at hbefore
    rw [List.drop_left] at hafter
    exact ⟨after, rfl, hbefore, hafter⟩
  · rintro ⟨after, rfl, hbefore, hafter⟩
    rw [List.head?_append_of_ne_nil _ hkeyword, List.drop_left]
    exact ⟨⟨List.prefix_append _ _, hbefore⟩, hafter⟩

theorem occursAsWord_iff (hkeyword : keyword ≠ []) :
    occursAsWord keyword front tail = true ↔ StandsBounded keyword front tail := by
  induction tail generalizing front with
  | nil =>
    rw [occursAsWord, Bool.or_false, begins_bounded_iff hkeyword]
    constructor
    · rintro ⟨after, hsplit, -⟩
      exact absurd (List.append_eq_nil_iff.1 hsplit.symm).1 hkeyword
    · rintro ⟨before, after, hsplit, -⟩
      have hnil := List.append_eq_nil_iff.1 hsplit.symm
      exact absurd (List.append_eq_nil_iff.1 hnil.1).2 hkeyword
  | cons c tail ih =>
    rw [occursAsWord, Bool.or_eq_true, begins_bounded_iff hkeyword, ih, standsBounded_cons_iff]

/-! ## Standing alone -/

/-- The keyword stands in the text from `stop` on, with no word character right before it and none
right behind it. -/
def StandsAlone (keyword s : Text) (stop : Nat) : Prop :=
  ∃ before after, s = before ++ keyword ++ after ∧ stop ≤ before.length ∧
    before.getLast?.any isWord = false ∧ after.head?.any isWord = false

theorem isWordBoundary_of_word_behind {before after : Option Char} (h : after.any isWord = true) :
    isWordBoundary before after = true ↔ before.any isWord = false := by
  rw [isWordBoundary, h, bne_iff_ne, ne_eq, Bool.not_eq_true]

theorem isWordBoundary_of_word_before {before after : Option Char} (h : before.any isWord = true) :
    isWordBoundary before after = true ↔ after.any isWord = false := by
  rw [isWordBoundary, h, bne_iff_ne, ne_comm, ne_eq, Bool.not_eq_true]

/-- A keyword that begins and ends with word characters is found where it stands alone, and right at
`stop` if only no word character is behind it. -/
theorem standsBounded_drop_iff (hfirst : keyword.head?.any isWord = true)
    (hlast : keyword.getLast?.any isWord = true) (hstop : stop ≤ s.length) :
    StandsBounded keyword none (s.drop stop) ↔
      StandsAlone keyword s stop ∨
        ∃ after, s.drop stop = keyword ++ after ∧ after.head?.any isWord = false := by
  constructor
  · rintro ⟨before, after, hsplit, hbefore, hafter⟩
    rw [Option.or_none, isWordBoundary_of_word_behind hfirst] at hbefore
    rw [isWordBoundary_of_word_before hlast] at hafter
    -- right at `stop` the cut counts as a boundary, whatever character is in front of it
    by_cases hnil : before = []
    · subst hnil
      exact .inr ⟨after, hsplit, hafter⟩
    · left
      refine ⟨s.take stop ++ before, after, ?_, ?_, ?_, hafter⟩
      · rw [List.append_assoc, List.append_assoc, ← List.append_assoc before, ← hsplit,
          List.take_append_drop]
      · rw [List.length_append, List.length_take_of_le hstop]
        exact Nat.le_add_right _ _
      · rwa [List.getLast?_append_of_ne_nil _ hnil]
  · rintro (⟨before, after, rfl, hle, hbefore, hafter⟩ | ⟨after, hsplit, hafter⟩)
    · refine ⟨before.drop stop, after, ?_, ?_, (isWordBoundary_of_word_before hlast).2 hafter⟩
      · rw [List.append_assoc, List.drop_append_of_le_length hle, List.append_assoc]
      · rw [Option.or_none, isWordBoundary_of_word_behind hfirst, List.getLast?_drop]
        split
        · rfl
        · exact hbefore
    · exact ⟨[], after, hsplit, (isWordBoundary_of_word_behind hfirst).2 rfl,
        (isWordBoundary_of_word_before hlast).2 hafter⟩

/-! ## The flag of a start marker -/

namespace MarkerPatterns

variable {m : MarkerPatterns} {id : Text}

theorem exists_span_of_idSpan? (h : m.idSpan? s = some (id, stop)) :
    ∃ found start, m.start.fullMatch? s = some found ∧ (idGroup, start, stop) ∈ found.spans ∧
      id = (s.take stop).drop start := by
  rw [idSpan?, Option.bind_eq_bind, Option.bind_eq_some_iff] at h
  obtain ⟨found, hfound, h⟩ := h
  rw [Option.bind_eq_bind, Option.bind_eq_some_iff] at h
  obtain ⟨⟨start, stop'⟩, hspan, h⟩ := h
  cases h
  obtain ⟨before, after, hspans, -⟩ := List.lookup_eq_some_iff.1 hspan
  refine ⟨found, start, hfound, ?_, rfl⟩
  rw [hspans]
  exact List.mem_append_right _ List.mem_cons_self

theorem idSpan?_eq_some (h : m.idSpan? s = some (id, stop)) :
    stop ≤ s.length ∧ id <:+ s.take stop := by
  obtain ⟨found, start, hfound, hspan, rfl⟩ := exists_span_of_idSpan? h
  have hin := (Pattern.exists_reports_of_fullMatch? hfound).spansIn _ hspan
  refine ⟨?_, List.drop_suffix _ _⟩
  rw [Nat.zero_add] at hin
  exact hin.2.2

theorem isEnabled_iff_standsBounded (hkeyword : m.keyword ≠ [])
    (hid : m.idSpan? s = some (id, stop)) :
    m.rules.isEnabled s = true ↔
      (StandsBounded m.keyword none (s.drop stop) ↔ m.enabledWhenPresent = true) := by
  rw [← occursAsWord_iff hkeyword, ← Bool.eq_iff_iff]
  simp only [rules, hid, beq_iff_eq]

/-- Where the id does not end in a word character or the keyword does not follow it at once. -/
theorem standsBounded_iff_standsAlone (hfirst : keyword.head?.any isWord = true)
    (hlast : keyword.getLast?.any isWord = true) (hstop : stop ≤ s.length)
    (happart : (s.take stop).getLast?.any isWord = false ∨ ¬keyword <+: s.drop stop) :
    StandsBounded keyword none (s.drop stop) ↔ StandsAlone keyword s stop := by
  rw [standsBounded_drop_iff hfirst hlast hstop, or_iff_left_iff_imp]
  rintro ⟨after, hsplit, hafter⟩
  refine ⟨s.take stop, after, ?_, (List.length_take_of_le hstop).ge, ?_, hafter⟩
  · rw [List.append_assoc, ← hsplit, List.take_append_drop]
  · exact happart.resolve_right fun h => h ⟨after, hsplit.symm⟩

/-- What the flag of a start marker depends on. The id ends at `stop`; from there the keyword has to
stand between word boundaries. If it begins and ends with word characters this is to stand alone or to
follow the id at once, and so just to stand alone where the id does not end in a word character or the
keyword does not follow it at once. -/
theorem isEnabled_iff_keyword (hkeyword : m.keyword ≠ []) (hid : m.idSpan? s = some (id, stop)) :
    (stop ≤ s.length ∧ id <:+ s.take stop) ∧
    (m.rules.isEnabled s = true ↔
      (StandsBounded m.keyword none (s.drop stop) ↔ m.enabledWhenPresent = true)) ∧
    (m.keyword.head?.any isWord = true → m.keyword.getLast?.any isWord = true →
      (StandsBounded m.keyword none (s.drop stop) ↔
        StandsAlone m.keyword s stop ∨
          ∃ after, s.drop stop = m.keyword ++ after ∧ after.head?.any isWord = false) ∧
      ((s.take stop).getLast?.any isWord = false ∨ ¬m.keyword <+: s.drop stop →
        (m.rules.isEnabled s = true ↔
          (StandsAlone m.keyword s stop ↔ m.enabledWhenPresent = true)))) := by
  have hstop := (idSpan?_eq_some hid).1
  have henabled := isEnabled_iff_standsBounded hkeyword hid
  refine ⟨idSpan?_eq_some hid, henabled, ?_⟩
  intro hfirst hlast
  refine ⟨standsBounded_drop_iff hfirst hlast hstop, ?_⟩
  intro happart
  rw [henabled, standsBounded_iff_standsAlone hfirst hlast hstop happart]

/-- The keyword as the id does not enable a region. -/
theorem keyword_as_id :
    protectedRegion.keyword ≠ [] ∧
      protectedRegion.idSpan? "// PROTECTED REGION ID(ENABLED) START".toList =
        some ("ENABLED".toList, 30) ∧
      (protectedRegion.rules.isEnabled "// PROTECTED REGION ID(ENABLED) START".toList = true ↔
        StandsAlone "ENABLED".toList "// PROTECTED REGION ID(ENABLED) START".toList 30) := by
  have hkeyword : protectedRegion.keyword ≠ [] := by decide
  have hid : protectedRegion.idSpan? "// PROTECTED REGION ID(ENABLED) START".toList =
      some ("ENABLED".toList, 30) := by decide +kernel
  refine ⟨hkeyword, hid, ?_⟩
  obtain ⟨-, -, halone⟩ := isEnabled_iff_keyword hkeyword hid
  have henabled := (halone (by decide +kernel) (by decide +kernel)).2 (.inr (by decide +kernel))
  rw [henabled]
  exact iff_true_right rfl

/-- Marker patterns with a keyword that begins with another than a word character. -/
def lockedRegion : MarkerPatterns :=
  ofBodies "X\\((?P<id>[^)]*)\\) (?:@locked )?START" "X END" "@locked" true (by decide +kernel)
    (by decide +kernel) (by decide +kernel)

/-- A keyword that begins with another than a word character is not found where it stands alone. -/
theorem locked_not_found :
    ¬ ∀ (m : MarkerPatterns) (s id : Text) (stop : Nat), m.keyword ≠ [] →
      m.idSpan? s = some (id, stop) →
      (m.rules.isEnabled s = true ↔
        (StandsAlone m.keyword s stop ↔ m.enabledWhenPresent = true)) := by
  intro h
  have hid : lockedRegion.idSpan? "// X(a) @locked START".toList = some ("a".toList, 6) := by
    decide +kernel
  have halone : StandsAlone lockedRegion.keyword "// X(a) @locked START".toList 6 :=
    ⟨"// X(a) ".toList, " START".toList, by decide +kernel⟩
  have henabled := (h lockedRegion _ _ _ (by decide) hid).2 (iff_of_true halone rfl)
  have hno : lockedRegion.rules.isEnabled "// X(a) @locked START".toList = false := by decide +kernel
  rw [hno] at henabled
  cases henabled

end MarkerPatterns

end KeptRegions
