import KeptRegions.Proofs.Marker.Forms

namespace KeptRegions

/-!
# Ready-made markers apart

No text is a start marker and an end marker of the same ready-made markers: the last word tells them
apart. The first word tells generated markers from protected ones, and what stands between `REGION`
and the id tells the two kinds of protected start markers apart.
-/

namespace Pattern

variable {p q r : Pattern} {m s : Text} {words : List Text}

/-! ## How the texts of a pattern end and begin -/

/-- Every text of `p` ends in a text of `q`. -/
def EndsIn (p q : Pattern) : Prop :=
  ∀ m ∈ p.language, ∃ before, ∃ rest ∈ q.language, m = before ++ rest

theorem EndsIn.refl (p : Pattern) : EndsIn p p :=
  fun m hm => ⟨[], m, hm, rfl⟩

theorem EndsIn.seq (h : EndsIn p r) (q : Pattern) : EndsIn (.seq q p) r := by
  rintro _ ⟨a, -, m, hm, rfl⟩
  obtain ⟨before, rest, hrest, rfl⟩ := h m hm
  exact ⟨a ++ before, rest, hrest, (List.append_assoc ..).symm⟩

theorem EndsIn.spelled (h : EndsIn p r) (word : Text) : EndsIn (.spelled word p) r := by
  intro m hm
  obtain ⟨m, rfl, hp⟩ := mem_language_spelled.1 hm
  obtain ⟨before, rest, hrest, rfl⟩ := h m hp
  exact ⟨word ++ before, rest, hrest, (List.append_assoc ..).symm⟩

theorem EndsIn.spaced (h : EndsIn p r) (words : List Text) : EndsIn (.spaced words p) r := by
  intro m hm
  obtain ⟨gaps, m, -, -, rfl, hp⟩ := mem_language_spaced.1 hm
  obtain ⟨before, rest, hrest, rfl⟩ := h m hp
  exact ⟨spacedText words gaps ++ before, rest, hrest, (List.append_assoc ..).symm⟩

/-- Words amid delimiters, and then a text of the pattern. -/
def headed (words : List Text) (p : Pattern) : Pattern :=
  .seq (.delimiters false) (.spaced words p)

theorem mem_language_headed :
    m ∈ (headed words p).language ↔ ∃ lead gaps rest, Wordless lead ∧
      gaps.length = words.length ∧ (∀ g ∈ gaps, Gap g) ∧
      m = lead ++ (spacedText words gaps ++ rest) ∧ rest ∈ p.language := by
  constructor
  · rintro ⟨lead, hlead, _, hwords, rfl⟩
    obtain ⟨gaps, rest, hlength, hgaps, rfl, hrest⟩ := mem_language_spaced.1 hwords
    exact ⟨lead, gaps, rest, mem_language_delimiters.1 hlead, hlength, hgaps, rfl, hrest⟩
  · rintro ⟨lead, gaps, rest, hlead, hlength, hgaps, rfl, hrest⟩
    exact ⟨lead, mem_language_delimiters.2 hlead, _,
      mem_language_spaced.2 ⟨gaps, rest, hlength, hgaps, rfl, hrest⟩, rfl⟩

theorem EndsIn.headed (h : EndsIn p r) (words : List Text) : EndsIn (headed words p) r :=
  (h.spaced words).seq _

theorem getLast?_append_word {word : Text} {c : Char} (h : word.getLast? = some c) (before : Text) :
    (before ++ word).getLast? = some c := by
  rw [List.getLast?_append, h, Option.some_or]

/-- Texts that end in different words, but for delimiters, are different. -/
theorem not_mem_of_endsIn {word word' : Text} {greedy greedy' : Bool} {c d : Char}
    (hp : EndsIn p (.spelled word (.delimiters greedy)))
    (hq : EndsIn q (.spelled word' (.delimiters greedy')))
    (hword : word.getLast? = some c) (hword' : word'.getLast? = some d) (hc : isWord c = true)
    (hd : isWord d = true) (hne : c ≠ d) (hs : s ∈ p.language) : s ∉ q.language := by
  intro hs'
  obtain ⟨before, _, hrest, rfl⟩ := hp s hs
  obtain ⟨before', _, hrest', hsplit⟩ := hq _ hs'
  obtain ⟨trail, rfl, htrail⟩ := mem_language_spelled.1 hrest
  obtain ⟨trail', rfl, htrail'⟩ := mem_language_spelled.1 hrest'
  rw [← List.append_assoc, ← List.append_assoc] at hsplit
  -- in both splits the delimiters at the end begin behind the last word character
  have hends : ∀ e ∈ (before ++ word).getLast?, ¬isWord e = false := by
    rw [getLast?_append_word hword]
    rintro _ ⟨⟩
    exact Bool.not_eq_false _ ▸ hc
  have hends' : ∀ e ∈ (before' ++ word').getLast?, ¬isWord e = false := by
    rw [getLast?_append_word hword']
    rintro _ ⟨⟩
    exact Bool.not_eq_false _ ▸ hd
  have hequal := (append_inj_of_run_right (mem_language_delimiters.1 htrail)
    (mem_language_delimiters.1 htrail') hends hends' hsplit).1
  have hlast := getLast?_append_word hword before
  rw [hequal, getLast?_append_word hword'] at hlast
  exact hne (Option.some.inj hlast).symm

theorem head?_of_mem_spelled {word : Text} {c : Char} (h : word.head? = some c)
    (hm : m ∈ (spelled word p).language) : m.head? = some c := by
  obtain ⟨rest, rfl, -⟩ := mem_language_spelled.1 hm
  rw [List.head?_append, h, Option.some_or]

theorem head?_spacedText_append {word : Text} {gaps : List Text} {c : Char}
    (h : word.head? = some c) (hlength : gaps.length = (word :: words).length) (rest : Text) :
    (spacedText (word :: words) gaps ++ rest).head? = some c := by
  obtain ⟨g, gaps, rfl⟩ := List.exists_cons_of_length_eq_add_one hlength
  rw [spacedText, List.zipWith_cons_cons, List.flatten_cons, List.append_assoc, List.append_assoc,
    List.head?_append, h, Option.some_or]

/-- Texts whose first words begin differently are different. -/
theorem not_mem_headed_of_first {word word' : Text} {words words' : List Text} {c d : Char}
    (hwords : ∀ w ∈ word :: words, BeginsWord w) (hwords' : ∀ w ∈ word' :: words', BeginsWord w)
    (hc : word.head? = some c) (hd : word'.head? = some d) (hne : c ≠ d)
    (hs : s ∈ (headed (word :: words) p).language) :
    s ∉ (headed (word' :: words') q).language := by
  intro hs'
  obtain ⟨lead, gaps, rest, hlead, hlength, -, rfl, -⟩ := mem_language_headed.1 hs
  obtain ⟨lead', gaps', rest', hlead', hlength', -, hsplit, -⟩ := mem_language_headed.1 hs'
  -- in both splits the first word begins where the delimiters before it end
  have hequal := (hlead.append_inj hlead' (beginsWord_spacedText_append hwords hlength nofun)
    (beginsWord_spacedText_append hwords' hlength' nofun) hsplit).2
  have hhead := head?_spacedText_append hc hlength rest
  rw [hequal, head?_spacedText_append hd hlength'] at hhead
  exact hne (Option.some.inj hhead).symm

/-- Texts that go on differently behind the same words are different. -/
theorem not_mem_headed_of_rest {c d : Char} (hne : words ≠ []) (hwords : ∀ w ∈ words, BeginsWord w)
    (hp : ∀ m ∈ p.language, m.head? = some c) (hq : ∀ m ∈ q.language, m.head? = some d)
    (hc : isBlank c = false) (hd : isBlank d = false) (hcd : c ≠ d)
    (hs : s ∈ (headed words p).language) : s ∉ (headed words q).language := by
  intro hs'
  obtain ⟨lead, gaps, rest, hlead, hlength, hgaps, rfl, hrest⟩ := mem_language_headed.1 hs
  obtain ⟨lead', gaps', rest', hlead', hlength', hgaps', hsplit, hrest'⟩ := mem_language_headed.1 hs'
  have hwordsplit := (hlead.append_inj hlead'
    (beginsWord_spacedText_append hwords hlength (absurd · hne))
    (beginsWord_spacedText_append hwords hlength' (absurd · hne)) hsplit).2
  -- neither rest begins with a blank character, so the last gap ends in the same place
  have hblank : ∀ e ∈ rest.head?, ¬isBlank e = true := by
    rw [hp rest hrest]
    rintro _ ⟨⟩
    rw [hc]
    exact nofun
  have hblank' : ∀ e ∈ rest'.head?, ¬isBlank e = true := by
    rw [hq rest' hrest']
    rintro _ ⟨⟩
    rw [hd]
    exact nofun
  have hequal :=
    (spacedText_append_inj hwords hlength hlength' hgaps hgaps' hblank hblank' hwordsplit).2
  have hhead := hp rest hrest
  rw [hequal, hq rest' hrest'] at hhead
  exact hcd (Option.some.inj hhead).symm

end Pattern

namespace MarkerPatterns

/-! ## The patterns of the ready-made markers -/

/-- The last word of start markers. -/
def startWord : Pattern :=
  .spelled "START".toList (.delimiters true)

/-- The last word of end markers. -/
def endWord : Pattern :=
  .spelled "END".toList (.delimiters true)

/-- Any text. -/
def anything : Pattern :=
  .times (.one .all) 0 none false

/-- What follows `PROTECTED REGION` where the id is a comment of its own. -/
def nestedIdRest : Pattern :=
  .spelled "/*".toList (.seq (.named idGroup anything) (.spelled "*/".toList (.seq .gap
    (.seq (.times (.spelled "ENABLED".toList .gap) 0 (some 1) true) startWord))))

/-- What may repeat the id before the last word of an end marker. -/
def nestedIdRepeat : Pattern :=
  .times (.spelled "/*".toList (.seq anything (.spelled "*/".toList .gap))) 0 (some 1) true

/-- The words that the markers begin with. -/
def firstWords : ReadyMarkers → List Text
  | .generated => ["GENERATED".toList]
  | _ => ["PROTECTED".toList, "REGION".toList]

/-- What follows the first words in start markers. -/
def startRest : ReadyMarkers → Pattern
  | .protectedRegion => StartForm.protectedRegion.patternRest
  | .generated => StartForm.generated.patternRest
  | .nestedId => nestedIdRest

/-- What follows the first words in end markers. -/
def endRest : ReadyMarkers → Pattern
  | .nestedId => .seq nestedIdRepeat endWord
  | _ => endWord

theorem start_eq (m : ReadyMarkers) : m.patterns.start = .headed (firstWords m) (startRest m) := by
  cases m with
  | protectedRegion => exact StartForm.start_protectedRegion
  | generated => exact StartForm.start_generated
  | nestedId => decide +kernel

theorem stop_eq (m : ReadyMarkers) : m.patterns.stop = .headed (firstWords m) (endRest m) := by
  cases m <;> decide +kernel

theorem isStart_iff_mem (m : ReadyMarkers) {s : Text} :
    m.patterns.rules.isStart s = true ↔
      s ∈ (Pattern.headed (firstWords m) (startRest m)).language :=
  start_eq m ▸ Pattern.isSome_fullMatch?_iff

theorem isEnd_iff_mem (m : ReadyMarkers) {s : Text} :
    m.patterns.rules.isEnd s = true ↔ s ∈ (Pattern.headed (firstWords m) (endRest m)).language :=
  stop_eq m ▸ Pattern.isSome_fullMatch?_iff

/-! ## The last words -/

theorem endsIn_patternRest (form : StartForm) : form.patternRest.EndsIn startWord :=
  have hbehind : form.patternBehind.EndsIn startWord :=
    (((Pattern.EndsIn.refl _).seq _).seq _).spelled _
  (((hbehind.seq _).spelled _).seq _).spelled _

theorem endsIn_startRest (m : ReadyMarkers) : (startRest m).EndsIn startWord := by
  cases m with
  | protectedRegion => exact endsIn_patternRest _
  | generated => exact endsIn_patternRest _
  | nestedId => exact (((((Pattern.EndsIn.refl _).seq _).seq _).spelled _).seq _).spelled _

theorem endsIn_endRest (m : ReadyMarkers) : (endRest m).EndsIn endWord := by
  cases m with
  | protectedRegion => exact Pattern.EndsIn.refl _
  | generated => exact Pattern.EndsIn.refl _
  | nestedId => exact (Pattern.EndsIn.refl _).seq _

theorem not_isStart_and_isEnd (m : ReadyMarkers) (s : Text) :
    ¬(m.patterns.rules.isStart s = true ∧ m.patterns.rules.isEnd s = true) := by
  rintro ⟨hstart, hend⟩
  -- the last words, `START` and `END`, end in different letters
  exact Pattern.not_mem_of_endsIn (c := 'T') (d := 'D') ((endsIn_startRest m).headed _)
    ((endsIn_endRest m).headed _) (by decide) (by decide) (by decide) (by decide) (by decide)
    ((isStart_iff_mem m).1 hstart) ((isEnd_iff_mem m).1 hend)

/-! ## The first words -/

theorem exists_mem_headed {m : ReadyMarkers} {s : Text}
    (h : m.patterns.rules.isStart s = true ∨ m.patterns.rules.isEnd s = true) :
    ∃ p, s ∈ (Pattern.headed (firstWords m) p).language := by
  rw [isStart_iff_mem, isEnd_iff_mem] at h
  exact h.elim (fun h => ⟨_, h⟩) fun h => ⟨_, h⟩

theorem firstWords_of_ne {m : ReadyMarkers} (hm : m ≠ .generated) :
    firstWords m = ["PROTECTED".toList, "REGION".toList] := by
  cases m with
  | protectedRegion => rfl
  | generated => exact absurd rfl hm
  | nestedId => rfl

theorem not_marker_of_generated {m : ReadyMarkers} (hm : m ≠ .generated) {s : Text}
    (hgenerated : generated.rules.isStart s = true ∨ generated.rules.isEnd s = true) :
    ¬(m.patterns.rules.isStart s = true ∨ m.patterns.rules.isEnd s = true) := by
  intro h
  obtain ⟨p, hp⟩ := exists_mem_headed h
  obtain ⟨q, hq⟩ := exists_mem_headed (m := .generated) hgenerated
  rw [firstWords_of_ne hm] at hp
  have hP : "PROTECTED".toList.head? = some 'P' := by decide
  have hG : "GENERATED".toList.head? = some 'G' := by decide
  exact Pattern.not_mem_headed_of_first (by decide) (by decide) hP hG (by decide) hp hq

/-! ## Protected markers of the two kinds -/

theorem not_isStart_of_both (s : Text) :
    ¬(protectedRegion.rules.isStart s = true ∧ nestedId.rules.isStart s = true) := by
  rintro ⟨hs, hs'⟩
  have hID : ∀ m ∈ (startRest .protectedRegion).language, m.head? = some 'I' := fun m =>
    Pattern.head?_of_mem_spelled (by decide)
  have hcomment : ∀ m ∈ (startRest .nestedId).language, m.head? = some '/' := fun m =>
    Pattern.head?_of_mem_spelled (by decide)
  exact Pattern.not_mem_headed_of_rest (List.cons_ne_nil _ _) (by decide) hID hcomment
    (by decide) (by decide) (by decide) ((isStart_iff_mem .protectedRegion).1 hs)
    ((isStart_iff_mem .nestedId).1 hs')

/-- The id may be left out of an end marker. -/
theorem isEnd_nestedId {s : Text} (h : protectedRegion.rules.isEnd s = true) :
    nestedId.rules.isEnd s = true := by
  obtain ⟨lead, gaps, rest, hlead, hlength, hgaps, rfl, hrest⟩ :=
    Pattern.mem_language_headed.1 ((isEnd_iff_mem .protectedRegion).1 h)
  refine (isEnd_iff_mem .nestedId).2 (Pattern.mem_language_headed.2 ?_)
  refine ⟨lead, gaps, rest, hlead, hlength, hgaps, rfl, [], ?_, rest, hrest, rfl⟩
  exact Pattern.mem_language_optional.2 (.inl rfl)

/-- The ready-made markers do not collide: no text starts and ends regions of one kind, none is a
marker of generated and of protected regions, and none starts protected regions of both kinds. A text
that ends protected regions also ends those with the id as a comment of its own. -/
theorem ready_markers_apart (s : Text) :
    (∀ m : ReadyMarkers, ¬(m.patterns.rules.isStart s = true ∧ m.patterns.rules.isEnd s = true)) ∧
    (∀ m : ReadyMarkers, m ≠ .generated →
      (generated.rules.isStart s = true ∨ generated.rules.isEnd s = true) →
      ¬(m.patterns.rules.isStart s = true ∨ m.patterns.rules.isEnd s = true)) ∧
    ¬(protectedRegion.rules.isStart s = true ∧ nestedId.rules.isStart s = true) ∧
    (protectedRegion.rules.isEnd s = true → nestedId.rules.isEnd s = true) :=
  ⟨fun m => not_isStart_and_isEnd m s, fun _ hm hgenerated => not_marker_of_generated hm hgenerated,
    not_isStart_of_both s, isEnd_nestedId⟩

end MarkerPatterns

end KeptRegions
