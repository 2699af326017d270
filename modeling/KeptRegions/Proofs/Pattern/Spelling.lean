import KeptRegions.Proofs.Pattern.Language
import KeptRegions.Proofs.Text.Runs

namespace KeptRegions

/-!
# Words and runs in patterns

Markers are written as words with runs of characters between them. A sequence that begins with a word
or with a run reports what follows it reports, from the place where that starts.
-/

namespace Pattern

variable {p q : Pattern} {set : CharSet} {m : Text} {found : Spans} {min n i : Nat} {greedy : Bool}

/-! ## Sequences -/

/-- What comes first without a name only moves what follows. -/
theorem reports_seq_of_nameless (hp : p.names = []) :
    (seq p q).Reports i m found ↔
      ∃ a rest, m = a ++ rest ∧ a ∈ p.language ∧ q.Reports (i + a.length) rest found := by
  constructor
  · rintro ⟨a, rest, found₁, found₂, rfl, rfl, hfirst, hrest⟩
    obtain ⟨ha, rfl⟩ := (reports_iff_of_nameless hp).1 hfirst
    rw [List.append_nil]
    exact ⟨a, rest, rfl, ha, hrest⟩
  · rintro ⟨a, rest, rfl, ha, hrest⟩
    have hfirst : p.Reports i a [] := (reports_iff_of_nameless hp).2 ⟨ha, rfl⟩
    exact ⟨a, rest, [], found, rfl, (List.append_nil found).symm, hfirst, hrest⟩

/-- A named part reports its span and what follows it moves on. -/
theorem reports_seq_named (name : Text) (hp : p.names = []) :
    (seq (named name p) q).Reports i m found ↔
      ∃ a rest found', m = a ++ rest ∧ a ∈ p.language ∧ found = found' ++ [(name, i, i + a.length)] ∧
        q.Reports (i + a.length) rest found' := by
  constructor
  · rintro ⟨a, rest, found₁, found', rfl, rfl, ⟨inner, rfl, hfirst⟩, hrest⟩
    obtain ⟨ha, rfl⟩ := (reports_iff_of_nameless hp).1 hfirst
    exact ⟨a, rest, found', rfl, ha, rfl, hrest⟩
  · rintro ⟨a, rest, found', rfl, ha, rfl, hrest⟩
    have hfirst : p.Reports i a [] := (reports_iff_of_nameless hp).2 ⟨ha, rfl⟩
    exact ⟨a, rest, _, found', rfl, rfl, ⟨[], rfl, hfirst⟩, hrest⟩

/-! ## Words -/

/-- A word and then a text of the pattern. -/
def spelled (word : Text) (p : Pattern) : Pattern :=
  word.foldr (fun c p => .seq (.one (.single c.toNat)) p) p

theorem has_single {c d : Char} : (CharSet.single c.toNat).has d = true ↔ d = c := by
  simp only [CharSet.single, CharSet.has, CharItem.has, List.any_cons, List.any_nil, Bool.or_false,
    Bool.bne_false, Bool.and_eq_true, decide_eq_true_eq]
  rw [← Nat.le_antisymm_iff, eq_comm, Char.toNat_inj]

theorem reports_spelled {word : Text} :
    (spelled word p).Reports i m found ↔
      ∃ rest, m = word ++ rest ∧ p.Reports (i + word.length) rest found := by
  induction word generalizing i m with
  | nil =>
    constructor
    · exact fun h => ⟨m, rfl, h⟩
    · rintro ⟨rest, rfl, h⟩
      exact h
  | cons c word ih =>
    have hone : (one (.single c.toNat)).names = [] := rfl
    rw [spelled, List.foldr_cons, reports_seq_of_nameless hone]
    constructor
    · rintro ⟨_, rest, rfl, ⟨d, hd, rfl⟩, hrest⟩
      obtain rfl := has_single.1 hd
      obtain ⟨rest, rfl, hp⟩ := ih.1 hrest
      refine ⟨rest, rfl, ?_⟩
      rwa [List.length_cons, Nat.add_comm word.length, ← Nat.add_assoc]
    · rintro ⟨rest, rfl, hp⟩
      rw [List.length_cons, Nat.add_comm word.length, ← Nat.add_assoc] at hp
      exact ⟨[c], word ++ rest, rfl, ⟨c, has_single.2 rfl, rfl⟩, ih.2 ⟨rest, rfl, hp⟩⟩

theorem mem_language_spelled {word : Text} :
    m ∈ (spelled word p).language ↔ ∃ rest, m = word ++ rest ∧ rest ∈ p.language := by
  -- the position from which spans are counted does not matter here
  rw [mem_language_iff_reports 0]
  simp only [reports_spelled]
  constructor
  · rintro ⟨found, rest, rfl, h⟩
    exact ⟨rest, rfl, h.mem_language⟩
  · rintro ⟨rest, rfl, h⟩
    obtain ⟨found, h⟩ := exists_reports_of_mem_language h (0 + word.length)
    exact ⟨found, rest, rfl, h⟩

theorem names_spelled (word : Text) (p : Pattern) : (spelled word p).names = p.names := by
  induction word with
  | nil => rfl
  | cons c word ih => exact ih

/-! ## Runs -/

theorem mem_language_one_pow :
    m ∈ (one set).language ^ n ↔ m.length = n ∧ ∀ c ∈ m, set.has c = true := by
  induction n generalizing m with
  | zero =>
    rw [pow_zero, Language.mem_one, List.length_eq_zero_iff]
    exact ⟨fun h => ⟨h, by simp [h]⟩, And.left⟩
  | succ n ih =>
    rw [pow_succ', Language.mem_mul]
    constructor
    · rintro ⟨_, ⟨c, hc, rfl⟩, rest, hrest, rfl⟩
      obtain ⟨hlen, hall⟩ := ih.1 hrest
      exact ⟨by simp [hlen], List.forall_mem_cons.2 ⟨hc, hall⟩⟩
    · rintro ⟨hlen, hall⟩
      obtain ⟨c, rest, rfl⟩ := List.exists_cons_of_length_eq_add_one hlen
      obtain ⟨hc, hall⟩ := List.forall_mem_cons.1 hall
      exact ⟨[c], ⟨c, hc, rfl⟩, rest, ih.2 ⟨Nat.succ.inj hlen, hall⟩, rfl⟩

/-- A run of characters of a set, without an upper bound. -/
theorem mem_language_run :
    m ∈ (times (one set) min none greedy).language ↔
      min ≤ m.length ∧ ∀ c ∈ m, set.has c = true := by
  constructor
  · rintro ⟨n, hn, hm⟩
    obtain ⟨rfl, hall⟩ := mem_language_one_pow.1 hm
    exact ⟨hn.1, hall⟩
  · rintro ⟨hmin, hall⟩
    exact ⟨m.length, ⟨hmin, .inr nofun⟩, mem_language_one_pow.2 ⟨rfl, hall⟩⟩

/-- The characters that delimiters are made of. -/
def nonWord : CharSet :=
  { negated := true, items := [.kind .word false] }

theorem has_nonWord (c : Char) : nonWord.has c = !isWord c := by
  simp [nonWord, CharSet.has, CharItem.has, CharKind.has]

/-- Any characters that belong to no word. -/
def delimiters (greedy : Bool) : Pattern :=
  .times (.one nonWord) 0 none greedy

theorem names_delimiters (greedy : Bool) : (delimiters greedy).names = [] := by
  rfl

theorem mem_language_delimiters : m ∈ (delimiters greedy).language ↔ Wordless m := by
  rw [delimiters, mem_language_run]
  simp only [has_nonWord, Bool.not_eq_true', Nat.zero_le, true_and, Wordless]

/-- The blank characters as a set. -/
def blanks : CharSet :=
  { negated := false, items := [.kind .blank false] }

theorem has_blanks (c : Char) : blanks.has c = isBlank c := by
  simp [blanks, CharSet.has, CharItem.has, CharKind.has]

/-- Any blank characters. -/
def anyBlanks : Pattern :=
  .times (.one blanks) 0 none true

/-- The space between two words. -/
def gap : Pattern :=
  .times (.one blanks) 1 none true

theorem names_anyBlanks : anyBlanks.names = [] := by
  rfl

theorem mem_language_anyBlanks : m ∈ anyBlanks.language ↔ Blank m := by
  rw [anyBlanks, mem_language_run]
  simp only [has_blanks, Nat.zero_le, true_and, Blank]

theorem mem_language_gap : m ∈ gap.language ↔ Gap m := by
  rw [gap, mem_language_run, Nat.succ_le_iff, List.length_pos_iff]
  simp only [has_blanks, Gap, Blank]

/-- A text of the pattern or nothing. -/
theorem mem_language_optional :
    m ∈ (times p 0 (some 1) greedy).language ↔ m = [] ∨ m ∈ p.language := by
  constructor
  · rintro ⟨n, hn, hm⟩
    have hn : n = 0 ∨ n = 1 := by
      rcases hn.2 with rfl | h
      · exact .inl rfl
      · exact Nat.le_one_iff_eq_zero_or_eq_one.1 (h 1 rfl)
    rcases hn with rfl | rfl
    · rw [pow_zero] at hm
      exact .inl hm
    · rw [pow_one] at hm
      exact .inr hm
  · rintro (rfl | hm)
    · exact ⟨0, ⟨Nat.zero_le _, .inl rfl⟩, by rw [pow_zero]; exact Language.nil_mem_one⟩
    · exact ⟨1, ⟨Nat.zero_le _, .inr fun k hk => (Option.some.inj hk).le⟩, by rwa [pow_one]⟩

/-- Words with a gap behind each, and then a text of the pattern. -/
def spaced (words : List Text) (p : Pattern) : Pattern :=
  words.foldr (fun word p => spelled word (.seq gap p)) p

theorem reports_spaced {words : List Text} :
    (spaced words p).Reports i m found ↔
      ∃ gaps rest, gaps.length = words.length ∧ (∀ g ∈ gaps, Gap g) ∧
        m = spacedText words gaps ++ rest ∧
        p.Reports (i + (spacedText words gaps).length) rest found := by
  induction words generalizing i m with
  | nil =>
    constructor
    · exact fun h => ⟨[], m, rfl, nofun, rfl, h⟩
    · rintro ⟨gaps, rest, hlength, -, rfl, h⟩
      obtain rfl := List.length_eq_zero_iff.1 hlength
      exact h
  | cons word words ih =>
    have hgap : gap.names = [] := rfl
    rw [spaced, List.foldr_cons, reports_spelled]
    constructor
    · rintro ⟨rest, rfl, h⟩
      obtain ⟨g, rest, rfl, hg, hrest⟩ := (reports_seq_of_nameless hgap).1 h
      obtain ⟨gaps, rest, hlength, hgaps, rfl, hp⟩ := ih.1 hrest
      refine ⟨g :: gaps, rest, congrArg Nat.succ hlength, ?_, ?_, ?_⟩
      · exact List.forall_mem_cons.2 ⟨mem_language_gap.1 hg, hgaps⟩
      · simp [spacedText]
      · simpa [spacedText, Nat.add_assoc] using hp
    · rintro ⟨gaps, rest, hlength, hgaps, rfl, hp⟩
      obtain ⟨g, gaps, rfl⟩ := List.exists_cons_of_length_eq_add_one hlength
      obtain ⟨hg, hgaps⟩ := List.forall_mem_cons.1 hgaps
      refine ⟨g ++ (spacedText words gaps ++ rest), by simp [spacedText], ?_⟩
      refine (reports_seq_of_nameless hgap).2 ⟨g, _, rfl, mem_language_gap.2 hg, ?_⟩
      refine ih.2 ⟨gaps, rest, Nat.succ.inj hlength, hgaps, rfl, ?_⟩
      simpa [spacedText, Nat.add_assoc] using hp

theorem mem_language_spaced {words : List Text} :
    m ∈ (spaced words p).language ↔
      ∃ gaps rest, gaps.length = words.length ∧ (∀ g ∈ gaps, Gap g) ∧
        m = spacedText words gaps ++ rest ∧ rest ∈ p.language := by
  rw [mem_language_iff_reports 0]
  simp only [reports_spaced]
  constructor
  · rintro ⟨found, gaps, rest, hlength, hgaps, rfl, h⟩
    exact ⟨gaps, rest, hlength, hgaps, rfl, h.mem_language⟩
  · rintro ⟨gaps, rest, hlength, hgaps, rfl, h⟩
    obtain ⟨found, h⟩ := exists_reports_of_mem_language h (0 + (spacedText words gaps).length)
    exact ⟨found, gaps, rest, hlength, hgaps, rfl, h⟩

end Pattern

end KeptRegions
