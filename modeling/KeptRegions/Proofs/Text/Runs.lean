import KeptRegions.Text.Blank
import KeptRegions.Text.Word

namespace KeptRegions

/-!
# Runs

A run of characters of a class ends where a character stands that is not of the class, so a text is
split in one way only into a run and such a rest (`append_inj_of_run`). The runs in markers are of
blank characters or of characters that belong to no word; the former are among the latter
(`isWord_eq_false_of_isBlank`).
-/

/-! ## Splitting off a run -/

section Split

variable {P : Char → Prop} {a b s t : Text}

theorem append_inj_of_run (ha : ∀ c ∈ a, P c) (hb : ∀ c ∈ b, P c) (hs : ∀ c ∈ s.head?, ¬P c)
    (ht : ∀ c ∈ t.head?, ¬P c) (h : a ++ s = b ++ t) : a = b ∧ s = t := by
  induction a generalizing b with
  | nil =>
    cases b with
    | nil => exact ⟨rfl, h⟩
    | cons c b =>
      rw [List.nil_append] at h
      -- one run would go on where the rest behind the other begins
      exact absurd (hb c List.mem_cons_self) (hs c (by rw [h]; rfl))
  | cons c a ih =>
    cases b with
    | nil =>
      rw [List.nil_append] at h
      exact absurd (ha c List.mem_cons_self) (ht c (by rw [← h]; rfl))
    | cons d b =>
      obtain ⟨rfl, hrest⟩ := List.cons.inj h
      rw [List.forall_mem_cons] at ha hb
      obtain ⟨rfl, rfl⟩ := ih ha.2 hb.2 hrest
      exact ⟨rfl, rfl⟩

/-- The same for a run at the end. -/
theorem append_inj_of_run_right (ha : ∀ c ∈ a, P c) (hb : ∀ c ∈ b, P c)
    (hs : ∀ c ∈ s.getLast?, ¬P c) (ht : ∀ c ∈ t.getLast?, ¬P c) (h : s ++ a = t ++ b) :
    s = t ∧ a = b := by
  have hreverse : a.reverse ++ s.reverse = b.reverse ++ t.reverse := by
    rw [← List.reverse_append, h, List.reverse_append]
  rw [← List.head?_reverse] at hs ht
  obtain ⟨hrun, hrest⟩ := append_inj_of_run (fun c hc => ha c (List.mem_reverse.1 hc))
    (fun c hc => hb c (List.mem_reverse.1 hc)) hs ht hreverse
  exact ⟨List.reverse_inj.1 hrest, List.reverse_inj.1 hrun⟩

end Split

/-! ## Runs in markers -/

/-- A text without word characters. -/
def Wordless (s : Text) : Prop :=
  ∀ c ∈ s, isWord c = false

instance (s : Text) : Decidable (Wordless s) :=
  List.decidableBAll _ s

/-- A text of blank characters. -/
def Blank (s : Text) : Prop :=
  ∀ c ∈ s, isBlank c = true

instance (s : Text) : Decidable (Blank s) :=
  List.decidableBAll _ s

/-- The space between two words. -/
def Gap (s : Text) : Prop :=
  s ≠ [] ∧ Blank s

instance (s : Text) : Decidable (Gap s) :=
  inferInstanceAs (Decidable (_ ∧ _))

/-- Words with a gap behind each. -/
def spacedText (words gaps : List Text) : Text :=
  (List.zipWith (· ++ ·) words gaps).flatten

theorem CodeRanges.mem_of_hasCode {n : Nat} {ranges : CodeRanges} (h : ranges.hasCode n = true) :
    ∃ range ∈ ranges, range.1 ≤ n ∧ n ≤ range.2 := by
  fun_induction CodeRanges.hasCode n ranges with
  | case1 => cases h
  | case2 => cases h
  | case3 lo hi rest hlo hhi => exact ⟨(lo, hi), List.mem_cons_self, Nat.le_of_not_lt hlo, hhi⟩
  | case4 lo hi rest hlo hhi ih =>
    obtain ⟨range, hrange, hn⟩ := ih h
    exact ⟨range, List.mem_cons_of_mem _ hrange, hn⟩

/-- No blank range has a word character. -/
theorem hasCode_wordRanges_of_blank :
    ∀ range ∈ blankRanges, ∀ k < range.2 - range.1 + 1, wordRanges.hasCode (range.1 + k) = false := by
  decide +kernel

theorem isWord_eq_false_of_isBlank {c : Char} (h : isBlank c = true) : isWord c = false := by
  obtain ⟨range, hrange, hlo, hhi⟩ := CodeRanges.mem_of_hasCode h
  have hcode := hasCode_wordRanges_of_blank range hrange (c.toNat - range.1) (by omega)
  rwa [Nat.add_sub_cancel' hlo] at hcode

theorem Blank.wordless {s : Text} (h : Blank s) : Wordless s :=
  fun c hc => isWord_eq_false_of_isBlank (h c hc)

/-! ## Words behind runs -/

/-- A text that begins with a word character. -/
def BeginsWord (s : Text) : Prop :=
  s.head?.any isWord = true

instance (s : Text) : Decidable (BeginsWord s) :=
  inferInstanceAs (Decidable (_ = _))

section Words

variable {a b s t : Text} {words gaps gaps' : List Text}

theorem BeginsWord.append (h : BeginsWord s) (t : Text) : BeginsWord (s ++ t) := by
  cases s with
  | nil => cases h
  | cons c s => exact h

theorem BeginsWord.exists_head (h : BeginsWord s) : ∃ c ∈ s.head?, isWord c = true :=
  (Option.any_eq_true _ _).1 h

theorem BeginsWord.ne_nil (h : BeginsWord s) : s ≠ [] := by
  rintro rfl
  cases h

theorem BeginsWord.isWord_of_mem (h : BeginsWord s) : ∀ c ∈ s.head?, isWord c = true := by
  intro c hc
  rwa [BeginsWord, Option.mem_def.1 hc] at h

theorem Wordless.append_inj (ha : Wordless a) (hb : Wordless b) (hs : BeginsWord s)
    (ht : BeginsWord t) (h : a ++ s = b ++ t) : a = b ∧ s = t := by
  apply append_inj_of_run ha hb _ _ h
  · intro c hc
    rw [hs.isWord_of_mem c hc]
    exact nofun
  · intro c hc
    rw [ht.isWord_of_mem c hc]
    exact nofun

theorem Blank.append_inj (ha : Blank a) (hb : Blank b) (hs : BeginsWord s) (ht : BeginsWord t)
    (h : a ++ s = b ++ t) : a = b ∧ s = t :=
  ha.wordless.append_inj hb.wordless hs ht h

theorem beginsWord_spacedText_append (hwords : ∀ word ∈ words, BeginsWord word)
    (hlength : gaps.length = words.length) (hs : words = [] → BeginsWord s) :
    BeginsWord (spacedText words gaps ++ s) := by
  cases words with
  | nil =>
    obtain rfl := List.length_eq_zero_iff.1 hlength
    exact hs rfl
  | cons word words =>
    obtain ⟨g, gaps, rfl⟩ := List.exists_cons_of_length_eq_add_one hlength
    have hword := hwords word List.mem_cons_self
    simp only [spacedText, List.zipWith_cons_cons, List.flatten_cons, List.append_assoc]
    exact hword.append _

theorem BeginsWord.not_blank (h : BeginsWord s) : ∀ c ∈ s.head?, ¬isBlank c = true := by
  intro c hc hblank
  have hword := h.isWord_of_mem c hc
  rw [isWord_eq_false_of_isBlank hblank] at hword
  cases hword

theorem not_blank_spacedText_append (hwords : ∀ word ∈ words, BeginsWord word)
    (hlength : gaps.length = words.length) (hs : ∀ c ∈ s.head?, ¬isBlank c = true) :
    ∀ c ∈ (spacedText words gaps ++ s).head?, ¬isBlank c = true := by
  by_cases hnil : words = []
  · subst hnil
    obtain rfl := List.length_eq_zero_iff.1 hlength
    exact hs
  · exact (beginsWord_spacedText_append hwords hlength fun h => absurd h hnil).not_blank

/-- The gaps behind words are determined if no blank character follows. -/
theorem spacedText_append_inj (hwords : ∀ word ∈ words, BeginsWord word)
    (hlength : gaps.length = words.length) (hlength' : gaps'.length = words.length)
    (hgaps : ∀ g ∈ gaps, Gap g) (hgaps' : ∀ g ∈ gaps', Gap g)
    (hs : ∀ c ∈ s.head?, ¬isBlank c = true) (ht : ∀ c ∈ t.head?, ¬isBlank c = true)
    (h : spacedText words gaps ++ s = spacedText words gaps' ++ t) :
    gaps = gaps' ∧ s = t := by
  induction words generalizing gaps gaps' with
  | nil =>
    obtain rfl := List.length_eq_zero_iff.1 hlength
    obtain rfl := List.length_eq_zero_iff.1 hlength'
    exact ⟨rfl, h⟩
  | cons word words ih =>
    obtain ⟨g, gaps, rfl⟩ := List.exists_cons_of_length_eq_add_one hlength
    obtain ⟨g', gaps', rfl⟩ := List.exists_cons_of_length_eq_add_one hlength'
    rw [List.forall_mem_cons] at hgaps hgaps' hwords
    have hlen := Nat.succ.inj hlength
    have hlen' := Nat.succ.inj hlength'
    simp only [spacedText, List.zipWith_cons_cons, List.flatten_cons, List.append_assoc,
      List.append_cancel_left_eq] at h
    -- behind each gap a word begins or the rest does, and neither begins with a blank character
    obtain ⟨rfl, hrest⟩ := append_inj_of_run hgaps.1.2 hgaps'.1.2
      (not_blank_spacedText_append hwords.2 hlen hs)
      (not_blank_spacedText_append hwords.2 hlen' ht) h
    obtain ⟨rfl, rfl⟩ := ih hwords.2 hlen hlen' hgaps.2 hgaps'.2 hrest
    exact ⟨rfl, rfl⟩

end Words

end KeptRegions
