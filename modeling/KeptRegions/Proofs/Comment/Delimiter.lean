import KeptRegions.Comment.Token
import Mathlib.Data.List.Basic

namespace KeptRegions

/-!
# Delimiters in a text

Where a delimiter stands is decided by the characters from there on, and by no more of them than the
longest delimiter has. The next delimiter of a text is the longest one at the first position where
any of them stands.
-/

variable {s t d part : Text} {ds : List Text}

/-! ## The longest delimiter at a position -/

theorem isPrefixOf_congr {n : Nat} (hd : d.length ≤ n) (h : s.take n = t.take n) :
    d.isPrefixOf s = d.isPrefixOf t := by
  have hcut : ∀ u : Text, d <+: u ↔ d <+: u.take n := by
    intro u
    exact (List.prefix_take_iff.trans (and_iff_left hd)).symm
  rw [Bool.eq_iff_iff, List.isPrefixOf_iff_prefix, List.isPrefixOf_iff_prefix, hcut s, hcut t, h]

/-- Texts that agree as far as the delimiters reach start with the same delimiter. -/
theorem longestAt_congr {n : Nat} (hds : ∀ d ∈ ds, d.length ≤ n) (h : s.take n = t.take n) :
    longestAt s ds = longestAt t ds := by
  induction ds with
  | nil => rfl
  | cons d ds ih =>
    have hd := isPrefixOf_congr (hds d List.mem_cons_self) h
    simp only [longestAt, hd, ih fun e he => hds e (List.mem_cons_of_mem _ he)]

/-- The empty text starts with no delimiter. -/
theorem longestAt_nil (hds : ∀ d ∈ ds, d ≠ []) : longestAt [] ds = none := by
  cases h : longestAt [] ds with
  | none => rfl
  | some d =>
    rcases mem_of_longestAt h with ⟨hmem, hd⟩
    exact absurd (by simpa using hd) (hds d hmem)

/-- If delimiters are of one length, the one that a text starts with is the longest. -/
theorem longestAt_eq_of_prefix {n : Nat} (hds : ∀ e ∈ ds, e.length = n) (hd : d ∈ ds)
    (hstarts : d <+: s) : longestAt s ds = some d := by
  -- some delimiter is found, since `d` would do
  have hsome : longestAt s ds ≠ none := by
    intro hnone
    induction ds with
    | nil => simp at hd
    | cons e ds ih =>
      simp only [longestAt] at hnone
      split at hnone
      · rename_i hrest
        rcases List.mem_cons.1 hd with rfl | hd
        · simp [List.isPrefixOf_iff_prefix.2 hstarts] at hnone
        · exact ih (fun e he => hds e (List.mem_cons_of_mem _ he)) hd hrest
      · split at hnone <;> cases hnone
  rcases Option.ne_none_iff_exists'.1 hsome with ⟨e, he⟩
  rcases mem_of_longestAt he with ⟨hmem, hpre⟩
  -- two prefixes of one length are equal
  have hlen : e.length = d.length := (hds e hmem).trans (hds d hd).symm
  have heq : e = d :=
    (List.prefix_of_prefix_length_le (List.isPrefixOf_iff_prefix.1 hpre) hstarts
      (Nat.le_of_eq hlen)).eq_of_length hlen
  rw [he, heq]

/-! ## The next delimiter -/

/-- If no delimiter is found, none stands anywhere in the text. -/
theorem nextDelimiter_eq_none {i : Nat} (h : nextDelimiter ds i s = none) (k : Nat) :
    longestAt (s.drop k) ds = none := by
  induction s generalizing i k with
  | nil =>
    unfold nextDelimiter at h
    split at h
    · cases h
    · simpa
  | cons c s ih =>
    unfold nextDelimiter at h
    split at h
    · cases h
    · cases k with
      | zero => simpa
      | succ k => exact ih h k

/-- The delimiter that is found stands at its position, and none stands before it. -/
theorem nextDelimiter_eq_some {i n : Nat} (h : nextDelimiter ds i s = some (n, d)) :
    ∃ k, n = i + k ∧ k ≤ s.length ∧ longestAt (s.drop k) ds = some d ∧
      ∀ j < k, longestAt (s.drop j) ds = none := by
  induction s generalizing i with
  | nil =>
    unfold nextDelimiter at h
    split at h
    · rename_i e he
      cases h
      exact ⟨0, by simp, by simp, by simpa using he, by simp⟩
    · cases h
  | cons c s ih =>
    unfold nextDelimiter at h
    split at h
    · rename_i e he
      cases h
      exact ⟨0, by simp, by simp, by simpa using he, by simp⟩
    · rename_i hnone
      rcases ih h with ⟨k, rfl, hk, hat, hbefore⟩
      refine ⟨k + 1, by omega, by simpa using hk, by simpa using hat, ?_⟩
      intro j hj
      cases j with
      | zero => simpa using hnone
      | succ j => exact hbefore j (by omega)

/-- A delimiter with none before it is the one that is found. -/
theorem nextDelimiter_append {i : Nat} {w : Text}
    (hbefore : ∀ j < w.length, longestAt ((w ++ s).drop j) ds = none)
    (hat : longestAt s ds = some d) : nextDelimiter ds i (w ++ s) = some (i + w.length, d) := by
  induction w generalizing i with
  | nil =>
    unfold nextDelimiter
    simp [hat]
  | cons c w ih =>
    have hnone : longestAt (c :: (w ++ s)) ds = none := by simpa using hbefore 0 (by simp)
    -- position `j` of the rest is position `j + 1` of the whole
    have hnext := ih (i := i + 1) fun j hj => hbefore (j + 1) (by simpa using hj)
    rw [List.cons_append]
    unfold nextDelimiter
    simp only [hnone, hnext, List.length_cons, Option.some.injEq, Prod.mk.injEq, and_true]
    omega

/-- If no delimiter stands in a text, none is found. -/
theorem nextDelimiter_eq_none_of (hds : ∀ d ∈ ds, d ≠ []) {i : Nat}
    (h : ∀ j < s.length, longestAt (s.drop j) ds = none) : nextDelimiter ds i s = none := by
  induction s generalizing i with
  | nil =>
    unfold nextDelimiter
    simp [longestAt_nil hds]
  | cons c s ih =>
    have hnone : longestAt (c :: s) ds = none := by simpa using h 0 (by simp)
    unfold nextDelimiter
    simp only [hnone]
    exact ih fun j hj => h (j + 1) (by simpa using hj)

/-! ## The end of a comment -/

namespace Text

/-- An occurrence lies within the text. -/
theorem offsetFrom_bounds {i j : Nat} (h : offsetFrom part i s = some j) :
    i ≤ j ∧ j + part.length ≤ i + s.length := by
  induction s generalizing i with
  | nil =>
    unfold offsetFrom at h
    split at h
    · rename_i hpre
      cases h
      have := (List.isPrefixOf_iff_prefix.1 hpre).length_le
      omega
    · cases h
  | cons c s ih =>
    unfold offsetFrom at h
    split at h
    · rename_i hpre
      cases h
      have := (List.isPrefixOf_iff_prefix.1 hpre).length_le
      omega
    · have := ih h
      simp only [List.length_cons]
      omega

end Text

/-- A balancing delimiter lies within the text. -/
theorem balancedFrom_bounds {opener closer : Text} {depth skip n m : Nat}
    (h : balancedFrom opener closer depth skip n s = some m) :
    n + closer.length ≤ m ∧ m ≤ n + s.length := by
  fun_induction balancedFrom opener closer depth skip n s with
  | case1 => cases h
  | case2 depth skip n c s ih =>
    have := ih h
    simp only [List.length_cons]
    omega
  | case3 depth n c s hnone ih =>
    have := ih h
    simp only [List.length_cons]
    omega
  | case4 depth n c s hlongest ih =>
    have := ih h
    simp only [List.length_cons]
    omega
  | case5 n c s d hlongest hne =>
    -- the outermost comment ends here
    rcases mem_of_longestAt hlongest with ⟨hmem, hpre⟩
    have hd : d = closer := by simpa [hne] using hmem
    have := (List.isPrefixOf_iff_prefix.1 hpre).length_le
    cases h
    subst hd
    omega
  | case6 n c s d hlongest hne depth ih =>
    have := ih h
    simp only [List.length_cons]
    omega

/-- A comment does not reach past the end of the text. -/
theorem reach?_le {ending : CommentStyle.Ending} {reach : Nat} (h : ending.reach? s = some reach) :
    reach ≤ s.length := by
  cases ending with
  | line =>
    cases h
    exact List.findIdx_le_length
  | first closer =>
    rcases Option.map_eq_some_iff.1 h with ⟨j, hj, rfl⟩
    have := (Text.offsetFrom_bounds hj).2
    omega
  | balanced opener closer =>
    have := (balancedFrom_bounds h).2
    omega

end KeptRegions
