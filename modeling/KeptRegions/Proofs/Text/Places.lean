import KeptRegions.Proofs.Text.Lines
import Mathlib.Data.Nat.Init
import Mathlib.Tactic.SplitIfs

namespace KeptRegions

/-!
# The order of places

From one position to the next the place moves on: to the next column, or behind a line end to the next
line. It stays where it is at one kind of position only, between the two halves of a pair of a carriage
return and a line feed. The first half counts as a line end there, so the next line starts in front of
the line feed, and it starts again behind it. Apart from this, places are in the order of their positions
(`precedes_iff_of_lt`).
-/

namespace Text

/-- Between the two texts a pair is divided: one ends with a carriage return, the other begins with a
line feed. -/
def MeetInPair (s t : Text) : Prop :=
  s.getLast? = some '\r' ∧ t.head? = some '\n'

/-- The position lies between the two halves of a pair. -/
def DividesPair (text : Text) (n : Nat) : Prop :=
  MeetInPair (text.take n) (text.drop n)

instance (s t : Text) : Decidable (MeetInPair s t) :=
  inferInstanceAs (Decidable (_ ∧ _))

instance (text : Text) : DecidablePred text.DividesPair :=
  fun _ => inferInstanceAs (Decidable (MeetInPair _ _))

/-- A line end begins at the position. The second half of a pair does not begin one. -/
def BeginsEnd (text : Text) (n : Nat) : Prop :=
  text[n]?.any isLineEnd = true ∧ ¬ text.DividesPair n

instance (text : Text) : DecidablePred text.BeginsEnd :=
  fun _ => inferInstanceAs (Decidable (_ ∧ _))

variable {s t text : Text} {c d : Char} {i n : Nat}

/-! ## Line starts of a longer text -/

theorem MeetInPair.cons (h : MeetInPair s t) (c : Char) : MeetInPair (c :: s) t := by
  refine ⟨?_, h.2⟩
  rw [List.getLast?_cons, h.1, Option.getD_some]

/-- Where two texts do not meet within a pair, each has its own line ends. -/
theorem lineStarts_append (h : ¬ MeetInPair s t) :
    lineStarts i (s ++ t) = lineStarts i s ++ lineStarts (i + s.length) t := by
  have hlength : ∀ (i : Nat) (c : Char) (s : Text), i + (c :: s).length = i + 1 + s.length :=
    fun i c s => by rw [List.length_cons]; omega
  -- a character that begins no pair by itself does not begin one with what is appended
  have hpairs : ∀ {c s}, (∀ s', c = '\r' → s = '\n' :: s' → False) → ¬ MeetInPair (c :: s) t →
      ∀ s', c = '\r' → s ++ t = '\n' :: s' → False := by
    rintro c s hpair h s' rfl heq
    cases s with
    | nil => exact h ⟨rfl, by rw [← List.nil_append t, heq]; rfl⟩
    | cons d s => exact hpair s rfl (by rw [(List.cons.inj heq).1])
  fun_induction lineStarts i s with
  | case1 => rfl
  | case2 i s ih =>
    rw [List.cons_append, List.cons_append, lineStarts, ih fun hs => h ((hs.cons _).cons _),
      hlength, hlength, List.cons_append]
  | case3 i c s hpair hend ih =>
    rw [List.cons_append, lineStarts.eq_3 _ _ _ (hpairs hpair h), if_pos hend,
      ih fun hs => h (hs.cons _), hlength, List.cons_append]
  | case4 i c s hpair hend ih =>
    rw [List.cons_append, lineStarts.eq_3 _ _ _ (hpairs hpair h), if_neg hend,
      ih fun hs => h (hs.cons _), hlength]

theorem lineStarts_concat_of_isLineEnd (h : ¬ MeetInPair s [c]) (hc : isLineEnd c = true) :
    lineStarts i (s ++ [c]) = lineStarts i s ++ [i + s.length + 1] := by
  rw [lineStarts_append h, lineStarts.eq_3 _ _ _ (by simp), if_pos hc, lineStarts]

theorem lineStarts_concat_of_not_isLineEnd (hc : isLineEnd c = false) :
    lineStarts i (s ++ [c]) = lineStarts i s := by
  have h : ¬ MeetInPair s [c] := by
    rintro ⟨-, hhead⟩
    rw [List.head?_cons, Option.some.injEq] at hhead
    rw [hhead] at hc
    cases hc
  rw [lineStarts_append h, lineStarts.eq_3 _ _ _ (by simp), hc]
  simp [lineStarts]

/-- The second half of a pair moves the start of the next line behind it. -/
theorem lineStarts_concat_of_meetInPair (h : MeetInPair s [c]) :
    ∃ starts, lineStarts i s = starts ++ [i + s.length] ∧
      lineStarts i (s ++ [c]) = starts ++ [i + s.length + 1] := by
  obtain ⟨hlast, hhead⟩ := h
  obtain ⟨s, rfl⟩ := List.getLast?_eq_some_iff.1 hlast
  obtain rfl : c = '\n' := by simpa using hhead
  have hhalf : ¬ MeetInPair s ['\r'] := fun h => absurd h.2 (by decide)
  have hpair : ¬ MeetInPair s ['\r', '\n'] := fun h => absurd h.2 (by decide)
  refine ⟨lineStarts i s, ?_, ?_⟩
  · rw [lineStarts_concat_of_isLineEnd hhalf rfl, List.length_append, ← Nat.add_assoc]
    rfl
  · rw [List.append_assoc, List.singleton_append, lineStarts_append hpair, List.length_append]
    simp [lineStarts, Nat.add_assoc]

theorem dividesPair_iff (hn : text[n]? = some c) : text.DividesPair n ↔ MeetInPair (text.take n) [c] := by
  rw [DividesPair, MeetInPair, MeetInPair, List.head?_drop, hn, List.head?_cons]

/-- Two positions in a row do not both divide a pair. -/
theorem DividesPair.succ (h : text.DividesPair n) : ¬ text.DividesPair (n + 1) := by
  rintro ⟨hlast, -⟩
  have hn : text[n]? = some '\n' := by rw [← List.head?_drop, h.2]
  rw [List.take_add_one, hn, Option.toList_some, List.getLast?_append, List.getLast?_singleton] at hlast
  cases hlast

end Text

namespace Place

/-- The place is on an earlier line, or on the same line in an earlier column. -/
def Precedes (a b : Place) : Prop :=
  a.line < b.line ∨ a.line = b.line ∧ a.column < b.column

instance (a b : Place) : Decidable (a.Precedes b) :=
  inferInstanceAs (Decidable (_ ∨ _))

variable {text : Text} {a b place : Place} {c : Char} {n p q : Nat}

theorem Precedes.trans {a b c : Place} (hab : a.Precedes b) (hbc : b.Precedes c) : a.Precedes c := by
  unfold Precedes at *
  omega

theorem Precedes.ne (h : a.Precedes b) : a ≠ b := by
  rintro rfl
  unfold Precedes at h
  omega

/-! ## From one position to the next -/

/-- The place behind one more character. -/
theorem of_succ (hn : text[n]? = some c) :
    of text (n + 1 : Nat) =
      if text.DividesPair n then of text n
      else if isLineEnd c then { line := (of text n).line + 1, column := 1 }
      else { of text n with column := (of text n).column + 1 } := by
  have htake : text.take (n + 1) = text.take n ++ [c] := by
    rw [List.take_add_one, hn, Option.toList_some]
  have hlength : (text.take n).length = n :=
    List.length_take_of_le (Nat.le_of_lt (List.getElem?_eq_some_iff.1 hn).1)
  unfold of
  rw [Int.toNat_natCast, Int.toNat_natCast, htake]
  split_ifs with hdivides hc
  · obtain ⟨starts, hstarts, hnext⟩ :=
      Text.lineStarts_concat_of_meetInPair (i := 0) ((Text.dividesPair_iff hn).1 hdivides)
    simp [hstarts, hnext, hlength]
  · rw [Text.lineStarts_concat_of_isLineEnd (mt (Text.dividesPair_iff hn).2 hdivides) hc]
    simp [hlength]
  · rw [Text.lineStarts_concat_of_not_isLineEnd (by simpa using hc)]
    simp
    omega

theorem of_succ_of_dividesPair (h : text.DividesPair n) : of text (n + 1 : Nat) = of text n := by
  have hn : text[n]? = some '\n' := by rw [← List.head?_drop, h.2]
  rw [of_succ hn, if_pos h]

theorem precedes_succ (hn : n < text.length) (h : ¬ text.DividesPair n) :
    (of text n).Precedes (of text (n + 1 : Nat)) := by
  rw [of_succ (List.getElem?_eq_getElem hn), if_neg h]
  split
  · exact .inl (Nat.lt_succ_self _)
  · exact .inr ⟨rfl, Int.lt_succ _⟩

/-! ## From any position to a later one -/

/-- A later position has a later place, unless it is the next one and the two are on both sides of a
line feed that belongs to a pair. -/
theorem precedes_or_of_lt (hlt : p < q) (hq : q ≤ text.length) :
    (of text p).Precedes (of text q) ∨ q = p + 1 ∧ text.DividesPair p := by
  induction q, hlt using Nat.le_induction with
  | base =>
    by_cases h : text.DividesPair p
    · exact .inr ⟨rfl, h⟩
    · exact .inl (precedes_succ hq h)
  | succ q hlt ih =>
    rcases ih (Nat.le_of_succ_le hq) with hbefore | ⟨rfl, hp⟩
    · by_cases h : text.DividesPair q
      · rw [of_succ_of_dividesPair h]
        exact .inl hbefore
      · exact .inl (hbefore.trans (precedes_succ hq h))
    · -- the place does not move within the pair, and it moves on behind it
      rw [← of_succ_of_dividesPair hp]
      exact .inl (precedes_succ hq hp.succ)

/-- The line of a position is counted by the line ends that begin before it. -/
theorem line_of (text : Text) (n : Nat) :
    (of text n).line = (List.range n).countP (fun m => text.BeginsEnd m) + 1 := by
  induction n with
  | zero => rfl
  | succ n ih =>
    rw [List.range_succ, List.countP_append, List.countP_singleton]
    cases hn : text[n]? with
    | none =>
      -- behind the end of the text no line ends
      have hlength : text.length ≤ n := List.getElem?_eq_none_iff.1 hn
      have hend : ¬ text.BeginsEnd n := fun h => by
        rw [Text.BeginsEnd, hn] at h
        exact absurd h.1 (by decide)
      have hline : (of text (n + 1 : Nat)).line = (of text n).line := by
        simp [of, List.take_of_length_le hlength, List.take_of_length_le (Nat.le_succ_of_le hlength)]
      rw [hline, ih, decide_eq_false hend]
      rfl
    | some c =>
      have hbegins : text.BeginsEnd n ↔ isLineEnd c = true ∧ ¬ text.DividesPair n := by
        rw [Text.BeginsEnd, hn, Option.any_some]
      rw [of_succ hn]
      by_cases hdivides : text.DividesPair n
      · rw [if_pos hdivides, decide_eq_false (by simp [hbegins, hdivides]), ih]
        rfl
      · by_cases hc : isLineEnd c = true
        · rw [if_neg hdivides, if_pos hc, decide_eq_true (hbegins.2 ⟨hc, hdivides⟩), ih]
          simp
        · rw [if_neg hdivides, if_neg hc, decide_eq_false (by simp [hbegins, hc]), ih]
          rfl

/-- Of two positions of a text, the earlier one has the earlier place, except that both have the same
place if the earlier one divides a pair and the later one is behind that pair. The line of a position is
one more than the number of line ends that begin before it, where a pair is one line end. -/
theorem precedes_iff_of_lt (hlt : p < q) (hq : q ≤ text.length) :
    ((of text p).Precedes (of text q) ↔ ¬ (q = p + 1 ∧ text.DividesPair p)) ∧
      (of text p = of text q ↔ q = p + 1 ∧ text.DividesPair p) ∧
      ∀ n : Nat, (of text n).line = (List.range n).countP (fun m => text.BeginsEnd m) + 1 := by
  have hsame : q = p + 1 ∧ text.DividesPair p → of text p = of text q := by
    rintro ⟨rfl, h⟩
    exact (of_succ_of_dividesPair h).symm
  refine ⟨⟨fun h hpair => h.ne (hsame hpair), (precedes_or_of_lt hlt hq).resolve_right⟩,
    ⟨fun h => ?_, hsame⟩, line_of text⟩
  exact (precedes_or_of_lt hlt hq).resolve_left fun hbefore => hbefore.ne h

/-- Behind a pair that ends the first line, the place is later than in that line. -/
theorem precedes_behind_pair :
    1 < 3 ∧ 3 ≤ "a\r\nb".toList.length ∧ (of "a\r\nb".toList 1).Precedes (of "a\r\nb".toList 3) :=
  ⟨by decide, by decide, (precedes_iff_of_lt (p := 1) (q := 3) (by decide) (by decide)).1.2 (by decide)⟩

/-- Places do not tell all positions apart: between the two halves of a pair and behind the pair they are
the same. -/
theorem not_precedes_within_pair :
    ¬ ∀ (text : Text) (p q : Nat), p < q → q ≤ text.length → (of text p).Precedes (of text q) :=
  fun h => absurd (h ['\r', '\n'] 1 2 (by decide) (by decide)) (by decide)

end Place

end KeptRegions
