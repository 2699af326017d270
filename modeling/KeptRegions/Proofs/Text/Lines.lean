import KeptRegions.Text.Lines

namespace KeptRegions

/-!
# The lines of a text and its places

What the lines of a text are is said here by the line ends that close them, and a text has just the
lines that it is split into (`hasLines_iff`). The place of a position counts these lines: it gives
the line that the position lies in, and how far into the line it lies (`Place.isAt_of`).
-/

namespace Text

/-- A line of a text and its end. -/
def joinLine (l : Text × Text) : Text :=
  l.1 ++ l.2

/-- The line ends that close a line in front of `rest`. A carriage return with a line feed behind it
is only a half of one. -/
inductive Closes (rest : Text) : Text → Prop where
  | pair : Closes rest ['\r', '\n']
  | lineFeed : Closes rest ['\n']
  | carriageReturn (h : rest.head? ≠ some '\n') : Closes rest ['\r']

/-- The text consists of these lines. No line has a line end in it, and all are closed by one, except
that the last line can be without an end if it is not empty. -/
inductive HasLines : Text → List (Text × Text) → Prop where
  | nil : HasLines [] []
  | last {line : Text} (hne : line ≠ []) (hline : ∀ c ∈ line, isLineEnd c = false) :
      HasLines line [(line, [])]
  | closed {line stop rest : Text} {ls : List (Text × Text)}
      (hline : ∀ c ∈ line, isLineEnd c = false) (hstop : Closes rest stop)
      (h : HasLines rest ls) : HasLines (line ++ (stop ++ rest)) ((line, stop) :: ls)

variable {line stop rest s text : Text} {ls : List (Text × Text)} {c : Char} {i n : Nat}

/-! ## One line -/

theorem Closes.isLineEnd_of_mem (h : Closes rest stop) (hc : c ∈ stop) : isLineEnd c = true := by
  cases h with
  | pair =>
    have hc' : c = '\r' ∨ c = '\n' := by simpa using hc
    rcases hc' with rfl | rfl <;> rfl
  | lineFeed => rw [List.mem_singleton.1 hc]; rfl
  | carriageReturn h => rw [List.mem_singleton.1 hc]; rfl

/-- A line end closes a line also if less of the text follows it. -/
theorem Closes.take (h : Closes rest stop) (n : Nat) : Closes (rest.take n) stop := by
  cases h with
  | pair => exact .pair
  | lineFeed => exact .lineFeed
  | carriageReturn h =>
    refine .carriageReturn ?_
    rw [List.head?_take]
    split
    · simp
    · exact h

theorem ne_carriageReturn (hc : isLineEnd c = false) : c ≠ '\r' := by
  rintro rfl
  exact absurd hc (by decide)

theorem lineStarts_append_of_free (hline : ∀ c ∈ line, isLineEnd c = false) :
    lineStarts i (line ++ s) = lineStarts (i + line.length) s := by
  induction line generalizing i with
  | nil => rfl
  | cons c line ih =>
    rw [List.forall_mem_cons] at hline
    have hpair : ∀ s', c = '\r' → line ++ s = '\n' :: s' → False :=
      fun s' hc _ => ne_carriageReturn hline.1 hc
    rw [List.cons_append, lineStarts.eq_3 _ _ _ hpair, if_neg (by simp [hline.1]), ih hline.2,
      List.length_cons, Nat.add_assoc, Nat.add_comm 1]

theorem Closes.lineStarts_append (h : Closes rest stop) :
    lineStarts i (stop ++ rest) = (i + stop.length) :: lineStarts (i + stop.length) rest := by
  cases h with
  | pair => rfl
  | lineFeed => rfl
  | carriageReturn h =>
    cases rest with
    | nil => rfl
    | cons c rest =>
      have hc : c ≠ '\n' := by simpa using h
      simp [lineStarts, hc, isLineEnd]

theorem splitLinesFrom_append_of_free (hline : ∀ c ∈ line, isLineEnd c = false) (acc : Text) :
    splitLinesFrom acc (line ++ s) = splitLinesFrom (line.reverse ++ acc) s := by
  induction line generalizing acc with
  | nil => rfl
  | cons c line ih =>
    rw [List.forall_mem_cons] at hline
    have hpair : ∀ s', c = '\r' → line ++ s = '\n' :: s' → False :=
      fun s' hc _ => ne_carriageReturn hline.1 hc
    rw [List.cons_append, splitLinesFrom.eq_3 _ _ _ hpair, if_neg (by simp [hline.1]),
      ih hline.2, List.reverse_cons, List.append_assoc, List.singleton_append]

theorem Closes.splitLinesFrom_append (h : Closes rest stop) (acc : Text) :
    splitLinesFrom acc (stop ++ rest) = (acc.reverse, stop) :: splitLinesFrom [] rest := by
  cases h with
  | pair => rfl
  | lineFeed => rfl
  | carriageReturn h =>
    cases rest with
    | nil => rfl
    | cons c rest =>
      have hc : c ≠ '\n' := by simpa using h
      simp [splitLinesFrom, hc, isLineEnd]

/-! ## All lines -/

theorem HasLines.splitLines_eq (h : HasLines s ls) : splitLines s = ls := by
  induction h with
  | nil => rfl
  | @last line hne hline =>
    have hsplit := splitLinesFrom_append_of_free (s := []) hline []
    rw [List.append_nil, List.append_nil] at hsplit
    rw [splitLines, hsplit]
    simp [splitLinesFrom, hne]
  | closed hline hstop h ih =>
    rw [splitLines, splitLinesFrom_append_of_free hline, hstop.splitLinesFrom_append, ← splitLines,
      ih, List.append_nil, List.reverse_reverse]

theorem hasLines_splitLinesFrom {acc : Text} (hacc : ∀ c ∈ acc, isLineEnd c = false) :
    HasLines (acc.reverse ++ s) (splitLinesFrom acc s) := by
  fun_induction splitLinesFrom acc s with
  | case1 acc hempty =>
    rw [List.isEmpty_iff.1 hempty]
    exact .nil
  | case2 acc hempty =>
    rw [List.append_nil]
    refine .last ?_ (by simpa using hacc)
    simpa using hempty
  | case3 acc s ih => exact .closed (by simpa using hacc) .pair (ih (by simp))
  | case4 acc c s hpair hend ih =>
    have hc : c = '\n' ∨ c = '\r' := by simpa [isLineEnd] using hend
    -- a carriage return with a line feed behind it was the case before this one
    have hstop : Closes s [c] := by
      rcases hc with rfl | rfl
      · exact .lineFeed
      · refine .carriageReturn fun h => ?_
        obtain ⟨s', rfl⟩ := List.head?_eq_some_iff.1 h
        exact hpair s' rfl rfl
    exact .closed (by simpa using hacc) hstop (ih (by simp))
  | case5 acc c s hpair hend ih =>
    have hc : isLineEnd c = false := by simpa using hend
    have hline := ih (List.forall_mem_cons.2 ⟨hc, hacc⟩)
    simpa using hline

/-- A text consists of the lines that it is split into, and of no others. -/
theorem hasLines_iff : HasLines s ls ↔ splitLines s = ls := by
  constructor
  · exact HasLines.splitLines_eq
  · rintro rfl
    have hlines : HasLines (([] : Text).reverse ++ s) (splitLinesFrom [] s) :=
      hasLines_splitLinesFrom nofun
    exact hlines

theorem HasLines.flatMap_joinLine (h : HasLines s ls) : ls.flatMap joinLine = s := by
  induction h with
  | nil => rfl
  | last hne hline => simp [joinLine]
  | closed hline hstop h ih => simp [joinLine, ih]

/-- The lines of a text with their ends are the text. -/
theorem flatMap_splitLines (s : Text) : (splitLines s).flatMap joinLine = s :=
  (hasLines_iff.2 rfl).flatMap_joinLine

/-! ## Texts that start in a line -/

/-- The text starts with a character that ends no line. -/
def StartsInLine (s : Text) : Prop :=
  ∃ c, s.head? = some c ∧ isLineEnd c = false

theorem startsInLine_of_free (hne : line ≠ []) (hline : ∀ c ∈ line, isLineEnd c = false) :
    StartsInLine line :=
  ⟨line.head hne, List.head?_eq_some_head hne, hline _ (List.head_mem hne)⟩

theorem StartsInLine.mono (h : StartsInLine s) (hs : s <+: text) : StartsInLine text := by
  obtain ⟨c, hhead, hc⟩ := h
  obtain ⟨rest, rfl⟩ := hs
  exact ⟨c, by rw [List.head?_append, hhead, Option.some_or], hc⟩

theorem StartsInLine.ne_nil (h : StartsInLine s) : s ≠ [] := by
  rintro rfl
  obtain ⟨c, hhead, -⟩ := h
  cases hhead

end Text

/-! ## Places -/

/-- The position of the text lies in the line of the place, at its column. Both are counted from
one. -/
def Place.IsAt (place : Place) (text : Text) (position : Nat) : Prop :=
  ∃ before line stop after, Text.HasLines text (before ++ (line, stop) :: after) ∧
    ∃ k < line.length, position = (before.flatMap Text.joinLine).length + k ∧
      place = { line := before.length + 1, column := k + 1 }

namespace Text.HasLines

variable {line stop text : Text} {before after ls : List (Text × Text)} {c : Char} {k n : Nat}

/-- A character that ends no line stands in one of the lines. -/
theorem exists_line (h : HasLines text ls) (hn : text[n]? = some c) (hc : isLineEnd c = false) :
    ∃ before line stop after, ls = before ++ (line, stop) :: after ∧
      ∃ k < line.length, n = (before.flatMap joinLine).length + k := by
  induction h generalizing n with
  | nil => simp at hn
  | @last line hne hline =>
    have hlt : n < line.length := (List.getElem?_eq_some_iff.1 hn).1
    exact ⟨[], line, [], [], rfl, n, hlt, by simp⟩
  | @closed line stop rest ls hline hstop h ih =>
    by_cases hlt : n < line.length
    · exact ⟨[], line, stop, ls, rfl, n, hlt, by simp⟩
    rw [List.getElem?_append_right (Nat.le_of_not_lt hlt)] at hn
    by_cases hend : n - line.length < stop.length
    · -- all characters of a line end end lines
      rw [List.getElem?_append_left hend] at hn
      have hend' := hstop.isLineEnd_of_mem (List.mem_of_getElem? hn)
      rw [hc] at hend'
      cases hend'
    · rw [List.getElem?_append_right (Nat.le_of_not_lt hend)] at hn
      rcases ih hn with ⟨before, line', stop', after, rfl, k, hk, hn'⟩
      refine ⟨(line, stop) :: before, line', stop', after, rfl, k, hk, ?_⟩
      simp only [List.flatMap_cons, joinLine, List.length_append]
      omega

/-- No line has a line end in it. -/
theorem free_of_mem {l : Text × Text} (h : HasLines text ls) (hl : l ∈ ls) :
    ∀ c ∈ l.1, isLineEnd c = false := by
  induction h with
  | nil => simp at hl
  | last hne hline =>
    rw [List.mem_singleton.1 hl]
    exact hline
  | closed hline hstop h ih =>
    rcases List.mem_cons.1 hl with rfl | hl
    · exact hline
    · exact ih hl

/-- Up to a line and into it there are as many line ends as there are lines in front of it, and the
last of them stands right before it. -/
theorem lineStarts_take (h : HasLines text (before ++ (line, stop) :: after))
    (hk : k ≤ line.length) (i : Nat) :
    (lineStarts i (text.take ((before.flatMap joinLine).length + k))).length = before.length ∧
      (lineStarts i (text.take ((before.flatMap joinLine).length + k))).getLast?.getD i =
        i + (before.flatMap joinLine).length := by
  induction before generalizing text i with
  | nil =>
    have hline := h.free_of_mem List.mem_cons_self
    have hfree : ∀ c ∈ line.take k, isLineEnd c = false :=
      fun c hc => hline c (List.mem_of_mem_take hc)
    have htake : text.take k = line.take k := by
      rw [← h.flatMap_joinLine, List.nil_append, List.flatMap_cons, joinLine, List.append_assoc,
        List.take_append_of_le_length hk]
    have hstarts : lineStarts i (line.take k) = [] := by
      have happend := lineStarts_append_of_free (i := i) (s := []) hfree
      rwa [List.append_nil] at happend
    rw [List.flatMap_nil, List.length_nil, Nat.zero_add, htake, hstarts]
    exact ⟨rfl, rfl⟩
  | cons l before ih =>
    generalize hls : l :: before ++ (line, stop) :: after = ls at h
    cases h with
    | nil => simp at hls
    | last hne hline => simp at hls
    | @closed line' stop' rest ls hline hstop h =>
      rw [List.cons_append, List.cons.injEq] at hls
      obtain ⟨rfl, rfl⟩ := hls
      -- the first line and its end are in front of the position as a whole
      have htake : (line' ++ (stop' ++ rest)).take
          ((((line', stop') :: before).flatMap joinLine).length + k) =
            line' ++ (stop' ++ rest.take ((before.flatMap joinLine).length + k)) := by
        rw [List.flatMap_cons, List.length_append, Nat.add_assoc, ← List.append_assoc,
          ← List.append_assoc]
        exact List.take_length_add_append _
      rw [htake, lineStarts_append_of_free hline, (hstop.take _).lineStarts_append]
      obtain ⟨hcount, hlast⟩ := ih h (i + line'.length + stop'.length)
      rw [List.length_cons, hcount, List.length_cons, List.getLast?_cons, Option.getD_some, hlast]
      refine ⟨rfl, ?_⟩
      simp [joinLine, Nat.add_assoc]

end Text.HasLines

namespace Place

variable {text : Text} {place : Place} {n : Nat}

/-- A position lies in one line only, and that is the one of its place. -/
theorem IsAt.eq_of (h : place.IsAt text n) : place = of text n := by
  rcases h with ⟨before, line, stop, after, hlines, k, hk, rfl, rfl⟩
  obtain ⟨hcount, hlast⟩ := hlines.lineStarts_take (Nat.le_of_lt hk) 0
  simp only [of, Int.toNat_natCast, hcount, hlast]
  congr 1
  omega

/-- Where no line ends, the place of a position is where the position lies in the lines. -/
theorem isAt_of (h : Text.StartsInLine (text.drop n)) : (of text n).IsAt text n := by
  obtain ⟨c, hhead, hc⟩ := h
  rw [List.head?_drop] at hhead
  have hlines := Text.hasLines_iff.2 (rfl : Text.splitLines text = _)
  obtain ⟨before, line, stop, after, hsplit, k, hk, rfl⟩ := hlines.exists_line hhead hc
  rw [hsplit] at hlines
  have hplace : Place.IsAt { line := before.length + 1, column := k + 1 } text
      ((before.flatMap Text.joinLine).length + k) :=
    ⟨before, line, stop, after, hlines, k, hk, rfl, rfl⟩
  -- there is only one such place, so it is the one that is counted
  rwa [← hplace.eq_of]

end Place

end KeptRegions
