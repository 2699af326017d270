import KeptRegions.Proofs.Comment.Delimiter
import Mathlib.Order.Bounds.Basic

namespace KeptRegions

/-!
# Where comments end

A comment ends at the least position that some rule allows: a line end behind its mark, the end of an
occurrence of its closing delimiter, or the end of a stretch in which its two delimiters balance. The
search for the end finds this position, and finds none if there is none (`reach?_eq_some_iff`,
`reach?_eq_none_iff`).
-/

variable {s d e opener closer part : Text} {ds found : List Text} {i j k n : Nat}

/-! ## Delimiters at a position -/

/-- Of the delimiters that stand at a position of a text, this one is the longest. -/
structure LongestAt (ds : List Text) (s : Text) (i : Nat) (d : Text) : Prop where
  mem : d ∈ ds
  stands : d <+: s.drop i
  longest : ∀ e ∈ ds, e <+: s.drop i → e.length ≤ d.length

/-- None of the delimiters stands at a position of a text. -/
def FreeAt (ds : List Text) (s : Text) (i : Nat) : Prop :=
  ∀ d ∈ ds, ¬ d <+: s.drop i

theorem LongestAt.unique (h : LongestAt ds s i d) (h' : LongestAt ds s i e) : d = e := by
  have hlen : d.length = e.length :=
    Nat.le_antisymm (h'.longest d h.mem h.stands) (h.longest e h'.mem h'.stands)
  exact (List.prefix_of_prefix_length_le h.stands h'.stands (Nat.le_of_eq hlen)).eq_of_length hlen

theorem LongestAt.not_freeAt (h : LongestAt ds s i d) : ¬ FreeAt ds s i :=
  fun hfree => hfree d h.mem h.stands

theorem longestAt_eq_none_iff : longestAt s ds = none ↔ ∀ d ∈ ds, ¬ d <+: s := by
  fun_induction longestAt s ds <;> grind [List.isPrefixOf_iff_prefix]

theorem length_le_of_longestAt (h : longestAt s ds = some d) (he : e ∈ ds) (hstands : e <+: s) :
    e.length ≤ d.length := by
  fun_induction longestAt s ds generalizing d <;>
    grind [List.isPrefixOf_iff_prefix, longestAt_eq_none_iff]

theorem longestAt_eq_some_iff : longestAt (s.drop i) ds = some d ↔ LongestAt ds s i d := by
  have hfound : ∀ {d}, longestAt (s.drop i) ds = some d → LongestAt ds s i d := by
    intro d h
    rcases mem_of_longestAt h with ⟨hmem, hpre⟩
    exact ⟨hmem, List.isPrefixOf_iff_prefix.1 hpre, fun e => length_le_of_longestAt h⟩
  refine ⟨hfound, fun h => ?_⟩
  cases hsome : longestAt (s.drop i) ds with
  | none => exact absurd (longestAt_eq_none_iff.1 hsome) h.not_freeAt
  | some e => rw [(hfound hsome).unique h]

/-! ## The first of some positions -/

/-- The least number with a property, or nothing if no number has it. -/
def IsFirst (P : Nat → Prop) : Option Nat → Prop
  | none => ∀ k, ¬ P k
  | some k => IsLeast {j | P j} k

section IsFirst

variable {P Q : Nat → Prop} {found : Option Nat}

theorem IsFirst.eq_some_iff (h : IsFirst P found) : found = some k ↔ IsLeast {j | P j} k := by
  cases found with
  | none => exact ⟨nofun, fun hk => absurd hk.1 (h k)⟩
  | some j =>
    refine ⟨fun hj => ?_, fun hk => ?_⟩
    · cases hj
      exact h
    · rw [h.unique hk]

theorem IsFirst.eq_none_iff (h : IsFirst P found) : found = none ↔ ∀ k, ¬ P k := by
  cases found with
  | none => exact ⟨fun _ => h, fun _ => rfl⟩
  | some k => exact ⟨nofun, fun hnone => absurd h.1 (hnone k)⟩

/-- If one property holds of the numbers that exceed those of the other by `i`, so does the first. -/
theorem IsFirst.add (h : IsFirst P found) (hQ : ∀ k, Q k ↔ ∃ j, k = i + j ∧ P j) :
    IsFirst Q (found.map (i + ·)) := by
  cases found with
  | none =>
    intro k hk
    obtain ⟨j, -, hj⟩ := (hQ k).1 hk
    exact h j hj
  | some j =>
    refine ⟨(hQ _).2 ⟨j, rfl, h.1⟩, fun k hk => ?_⟩
    obtain ⟨j', rfl, hj'⟩ := (hQ k).1 hk
    exact Nat.add_le_add_left (h.2 hj') i

theorem IsFirst.isLeast (h : IsFirst P found) (hQ : ∀ k, Q k ↔ IsLeast {j | P j} k) :
    IsFirst Q found := by
  cases found with
  | none => exact fun k hk => h k ((hQ k).1 hk).1
  | some k => exact ⟨(hQ k).2 h, fun j hj => h.2 ((hQ j).1 hj).1⟩

/-- The least number from `i` on with a property, counted from `i`. -/
theorem isLeast_add_iff : IsLeast {j | i ≤ j ∧ P j} (i + k) ↔ IsLeast {j | P (i + j)} k := by
  constructor
  · rintro ⟨⟨-, hk⟩, hleast⟩
    refine ⟨hk, fun j hj => ?_⟩
    have := hleast ⟨Nat.le_add_right i j, hj⟩
    omega
  · rintro ⟨hk, hleast⟩
    refine ⟨⟨Nat.le_add_right i k, hk⟩, ?_⟩
    rintro j ⟨hj, hP⟩
    obtain ⟨j, rfl⟩ := Nat.exists_eq_add_of_le hj
    exact Nat.add_le_add_left (hleast hP) i

theorem isFirst_zero (h : P 0) : IsFirst P (some 0) :=
  ⟨h, fun _ _ => Nat.zero_le _⟩

/-- The first number is found behind one that has not the property. -/
theorem IsFirst.succ (hzero : ¬ P 0) (h : IsFirst (fun j => P (j + 1)) found) :
    IsFirst P (found.map (1 + ·)) := by
  refine h.add fun k => ?_
  cases k with
  | zero => exact ⟨fun h => absurd h hzero, fun ⟨j, hj, _⟩ => by omega⟩
  | succ k => exact ⟨fun hk => ⟨k, Nat.add_comm k 1, hk⟩, fun ⟨j, hj, hP⟩ => by
      obtain rfl : k = j := by omega
      exact hP⟩

end IsFirst

theorem Text.offsetFrom_eq (part : Text) (i : Nat) (s : Text) :
    offsetFrom part i s = (offset? part s).map (i + ·) := by
  unfold offset?
  induction s generalizing i with
  | nil => unfold offsetFrom; split <;> simp
  | cons c s ih =>
    unfold offsetFrom
    split
    · simp
    · simp only [ih (i + 1), ih (0 + 1)]
      simp [Function.comp_def, Nat.add_assoc]

/-- A text is found where it stands first. -/
theorem Text.isFirst_offset? (part s : Text) :
    IsFirst (fun j => part <+: s.drop j) (offset? part s) := by
  induction s with
  | nil =>
    unfold offset? offsetFrom
    split
    · rename_i hpre
      exact isFirst_zero (List.isPrefixOf_iff_prefix.1 hpre)
    · rename_i hpre
      intro k hk
      rw [List.drop_nil, ← List.isPrefixOf_iff_prefix] at hk
      exact hpre hk
  | cons c s ih =>
    unfold offset? offsetFrom
    split
    · rename_i hpre
      exact isFirst_zero (List.isPrefixOf_iff_prefix.1 hpre)
    · rename_i hpre
      simp only [offsetFrom_eq part (0 + 1)]
      exact IsFirst.succ (fun h => hpre (List.isPrefixOf_iff_prefix.2 h)) ih

/-- A line ends at a carriage return, at a line feed, or with the text. -/
def LineStopsAt (s : Text) (i : Nat) : Prop :=
  s[i]? = some '\r' ∨ s[i]? = some '\n' ∨ i = s.length

theorem isFirst_findIdx (s : Text) : IsFirst (LineStopsAt s) (some (s.findIdx isLineEnd)) := by
  induction s with
  | nil => exact isFirst_zero (.inr (.inr rfl))
  | cons c s ih =>
    rw [List.findIdx_cons]
    cases hc : isLineEnd c with
    | true =>
      simp only [isLineEnd, Bool.or_eq_true, decide_eq_true_eq] at hc
      refine isFirst_zero ?_
      rcases hc with rfl | rfl <;> simp [LineStopsAt]
    | false =>
      have hzero : ¬ LineStopsAt (c :: s) 0 := by
        simp only [isLineEnd, Bool.or_eq_false_iff, decide_eq_false_iff_not] at hc
        simp [LineStopsAt, hc]
      have hnext : (fun j => LineStopsAt (c :: s) (j + 1)) = LineStopsAt s := by
        funext j
        simp [LineStopsAt]
      rw [Bool.cond_false, Nat.add_comm]
      exact IsFirst.succ hzero (hnext ▸ ih)

/-! ## Balanced delimiters -/

/-- Delimiters that are read from a text from left to right without overlap, at each place the
longest one, and how many characters that takes. -/
inductive Reads (ds : List Text) : Text → List Text → Nat → Prop where
  | nil (s : Text) : Reads ds s [] 0
  | cons {s d : Text} {found : List Text} {k n : Nat} (hfree : ∀ j < k, FreeAt ds s j)
      (hd : LongestAt ds s k d) (hrest : Reads ds (s.drop (k + d.length)) found n) :
      Reads ds s (d :: found) (k + d.length + n)

/-- Within the first `n` characters of a text the closing delimiters that are read outnumber the
opening ones by `depth`. -/
def Balances (opener closer : Text) (depth : Nat) (s : Text) (n : Nat) : Prop :=
  ∃ found, Reads [opener, closer] s found n ∧ found.count closer = found.count opener + depth

/-- Where the next delimiter stands is determined, and so is which one it is. -/
theorem LongestAt.first_unique (h : LongestAt ds s i d) (hfree : ∀ k < i, FreeAt ds s k)
    (h' : LongestAt ds s j e) (hfree' : ∀ k < j, FreeAt ds s k) : i = j ∧ d = e := by
  have hi : ¬ i < j := fun hlt => h.not_freeAt (hfree' i hlt)
  have hj : ¬ j < i := fun hlt => h'.not_freeAt (hfree j hlt)
  obtain rfl : i = j := by omega
  exact ⟨rfl, h.unique h'⟩

section Balancing

variable {depth m : Nat}

theorem balancedFrom_skip (opener closer : Text) (depth skip n : Nat) (s : Text) :
    balancedFrom opener closer depth skip n s =
      balancedFrom opener closer depth 0 (n + skip) (s.drop skip) := by
  induction skip generalizing n s with
  | zero => rfl
  | succ skip ih =>
    cases s with
    | nil => simp [balancedFrom]
    | cons c s => simp only [balancedFrom, ih, List.drop_succ_cons, Nat.add_assoc, Nat.add_comm 1]

/-- Counting passes over a text in which neither delimiter stands. -/
theorem balancedFrom_free (hfree : ∀ j < k, FreeAt [opener, closer] s j) :
    balancedFrom opener closer depth 0 n s =
      balancedFrom opener closer depth 0 (n + k) (s.drop k) := by
  induction k generalizing n s with
  | zero => rfl
  | succ k ih =>
    cases s with
    | nil => simp [balancedFrom]
    | cons c s =>
      have hnone : longestAt (c :: s) [opener, closer] = none :=
        longestAt_eq_none_iff.2 (hfree 0 (Nat.succ_pos k))
      have hrest : ∀ j < k, FreeAt [opener, closer] s j :=
        fun j hj => hfree (j + 1) (Nat.succ_lt_succ hj)
      rw [balancedFrom.eq_def]
      simp only [hnone, ih hrest, List.drop_succ_cons, Nat.add_assoc, Nat.add_comm 1]

/-- Counting goes on behind a delimiter that stands in front, unless that closes the comment. -/
theorem balancedFrom_delimiter (hopener : opener ≠ []) (hcloser : closer ≠ [])
    (h : LongestAt [opener, closer] s 0 d) :
    balancedFrom opener closer depth 0 n s =
      if d = opener then
        balancedFrom opener closer (depth + 1) 0 (n + d.length) (s.drop d.length)
      else
        match depth with
        | 0 => some (n + d.length)
        | depth + 1 => balancedFrom opener closer depth 0 (n + d.length) (s.drop d.length) := by
  have hd : longestAt s [opener, closer] = some d := longestAt_eq_some_iff.2 h
  cases s with
  | nil =>
    have := h.stands
    have := h.mem
    simp_all
  | cons c s =>
    rw [balancedFrom.eq_def]
    simp only [hd]
    -- the first character of a delimiter is passed at once, and only the others are skipped
    have hpos : ∀ t : Text, t ≠ [] → n + 1 + (t.length - 1) = n + t.length := by
      intro t ht
      have := List.length_pos_iff.2 ht
      omega
    have hdrop : ∀ t : Text, t ≠ [] → s.drop (t.length - 1) = (c :: s).drop t.length := by
      intro t ht
      obtain ⟨b, t, rfl⟩ := List.exists_cons_of_ne_nil ht
      simp
    by_cases hopen : d = opener
    · subst hopen
      simp only [if_true, balancedFrom_skip _ _ _ (d.length - 1), hpos d hopener, hdrop d hopener]
    · obtain rfl : d = closer := by simpa [hopen] using h.mem
      cases depth with
      | zero => simp [hopen]
      | succ depth =>
        simp only [hopen, if_false, balancedFrom_skip _ _ _ (d.length - 1), hpos d hcloser,
          hdrop d hcloser]

theorem balancedFrom_eq (opener closer : Text) (depth skip n : Nat) (s : Text) :
    balancedFrom opener closer depth skip n s =
      (balancedFrom opener closer depth skip 0 s).map (n + ·) := by
  induction s generalizing depth skip n with
  | nil => simp [balancedFrom]
  | cons c s ih =>
    -- both sides go on one character further, where the counts differ by `n` again
    have hnext : ∀ depth skip, balancedFrom opener closer depth skip (n + 1) s =
        (balancedFrom opener closer depth skip (0 + 1) s).map (n + ·) := by
      intro depth skip
      rw [ih depth skip (n + 1), ih depth skip (0 + 1), Option.map_map]
      simp [Function.comp_def, Nat.add_assoc]
    cases skip with
    | succ skip => simp only [balancedFrom, hnext]
    | zero =>
      simp only [balancedFrom.eq_def opener closer depth 0 _ (c :: s), hnext]
      split
      · rfl
      · split
        · rfl
        · split <;> simp

/-- Before the next delimiter is read nothing balances. -/
theorem Balances.exists_rest (hfree : ∀ j < k, FreeAt [opener, closer] s j)
    (hd : LongestAt [opener, closer] s k d) (h : Balances opener closer (depth + 1) s n) :
    ∃ found rest, n = k + d.length + rest ∧ Reads [opener, closer] (s.drop (k + d.length)) found rest ∧
      (d :: found).count closer = (d :: found).count opener + (depth + 1) := by
  rcases h with ⟨found, hreads, hcount⟩
  cases hreads with
  | nil => simp at hcount
  | cons hfree' hd' hrest =>
    obtain ⟨rfl, rfl⟩ := hd.first_unique hfree hd' hfree'
    exact ⟨_, _, rfl, hrest, hcount⟩

/-- Behind an opening delimiter there is one more to balance. -/
theorem balances_opener_iff (hne : opener ≠ closer) (hfree : ∀ j < k, FreeAt [opener, closer] s j)
    (hd : LongestAt [opener, closer] s k opener) :
    Balances opener closer (depth + 1) s n ↔
      ∃ rest, n = k + opener.length + rest ∧
        Balances opener closer (depth + 2) (s.drop (k + opener.length)) rest := by
  constructor
  · intro h
    obtain ⟨found, rest, rfl, hreads, hcount⟩ := h.exists_rest hfree hd
    refine ⟨rest, rfl, found, hreads, ?_⟩
    simp [hne] at hcount
    omega
  · rintro ⟨rest, rfl, found, hreads, hcount⟩
    refine ⟨opener :: found, .cons hfree hd hreads, ?_⟩
    simp [hne]
    omega

/-- Behind a closing delimiter there is one less to balance. -/
theorem balances_closer_iff (hne : opener ≠ closer) (hfree : ∀ j < k, FreeAt [opener, closer] s j)
    (hd : LongestAt [opener, closer] s k closer) :
    Balances opener closer (depth + 1) s n ↔
      ∃ rest, n = k + closer.length + rest ∧
        Balances opener closer depth (s.drop (k + closer.length)) rest := by
  constructor
  · intro h
    obtain ⟨found, rest, rfl, hreads, hcount⟩ := h.exists_rest hfree hd
    refine ⟨rest, rfl, found, hreads, ?_⟩
    simp [hne.symm] at hcount
    omega
  · rintro ⟨rest, rfl, found, hreads, hcount⟩
    refine ⟨closer :: found, .cons hfree hd hreads, ?_⟩
    simp [hne.symm]
    omega

/-- Either some delimiter is the next one or none stands anywhere. -/
theorem exists_longestAt_or_free (ds : List Text) (s : Text) :
    (∃ k d, (∀ j < k, FreeAt ds s j) ∧ LongestAt ds s k d) ∨ ∀ k, FreeAt ds s k := by
  cases h : nextDelimiter ds 0 s with
  | none => exact .inr fun k => longestAt_eq_none_iff.1 (nextDelimiter_eq_none h k)
  | some found =>
    obtain ⟨k, -, -, hd, hfree⟩ := nextDelimiter_eq_some h
    exact .inl ⟨k, found.2, fun j hj => longestAt_eq_none_iff.1 (hfree j hj),
      longestAt_eq_some_iff.1 hd⟩

/-- Counting finds the first place where the delimiters balance. -/
theorem isFirst_balancedFrom (hopener : opener ≠ []) (hcloser : closer ≠ [])
    (hne : opener ≠ closer) (depth : Nat) (s : Text) :
    IsFirst (Balances opener closer (depth + 1) s) (balancedFrom opener closer depth 0 0 s) := by
  induction hlen : s.length using Nat.strongRecOn generalizing depth s with
  | ind len ih =>
    subst hlen
    rcases exists_longestAt_or_free [opener, closer] s with ⟨k, d, hfree, hd⟩ | hfree
    · have hskip : LongestAt [opener, closer] (s.drop k) 0 d :=
        ⟨hd.mem, by simpa using hd.stands, by simpa using hd.longest⟩
      -- behind the delimiter the text is shorter
      have hshort : (s.drop (k + d.length)).length < s.length := by
        have hpos : 0 < d.length := by
          rcases List.mem_pair.1 hd.mem with rfl | rfl
          · exact List.length_pos_iff.2 hopener
          · exact List.length_pos_iff.2 hcloser
        have := hd.stands.length_le
        simp only [List.length_drop] at this ⊢
        omega
      rw [balancedFrom_free hfree, balancedFrom_delimiter hopener hcloser hskip, List.drop_drop,
        Nat.zero_add]
      by_cases hopen : d = opener
      · subst hopen
        rw [if_pos rfl, balancedFrom_eq]
        exact (ih _ hshort (depth + 1) _ rfl).add fun n => balances_opener_iff hne hfree hd
      · obtain rfl : d = closer := by simpa [hopen] using hd.mem
        rw [if_neg hopen]
        cases depth with
        | zero =>
          -- the delimiter that closes the comment is itself the end
          have hzero : IsFirst (Balances opener d 0 (s.drop (k + d.length))) (some 0) :=
            isFirst_zero ⟨[], .nil _, rfl⟩
          exact hzero.add fun n => balances_closer_iff hne hfree hd
        | succ depth =>
          simp only [balancedFrom_eq opener d depth 0 (k + d.length)]
          exact (ih _ hshort depth _ rfl).add fun n => balances_closer_iff hne hfree hd
    · -- no delimiter is left, so nothing is read and nothing is found
      have hnone : balancedFrom opener closer depth 0 0 s = none := by
        rw [balancedFrom_free (k := s.length) fun j _ => hfree j, List.drop_length]
        rfl
      rw [hnone]
      rintro n ⟨found, hreads, hcount⟩
      cases hreads with
      | nil => simp at hcount
      | cons _ hd _ => exact hd.not_freeAt (hfree _)

end Balancing

/-! ## Ends of comments -/

namespace CommentStyle

variable {style : CommentStyle} {start stop : Nat}

/-- The first of the blocks with this opening delimiter has this closing delimiter. -/
def Pairs (style : CommentStyle) (opener closer : Text) : Prop :=
  ∃ before after, style.blocks = before ++ { opening := opener, closing := closer } :: after ∧
    ∀ b ∈ before, b.opening ≠ opener

/-- Where a comment ends that starts with the delimiter `opener` at the position `start`. A delimiter
that opens a block never opens a line comment. -/
inductive EndsAt (style : CommentStyle) (s : Text) (start : Nat) (opener : Text) : Nat → Prop where
  | line {stop : Nat} (hmark : opener ∈ style.lines) (hblock : ∀ b ∈ style.blocks, b.opening ≠ opener)
      (hstop : IsLeast {j | start + opener.length ≤ j ∧ LineStopsAt s j} stop) :
      EndsAt style s start opener stop
  | first {closer : Text} {found : Nat} (hpair : style.Pairs opener closer)
      (hflat : style.nesting = .flat ∨ opener = closer)
      (hfound : IsLeast {j | start + opener.length ≤ j ∧ closer <+: s.drop j} found) :
      EndsAt style s start opener (found + closer.length)
  | balanced {closer : Text} {reach : Nat} (hpair : style.Pairs opener closer)
      (hnested : style.nesting = .nested) (hne : opener ≠ closer)
      (hreach : IsLeast {n | Balances opener closer 1 (s.drop (start + opener.length)) n} reach) :
      EndsAt style s start opener (start + opener.length + reach)

theorem closerOf?_eq_some_iff : style.closerOf? opener = some closer ↔ style.Pairs opener closer := by
  unfold closerOf? Pairs
  rw [Option.map_eq_some_iff]
  constructor
  · rintro ⟨b, hb, rfl⟩
    obtain ⟨hopening, before, after, hblocks, hbefore⟩ := List.find?_eq_some_iff_append.1 hb
    obtain rfl : b.opening = opener := by simpa using hopening
    exact ⟨before, after, hblocks, by simpa using hbefore⟩
  · rintro ⟨before, after, hblocks, hbefore⟩
    exact ⟨_, List.find?_eq_some_iff_append.2
      ⟨by simp, before, after, hblocks, by simpa using hbefore⟩, rfl⟩

theorem closerOf?_eq_none_iff :
    style.closerOf? opener = none ↔ ∀ b ∈ style.blocks, b.opening ≠ opener := by
  simp [closerOf?]

theorem mem_lines_of_closerOf? (hmem : opener ∈ style.openers) (h : style.closerOf? opener = none) :
    opener ∈ style.lines := by
  rcases List.mem_append.1 hmem with hblock | hline
  · obtain ⟨b, hb, rfl⟩ := List.mem_map.1 hblock
    exact absurd rfl (closerOf?_eq_none_iff.1 h b hb)
  · exact hline

theorem Pairs.closer_ne_nil (h : style.Pairs opener closer) : closer ≠ [] := by
  obtain ⟨before, after, hblocks, -⟩ := h
  have := style.blocks_full { opening := opener, closing := closer } (by simp [hblocks])
  intro hnil
  simp [Block.isBlank, hnil] at this

theorem Pairs.opener_ne_nil (h : style.Pairs opener closer) : opener ≠ [] := by
  obtain ⟨before, after, hblocks, -⟩ := h
  have := style.blocks_full { opening := opener, closing := closer } (by simp [hblocks])
  intro hnil
  simp [Block.isBlank, hnil] at this

theorem Pairs.unique {closer' : Text} (h : style.Pairs opener closer)
    (h' : style.Pairs opener closer') : closer = closer' := by
  rw [← closerOf?_eq_some_iff] at h h'
  exact Option.some.inj (h.symm.trans h')

theorem Pairs.not_forall_ne (h : style.Pairs opener closer) :
    ¬ ∀ b ∈ style.blocks, b.opening ≠ opener := by
  rw [← closerOf?_eq_none_iff, closerOf?_eq_some_iff.2 h]
  exact Option.some_ne_none _

/-! Each delimiter ends its comments by one rule only. -/

theorem endsAt_iff_of_line (hmark : opener ∈ style.lines)
    (hblock : ∀ b ∈ style.blocks, b.opening ≠ opener) :
    style.EndsAt s start opener stop ↔
      IsLeast {j | start + opener.length ≤ j ∧ LineStopsAt s j} stop := by
  refine ⟨fun h => ?_, .line hmark hblock⟩
  cases h with
  | line _ _ hstop => exact hstop
  | first hpair => exact absurd hblock hpair.not_forall_ne
  | balanced hpair => exact absurd hblock hpair.not_forall_ne

theorem endsAt_iff_of_first (hpair : style.Pairs opener closer)
    (hflat : style.nesting = .flat ∨ opener = closer) :
    style.EndsAt s start opener stop ↔
      ∃ found, stop = found + closer.length ∧
        IsLeast {j | start + opener.length ≤ j ∧ closer <+: s.drop j} found := by
  constructor
  · intro h
    cases h with
    | line _ hblock => exact absurd hblock hpair.not_forall_ne
    | first hpair' _ hfound =>
      obtain rfl := hpair.unique hpair'
      exact ⟨_, rfl, hfound⟩
    | balanced hpair' hnested hne =>
      obtain rfl := hpair.unique hpair'
      simp [hnested, hne] at hflat
  · rintro ⟨found, rfl, hfound⟩
    exact .first hpair hflat hfound

theorem endsAt_iff_of_balanced (hpair : style.Pairs opener closer)
    (hnested : style.nesting = .nested) (hne : opener ≠ closer) :
    style.EndsAt s start opener stop ↔
      ∃ reach, stop = start + opener.length + reach ∧
        IsLeast {n | Balances opener closer 1 (s.drop (start + opener.length)) n} reach := by
  constructor
  · intro h
    cases h with
    | line _ hblock => exact absurd hblock hpair.not_forall_ne
    | first hpair' hflat =>
      obtain rfl := hpair.unique hpair'
      simp [hnested, hne] at hflat
    | balanced hpair' _ _ hreach =>
      obtain rfl := hpair.unique hpair'
      exact ⟨_, rfl, hreach⟩
  · rintro ⟨reach, rfl, hreach⟩
    exact .balanced hpair hnested hne hreach

/-- The search for the end of a line finds where a line comment ends. -/
theorem isFirst_reach?_line (hmark : opener ∈ style.lines)
    (hblock : ∀ b ∈ style.blocks, b.opening ≠ opener) (hinside : start + opener.length ≤ s.length) :
    IsFirst (fun n => style.EndsAt s start opener (start + opener.length + n))
      (Ending.line.reach? (s.drop (start + opener.length))) := by
  have hstops : ∀ j, LineStopsAt s (start + opener.length + j) ↔
      LineStopsAt (s.drop (start + opener.length)) j := by
    intro j
    simp only [LineStopsAt, List.getElem?_drop, List.length_drop]
    rw [show start + opener.length + j = s.length ↔ j = s.length - (start + opener.length) by
      omega]
  refine (isFirst_findIdx _).isLeast fun n => ?_
  rw [endsAt_iff_of_line hmark hblock, isLeast_add_iff]
  simp only [hstops]

/-- The search for a closing delimiter finds where a comment without nesting ends. The comment reaches
past the delimiter that is found. -/
theorem isFirst_reach?_first (hpair : style.Pairs opener closer)
    (hflat : style.nesting = .flat ∨ opener = closer) :
    IsFirst (fun n => style.EndsAt s start opener (start + opener.length + n))
      ((Ending.first closer).reach? (s.drop (start + opener.length))) := by
  have hfound : IsFirst (IsLeast {j | closer <+: s.drop (start + opener.length + j)})
      (Text.offset? closer (s.drop (start + opener.length))) :=
    (Text.isFirst_offset? _ _).isLeast fun n => by simp only [List.drop_drop]
  have hreach := hfound.add (i := closer.length)
    (Q := fun n => style.EndsAt s start opener (start + opener.length + n)) fun n => ?_
  · simpa only [Ending.reach?, Nat.add_comm] using hreach
  · rw [endsAt_iff_of_first hpair hflat]
    constructor
    · rintro ⟨found, hstop, hleast⟩
      obtain ⟨j, rfl⟩ := Nat.exists_eq_add_of_le hleast.1.1
      exact ⟨j, by omega, isLeast_add_iff.1 hleast⟩
    · rintro ⟨j, rfl, hleast⟩
      exact ⟨start + opener.length + j, by omega, isLeast_add_iff.2 hleast⟩

/-- Counting finds where a comment with nesting ends. -/
theorem isFirst_reach?_balanced (hpair : style.Pairs opener closer)
    (hnested : style.nesting = .nested) (hne : opener ≠ closer) :
    IsFirst (fun n => style.EndsAt s start opener (start + opener.length + n))
      ((Ending.balanced opener closer).reach? (s.drop (start + opener.length))) := by
  refine (isFirst_balancedFrom hpair.opener_ne_nil hpair.closer_ne_nil hne 0 _).isLeast fun n => ?_
  rw [endsAt_iff_of_balanced hpair hnested hne]
  constructor
  · rintro ⟨reach, hstop, hleast⟩
    obtain rfl : n = reach := by omega
    exact hleast
  · exact fun hleast => ⟨n, rfl, hleast⟩

/-- The search for the end of a comment finds where it ends. -/
theorem isFirst_reach? (hmem : opener ∈ style.openers) (hstands : opener <+: s.drop start) :
    IsFirst (fun n => style.EndsAt s start opener (start + opener.length + n))
      ((style.endingOf opener).reach? (s.drop (start + opener.length))) := by
  unfold endingOf
  cases hcloser : style.closerOf? opener with
  | none =>
    -- a delimiter that stands there lies within the text
    have hinside : start + opener.length ≤ s.length := by
      have hpos := List.length_pos_iff.2 (ne_nil_of_mem_openers hmem)
      have := hstands.length_le
      rw [List.length_drop] at this
      omega
    exact isFirst_reach?_line (mem_lines_of_closerOf? hmem hcloser)
      (closerOf?_eq_none_iff.1 hcloser) hinside
  | some closer =>
    have hpair := closerOf?_eq_some_iff.1 hcloser
    dsimp only
    split
    · next hflat => exact isFirst_reach?_first hpair hflat
    · next hflat =>
      rw [not_or] at hflat
      have hnested : style.nesting = .nested := by
        cases h : style.nesting with
        | flat => exact absurd h hflat.1
        | nested => rfl
      exact isFirst_reach?_balanced hpair hnested hflat.2

/-- A comment ends behind its opening delimiter. -/
theorem EndsAt.exists_add (h : style.EndsAt s start opener stop) :
    ∃ n, stop = start + opener.length + n := by
  cases h with
  | line _ _ hstop => exact Nat.exists_eq_add_of_le hstop.1.1
  | first _ _ hfound =>
    obtain ⟨n, rfl⟩ := Nat.exists_eq_add_of_le hfound.1.1
    exact ⟨n + _, Nat.add_assoc _ _ _⟩
  | balanced => exact ⟨_, rfl⟩

/-- A comment ends at one position only. -/
theorem EndsAt.unique {stop' : Nat} (h : style.EndsAt s start opener stop)
    (h' : style.EndsAt s start opener stop') : stop = stop' := by
  cases h with
  | line hmark hblock hstop => exact hstop.unique ((endsAt_iff_of_line hmark hblock).1 h')
  | first hpair hflat hfound =>
    obtain ⟨found, rfl, hfound'⟩ := (endsAt_iff_of_first hpair hflat).1 h'
    rw [hfound.unique hfound']
  | balanced hpair hnested hne hreach =>
    obtain ⟨reach, rfl, hreach'⟩ := (endsAt_iff_of_balanced hpair hnested hne).1 h'
    rw [hreach.unique hreach']

/-- The search for the end finds how far a comment reaches. -/
theorem reach?_eq_some_iff (hmem : opener ∈ style.openers) (hstands : opener <+: s.drop start) :
    (style.endingOf opener).reach? (s.drop (start + opener.length)) = some n ↔
      style.EndsAt s start opener (start + opener.length + n) := by
  rw [(isFirst_reach? hmem hstands).eq_some_iff]
  refine ⟨fun h => h.1, fun h => ⟨h, fun j hj => ?_⟩⟩
  -- a comment ends at one position only, so this is the least one
  have := h.unique hj
  omega

/-- The search for the end fails for comments that never end. -/
theorem reach?_eq_none_iff (hmem : opener ∈ style.openers) (hstands : opener <+: s.drop start) :
    (style.endingOf opener).reach? (s.drop (start + opener.length)) = none ↔
      ∀ stop, ¬ style.EndsAt s start opener stop := by
  rw [(isFirst_reach? hmem hstands).eq_none_iff]
  refine ⟨fun h stop hstop => ?_, fun h n => h _⟩
  obtain ⟨n, rfl⟩ := hstop.exists_add
  exact h n hstop

end CommentStyle

end KeptRegions
