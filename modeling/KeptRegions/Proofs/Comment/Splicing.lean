import KeptRegions.Proofs.Comment.Cutting

namespace KeptRegions

/-!
# Splicing texts

If all opening delimiters have one length, and closing delimiters as well where comments nest, then
whether a token is cut off does not depend on more of the text behind it than one delimiter
(`Cuts.congr`). So tokens in front of a comment are cut off in front of any other comment that
starts with the same delimiter (`CutsAll.congr`).
-/

variable {s u v opener closer part : Text}

theorem take_append_congr {w : Text} {n : Nat} (h : u.take n = v.take n) :
    (w ++ u).take n = (w ++ v).take n := by
  rw [List.take_append, List.take_append]
  congr 1
  have := congrArg (List.take (n - w.length)) h
  simpa [List.take_take] using this

/-! ## Ends of comments -/

/-- What follows an occurrence has no part in it being the first one. -/
theorem Text.offsetFrom_append {i j : Nat} {u v : Text} (h : offsetFrom part i (s ++ u) = some j)
    (hj : j + part.length ≤ i + s.length) : offsetFrom part i (s ++ v) = some j := by
  induction s generalizing i with
  | nil =>
    have hlow := (offsetFrom_bounds h).1
    have hpart : part = [] := by
      rw [← List.length_eq_zero_iff]
      simp only [List.length_nil] at hj
      omega
    subst hpart
    unfold offsetFrom at h ⊢
    simpa using h
  | cons c s ih =>
    have hlow := (offsetFrom_bounds h).1
    have hlen : part.length ≤ (c :: s).length := by omega
    have hcongr : part.isPrefixOf (c :: (s ++ u)) = part.isPrefixOf (c :: (s ++ v)) :=
      isPrefixOf_congr hlen (by simp)
    rw [List.cons_append] at h ⊢
    unfold offsetFrom at h ⊢
    rw [← hcongr]
    split at h
    · rename_i hpre
      rw [if_pos hpre]
      exact h
    · -- the occurrence is further on
      rename_i hpre
      rw [if_neg hpre]
      simp only [List.length_cons] at hj
      exact ih h (by omega)

/-- What follows the balancing delimiter has no part in it being the balancing one. -/
theorem balancedFrom_append {depth skip n : Nat} (hpos : 0 < closer.length)
    (hlen : opener.length = closer.length)
    (h : balancedFrom opener closer depth skip n (s ++ u) = some (n + s.length)) :
    balancedFrom opener closer depth skip n (s ++ v) = some (n + s.length) := by
  induction s generalizing depth skip n with
  | nil =>
    have := (balancedFrom_bounds h).1
    simp only [List.length_nil] at this
    omega
  | cons c s ih =>
    have hshift : n + (c :: s).length = n + 1 + s.length := by
      simp only [List.length_cons]
      omega
    have hbound := (balancedFrom_bounds h).1
    rw [hshift] at h ⊢
    rw [List.cons_append] at h ⊢
    cases skip with
    | succ skip =>
      simp only [balancedFrom] at h ⊢
      exact ih h
    | zero =>
      -- the delimiters reach no further than the rest of the comment
      have hlongest : longestAt (c :: (s ++ u)) [opener, closer] =
          longestAt (c :: (s ++ v)) [opener, closer] := by
        refine longestAt_congr (n := (c :: s).length) ?_ (by simp)
        intro d hd
        simp only [List.mem_cons, List.not_mem_nil, or_false] at hd
        rcases hd with rfl | rfl <;> omega
      simp only [balancedFrom] at h ⊢
      rw [← hlongest]
      cases hat : longestAt (c :: (s ++ u)) [opener, closer] with
      | none =>
        rw [hat] at h
        exact ih h
      | some d =>
        rw [hat] at h
        by_cases heq : d = opener
        · -- one comment more is open
          simp only [heq, if_true] at h ⊢
          exact ih h
        · -- one comment less is open, and behind the outermost one the search is over
          simp only [heq, if_false] at h ⊢
          cases depth with
          | zero => exact h
          | succ depth => exact ih h

/-- A comment that does not end with its line ends where it does whatever follows, and one that does
ends there if a line end follows, or nothing. -/
theorem reach?_append {ending : CommentStyle.Ending}
    (hending : ∀ opener closer, ending = .balanced opener closer →
      0 < closer.length ∧ opener.length = closer.length)
    (hline : ending = .line → v.findIdx isLineEnd = 0)
    (h : ending.reach? (s ++ u) = some s.length) : ending.reach? (s ++ v) = some s.length := by
  cases ending with
  | line =>
    simp only [CommentStyle.Ending.reach?, Option.some.injEq, List.findIdx_append] at h ⊢
    split at h
    · -- no line end is inside of the comment
      rename_i hlt
      omega
    · rename_i hnone
      rw [if_neg hnone, hline rfl, Nat.zero_add]
  | first closer =>
    rcases Option.map_eq_some_iff.1 h with ⟨j, hj, hlen⟩
    have := Text.offsetFrom_append (v := v) hj (by omega)
    simp only [CommentStyle.Ending.reach?, Text.offset?, this, Option.map_some, hlen]
  | balanced opener closer =>
    rcases hending opener closer rfl with ⟨hpos, hlen⟩
    rw [← Nat.zero_add s.length] at h ⊢
    exact balancedFrom_append hpos hlen h

/-- A line comment ends in front of a line end, or at the end of the text. -/
theorem findIdx_eq_zero_of_reach? (h : CommentStyle.Ending.line.reach? (s ++ u) = some s.length) :
    u.findIdx isLineEnd = 0 := by
  simp only [CommentStyle.Ending.reach?, Option.some.injEq, List.findIdx_append] at h
  split at h
  · omega
  · omega

theorem findIdx_eq_zero_congr {n : Nat} (hn : 0 < n) (huv : u.take n = v.take n)
    (h : u.findIdx isLineEnd = 0) : v.findIdx isLineEnd = 0 := by
  rcases Nat.exists_eq_add_one_of_ne_zero (Nat.pos_iff_ne_zero.1 hn) with ⟨n, rfl⟩
  cases v with
  | nil => rfl
  | cons d v =>
    cases u with
    | nil => simp at huv
    | cons c u =>
      rcases List.cons.inj (by simpa using huv) with ⟨rfl, -⟩
      rw [List.findIdx_cons] at h ⊢
      cases hc : isLineEnd c with
      | true => rfl
      | false => simp [hc] at h

namespace CommentStyle

/-- All opening delimiters have the length `width`, and if comments nest, each closing delimiter is
as long as its opening one. -/
structure Uniform (style : CommentStyle) (width : Nat) : Prop where
  length_opener : ∀ d ∈ style.openers, d.length = width
  length_closing : style.nesting = .nested →
    ∀ b ∈ style.blocks, b.closing.length = b.opening.length

/-- The delimiter that a comment starts with. -/
def openerOf? (style : CommentStyle) (comment : Text) : Option Text :=
  longestAt comment style.openers

variable {style : CommentStyle} {width : Nat}

theorem Uniform.width_pos (h : style.Uniform width) : 0 < width := by
  have hopener : ∃ d, d ∈ style.openers := by
    rcases style.delimited with hblocks | hlines
    · rcases List.exists_mem_of_ne_nil _ hblocks with ⟨b, hb⟩
      exact ⟨b.opening, List.mem_append_left _ (List.mem_map.2 ⟨b, hb, rfl⟩)⟩
    · rcases List.exists_mem_of_ne_nil _ hlines with ⟨d, hd⟩
      exact ⟨d, List.mem_append_right _ hd⟩
  rcases hopener with ⟨d, hd⟩
  rw [← h.length_opener d hd]
  exact List.length_pos_iff.2 (ne_nil_of_mem_openers hd)

/-- A comment that nests has a closing delimiter as long as its opening one. -/
theorem Uniform.length_balanced (h : style.Uniform width) {d : Text}
    (hending : style.endingOf d = .balanced opener closer) :
    0 < closer.length ∧ opener.length = closer.length := by
  unfold endingOf at hending
  split at hending
  · cases hending
  · rename_i found hclose
    split at hending
    · cases hending
    · rename_i hnested
      cases hending
      rcases Option.map_eq_some_iff.1 hclose with ⟨b, hfind, rfl⟩
      have hmem := List.mem_of_find?_eq_some hfind
      have hopening : b.opening = opener := by simpa using List.find?_some hfind
      have hnesting : style.nesting = .nested := by
        cases hn : style.nesting with
        | flat => exact absurd (.inl hn) hnested
        | nested => rfl
      have hlen := h.length_closing hnesting b hmem
      have hpos := List.length_pos_iff.2
        (ne_nil_of_mem_openers (List.mem_append_left _ (List.mem_map.2 ⟨b, hmem, rfl⟩)))
      rw [← hopening, hlen]
      exact ⟨hpos, rfl⟩

/-! ## Tokens in front of other texts -/

/-- A run of code is cut off in front of any text with the same beginning. -/
theorem CutsCode.congr (h : style.Uniform width) {code : Text} (huv : u.take width = v.take width)
    (hcode : style.CutsCode code u) : style.CutsCode code v := by
  have hlen : ∀ d ∈ style.openers, d.length ≤ width := by
    intro d hd
    exact Nat.le_of_eq (h.length_opener d hd)
  rcases hcode with ⟨hne, hinside, hafter⟩
  refine ⟨hne, ?_, ?_⟩
  · -- a delimiter that starts in the code would end within `width` characters behind it
    intro i hi
    rw [← hinside i hi, List.drop_append_of_le_length (Nat.le_of_lt hi),
      List.drop_append_of_le_length (Nat.le_of_lt hi)]
    exact longestAt_congr hlen (take_append_congr huv.symm)
  · rw [longestAt_congr hlen huv.symm]
    refine hafter.imp_left fun hu => ?_
    subst hu
    have hwidth := h.width_pos
    cases v with
    | nil => rfl
    | cons c v =>
      rcases Nat.exists_eq_add_one_of_ne_zero (Nat.pos_iff_ne_zero.1 hwidth) with ⟨n, rfl⟩
      simp at huv

/-- In a uniform style a comment shows its delimiter. -/
theorem CutsComment.exists_opener (h : style.Uniform width) {comment : Text}
    (hcomment : style.CutsComment comment u) :
    ∃ d inner, comment = d ++ inner ∧ d ∈ style.openers ∧ style.openerOf? comment = some d ∧
      (style.endingOf d).reach? (inner ++ u) = some inner.length := by
  rcases hcomment with ⟨d, inner, rfl, hlongest, hreach⟩
  have hmem := (mem_of_longestAt hlongest).1
  exact ⟨d, inner, rfl, hmem,
    longestAt_eq_of_prefix h.length_opener hmem (List.prefix_append _ _), hreach⟩

/-- A line comment is followed by a line end, or by nothing. -/
theorem CutsComment.findIdx_eq_zero (h : style.Uniform width) {comment d : Text}
    (hcomment : style.CutsComment comment u) (hd : style.openerOf? comment = some d)
    (hline : style.endingOf d = .line) : u.findIdx isLineEnd = 0 := by
  rcases hcomment.exists_opener h with ⟨e, inner, -, -, he, hreach⟩
  obtain rfl : e = d := by simpa [hd] using he.symm
  rw [hline] at hreach
  exact findIdx_eq_zero_of_reach? hreach

/-- A comment that is cut off somewhere is cut off in front of `v` as well, if it is a block comment
or a line end follows, or nothing. -/
theorem CutsComment.of_line (h : style.Uniform width) {comment : Text}
    (hcomment : style.CutsComment comment u)
    (hline : ∀ d, style.openerOf? comment = some d → style.endingOf d = .line →
      v.findIdx isLineEnd = 0) : style.CutsComment comment v := by
  rcases hcomment.exists_opener h with ⟨d, inner, rfl, hmem, hopener, hreach⟩
  refine ⟨d, inner, rfl, ?_, ?_⟩
  · rw [List.append_assoc]
    exact longestAt_eq_of_prefix h.length_opener hmem (List.prefix_append _ _)
  · exact reach?_append (fun _ _ hb => h.length_balanced hb) (hline d hopener) hreach

/-- A comment is cut off in front of a text if another comment with the same delimiter is cut off in
front of a text with the same beginning. -/
theorem CutsComment.of_other (h : style.Uniform width) {comment other w : Text}
    (hcomment : style.CutsComment comment w) (hother : style.CutsComment other u)
    (hsame : style.openerOf? comment = style.openerOf? other)
    (huv : u.take width = v.take width) : style.CutsComment comment v :=
  hcomment.of_line h fun _ hd hline =>
    findIdx_eq_zero_congr h.width_pos huv (hother.findIdx_eq_zero h (hsame ▸ hd) hline)

/-- Comments with the same delimiter have the same beginning. -/
theorem CutsComment.take_eq (h : style.Uniform width) {comment other x y : Text}
    (hcomment : style.CutsComment comment u) (hother : style.CutsComment other v)
    (hsame : style.openerOf? comment = style.openerOf? other) :
    (comment ++ x).take width = (other ++ y).take width := by
  rcases hcomment.exists_opener h with ⟨d, inner, rfl, hmem, hd, -⟩
  rcases hother.exists_opener h with ⟨e, inner', rfl, -, he, -⟩
  obtain rfl : d = e := by simpa [hd, he] using hsame
  have hlen := h.length_opener d hmem
  rw [List.append_assoc, List.append_assoc, List.take_left' hlen, List.take_left' hlen]

/-- Whether a token is cut off is seen from the beginning of what follows. -/
theorem Cuts.congr (h : style.Uniform width) {l : Lexeme} (huv : u.take width = v.take width)
    (hl : style.Cuts l u) : style.Cuts l v := by
  unfold Cuts at hl ⊢
  split <;> rename_i hkind <;> simp only [hkind] at hl
  · exact hl.congr h huv
  · exact hl.of_other h hl rfl huv

/-- Whether tokens are cut off is seen from the beginning of what follows. -/
theorem CutsAll.congr (h : style.Uniform width) {ls : List Lexeme}
    (huv : u.take width = v.take width) (hls : style.CutsAll ls u) : style.CutsAll ls v := by
  induction ls with
  | nil => trivial
  | cons l ls ih => exact ⟨hls.1.congr h (take_append_congr huv), ih hls.2⟩

end CommentStyle

end KeptRegions
