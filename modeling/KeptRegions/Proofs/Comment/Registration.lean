import KeptRegions.Proofs.Comment.Cutting
import KeptRegions.Proofs.Comment.Ending

namespace KeptRegions

/-!
# The order of delimiters

A comment style lists its delimiters in the order in which they were registered, perhaps several times.
Only two things of these lists count: which delimiters open a comment, and which closing delimiter a
block opener has, namely the one registered first. Styles that agree in them, and in how comments nest,
cut every text into the same tokens and stop at the same open comment (`scan_eq_of_sameDelimiters`).
-/

variable {s d : Text} {ds es : List Text}

/-! ## Delimiters as a set -/

theorem LongestAt.congr_mem {i : Nat} (hmem : ∀ d, d ∈ ds ↔ d ∈ es) (h : LongestAt ds s i d) :
    LongestAt es s i d :=
  ⟨(hmem d).1 h.mem, h.stands, fun e he => h.longest e ((hmem e).2 he)⟩

/-- Of the delimiters that a text starts with there is one longest, in whatever order they are given. -/
theorem longestAt_congr_mem (hmem : ∀ d, d ∈ ds ↔ d ∈ es) : longestAt s ds = longestAt s es := by
  have hiff : ∀ {cs : List Text} {d : Text}, longestAt s cs = some d ↔ LongestAt cs s 0 d :=
    longestAt_eq_some_iff (i := 0)
  refine Option.ext fun d => ?_
  rw [hiff, hiff]
  exact ⟨.congr_mem hmem, .congr_mem fun e => (hmem e).symm⟩

theorem nextDelimiter_congr_mem (hmem : ∀ d, d ∈ ds ↔ d ∈ es) (i : Nat) :
    nextDelimiter ds i s = nextDelimiter es i s := by
  induction s generalizing i with
  | nil => rw [nextDelimiter.eq_def, nextDelimiter.eq_def, longestAt_congr_mem hmem]
  | cons c s ih =>
    rw [nextDelimiter.eq_def, nextDelimiter.eq_def, longestAt_congr_mem hmem]
    simp only [ih]

namespace CommentStyle

/-- The two styles open comments with the same delimiters, pair each block opener with the same closing
delimiter, and nest comments alike. -/
structure SameDelimiters (style style' : CommentStyle) : Prop where
  nesting : style.nesting = style'.nesting
  openers : ∀ d, d ∈ style.openers ↔ d ∈ style'.openers
  pairs : ∀ opener closer, style.Pairs opener closer ↔ style'.Pairs opener closer

variable {style style' : CommentStyle}

namespace SameDelimiters

theorem closerOf?_eq (h : style.SameDelimiters style') (opener : Text) :
    style.closerOf? opener = style'.closerOf? opener := by
  refine Option.ext fun closer => ?_
  rw [closerOf?_eq_some_iff, closerOf?_eq_some_iff]
  exact h.pairs opener closer

/-- Whether a delimiter opens a block or a line, and how that ends, is the same for both. -/
theorem endingOf_eq (h : style.SameDelimiters style') (opener : Text) :
    style.endingOf opener = style'.endingOf opener := by
  rw [endingOf, endingOf, h.closerOf?_eq, h.nesting]

theorem nextDelimiter_eq (h : style.SameDelimiters style') (i : Nat) (s : Text) :
    nextDelimiter style.openers i s = nextDelimiter style'.openers i s :=
  nextDelimiter_congr_mem h.openers i

/-- From each position on, both find the same comment next, and behind it they go on alike. -/
theorem scanFrom_eq (h : style.SameDelimiters style') (start : Nat) (s : Text) :
    style.scanFrom start s = style'.scanFrom start s := by
  fun_induction scanFrom style start s with
  | case1 start s hnext =>
    rw [h.nextDelimiter_eq] at hnext
    rw [scanFrom_of_none start fun j _ => nextDelimiter_eq_none hnext j]
  | case2 start s n opener hnext ending code after hreach =>
    -- a comment that never ends
    rw [h.nextDelimiter_eq] at hnext
    simp only [ending, after] at hreach
    simp only [scanFrom_of_next start hnext, ← h.endingOf_eq, hreach]
    rfl
  | case3 start s n opener hnext ending code after reach hreach comment rest ih =>
    rw [h.nextDelimiter_eq] at hnext
    simp only [ending, after] at hreach ih
    simp only [scanFrom_of_next start hnext, ← h.endingOf_eq, hreach, ← ih]
    rfl

end SameDelimiters

/-- A delimiter that opens no comment has no closing one. -/
theorem closerOf?_of_not_mem {opener : Text} (h : opener ∉ style.openers) :
    style.closerOf? opener = none :=
  closerOf?_eq_none_iff.2 fun b hb hopening =>
    h (List.mem_append_left _ (List.mem_map.2 ⟨b, hb, hopening⟩))

/-- Only the delimiters in the lists have to be compared. -/
theorem sameDelimiters_iff :
    style.SameDelimiters style' ↔
      style.nesting = style'.nesting ∧ style.openers ⊆ style'.openers ∧
        style'.openers ⊆ style.openers ∧
        ∀ d ∈ style.openers, style.closerOf? d = style'.closerOf? d := by
  constructor
  · intro h
    exact ⟨h.nesting, fun d => (h.openers d).1, fun d => (h.openers d).2,
      fun d _ => h.closerOf?_eq d⟩
  · rintro ⟨hnesting, hsub, hsub', hclosers⟩
    refine ⟨hnesting, fun d => ⟨@hsub d, @hsub' d⟩, fun opener closer => ?_⟩
    rw [← closerOf?_eq_some_iff, ← closerOf?_eq_some_iff]
    by_cases hmem : opener ∈ style.openers
    · rw [hclosers opener hmem]
    · rw [closerOf?_of_not_mem hmem, closerOf?_of_not_mem (mt (@hsub' opener) hmem)]

instance : Decidable (style.SameDelimiters style') :=
  -- decided by going through the list, never through all texts
  let (ds : List Text) (p : Text → Prop) [DecidablePred p] : Decidable (∀ d ∈ ds, p d) :=
    List.decidableBAll p ds
  decidable_of_iff _ sameDelimiters_iff.symm

/-- Styles with the same delimiters cut every text into the same tokens, and where one of them stops at
a comment that never ends, the other stops at it too. -/
theorem scan_eq_of_sameDelimiters (h : style.SameDelimiters style') (s : Text) :
    style.scan s = style'.scan s :=
  h.scanFrom_eq 0 s

/-- The lists differ in their order, some delimiters are given twice, one of them with another closing
delimiter, and some line marks open a block in truth. The text has a comment in a comment, a longer
delimiter in place of a shorter one, and ends in an open comment. -/
theorem scan_eq_of_delimiters_rearranged :
    let style : CommentStyle :=
      { blocks := [⟨"/*".toList, "*/".toList⟩, ⟨"(*".toList, "*)".toList⟩, ⟨"/*".toList, ['!']⟩]
        lines := ["/".toList, "--".toList, "(*".toList], nesting := .nested
        delimited := by decide, blocks_full := by decide, lines_full := by decide }
    let style' : CommentStyle :=
      { blocks := [⟨"(*".toList, "*)".toList⟩, ⟨"/*".toList, "*/".toList⟩, ⟨"(*".toList, ['c']⟩]
        lines := ["--".toList, "/*".toList, "/".toList, "--".toList], nesting := .nested
        delimited := by decide, blocks_full := by decide, lines_full := by decide }
    let s := "/*!/*c*/*/(*c*)/b--\r--c\n(*/*".toList
    let found : Scan :=
      { tokens :=
          [{ kind := .comment, start := 0, text := "/*!/*c*/*/".toList },
            { kind := .comment, start := 10, text := "(*c*)".toList },
            { kind := .comment, start := 15, text := "/b--".toList },
            { kind := .code, start := 19, text := ['\r'] },
            { kind := .comment, start := 20, text := "--c".toList },
            { kind := .code, start := 23, text := ['\n'] }]
        unclosed := some { opener := "(*".toList, nested := true, start := 24 } }
    style.SameDelimiters style' ∧ style.scan s = found ∧ style'.scan s = found := by
  intro style style' s found
  have hsame : style.SameDelimiters style' := by decide
  have hscan : style.scan s = found := by decide +kernel
  exact ⟨hsame, hscan, scan_eq_of_sameDelimiters hsame s ▸ hscan⟩

end CommentStyle

end KeptRegions
