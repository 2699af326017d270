import KeptRegions.Proofs.Comment.Tokenization

namespace KeptRegions

/-!
# Flat and nested comments

With the same delimiters, both policies of nesting cut a text into the same tokens as long as no block
comment is opened again before it is closed. What counts is where the closing delimiter is found first:
an opening one in front of that place is read as a comment within the comment, and so is a longer one
at the place itself (`scan_nested_iff`).
-/

variable {s opener closer : Text} {ds found : List Text} {i j k n : Nat}

/-! ## Counting up to the first closing delimiter -/

/-- Every closing delimiter that is read takes up its own part of the text, and none begins before the
first place where one stands. -/
theorem Reads.le_of_mem (h : Reads ds s found n) (hfirst : ∀ j < k, ¬ closer <+: s.drop j)
    (hmem : closer ∈ found) : k + found.count closer * closer.length ≤ n := by
  induction h generalizing k with
  | nil => cases hmem
  | @cons s d found i n _ hd hrest ih =>
    -- behind the delimiter that is read first, closing ones begin no earlier
    have hbehind : ∀ j < k - (i + d.length), ¬ closer <+: (s.drop (i + d.length)).drop j := by
      intro j hj
      rw [List.drop_drop]
      exact hfirst _ (by omega)
    by_cases hdc : d = closer
    · subst hdc
      have hi : k ≤ i := Nat.le_of_not_lt fun hlt => hfirst i hlt hd.stands
      have hothers : found.count d * d.length ≤ n := by
        by_cases hfound : d ∈ found
        · have := ih (k := 0) (by simp) hfound
          omega
        · simp [List.count_eq_zero_of_not_mem hfound]
      rw [List.count_cons_self, Nat.succ_mul]
      omega
    · have hfound : closer ∈ found := by
        rcases List.mem_cons.1 hmem with rfl | hfound
        · exact absurd rfl hdc
        · exact hfound
      have := ih hbehind hfound
      rw [List.count_cons_of_ne hdc]
      omega

/-- Whether an opening delimiter is read before the closing one that stands first, at the position
`k`: in front of it, or at the same place if it is longer. -/
def OpensBefore (opener closer s : Text) (k : Nat) : Prop :=
  ∃ j, opener <+: s.drop j ∧ (j < k ∨ j = k ∧ closer.length < opener.length)

/-- Counting ends with the first closing delimiter exactly if no opening one is read before it. -/
theorem isLeast_balances_iff (hne : opener ≠ closer) (hcloser : closer ≠ [])
    (hk : IsLeast {j | closer <+: s.drop j} k) :
    IsLeast {n | Balances opener closer 1 s n} (k + closer.length) ↔
      ¬ OpensBefore opener closer s k := by
  have hfirst : ∀ j < k, ¬ closer <+: s.drop j := fun j hj h => Nat.not_le_of_lt hj (hk.2 h)
  constructor
  · rintro ⟨⟨found, hreads, hcount⟩, -⟩ ⟨j, hj, hbefore⟩
    -- the delimiter that is read first is an opening one, so there are two closing ones to come
    have hopens : opener ∈ found := by
      generalize k + closer.length = stop at hreads
      cases hreads with
      | nil => simp at hcount
      | @cons _ d found i n hfree hd _ =>
        rcases List.mem_pair.1 hd.mem with rfl | rfl
        · exact List.mem_cons_self
        · have hi : k ≤ i := Nat.le_of_not_lt fun hlt => hfirst i hlt hd.stands
          have hji : ¬ j < i := fun hlt => hfree j hlt opener (by simp) hj
          rcases hbefore with hlt | ⟨rfl, hlonger⟩
          · omega
          · obtain rfl : j = i := by omega
            have := hd.longest opener (by simp) hj
            omega
    have hopener : 0 < found.count opener := List.count_pos_iff.2 hopens
    have hclosers : 2 ≤ found.count closer := by omega
    have hspan := hreads.le_of_mem hfirst (List.count_pos_iff.1 (by omega))
    have hpos := List.length_pos_iff.2 hcloser
    have := Nat.mul_le_mul_right closer.length hclosers
    omega
  · intro hbefore
    have hfree : ∀ j < k, FreeAt [opener, closer] s j := by
      intro j hj d hd hstands
      rcases List.mem_pair.1 hd with rfl | rfl
      · exact hbefore ⟨j, hstands, .inl hj⟩
      · exact hfirst j hj hstands
    have hlongest : LongestAt [opener, closer] s k closer := by
      refine ⟨by simp, hk.1, fun e he hstands => ?_⟩
      rcases List.mem_pair.1 he with rfl | rfl
      · exact Nat.le_of_not_lt fun hlt => hbefore ⟨k, hstands, .inr ⟨rfl, hlt⟩⟩
      · exact Nat.le_refl _
    refine ⟨(balances_closer_iff hne hfree hlongest).2 ⟨0, rfl, [], .nil _, rfl⟩, fun n hn => ?_⟩
    obtain ⟨rest, rfl, -⟩ := (balances_closer_iff hne hfree hlongest).1 hn
    exact Nat.le_add_right _ _

namespace CommentStyle

variable {style : CommentStyle} {start stop : Nat} {tokens : List Token} {t : Token}

/-- The same delimiters with a given policy of nesting. -/
def withNesting (style : CommentStyle) (nesting : Nesting) : CommentStyle :=
  { style with nesting }

/-- Whether the block comment at `start` with these delimiters, up to `stop` if comments are flat, is
opened again before it is closed. -/
def Reopens (opener closer s : Text) (start stop : Nat) : Prop :=
  ∃ j, start + opener.length ≤ j ∧ opener <+: s.drop j ∧
    (j + closer.length < stop ∨ j + closer.length = stop ∧ closer.length < opener.length)

/-- A flat block comment is also a nested one exactly if it is not opened again. -/
theorem endsAt_nested_of_pair (hpair : style.Pairs opener closer) (hne : opener ≠ closer)
    (hends : (style.withNesting .flat).EndsAt s start opener stop) :
    (style.withNesting .nested).EndsAt s start opener stop ↔
      ¬ Reopens opener closer s start stop := by
  have hflat : (style.withNesting .flat).Pairs opener closer := hpair
  have hnested : (style.withNesting .nested).Pairs opener closer := hpair
  obtain ⟨found, rfl, hfound⟩ := (endsAt_iff_of_first hflat (.inl rfl)).1 hends
  obtain ⟨k, rfl⟩ := Nat.exists_eq_add_of_le hfound.1.1
  -- positions from here on are counted from the end of the opening delimiter
  have hk : IsLeast {j | closer <+: (s.drop (start + opener.length)).drop j} k := by
    simpa only [List.drop_drop] using isLeast_add_iff.1 hfound
  have hreopens : Reopens opener closer s start (start + opener.length + k + closer.length) ↔
      OpensBefore opener closer (s.drop (start + opener.length)) k := by
    simp only [Reopens, OpensBefore, List.drop_drop]
    constructor
    · rintro ⟨j, hle, hstands, hbefore⟩
      obtain ⟨j, rfl⟩ := Nat.exists_eq_add_of_le hle
      exact ⟨j, hstands, by omega⟩
    · rintro ⟨j, hstands, hbefore⟩
      exact ⟨start + opener.length + j, Nat.le_add_right _ _, hstands, by omega⟩
  rw [hreopens, ← isLeast_balances_iff hne hpair.closer_ne_nil hk,
    endsAt_iff_of_balanced hnested rfl hne]
  constructor
  · rintro ⟨reach, hreach, hleast⟩
    obtain rfl : reach = k + closer.length := by omega
    exact hleast
  · exact fun hleast => ⟨_, Nat.add_assoc _ _ _, hleast⟩

/-- Line comments, and comments whose two delimiters are equal, end alike under both policies. -/
theorem endsAt_nested_iff (hends : (style.withNesting .flat).EndsAt s start opener stop) :
    (style.withNesting .nested).EndsAt s start opener stop ↔
      ∀ closer, style.Pairs opener closer → opener ≠ closer →
        ¬ Reopens opener closer s start stop := by
  refine ⟨fun h closer hpair hne => (endsAt_nested_of_pair hpair hne hends).1 h, fun h => ?_⟩
  cases id hends with
  | line hmark hblock hstop => exact .line hmark hblock hstop
  | @first closer _ hpair _ hfound =>
    by_cases hne : opener = closer
    · exact .first hpair (.inr hne) hfound
    · exact (endsAt_nested_of_pair hpair hne hends).2 (h closer hpair hne)
  | balanced _ hnested => cases hnested

/-! ## Tokens -/

/-- The token is no block comment that is opened again. -/
def OpensOnce (style : CommentStyle) (s : Text) (t : Token) : Prop :=
  t.kind = .comment → ∀ opener closer, LongestAt style.openers s t.start opener →
    style.Pairs opener closer → opener ≠ closer → ¬ Reopens opener closer s t.start t.stop

/-- A token among flat comments is one among nested comments exactly if it is no block comment that is
opened again. -/
theorem isToken_nested_iff (h : (style.withNesting .flat).IsToken s t) :
    (style.withNesting .nested).IsToken s t ↔ style.OpensOnce s t := by
  constructor
  · intro hnested hkind opener closer hopener hpair hne
    obtain ⟨opener', hopener', hflat⟩ := h.comment hkind
    obtain ⟨opener'', hopener'', hends⟩ := hnested.comment hkind
    obtain rfl := hopener.unique hopener'
    obtain rfl := hopener.unique hopener''
    exact (endsAt_nested_iff hflat).1 hends closer hpair hne
  · intro honce
    refine ⟨h.nonempty, h.stands, h.code, fun hkind => ?_⟩
    obtain ⟨opener, hopener, hflat⟩ := h.comment hkind
    exact ⟨opener, hopener,
      (endsAt_nested_iff hflat).2 fun closer => honce hkind opener closer hopener⟩

/-- Scanning comes to the end of a text with the tokens that cover it. -/
theorem scan_eq_iff_tokenizes :
    style.scan s = { tokens, unclosed := none } ↔ style.Tokenizes s tokens 0 s.length := by
  refine ⟨fun h => ?_, fun h => scan_of_tokenizes h (List.drop_length ..)⟩
  obtain ⟨k, hle, htokens, hstop⟩ := scan_eq_iff_stopsAt.1 h
  obtain rfl : k = s.length := Nat.le_antisymm hle (List.drop_eq_nil_iff.1 hstop)
  exact htokens

/-- A text whose comments are all closed as flat ones has the same tokens with nested ones exactly if
none of its block comments is opened again. -/
theorem scan_nested_iff (hflat : (style.withNesting .flat).scan s = { tokens, unclosed := none }) :
    (style.withNesting .nested).scan s = { tokens, unclosed := none } ↔
      ∀ t ∈ tokens, style.OpensOnce s t := by
  have htokens := scan_eq_iff_tokenizes.1 hflat
  rw [scan_eq_iff_tokenizes]
  constructor
  · exact fun hnested t ht => (isToken_nested_iff (htokens.isToken t ht)).1 (hnested.isToken t ht)
  · exact fun honce => ⟨htokens.contiguous,
      fun t ht => (isToken_nested_iff (htokens.isToken t ht)).2 (honce t ht), htokens.apart⟩

/-- If the opening delimiter of no flat block comment stands anywhere behind itself up to where the
closing delimiter begins, then nested comments are the same. -/
theorem scan_nested_of_flat
    (hflat : (style.withNesting .flat).scan s = { tokens, unclosed := none })
    (hfree : ∀ t ∈ tokens, t.kind = .comment → ∀ opener closer,
      LongestAt style.openers s t.start opener → style.Pairs opener closer → opener ≠ closer →
        ∀ j, t.start + opener.length ≤ j → j + closer.length ≤ t.stop → ¬ opener <+: s.drop j) :
    (style.withNesting .nested).scan s = { tokens, unclosed := none } := by
  refine (scan_nested_iff hflat).2 fun t ht hkind opener closer hopener hpair hne => ?_
  rintro ⟨j, hle, hstands, hbefore⟩
  exact hfree t ht hkind opener closer hopener hpair hne j hle (by omega) hstands

/-- A closing delimiter may overlap with an opening one, and a comment whose two delimiters are equal may
hold any other. -/
theorem scan_nested_of_flat_overlapping :
    let style : CommentStyle :=
      { blocks := [{ opening := "/*".toList, closing := "*/".toList },
          { opening := "\"\"".toList, closing := "\"\"".toList }]
        lines := ["--".toList], nesting := .flat
        delimited := by decide, blocks_full := by decide, lines_full := by decide }
    let s := "/*/ a */* b */\"\"/*\"\"--/*".toList
    let tokens : List Token :=
      [{ kind := .comment, start := 0, text := "/*/ a */".toList },
        { kind := .code, start := 8, text := "* b */".toList },
        { kind := .comment, start := 14, text := "\"\"/*\"\"".toList },
        { kind := .comment, start := 20, text := "--/*".toList }]
    (style.withNesting .flat).scan s = { tokens, unclosed := none } ∧
      (∀ t ∈ tokens, t.kind = .comment → ∀ opener closer,
        LongestAt style.openers s t.start opener → style.Pairs opener closer → opener ≠ closer →
          ∀ j, t.start + opener.length ≤ j → j + closer.length ≤ t.stop → ¬ opener <+: s.drop j) ∧
      (style.withNesting .nested).scan s = { tokens, unclosed := none } := by
  intro style s tokens
  have hflat : (style.withNesting .flat).scan s = { tokens, unclosed := none } := by
    decide +kernel
  have hfree : ∀ t ∈ tokens, t.kind = .comment → ∀ opener closer,
      LongestAt style.openers s t.start opener → style.Pairs opener closer → opener ≠ closer →
        ∀ j, t.start + opener.length ≤ j → j + closer.length ≤ t.stop → ¬ opener <+: s.drop j := by
    intro t ht _ opener closer hopener hpair hne
    have hcloser := closerOf?_eq_some_iff.2 hpair
    have hat := longestAt_eq_some_iff.2 hopener
    have hall : ∀ t ∈ tokens, ∀ b ∈ style.blocks, b.opening ≠ b.closing →
        longestAt (s.drop t.start) style.openers = some b.opening →
          ∀ j < s.length, t.start + b.opening.length ≤ j → j + b.closing.length ≤ t.stop →
            ¬ b.opening.isPrefixOf (s.drop j) := by
      decide +kernel
    obtain ⟨b, hb, rfl⟩ := Option.map_eq_some_iff.1 hcloser
    obtain rfl : b.opening = opener := by simpa using List.find?_some hb
    intro j hle hstop hstands
    have hlt : j < s.length := by
      have := hstands.length_le
      have := List.length_pos_iff.2 hpair.opener_ne_nil
      simp only [List.length_drop] at *
      omega
    exact hall t ht b (List.mem_of_find?_eq_some hb) hne hat j hlt hle hstop
      (List.isPrefixOf_iff_prefix.2 hstands)
  exact ⟨hflat, hfree, scan_nested_of_flat hflat hfree⟩

end CommentStyle

end KeptRegions
