import KeptRegions.Proofs.Comment.Cutting
import KeptRegions.Proofs.Comment.Ending

namespace KeptRegions

/-!
# The tokens of a text

Which pieces of a text are its tokens is said here by their positions: code holds no position where a
delimiter stands, and a comment starts with the longest delimiter at its position and ends where a
comment with that delimiter ends. Scanning finds these tokens and no others, and it stops in front of a
comment that has no end exactly if the tokens lead to one (`scan_eq_iff`).
-/

/-- The token without its position. -/
def Token.lexeme (t : Token) : Lexeme :=
  { kind := t.kind, text := t.text }

/-- Tokens that lie from the position `i` to the position `k`, without gap or overlap. -/
def Contiguous (i : Nat) : List Token → Nat → Prop
  | [], k => i = k
  | t :: ts, k => t.start = i ∧ Contiguous t.stop ts k

namespace CommentStyle

variable {style : CommentStyle} {s rest : Text} {t : Token} {ts : List Token} {ls : List Lexeme}
  {i k : Nat}

/-- What makes a piece of a text a token. -/
structure IsToken (style : CommentStyle) (s : Text) (t : Token) : Prop where
  nonempty : t.text ≠ []
  stands : t.text <+: s.drop t.start
  code : t.kind = .code → ∀ i, t.start ≤ i → i < t.stop → FreeAt style.openers s i
  comment : t.kind = .comment →
    ∃ opener, LongestAt style.openers s t.start opener ∧ style.EndsAt s t.start opener t.stop

/-- The text from the position `i` to the position `k` consists of these tokens. -/
structure Tokenizes (style : CommentStyle) (s : Text) (tokens : List Token) (i k : Nat) : Prop where
  contiguous : Contiguous i tokens k
  isToken : ∀ t ∈ tokens, style.IsToken s t
  apart : tokens.IsChain fun t u => ¬ (t.kind = .code ∧ u.kind = .code)

/-- Comments with this delimiter end by counting. -/
def Nests (style : CommentStyle) (opener : Text) : Prop :=
  style.nesting = .nested ∧ ∃ closer, style.Pairs opener closer ∧ opener ≠ closer

theorem isNested_endingOf (style : CommentStyle) (opener : Text) :
    (style.endingOf opener).isNested = true ↔ style.Nests opener := by
  unfold endingOf Nests
  simp only [← closerOf?_eq_some_iff]
  cases style.closerOf? opener with
  | none => simp [Ending.isNested]
  | some closer => cases hnesting : style.nesting <;> by_cases h : opener = closer <;>
      simp [h, Ending.isNested]

/-! ## Positions and cutting -/

theorem isToken_of_cuts {l : Lexeme} {after : Text} (hs : s.drop i = l.text ++ after)
    (h : style.Cuts l after) : style.IsToken s { kind := l.kind, start := i, text := l.text } := by
  refine ⟨h.ne_nil, ⟨after, hs.symm⟩, ?_, ?_⟩
  · rintro hkind j hij hj
    obtain ⟨n, rfl⟩ := Nat.exists_eq_add_of_le hij
    simp only [Cuts, show l.kind = .code from hkind] at h
    have hnone := h.2.1 n (by simpa [Token.stop] using hj)
    rw [← hs, List.drop_drop] at hnone
    exact longestAt_eq_none_iff.1 hnone
  · rintro hkind
    simp only [Cuts, show l.kind = .comment from hkind] at h
    obtain ⟨opener, inner, htext, hlongest, hreach⟩ := h
    rw [← hs] at hlongest
    have hopener := longestAt_eq_some_iff.1 hlongest
    have hinner : s.drop (i + opener.length) = inner ++ after := by
      rw [← List.drop_drop, hs, htext, List.append_assoc, List.drop_left]
    rw [← hinner, reach?_eq_some_iff hopener.mem hopener.stands] at hreach
    exact ⟨opener, hopener, by simpa [Token.stop, htext, Nat.add_assoc] using hreach⟩

/-- Tokens that are cut off one by one are the tokens at their positions. -/
theorem tokenizes_of_cutsAll (hs : s.drop i = Lexeme.textOf ls ++ rest) (h : style.CutsAll ls rest) :
    style.Tokenizes s (Lexeme.place i ls) i (i + (Lexeme.textOf ls).length) := by
  induction ls generalizing i with
  | nil => exact ⟨rfl, nofun, .nil⟩
  | cons l ls ih =>
    rcases h with ⟨hl, hls⟩
    rw [Lexeme.textOf_cons, List.append_assoc] at hs
    have hrest : s.drop (i + l.text.length) = Lexeme.textOf ls ++ rest := by
      rw [← List.drop_drop, hs, List.drop_left]
    have htokens := ih hrest hls
    refine ⟨⟨rfl, ?_⟩, ?_, ?_⟩
    · simpa [Token.stop, Nat.add_assoc] using htokens.contiguous
    · intro t ht
      rcases List.mem_cons.1 ht with rfl | ht
      · exact isToken_of_cuts hs hl
      · exact htokens.isToken t ht
    · cases ls with
      | nil => exact .singleton _
      | cons m ls =>
        refine List.isChain_cons_cons.2 ⟨?_, htokens.apart⟩
        -- behind code a delimiter stands, and code does not start with one
        rintro ⟨hcode, hcode'⟩
        simp only [Cuts, show l.kind = .code from hcode] at hl
        have hm := hls.1
        simp only [Cuts, show m.kind = .code from hcode'] at hm
        have hpos := List.length_pos_iff.2 hm.1
        rcases hl.2.2 with hnil | hsome
        · simp [hm.1] at hnil
        · exact hsome (by simpa using hm.2.1 0 hpos)

theorem cuts_of_isToken {after : Text} (h : style.IsToken s t) (hs : s.drop t.stop = after)
    (hafter : t.kind = .code → after = [] ∨ longestAt after style.openers ≠ none) :
    style.Cuts t.lexeme after := by
  have htext : s.drop t.start = t.text ++ after := by
    obtain ⟨after', hafter'⟩ := h.stands
    rw [← hs, Token.stop, ← List.drop_drop, ← hafter', List.drop_left]
  unfold Cuts
  cases hkind : t.kind with
  | code =>
    simp only [Token.lexeme, hkind]
    refine ⟨h.nonempty, fun j hj => ?_, hafter hkind⟩
    rw [← htext, List.drop_drop]
    exact longestAt_eq_none_iff.2
      (h.code hkind (t.start + j) (Nat.le_add_right _ _) (Nat.add_lt_add_left hj _))
  | comment =>
    simp only [Token.lexeme, hkind]
    obtain ⟨opener, hopener, hends⟩ := h.comment hkind
    obtain ⟨n, hstop⟩ := hends.exists_add
    -- the comment reaches past its delimiter, so it starts with all of it
    have hlen : t.text.length = opener.length + n := by
      simp only [Token.stop] at hstop
      omega
    obtain ⟨inner, hinner⟩ : opener <+: t.text :=
      List.prefix_of_prefix_length_le hopener.stands h.stands (by omega)
    refine ⟨opener, inner, hinner.symm, ?_, ?_⟩
    · rw [← htext]
      exact longestAt_eq_some_iff.2 hopener
    · have hafter : s.drop (t.start + opener.length) = inner ++ after := by
        rw [← List.drop_drop, htext, ← hinner, List.append_assoc, List.drop_left]
      have hn : n = inner.length := by
        rw [← hinner, List.length_append] at hlen
        omega
      rw [← hafter, reach?_eq_some_iff hopener.mem hopener.stands, ← hn, ← hstop]
      exact hends

/-- The tokens at their positions are cut off one by one if behind the last of them the text ends or a
comment starts. -/
theorem cutsAll_of_tokenizes (h : style.Tokenizes s ts i k)
    (hstop : s.drop k = [] ∨ longestAt (s.drop k) style.openers ≠ none) :
    ∃ ls, Lexeme.place i ls = ts ∧ s.drop i = Lexeme.textOf ls ++ s.drop k ∧
      i + (Lexeme.textOf ls).length = k ∧ style.CutsAll ls (s.drop k) := by
  induction ts generalizing i with
  | nil =>
    obtain rfl : i = k := h.contiguous
    exact ⟨[], rfl, rfl, rfl, trivial⟩
  | cons t ts ih =>
    rcases h with ⟨⟨rfl, hcontiguous⟩, htoken, hapart⟩
    have ht := htoken t List.mem_cons_self
    obtain ⟨ls, hplace, hs, hlen, hcuts⟩ :=
      ih ⟨hcontiguous, fun u hu => htoken u (List.mem_cons_of_mem _ hu), hapart.of_cons⟩
    have htext : s.drop t.start = t.text ++ s.drop t.stop := by
      obtain ⟨after, hafter⟩ := ht.stands
      rw [Token.stop, ← List.drop_drop, ← hafter, List.drop_left]
    refine ⟨t.lexeme :: ls, ?_, ?_, ?_, cuts_of_isToken ht hs ?_, hcuts⟩
    · rw [← hplace]
      rfl
    · rw [htext, hs]
      exact (List.append_assoc _ _ _).symm
    · rw [← hlen]
      simp [Token.lexeme, Token.stop, Nat.add_assoc]
    · intro hkind
      rw [← hs]
      cases ts with
      | nil =>
        obtain rfl : t.stop = k := hcontiguous
        exact hstop
      | cons u ts =>
        -- what follows code is a comment
        rw [← hcontiguous.1]
        have hu : u.kind = .comment := by
          cases hu : u.kind with
          | comment => rfl
          | code => exact absurd ⟨hkind, hu⟩ (List.isChain_cons_cons.1 hapart).1
        obtain ⟨opener, hopener, -⟩ :=
          (htoken u (List.mem_cons_of_mem _ List.mem_cons_self)).comment hu
        rw [longestAt_eq_some_iff.2 hopener]
        exact .inr (Option.some_ne_none _)

/-! ## Scanning -/

/-- Scanning a text that is cut into tokens up to where it stops. -/
theorem scan_of_tokenizes {unclosed : Option OpenComment} (h : style.Tokenizes s ts 0 k)
    (hstop : style.StopsAt (s.drop k) k unclosed) : style.scan s = { tokens := ts, unclosed } := by
  have hbehind : s.drop k = [] ∨ longestAt (s.drop k) style.openers ≠ none := by
    cases unclosed with
    | none => exact .inl hstop
    | some c =>
      rw [hstop.1]
      exact .inr (Option.some_ne_none _)
  obtain ⟨ls, rfl, hs, hlen, hcuts⟩ := cutsAll_of_tokenizes h hbehind
  have hscan : style.scanFrom 0 (Lexeme.textOf ls ++ s.drop k) =
      { tokens := Lexeme.place 0 ls, unclosed } := scanFrom_textOf hcuts (by rwa [hlen])
  rwa [← hs] at hscan

/-- Scanning finds the tokens of a text up to where it stops, and no others lead there. -/
theorem scan_eq_iff_stopsAt {unclosed : Option OpenComment} :
    style.scan s = { tokens := ts, unclosed } ↔
      ∃ k ≤ s.length, style.Tokenizes s ts 0 k ∧ style.StopsAt (s.drop k) k unclosed := by
  refine ⟨fun h => ?_, fun ⟨k, _, htokens, hstop⟩ => scan_of_tokenizes htokens hstop⟩
  obtain ⟨ls, rest, hscan⟩ := style.scanFrom_cuts 0 s
  have hfound : Lexeme.place 0 ls = ts := by
    rw [← hscan.tokens, show style.scanFrom 0 s = _ from h]
  have htokens := tokenizes_of_cutsAll (i := 0) hscan.text hscan.cuts
  have hstop := hscan.stops
  rw [show style.scanFrom 0 s = _ from h] at hstop
  rw [Nat.zero_add] at htokens hstop
  refine ⟨(Lexeme.textOf ls).length, ?_, hfound ▸ htokens, ?_⟩
  · rw [hscan.text, List.length_append]
    exact Nat.le_add_right _ _
  · rwa [hscan.text, List.drop_left]

/-- The tokens that scanning finds lie from the start of the text to some position. -/
theorem exists_tokenizes (style : CommentStyle) (s : Text) :
    ∃ k, style.Tokenizes s (style.scan s).tokens 0 k := by
  obtain ⟨k, -, htokens, -⟩ := scan_eq_iff_stopsAt.1
    (rfl : style.scan s = { tokens := (style.scan s).tokens, unclosed := (style.scan s).unclosed })
  exact ⟨k, htokens⟩

theorem stopsAt_some_iff {c : OpenComment} :
    style.StopsAt (s.drop k) k (some c) ↔
      c.start = k ∧ LongestAt style.openers s k c.opener ∧
        (∀ stop, ¬ style.EndsAt s k c.opener stop) ∧ (c.nested = true ↔ style.Nests c.opener) := by
  simp only [StopsAt]
  rw [longestAt_eq_some_iff, List.drop_drop, ← isNested_endingOf, Bool.coe_iff_coe]
  constructor
  · rintro ⟨hopener, hreach, hnested, hstart⟩
    exact ⟨hstart, hopener, (reach?_eq_none_iff hopener.mem hopener.stands).1 hreach, hnested⟩
  · rintro ⟨hstart, hopener, hends, hnested⟩
    exact ⟨hopener, (reach?_eq_none_iff hopener.mem hopener.stands).2 hends, hnested, hstart⟩

/-- Scanning finds the tokens of a text. It comes to the end of the text exactly if these cover it, and
stops at a comment exactly if the tokens in front of it are those of the text, and it does not end. -/
theorem scan_eq_iff (style : CommentStyle) (s : Text) (tokens : List Token) :
    (style.scan s = { tokens, unclosed := none } ↔ style.Tokenizes s tokens 0 s.length) ∧
    ∀ c, style.scan s = { tokens, unclosed := some c } ↔
      style.Tokenizes s tokens 0 c.start ∧ LongestAt style.openers s c.start c.opener ∧
        (∀ stop, ¬ style.EndsAt s c.start c.opener stop) ∧
          (c.nested = true ↔ style.Nests c.opener) := by
  simp only [scan_eq_iff_stopsAt]
  constructor
  · constructor
    · rintro ⟨k, hle, htokens, hstop⟩
      obtain rfl : k = s.length := Nat.le_antisymm hle (List.drop_eq_nil_iff.1 hstop)
      exact htokens
    · exact fun htokens => ⟨s.length, Nat.le_refl _, htokens, List.drop_length ..⟩
  · intro c
    constructor
    · rintro ⟨k, -, htokens, hstop⟩
      obtain ⟨rfl, hopen⟩ := stopsAt_some_iff.1 hstop
      exact ⟨htokens, hopen⟩
    · rintro ⟨htokens, hopen⟩
      have hlt : ¬ s.length ≤ c.start := by
        intro hle
        have hnil := List.prefix_nil.1 (List.drop_eq_nil_iff.2 hle ▸ hopen.1.stands)
        exact ne_nil_of_mem_openers hopen.1.mem hnil
      exact ⟨c.start, Nat.le_of_not_le hlt, htokens, stopsAt_some_iff.2 ⟨rfl, hopen⟩⟩

end CommentStyle

end KeptRegions
