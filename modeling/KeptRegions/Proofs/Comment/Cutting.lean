import KeptRegions.Proofs.Comment.Delimiter

namespace KeptRegions

/-!
# Cutting a text into tokens

Which tokens a text has can be said one token at a time: a token has to be what is cut off at its
place, and that depends on its own text and on what follows. Scanning finds tokens of this kind that
cover the text up to a comment that never ends (`scanFrom_cuts`), and a text that is cut in this way
has no other tokens (`scanFrom_textOf`).
-/

/-- A token without its position. -/
structure Lexeme where
  kind : TokenKind
  text : Text
deriving DecidableEq

namespace Lexeme

/-- The text of some tokens. -/
def textOf (ls : List Lexeme) : Text :=
  ls.flatMap Lexeme.text

/-- The tokens at their positions, the first at `start`. -/
def place (start : Nat) : List Lexeme → List Token
  | [] => []
  | l :: ls => { kind := l.kind, start, text := l.text } :: place (start + l.text.length) ls

@[simp] theorem textOf_nil : textOf [] = [] := rfl

@[simp] theorem textOf_cons (l : Lexeme) (ls : List Lexeme) :
    textOf (l :: ls) = l.text ++ textOf ls := rfl

@[simp] theorem textOf_append (ls ms : List Lexeme) :
    textOf (ls ++ ms) = textOf ls ++ textOf ms :=
  List.flatMap_append

theorem flatMap_text_place (start : Nat) (ls : List Lexeme) :
    (place start ls).flatMap Token.text = textOf ls := by
  induction ls generalizing start with
  | nil => rfl
  | cons l ls ih => simp [place, ih]

end Lexeme

namespace CommentStyle

variable {style : CommentStyle} {s after opener : Text}

/-! ## One token -/

/-- A text in which a run of code is cut off: no delimiter starts within the run, and if anything
follows it, that is a comment. -/
def CutsCode (style : CommentStyle) (code after : Text) : Prop :=
  code ≠ [] ∧ (∀ i < code.length, longestAt ((code ++ after).drop i) style.openers = none) ∧
    (after = [] ∨ longestAt after style.openers ≠ none)

/-- A text in which a comment is cut off: it starts with the longest delimiter and ends where a
comment with that delimiter ends. -/
def CutsComment (style : CommentStyle) (comment after : Text) : Prop :=
  ∃ opener inner, comment = opener ++ inner ∧
    longestAt (comment ++ after) style.openers = some opener ∧
    (style.endingOf opener).reach? (inner ++ after) = some inner.length

/-- Whether the token is cut off from a text that starts with it, when `after` follows. -/
def Cuts (style : CommentStyle) (l : Lexeme) (after : Text) : Prop :=
  match l.kind with
  | .code => style.CutsCode l.text after
  | .comment => style.CutsComment l.text after

/-- Whether the tokens are cut off one by one, when `after` follows the last of them. -/
def CutsAll (style : CommentStyle) : List Lexeme → Text → Prop
  | [], _ => True
  | l :: ls, after => style.Cuts l (Lexeme.textOf ls ++ after) ∧ CutsAll style ls after

theorem cutsAll_append {ls ms : List Lexeme} :
    style.CutsAll (ls ++ ms) after ↔
      style.CutsAll ls (Lexeme.textOf ms ++ after) ∧ style.CutsAll ms after := by
  induction ls with
  | nil => simp [CutsAll]
  | cons l ls ih => simp [CutsAll, ih, and_assoc]

theorem CutsComment.ne_nil {comment : Text} (h : style.CutsComment comment after) :
    comment ≠ [] := by
  rcases h with ⟨opener, inner, rfl, hlongest, -⟩
  have := ne_nil_of_mem_openers (mem_of_longestAt hlongest).1
  simp [this]

theorem Cuts.ne_nil {l : Lexeme} (h : style.Cuts l after) : l.text ≠ [] := by
  unfold Cuts at h
  split at h
  · exact h.1
  · exact h.ne_nil

/-! ## Steps of scanning -/

theorem ne_nil_of_longestAt (h : longestAt s style.openers = some opener) : s ≠ [] := by
  intro hs
  subst hs
  rw [longestAt_nil fun d hd => ne_nil_of_mem_openers hd] at h
  cases h

theorem codeToken_of_ne_nil {start : Nat} {code : Text} (h : code ≠ []) :
    codeToken start code = [{ kind := .code, start, text := code }] := by
  simp [codeToken, h]

/-- Scanning a text without delimiters. -/
theorem scanFrom_of_none (start : Nat)
    (h : ∀ j < s.length, longestAt (s.drop j) style.openers = none) :
    style.scanFrom start s = { tokens := codeToken start s, unclosed := none } := by
  have hnext : nextDelimiter style.openers 0 s = none :=
    nextDelimiter_eq_none_of (fun d hd => ne_nil_of_mem_openers hd) h
  unfold scanFrom
  split
  · rfl
  · rename_i hsome
    rw [hnext] at hsome
    cases hsome

/-- Scanning goes from one delimiter to the next. -/
theorem scanFrom_of_next {n : Nat} (start : Nat)
    (h : nextDelimiter style.openers 0 s = some (n, opener)) :
    style.scanFrom start s =
      let code := codeToken start (s.take n)
      let after := s.drop (n + opener.length)
      match (style.endingOf opener).reach? after with
      | none =>
        { tokens := code
          unclosed := some
            { opener, nested := (style.endingOf opener).isNested, start := start + n } }
      | some reach =>
        let rest := style.scanFrom (start + n + opener.length + reach) (after.drop reach)
        { tokens :=
            code ++ { kind := .comment, start := start + n, text := opener ++ after.take reach }
              :: rest.tokens
          unclosed := rest.unclosed } := by
  rw [scanFrom]
  split
  · rename_i hnone
    rw [h] at hnone
    cases hnone
  · rename_i m d hsome
    rw [h] at hsome
    cases hsome
    rfl

/-- Scanning a text that starts with a comment. -/
theorem scanFrom_of_comment {reach : Nat} (start : Nat)
    (hopener : longestAt s style.openers = some opener)
    (hreach : (style.endingOf opener).reach? (s.drop opener.length) = some reach) :
    style.scanFrom start s =
      let rest :=
        style.scanFrom (start + opener.length + reach) ((s.drop opener.length).drop reach)
      { tokens :=
          { kind := .comment, start, text := opener ++ (s.drop opener.length).take reach }
            :: rest.tokens
        unclosed := rest.unclosed } := by
  have hnext : nextDelimiter style.openers 0 s = some (0, opener) :=
    nextDelimiter_append (w := []) (by simp) hopener
  rw [scanFrom_of_next start hnext]
  simp only [Nat.zero_add, hreach]
  rfl

/-- Scanning a text that starts with a comment that never ends. -/
theorem scanFrom_of_unclosed (start : Nat) (hopener : longestAt s style.openers = some opener)
    (hreach : (style.endingOf opener).reach? (s.drop opener.length) = none) :
    style.scanFrom start s =
      { tokens := []
        unclosed := some { opener, nested := (style.endingOf opener).isNested, start } } := by
  have hnext : nextDelimiter style.openers 0 s = some (0, opener) :=
    nextDelimiter_append (w := []) (by simp) hopener
  rw [scanFrom_of_next start hnext]
  simp only [Nat.zero_add, hreach]
  rfl

/-- Scanning a text that starts with code, behind which a comment starts. -/
theorem scanFrom_of_code {code : Text} (start : Nat) (hne : code ≠ [])
    (hcode : ∀ i < code.length, longestAt ((code ++ s).drop i) style.openers = none)
    (hopener : longestAt s style.openers = some opener) :
    style.scanFrom start (code ++ s) =
      let rest := style.scanFrom (start + code.length) s
      { tokens := { kind := .code, start, text := code } :: rest.tokens
        unclosed := rest.unclosed } := by
  have hnext : nextDelimiter style.openers 0 (code ++ s) = some (code.length, opener) := by
    simpa using nextDelimiter_append (i := 0) hcode hopener
  have hdrop : (code ++ s).drop (code.length + opener.length) = s.drop opener.length := by
    rw [← List.drop_drop, List.drop_left]
  rw [scanFrom_of_next start hnext]
  simp only [hdrop, List.take_left, codeToken_of_ne_nil hne]
  cases hreach : (style.endingOf opener).reach? (s.drop opener.length) with
  | none => rw [scanFrom_of_unclosed _ hopener hreach]
  | some reach => rw [scanFrom_of_comment _ hopener hreach]; rfl

/-! ## All tokens of a text -/

/-- Where scanning comes to its end: at the end of the text, or at a comment that never ends. -/
def StopsAt (style : CommentStyle) (rest : Text) (position : Nat) : Option OpenComment → Prop
  | none => rest = []
  | some c =>
    longestAt rest style.openers = some c.opener ∧
      (style.endingOf c.opener).reach? (rest.drop c.opener.length) = none ∧
      c.nested = (style.endingOf c.opener).isNested ∧ c.start = position

/-- Scanning `s` cuts off the tokens `ls` and stops in front of `rest`. -/
structure ScansTo (style : CommentStyle) (start : Nat) (s : Text) (ls : List Lexeme)
    (rest : Text) : Prop where
  text : s = Lexeme.textOf ls ++ rest
  tokens : (style.scanFrom start s).tokens = Lexeme.place start ls
  cuts : style.CutsAll ls rest
  stops : style.StopsAt rest (start + (Lexeme.textOf ls).length) (style.scanFrom start s).unclosed

theorem ScansTo.comment {start reach : Nat} {ls : List Lexeme} {rest : Text}
    (hopener : longestAt s style.openers = some opener)
    (hreach : (style.endingOf opener).reach? (s.drop opener.length) = some reach)
    (h : style.ScansTo (start + opener.length + reach) ((s.drop opener.length).drop reach)
      ls rest) :
    style.ScansTo start s
      ({ kind := .comment, text := opener ++ (s.drop opener.length).take reach } :: ls) rest := by
  have hscan := scanFrom_of_comment start hopener hreach
  -- the text is the delimiter and what follows it
  have hstarts := List.isPrefixOf_iff_prefix.1 (mem_of_longestAt hopener).2
  rcases hstarts with ⟨after, rfl⟩
  simp only [List.drop_left] at *
  have hlen : (after.take reach).length = reach := List.length_take_of_le (reach?_le hreach)
  have hpos : start + opener.length + reach = start + (opener ++ after.take reach).length := by
    simp only [List.length_append, hlen]
    omega
  have hafter : after.take reach ++ (Lexeme.textOf ls ++ rest) = after := by
    rw [← h.text, List.take_append_drop]
  refine ⟨?_, ?_, ⟨⟨opener, after.take reach, rfl, ?_, ?_⟩, h.cuts⟩, ?_⟩
  · simp only [Lexeme.textOf_cons, List.append_assoc, hafter]
  · rw [hscan, Lexeme.place, ← hpos, ← h.tokens]
  · rwa [List.append_assoc, hafter]
  · rwa [hafter, hlen]
  · have hstops := h.stops
    rw [hpos] at hstops
    rw [hscan, hpos]
    simpa [Nat.add_assoc] using hstops

theorem ScansTo.code {start : Nat} {code : Text} {ls : List Lexeme} {rest : Text}
    (hne : code ≠ [])
    (hcode : ∀ i < code.length, longestAt ((code ++ s).drop i) style.openers = none)
    (hopener : longestAt s style.openers = some opener)
    (h : style.ScansTo (start + code.length) s ls rest) :
    style.ScansTo start (code ++ s) ({ kind := .code, text := code } :: ls) rest := by
  have hscan := scanFrom_of_code start hne hcode hopener
  refine ⟨?_, ?_, ⟨⟨hne, ?_, .inr ?_⟩, h.cuts⟩, ?_⟩
  · rw [Lexeme.textOf_cons, List.append_assoc, ← h.text]
  · rw [hscan, Lexeme.place, ← h.tokens]
  · rwa [← h.text]
  · rw [← h.text, hopener]
    exact Option.some_ne_none _
  · rw [hscan]
    simpa [Nat.add_assoc] using h.stops

/-- Scanning a text without delimiters cuts it off as one token, or as none if it is empty. -/
theorem exists_scansTo_of_none (start : Nat) (h : ∀ i, longestAt (s.drop i) style.openers = none) :
    ∃ ls rest, style.ScansTo start s ls rest := by
  have hscan := scanFrom_of_none start (fun i (_ : i < s.length) => h i)
  by_cases hs : s = []
  · subst hs
    refine ⟨[], [], rfl, ?_, trivial, ?_⟩
    · rw [hscan]
      rfl
    · rw [hscan]
      rfl
  · refine ⟨[{ kind := .code, text := s }], [], by simp, ?_, ⟨⟨hs, ?_, .inl rfl⟩, trivial⟩, ?_⟩
    · rw [hscan, codeToken_of_ne_nil hs]
      rfl
    · intro i _
      simpa using h i
    · rw [hscan]
      rfl

/-- Scanning a text that starts with a comment stops in front of it or goes on behind it. -/
theorem exists_scansTo_of_opener (start : Nat) (hopener : longestAt s style.openers = some opener)
    (hbehind : ∀ start (t : Text), t.length < s.length →
      ∃ ls rest, style.ScansTo start t ls rest) :
    ∃ ls rest, style.ScansTo start s ls rest := by
  cases hreach : (style.endingOf opener).reach? (s.drop opener.length) with
  | none =>
    -- the comment never ends
    have hscan := scanFrom_of_unclosed start hopener hreach
    refine ⟨[], s, rfl, ?_, trivial, ?_⟩
    · rw [hscan]
      rfl
    · rw [hscan]
      exact ⟨hopener, hreach, rfl, rfl⟩
  | some reach =>
    have hpos := List.length_pos_iff.2 (ne_nil_of_mem_openers (mem_of_longestAt hopener).1)
    have hs := List.length_pos_iff.2 (ne_nil_of_longestAt hopener)
    have hshort : ((s.drop opener.length).drop reach).length < s.length := by
      simp only [List.length_drop]
      omega
    obtain ⟨ls, rest, h⟩ := hbehind (start + opener.length + reach) _ hshort
    exact ⟨_, rest, h.comment hopener hreach⟩

/-- Scanning cuts tokens off one by one until it stops. -/
theorem scanFrom_cuts (style : CommentStyle) (start : Nat) (s : Text) :
    ∃ ls rest, style.ScansTo start s ls rest := by
  induction hn : s.length using Nat.strongRecOn generalizing s start with
  | ind n ih =>
    subst hn
    have hbehind : ∀ start (t : Text), t.length < s.length →
        ∃ ls rest, style.ScansTo start t ls rest :=
      fun start t ht => ih _ ht start t rfl
    cases hnext : nextDelimiter style.openers 0 s with
    | none => exact exists_scansTo_of_none start fun i => nextDelimiter_eq_none hnext i
    | some found =>
      rcases found with ⟨n, opener⟩
      rcases nextDelimiter_eq_some hnext with ⟨k, hk, hle, hopener, hbefore⟩
      by_cases hzero : k = 0
      · subst hzero
        exact exists_scansTo_of_opener start hopener hbehind
      · -- the code in front of the delimiter is a token of its own
        have hsplit : s.take k ++ s.drop k = s := List.take_append_drop k s
        have hlen : (s.take k).length = k := List.length_take_of_le hle
        have hne : s.take k ≠ [] := by
          intro hnil
          rw [hnil] at hlen
          exact hzero hlen.symm
        have hshort : (s.drop k).length ≤ s.length := by simp
        obtain ⟨ls, rest, h⟩ :=
          exists_scansTo_of_opener (start + (s.take k).length) hopener fun start t ht =>
            hbehind start t (Nat.lt_of_lt_of_le ht hshort)
        refine ⟨{ kind := .code, text := s.take k } :: ls, rest, ?_⟩
        have hcode := h.code hne (fun i hi => by rw [hsplit]; exact hbefore i (hlen ▸ hi)) hopener
        rwa [hsplit] at hcode

/-- Where it stops there are no tokens. -/
theorem scanFrom_of_stopsAt {rest : Text} {start : Nat} {unclosed : Option OpenComment}
    (h : style.StopsAt rest start unclosed) :
    style.scanFrom start rest = { tokens := [], unclosed } := by
  cases unclosed with
  | none =>
    obtain rfl : rest = [] := h
    exact scanFrom_of_none start (by simp)
  | some c =>
    rcases h with ⟨hopener, hreach, hnested, hstart⟩
    have hc : c =
        { opener := c.opener, nested := (style.endingOf c.opener).isNested, start } := by
      cases c
      simp_all
    rw [hc]
    exact scanFrom_of_unclosed start hopener hreach

/-- A text that is cut into tokens one by one has just these tokens. -/
theorem scanFrom_textOf {start : Nat} {ls : List Lexeme} {rest : Text}
    {unclosed : Option OpenComment} (h : style.CutsAll ls rest)
    (hstop : style.StopsAt rest (start + (Lexeme.textOf ls).length) unclosed) :
    style.scanFrom start (Lexeme.textOf ls ++ rest) =
      { tokens := Lexeme.place start ls, unclosed } := by
  induction ls generalizing start with
  | nil => exact scanFrom_of_stopsAt hstop
  | cons l ls ih =>
    rcases h with ⟨hl, hls⟩
    have hrest : style.scanFrom (start + l.text.length) (Lexeme.textOf ls ++ rest) =
        { tokens := Lexeme.place (start + l.text.length) ls, unclosed } :=
      ih hls (by simpa [Nat.add_assoc] using hstop)
    simp only [Lexeme.textOf_cons, List.append_assoc, Lexeme.place]
    rcases l with ⟨kind, text⟩
    cases kind with
    | comment =>
      rcases hl with ⟨opener, inner, rfl, hopener, hreach⟩
      have hreach' : (style.endingOf opener).reach?
          ((opener ++ inner ++ (Lexeme.textOf ls ++ rest)).drop opener.length) =
            some inner.length := by
        simpa using hreach
      rw [scanFrom_of_comment start hopener hreach']
      simp only [List.append_assoc, List.drop_left, List.take_left, List.length_append] at hrest ⊢
      rw [Nat.add_assoc, hrest]
    | code =>
      rcases hl with ⟨hne, hcode, hafter⟩
      rcases hafter with hnil | hsome
      · -- nothing follows, so the code is the last token
        rcases List.append_eq_nil_iff.1 hnil with ⟨htext, rfl⟩
        rw [htext, List.append_nil, scanFrom_of_none _ (by simp)] at hrest
        simp only [htext, List.append_nil] at hcode ⊢
        rcases Scan.mk.inj hrest with ⟨htokens, rfl⟩
        have hplace : Lexeme.place (start + text.length) ls = [] := htokens.symm
        rw [scanFrom_of_none start hcode, codeToken_of_ne_nil hne, hplace]
      · -- a comment follows
        rcases Option.ne_none_iff_exists'.1 hsome with ⟨opener, hopener⟩
        rw [scanFrom_of_code start hne hcode hopener, hrest]

end CommentStyle

end KeptRegions
