import KeptRegions.Comment.Style

namespace KeptRegions

/-!
# Tokens

A text is cut into code and comments. At each position the longest delimiter that starts there opens
a comment; what lies between comments is code. The tokens are the text, cut into pieces: their
texts follow one another without gap or overlap.
-/

/-- What a token is. -/
inductive TokenKind where
  | code
  | comment
deriving DecidableEq

/-- The name of a kind of token. -/
def TokenKind.name : TokenKind → String
  | code => "code"
  | comment => "comment"

/-- A piece of a text: a run of code, or one comment with its delimiters. -/
structure Token where
  kind : TokenKind
  start : Nat
  text : Text
deriving DecidableEq

namespace Token

/-- The position just past the token. -/
def stop (t : Token) : Nat :=
  t.start + t.text.length

/-- Whether the token is a comment. -/
def isComment (t : Token) : Bool :=
  t.kind = .comment

end Token

/-- A block comment that never ends. -/
structure OpenComment where
  opener : Text
  nested : Bool
  start : Nat
deriving DecidableEq

/-- The tokens of a text, up to a comment that never ends if there is one. -/
structure Scan where
  tokens : List Token
  unclosed : Option OpenComment
deriving DecidableEq

/-! ## Delimiters at a position -/

/-- The longest of the delimiters that `s` starts with. -/
def longestAt (s : Text) : List Text → Option Text
  | [] => none
  | d :: ds =>
    match longestAt s ds with
    | none => if d.isPrefixOf s then some d else none
    | some e => if d.isPrefixOf s && e.length < d.length then some d else some e

theorem mem_of_longestAt {s d : Text} {ds : List Text} (h : longestAt s ds = some d) :
    d ∈ ds ∧ d.isPrefixOf s = true := by
  fun_induction longestAt s ds <;> grind

/-- The first position, counted from `i`, at which one of the delimiters starts, and the longest of
those that do. -/
def nextDelimiter (ds : List Text) (i : Nat) (s : Text) : Option (Nat × Text) :=
  match longestAt s ds with
  | some d => some (i, d)
  | none =>
    match s with
    | [] => none
    | _ :: rest => nextDelimiter ds (i + 1) rest

theorem nextDelimiter_mem {ds : List Text} {i n : Nat} {s d : Text}
    (h : nextDelimiter ds i s = some (n, d)) : d ∈ ds ∧ (d ≠ [] → s ≠ []) := by
  fun_induction nextDelimiter ds i s with
  | case1 i s e he =>
    have := mem_of_longestAt he
    cases s <;> grind [List.isPrefixOf]
  | case2 => simp at h
  | case3 i hnone c rest ih => exact ⟨(ih h).1, by simp⟩

/-! ## The end of a comment -/

/-- How far the text reaches to the closing delimiter that balances `depth + 1` opening ones, counted
from `n`. Delimiters are read from left to right without overlap, the longer one where both start;
`skip` characters belong to a delimiter already read. -/
def balancedFrom (opener closer : Text) : Nat → Nat → Nat → Text → Option Nat
  | _, _, _, [] => none
  | depth, skip + 1, n, _ :: s => balancedFrom opener closer depth skip (n + 1) s
  | depth, 0, n, c :: s =>
    match longestAt (c :: s) [opener, closer] with
    | none => balancedFrom opener closer depth 0 (n + 1) s
    | some d =>
      if d = opener then balancedFrom opener closer (depth + 1) (opener.length - 1) (n + 1) s
      else
        match depth with
        | 0 => some (n + closer.length)
        | depth + 1 => balancedFrom opener closer depth (closer.length - 1) (n + 1) s

/-- How much of the text after the opener belongs to the comment. A line comment always ends. -/
def CommentStyle.Ending.reach? : CommentStyle.Ending → Text → Option Nat
  | line, after => some (after.findIdx isLineEnd)
  | first closer, after => (Text.offset? closer after).map (· + closer.length)
  | balanced opener closer, after => balancedFrom opener closer 0 0 0 after

/-- Whether the end of the comment is found by counting. -/
def CommentStyle.Ending.isNested : CommentStyle.Ending → Bool
  | balanced _ _ => true
  | _ => false

/-! ## Scanning -/

/-- The code token of a text, if the text is not empty. -/
def codeToken (start : Nat) (text : Text) : List Token :=
  if text.isEmpty then [] else [{ kind := .code, start, text }]

namespace CommentStyle

/-- The tokens of the text `s` that starts at position `start`. -/
def scanFrom (style : CommentStyle) (start : Nat) (s : Text) : Scan :=
  match _h : nextDelimiter style.openers 0 s with
  | none => { tokens := codeToken start s, unclosed := none }
  | some (n, opener) =>
    let ending := style.endingOf opener
    let code := codeToken start (s.take n)
    let after := s.drop (n + opener.length)
    match ending.reach? after with
    | none =>
      { tokens := code, unclosed := some { opener, nested := ending.isNested, start := start + n } }
    | some reach =>
      let comment : Token :=
        { kind := .comment, start := start + n, text := opener ++ after.take reach }
      let rest := scanFrom style (start + n + opener.length + reach) (after.drop reach)
      { tokens := code ++ comment :: rest.tokens, unclosed := rest.unclosed }
termination_by s.length
decreasing_by
  obtain ⟨hmem, hne⟩ := nextDelimiter_mem _h
  have hopener := ne_nil_of_mem_openers hmem
  have := List.length_pos_iff.2 hopener
  have := List.length_pos_iff.2 (hne hopener)
  simp only [List.length_drop]
  omega

/-- The tokens of a text. -/
def scan (style : CommentStyle) (s : Text) : Scan :=
  style.scanFrom 0 s

end CommentStyle

end KeptRegions
