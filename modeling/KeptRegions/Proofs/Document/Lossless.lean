import KeptRegions.Proofs.Comment.Cutting
import KeptRegions.Proofs.Document.Layout
import KeptRegions.Proofs.Text.Lines

namespace KeptRegions

/-!
# Reading loses nothing

A text is cut three times on its way to a document: into tokens, with inverse reading into lines,
and into the markers and plain texts of the segments. No cut loses or repeats a character, so a
document has exactly the text that it was read from (`content_of_read`).
-/

/-! ## Pieces -/

namespace Piece

theorem flatMap_text_ofText (candidate : Bool) (start : Nat) (text : Text) :
    (ofText candidate start text).flatMap Piece.text = text := by
  unfold ofText
  split <;> simp_all

theorem flatMap_text_ofLines (start : Nat) (ls : List (Text × Text)) :
    (ofLines start ls).flatMap Piece.text = ls.flatMap Text.joinLine := by
  induction ls generalizing start with
  | nil => rfl
  | cons l ls ih => simp [ofLines, flatMap_text_ofText, Text.joinLine, ih]

/-- The pieces of a token are its text, whichever way it is read. -/
theorem flatMap_text_ofToken (inverse : Bool) (t : Token) :
    (ofToken inverse t).flatMap Piece.text = t.text := by
  unfold ofToken
  split
  · simp
  · simp
  · rw [flatMap_text_ofLines, Text.flatMap_splitLines]

end Piece

namespace RegionReader

variable {reader : RegionReader} {text : Text} {d : Document}

theorem pieces_cons {t : Token} {tokens : List Token} :
    reader.pieces (t :: tokens) = Piece.ofToken reader.inverse t ++ reader.pieces tokens :=
  List.flatMap_cons

theorem flatMap_text_pieces (reader : RegionReader) (tokens : List Token) :
    (reader.pieces tokens).flatMap Piece.text = tokens.flatMap Token.text := by
  induction tokens with
  | nil => rfl
  | cons t tokens ih =>
    rw [pieces_cons, List.flatMap_append, Piece.flatMap_text_ofToken, ih, List.flatMap_cons]

/-- The pieces of a text are the text up to where scanning stops. -/
theorem slices_reach (reader : RegionReader) (text : Text) :
    (reader.slices text).flatMap Slice.text <+: text ∧
      reader.style.StopsAt (text.drop ((reader.slices text).flatMap Slice.text).length)
        ((reader.slices text).flatMap Slice.text).length (reader.style.scan text).unclosed := by
  rcases CommentStyle.scanFrom_cuts reader.style 0 text with ⟨ls, rest, hscan⟩
  have htokens : (reader.style.scan text).tokens = Lexeme.place 0 ls := hscan.tokens
  -- neither the cut into pieces nor the one into tokens loses a character
  have hslices : (reader.slices text).flatMap Slice.text = Lexeme.textOf ls := by
    calc (reader.slices text).flatMap Slice.text
        = (reader.pieces (reader.style.scan text).tokens).flatMap Piece.text := List.flatMap_map ..
      _ = (reader.style.scan text).tokens.flatMap Token.text := flatMap_text_pieces ..
      _ = Lexeme.textOf ls := by rw [htokens, Lexeme.flatMap_text_place]
  have hrest : text.drop (Lexeme.textOf ls).length = rest := by
    rw [hscan.text, List.drop_left]
  have hstops := hscan.stops
  rw [Nat.zero_add] at hstops
  rw [hslices, hrest]
  exact ⟨⟨rest, hscan.text.symm⟩, hstops⟩

/-- If all comments end, the pieces of a text are the text. -/
theorem flatMap_text_slices (h : (reader.style.scan text).unclosed = none) :
    (reader.slices text).flatMap Slice.text = text := by
  rcases slices_reach reader text with ⟨hfront, hstops⟩
  rw [h] at hstops
  exact hfront.eq_of_length_le (List.drop_eq_nil_iff.1 hstops)

/-- The content of a document is the text that it was read from. -/
theorem content_of_read (h : reader.read text = .ok d) : d.content = text := by
  rcases read_eq_ok_iff.1 h with ⟨hclosed, hlayout⟩
  exact hlayout.content_eq.trans (flatMap_text_slices hclosed)

/-- Three kinds of line end and a comment in a comment, all inside of one region. -/
theorem content_of_read_mixed_lines :
    let text := "PROTECTED REGION ID(x) START\r\nb /* c /* d */ */\rPROTECTED REGION END\n".toList
    ∃ d, (slashes .nested true).read text = .ok d ∧ d.ids = ["x".toList] ∧ d.content = text := by
  intro text
  have hids : (do return (← (slashes .nested true).read text).ids) = .ok ["x".toList] := by
    decide +kernel
  rcases exists_eq_ok_of_bind hids with ⟨d, hread, hd⟩
  exact ⟨d, hread, Except.ok.inj hd, content_of_read hread⟩

end RegionReader

end KeptRegions
