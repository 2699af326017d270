import KeptRegions.Text.Basic

namespace KeptRegions

/-!
# Lines and places

A line ends at a carriage return followed by a line feed, at a carriage return, or at a line feed;
the pair counts as one end. A place is a line and a column, both counted from one.
-/

/-- One of the two characters that end a line. -/
def isLineEnd (c : Char) : Bool :=
  c = '\n' || c = '\r'

namespace Text

/-- The offsets at which the second and the later lines of `s` start, where `s` itself starts at
offset `i`. A carriage return at the very end of `s` ends a line, whatever may follow it in a longer
text. -/
def lineStarts (i : Nat) : Text → List Nat
  | [] => []
  | '\r' :: '\n' :: s => (i + 2) :: lineStarts (i + 2) s
  | c :: s => if isLineEnd c then (i + 1) :: lineStarts (i + 1) s else lineStarts (i + 1) s

/-- The lines of a text, each with the line end that closes it; `line` holds what has been read of
the current line, last character first. Only the last line can be without an end, and then it is not
empty. -/
def splitLinesFrom (line : Text) : Text → List (Text × Text)
  | [] => if line.isEmpty then [] else [(line.reverse, [])]
  | '\r' :: '\n' :: s => (line.reverse, ['\r', '\n']) :: splitLinesFrom [] s
  | c :: s =>
    if isLineEnd c then (line.reverse, [c]) :: splitLinesFrom [] s else splitLinesFrom (c :: line) s

/-- The lines of a text, each with the line end that closes it. -/
def splitLines (s : Text) : List (Text × Text) :=
  splitLinesFrom [] s

end Text

/-! ## Places -/

/-- A line and a column of a text, both counted from one. -/
structure Place where
  line : Nat
  column : Int
deriving DecidableEq

namespace Place

/-- The place of a position of a text. Only line ends before the position count, and a pair that the
position divides counts by its first half. A position before the text lies on its first line and one
past the end on its last. -/
def of (text : Text) (position : Int) : Place :=
  let starts := Text.lineStarts 0 (text.take position.toNat)
  { line := starts.length + 1, column := position - (starts.getLast?.getD 0 : Nat) + 1 }

/-- The place of a position if both the position and the text are known. -/
def of? (text : Option Text) (position : Option Int) : Option Place :=
  match text, position with
  | some text, some position => some (of text position)
  | _, _ => none

/-- The wording of a message followed by the place it is about, if that is known. -/
def annotate (wording : String) : Option Place → String
  | none => wording
  | some place =>
    wording ++ " (line " ++ toString place.line ++ ", column " ++ toString place.column ++ ")"

end Place

end KeptRegions
