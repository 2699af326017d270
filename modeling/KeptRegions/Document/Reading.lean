import KeptRegions.Comment.Token
import KeptRegions.Document.Basic
import KeptRegions.Marker.Rules

namespace KeptRegions

/-!
# Reading documents

A text is cut into pieces, some of which are candidates for markers. Candidates are the comments, or
with inverse reading the lines outside of comments; all other pieces are plain. Start and end markers
have to balance like brackets, and the region between two matching markers holds what lies between
them.
-/

/-! ## Pieces -/

/-- A part of a text, which is looked at as a marker if it is a candidate. -/
structure Piece where
  candidate : Bool
  start : Nat
  text : Text
deriving DecidableEq

namespace Piece

/-- The piece of a text, if the text is not empty. -/
def ofText (candidate : Bool) (start : Nat) (text : Text) : List Piece :=
  if text.isEmpty then [] else [{ candidate, start, text }]

/-- The pieces of lines: each line is a candidate, and each line end is plain. -/
def ofLines (start : Nat) : List (Text × Text) → List Piece
  | [] => []
  | (line, stop) :: rest =>
    ofText true start line ++ ofText false (start + line.length) stop
      ++ ofLines (start + line.length + stop.length) rest

/-- The pieces of a token. -/
def ofToken (inverse : Bool) (t : Token) : List Piece :=
  match inverse, t.kind with
  | false, kind => [{ candidate := kind = .comment, start := t.start, text := t.text }]
  | true, .comment => [{ candidate := false, start := t.start, text := t.text }]
  | true, .code => ofLines t.start (Text.splitLines t.text)

end Piece

/-! ## Building the segments -/

/-- A finished part of a scope. -/
inductive Part where
  | plain (text : Text)
  | region (fence : Fence) (body : Segments)
deriving DecidableEq

/-- A region whose end marker has not been met: its id, flag and start marker, the position of that
marker, and the parts of the enclosing scope in front of it, last first. -/
structure OpenRegion where
  id : Text
  enabled : Bool
  marker : Text
  start : Nat
  outer : List Part
deriving DecidableEq

/-- How far reading has come: the ids met so far, the parts of the innermost scope, last first, and
the open regions, innermost first. -/
structure Progress where
  seen : List Text
  parts : List Part
  opened : List OpenRegion
deriving DecidableEq

/-- Nothing read yet. -/
def Progress.start : Progress :=
  { seen := [], parts := [], opened := [] }

/-- A part in front of segments. Plain text joins the plain text next to it, and empty text is
nothing. -/
def Part.before : Part → Segments → Segments
  | plain text, rest => if text.isEmpty then rest else rest.joinPlain text
  | region fence body, rest => .region fence body rest

/-- The segments of parts that are given last first. -/
def assemble (parts : List Part) : Segments :=
  parts.foldl (fun rest part => part.before rest) .nil

/-- A reader of documents: how comments are delimited, how markers are read, and whether markers are
looked for outside of comments. -/
structure RegionReader where
  style : CommentStyle
  rules : MarkerRules
  inverse : Bool

namespace RegionReader

/-- Takes one piece of the text `text`. A candidate is asked first whether it starts a region and
then whether it ends one. -/
def step (reader : RegionReader) (text : Text) (p : Progress) (piece : Piece) :
    Except RegionFault Progress :=
  if piece.candidate && reader.rules.isStart piece.text then
    match reader.rules.idOf piece.text with
    | none | some [] => .error (.found (.missingId piece.text) piece.start text)
    | some id =>
      if id ∈ p.seen then .error (.found (.duplicateId id) piece.start text)
      else
        .ok
          { seen := id :: p.seen
            parts := []
            opened :=
              { id
                enabled := reader.rules.isEnabled piece.text
                marker := piece.text
                start := piece.start
                outer := p.parts } :: p.opened }
  else if piece.candidate && reader.rules.isEnd piece.text then
    match p.opened with
    | [] => .error (.found (.strayEnd piece.text) piece.start text)
    | o :: opened =>
      let fence : Fence :=
        { id := o.id, enabled := o.enabled, opening := o.marker, closing := piece.text }
      .ok { p with parts := .region fence (assemble p.parts) :: o.outer, opened }
  else .ok { p with parts := .plain piece.text :: p.parts }

/-- The pieces of the tokens of a text. -/
def pieces (reader : RegionReader) (tokens : List Token) : List Piece :=
  tokens.flatMap (Piece.ofToken reader.inverse)

/-- The document that a text is. Faults of markers are met in the order of the text and before a
comment that never ends; that a region was not closed is found last, for the innermost one. -/
def read (reader : RegionReader) (text : Text) : Except RegionFault Document := do
  let scan := reader.style.scan text
  let p ← (reader.pieces scan.tokens).foldlM (reader.step text) .start
  match scan.unclosed with
  | some c => .error (.found (.unclosedComment c.opener c.nested) c.start text)
  | none =>
    match p.opened with
    | o :: _ => .error (.found (.unclosedRegion o.id) o.start text)
    | [] => Document.of? (assemble p.parts)

end RegionReader

end KeptRegions
