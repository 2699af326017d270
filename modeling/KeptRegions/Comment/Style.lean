import KeptRegions.Text.Basic
import KeptRegions.Text.Lines
import KeptRegions.Text.Quoted

namespace KeptRegions

/-!
# Comment styles

What is known of a host language is how its comments are delimited: pairs that enclose a block
comment, marks that start a line comment, and whether block comments nest. Strings and escapes of
the host language are not known, so a delimiter inside a string counts as well.
-/

/-- Whether a block comment ends at the first closing delimiter or at the one that balances it. -/
inductive Nesting where
  | flat
  | nested
deriving DecidableEq

namespace Nesting

/-- The name of a nesting policy. -/
def name : Nesting → String
  | flat => "flat"
  | nested => "nested"

/-- The nesting policy of a name. -/
def ofName? (s : String) : Option Nesting :=
  [flat, nested].find? fun n => n.name == s

end Nesting

/-- The two delimiters of a block comment. -/
structure Block where
  opening : Text
  closing : Text
deriving DecidableEq

/-- Whether one of the two delimiters is empty. -/
def Block.isBlank (b : Block) : Bool :=
  b.opening.isEmpty || b.closing.isEmpty

/-- How comments are delimited. There is at least one delimiter, and none is empty. -/
structure CommentStyle where
  blocks : List Block
  lines : List Text
  nesting : Nesting
  delimited : blocks ≠ [] ∨ lines ≠ []
  blocks_full : ∀ b ∈ blocks, b.isBlank = false
  lines_full : ∀ p ∈ lines, p.isEmpty = false

/-! ## Making a style -/

/-- Why some delimiters are not a comment style. -/
inductive StyleFault where
  | unknownNesting (name : String)
  | noDelimiter
  | emptyDelimiter (block : Block)
  | emptyLineMark
deriving DecidableEq

/-- The message of a fault of a style. -/
def StyleFault.message : StyleFault → String
  | unknownNesting name => "Unknown nesting policy '" ++ name ++ "' (valid: flat, nested)"
  | noDelimiter => "At least one comment delimiter is required"
  | emptyDelimiter block =>
    "Empty block comment delimiter in (" ++ Text.quoted block.opening ++ ", "
      ++ Text.quoted block.closing ++ ")"
  | emptyLineMark => "Empty line comment prefix"

/-- The comment style of some delimiters and the name of a nesting policy. The name is looked at
first, then whether there is a delimiter at all, then the blocks in their order, then the lines. -/
def CommentStyle.of? (blocks : List Block) (lines : List Text) (nesting : String) :
    Except StyleFault CommentStyle :=
  match Nesting.ofName? nesting with
  | none => .error (.unknownNesting nesting)
  | some nesting =>
    if delimited : blocks ≠ [] ∨ lines ≠ [] then
      match hblocks : blocks.find? Block.isBlank with
      | some block => .error (.emptyDelimiter block)
      | none =>
        match hlines : lines.find? List.isEmpty with
        | some _ => .error .emptyLineMark
        | none =>
          .ok
            { blocks, lines, nesting, delimited
              blocks_full := by simpa using hblocks
              lines_full := by simpa using hlines }
    else .error .noDelimiter

namespace CommentStyle

/-! ## Openers and the ends of comments -/

/-- All delimiters that open a comment. -/
def openers (style : CommentStyle) : List Text :=
  style.blocks.map Block.opening ++ style.lines

theorem ne_nil_of_mem_openers {style : CommentStyle} {opener : Text}
    (h : opener ∈ style.openers) : opener ≠ [] := by
  rcases List.mem_append.1 h with h | h
  · obtain ⟨b, hb, rfl⟩ := List.mem_map.1 h
    have := style.blocks_full b hb
    intro hnil
    simp [Block.isBlank, hnil] at this
  · have := style.lines_full opener h
    intro hnil
    simp [hnil] at this

/-- The closing delimiter that was registered first for a block opener. -/
def closerOf? (style : CommentStyle) (opener : Text) : Option Text :=
  (style.blocks.find? fun b => b.opening == opener).map Block.closing

/-- How a comment comes to its end. -/
inductive Ending where
  /-- At the end of its line. -/
  | line
  /-- With the first occurrence of the closing delimiter. -/
  | first (closer : Text)
  /-- With the closing delimiter that balances the opening one. -/
  | balanced (opener closer : Text)
deriving DecidableEq

/-- How a comment with this opener ends. An opener that is both a block opener and a line mark opens
a block, and a block whose two delimiters are equal cannot nest. -/
def endingOf (style : CommentStyle) (opener : Text) : Ending :=
  match style.closerOf? opener with
  | none => .line
  | some closer =>
    if style.nesting = .flat ∨ opener = closer then .first closer else .balanced opener closer

end CommentStyle

end KeptRegions
