import KeptRegions.Text.Basic
import KeptRegions.Text.Blank
import KeptRegions.Text.Digit
import KeptRegions.Text.Word

namespace KeptRegions

/-!
# Patterns

A pattern describes a set of texts: single characters, sequence, choice, repetition, and groups with
a name whose span a match reports.
-/

/-- The classes of characters that have a shorthand. -/
inductive CharKind where
  | word
  | blank
  | digit
deriving DecidableEq

/-- Whether the character is of the kind. -/
def CharKind.has : CharKind → Char → Bool
  | word => isWord
  | blank => isBlank
  | digit => isDecimalDigit

/-- One member of a set of characters. -/
inductive CharItem where
  /-- The code points from `lo` to `hi`. -/
  | range (lo hi : Nat)
  /-- The characters of a kind, or with `negated` those that are not of it. -/
  | kind (kind : CharKind) (negated : Bool)
deriving DecidableEq

/-- Whether the member has the character. -/
def CharItem.has : CharItem → Char → Bool
  | range lo hi, c => lo ≤ c.toNat && c.toNat ≤ hi
  | kind k negated, c => k.has c != negated

/-- A set of characters: those that some item has, or with `negated` those that none has. -/
structure CharSet where
  negated : Bool
  items : List CharItem
deriving DecidableEq

namespace CharSet

/-- Whether the character is in the set. -/
def has (set : CharSet) (c : Char) : Bool :=
  set.items.any (·.has c) != set.negated

/-- The set of one code point. -/
def single (n : Nat) : CharSet :=
  { negated := false, items := [.range n n] }

/-- The set of all characters. -/
def all : CharSet :=
  { negated := true, items := [] }

end CharSet

/-- A pattern over texts. -/
inductive Pattern where
  /-- The empty text. -/
  | empty
  /-- One character of a set. -/
  | one (set : CharSet)
  /-- A text of `p` and then a text of `q`. -/
  | seq (p q : Pattern)
  /-- A text of `p` or else a text of `q`. -/
  | alt (p q : Pattern)
  /-- A text of `p`, reported under the name. -/
  | named (name : Text) (p : Pattern)
  /-- From `min` to `max` texts of `p`, as many as possible if `greedy` and else as few. -/
  | times (p : Pattern) (min : Nat) (max : Option Nat) (greedy : Bool)
deriving DecidableEq

/-- The names of the groups of a pattern. -/
def Pattern.names : Pattern → List Text
  | empty => []
  | one _ => []
  | seq p q => p.names ++ q.names
  | alt p q => p.names ++ q.names
  | named name p => name :: p.names
  | times p _ _ _ => p.names

end KeptRegions
