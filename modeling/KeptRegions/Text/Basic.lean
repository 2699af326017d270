namespace KeptRegions

/-!
# Text

Everything that is read from a file is a list of code points. A position in a text is an index into
that list, and cutting a text is `take` and `drop`. Surrogates, the code points from D800 to DFFF, are no
characters and stand in no text: none comes of bytes that are decoded, and only for this reason every
text can be written to a file.
-/

/-- A text is its list of code points. -/
abbrev Text := List Char

namespace Text

/-- The text as a string, for messages and output. -/
def toStr (s : Text) : String :=
  String.ofList s

/-- The offset of the first occurrence of `part` in `s`, where `s` itself starts at offset `i`. -/
def offsetFrom (part : Text) (i : Nat) (s : Text) : Option Nat :=
  if part.isPrefixOf s then some i
  else match s with
    | [] => none
    | _ :: rest => offsetFrom part (i + 1) rest

/-- The offset of the first occurrence of `part` in `s`. -/
def offset? (part s : Text) : Option Nat :=
  offsetFrom part 0 s

end Text

/-! ## Shapes

Whether a text is a single character, or a given one and one more, is told by looking at the text.
Proofs about a match with such cases ask this of texts they know, where trying every character would
take too long.
-/

instance : (s : Text) → Decidable (∀ c, s = [c] → False)
  | [] => isTrue nofun
  | [c] => isFalse fun h => h c rfl
  | _ :: _ :: _ => isTrue nofun

instance (a : Char) : (s : Text) → Decidable (∀ c, s = [a, c] → False)
  | [] => isTrue nofun
  | [_] => isTrue nofun
  | [b, c] =>
    if hb : b = a then isFalse fun h => h c (hb ▸ rfl)
    else isTrue fun _ hs => hb (List.cons.inj hs).1
  | _ :: _ :: _ :: _ => isTrue nofun

/-! ## Columns of output -/

/-- The string padded on the right with spaces to at least `width` code points. -/
def padRight (width : Nat) (s : String) : String :=
  s ++ String.ofList (List.replicate (width - s.length) ' ')

end KeptRegions
