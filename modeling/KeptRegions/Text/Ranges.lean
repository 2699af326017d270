namespace KeptRegions

/-!
# Ranges of code points

A character class of Unicode is given as an increasing list of ranges of code points.
-/

/-- Ranges of code points with both ends included, in increasing order. -/
abbrev CodeRanges := List (Nat × Nat)

/-- Whether the code point `n` lies in one of the ranges. The ranges increase, so the search ends
at the first range that starts above `n`. -/
def CodeRanges.hasCode (n : Nat) : CodeRanges → Bool
  | [] => false
  | (lo, hi) :: rest => if n < lo then false else if n ≤ hi then true else hasCode n rest

/-- Whether the character lies in one of the ranges. -/
def CodeRanges.has (ranges : CodeRanges) (c : Char) : Bool :=
  ranges.hasCode c.toNat

end KeptRegions
