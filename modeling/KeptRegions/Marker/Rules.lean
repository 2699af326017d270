import KeptRegions.Text.Basic

namespace KeptRegions

/-!
# Marker rules

Marker rules decide which candidate texts start or end a region, and what a start marker says. Any
four functions will do; nothing relates their answers to one another.
-/

/-- How markers are recognised and read. Each function is given a whole candidate text: a comment
with its delimiters, or a line. -/
structure MarkerRules where
  /-- Whether the text starts a region. -/
  isStart : Text → Bool
  /-- Whether the text ends a region. -/
  isEnd : Text → Bool
  /-- The id that a start marker gives, if it gives one. -/
  idOf : Text → Option Text
  /-- Whether a start marker marks its region as enabled. -/
  isEnabled : Text → Bool

end KeptRegions
