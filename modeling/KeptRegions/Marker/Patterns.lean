import KeptRegions.Marker.Rules
import KeptRegions.Pattern.Match
import KeptRegions.Pattern.Reader

namespace KeptRegions

/-!
# Markers given by patterns

A pair of patterns describes the start and end markers. Each has to match the whole candidate text.
The start pattern has a group `id`. The region is flagged by a keyword that stands as a word of its
own after the id; what precedes the end of the id is not looked at, so no id can raise the flag.
-/

/-! ## Keywords -/

/-- Whether exactly one of two neighbouring characters belongs to a word. There is none before the
text and none after it. -/
def isWordBoundary (before after : Option Char) : Bool :=
  before.any isWord != after.any isWord

/-- Whether `keyword` occurs in `s` between two word boundaries, where `before` is the character in
front of `s`. -/
def occursAsWord (keyword : Text) (before : Option Char) (s : Text) : Bool :=
  (keyword.isPrefixOf s && isWordBoundary before s.head?
      && isWordBoundary (keyword.getLast?.or before) (s.drop keyword.length).head?)
    || match s with
      | [] => false
      | c :: rest => occursAsWord keyword (some c) rest

/-! ## Marker patterns -/

/-- The name of the group that holds the id. -/
def idGroup : Text :=
  "id".toList

/-- Two marker patterns with their written forms, the keyword, and what its presence means. -/
structure MarkerPatterns where
  startText : Text
  endText : Text
  keyword : Text
  enabledWhenPresent : Bool
  start : Pattern
  stop : Pattern
  read_start : Pattern.read startText = .ok start
  read_stop : Pattern.read endText = .ok stop
  has_id : idGroup ∈ start.names

/-- Why two texts are no marker patterns. -/
inductive MarkerFault where
  /-- A text does not write a pattern. -/
  | pattern (text : Text) (fault : PatternFault)
  /-- The start pattern has no group for the id. -/
  | noId (startText : Text)
deriving DecidableEq

/-- The message of a fault of marker patterns. -/
def MarkerFault.message : MarkerFault → String
  | pattern text fault => "Invalid oracle pattern: " ++ fault.message text
  | noId startText => "Start pattern " ++ Text.quoted startText ++ " has no (?P<id>...) group"

namespace MarkerPatterns

/-- The marker patterns of two written patterns. Both are read before the id group is looked for. -/
def of? (startText endText keyword : Text) (enabledWhenPresent : Bool) :
    Except MarkerFault MarkerPatterns :=
  match hs : Pattern.read startText, he : Pattern.read endText with
  | .error fault, _ => .error (.pattern startText fault)
  | .ok _, .error fault => .error (.pattern endText fault)
  | .ok start, .ok stop =>
    if h : start.names.contains idGroup then
      .ok
        { startText, endText, keyword, enabledWhenPresent, start, stop
          read_start := hs, read_stop := he, has_id := List.contains_iff_mem.mp h }
    else .error (.noId startText)

/-- A written pattern made tolerant of comment delimiters: any characters that belong to no word may
come before and after. -/
def amidDelimiters (body : Text) : Text :=
  "[^\\w]*?".toList ++ body ++ "[^\\w]*".toList

/-- The id that a match of the start pattern found, and the position where it ends. -/
def idSpan? (m : MarkerPatterns) (s : Text) : Option (Text × Nat) := do
  let found ← m.start.fullMatch? s
  let (lo, hi) ← found.span? idGroup
  return ((s.take hi).drop lo, hi)

/-- The rules that the patterns stand for. -/
def rules (m : MarkerPatterns) : MarkerRules where
  isStart s := (m.start.fullMatch? s).isSome
  isEnd s := (m.stop.fullMatch? s).isSome
  idOf s := do
    let (id, _) ← m.idSpan? s
    let id := Text.strip id
    if id.isEmpty then none else some id
  isEnabled s :=
    let tail := match m.idSpan? s with
      | some (_, stop) => s.drop stop
      | none => s
    occursAsWord m.keyword none tail == m.enabledWhenPresent

end MarkerPatterns

end KeptRegions
