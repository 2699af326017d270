import KeptRegions.Pattern.Basic

namespace KeptRegions

/-!
# Matching

A match is searched from left to right with backtracking: of a choice the left side is tried first,
a greedy repetition tries another round before it stops and a lazy one after. The first complete
match in that order is the one that counts, and it fixes the spans of the named groups.
-/

/-- Where a search stands: the position, the text from there on, and the spans of the groups that
were passed, the latest first. -/
structure Spot where
  pos : Nat
  rest : Text
  spans : List (Text × Nat × Nat)
deriving DecidableEq

namespace Spot

/-- The start of a text. -/
def start (s : Text) : Spot :=
  { pos := 0, rest := s, spans := [] }

/-- Notes that the group `name` spans from `since` to the current position. -/
def record (name : Text) (since : Nat) (s : Spot) : Spot :=
  { s with spans := (name, since, s.pos) :: s.spans }

/-- The latest span of the group `name`. -/
def span? (s : Spot) (name : Text) : Option (Nat × Nat) :=
  s.spans.lookup name

end Spot

/-- What remains to be done after a part of a pattern has matched. -/
abbrev Continuation :=
  Spot → Option Spot

/-- The rounds of a repetition after the first `count`. A round that is not required is started only
where the previous such round, begun at `last`, has moved on, so that the search ends. The first
number bounds the rounds; `rounds` says how many are ever needed. -/
def roundsFrom (body : Continuation → Continuation) (min : Nat) (max : Option Nat) (greedy : Bool)
    (next : Continuation) : Nat → Nat → Option Nat → Continuation
  | 0, _, _, _ => none
  | bound + 1, count, last, s =>
    if count < min then
      body (roundsFrom body min max greedy next bound (count + 1) last) s
    else
      let another : Unit → Option Spot := fun _ =>
        if max.all (count < ·) && last != some s.pos then
          body (roundsFrom body min max greedy next bound (count + 1) (some s.pos)) s
        else none
      if greedy then (another ()).orElse fun _ => next s else (next s).orElse another

/-- A repetition. Beside the required rounds at most one round starts at each position of the rest. -/
def rounds (body : Continuation → Continuation) (min : Nat) (max : Option Nat) (greedy : Bool)
    (next : Continuation) (s : Spot) : Option Spot :=
  roundsFrom body min max greedy next (min + s.rest.length + 2) 0 none s

namespace Pattern

/-- The first way, in the order of the search, to match the pattern and then do what remains. -/
def run : Pattern → Continuation → Continuation
  | empty, next, s => next s
  | one set, next, s =>
    match s.rest with
    | [] => none
    | c :: rest =>
      if set.has c then next { pos := s.pos + 1, rest, spans := s.spans } else none
  | seq p q, next, s => p.run (q.run next) s
  | alt p q, next, s => (p.run next s).orElse fun _ => q.run next s
  | named name p, next, s => p.run (fun t => next (t.record name s.pos)) s
  | times p min max greedy, next, s => rounds p.run min max greedy next s

/-- The first match of the pattern with the whole text. -/
def fullMatch? (p : Pattern) (s : Text) : Option Spot :=
  p.run (fun t => if t.rest.isEmpty then some t else none) (Spot.start s)

end Pattern

end KeptRegions
