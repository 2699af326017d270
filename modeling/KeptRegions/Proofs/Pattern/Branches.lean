import KeptRegions.Pattern.Reader
import KeptRegions.Proofs.Pattern.Language

namespace KeptRegions

/-!
# Branches

A written pattern is a choice between branches, which are sequences with bars between them. Reading
it is reading its branches (`Pattern.read_eq_choice`), so it matches what one of them matches
(`Pattern.mem_language_choice`).
-/

namespace Pattern

variable {p : Pattern} {ps : List Pattern} {m : Text}

/-! ## Languages of choices and sequences -/

/-- The choice between a first branch and others. -/
def choice (p : Pattern) : List Pattern → Pattern
  | [] => p
  | q :: qs => .alt p (choice q qs)

theorem mem_language_choice : m ∈ (choice p ps).language ↔ ∃ q ∈ p :: ps, m ∈ q.language := by
  induction ps generalizing p with
  | nil => rw [choice, List.exists_mem_cons_iff, or_iff_left (by simp)]
  | cons q qs ih => rw [choice, language, Language.mem_add, ih, List.exists_mem_cons_iff (a := p)]

/-- An item in front of what follows it in a sequence. -/
def Item.inFront (p : Pattern) (item : Item) : Pattern :=
  if p = .empty then item.pattern else .seq item.pattern p

theorem sequence_eq_foldl (items : List Item) : sequence items = items.foldl Item.inFront .empty :=
  rfl

theorem Item.language_inFront (p : Pattern) (item : Item) :
    (inFront p item).language = item.pattern.language * p.language := by
  rw [inFront]
  split
  · next hp => rw [hp, Pattern.language, mul_one]
  · rfl

theorem language_foldl_inFront (items : List Item) (p : Pattern) :
    (items.foldl Item.inFront p).language = (sequence items).language * p.language := by
  rw [sequence_eq_foldl]
  induction items generalizing p with
  | nil => rw [List.foldl_nil, List.foldl_nil, language, one_mul]
  | cons item items ih =>
    have hcons : ∀ p, ((item :: items).foldl Item.inFront p).language =
        (items.foldl Item.inFront .empty).language * (item.pattern.language * p.language) := by
      intro p
      rw [List.foldl_cons, ih, Item.language_inFront]
    rw [hcons, hcons, language, mul_one, mul_assoc]

/-- The items are given last first: those read before the others match first. -/
theorem language_sequence_append (items base : List Item) :
    (sequence (items ++ base)).language = (sequence base).language * (sequence items).language := by
  rw [sequence_eq_foldl, List.foldl_append, language_foldl_inFront]
  rfl

theorem language_sequence_cons (item : Item) (items : List Item) :
    (sequence (item :: items)).language = (sequence items).language * item.pattern.language :=
  language_sequence_append [item] items

/-! ## Reading branches -/

/-- The branches of a choice, of which there is a first. -/
structure Branches where
  first : Pattern
  others : List Pattern
deriving DecidableEq

namespace Branches

/-- All the branches. -/
def toList (branches : Branches) : List Pattern :=
  branches.first :: branches.others

/-- The choice between the branches. -/
def pattern (branches : Branches) : Pattern :=
  choice branches.first branches.others

end Branches

/-- Reads the branches of a choice. -/
def readBranches : Nat → Read Branches
  | 0 => Read.fail .unexpectedEnd 0
  | bound + 1 => do
    let first ← readSequence bound []
    if ← Read.takeIf '|' then return { first, others := (← readBranches bound).toList }
    else return { first, others := [] }

/-- Reads the branches of a whole written pattern. -/
def readAllBranches : Read Branches := do
  Read.checkNext
  let branches ← readBranches (2 * (← get).left.length + 2)
  if (← Read.peek).isSome then Read.fail .unopenedGroup (← Read.position)
  return branches

/-- The branches of the pattern that a text writes. -/
def branches (s : Text) : Except PatternFault Branches :=
  (readAllBranches.run { left := signs 0 s, length := s.length, groups := [] }).map Prod.fst

theorem readChoice_eq (n : Nat) : readChoice n = Branches.pattern <$> readBranches n := by
  induction n with
  | zero => rfl
  | succ n ih =>
    rw [readChoice, readBranches, map_bind]
    refine congrArg (readSequence n [] >>= ·) (funext fun first => ?_)
    rw [map_bind]
    refine congrArg (Read.takeIf '|' >>= ·) (funext fun bar => ?_)
    cases bar with
    | false => rfl
    | true =>
      rw [if_pos rfl, if_pos rfl, ih, map_bind, bind_map_left]
      rfl

theorem readAll_eq : readAll = Branches.pattern <$> readAllBranches := by
  rw [readAll, readAllBranches]
  simp only [readChoice_eq, map_bind, bind_map_left]
  refine congrArg (Read.checkNext >>= ·) (funext fun _ => ?_)
  refine congrArg (get >>= ·) (funext fun r => ?_)
  refine congrArg (readBranches (2 * r.left.length + 2) >>= ·) (funext fun branches => ?_)
  refine congrArg (Read.peek >>= ·) (funext fun next => ?_)
  split
  · rw [map_bind]
    rfl
  · rfl

/-- Reading a pattern is reading its branches and choosing between them. -/
theorem read_eq_choice (s : Text) : read s = (branches s).map Branches.pattern := by
  rw [read, branches, readAll_eq, StateT.run_map]
  cases readAllBranches.run { left := signs 0 s, length := s.length, groups := [] } <;> rfl

end Pattern

end KeptRegions
