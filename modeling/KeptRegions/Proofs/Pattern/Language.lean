import KeptRegions.Pattern.Match
import Mathlib.Computability.Language

namespace KeptRegions

/-!
# The texts that patterns match

A pattern has a language, which says nothing of the order in which a match is searched. The search
finds a match with the whole text exactly if the text is in the language
(`Pattern.isSome_fullMatch?_iff`), and the spans that it notes are those of some way in which the
text is put together from the parts of the pattern (`Pattern.exists_reports_of_fullMatch?`).
-/

/-- Spans of named groups, the latest first. -/
abbrev Spans :=
  List (Text × Nat × Nat)

namespace Spot

/-- Where a search stands after it has passed the text `m` and has noted the spans `found`. -/
def advance (m : Text) (found : Spans) (s : Spot) : Spot :=
  { pos := s.pos + m.length, rest := s.rest.drop m.length, spans := found ++ s.spans }

variable {s : Spot} {m m₁ m₂ : Text} {found found₁ found₂ : Spans}

@[simp]
theorem pos_advance : (s.advance m found).pos = s.pos + m.length :=
  rfl

@[simp]
theorem advance_nil : s.advance [] [] = s := by
  simp [advance]

theorem advance_advance :
    (s.advance m₁ found₁).advance m₂ found₂ = s.advance (m₁ ++ m₂) (found₂ ++ found₁) := by
  simp [advance, Nat.add_assoc]

theorem append_isPrefix_rest :
    m₁ ++ m₂ <+: s.rest ↔ m₁ <+: s.rest ∧ m₂ <+: (s.advance m₁ found).rest := by
  constructor
  · intro h
    have hm₁ : m₁ <+: s.rest := (List.prefix_append m₁ m₂).trans h
    obtain ⟨after, hafter⟩ := h
    refine ⟨hm₁, after, ?_⟩
    rw [advance, ← hafter, List.append_assoc, List.drop_left]
  · rintro ⟨⟨after, hafter⟩, h⟩
    rw [advance, ← hafter, List.drop_left] at h
    rw [← hafter]
    exact (List.prefix_append_right_inj m₁).2 h

end Spot

namespace Pattern

/-! ## Languages -/

/-- How many rounds a repetition can have. The required ones are made even if the maximum is less. -/
def InBounds (min : Nat) (max : Option Nat) (n : Nat) : Prop :=
  min ≤ n ∧ (n = min ∨ ∀ k ∈ max, n ≤ k)

/-- The texts that a pattern matches. -/
def language : Pattern → Language Char
  | empty => 1
  | one set => {m | ∃ c, set.has c = true ∧ m = [c]}
  | seq p q => p.language * q.language
  | alt p q => p.language + q.language
  | named _ p => p.language
  | times p min max _ => {m | ∃ n, InBounds min max n ∧ m ∈ p.language ^ n}

/-- The spans of `n` rounds. -/
def RoundsReport (report : Nat → Text → Spans → Prop) : Nat → Nat → Text → Spans → Prop
  | 0, _, m, found => m = [] ∧ found = []
  | n + 1, i, m, found => ∃ m₁ m₂ found₁ found₂, m = m₁ ++ m₂ ∧ found = found₂ ++ found₁ ∧
      report i m₁ found₁ ∧ RoundsReport report n (i + m₁.length) m₂ found₂

/-- The text `m` is put together from the parts of the pattern, and where it starts at position `i`
the named ones have these spans. -/
def Reports : Pattern → Nat → Text → Spans → Prop
  | empty, _, m, found => m = [] ∧ found = []
  | one set, _, m, found => (∃ c, set.has c = true ∧ m = [c]) ∧ found = []
  | seq p q, i, m, found => ∃ m₁ m₂ found₁ found₂, m = m₁ ++ m₂ ∧ found = found₂ ++ found₁ ∧
      p.Reports i m₁ found₁ ∧ q.Reports (i + m₁.length) m₂ found₂
  | alt p q, i, m, found => p.Reports i m found ∨ q.Reports i m found
  | named name p, i, m, found =>
      ∃ inner, found = (name, i, i + m.length) :: inner ∧ p.Reports i m inner
  | times p min max _, i, m, found =>
      ∃ n, InBounds min max n ∧ RoundsReport p.Reports n i m found

variable {p q : Pattern} {body : Continuation → Continuation} {next : Continuation} {s t : Spot}
  {m : Text} {found : Spans} {min bound count n i : Nat} {max : Option Nat} {greedy : Bool}
  {last : Option Nat}

theorem RoundsReport.mem_pow {report : Nat → Text → Spans → Prop} {L : Language Char}
    (hreport : ∀ i m found, report i m found → m ∈ L) (h : RoundsReport report n i m found) :
    m ∈ L ^ n := by
  induction n generalizing i m found with
  | zero =>
    rw [h.1, pow_zero]
    exact Language.nil_mem_one
  | succ n ih =>
    obtain ⟨m₁, m₂, found₁, found₂, rfl, rfl, hfirst, hrest⟩ := h
    rw [pow_succ']
    exact Language.append_mem_mul (hreport _ _ _ hfirst) (ih hrest)

theorem Reports.mem_language (h : p.Reports i m found) : m ∈ p.language := by
  induction p generalizing i m found with
  | empty => exact h.1
  | one set => exact h.1
  | seq p q ihp ihq =>
    obtain ⟨m₁, m₂, found₁, found₂, rfl, rfl, hp, hq⟩ := h
    exact Language.append_mem_mul (ihp hp) (ihq hq)
  | alt p q ihp ihq => exact h.imp ihp ihq
  | named name p ih =>
    obtain ⟨inner, -, hp⟩ := h
    exact ih hp
  | times p min max greedy ih =>
    obtain ⟨n, hn, hrounds⟩ := h
    exact ⟨n, hn, hrounds.mem_pow fun _ _ _ => ih⟩

theorem exists_roundsReport {report : Nat → Text → Spans → Prop} {L : Language Char}
    (hreport : ∀ m ∈ L, ∀ i, ∃ found, report i m found) (h : m ∈ L ^ n) (i : Nat) :
    ∃ found, RoundsReport report n i m found := by
  induction n generalizing i m with
  | zero =>
    rw [pow_zero, Language.mem_one] at h
    exact ⟨[], h, rfl⟩
  | succ n ih =>
    rw [pow_succ'] at h
    obtain ⟨m₁, hm₁, m₂, hm₂, rfl⟩ := Language.mem_mul.1 h
    obtain ⟨found₁, hfirst⟩ := hreport m₁ hm₁ i
    obtain ⟨found₂, hrest⟩ := ih hm₂ (i + m₁.length)
    exact ⟨found₂ ++ found₁, m₁, m₂, found₁, found₂, rfl, rfl, hfirst, hrest⟩

theorem exists_reports_of_mem_language (h : m ∈ p.language) (i : Nat) :
    ∃ found, p.Reports i m found := by
  induction p generalizing i m with
  | empty => exact ⟨[], h, rfl⟩
  | one set => exact ⟨[], h, rfl⟩
  | seq p q ihp ihq =>
    obtain ⟨m₁, hm₁, m₂, hm₂, rfl⟩ := Language.mem_mul.1 h
    obtain ⟨found₁, hp⟩ := ihp hm₁ i
    obtain ⟨found₂, hq⟩ := ihq hm₂ (i + m₁.length)
    exact ⟨found₂ ++ found₁, m₁, m₂, found₁, found₂, rfl, rfl, hp, hq⟩
  | alt p q ihp ihq =>
    rcases h with h | h
    · obtain ⟨found, hp⟩ := ihp h i
      exact ⟨found, .inl hp⟩
    · obtain ⟨found, hq⟩ := ihq h i
      exact ⟨found, .inr hq⟩
  | named name p ih =>
    obtain ⟨found, hp⟩ := ih h i
    exact ⟨(name, i, i + m.length) :: found, found, rfl, hp⟩
  | times p min max greedy ih =>
    obtain ⟨n, hn, hm⟩ := h
    obtain ⟨found, hrounds⟩ := exists_roundsReport (fun m hm => ih hm) hm i
    exact ⟨found, n, hn, hrounds⟩

theorem mem_language_iff_reports (i : Nat) : m ∈ p.language ↔ ∃ found, p.Reports i m found :=
  ⟨fun h => exists_reports_of_mem_language h i, fun ⟨_, h⟩ => h.mem_language⟩

/-! ## Patterns without names -/

theorem RoundsReport.eq_nil {report : Nat → Text → Spans → Prop}
    (hreport : ∀ i m found, report i m found → found = []) (h : RoundsReport report n i m found) :
    found = [] := by
  induction n generalizing i m found with
  | zero => exact h.2
  | succ n ih =>
    obtain ⟨m₁, m₂, found₁, found₂, -, rfl, hfirst, hrest⟩ := h
    rw [hreport _ _ _ hfirst, ih hrest, List.append_nil]

theorem Reports.eq_nil (hp : p.names = []) (h : p.Reports i m found) : found = [] := by
  induction p generalizing i m found with
  | empty => exact h.2
  | one set => exact h.2
  | seq p q ihp ihq =>
    obtain ⟨hp, hq⟩ := List.append_eq_nil_iff.1 hp
    obtain ⟨m₁, m₂, found₁, found₂, -, rfl, hfirst, hrest⟩ := h
    rw [ihp hp hfirst, ihq hq hrest, List.append_nil]
  | alt p q ihp ihq =>
    obtain ⟨hp, hq⟩ := List.append_eq_nil_iff.1 hp
    exact h.elim (ihp hp) (ihq hq)
  | named name p ih => cases hp
  | times p min max greedy ih =>
    obtain ⟨n, -, hrounds⟩ := h
    exact hrounds.eq_nil fun _ _ _ => ih hp

/-- A pattern without names reports nothing but its language. -/
theorem reports_iff_of_nameless (hp : p.names = []) :
    p.Reports i m found ↔ m ∈ p.language ∧ found = [] := by
  constructor
  · exact fun h => ⟨h.mem_language, h.eq_nil hp⟩
  · rintro ⟨hm, rfl⟩
    obtain ⟨found, h⟩ := exists_reports_of_mem_language hm i
    rwa [h.eq_nil hp] at h

/-! ## The spans lie in the text -/

/-- The spans lie in the text of length `len` that starts at position `i`. -/
def SpansIn (i len : Nat) (found : Spans) : Prop :=
  ∀ span ∈ found, i ≤ span.2.1 ∧ span.2.1 ≤ span.2.2 ∧ span.2.2 ≤ i + len

theorem SpansIn.append {m₁ m₂ : Text} {found₁ found₂ : Spans}
    (h₁ : SpansIn i m₁.length found₁) (h₂ : SpansIn (i + m₁.length) m₂.length found₂) :
    SpansIn i (m₁ ++ m₂).length (found₂ ++ found₁) := by
  intro span hspan
  rw [List.length_append]
  rcases List.mem_append.1 hspan with hspan | hspan
  · have := h₂ span hspan
    omega
  · have := h₁ span hspan
    omega

theorem RoundsReport.spansIn {report : Nat → Text → Spans → Prop}
    (hreport : ∀ i m found, report i m found → SpansIn i m.length found)
    (h : RoundsReport report n i m found) : SpansIn i m.length found := by
  induction n generalizing i m found with
  | zero =>
    rw [h.2]
    exact nofun
  | succ n ih =>
    obtain ⟨m₁, m₂, found₁, found₂, rfl, rfl, hfirst, hrest⟩ := h
    exact (hreport _ _ _ hfirst).append (ih hrest)

theorem Reports.spansIn (h : p.Reports i m found) : SpansIn i m.length found := by
  induction p generalizing i m found with
  | empty =>
    rw [h.2]
    exact nofun
  | one set =>
    rw [h.2]
    exact nofun
  | seq p q ihp ihq =>
    obtain ⟨m₁, m₂, found₁, found₂, rfl, rfl, hp, hq⟩ := h
    exact (ihp hp).append (ihq hq)
  | alt p q ihp ihq => exact h.elim ihp ihq
  | named name p ih =>
    obtain ⟨inner, rfl, hp⟩ := h
    intro span hspan
    rcases List.mem_cons.1 hspan with rfl | hspan
    · exact ⟨Nat.le_refl _, Nat.le_add_right _ _, Nat.le_refl _⟩
    · exact ih hp span hspan
  | times p min max greedy ih =>
    obtain ⟨n, -, hrounds⟩ := h
    exact hrounds.spansIn fun _ _ _ => ih

/-! ## What the search finds -/

/-- What the search of a part finds is reported, and what remains is done from there. -/
def FindsOnly (body : Continuation → Continuation) (report : Nat → Text → Spans → Prop) : Prop :=
  ∀ next s t, body next s = some t → ∃ m found, m <+: s.rest ∧ report s.pos m found ∧
    next (s.advance m found) = some t

theorem eq_some_of_orElse {a b : Option Spot} (h : (a.orElse fun _ => b) = some t) :
    a = some t ∨ b = some t := by
  cases a with
  | none => exact .inr h
  | some u => exact .inl h

/-- A search that goes on after `count` rounds starts another round, or does what remains. -/
theorem roundsFrom_eq_some (h : roundsFrom body min max greedy next (bound + 1) count last s = some t) :
    (count < min ∨ ∀ k ∈ max, count < k) ∧
        (∃ last, body (roundsFrom body min max greedy next bound (count + 1) last) s = some t) ∨
      min ≤ count ∧ next s = some t := by
  rw [roundsFrom] at h
  split at h
  · next hcount => exact .inl ⟨.inl hcount, last, h⟩
  · next hcount =>
    have hmin : min ≤ count := Nat.le_of_not_lt hcount
    have hor : (if (max.all (count < ·) && last != some s.pos) = true then
        body (roundsFrom body min max greedy next bound (count + 1) (some s.pos)) s else none) = some t ∨
          next s = some t := by
      cases greedy with
      | true => exact eq_some_of_orElse h
      | false => exact (eq_some_of_orElse h).symm
    rcases hor with hor | hor
    · obtain ⟨hallowed, hround⟩ := Option.ite_none_right_eq_some.1 hor
      rw [Bool.and_eq_true] at hallowed
      exact .inl ⟨.inr (by simpa [Option.all_eq_true] using hallowed.1), some s.pos, hround⟩
    · exact .inr ⟨hmin, hor⟩

theorem exists_reports_of_roundsFrom {report : Nat → Text → Spans → Prop}
    (hbody : FindsOnly body report)
    (h : roundsFrom body min max greedy next bound count last s = some t) :
    ∃ n m found, (min ≤ count + n ∧ (n = 0 ∨ count + n ≤ min ∨ ∀ k ∈ max, count + n ≤ k)) ∧
      m <+: s.rest ∧ RoundsReport report n s.pos m found ∧ next (s.advance m found) = some t := by
  induction bound generalizing count last s with
  | zero => cases h
  | succ bound ih =>
    rcases roundsFrom_eq_some h with ⟨hallowed, last, hround⟩ | ⟨hmin, hnext⟩
    · obtain ⟨m₁, found₁, hm₁, hfirst, hrounds⟩ := hbody _ _ _ hround
      obtain ⟨n, m₂, found₂, hn, hm₂, hrest, hnext⟩ := ih hrounds
      refine ⟨n + 1, m₁ ++ m₂, found₂ ++ found₁, ?_, Spot.append_isPrefix_rest.2 ⟨hm₁, hm₂⟩, ?_, ?_⟩
      · refine ⟨by omega, .inr ?_⟩
        -- a maximum that allows one more round still allows it if no other follows
        rcases hn.2 with rfl | hle | hle
        · exact hallowed.imp id fun hallowed => hallowed
        · exact .inl (by omega)
        · exact .inr fun k hk => by have := hle k hk; omega
      · exact ⟨m₁, m₂, found₁, found₂, rfl, rfl, hfirst, hrest⟩
      · rw [← Spot.advance_advance]
        exact hnext
    · exact ⟨0, [], [], ⟨hmin, .inl rfl⟩, List.nil_prefix, ⟨rfl, rfl⟩, by rwa [Spot.advance_nil]⟩

theorem findsOnly_run (p : Pattern) : FindsOnly p.run p.Reports := by
  induction p with
  | empty =>
    intro next s t h
    exact ⟨[], [], List.nil_prefix, ⟨rfl, rfl⟩, by rwa [Spot.advance_nil]⟩
  | one set =>
    intro next s t h
    obtain ⟨pos, rest, spans⟩ := s
    cases rest with
    | nil => cases h
    | cons c rest =>
      obtain ⟨hc, hnext⟩ := Option.ite_none_right_eq_some.1 h
      exact ⟨[c], [], ⟨rest, rfl⟩, ⟨⟨c, hc, rfl⟩, rfl⟩, hnext⟩
  | seq p q ihp ihq =>
    intro next s t h
    obtain ⟨m₁, found₁, hm₁, hp, hrest⟩ := ihp _ _ _ h
    obtain ⟨m₂, found₂, hm₂, hq, hnext⟩ := ihq _ _ _ hrest
    refine ⟨m₁ ++ m₂, found₂ ++ found₁, Spot.append_isPrefix_rest.2 ⟨hm₁, hm₂⟩, ?_, ?_⟩
    · exact ⟨m₁, m₂, found₁, found₂, rfl, rfl, hp, hq⟩
    · rw [← Spot.advance_advance]
      exact hnext
  | alt p q ihp ihq =>
    intro next s t h
    rcases eq_some_of_orElse h with h | h
    · obtain ⟨m, found, hm, hp, hnext⟩ := ihp _ _ _ h
      exact ⟨m, found, hm, .inl hp, hnext⟩
    · obtain ⟨m, found, hm, hq, hnext⟩ := ihq _ _ _ h
      exact ⟨m, found, hm, .inr hq, hnext⟩
  | named name p ih =>
    intro next s t h
    obtain ⟨m, inner, hm, hp, hnext⟩ := ih _ _ _ h
    exact ⟨m, (name, s.pos, s.pos + m.length) :: inner, hm, ⟨inner, rfl, hp⟩, hnext⟩
  | times p min max greedy ih =>
    intro next s t h
    obtain ⟨n, m, found, hn, hm, hrounds, hnext⟩ := exists_reports_of_roundsFrom ih h
    refine ⟨m, found, hm, ⟨n, ?_, hrounds⟩, hnext⟩
    rw [Nat.zero_add] at hn
    refine ⟨hn.1, ?_⟩
    -- counted from no round, the bounds are those of the repetition
    rcases hn.2 with rfl | hle | hle
    · exact .inl (Nat.le_zero.1 hn.1).symm
    · exact .inl (Nat.le_antisymm hle hn.1)
    · exact .inr hle

/-- The spans that a match found are those of a way in which the whole text is put together. -/
theorem exists_reports_of_fullMatch? {text : Text} (h : p.fullMatch? text = some t) :
    p.Reports 0 text t.spans := by
  obtain ⟨m, found, ⟨after, rfl⟩, hreports, hend⟩ := findsOnly_run p _ _ _ h
  -- what remains after the pattern is to be at the end of the text
  obtain ⟨hafter, hend⟩ := Option.ite_none_right_eq_some.1 hend
  have hnil : after = [] := by simpa [Spot.advance, Spot.start] using hafter
  have hspans : t.spans = found := by
    rw [← Option.some.inj hend]
    exact List.append_nil _
  rw [hnil, List.append_nil, hspans]
  exact hreports

/-! ## What the search cannot miss -/

/-- The search of a part succeeds if what remains can be done after some text of the language, with
whatever spans. -/
def FindsAll (body : Continuation → Continuation) (L : Language Char) : Prop :=
  ∀ next s, ∀ m ∈ L, m <+: s.rest → (∀ found, (next (s.advance m found)).isSome) →
    (body next s).isSome

theorem isSome_orElse {a b : Option Spot} (h : a.isSome ∨ b.isSome) :
    (a.orElse fun _ => b).isSome := by
  cases a with
  | none => exact h.resolve_left (by simp)
  | some u => rfl

theorem isSome_roundsFrom_of_next (hmin : min ≤ count) (hbound : 0 < bound) (hnext : (next s).isSome) :
    (roundsFrom body min max greedy next bound count last s).isSome := by
  obtain ⟨bound, rfl⟩ := Nat.exists_eq_add_of_lt hbound
  rw [Nat.zero_add, roundsFrom, if_neg (Nat.not_lt.2 hmin)]
  cases greedy with
  | true => exact isSome_orElse (.inr hnext)
  | false => exact isSome_orElse (.inl hnext)

theorem isSome_roundsFrom_of_round (hallowed : ∀ k ∈ max, count < k) (hlast : last ≠ some s.pos)
    (hmin : min ≤ count)
    (hround : (body (roundsFrom body min max greedy next bound (count + 1) (some s.pos)) s).isSome) :
    (roundsFrom body min max greedy next (bound + 1) count last s).isSome := by
  have hcond : (max.all (count < ·) && last != some s.pos) = true := by
    rw [Bool.and_eq_true]
    exact ⟨by simpa [Option.all_eq_true] using hallowed, by simpa using hlast⟩
  rw [roundsFrom, if_neg (Nat.not_lt.2 hmin)]
  simp only [hcond, if_true]
  cases greedy with
  | true => exact isSome_orElse (.inl hround)
  | false => exact isSome_orElse (.inr hround)

/-- Optional rounds that each pass some text. -/
theorem isSome_roundsFrom_of_optional {L : Language Char} (hbody : FindsAll body L)
    {ms : List Text} (hms : ∀ m ∈ ms, m ∈ L ∧ m ≠ []) (hmin : min ≤ count)
    (hmax : ms = [] ∨ ∀ k ∈ max, count + ms.length ≤ k) (hbound : ms.length < bound)
    (hlast : ∀ pos ∈ last, pos < s.pos) (hrest : ms.flatten <+: s.rest)
    (hnext : ∀ found, (next (s.advance ms.flatten found)).isSome) :
    (roundsFrom body min max greedy next bound count last s).isSome := by
  -- each round moves the position on, so none is refused for starting where the last one did
  induction ms generalizing count last bound s with
  | nil =>
    have hhere := hnext []
    rw [List.flatten_nil, Spot.advance_nil] at hhere
    exact isSome_roundsFrom_of_next hmin hbound hhere
  | cons m ms ih =>
    rw [List.forall_mem_cons] at hms
    have hmax := hmax.resolve_left (List.cons_ne_nil m ms)
    rw [List.length_cons] at hmax hbound
    obtain ⟨bound, rfl⟩ : ∃ b, bound = b + 1 := ⟨bound - 1, by omega⟩
    rw [List.flatten_cons] at hrest hnext
    apply isSome_roundsFrom_of_round
    · intro k hk
      have := hmax k hk
      omega
    · intro h
      exact Nat.lt_irrefl _ (hlast _ h)
    · exact hmin
    · apply hbody _ _ m hms.1.1 ((List.prefix_append ..).trans hrest)
      intro found
      have hpos : 0 < m.length := List.length_pos_iff.2 hms.1.2
      apply ih hms.2 (Nat.le_succ_of_le hmin)
      · right
        intro k hk
        have := hmax k hk
        omega
      · omega
      · intro pos hlast
        cases hlast
        rw [Spot.pos_advance]
        omega
      · exact (Spot.append_isPrefix_rest.1 hrest).2
      · intro found'
        rw [Spot.advance_advance]
        exact hnext _

/-- The required rounds, which may pass nothing, and optional ones after them. -/
theorem isSome_roundsFrom {L : Language Char} (hbody : FindsAll body L) {ms ms' : List Text}
    (hms : ∀ m ∈ ms, m ∈ L) (hms' : ∀ m ∈ ms', m ∈ L ∧ m ≠ []) (hmin : count + ms.length = min)
    (hmax : ms' = [] ∨ ∀ k ∈ max, min + ms'.length ≤ k) (hbound : ms.length + ms'.length < bound)
    (hrest : ms.flatten ++ ms'.flatten <+: s.rest)
    (hnext : ∀ found, (next (s.advance (ms.flatten ++ ms'.flatten) found)).isSome) :
    (roundsFrom body min max greedy next bound count none s).isSome := by
  induction ms generalizing count bound s with
  | nil =>
    obtain rfl : count = min := hmin
    rw [List.length_nil, Nat.zero_add] at hbound
    exact isSome_roundsFrom_of_optional hbody hms' (Nat.le_refl _) hmax hbound nofun hrest hnext
  | cons m ms ih =>
    rw [List.forall_mem_cons] at hms
    rw [List.length_cons] at hmin hbound
    obtain ⟨bound, rfl⟩ : ∃ b, bound = b + 1 := ⟨bound - 1, by omega⟩
    rw [List.flatten_cons, List.append_assoc] at hrest hnext
    -- a required round is made wherever it starts, so it may pass nothing
    rw [roundsFrom, if_pos (by omega)]
    apply hbody _ _ m hms.1 ((List.prefix_append ..).trans hrest)
    intro found
    apply ih hms.2
    · omega
    · omega
    · exact (Spot.append_isPrefix_rest.1 hrest).2
    · intro found'
      rw [Spot.advance_advance]
      exact hnext _

/-- A text of several rounds is one of the first `k` and of the others that pass some text. -/
theorem flatten_take_append_filter (S : List (List Char)) (k : Nat) :
    S.flatten = (S.take k).flatten ++ ((S.drop k).filter (!·.isEmpty)).flatten := by
  rw [List.flatten_filter_not_isEmpty, ← List.flatten_append, List.take_append_drop]

theorem length_le_length_flatten {ms : List Text} (h : ∀ m ∈ ms, m ≠ []) :
    ms.length ≤ ms.flatten.length := by
  induction ms with
  | nil => exact Nat.le_refl _
  | cons m ms ih =>
    rw [List.forall_mem_cons] at h
    have hm : 0 < m.length := List.length_pos_iff.2 h.1
    have hms := ih h.2
    rw [List.length_cons, List.flatten_cons, List.length_append]
    omega

theorem findsAll_rounds {L : Language Char} (hbody : FindsAll body L) :
    FindsAll (rounds body min max greedy) {m | ∃ n, InBounds min max n ∧ m ∈ L ^ n} := by
  rintro next s m ⟨n, hn, hm⟩ hrest hnext
  obtain ⟨S, rfl, rfl, hS⟩ := Language.mem_pow.1 hm
  -- optional rounds that pass nothing are left out: the search would refuse them
  have hms' : ∀ m ∈ (S.drop min).filter (!·.isEmpty), m ∈ L ∧ m ≠ [] := by
    intro m hm
    obtain ⟨hmem, hne⟩ := List.mem_filter.1 hm
    exact ⟨hS m (List.mem_of_mem_drop hmem), by simpa using hne⟩
  have hlen : ((S.drop min).filter (!·.isEmpty)).length ≤ S.length - min := by
    rw [← List.length_drop]
    exact List.length_filter_le ..
  have hsplit := flatten_take_append_filter S min
  rw [hsplit] at hrest hnext
  apply isSome_roundsFrom hbody (fun m hm => hS m (List.mem_of_mem_take hm)) hms'
  · rw [List.length_take_of_le hn.1, Nat.zero_add]
  · rcases hn.2 with h | h
    · left
      rw [← List.length_eq_zero_iff]
      omega
    · right
      intro k hk
      have := h k hk
      have := hn.1
      omega
  · have hshort := (length_le_length_flatten fun m hm => (hms' m hm).2)
    have hrest := hrest.length_le
    rw [List.length_append] at hrest
    rw [List.length_take_of_le hn.1]
    omega
  · exact hrest
  · exact hnext

theorem findsAll_run (p : Pattern) : FindsAll p.run p.language := by
  induction p with
  | empty =>
    rintro next s m rfl - hnext
    have hhere := hnext []
    rwa [Spot.advance_nil] at hhere
  | one set =>
    rintro next s m ⟨c, hc, rfl⟩ ⟨rest, hrest⟩ hnext
    have hhere := hnext []
    obtain ⟨pos, rest', spans⟩ := s
    obtain rfl : c :: rest = rest' := hrest
    have hrun : (one set).run next { pos, rest := c :: rest, spans } =
        if set.has c then next { pos := pos + 1, rest, spans } else none := rfl
    rw [hrun, if_pos hc]
    exact hhere
  | seq p q ihp ihq =>
    intro next s m hm hrest hnext
    obtain ⟨m₁, hm₁, m₂, hm₂, rfl⟩ := Language.mem_mul.1 hm
    apply ihp _ _ m₁ hm₁ ((List.prefix_append ..).trans hrest)
    intro found₁
    apply ihq _ _ m₂ hm₂ (Spot.append_isPrefix_rest.1 hrest).2
    intro found₂
    rw [Spot.advance_advance]
    exact hnext _
  | alt p q ihp ihq =>
    intro next s m hm hrest hnext
    apply isSome_orElse
    rcases hm with hm | hm
    · exact .inl (ihp _ _ m hm hrest hnext)
    · exact .inr (ihq _ _ m hm hrest hnext)
  | named name p ih =>
    intro next s m hm hrest hnext
    apply ih _ _ m hm hrest
    intro found
    exact hnext ((name, s.pos, s.pos + m.length) :: found)
  | times p min max greedy ih => exact findsAll_rounds ih

/-- The search finds a match with the whole text exactly if the language of the pattern has it. -/
theorem isSome_fullMatch?_iff {text : Text} :
    (p.fullMatch? text).isSome ↔ text ∈ p.language := by
  constructor
  · intro h
    obtain ⟨t, ht⟩ := Option.isSome_iff_exists.1 h
    exact (exists_reports_of_fullMatch? ht).mem_language
  · intro h
    apply findsAll_run p _ _ text h (List.prefix_refl _)
    intro found
    have hend : ((Spot.start text).advance text found).rest = [] := List.drop_length
    rw [hend]
    rfl

end Pattern

end KeptRegions
