import KeptRegions.Pattern.Reader

namespace KeptRegions

/-!
# Readings side by side

What is read from a written pattern does not depend on positions, nor on a set that follows behind
what can be read alone. So two readings are compared here: one of a text that can be read alone, and
one of the same text with a set and more behind it. A step of the second carries on as the step of the
first does (`Pattern.Carries`).
-/

namespace Pattern

/-- A backslash with nothing after it. -/
def dangling : Text :=
  ['\\']

/-- An opening bracket as a sign. -/
def openingBracket : Text :=
  ['[']

/-- The text of the first of some signs. -/
def Sign.first? : List Sign → Option Text
  | [] => none
  | sign :: _ => some sign.text

theorem Sign.head?_map_text (left : List Sign) : (left.map Sign.text).head? = first? left := by
  cases left <;> rfl

theorem Sign.exists_first?_of_ne {left : List Sign} (hne : left ≠ []) :
    ∃ sign, first? left = some sign := by
  obtain ⟨sign, left, rfl⟩ := List.exists_cons_of_ne_nil hne
  exact ⟨sign.text, rfl⟩

section Steps

variable {α β : Type} {a : Read α} {f : α → Read β} {x : α} {y : β} {r r' : Reading}
  {cause : PatternFault.Cause} {c : Char} {i : Nat}

/-! ## What steps come to -/

theorem run_bind_eq_ok {r'' : Reading} :
    (a >>= f).run r = .ok (y, r'') ↔
      ∃ x r', a.run r = .ok (x, r') ∧ (f x).run r' = .ok (y, r'') := by
  rw [StateT.run_bind]
  constructor
  · intro h
    cases ha : a.run r with
    | error fault =>
      rw [ha] at h
      cases h
    | ok p =>
      rw [ha] at h
      exact ⟨p.1, p.2, rfl, h⟩
  · rintro ⟨x, r', ha, hf⟩
    rw [ha]
    exact hf

theorem run_map_eq_ok {k : α → β} :
    (k <$> a).run r = .ok (y, r') ↔ ∃ x, a.run r = .ok (x, r') ∧ k x = y := by
  rw [map_eq_pure_bind, run_bind_eq_ok]
  constructor
  · rintro ⟨x, r₁, hx, hpure⟩
    cases hpure
    exact ⟨x, hx, rfl⟩
  · rintro ⟨x, hx, rfl⟩
    exact ⟨x, r', hx, rfl⟩

theorem run_bind_of_ok (h : a.run r = .ok (x, r')) : (a >>= f).run r = (f x).run r' := by
  rw [StateT.run_bind, h]
  rfl

theorem run_get_bind {f : Reading → Read β} : (get >>= f).run r = (f r).run r :=
  rfl

theorem run_position (r : Reading) :
    Read.position.run r = .ok ((r.left.head?.map Sign.position).getD r.length, r) :=
  rfl

theorem run_peek {o : Option Text} (h : Sign.first? r.left = o) : Read.peek.run r = .ok (o, r) := by
  rw [← h, ← Sign.head?_map_text, List.head?_map]
  rfl

theorem run_checkNext (h : Sign.first? r.left ≠ some dangling) :
    Read.checkNext.run r = .ok ((), r) := by
  rw [Read.checkNext, run_bind_of_ok (run_peek rfl)]
  exact congrArg (StateT.run · r) (if_neg h)

theorem checkNext_eq_ok {u : Unit} (h : Read.checkNext.run r = .ok (u, r')) :
    r' = r ∧ Sign.first? r.left ≠ some dangling := by
  by_cases hready : Sign.first? r.left = some dangling
  · rw [Read.checkNext, run_bind_of_ok (run_peek hready)] at h
    cases h
  · rw [run_checkNext hready] at h
    cases h
    exact ⟨rfl, hready⟩

theorem run_take_cons (sign : Sign) (left : List Sign) (length : Nat) (groups : List (Option Text)) :
    Read.take.run { left := sign :: left, length, groups } =
      (Read.checkNext >>= fun _ => pure (some sign.text)).run { left, length, groups } :=
  rfl

theorem run_take {sign : Sign} {left : List Sign} (hleft : r.left = sign :: left)
    (h : Sign.first? left ≠ some dangling) :
    Read.take.run r = .ok (some sign.text, { r with left }) := by
  obtain ⟨left', length, groups⟩ := r
  obtain rfl : left' = sign :: left := hleft
  have hcheck := run_checkNext (r := { left, length, groups }) h
  rw [run_take_cons, run_bind_of_ok hcheck]
  rfl

theorem run_take_of_nil (hnil : r.left = []) : Read.take.run r = .ok (none, r) := by
  obtain ⟨left, length, groups⟩ := r
  obtain rfl : left = [] := hnil
  rfl

theorem take_eq_ok {o : Option Text} (h : Read.take.run r = .ok (o, r')) :
    (r.left = [] ∧ o = none ∧ r' = r) ∨
      ∃ sign left, r.left = sign :: left ∧ o = some sign.text ∧ r' = { r with left } ∧
        Sign.first? left ≠ some dangling := by
  obtain ⟨left, length, groups⟩ := r
  cases left with
  | nil =>
    cases h
    exact .inl ⟨rfl, rfl, rfl⟩
  | cons sign left =>
    right
    rw [run_take_cons] at h
    obtain ⟨u, r'', hcheck, hpure⟩ := run_bind_eq_ok.1 h
    obtain ⟨rfl, hready⟩ := checkNext_eq_ok hcheck
    cases hpure
    exact ⟨sign, left, rfl, rfl, rfl, hready⟩

theorem run_takeIf {sign : Sign} {left : List Sign} (hleft : r.left = sign :: left)
    (htext : sign.text = [c]) (h : Sign.first? left ≠ some dangling) :
    (Read.takeIf c).run r = .ok (true, { r with left }) := by
  have hfirst : Sign.first? r.left = some [c] := by
    rw [hleft, ← htext]
    rfl
  rw [Read.takeIf, run_bind_of_ok (run_peek hfirst), if_pos rfl, run_bind_of_ok (run_take hleft h)]
  rfl

theorem run_takeIf_of_ne (hne : Sign.first? r.left ≠ some [c]) :
    (Read.takeIf c).run r = .ok (false, r) := by
  rw [Read.takeIf, run_bind_of_ok (run_peek rfl), if_neg hne]
  rfl

theorem takeIf_eq_ok {taken : Bool} (h : (Read.takeIf c).run r = .ok (taken, r')) :
    (taken = true ∧ Sign.first? r.left = some [c]) ∨ (taken = false ∧ r' = r) := by
  by_cases hfirst : Sign.first? r.left = some [c]
  · rw [Read.takeIf, run_bind_of_ok (run_peek hfirst), if_pos rfl] at h
    obtain ⟨o, r₁, -, hpure⟩ := run_bind_eq_ok.1 h
    cases hpure
    exact .inl ⟨rfl, hfirst⟩
  · rw [run_takeIf_of_ne hfirst] at h
    cases h
    exact .inr ⟨rfl, rfl⟩

theorem ne_nil_of_first? {sign : Text} (h : Sign.first? r.left = some sign) : r.left ≠ [] := by
  intro hnil
  rw [hnil] at h
  cases h

theorem ne_nil_of_takeIf (h : (Read.takeIf c).run r = .ok (true, r')) : r.left ≠ [] := by
  rcases takeIf_eq_ok h with ⟨-, hfirst⟩ | ⟨hfalse, -⟩
  · exact ne_nil_of_first? hfirst
  · cases hfalse

theorem takeWhile_succ (p : Char → Bool) (n : Nat) :
    Read.takeWhile p (n + 1) = Read.peek >>= fun o =>
      match o with
      | some [c] =>
        if p c then do
          let _ ← Read.take
          return c :: (← Read.takeWhile p n)
        else return []
      | _ => return [] := by
  rfl

/-! ## Taking makes less -/

theorem length_take_le {o : Option Text} (h : Read.take.run r = .ok (o, r')) :
    r'.left.length ≤ r.left.length := by
  rcases take_eq_ok h with ⟨-, -, rfl⟩ | ⟨sign, left, hleft, -, rfl, -⟩
  · exact Nat.le_refl _
  · rw [hleft]
    exact Nat.le_succ _

theorem length_takeIf_le {taken : Bool} (h : (Read.takeIf c).run r = .ok (taken, r')) :
    r'.left.length ≤ r.left.length := by
  rw [Read.takeIf, run_bind_of_ok (run_peek rfl)] at h
  split at h
  · obtain ⟨o, r₁, htake, h⟩ := run_bind_eq_ok.1 h
    cases h
    exact length_take_le htake
  · cases h
    exact Nat.le_refl _

theorem length_takeWhile_le {p : Char → Bool} {n : Nat} {digits : Text}
    (h : (Read.takeWhile p n).run r = .ok (digits, r')) : r'.left.length ≤ r.left.length := by
  induction n generalizing digits r r' with
  | zero =>
    cases h
    exact Nat.le_refl _
  | succ n ih =>
    rw [takeWhile_succ, run_bind_of_ok (run_peek rfl)] at h
    split at h
    · split at h
      · obtain ⟨o, r₁, htake, h⟩ := run_bind_eq_ok.1 h
        obtain ⟨digits, r₂, hdigits, h⟩ := run_bind_eq_ok.1 h
        cases h
        exact Nat.le_trans (ih hdigits) (length_take_le htake)
      · cases h
        exact Nat.le_refl _
    · cases h
      exact Nat.le_refl _

/-! ## Steps that fail -/

/-- A step that never succeeds. -/
def Fails (a : Read α) : Prop :=
  ∀ r p, a.run r ≠ .ok p

theorem fails_fail : Fails (Read.fail cause i : Read α) :=
  nofun

theorem Fails.bind (h : Fails a) : Fails (a >>= f) := by
  intro r p hrun
  obtain ⟨x, r', ha, -⟩ := run_bind_eq_ok.1 hrun
  exact h r _ ha

theorem fails_bind (h : ∀ x, Fails (f x)) : Fails (a >>= f) := by
  intro r p hrun
  obtain ⟨x, r', -, hf⟩ := run_bind_eq_ok.1 hrun
  exact h x r' p hf

theorem Fails.map {k : α → β} (h : Fails a) : Fails (k <$> a) := by
  intro r p hrun
  obtain ⟨x, hx, -⟩ := run_map_eq_ok.1 hrun
  exact h r _ hx

theorem fails_ite {P : Prop} [Decidable P] {b : Read α} (ha : Fails a) (hb : Fails b) :
    Fails (if P then a else b) := by
  split
  · exact ha
  · exact hb

end Steps

/-! ## Side by side -/

/-- Two readings side by side. The first reads `body`; it has taken no dangling backslash from it and
does not stand before one. The second has the same signs left and behind them an opening bracket and
`more`. -/
structure Ahead (body more : List Text) (r s : Reading) : Prop where
  left : s.left.map Sign.text = r.left.map Sign.text ++ openingBracket :: more
  groups : s.groups = r.groups
  taken : ∃ taken, body = taken ++ r.left.map Sign.text ∧ dangling ∉ taken
  ready : Sign.first? r.left ≠ some dangling

/-- Whenever the first step succeeds at the first reading, the second step has the same result at the
second reading, and the readings stay side by side. -/
def Carries (body more : List Text) {α : Type} (a b : Read α) (r s : Reading) : Prop :=
  ∀ x r', a.run r = .ok (x, r') → ∃ s', b.run s = .ok (x, s') ∧ Ahead body more r' s'

section SideBySide

variable {body more : List Text} {r s : Reading}

namespace Ahead

theorem length_le (h : Ahead body more r s) : r.left.length ≤ s.left.length := by
  have hlen := congrArg List.length h.left
  rw [List.length_map, List.length_append, List.length_map] at hlen
  omega

theorem first?_of_nil (h : Ahead body more r s) (hnil : r.left = []) :
    Sign.first? s.left = some openingBracket := by
  rw [← Sign.head?_map_text, h.left, hnil]
  rfl

theorem first?_of_ne (h : Ahead body more r s) (hne : r.left ≠ []) :
    Sign.first? s.left = Sign.first? r.left := by
  obtain ⟨sign, left, hleft⟩ := List.exists_cons_of_ne_nil hne
  rw [← Sign.head?_map_text, h.left, hleft]
  rfl

theorem of_cons (h : Ahead body more r s) {sign : Sign} {left : List Sign}
    (hleft : r.left = sign :: left) (hready : Sign.first? left ≠ some dangling) :
    ∃ sign' left', s.left = sign' :: left' ∧ sign'.text = sign.text ∧
      Sign.first? left' ≠ some dangling ∧
      Ahead body more { r with left } { s with left := left' } := by
  have hs := h.left
  rw [hleft, List.map_cons, List.cons_append] at hs
  obtain ⟨sign', left', hleft', htext, hrest⟩ := List.map_eq_cons_iff.1 hs
  obtain ⟨taken, hbody, htaken⟩ := h.taken
  -- the sign taken is not dangling, or the first reading would stand before one
  have hsign : sign.text ≠ dangling := by
    intro hsign
    apply h.ready
    rw [hleft, ← hsign]
    rfl
  -- at the end of the first reading the second stands before the bracket
  have hready' : Sign.first? left' ≠ some dangling := by
    rw [← Sign.head?_map_text, hrest]
    cases left with
    | nil => exact fun h => absurd (Option.some.inj h) (by decide)
    | cons next left => exact hready
  refine ⟨sign', left', hleft', htext, hready', hrest, h.groups, ?_, hready⟩
  refine ⟨taken ++ [sign.text], ?_, ?_⟩
  · rw [hbody, hleft, List.map_cons, List.append_assoc, List.singleton_append]
  · rw [List.mem_append, List.mem_singleton]
    rintro (hmem | hmem)
    · exact htaken hmem
    · exact hsign hmem.symm

end Ahead

variable {α β : Type} {a b : Read α} {f g : α → Read β} {x : α} {cause : PatternFault.Cause}
  {i n n' : Nat}

theorem carries_pure (h : Ahead body more r s) : Carries body more (pure x) (pure x) r s := by
  intro x' r' hrun
  cases hrun
  exact ⟨s, rfl, h⟩

theorem Fails.carries (h : Fails a) : Carries body more a b r s := by
  intro x r' hrun
  exact absurd hrun (h r (x, r'))

theorem carries_fail : Carries body more (Read.fail cause i) b r s :=
  fails_fail.carries

theorem Carries.bind (h : Carries body more a b r s)
    (hf : ∀ x r' s', a.run r = .ok (x, r') → Ahead body more r' s' →
      Carries body more (f x) (g x) r' s') :
    Carries body more (a >>= f) (b >>= g) r s := by
  intro y r'' hrun
  obtain ⟨x, r', ha, hfx⟩ := run_bind_eq_ok.1 hrun
  obtain ⟨s', hb, hahead⟩ := h x r' ha
  obtain ⟨s'', hg, hahead'⟩ := hf x r' s' ha hahead y r'' hfx
  exact ⟨s'', run_bind_eq_ok.2 ⟨x, s', hb, hg⟩, hahead'⟩

theorem carries_ite {P : Prop} [Decidable P] {a' b' : Read α} (h : P → Carries body more a b r s)
    (h' : ¬P → Carries body more a' b' r s) :
    Carries body more (if P then a else a') (if P then b else b') r s := by
  split
  · next hP => exact h hP
  · next hP => exact h' hP

theorem carries_position_bind {f g : Nat → Read β} (h : ∀ i j, Carries body more (f i) (g j) r s) :
    Carries body more (Read.position >>= f) (Read.position >>= g) r s :=
  h _ _

theorem carries_get_bind {f g : Reading → Read β} (h : Carries body more (f r) (g s) r s) :
    Carries body more (get >>= f) (get >>= g) r s :=
  h

/-- Looking at the next sign: where the first reading is at its end, the second sees the bracket. -/
theorem carries_peek_bind {f g : Option Text → Read β} (h : Ahead body more r s)
    (hsome : ∀ sign, Sign.first? r.left = some sign →
      Carries body more (f (some sign)) (g (some sign)) r s)
    (hnone : r.left = [] → Carries body more (f none) (g (some openingBracket)) r s) :
    Carries body more (Read.peek >>= f) (Read.peek >>= g) r s := by
  by_cases hnil : r.left = []
  · intro y r' hrun
    rw [run_bind_of_ok (run_peek (congrArg Sign.first? hnil))] at hrun
    rw [run_bind_of_ok (run_peek (h.first?_of_nil hnil))]
    exact hnone hnil y r' hrun
  · intro y r' hrun
    obtain ⟨sign, hsign⟩ := Sign.exists_first?_of_ne hnil
    rw [run_bind_of_ok (run_peek hsign)] at hrun
    rw [run_bind_of_ok (run_peek ((h.first?_of_ne hnil).trans hsign))]
    exact hsome sign hsign y r' hrun

theorem carries_take (h : Ahead body more r s) (hne : r.left ≠ []) :
    Carries body more Read.take Read.take r s := by
  intro o r' hrun
  rcases take_eq_ok hrun with ⟨hnil, -⟩ | ⟨sign, left, hleft, rfl, rfl, hready⟩
  · exact absurd hnil hne
  · obtain ⟨sign', left', hleft', htext, hready', hahead⟩ := h.of_cons hleft hready
    exact ⟨_, by rw [run_take hleft' hready', htext], hahead⟩

/-- A step that takes a sign and fails if there is none. -/
theorem carries_take_bind {f g : Option Text → Read β} (h : Ahead body more r s)
    (hnone : Fails (f none))
    (hsome : ∀ sign r' s', Ahead body more r' s' →
      Carries body more (f (some sign)) (g (some sign)) r' s') :
    Carries body more (Read.take >>= f) (Read.take >>= g) r s := by
  by_cases hnil : r.left = []
  · intro y r' hrun
    rw [run_bind_of_ok (run_take_of_nil hnil)] at hrun
    exact absurd hrun (hnone r _)
  · apply (carries_take h hnil).bind
    intro o r' s' htake hahead
    rcases take_eq_ok htake with ⟨hnil', -⟩ | ⟨sign, left, -, rfl, -⟩
    · exact absurd hnil' hnil
    · exact hsome sign.text r' s' hahead

theorem carries_takeIf {c : Char} (hc : c ≠ '[') (h : Ahead body more r s) :
    Carries body more (Read.takeIf c) (Read.takeIf c) r s := by
  apply carries_peek_bind h
  · intro sign hsign
    apply carries_ite
    · intro _
      apply (carries_take h (ne_nil_of_first? hsign)).bind
      exact fun _ _ _ _ h' => carries_pure h'
    · exact fun _ => carries_pure h
  · intro _
    rw [if_neg (by simp), if_neg (by simpa [openingBracket] using hc.symm)]
    exact carries_pure h

/-- Single characters of a class are taken alike, be it as many as there are or up to one bound. -/
theorem carries_takeWhile {p : Char → Bool} (hp : p '[' = false)
    (hn : n = n' ∨ r.left.length ≤ n ∧ n ≤ n') (h : Ahead body more r s) :
    Carries body more (Read.takeWhile p n) (Read.takeWhile p n') r s := by
  induction n generalizing n' r s with
  | zero =>
    cases n' with
    | zero => exact carries_pure h
    | succ n' =>
      -- the bound of the first is used up because its signs are
      have hnil : r.left = [] := List.length_eq_zero_iff.1 (by omega)
      intro x r' hrun
      cases hrun
      refine ⟨s, ?_, h⟩
      rw [takeWhile_succ, run_bind_of_ok (run_peek (h.first?_of_nil hnil))]
      exact congrArg (StateT.run · s) (if_neg (by simp [hp]))
  | succ n ih =>
    obtain ⟨n', rfl⟩ : ∃ k, n' = k + 1 := ⟨n' - 1, by omega⟩
    rw [takeWhile_succ, takeWhile_succ]
    apply carries_peek_bind h
    · intro sign hsign
      have hne := ne_nil_of_first? hsign
      split
      · apply carries_ite
        · intro _
          apply (carries_take h hne).bind
          intro o r' s' htake h'
          -- a sign was taken, so the bounds go down with the signs
          have hlen : r'.left.length + 1 = r.left.length := by
            rcases take_eq_ok htake with ⟨hnil, -⟩ | ⟨sign, left, hleft, -, rfl, -⟩
            · exact absurd hnil hne
            · rw [hleft]
              rfl
          exact (ih (by omega) h').bind fun _ _ _ _ h'' => carries_pure h''
        · exact fun _ => carries_pure h
      · exact carries_pure h
    · intro _
      simp only [openingBracket, hp]
      exact carries_pure h

end SideBySide

end Pattern

end KeptRegions
