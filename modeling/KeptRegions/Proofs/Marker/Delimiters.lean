import KeptRegions.Marker.Patterns
import KeptRegions.Proofs.Pattern.Branches
import KeptRegions.Proofs.Pattern.Parts
import KeptRegions.Proofs.Pattern.Spelling

namespace KeptRegions

/-!
# Patterns amid delimiters

A body is made tolerant of delimiters by putting the written form of a run before it and another one
behind it. What can be read alone can be read so too, but the runs become parts of the first and of
the last branch of the body (`Pattern.read_amidDelimiters`). So only a body that is a single branch has
the delimiters on both sides of each of its matches (`MarkerPatterns.fullMatch?_amidDelimiters`).
-/

namespace Pattern

variable {r r' s : Reading} {items base : List Item} {left : List Sign} {length n i j k l : Nat}
  {groups : List (Option Text)} {m : Text} {greedy : Bool}

/-! ## Reading a run of delimiters -/

/-- A run of delimiters as an item of a sequence. -/
def delimitersItem (greedy : Bool) : Item :=
  { pattern := delimiters greedy, repeated := true }

/-- The written form of the run before a body. -/
def lead : Text :=
  ['[', '^', '\\', 'w', ']', '*', '?']

/-- The written form of the run after a body. -/
def trail : Text :=
  ['[', '^', '\\', 'w', ']', '*']

theorem amidDelimiters_eq (body : Text) :
    MarkerPatterns.amidDelimiters body = lead ++ (body ++ trail) := by
  rw [← List.append_assoc]
  rfl

theorem run_readSet_word (hready : Sign.first? left ≠ some dangling) (start : Nat) (hn : 2 ≤ n) :
    (readSet start [] n).run { r with left := ⟨k, ['\\', 'w']⟩ :: ⟨l, [']']⟩ :: left } =
      .ok ([.kind .word false], { r with left }) := by
  obtain ⟨n, rfl⟩ : ∃ i, n = i + 2 := ⟨n - 2, by omega⟩
  have hword := run_take (r := { r with left := ⟨k, ['\\', 'w']⟩ :: ⟨l, [']']⟩ :: left }) rfl
    (by simp [dangling, Sign.first?])
  have hclose := run_take (r := { r with left := ⟨l, [']']⟩ :: left }) rfl hready
  have hhyphen := run_takeIf_of_ne (c := '-') (r := { r with left := ⟨l, [']']⟩ :: left })
    (by simp [Sign.first?])
  have hsign : ∀ start, (readSetSign start ['\\', 'w']).run { r with left := ⟨l, [']']⟩ :: left } =
      .ok (.kind .word false, { r with left := ⟨l, [']']⟩ :: left }) := fun _ => rfl
  rw [readSet, run_bind_of_ok (run_position _), run_bind_of_ok hword]
  dsimp only
  rw [if_neg (by decide), run_bind_of_ok (hsign _), run_bind_of_ok hhyphen, if_neg (by decide), readSet,
    run_bind_of_ok (run_position _), run_bind_of_ok hclose]
  rfl

theorem run_readSequence_nonWord (hready : Sign.first? left ≠ some dangling) (items : List Item) :
    (readSequence (n + 1) items).run
        { r with left := ⟨i, ['[']⟩ :: ⟨j, ['^']⟩ :: ⟨k, ['\\', 'w']⟩ :: ⟨l, [']']⟩ :: left } =
      (readSequence n ({ pattern := .one nonWord, repeated := false } :: items)).run { r with left } := by
  have htake := run_take
    (r := { r with left := ⟨i, ['[']⟩ :: ⟨j, ['^']⟩ :: ⟨k, ['\\', 'w']⟩ :: ⟨l, [']']⟩ :: left })
    rfl (by simp [dangling, Sign.first?])
  have hcaret := run_takeIf (c := '^')
    (r := { r with left := ⟨j, ['^']⟩ :: ⟨k, ['\\', 'w']⟩ :: ⟨l, [']']⟩ :: left })
    rfl rfl (show _ by simp [dangling, Sign.first?])
  have hsign : Sign.first? (⟨i, ['[']⟩ :: ⟨j, ['^']⟩ :: ⟨k, ['\\', 'w']⟩ :: ⟨l, [']']⟩ :: left) =
    some ['['] := rfl
  -- behind the bracket come the caret, the one item of the set and the closing bracket
  apply run_readSequence_of_part hsign (by decide) (run_position _) htake
  rw [readPart, run_bind_of_ok hcaret, run_get_bind,
    run_bind_of_ok (run_readSet_word hready _ (by simp))]
  rfl

theorem run_repeatItem_lazy (hready : Sign.first? left ≠ some dangling) (start : Nat) (p : Pattern)
    (bounds : Bounds) :
    (repeatItem start bounds { pattern := p, repeated := false }).run
        { r with left := ⟨i, ['?']⟩ :: left } =
      .ok ({ pattern := .times p bounds.min bounds.max false, repeated := true }, { r with left }) := by
  have hlazy := run_takeIf (r := { r with left := ⟨i, ['?']⟩ :: left }) rfl rfl hready
  rw [repeatItem, if_neg (by simp), run_bind_of_ok hlazy, run_bind_of_ok (run_peek rfl),
    if_neg (by simp)]
  rfl

theorem run_repeatItem_greedy (hnil : r.left = []) (start : Nat) (p : Pattern) (bounds : Bounds) :
    (repeatItem start bounds { pattern := p, repeated := false }).run r =
      .ok ({ pattern := .times p bounds.min bounds.max true, repeated := true }, r) := by
  have hlazy := run_takeIf_of_ne (c := '?') (r := r) (by simp [hnil, Sign.first?])
  rw [repeatItem, if_neg (by simp), run_bind_of_ok hlazy,
    run_bind_of_ok (run_peek (congrArg Sign.first? hnil)), if_neg (by simp [Sign.first?])]
  rfl

theorem run_readSequence_star {p : Pattern} {item : Item} (hready : Sign.first? left ≠ some dangling)
    (hrepeat : ∀ start, (repeatItem start { min := 0, max := none }
      { pattern := p, repeated := false }).run { r with left } = .ok (item, r')) (items : List Item) :
    (readSequence (n + 1) ({ pattern := p, repeated := false } :: items)).run
        { r with left := ⟨i, ['*']⟩ :: left } =
      (readSequence n (item :: items)).run r' := by
  have htake := run_take (r := { r with left := ⟨i, ['*']⟩ :: left }) rfl hready
  have hsign : Sign.first? (⟨i, ['*']⟩ :: left) = some ['*'] := rfl
  apply run_readSequence_of_part hsign (by decide) (run_position _) htake
  have hbounds : (readRepetition '*').run { r with left } =
      .ok (some { min := 0, max := none }, { r with left }) := rfl
  rw [readPart.eq_5 _ _ _ _ (by decide) (by decide) (by decide), if_neg (by decide),
    if_pos (by decide), run_bind_of_ok hbounds]
  dsimp only
  -- the star is about the item before it, which is the one read last
  rw [repeatLast_cons, run_bind_of_ok (hrepeat _)]
  rfl

/-- The run before the body is taken up before the body is read. -/
theorem run_readSequence_lead (hready : Sign.first? left ≠ some dangling) (items : List Item) :
    (readSequence (n + 2) items).run { r with left := signs 0 lead ++ left } =
      (readSequence n (delimitersItem false :: items)).run { r with left } := by
  have hstar : Sign.first? (⟨6, ['?']⟩ :: left) ≠ some dangling := by simp [dangling, Sign.first?]
  calc
    _ = (readSequence (n + 1) ({ pattern := .one nonWord, repeated := false } :: items)).run
          { r with left := ⟨5, ['*']⟩ :: ⟨6, ['?']⟩ :: left } :=
        run_readSequence_nonWord (by simp [dangling, Sign.first?]) items
    _ = _ := run_readSequence_star hstar (fun start => run_repeatItem_lazy hready start _ _) items

/-- The signs of the run after the body. -/
def trailSigns : List Text :=
  [['^'], ['\\', 'w'], [']'], ['*']]

/-- The run after the body ends the sequence that it follows. -/
theorem run_readSequence_trail (hleft : r.left.map Sign.text = openingBracket :: trailSigns)
    (items : List Item) :
    (readSequence (n + 3) items).run r =
      .ok (sequence (delimitersItem true :: items), { r with left := [] }) := by
  obtain ⟨left, length, groups⟩ := r
  simp only [openingBracket, trailSigns, List.map_eq_cons_iff, List.map_eq_nil_iff] at hleft
  obtain ⟨⟨i, _⟩, _, rfl, rfl, ⟨j, _⟩, _, rfl, rfl, ⟨k, _⟩, _, rfl, rfl, ⟨l, _⟩, _, rfl, rfl,
    ⟨h, _⟩, _, rfl, rfl, rfl⟩ := hleft
  have hend : Sign.first? ([] : List Sign) ≠ some dangling := (Option.some_ne_none _).symm
  calc
    _ = (readSequence (n + 2) ({ pattern := .one nonWord, repeated := false } :: items)).run
          { left := [⟨h, ['*']⟩], length, groups } :=
        run_readSequence_nonWord (r := ⟨[], length, groups⟩) (by simp [dangling, Sign.first?]) items
    _ = (readSequence (n + 1) (delimitersItem true :: items)).run { left := [], length, groups } :=
        run_readSequence_star (r := ⟨[], length, groups⟩) hend
          (fun start => run_repeatItem_greedy rfl start _ _) items
    _ = _ := run_readSequence_of_ends (by simp [Sign.first?]) n _

/-! ## Branches amid delimiters -/

/-- The texts of branches of which the first has some texts before it and the last some behind it. -/
def amid (lead trail : Language Char) (p : Pattern) : List Pattern → Language Char
  | [] => lead * p.language * trail
  | q :: qs => lead * p.language + amid 1 trail q qs

theorem mem_amid {lead trail : Language Char} {p : Pattern} {ps : List Pattern} :
    m ∈ amid lead trail p ps ↔ ∃ before q after, p :: ps = before ++ q :: after ∧
      m ∈ (if before = [] then lead else 1) * q.language * (if after = [] then trail else 1) := by
  induction ps generalizing lead p with
  | nil =>
    rw [amid]
    constructor
    · intro h
      exact ⟨[], p, [], rfl, h⟩
    · rintro ⟨before, q, after, hsplit, h⟩
      rcases List.cons_eq_append_iff.1 hsplit with ⟨rfl, hq⟩ | ⟨before, rfl, hnil⟩
      · obtain ⟨rfl, rfl⟩ := List.cons.inj hq
        exact h
      · exact absurd hnil.symm (List.append_ne_nil_of_right_ne_nil _ (List.cons_ne_nil _ _))
  | cons q qs ih =>
    -- the first branch uses up what comes before, the others share what comes behind
    rw [amid, Language.mem_add, ih]
    constructor
    · rintro (h | ⟨before, b, after, hsplit, h⟩)
      · refine ⟨[], p, q :: qs, rfl, ?_⟩
        rw [if_pos rfl, if_neg (List.cons_ne_nil _ _), mul_one]
        exact h
      · refine ⟨p :: before, b, after, by rw [hsplit, List.cons_append], ?_⟩
        rw [if_neg (List.cons_ne_nil _ _)]
        rwa [ite_self] at h
    · rintro ⟨before, b, after, hsplit, h⟩
      rcases List.cons_eq_append_iff.1 hsplit with ⟨rfl, hb⟩ | ⟨before, rfl, hrest⟩
      · obtain ⟨rfl, rfl⟩ := List.cons.inj hb
        left
        rwa [if_pos rfl, if_neg (List.cons_ne_nil _ _), mul_one] at h
      · right
        refine ⟨before, b, after, hrest, ?_⟩
        rw [if_neg (List.cons_ne_nil _ _)] at h
        rwa [ite_self]

/-- What is read of a choice whose first sequence has been begun. -/
def readChoiceFrom (n n' : Nat) (base : List Item) : Read Pattern := do
  let first ← readSequence n base
  if ← Read.takeIf '|' then return .alt first (← readChoice n') else return first

theorem readChoice_succ (n : Nat) : readChoice (n + 1) = readChoiceFrom n n [] := by
  rw [readChoice, readChoiceFrom]

theorem run_readChoiceFrom_lead (hready : Sign.first? left ≠ some dangling) (n n' : Nat) :
    (readChoiceFrom (n + 2) n' []).run { r with left := signs 0 lead ++ left } =
      (readChoiceFrom n n' [delimitersItem false]).run { r with left } := by
  rw [readChoiceFrom, readChoiceFrom, StateT.run_bind, StateT.run_bind, run_readSequence_lead hready]

/-- Where the body is read up to its end, the reading with the run behind it takes that run too. -/
theorem run_readChoiceFrom {body : List Text} {branches : Branches} {n n₁ n₂ : Nat} (base : List Item)
    (hn₁ : n + 1 ≤ n₁) (hn₂ : n + 1 ≤ n₂) (h : Ahead body trailSigns r s)
    (hrun : (readBranches n).run r = .ok (branches, r')) (hend : r'.left = []) :
    dangling ∉ body ∧ ∃ p s', (readChoiceFrom n₁ n₂ base).run s = .ok (p, s') ∧ s'.left = [] ∧
      p.language = amid (sequence base).language (delimiters true).language
        branches.first branches.others := by
  induction n generalizing n₁ n₂ base r s branches with
  | zero => cases hrun
  | succ n ih =>
    rw [readBranches] at hrun
    obtain ⟨first, r₁, hfirst, hrun⟩ := run_bind_eq_ok.1 hrun
    obtain ⟨bar, r₂, hbar, hrun⟩ := run_bind_eq_ok.1 hrun
    obtain ⟨items, s₁, k, hk, rfl, hstop, h₁, hgo⟩ :=
      (carries_choice_and_sequence body trailSigns n).2 n₁ (by omega) [] base r s first r₁ h hfirst
    rw [List.nil_append] at hgo
    rw [readChoiceFrom]
    cases bar with
    | false =>
      cases hrun
      -- no bar was there, so the sequence ended with the body
      obtain rfl : r' = r₁ := ((takeIf_eq_ok hbar).resolve_left (by simp)).2
      obtain ⟨taken, hbody, htaken⟩ := h₁.taken
      rw [hend, List.map_nil, List.append_nil] at hbody
      obtain ⟨k, rfl⟩ : ∃ j, k = j + 3 := ⟨k - 3, by omega⟩
      have hleft := h₁.left
      rw [hend, List.map_nil, List.nil_append] at hleft
      rw [run_readSequence_trail hleft] at hgo
      refine ⟨hbody ▸ htaken, sequence (delimitersItem true :: (items ++ base)),
        { s₁ with left := [] }, ?_, rfl, ?_⟩
      · rw [run_bind_of_ok hgo, run_bind_of_ok (run_takeIf_of_ne (by simp [Sign.first?]))]
        rfl
      · rw [language_sequence_cons, language_sequence_append]
        rfl
    | true =>
      obtain ⟨others, r₃, hothers, hpure⟩ := run_bind_eq_ok.1 hrun
      cases hpure
      -- the bar belongs to the body: both sequences end before it, and the run is still to come
      have hne₁ := ne_nil_of_takeIf hbar
      obtain ⟨k, rfl⟩ : ∃ j, k = j + 1 := ⟨k - 1, by omega⟩
      rw [← h₁.first?_of_ne hne₁] at hstop
      rw [run_readSequence_of_ends hstop] at hgo
      obtain ⟨s₂, hbar', h₂⟩ := carries_takeIf (by decide) h₁ true r₂ hbar
      obtain ⟨n₂, rfl⟩ : ∃ j, n₂ = j + 1 := ⟨n₂ - 1, by omega⟩
      obtain ⟨hbody, p, s₃, hp, hend', hlang⟩ :=
        ih [] (show n + 1 ≤ n₂ by omega) (show n + 1 ≤ n₂ by omega) h₂ hothers
      refine ⟨hbody, .alt (sequence (items ++ base)) p, s₃, ?_, hend', ?_⟩
      · rw [run_bind_of_ok hgo, run_bind_of_ok hbar', if_pos rfl]
        exact run_bind_eq_ok.2 ⟨p, s₃, hp, rfl⟩
      · rw [language, hlang, language_sequence_append]
        rfl

/-! ## The signs of a text amid delimiters -/

theorem texts_signs (i j : Nat) (s : Text) :
    (signs i s).map Sign.text = (signs j s).map Sign.text := by
  fun_induction signs i s generalizing j with
  | case1 => rfl
  | case2 i c s ih => simp only [signs, List.map_cons, ih (j + 2)]
  | case3 i c s hescape ih =>
    rw [signs.eq_3 _ _ _ hescape, List.map_cons, List.map_cons, ih (j + 1)]

/-- The signs of two texts stay what they are if the first does not end in a dangling backslash. -/
theorem texts_signs_append {i : Nat} {s : Text} (h : dangling ∉ (signs i s).map Sign.text) (j : Nat)
    (t : Text) :
    (signs i (s ++ t)).map Sign.text = (signs i s).map Sign.text ++ (signs j t).map Sign.text := by
  fun_induction signs i s with
  | case1 i => exact texts_signs i j t
  | case2 i c s ih =>
    rw [List.map_cons, List.mem_cons, not_or] at h
    simp only [List.cons_append, signs, List.map_cons, ih h.2]
  | case3 i c s hescape ih =>
    rw [List.map_cons, List.mem_cons, not_or] at h
    have hc : c ≠ '\\' := by
      rintro rfl
      exact h.1 rfl
    have hescape' : ∀ d u, c = '\\' → s ++ t = d :: u → False := fun _ _ hc' => absurd hc' hc
    rw [List.cons_append, signs.eq_3 _ _ _ hescape', List.map_cons, List.map_cons, List.cons_append,
      ih h.2]

theorem first?_signs_lead (left : List Sign) :
    Sign.first? (signs 0 lead ++ left) ≠ some dangling := by
  have hfirst : Sign.first? (signs 0 lead ++ left) = some openingBracket := rfl
  rw [hfirst]
  decide

theorem signs_lead (t : Text) :
    signs 0 (lead ++ t) = signs 0 lead ++ signs 7 t := by
  rfl

/-! ## A body amid delimiters -/

theorem readAllBranches_eq_ok {bs : Branches} (h : readAllBranches.run r = .ok (bs, r')) :
    Sign.first? r.left ≠ some dangling ∧ r'.left = [] ∧
      (readBranches (2 * r.left.length + 2)).run r = .ok (bs, r') := by
  rw [readAllBranches] at h
  obtain ⟨u, r₁, hcheck, hrest⟩ := run_bind_eq_ok.1 h
  obtain ⟨rfl, hready⟩ := checkNext_eq_ok hcheck
  rw [run_get_bind] at hrest
  obtain ⟨bs', r₂, hbs, hend⟩ := run_bind_eq_ok.1 hrest
  by_cases hnil : r₂.left = []
  · rw [run_bind_of_ok (run_peek (congrArg Sign.first? hnil))] at hend
    cases hend
    exact ⟨hready, hnil, hbs⟩
  · obtain ⟨sign, hsign⟩ := Sign.exists_first?_of_ne hnil
    rw [run_bind_of_ok (run_peek hsign)] at hend
    cases hend

theorem run_readAll_of_readChoice {p : Pattern} (hready : Sign.first? r.left ≠ some dangling)
    (h : (readChoice (2 * r.left.length + 2)).run r = .ok (p, r')) (hend : r'.left = []) :
    readAll.run r = .ok (p, r') := by
  rw [readAll, run_bind_of_ok (run_checkNext hready), run_get_bind, run_bind_of_ok h,
    run_bind_of_ok (run_peek (congrArg Sign.first? hend))]
  rfl

theorem run_of_branches {body : Text} {bs : Branches} (h : branches body = .ok bs) :
    ∃ r', readAllBranches.run { left := signs 0 body, length := body.length, groups := [] } =
      .ok (bs, r') := by
  rw [branches] at h
  cases hrun : readAllBranches.run { left := signs 0 body, length := body.length, groups := [] } with
  | error fault =>
    rw [hrun] at h
    cases h
  | ok x =>
    rw [hrun] at h
    cases h
    exact ⟨x.2, rfl⟩

theorem texts_signs_trail : (signs 0 trail).map Sign.text = openingBracket :: trailSigns := by
  rfl

/-- A reading of some signs that starts with all of them still to be taken. -/
theorem ahead_of_left (left left' : List Sign) (length length' : Nat)
    (hready : Sign.first? left ≠ some dangling)
    (hleft : left'.map Sign.text = left.map Sign.text ++ openingBracket :: trailSigns) :
    Ahead (left.map Sign.text) trailSigns { left, length, groups := [] }
      { left := left', length := length', groups := [] } where
  left := hleft
  groups := rfl
  taken := ⟨[], rfl, List.not_mem_nil⟩
  ready := hready

/-- A body that is read by itself does not end in a dangling backslash. -/
theorem not_mem_signs_of_readAllBranches {body : Text} {bs : Branches}
    (h : readAllBranches.run { left := signs 0 body, length := body.length, groups := [] } =
      .ok (bs, r')) : dangling ∉ (signs 0 body).map Sign.text := by
  obtain ⟨hready, hend, hbranches⟩ := readAllBranches_eq_ok h
  have hahead := ahead_of_left (signs 0 body) (signs 0 body ++ signs 0 trail) body.length 0 hready
    (by rw [List.map_append, texts_signs_trail])
  exact (run_readChoiceFrom [] (Nat.le_refl _) (Nat.le_refl _) hahead hbranches hend).1

/-- The branches of a body, read with delimiters around them. -/
theorem read_amidDelimiters {body : Text} {bs : Branches} (h : branches body = .ok bs) :
    ∃ q, read (MarkerPatterns.amidDelimiters body) = .ok q ∧
      q.language = amid (delimiters false).language (delimiters true).language
        bs.first bs.others := by
  obtain ⟨r', hrun⟩ := run_of_branches h
  obtain ⟨hready, hend, hbranches⟩ := readAllBranches_eq_ok hrun
  have hbody := not_mem_signs_of_readAllBranches hrun
  generalize hlength : (MarkerPatterns.amidDelimiters body).length = length
  -- the body leaves the bracket behind it alone, so its signs are followed by those of the run
  have hleft : (signs 7 (body ++ trail)).map Sign.text =
      (signs 0 body).map Sign.text ++ openingBracket :: trailSigns := by
    rw [← texts_signs_trail, ← texts_signs_append hbody 0 trail]
    exact texts_signs 7 0 _
  have hahead := ahead_of_left (signs 0 body) _ body.length length hready hleft
  have hsigns :
      signs 0 (MarkerPatterns.amidDelimiters body) = signs 0 lead ++ signs 7 (body ++ trail) := by
    rw [amidDelimiters_eq, signs_lead]
  -- six signs are before those of the body, and five behind them
  have hcount : (signs 0 lead ++ signs 7 (body ++ trail)).length = (signs 0 body).length + 11 := by
    have hright := congrArg List.length hahead.left
    rw [List.length_map, List.length_append, List.length_map] at hright
    rw [List.length_append, hright]
    exact Nat.add_comm 6 _
  have hready' : Sign.first? (signs 7 (body ++ trail)) ≠ some dangling := by
    by_cases hnil : signs 0 body = []
    · rw [hahead.first?_of_nil hnil]
      decide
    · rw [hahead.first?_of_ne hnil]
      exact hready
  -- there are more rounds than the body takes when it is read alone
  have hrounds : 2 * (signs 0 body).length + 2 + 1 ≤ 2 * (signs 0 body).length + 21 := by omega
  have hrounds' : 2 * (signs 0 body).length + 2 + 1 ≤ 2 * (signs 0 body).length + 23 := by omega
  obtain ⟨-, q, s', hq, hend', hlang⟩ :=
    run_readChoiceFrom [delimitersItem false] hrounds hrounds' hahead hbranches hend
  have hbound : 2 * ((signs 0 body).length + 11) + 2 = 2 * (signs 0 body).length + 23 + 1 := by omega
  have hchoice : (readChoice (2 * (signs 0 lead ++ signs 7 (body ++ trail)).length + 2)).run
      { left := signs 0 lead ++ signs 7 (body ++ trail), length, groups := [] } = .ok (q, s') := by
    rw [hcount, hbound, readChoice_succ, ← hq]
    exact run_readChoiceFrom_lead (r := ⟨[], length, []⟩) hready' _ _
  have hall := run_readAll_of_readChoice
    (r := { left := signs 0 lead ++ signs 7 (body ++ trail), length, groups := [] })
    (first?_signs_lead _) hchoice hend'
  refine ⟨q, ?_, ?_⟩
  · rw [read, hlength, hsigns, hall]
    rfl
  · rw [hlang, language_sequence_cons]
    exact congrArg (amid · _ _ _) (one_mul _)

/-! ## What is matched amid delimiters -/

/-- A match of the pattern with delimiters before and behind it. -/
def MatchesAmid (p : Pattern) (s : Text) : Prop :=
  ∃ l m r, s = l ++ m ++ r ∧ Wordless l ∧ (p.fullMatch? m).isSome ∧ Wordless r

/-- A match of some branch, which has delimiters before it only if it is the first branch and
delimiters behind it only if it is the last. -/
def Branches.MatchesAmid (branches : Branches) (s : Text) : Prop :=
  ∃ before b after l m r, branches.toList = before ++ b :: after ∧ s = l ++ m ++ r ∧
    Wordless l ∧ (b.fullMatch? m).isSome ∧ Wordless r ∧
    (before ≠ [] → l = []) ∧ (after ≠ [] → r = [])

theorem mem_ite_delimiters {P : Prop} [Decidable P] :
    m ∈ (if P then (delimiters greedy).language else 1) ↔ Wordless m ∧ (¬P → m = []) := by
  by_cases hP : P
  · rw [if_pos hP, mem_language_delimiters]
    exact ⟨fun h => ⟨h, absurd hP⟩, And.left⟩
  · rw [if_neg hP, Language.mem_one]
    exact ⟨fun h => ⟨by simp [h, Wordless], fun _ => h⟩, fun h => h.2 hP⟩

theorem Branches.matchesAmid_iff {branches : Branches} {s : Text} :
    branches.MatchesAmid s ↔ s ∈ amid (delimiters false).language
      (delimiters true).language branches.first branches.others := by
  rw [mem_amid]
  constructor
  · rintro ⟨before, b, after, l, m, r, hsplit, rfl, hl, hm, hr, hbefore, hafter⟩
    refine ⟨before, b, after, hsplit, Language.append_mem_mul (Language.append_mem_mul ?_ ?_) ?_⟩
    · exact mem_ite_delimiters.2 ⟨hl, hbefore⟩
    · exact isSome_fullMatch?_iff.1 hm
    · exact mem_ite_delimiters.2 ⟨hr, hafter⟩
  · rintro ⟨before, b, after, hsplit, hs⟩
    obtain ⟨_, ⟨l, hl, m, hm, rfl⟩, r, hr, rfl⟩ := hs
    obtain ⟨hl, hbefore⟩ := mem_ite_delimiters.1 hl
    obtain ⟨hr, hafter⟩ := mem_ite_delimiters.1 hr
    exact ⟨before, b, after, l, m, r, hsplit, rfl, hl, isSome_fullMatch?_iff.2 hm, hr, hbefore,
      hafter⟩

theorem Branches.isSome_fullMatch?_iff {branches : Branches} {s : Text} :
    (branches.pattern.fullMatch? s).isSome ↔ ∃ b ∈ branches.toList, (b.fullMatch? s).isSome := by
  simp only [Pattern.isSome_fullMatch?_iff]
  exact mem_language_choice

/-- A single branch has the delimiters on both its sides. -/
theorem Branches.matchesAmid_of_others_eq_nil {branches : Branches} {s : Text}
    (h : branches.others = []) : branches.MatchesAmid s ↔ branches.pattern.MatchesAmid s := by
  obtain ⟨first, others⟩ := branches
  obtain rfl : others = [] := h
  constructor
  · rintro ⟨before, b, after, l, m, r, hsplit, hs, hl, hm, hr, -, -⟩
    have hb : b ∈ before ++ b :: after := List.mem_append_right _ List.mem_cons_self
    rw [← hsplit] at hb
    obtain rfl := List.mem_singleton.1 hb
    exact ⟨l, m, r, hs, hl, hm, hr⟩
  · rintro ⟨l, m, r, hs, hl, hm, hr⟩
    exact ⟨[], first, [], l, m, r, rfl, hs, hl, hm, hr, absurd rfl, absurd rfl⟩

theorem Branches.MatchesAmid.pattern {branches : Branches} {s : Text} (h : branches.MatchesAmid s) :
    branches.pattern.MatchesAmid s := by
  obtain ⟨before, b, after, l, m, r, hsplit, hs, hl, hm, hr, -, -⟩ := h
  refine ⟨l, m, r, hs, hl, Branches.isSome_fullMatch?_iff.2 ⟨b, ?_, hm⟩, hr⟩
  rw [hsplit]
  exact List.mem_append_right _ List.mem_cons_self

theorem Branches.matchesAmid_of_fullMatch? {branches : Branches} {s : Text}
    (h : (branches.pattern.fullMatch? s).isSome) : branches.MatchesAmid s := by
  obtain ⟨b, hb, hs⟩ := Branches.isSome_fullMatch?_iff.1 h
  obtain ⟨before, after, hsplit⟩ := List.append_of_mem hb
  exact ⟨before, b, after, [], s, [], hsplit, (List.append_nil s).symm, nofun, hs, nofun,
    fun _ => rfl, fun _ => rfl⟩

end Pattern

namespace MarkerPatterns

/-- A body amid delimiters. It matches what one of the branches of the body matches, with delimiters
before it if that is the first branch and behind it if it is the last. So if the body is a single
branch it matches just the matches of the body with delimiters on both sides; and of every body it
matches all matches, and nothing but matches with delimiters around them. -/
theorem fullMatch?_amidDelimiters {body : Text} {p : Pattern} (h : Pattern.read body = .ok p) :
    ∃ branches q, Pattern.branches body = .ok branches ∧ branches.pattern = p ∧
      Pattern.read (amidDelimiters body) = .ok q ∧
      (∀ s, (q.fullMatch? s).isSome ↔ branches.MatchesAmid s) ∧
      (branches.others = [] → ∀ s, (q.fullMatch? s).isSome ↔ p.MatchesAmid s) ∧
      (∀ s, (p.fullMatch? s).isSome → (q.fullMatch? s).isSome) ∧
      ∀ s, (q.fullMatch? s).isSome → p.MatchesAmid s := by
  -- what is read of the body is the choice between its branches
  rw [Pattern.read_eq_choice] at h
  obtain ⟨branches, hbranches, rfl⟩ : ∃ b, Pattern.branches body = .ok b ∧ b.pattern = p := by
    cases hb : Pattern.branches body with
    | error fault =>
      rw [hb] at h
      cases h
    | ok branches =>
      rw [hb] at h
      cases h
      exact ⟨branches, rfl, rfl⟩
  obtain ⟨q, hq, hlang⟩ := Pattern.read_amidDelimiters hbranches
  have hmatch : ∀ s, (q.fullMatch? s).isSome ↔ branches.MatchesAmid s := by
    intro s
    rw [Pattern.isSome_fullMatch?_iff, hlang, Pattern.Branches.matchesAmid_iff]
  refine ⟨branches, q, hbranches, rfl, hq, hmatch, ?_, ?_, ?_⟩
  · intro hothers s
    rw [hmatch, Pattern.Branches.matchesAmid_of_others_eq_nil hothers]
  · intro s hs
    exact (hmatch s).2 (Pattern.Branches.matchesAmid_of_fullMatch? hs)
  · intro s hs
    exact ((hmatch s).1 hs).pattern

/-- The branches of `END|STOP`. -/
def endOrStop : Pattern.Branches :=
  { first := Pattern.ofText "END".toList (by decide +kernel)
    others := [Pattern.ofText "STOP".toList (by decide +kernel)] }

/-- What `END|STOP` writes amid delimiters. -/
def endOrStopAmid : Pattern :=
  Pattern.ofText (amidDelimiters "END|STOP".toList) (by decide +kernel)

/-- Of `END|STOP` the first branch has delimiters before it and the second behind it. -/
theorem end_or_stop_amidDelimiters :
    Pattern.read "END|STOP".toList = .ok endOrStop.pattern ∧
      ∃ q, Pattern.read (amidDelimiters "END|STOP".toList) = .ok q ∧
        (q.fullMatch? "/* END".toList).isSome ∧ (q.fullMatch? "STOP */".toList).isSome := by
  have hread : Pattern.read "END|STOP".toList = .ok endOrStop.pattern := by decide +kernel
  have hbranches : Pattern.branches "END|STOP".toList = .ok endOrStop := by decide +kernel
  obtain ⟨branches, q, hb, -, hq, hmatch, -⟩ := fullMatch?_amidDelimiters hread
  obtain rfl : endOrStop = branches := Except.ok.inj (hbranches.symm.trans hb)
  refine ⟨hread, q, hq, (hmatch _).2 ?_, (hmatch _).2 ?_⟩
  · refine ⟨[], endOrStop.first, endOrStop.others, "/* ".toList, "END".toList, [], rfl, ?_⟩
    decide +kernel
  · refine ⟨[endOrStop.first], endOrStop.others.head (by decide +kernel), [], [], "STOP".toList,
      " */".toList, rfl, ?_⟩
    decide +kernel

/-- Delimiters on both sides of a body of two branches are not tolerated. -/
theorem end_with_delimiters_unmatched :
    ¬ ∀ body p q, Pattern.read body = .ok p → Pattern.read (amidDelimiters body) = .ok q →
      ∀ s, (q.fullMatch? s).isSome ↔ p.MatchesAmid s := by
  intro h
  have hread : Pattern.read "END|STOP".toList = .ok endOrStop.pattern := by decide +kernel
  have hamid : Pattern.read (amidDelimiters "END|STOP".toList) = .ok endOrStopAmid :=
    Pattern.read_ofText _ _
  have hmatches : endOrStop.pattern.MatchesAmid "/* END */".toList := by
    refine ⟨"/* ".toList, "END".toList, " */".toList, rfl, ?_⟩
    decide +kernel
  have hmatch := (h _ _ _ hread hamid "/* END */".toList).2 hmatches
  have hno : (endOrStopAmid.fullMatch? "/* END */".toList).isSome = false := by decide +kernel
  rw [hno] at hmatch
  cases hmatch

end MarkerPatterns

end KeptRegions
