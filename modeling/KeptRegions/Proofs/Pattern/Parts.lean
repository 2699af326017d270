import KeptRegions.Proofs.Pattern.Reading

namespace KeptRegions

/-!
# Reading with a set behind

Each part of a written pattern is read alike with a set behind it, from escapes and sets over groups
to sequences and choices. A sequence that ends with the text goes on into the set
(`Pattern.carries_choice_and_sequence`).
-/

namespace Pattern

variable {α β : Type} {a b : Read α} {r r' s : Reading} {body more : List Text} {n n' : Nat}
  {items base : List Item}

/-! ## Escapes and sets -/

theorem carries_readHex {start start' : Nat} {sign : Text} {width : Nat} (h : Ahead body more r s) :
    Carries body more (readHex start sign width) (readHex start' sign width) r s := by
  apply (carries_takeWhile (by decide) (.inl rfl) h).bind
  intro digits r' s' _ h'
  apply carries_ite (fun _ => carries_fail)
  intro _
  apply carries_ite (fun _ => carries_fail)
  exact fun _ => carries_pure h'

theorem carries_readEscape {start start' : Nat} {inSet : Bool} {c : Char} (h : Ahead body more r s) :
    Carries body more (readEscape start inSet c) (readEscape start' inSet c) r s := by
  unfold readEscape
  split
  all_goals first
    | exact carries_pure h
    | exact carries_readHex h
    | exact carries_fail
    | skip
  · apply carries_ite
    · exact fun _ => carries_pure h
    · exact fun _ => carries_fail
  · apply carries_ite (fun _ => carries_fail)
    intro _
    apply carries_ite (fun _ => carries_fail)
    exact fun _ => carries_pure h

theorem carries_readSetSign {start start' : Nat} {sign : Text} (h : Ahead body more r s) :
    Carries body more (readSetSign start sign) (readSetSign start' sign) r s := by
  unfold readSetSign
  split
  · exact carries_readEscape h
  · exact carries_pure h
  · exact carries_fail

theorem carries_readSet {start start' : Nat} {items : List CharItem} {n n' : Nat} (hn : n ≤ n')
    (h : Ahead body more r s) :
    Carries body more (readSet start items n) (readSet start' items n') r s := by
  induction n generalizing n' items r s with
  | zero => exact carries_fail
  | succ n ih =>
    obtain ⟨n', rfl⟩ : ∃ k, n' = k + 1 := ⟨n' - 1, by omega⟩
    have hn' : n ≤ n' := Nat.le_of_succ_le_succ hn
    rw [readSet, readSet]
    apply carries_position_bind
    intro here here'
    apply carries_take_bind h fails_fail
    intro sign r₁ s₁ h₁
    apply carries_ite (fun _ => carries_pure h₁)
    intro _
    apply (carries_readSetSign h₁).bind
    intro lo r₂ s₂ _ h₂
    apply (carries_takeIf (by decide) h₂).bind
    intro hyphen r₃ s₃ _ h₃
    apply carries_ite
    · intro _
      apply carries_position_bind
      intro there there'
      apply carries_take_bind h₃ fails_fail
      intro other r₄ s₄ h₄
      apply carries_ite (fun _ => carries_pure h₄)
      intro _
      apply (carries_readSetSign h₄).bind
      intro hi r₅ s₅ _ h₅
      split
      · apply carries_ite
        · exact fun _ => (fails_bind fun _ => fails_fail).carries
        · exact fun _ => ih hn' h₅
      · exact (fails_bind fun _ => fails_fail).carries
    · exact fun _ => ih hn' h₃

/-- The end of bounds with the digits `lo` and `hi`. If they are not closed they are no bounds. -/
def closeBounds (here : Nat) (before : Reading) (lo hi : Text) : Read (Option Bounds) := do
  if ← Read.takeIf '\x7d' then
    let min ← readBound here lo
    if hi.isEmpty then return some { min, max := none }
    let max ← readBound here hi
    if max < min then Read.fail .reversedBounds here
    return some { min, max := some max }
  else
    set before
    return none

theorem readBounds_eq (here : Nat) :
    readBounds here = (do
      let before ← get
      if (← Read.peek) = some ['\x7d'] then return none
      let lo ← Read.takeWhile Char.isDigit before.left.length
      let hi ← if ← Read.takeIf ',' then Read.takeWhile Char.isDigit before.left.length else pure lo
      closeBounds here before lo hi) := by
  rfl

theorem carries_readBound {here here' : Nat} {digits : Text} (h : Ahead body more r s) :
    Carries body more (readBound here digits) (readBound here' digits) r s := by
  apply carries_ite (fun _ => carries_fail)
  intro _
  apply carries_ite (fun _ => carries_fail)
  exact fun _ => carries_pure h

theorem carries_closeBounds {here here' : Nat} {lo hi : Text} {before before' : Reading}
    (hbefore : Ahead body more before before') (h : Ahead body more r s) :
    Carries body more (closeBounds here before lo hi) (closeBounds here' before' lo hi) r s := by
  apply (carries_takeIf (by decide) h).bind
  intro closed r₁ s₁ _ h₁
  apply carries_ite
  · intro _
    apply (carries_readBound h₁).bind
    intro min r₂ s₂ _ h₂
    apply carries_ite (fun _ => carries_pure h₂)
    intro _
    apply (carries_readBound h₂).bind
    intro max r₃ s₃ _ h₃
    apply carries_ite
    · exact fun _ => fails_fail.bind.carries
    · exact fun _ => carries_pure h₃
  -- both readings go back to where the bounds began
  · intro _ x r' hrun
    cases hrun
    exact ⟨before', rfl, hbefore⟩

theorem carries_readBounds {here here' : Nat} (h : Ahead body more r s) :
    Carries body more (readBounds here) (readBounds here') r s := by
  have hlen := h.length_le
  -- each bound on the number of digits is the length of its own reading
  have hbounds : Carries body more
      (do
        let lo ← Read.takeWhile Char.isDigit r.left.length
        let hi ← if ← Read.takeIf ',' then Read.takeWhile Char.isDigit r.left.length else pure lo
        closeBounds here r lo hi)
      (do
        let lo ← Read.takeWhile Char.isDigit s.left.length
        let hi ← if ← Read.takeIf ',' then Read.takeWhile Char.isDigit s.left.length else pure lo
        closeBounds here' s lo hi) r s := by
    apply (carries_takeWhile (by decide) (.inr ⟨Nat.le_refl _, hlen⟩) h).bind
    intro lo r₁ s₁ hlo h₁
    apply (carries_takeIf (by decide) h₁).bind
    intro comma r₂ s₂ hcomma h₂
    have hleft : r₂.left.length ≤ r.left.length :=
      Nat.le_trans (length_takeIf_le hcomma) (length_takeWhile_le hlo)
    apply carries_ite
    · intro _
      apply (carries_takeWhile (by decide) (.inr ⟨hleft, hlen⟩) h₂).bind
      exact fun _ _ _ _ h₃ => carries_closeBounds h h₃
    · exact fun _ => carries_closeBounds h h₂
  rw [readBounds_eq, readBounds_eq]
  apply carries_get_bind
  apply carries_peek_bind h
  · intro sign _
    exact carries_ite (fun _ => carries_pure h) fun _ => hbounds
  · intro _
    rw [if_neg (by decide), if_neg (by decide)]
    exact hbounds

theorem carries_readRepetition {c : Char} (h : Ahead body more r s) :
    Carries body more (readRepetition c) (readRepetition c) r s := by
  unfold readRepetition
  split
  · exact carries_pure h
  · exact carries_pure h
  · exact carries_pure h
  · exact carries_position_bind fun _ _ => carries_readBounds h

theorem carries_readName {start start' : Nat} {name : Text} {n n' : Nat} (hn : n ≤ n')
    (h : Ahead body more r s) :
    Carries body more (readName start name n) (readName start' name n') r s := by
  induction n generalizing n' name r s with
  | zero => exact carries_fail
  | succ n ih =>
    obtain ⟨n', rfl⟩ : ∃ k, n' = k + 1 := ⟨n' - 1, by omega⟩
    rw [readName, readName]
    apply carries_position_bind
    intro here here'
    apply carries_take_bind h fails_fail
    intro sign r₁ s₁ h₁
    apply carries_ite
    · intro _
      apply carries_ite (fun _ => carries_fail)
      intro _
      apply carries_ite (fun _ => carries_pure h₁)
      exact fun _ => carries_fail
    · exact fun _ => ih (Nat.le_of_succ_le_succ hn) h₁

theorem carries_skipRemark {start start' : Nat} {n n' : Nat} (hn : n ≤ n')
    (h : Ahead body more r s) :
    Carries body more (skipRemark start n) (skipRemark start' n') r s := by
  induction n generalizing n' r s with
  | zero => exact carries_fail
  | succ n ih =>
    obtain ⟨n', rfl⟩ : ∃ k, n' = k + 1 := ⟨n' - 1, by omega⟩
    rw [skipRemark, skipRemark]
    apply carries_take_bind h fails_fail
    intro sign r₁ s₁ h₁
    apply carries_ite (fun _ => carries_pure h₁)
    exact fun _ => ih (Nat.le_of_succ_le_succ hn) h₁

theorem carries_openGroup {name : Option Text} {position position' : Nat} (h : Ahead body more r s) :
    Carries body more (openGroup name position) (openGroup name position') r s := by
  rw [openGroup, openGroup]
  apply carries_get_bind
  rw [h.groups]
  have hset : Carries body more (set { r with groups := name :: r.groups } : Read Unit)
      (set { s with groups := name :: r.groups }) r s := by
    intro x r' hrun
    cases hrun
    exact ⟨_, rfl, h.left, rfl, h.taken, h.ready⟩
  cases name with
  | none => exact hset
  | some name =>
    dsimp only
    split
    · exact fails_fail.bind.carries
    · exact hset

theorem carries_readOpening {start start' : Nat} (h : Ahead body more r s) :
    Carries body more (readOpening start) (readOpening start') r s := by
  rw [readOpening, readOpening]
  apply carries_position_bind
  intro mark mark'
  apply (carries_takeIf (by decide) h).bind
  intro question r₁ s₁ _ h₁
  apply carries_ite
  · intro _
    apply carries_get_bind
    have hlen := h₁.length_le
    apply carries_take_bind h₁ (fails_bind fun _ => fails_fail)
    intro sign r₂ s₂ h₂
    split
    · next hnone => cases hnone
    · apply (carries_takeIf (by decide) h₂).bind
      intro named r₃ s₃ _ h₃
      apply carries_ite
      · intro _
        apply carries_position_bind
        intro here here'
        apply (carries_readName (by omega) h₃).bind
        intro name r₄ s₄ _ h₄
        exact (carries_openGroup h₄).bind fun _ _ _ _ h₅ => carries_pure h₅
      · intro _
        -- no name follows, and any other extension is refused
        apply Fails.carries
        apply fails_bind
        intro sign
        apply fails_ite fails_fail
        apply fails_bind
        intro sign
        split
        · exact fails_bind fun _ => fails_fail
        · exact fails_fail
    · exact carries_pure h₂
    · exact (carries_skipRemark (by omega) h₂).bind fun _ _ _ _ h₃ => carries_pure h₃
    · apply Fails.carries
      apply fails_bind
      intro sign
      split
      · exact fails_bind fun _ => fails_fail
      · exact fails_ite fails_fail fails_fail
    · exact (fails_ite fails_fail fails_fail).carries
  · exact fun _ => (carries_openGroup h₁).bind fun _ _ _ _ h₂ => carries_pure h₂

/-! ## Repetitions -/

/-- Repeats an item. -/
def repeatItem (position : Nat) (bounds : Bounds) (item : Item) : Read Item := do
  if item.repeated then Read.fail .multipleRepeat position
  let lazy ← Read.takeIf '?'
  if (← Read.peek) = some ['+'] && !lazy then Read.fail .unsupported position
  return { pattern := .times item.pattern bounds.min bounds.max (!lazy), repeated := true }

theorem repeatLast_cons (position : Nat) (bounds : Bounds) (item : Item) (items : List Item) :
    repeatLast position bounds (item :: items) =
      repeatItem position bounds item >>= fun repeated => pure (repeated :: items) := by
  -- the refusal comes before the item is put back in front of the others
  have hend : ∀ (refused : Bool) (repeated : Item),
      (if refused then do
        Read.fail .unsupported position
        pure (repeated :: items)
      else pure (repeated :: items) : Read (List Item)) =
        (if refused then do
          Read.fail .unsupported position
          pure repeated
        else pure repeated) >>= fun repeated => pure (repeated :: items) := by
    intro refused repeated
    cases refused <;> rfl
  unfold repeatLast repeatItem
  simp only [hend]
  split <;> simp only [bind_assoc]

theorem carries_repeatItem {position position' : Nat} {bounds : Bounds} {item : Item}
    (h : Ahead body more r s) :
    Carries body more (repeatItem position bounds item) (repeatItem position' bounds item) r s := by
  rw [repeatItem, repeatItem]
  apply carries_ite
  · exact fun _ => fails_fail.bind.carries
  · intro _
    apply (carries_takeIf (by decide) h).bind
    intro lazy r₁ s₁ _ h₁
    apply carries_peek_bind h₁
    · intro sign _
      apply carries_ite
      · exact fun _ => fails_fail.bind.carries
      · exact fun _ => carries_pure h₁
    · intro _
      rw [if_neg (by simp), if_neg (by simp [openingBracket])]
      exact carries_pure h₁

/-! ## Sequences -/

/-- What a group is in a pattern: only a name is kept. -/
def Opening.around (content : Pattern) : Opening → Pattern
  | group (some name) => named name content
  | _ => content

/-- Reads the part of a sequence that starts with the sign before: the items that there are then. -/
def readPart (bound start : Nat) (items : List Item) (sign : Text) : Read (List Item) :=
  let add (p : Pattern) : List Item := { pattern := p, repeated := false } :: items
  match sign with
  | ['\\', c] => do
    return add (.one { negated := false, items := [(← readEscape start false c).item] })
  | ['.'] => return add (.one .all)
  | ['['] => do
    let negated ← Read.takeIf '^'
    return add (.one { negated, items := ← readSet start [] ((← get).left.length + 1) })
  | ['('] => do
    let opening ← readOpening start
    if opening = .remark then return items
    let content ← readChoice bound
    if !(← Read.takeIf ')') then Read.fail .unclosedGroup start
    return add (opening.around content)
  | [c] =>
    if c = '^' || c = '$' then Read.fail .unsupported start
    else if c = '?' || c = '*' || c = '+' || c = '\x7b' then do
      match ← readRepetition c with
      | none => return add (.one (.single c.toNat))
      | some bounds => repeatLast start bounds items
    else return add (.one (.single c.toNat))
  | _ => Read.fail .unsupported start

/-- The signs before which a sequence ends. -/
def EndsSequence (sign : Text) : Prop :=
  sign = ['|'] ∨ sign = [')']

instance (sign : Text) : Decidable (EndsSequence sign) :=
  inferInstanceAs (Decidable (_ ∨ _))

/-- A sequence with a group in it goes on behind the group. -/
theorem readGroup_bind (bound start : Nat) (items : List Item) (opening : Opening) :
    (do
      let content ← readChoice bound
      if !(← Read.takeIf ')') then Read.fail .unclosedGroup start
      readSequence bound ({ pattern := opening.around content, repeated := false } :: items)) =
    (do
      let content ← readChoice bound
      if !(← Read.takeIf ')') then Read.fail .unclosedGroup start
      return { pattern := opening.around content, repeated := false } :: items) >>=
      readSequence bound := by
  rw [bind_assoc]
  refine congrArg (readChoice bound >>= ·) (funext fun content => ?_)
  rw [bind_assoc]
  refine congrArg (Read.takeIf ')' >>= ·) (funext fun closed => ?_)
  cases closed <;> rfl

theorem readSequence_succ (bound : Nat) (items : List Item) :
    readSequence (bound + 1) items = (do
      let start ← Read.position
      match ← Read.peek with
      | none => return sequence items
      | some sign =>
        if EndsSequence sign then return sequence items
        let _ ← Read.take
        readPart bound start items sign >>= readSequence bound) := by
  rw [readSequence]
  refine congrArg (Read.position >>= ·) (funext fun start => ?_)
  refine congrArg (Read.peek >>= ·) (funext fun next => ?_)
  split
  · rfl
  · rfl
  · rfl
  · next sign hbar hclose =>
    -- neither of the two signs that end a sequence, so a part is read
    have hends : ¬EndsSequence sign := by
      rintro (rfl | rfl)
      · exact hbar rfl
      · exact hclose rfl
    dsimp only
    rw [if_neg hends]
    refine congrArg (Read.take >>= ·) (funext fun _ => ?_)
    split
    · rw [readPart, bind_assoc]
      rfl
    · rw [readPart, pure_bind]
    · rw [readPart]
      simp only [bind_assoc, pure_bind]
    · rw [readPart, bind_assoc]
      refine congrArg (readOpening start >>= ·) (funext fun opening => ?_)
      have hgroup := readGroup_bind bound start items opening
      rcases opening with (_ | name) | _ | _
      · exact hgroup
      · exact hgroup
      · exact hgroup
      · rfl
    · next c hdot hbracket hparen =>
      rw [readPart.eq_5 _ _ _ _ hdot hbracket hparen]
      split
      · rfl
      · split
        · rw [bind_assoc]
          refine congrArg (readRepetition c >>= ·) (funext fun bounds => ?_)
          cases bounds
          · rw [pure_bind]
          · rfl
        · rw [pure_bind]
    · next hescape hdot hbracket hparen hchar =>
      rw [readPart.eq_6 _ _ _ _ hescape hdot hbracket hparen hchar]
      rfl

theorem run_readSequence_of_ends (hends : ∀ sign, Sign.first? r.left = some sign → EndsSequence sign)
    (n : Nat) (items : List Item) :
    (readSequence (n + 1) items).run r = .ok (sequence items, r) := by
  rw [readSequence_succ, run_bind_of_ok (run_position r), run_bind_of_ok (run_peek rfl)]
  cases hsign : Sign.first? r.left with
  | none => rfl
  | some sign =>
    dsimp only
    rw [if_pos (hends sign hsign)]
    rfl

/-- The step of a sequence: one more part is read. -/
theorem run_readSequence_of_part {sign : Text} {taken : Option Text} {items' : List Item}
    {r₁ r₂ : Reading} (hsign : Sign.first? r.left = some sign) (hends : ¬EndsSequence sign)
    {start : Nat} (hstart : Read.position.run r = .ok (start, r))
    (htake : Read.take.run r = .ok (taken, r₁))
    (hpart : (readPart n start items sign).run r₁ = .ok (items', r₂)) :
    (readSequence (n + 1) items).run r = (readSequence n items').run r₂ := by
  rw [readSequence_succ, run_bind_of_ok hstart, run_bind_of_ok (run_peek hsign)]
  dsimp only
  rw [if_neg hends, run_bind_of_ok htake, run_bind_of_ok hpart]

theorem readSequence_eq_ok {p : Pattern} (h : (readSequence (n + 1) items).run r = .ok (p, r')) :
    ((∀ sign, Sign.first? r.left = some sign → EndsSequence sign) ∧ p = sequence items ∧ r' = r) ∨
      ∃ sign start taken items' r₁ r₂, Sign.first? r.left = some sign ∧ ¬EndsSequence sign ∧
        Read.take.run r = .ok (taken, r₁) ∧
        (readPart n start items sign).run r₁ = .ok (items', r₂) ∧
        (readSequence n items').run r₂ = .ok (p, r') := by
  by_cases hends : ∀ sign, Sign.first? r.left = some sign → EndsSequence sign
  · rw [run_readSequence_of_ends hends] at h
    cases h
    exact .inl ⟨hends, rfl, rfl⟩
  · simp only [Classical.not_forall] at hends
    obtain ⟨sign, hsign, hends⟩ := hends
    rw [readSequence_succ, run_bind_of_ok (run_position r), run_bind_of_ok (run_peek hsign)] at h
    dsimp only at h
    rw [if_neg hends] at h
    obtain ⟨taken, r₁, htake, h⟩ := run_bind_eq_ok.1 h
    obtain ⟨items', r₂, hpart, h⟩ := run_bind_eq_ok.1 h
    exact .inr ⟨sign, _, taken, items', r₁, r₂, hsign, hends, htake, hpart, h⟩

/-! ## Sequences and choices with a set behind them -/

/-- A choice that ends before a sign of the body is read alike if more follows, and with more
rounds. -/
def CarriesChoice (body more : List Text) (n : Nat) : Prop :=
  ∀ n' ≥ n, ∀ r s p r', Ahead body more r s → (readChoice n).run r = .ok (p, r') → r'.left ≠ [] →
    ∃ s', (readChoice n').run s = .ok (p, s') ∧ Ahead body more r' s'

/-- A sequence that is read up to some sign is read alike if more follows and if there are items
before it. From there the other reading goes on. -/
def CarriesSequence (body more : List Text) (n : Nat) : Prop :=
  ∀ n' ≥ n, ∀ items base r s p r', Ahead body more r s →
    (readSequence n items).run r = .ok (p, r') →
    ∃ items' s' k, n' + 1 ≤ k + n ∧ p = sequence items' ∧
      (∀ sign, Sign.first? r'.left = some sign → EndsSequence sign) ∧
      Ahead body more r' s' ∧
      (readSequence n' (items ++ base)).run s = (readSequence k (items' ++ base)).run s'

theorem carries_repeatLast {position position' : Nat} {bounds : Bounds} (h : Ahead body more r s) :
    Carries body more ((· ++ base) <$> repeatLast position bounds items)
      (repeatLast position' bounds (items ++ base)) r s := by
  cases items with
  | nil => exact (Fails.map fails_fail).carries
  | cons item items =>
    rw [List.cons_append, repeatLast_cons, repeatLast_cons, map_bind]
    exact (carries_repeatItem h).bind fun _ _ _ _ h₁ => carries_pure h₁

theorem carries_group (base : List Item) (hchoice : CarriesChoice body more n) (hn : n ≤ n')
    {start start' : Nat} (opening : Opening) (h : Ahead body more r s) :
    Carries body more
      ((· ++ base) <$> (do
        let content ← readChoice n
        if !(← Read.takeIf ')') then Read.fail .unclosedGroup start
        return { pattern := opening.around content, repeated := false } :: items))
      (do
        let content ← readChoice n'
        if !(← Read.takeIf ')') then Read.fail .unclosedGroup start'
        return { pattern := opening.around content, repeated := false } :: (items ++ base)) r s := by
  intro items' r' hmap
  obtain ⟨items', hrun, rfl⟩ := run_map_eq_ok.1 hmap
  obtain ⟨content, r₁, hcontent, hrest⟩ := run_bind_eq_ok.1 hrun
  obtain ⟨closed, r₂, hclosed, hdone⟩ := run_bind_eq_ok.1 hrest
  cases closed with
  | false => cases hdone
  | true =>
    cases hdone
    -- the group is closed, so a sign was left where its content ends
    have hne := ne_nil_of_takeIf hclosed
    obtain ⟨s₁, hcontent', h₁⟩ := hchoice n' hn r s content r₁ h hcontent hne
    obtain ⟨s₂, hclosed', h₂⟩ := carries_takeIf (by decide) h₁ true r' hclosed
    refine ⟨s₂, run_bind_eq_ok.2 ⟨content, s₁, hcontent', ?_⟩, h₂⟩
    exact run_bind_eq_ok.2 ⟨true, s₂, hclosed', rfl⟩

theorem carries_readPart (base : List Item) (hchoice : CarriesChoice body more n) (hn : n ≤ n')
    {start start' : Nat} {sign : Text} (h : Ahead body more r s) :
    Carries body more ((· ++ base) <$> readPart n start items sign)
      (readPart n' start' (items ++ base) sign) r s := by
  unfold readPart
  split
  · rw [map_bind]
    exact (carries_readEscape h).bind fun _ _ _ _ h₁ => carries_pure h₁
  · exact carries_pure h
  · rw [map_bind]
    apply (carries_takeIf (by decide) h).bind
    intro negated r₁ s₁ _ h₁
    rw [map_bind]
    apply carries_get_bind
    rw [map_bind]
    have hlen := h₁.length_le
    exact (carries_readSet (by omega) h₁).bind fun _ _ _ _ h₂ => carries_pure h₂
  · rw [map_bind]
    apply (carries_readOpening h).bind
    intro opening r₁ s₁ _ h₁
    by_cases hremark : opening = .remark
    · rw [if_pos hremark, if_pos hremark]
      exact carries_pure h₁
    rw [if_neg hremark, if_neg hremark]
    exact carries_group base hchoice hn opening h₁
  · next c _ _ _ =>
    by_cases hanchor : (decide (c = '^') || decide (c = '$')) = true
    · rw [if_pos hanchor]
      exact (Fails.map fails_fail).carries
    rw [if_neg hanchor, if_neg hanchor]
    by_cases hrepetition : (c = '?' || c = '*' || c = '+' || c = '\x7b') = true
    · rw [if_pos hrepetition, if_pos hrepetition, map_bind]
      apply (carries_readRepetition h).bind
      intro bounds r₁ s₁ _ h₁
      cases bounds with
      | none => exact carries_pure h₁
      | some bounds => exact carries_repeatLast h₁
    · rw [if_neg hrepetition, if_neg hrepetition]
      exact carries_pure h
  · exact (Fails.map fails_fail).carries

theorem carriesSequence_succ (hchoice : CarriesChoice body more n)
    (hsequence : CarriesSequence body more n) : CarriesSequence body more (n + 1) := by
  intro n' hn items base r s p r' h hrun
  obtain ⟨n', rfl⟩ : ∃ k, n' = k + 1 := ⟨n' - 1, by omega⟩
  have hn' : n ≤ n' := Nat.le_of_succ_le_succ hn
  rcases readSequence_eq_ok hrun with
    ⟨hends, rfl, rfl⟩ | ⟨sign, start, taken, items₁, r₁, r₂, hsign, hends, htake, hpart, hrest⟩
  · exact ⟨items, s, n' + 1, by omega, rfl, hends, h, rfl⟩
  · have hne := ne_nil_of_first? hsign
    obtain ⟨s₁, htake', h₁⟩ := carries_take h hne taken r₁ htake
    obtain ⟨s₂, hpart', h₂⟩ :=
      carries_readPart base hchoice hn' h₁ _ r₂ (run_map_eq_ok.2 ⟨items₁, hpart, rfl⟩)
    obtain ⟨items', s', k, hk, hp, hstop, hahead, hgo⟩ :=
      hsequence n' hn' items₁ base r₂ s₂ p r' h₂ hrest
    -- the second reading takes the same part first, with its items in front of the base
    refine ⟨items', s', k, by omega, hp, hstop, hahead, ?_⟩
    rw [← hgo]
    have hsign' := (h.first?_of_ne hne).trans hsign
    exact run_readSequence_of_part hsign' hends (run_position s) htake' hpart'

theorem carriesChoice_succ (hchoice : CarriesChoice body more n)
    (hsequence : CarriesSequence body more n) : CarriesChoice body more (n + 1) := by
  intro n' hn r s p r' h hrun hne
  obtain ⟨n', rfl⟩ : ∃ k, n' = k + 1 := ⟨n' - 1, by omega⟩
  have hn' : n ≤ n' := Nat.le_of_succ_le_succ hn
  rw [readChoice] at hrun ⊢
  obtain ⟨first, r₁, hfirst, hrest⟩ := run_bind_eq_ok.1 hrun
  obtain ⟨bar, r₂, hbar, hlast⟩ := run_bind_eq_ok.1 hrest
  -- the branch ends before a sign of the body: a bar, or what is left behind the choice
  have hne₁ : r₁.left ≠ [] := by
    rcases takeIf_eq_ok hbar with ⟨-, hfirst⟩ | ⟨rfl, rfl⟩
    · exact ne_nil_of_first? hfirst
    · cases hlast
      exact hne
  obtain ⟨items, s₁, k, hk, rfl, hstop, h₁, hgo⟩ := hsequence n' hn' [] [] r s first r₁ h hfirst
  obtain ⟨k, rfl⟩ : ∃ j, k = j + 1 := ⟨k - 1, by omega⟩
  rw [← h₁.first?_of_ne hne₁] at hstop
  rw [run_readSequence_of_ends hstop, List.append_nil, List.append_nil] at hgo
  obtain ⟨s₂, hbar', h₂⟩ := carries_takeIf (by decide) h₁ bar r₂ hbar
  rw [run_bind_of_ok hgo, run_bind_of_ok hbar']
  cases bar with
  | false =>
    cases hlast
    exact ⟨s₂, rfl, h₂⟩
  | true =>
    obtain ⟨others, r₃, hothers, hpure⟩ := run_bind_eq_ok.1 hlast
    cases hpure
    obtain ⟨s₃, hothers', h₃⟩ := hchoice n' hn' r₂ s₂ others r' h₂ hothers hne
    exact ⟨s₃, run_bind_eq_ok.2 ⟨others, s₃, hothers', rfl⟩, h₃⟩

theorem carries_choice_and_sequence (body more : List Text) (n : Nat) :
    CarriesChoice body more n ∧ CarriesSequence body more n := by
  -- groups hold choices and choices are made of sequences, so both go through one induction
  induction n with
  | zero => exact ⟨nofun, nofun⟩
  | succ n ih => exact ⟨carriesChoice_succ ih.1 ih.2, carriesSequence_succ ih.1 ih.2⟩

end Pattern

end KeptRegions
