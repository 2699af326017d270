import KeptRegions.Proofs.Document.Canonical

namespace KeptRegions

/-!
# Leaving regions out

To leave out the regions with certain ids, and then those with certain other ids, is to leave out both
at once: joining the plain texts around a region that is gone does not depend on when it goes, nor on
whether what remains is collected from the left or from the right (`withoutOnto_nil`). The regions that
remain are those that neither have one of the ids nor lie in a region that has one. They remain in
their order, and the text is that of the segments without the spans of the regions left out
(`without_exact`).
-/

/-! ## Regions with those around them -/

/-- A region and the regions that it lies in, innermost first. -/
structure Nested where
  region : Region
  around : List Region
deriving DecidableEq

/-- The region with its body less what is left out. -/
def Region.without (away : Text → Bool) (r : Region) : Region :=
  r.withBody (r.body.without away)

namespace Nested

/-- Whether neither the region nor one around it is left out. -/
def Stays (away : Text → Bool) (n : Nested) : Prop :=
  ∀ r ∈ n.region :: n.around, away r.fence.id = false

instance (away : Text → Bool) : DecidablePred (Stays away) :=
  fun n => inferInstanceAs (Decidable (∀ r ∈ n.region :: n.around, away r.fence.id = false))

/-- The region and those around it, with their bodies less what is left out. -/
def without (away : Text → Bool) (n : Nested) : Nested :=
  { region := n.region.without away, around := n.around.map (·.without away) }

end Nested

/-- The part of a text that a region takes up with its markers. -/
structure Span where
  region : Region
  start : Nat
  stop : Nat
deriving DecidableEq

/-- A text that starts at position `i`, without the characters at positions in one of the spans. -/
def Text.outside (gone : List Span) (i : Nat) (text : Text) : Text :=
  ((text.zipIdx i).filter fun c => ∀ g ∈ gone, ¬ (g.start ≤ c.2 ∧ c.2 < g.stop)).map Prod.fst

namespace Segments

/-- All regions in document order, each with the regions around it, where the segments themselves lie
in the regions `around`. -/
def nested (around : List Region) : Segments → List Nested
  | nil => []
  | plain _ rest => rest.nested around
  | region fence body rest =>
    let r : Region := { fence, body }
    { region := r, around } :: (body.nested (r :: around) ++ rest.nested around)

/-- The spans of all regions in document order, where the text of the segments starts at position
`i`. -/
def spans (i : Nat) : Segments → List Span
  | nil => []
  | plain text rest => rest.spans (i + text.length)
  | region fence body rest =>
    let r : Region := { fence, body }
    let stop := i + r.content.length
    { region := r, start := i, stop } ::
      (body.spans (i + fence.opening.length) ++ rest.spans stop)

/-- Segments with others behind them; two plain texts that meet are joined. -/
def joinTo : Segments → Segments → Segments
  | nil, next => next
  | plain text nil, next => next.joinPlain text
  | plain text rest, next => plain text (rest.joinTo next)
  | region fence body rest, next => region fence body (rest.joinTo next)

/-- What remains of the segments without the regions whose id is in `away`, collected from the left
behind what is `done`. -/
def withoutOnto (away : Text → Bool) : Segments → Segments → Segments
  | nil, done => done
  | plain text rest, done => rest.withoutOnto away (done.joinTo (plain text nil))
  | region fence body rest, done =>
    if away fence.id then rest.withoutOnto away done
    else rest.withoutOnto away (done.joinTo (region fence (body.withoutOnto away nil) nil))

variable {s : Segments} {away : Text → Bool} {around : List Region} {n : Nested}

/-! ## From the left -/

theorem joinTo_plain {text : Text} {rest : Segments} (h : rest ≠ nil) (next : Segments) :
    (plain text rest).joinTo next = plain text (rest.joinTo next) := by
  cases rest with
  | nil => exact absurd rfl h
  | plain => rfl
  | region => rfl

theorem joinTo_ne_nil (h : s ≠ nil) (next : Segments) : s.joinTo next ≠ nil := by
  cases s with
  | nil => exact absurd rfl h
  | region fence body rest => exact Segments.noConfusion
  | plain text rest =>
    by_cases hrest : rest = nil
    · subst hrest
      cases next <;> exact Segments.noConfusion
    · rw [joinTo_plain hrest]
      exact Segments.noConfusion

theorem joinTo_nil (s : Segments) : s.joinTo nil = s := by
  induction s with
  | nil => rfl
  | region fence body rest ihb ihr => exact congrArg (region fence body) ihr
  | plain text rest ih =>
    by_cases hrest : rest = nil
    · rw [hrest]
      rfl
    · rw [joinTo_plain hrest, ih]

theorem joinTo_joinPlain (text : Text) (s next : Segments) :
    (s.joinPlain text).joinTo next = (s.joinTo next).joinPlain text := by
  cases s with
  | nil => rfl
  | region fence body rest => rfl
  | plain first rest =>
    by_cases hrest : rest = nil
    · rw [hrest]
      exact (joinPlain_joinPlain text first next).symm
    · rw [joinPlain, joinTo_plain hrest, joinTo_plain hrest, joinPlain]

/-- Which of two places is joined first does not matter. -/
theorem joinTo_assoc (s t u : Segments) : (s.joinTo t).joinTo u = s.joinTo (t.joinTo u) := by
  induction s with
  | nil => rfl
  | region fence body rest ihb ihr => exact congrArg (region fence body) ihr
  | plain text rest ih =>
    by_cases hrest : rest = nil
    · rw [hrest]
      exact joinTo_joinPlain text t u
    · rw [joinTo_plain hrest, joinTo_plain (joinTo_ne_nil hrest t), ih, joinTo_plain hrest]

/-- What is collected behind other segments is what remains, joined to them. -/
theorem withoutOnto_eq (s done : Segments) :
    s.withoutOnto away done = done.joinTo (s.without away) := by
  induction s generalizing done with
  | nil => exact (joinTo_nil done).symm
  | plain text rest ih =>
    calc rest.withoutOnto away (done.joinTo (plain text nil))
        = (done.joinTo (plain text nil)).joinTo (rest.without away) := ih _
      _ = done.joinTo ((rest.without away).joinPlain text) := joinTo_assoc ..
  | region fence body rest ihb ihr =>
    have hbody : body.withoutOnto away nil = body.without away := ihb nil
    cases haway : away fence.id with
    | true => simp [withoutOnto, Segments.without, haway, ihr]
    | false => simp [withoutOnto, Segments.without, haway, hbody, ihr, joinTo_assoc, joinTo]

/-- To collect what remains from the left, each plain text joined to the last one, gives the same as
to join each to what remains behind it. -/
theorem withoutOnto_nil (s : Segments) (away : Text → Bool) :
    s.withoutOnto away nil = s.without away :=
  withoutOnto_eq s nil

/-! ## The regions that remain -/

@[simp] theorem nested_joinPlain (text : Text) (s : Segments) :
    (s.joinPlain text).nested around = s.nested around := by
  cases s <;> rfl

theorem map_region_nested (around : List Region) (s : Segments) :
    (s.nested around).map Nested.region = s.regions := by
  induction s generalizing around with
  | nil => rfl
  | plain text rest ih => exact ih around
  | region fence body rest ihb ihr => simp [nested, regions, ihb, ihr]

/-- What is in segments lies in all regions around them. -/
theorem around_subset_of_mem_nested (hn : n ∈ s.nested around) : around ⊆ n.around := by
  induction s generalizing around with
  | nil => cases hn
  | plain text rest ih => exact ih hn
  | region fence body rest ihb ihr =>
    simp only [nested, List.mem_cons, List.mem_append] at hn
    rcases hn with rfl | hn | hn
    · exact List.Subset.refl _
    · exact List.Subset.trans (List.subset_cons_self _ _) (ihb hn)
    · exact ihr hn

/-- The regions that remain are those that stay, in the same order and in the same regions. -/
theorem nested_without (h : ∀ r ∈ around, away r.fence.id = false) :
    (s.without away).nested (around.map (·.without away)) =
      ((s.nested around).filter (·.Stays away)).map (·.without away) := by
  induction s generalizing around with
  | nil => rfl
  | plain text rest ih => simpa [Segments.without, nested] using ih h
  | region fence body rest ihb ihr =>
    simp only [Segments.without, nested, List.filter_cons, List.filter_append]
    by_cases haway : away fence.id = true
    · -- the region goes with all that is in it
      have hgone : ∀ n : Nested, { fence, body } ∈ n.region :: n.around → ¬ n.Stays away := by
        intro n hn hstays
        rw [hstays _ hn] at haway
        cases haway
      have hself := hgone { region := { fence, body }, around } List.mem_cons_self
      have hbody : (body.nested ({ fence, body } :: around)).filter (·.Stays away) = [] := by
        refine List.filter_eq_nil_iff.2 fun n hn => ?_
        have hin := around_subset_of_mem_nested hn List.mem_cons_self
        simpa using hgone n (List.mem_cons_of_mem _ hin)
      rw [if_pos haway, hbody, ihr h, if_neg (by simpa using hself), List.nil_append]
    · have hinside : ∀ r ∈ Region.mk fence body :: around, away r.fence.id = false :=
        List.forall_mem_cons.2 ⟨Bool.eq_false_iff.2 haway, h⟩
      have hself : Nested.Stays away { region := { fence, body }, around } := hinside
      rw [if_neg haway, nested, ihr h, if_pos (decide_eq_true hself), List.map_cons,
        List.map_append, ← ihb hinside]
      rfl

theorem regions_without (s : Segments) (away : Text → Bool) :
    (s.without away).regions =
      ((s.nested []).filter (·.Stays away)).map fun n => n.region.without away := by
  have h := @nested_without s away [] (by simp)
  rw [List.map_nil] at h
  rw [← map_region_nested [], h, List.map_map]
  rfl

end Segments

/-! ## The text that remains -/

namespace Text

variable {gone gone' : List Span} {text next : Text} {i : Nat}

@[simp] theorem outside_nil (i : Nat) (text : Text) : outside [] i text = text := by
  simp [outside]

/-- Spans that do not meet the text do not count. -/
theorem outside_eq_of_subset (hsub : gone' ⊆ gone)
    (h : ∀ g ∈ gone, g ∈ gone' ∨ g.stop ≤ i ∨ i + text.length ≤ g.start) :
    outside gone i text = outside gone' i text := by
  unfold outside
  congr 1
  refine List.filter_congr fun c hc => ?_
  obtain ⟨hle, hlt, -⟩ := List.mem_zipIdx hc
  refine decide_eq_decide.2 ⟨fun hall g hg => hall g (hsub hg), fun hall g hg => ?_⟩
  rcases h g hg with hg | hg
  · exact hall g hg
  · omega

/-- Where no span reaches from one text into the next, each of them has its own spans. -/
theorem outside_append (h : ∀ g ∈ gone, g.stop ≤ i + text.length)
    (h' : ∀ g ∈ gone', i + text.length ≤ g.start) :
    outside (gone ++ gone') i (text ++ next) =
      outside gone i text ++ outside gone' (i + text.length) next := by
  have hsplit : outside (gone ++ gone') i (text ++ next) =
      outside (gone ++ gone') i text ++ outside (gone ++ gone') (i + text.length) next := by
    simp only [outside, List.zipIdx_append, List.filter_append, List.map_append]
  have hfirst : outside (gone ++ gone') i text = outside gone i text :=
    outside_eq_of_subset (List.subset_append_left _ _) fun g hg =>
      (List.mem_append.1 hg).imp_right fun hg => .inr (h' g hg)
  have hsecond : outside (gone ++ gone') (i + text.length) next =
      outside gone' (i + text.length) next :=
    outside_eq_of_subset (List.subset_append_right _ _) fun g hg =>
      (List.mem_append.1 hg).symm.imp_right fun hg => .inl (h g hg)
  rw [hsplit, hfirst, hsecond]

/-- A text behind all spans remains. -/
theorem outside_append_left (h : ∀ g ∈ gone, g.stop ≤ i + text.length) :
    outside gone i (text ++ next) = outside gone i text ++ next := by
  have hsplit : outside (gone ++ []) i (text ++ next) =
      outside gone i text ++ outside [] (i + text.length) next := outside_append h (by simp)
  rwa [List.append_nil, outside_nil] at hsplit

/-- A text in front of all spans remains. -/
theorem outside_append_right (h : ∀ g ∈ gone, i + text.length ≤ g.start) :
    outside gone i (text ++ next) = text ++ outside gone (i + text.length) next := by
  have hsplit : outside ([] ++ gone) i (text ++ next) =
      outside [] i text ++ outside gone (i + text.length) next := outside_append (by simp) h
  rwa [List.nil_append, outside_nil] at hsplit

/-- Within a span, nothing remains. -/
theorem outside_of_within {g : Span} (hg : g ∈ gone) (hstart : g.start ≤ i)
    (hstop : i + text.length ≤ g.stop) : outside gone i text = [] := by
  unfold outside
  rw [List.map_eq_nil_iff, List.filter_eq_nil_iff]
  intro c hc hall
  obtain ⟨hle, hlt, -⟩ := List.mem_zipIdx hc
  exact of_decide_eq_true hall g hg ⟨by omega, by omega⟩

end Text

namespace Segments

variable {s : Segments} {away : Text → Bool} {g : Span} {i : Nat}

theorem map_region_spans (i : Nat) (s : Segments) : (s.spans i).map Span.region = s.regions := by
  induction s generalizing i with
  | nil => rfl
  | plain text rest ih => exact ih _
  | region fence body rest ihb ihr => simp [spans, regions, ihb, ihr]

/-- A span holds the text of its region. -/
theorem content_of_mem_spans (hg : g ∈ s.spans i) :
    ∃ before after, s.content = before ++ (g.region.content ++ after) ∧
      g.start = i + before.length ∧ g.stop = g.start + g.region.content.length := by
  induction s generalizing i with
  | nil => cases hg
  | plain text rest ih =>
    obtain ⟨before, after, hcontent, hstart, hstop⟩ := ih hg
    refine ⟨text ++ before, after, by simp [content, hcontent], ?_, hstop⟩
    rw [hstart, List.length_append, Nat.add_assoc]
  | region fence body rest ihb ihr =>
    simp only [spans, List.mem_cons, List.mem_append] at hg
    rcases hg with rfl | hg | hg
    · exact ⟨[], rest.content, by simp [content, Region.content], rfl, rfl⟩
    · obtain ⟨before, after, hcontent, hstart, hstop⟩ := ihb hg
      refine ⟨fence.opening ++ before, after ++ (fence.closing ++ rest.content),
        by simp [content, hcontent], ?_, hstop⟩
      rw [hstart, List.length_append, Nat.add_assoc]
    · obtain ⟨before, after, hcontent, hstart, hstop⟩ := ihr hg
      refine ⟨(Region.mk fence body).content ++ before, after,
        by simp [content, Region.content, hcontent], ?_, hstop⟩
      rw [hstart, List.length_append, Nat.add_assoc]

/-- Spans lie within the text of the segments. -/
theorem bounds_of_mem_spans (hg : g ∈ s.spans i) :
    i ≤ g.start ∧ g.stop ≤ i + s.content.length := by
  obtain ⟨before, after, hcontent, hstart, hstop⟩ := content_of_mem_spans hg
  simp only [hcontent, List.length_append]
  omega

/-- The spans of the regions that are left out. -/
def gone (away : Text → Bool) (i : Nat) (s : Segments) : List Span :=
  (s.spans i).filter fun g => away g.region.fence.id

theorem bounds_of_mem_gone (hg : g ∈ s.gone away i) :
    i ≤ g.start ∧ g.stop ≤ i + s.content.length :=
  bounds_of_mem_spans (List.mem_filter.1 hg).1

section Region

variable {fence : Fence} {body rest : Segments} {start stop : Nat}

theorem length_content_region (fence : Fence) (body : Segments) :
    (Region.mk fence body).content.length =
      fence.opening.length + body.content.length + fence.closing.length := by
  simp [Region.content, Nat.add_assoc]

theorem content_region_eq (fence : Fence) (body rest : Segments) :
    (region fence body rest).content = (Region.mk fence body).content ++ rest.content := by
  simp [content, Region.content]

/-- Of a region that is left out, nothing remains. -/
theorem outside_gone_of_away (haway : away fence.id = true)
    (hstop : i + (Region.mk fence body).content.length = stop) :
    Text.outside ((region fence body rest).gone away i) i (region fence body rest).content =
      Text.outside (rest.gone away stop) stop rest.content := by
  let self : Span := { region := { fence, body }, start := i, stop }
  let inside := body.gone away (i + fence.opening.length)
  have hgone : (region fence body rest).gone away i = self :: inside ++ rest.gone away stop := by
    simp [gone, spans, haway, self, inside, hstop]
  -- what is left out within the region does not reach behind it
  have hinside : ∀ g ∈ self :: inside, g.stop ≤ i + (Region.mk fence body).content.length := by
    refine List.forall_mem_cons.2 ⟨Nat.le_of_eq hstop.symm, fun g hg => ?_⟩
    have := (bounds_of_mem_gone hg).2
    rw [length_content_region]
    omega
  have hrest : ∀ g ∈ rest.gone away stop, i + (Region.mk fence body).content.length ≤ g.start :=
    fun g hg => hstop ▸ (bounds_of_mem_gone hg).1
  have hself : Text.outside (self :: inside) i (Region.mk fence body).content = [] :=
    Text.outside_of_within (g := self) List.mem_cons_self (Nat.le_refl _) (Nat.le_of_eq hstop)
  rw [hgone, content_region_eq, Text.outside_append hinside hrest, hself, hstop, List.nil_append]

/-- Of a region that stays, both markers remain, and what remains of its body is decided by the spans
in it. -/
theorem outside_gone_of_stays (haway : away fence.id = false)
    (hstart : i + fence.opening.length = start)
    (hstop : i + (Region.mk fence body).content.length = stop) :
    Text.outside ((region fence body rest).gone away i) i (region fence body rest).content =
      fence.opening ++ (Text.outside (body.gone away start) start body.content ++ fence.closing) ++
        Text.outside (rest.gone away stop) stop rest.content := by
  have hgone : (region fence body rest).gone away i =
      body.gone away start ++ rest.gone away stop := by
    simp [gone, spans, haway, hstart, hstop]
  have hbehind : ∀ g ∈ body.gone away start, g.stop ≤ start + body.content.length :=
    fun g hg => (bounds_of_mem_gone hg).2
  have hfront : ∀ g ∈ body.gone away start, i + fence.opening.length ≤ g.start :=
    fun g hg => hstart ▸ (bounds_of_mem_gone hg).1
  have hbody : Text.outside (body.gone away start) i (Region.mk fence body).content =
      fence.opening ++ (Text.outside (body.gone away start) start body.content ++ fence.closing) := by
    rw [Region.content, Text.outside_append_right hfront, hstart, Text.outside_append_left hbehind]
  have hinside : ∀ g ∈ body.gone away start, g.stop ≤ i + (Region.mk fence body).content.length :=
    fun g hg => by
      have := hbehind g hg
      rw [length_content_region]
      omega
  have hrest : ∀ g ∈ rest.gone away stop, i + (Region.mk fence body).content.length ≤ g.start :=
    fun g hg => hstop ▸ (bounds_of_mem_gone hg).1
  rw [hgone, content_region_eq, Text.outside_append hinside hrest, hbody, hstop]

end Region

/-- The text without the spans of the regions left out is the text of what remains. -/
theorem outside_gone (away : Text → Bool) (i : Nat) (s : Segments) :
    Text.outside (s.gone away i) i s.content = (s.without away).content := by
  induction s generalizing i with
  | nil => rfl
  | plain text rest ih =>
    have hgone : (plain text rest).gone away i = rest.gone away (i + text.length) := rfl
    rw [hgone, content, Text.outside_append_right fun g hg => (bounds_of_mem_gone hg).1, ih,
      Segments.without, content_joinPlain]
  | region fence body rest ihb ihr =>
    cases haway : away fence.id with
    | true => rw [outside_gone_of_away haway rfl, ihr, Segments.without, if_pos haway]
    | false =>
      rw [outside_gone_of_stays haway rfl rfl, ihb, ihr]
      simp [Segments.without, haway, content]

/-- Leaving out is exact: in two steps it is the same as in one, and so the same again and in either
order. No region that remains has one of the ids, and those that remain are those that stay, in their
order. The text is that of the segments without the spans of the regions with one of the ids, where
the spans are one for each region and hold its text. -/
theorem without_exact (s : Segments) (away : Text → Bool) :
    (∀ away', (s.without away).without away' = s.without fun x => away x || away' x) ∧
      (s.without away).without away = s.without away ∧
      (∀ away', (s.without away).without away' = (s.without away').without away) ∧
      (∀ r ∈ (s.without away).regions, away r.fence.id = false) ∧
      (s.nested []).map Nested.region = s.regions ∧
      (s.without away).regions =
        ((s.nested []).filter (·.Stays away)).map (fun n => n.region.without away) ∧
      (s.without away).content = Text.outside (s.gone away 0) 0 s.content ∧
      (s.spans 0).map Span.region = s.regions ∧
      ∀ g ∈ s.spans 0, ∃ before after, s.content = before ++ (g.region.content ++ after) ∧
        g.start = before.length ∧ g.stop = g.start + g.region.content.length := by
  refine ⟨without_without_or s away, ?_, fun away' => ?_, fun r hr => ?_,
    map_region_nested [] s, regions_without s away, (outside_gone away 0 s).symm, map_region_spans 0 s,
    fun g hg => ?_⟩
  · simp [without_without_or]
  · simp only [without_without_or, Bool.or_comm]
  · exact away_eq_false_of_mem_without (id_mem_ids hr)
  · simpa using content_of_mem_spans hg

/-- A region goes with the region in it, and the texts on both sides are joined. -/
example :
    let inner := region { id := ['y'], enabled := true, opening := ['['], closing := [']'] } nil
    let outer := region { id := ['x'], enabled := true, opening := ['('], closing := [')'] }
    let s := plain ['a'] (outer (inner nil) (plain ['b'] nil))
    s.content = "a([])b".toList ∧ s.without (· = ['x']) = plain "ab".toList nil ∧
      s.without (· = ['y']) = plain ['a'] (outer nil (plain ['b'] nil)) := by
  decide

end Segments

end KeptRegions
