import KeptRegions.Proofs.Document.Layout
import Mathlib.Data.List.Infix

namespace KeptRegions

/-!
# Counting markers

Pieces balance if there are as many start markers as end markers among them, and up to no piece more
end markers than start markers. In a layout each region reaches from its start marker to the end
marker that makes up for it: the pieces in between balance (`Layout.exists_spans`).
-/

namespace MarkerRules

/-- The number of start markers. -/
def starts (rules : MarkerRules) (qs : List Slice) : Nat :=
  qs.countP fun q => rules.roleOf q = .opens

/-- The number of end markers. -/
def ends (rules : MarkerRules) (qs : List Slice) : Nat :=
  qs.countP fun q => rules.roleOf q = .closes

/-- What the start markers say as their ids, in the order of the text. -/
def startIds (rules : MarkerRules) (qs : List Slice) : List (Option Text) :=
  (qs.filter fun q => rules.roleOf q = .opens).map fun q => rules.idOf q.text

/-- Up to no piece there are more end markers than start markers. -/
def NoStrayEnd (rules : MarkerRules) (qs : List Slice) : Prop :=
  ∀ before, before <+: qs → rules.ends before ≤ rules.starts before

/-- The markers match like brackets. -/
structure Balanced (rules : MarkerRules) (qs : List Slice) : Prop where
  noStrayEnd : rules.NoStrayEnd qs
  starts_eq_ends : rules.starts qs = rules.ends qs

variable {rules : MarkerRules} {q q' : Slice} {qs rs : List Slice}

/-! ## Counts of joined pieces -/

@[simp] theorem starts_nil : rules.starts [] = 0 := rfl

@[simp] theorem ends_nil : rules.ends [] = 0 := rfl

@[simp] theorem starts_append : rules.starts (qs ++ rs) = rules.starts qs + rules.starts rs :=
  List.countP_append

@[simp] theorem ends_append : rules.ends (qs ++ rs) = rules.ends qs + rules.ends rs :=
  List.countP_append

@[simp] theorem startIds_append :
    rules.startIds (qs ++ rs) = rules.startIds qs ++ rules.startIds rs := by
  simp [startIds]

theorem starts_cons :
    rules.starts (q :: qs) = (if rules.roleOf q = .opens then 1 else 0) + rules.starts qs := by
  simp [starts, List.countP_cons, Nat.add_comm]

theorem ends_cons :
    rules.ends (q :: qs) = (if rules.roleOf q = .closes then 1 else 0) + rules.ends qs := by
  simp [ends, List.countP_cons, Nat.add_comm]

theorem startIds_cons_of_opens (hq : rules.roleOf q = .opens) :
    rules.startIds (q :: qs) = rules.idOf q.text :: rules.startIds qs := by
  simp [startIds, hq]

theorem startIds_cons_of_ne (hq : rules.roleOf q ≠ .opens) :
    rules.startIds (q :: qs) = rules.startIds qs := by
  simp [startIds, hq]

/-! ## Balanced pieces -/

theorem NoStrayEnd.of_prefix (h : rules.NoStrayEnd qs) (hrs : rs <+: qs) : rules.NoStrayEnd rs :=
  fun before hbefore => h before (hbefore.trans hrs)

theorem noStrayEnd_nil : rules.NoStrayEnd [] := by
  intro before hbefore
  rw [List.prefix_nil.1 hbefore]
  exact Nat.le_refl 0

/-- One more piece leaves no stray end marker if it is none itself. -/
theorem NoStrayEnd.concat (h : rules.NoStrayEnd qs)
    (hq : rules.ends (qs ++ [q]) ≤ rules.starts (qs ++ [q])) : rules.NoStrayEnd (qs ++ [q]) := by
  intro before hbefore
  rcases List.prefix_concat_iff.1 hbefore with rfl | hbefore
  · exact hq
  · exact h before hbefore

theorem balanced_nil : rules.Balanced [] :=
  ⟨noStrayEnd_nil, rfl⟩

theorem Balanced.append (hqs : rules.Balanced qs) (hrs : rules.Balanced rs) :
    rules.Balanced (qs ++ rs) := by
  have hcount := hqs.starts_eq_ends
  constructor
  · intro before hbefore
    -- what is behind the first pieces starts with all regions closed
    rcases List.prefix_or_prefix_of_prefix hbefore (List.prefix_append qs rs) with h | ⟨bs, rfl⟩
    · exact hqs.noStrayEnd before h
    · have hbs := hrs.noStrayEnd bs ((List.prefix_append_right_inj qs).1 hbefore)
      simp only [starts_append, ends_append]
      omega
  · simp only [starts_append, ends_append, hcount, hrs.starts_eq_ends]

theorem balanced_of_plain (hq : rules.roleOf q = .plain) : rules.Balanced [q] := by
  have hstarts : rules.starts [q] = 0 := by simp [starts_cons, hq]
  have hends : rules.ends [q] = 0 := by simp [ends_cons, hq]
  refine ⟨noStrayEnd_nil.concat ?_, hstarts.trans hends.symm⟩
  exact Nat.le_of_eq (hends.trans hstarts.symm)

/-- Two markers around balanced pieces balance with them. -/
theorem Balanced.enclose (hq : rules.roleOf q = .opens) (hqs : rules.Balanced qs)
    (hq' : rules.roleOf q' = .closes) : rules.Balanced (q :: (qs ++ [q'])) := by
  have hcount := hqs.starts_eq_ends
  constructor
  · intro before hbefore
    rcases List.prefix_cons_iff.1 hbefore with rfl | ⟨bs, rfl, hbs⟩
    · exact Nat.le_refl 0
    rcases List.prefix_concat_iff.1 hbs with rfl | hbs
    · simp [starts_cons, ends_cons, hq, hq', hcount, Nat.add_comm]
    · have hinside := hqs.noStrayEnd bs hbs
      simp only [starts_cons, ends_cons, hq, reduceCtorEq, if_true, if_false]
      omega
  · simp [starts_cons, ends_cons, hq, hq', hcount, Nat.add_comm]

/-- Among balanced pieces no start marker has only balanced pieces behind it. -/
theorem Balanced.false_of_open (h : rules.Balanced (qs ++ q :: rs)) (hq : rules.roleOf q = .opens)
    (hrs : rules.Balanced rs) : False := by
  have hcount := h.starts_eq_ends
  have hbehind := hrs.starts_eq_ends
  have hbefore := h.noStrayEnd qs (List.prefix_append qs _)
  simp only [starts_append, ends_append, starts_cons, ends_cons, hq, reduceCtorEq, if_true,
    if_false] at hcount
  omega

end MarkerRules

/-! ## Regions of a layout -/

/-- A region reaches from one marker to another, and its body is made of the pieces in between. -/
structure Region.Spans (rules : MarkerRules) (r : Region) (start : Slice) (inner : List Slice)
    (stop : Slice) : Prop where
  opens : rules.roleOf start = .opens
  closes : rules.roleOf stop = .closes
  opening : r.fence.opening = start.text
  closing : r.fence.closing = stop.text
  id : rules.idOf start.text = some r.fence.id
  enabled : r.fence.enabled = rules.isEnabled start.text
  content : r.body.content = inner.flatMap Slice.text

/-- Two cuts of a list at an element are the same, or one of them is behind the other. -/
theorem cut_cases {α : Type} {before after before' after' : List α} {x x' : α}
    (h : before ++ x :: after = before' ++ x' :: after') :
    (before = before' ∧ x = x' ∧ after = after') ∨
      (∃ mid, before' = before ++ x :: mid ∧ after = mid ++ x' :: after') ∨
      ∃ mid, before = before' ++ x' :: mid ∧ after' = mid ++ x :: after := by
  rcases List.append_eq_append_iff.1 h with ⟨mid, hbefore, hmid⟩ | ⟨mid, hbefore, hmid⟩
  · cases mid with
    | nil =>
      cases hmid
      exact .inl ⟨by simpa using hbefore.symm, rfl, rfl⟩
    | cons y mid =>
      cases hmid
      exact .inr (.inl ⟨mid, hbefore, rfl⟩)
  · cases mid with
    | nil =>
      cases hmid
      exact .inl ⟨by simpa using hbefore, rfl, rfl⟩
    | cons y mid =>
      cases hmid
      exact .inr (.inr ⟨mid, hbefore, rfl⟩)

namespace Layout

variable {rules : MarkerRules} {qs : List Slice} {s : Segments}

theorem balanced (h : Layout rules qs s) : rules.Balanced qs := by
  induction h with
  | nil => exact MarkerRules.balanced_nil
  | @plain q qs s hq h ih => exact (MarkerRules.balanced_of_plain hq).append ih
  | @region q q' id bs qs body s hq hid hne hbody hq' h ihb ih =>
    have happend := (ihb.enclose hq hq').append ih
    simpa using happend

theorem startIds_eq (h : Layout rules qs s) : rules.startIds qs = s.ids.map some := by
  induction h with
  | nil => rfl
  | plain hq h ih =>
    rw [MarkerRules.startIds_cons_of_ne (by rw [hq]; decide), ih, Part.ids_before_plain]
  | @region q q' id bs qs body s hq hid hne hbody hq' h ihb ih =>
    have hne' : rules.roleOf q' ≠ .opens := by rw [hq']; decide
    rw [MarkerRules.startIds_cons_of_opens hq, MarkerRules.startIds_append,
      MarkerRules.startIds_cons_of_ne hne', hid, ihb, ih]
    simp [Segments.ids]

/-- There are as many regions as start markers. -/
theorem length_regions (h : Layout rules qs s) : s.regions.length = rules.starts qs := by
  have hids := congrArg List.length h.startIds_eq
  simpa [MarkerRules.startIds, MarkerRules.starts, Segments.ids_eq_map_regions,
    ← List.countP_eq_length_filter] using hids.symm

/-- The region of a start marker reaches to the end marker that makes up for it. Regions are counted
by their start markers. -/
theorem exists_spans (h : Layout rules qs s) {before after : List Slice} {start : Slice}
    (hqs : qs = before ++ start :: after) (hstart : rules.roleOf start = .opens) :
    ∃ inner stop outer r, after = inner ++ stop :: outer ∧ rules.Balanced inner ∧
      s.regions[rules.starts before]? = some r ∧ r.Spans rules start inner stop := by
  induction h generalizing before after with
  | nil => simp at hqs
  | @plain q qs s hq h ih =>
    -- the start marker is behind the plain piece
    cases before with
    | nil =>
      cases hqs
      rw [hq] at hstart
      cases hstart
    | cons q₀ before =>
      cases hqs
      rcases ih rfl with ⟨inner, stop, outer, r, hafter, hinner, hr, hspans⟩
      refine ⟨inner, stop, outer, r, hafter, hinner, ?_, hspans⟩
      simpa [MarkerRules.starts_cons, hq] using hr
  | @region q q' id bs qs body s hq hid hne hbody hq' h ihb ih =>
    cases before with
    | nil =>
      cases hqs
      refine ⟨bs, q', qs, _, rfl, hbody.balanced, rfl, hq, hq', rfl, rfl, hid, rfl, ?_⟩
      exact hbody.content_eq
    | cons q₀ before =>
      simp only [List.cons_append, List.cons.injEq] at hqs
      rcases hqs with ⟨rfl, hqs⟩
      have hfirst : rules.starts (q :: before) = rules.starts before + 1 := by
        simp [MarkerRules.starts_cons, hq, Nat.add_comm]
      rw [hfirst]
      simp only [Segments.regions, List.getElem?_cons_succ]
      rcases cut_cases hqs with ⟨-, rfl, -⟩ | ⟨mid, rfl, hmid⟩ | ⟨mid, hmid, rfl⟩
      · -- the end of the region opens nothing
        rw [hq'] at hstart
        cases hstart
      · -- the start marker is behind the region
        rcases ih hmid with ⟨inner, stop, outer, r, hafter, hinner, hr, hspans⟩
        refine ⟨inner, stop, outer, r, hafter, hinner, ?_, hspans⟩
        have hskip : rules.starts (bs ++ q' :: mid) =
            body.regions.length + rules.starts mid := by
          simp [MarkerRules.starts_cons, hq', hbody.length_regions]
        rw [hskip, List.getElem?_append_right (Nat.le_add_right _ _), Nat.add_sub_cancel_left]
        exact hr
      · -- the start marker is inside of the region, and so is the end of what it opens
        rcases ihb hmid with ⟨inner, stop, outer, r, rfl, hinner, hr, hspans⟩
        refine ⟨inner, stop, outer ++ q' :: qs, r, by simp, hinner, ?_, hspans⟩
        rw [List.getElem?_append_left (List.getElem?_eq_some_iff.1 hr).1]
        exact hr

end Layout

end KeptRegions
