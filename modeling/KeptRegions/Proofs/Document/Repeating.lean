import KeptRegions.Proofs.Document.Canonical
import Mathlib.Data.List.Induction

namespace KeptRegions

/-!
# Reconciling again

A generator runs many times, and each result becomes the previous document of the next run. The same
run twice changes nothing, since what was copied once is copied again and nothing more is left out
(`reconcile_stable`). Under the policies of merging and filling in, what a developer wrote in a
region stays through any number of runs, if each run has the region where it can take its body back
(`body_survives_runs`).
-/

namespace Segments

variable {previous again : Document} {keep : Region → Bool} {ids : List Text} {s : Segments}

/-! ## Stability -/

/-- What is copied into a body from outside of the current document belongs nowhere else. -/
theorem isElsewhere_eq_false_of_mem_keepBodies {r : Region} {x : Text}
    (hx : x ∈ (r.body.keepBodies previous keep ids).ids) : r.isElsewhere ids x = false := by
  by_cases hcurrent : x ∈ ids
  · have hin : x ∈ r.ids := List.mem_cons_of_mem _ (mem_ids_of_mem_keepBodies hx hcurrent)
    simp [Region.isElsewhere, hin]
  · simp [Region.isElsewhere, hcurrent]

/-- Copying the bodies of the result gives the result, up to plain texts that are next to each
other. -/
theorem joined_keepBodies_again
    (hagain : ∀ r ∈ (s.keepBodies previous keep ids).regions, again.find? r.fence.id = some r) :
    (s.keepBodies again keep ids).joined = (s.keepBodies previous keep ids).joined := by
  induction s using copyInduction previous keep with
  | nil => rfl
  | plain text rest ih =>
    calc ((plain text rest).keepBodies again keep ids).joined
        = (rest.keepBodies again keep ids).joined.joinPlain text := rfl
      _ = (rest.keepBodies previous keep ids).joined.joinPlain text := by rw [ih hagain]
  | copied fence body rest old hsource ih =>
    rw [keepBodies_of_source hsource] at hagain ⊢
    simp only [regions, List.mem_cons, List.mem_append] at hagain
    -- the copy is the source of the second run, and nothing more is left out of it
    have hkeep := (Region.source?_eq_some_iff.1 hsource).1
    have hfind := hagain _ (.inl rfl)
    have hsource' := Region.source?_eq_some_iff.2 ⟨hkeep, hfind⟩
    have hrest := ih fun r hr => hagain r (.inr (.inr hr))
    rw [keepBodies_of_source hsource', without_without]
    exact congrArg (region fence (joined (old.body.without _))) hrest
  | searched fence body rest hsource ihb ihr =>
    rw [keepBodies_of_no_source hsource] at hagain ⊢
    simp only [regions, List.mem_cons, List.mem_append] at hagain
    have hfind := hagain _ (.inl rfl)
    have hbody := ihb fun r hr => hagain r (.inr (.inl hr))
    have hrest := ihr fun r hr => hagain r (.inr (.inr hr))
    by_cases hkeep : keep { fence, body } = true
    · -- the region had no source, and has itself as one in the second run
      have hsource' := Region.source?_eq_some_iff.2 ⟨hkeep, hfind⟩
      rw [keepBodies_of_source hsource',
        without_eq_joined fun x hx => isElsewhere_eq_false_of_mem_keepBodies hx]
      calc (region fence (body.keepBodies previous keep ids).joined
            (rest.keepBodies again keep ids)).joined
          = region fence (body.keepBodies previous keep ids).joined.joined
              (rest.keepBodies again keep ids).joined := rfl
        _ = region fence (body.keepBodies previous keep ids).joined
              (rest.keepBodies previous keep ids).joined := by rw [joined_joined, hrest]
    · have hnone : Region.source? { fence, body } again keep = none := if_neg hkeep
      rw [keepBodies_of_no_source hnone]
      calc (region fence (body.keepBodies again keep ids) (rest.keepBodies again keep ids)).joined
          = region fence (body.keepBodies again keep ids).joined
              (rest.keepBodies again keep ids).joined := rfl
        _ = region fence (body.keepBodies previous keep ids).joined
              (rest.keepBodies previous keep ids).joined := by rw [hbody, hrest]

/-- With nothing to copy from, nothing changes. -/
theorem keepBodies_of_no_regions (hprevious : previous.segments = nil) :
    s.keepBodies previous keep ids = s := by
  have hnone : ∀ r : Region, r.source? previous keep = none := by
    intro r
    simp [Region.source?, Document.find?, hprevious, find?]
  induction s with
  | nil => rfl
  | plain text rest ih => rw [keepBodies, ih]
  | region fence body rest ihb ihr => rw [keepBodies_of_no_source (hnone _), ihb, ihr]

end Segments

namespace Document

variable {keep : Region → Bool}

/-- Reconciling again with a result of the same current document gives the result, up to plain texts
that are next to each other. -/
theorem joined_reconciled_again {current previous again : Document}
    (hagain : again.segments = current.segments.keepBodies previous keep current.ids) :
    (current.reconciled again keep).segments.joined = again.segments.joined := by
  have hfind : ∀ r ∈ (current.segments.keepBodies previous keep current.ids).regions,
      again.find? r.fence.id = some r := by
    intro r hr
    rw [← hagain] at hr
    exact Segments.find?_of_mem_regions again.nodup hr
  rw [hagain]
  exact Segments.joined_keepBodies_again hfind

theorem content_eq_of_joined {d e : Document} (h : d.segments.joined = e.segments.joined) :
    d.content = e.content :=
  calc d.content = d.segments.joined.content := (Segments.content_joined _).symm
    _ = e.segments.joined.content := by rw [h]
    _ = e.content := Segments.content_joined _

theorem eq_of_joined {d e : Document} (h : d.segments.joined = e.segments.joined)
    (hd : d.segments.Spaced) (he : e.segments.Spaced) : d = e := by
  rw [hd.joined_eq, he.joined_eq] at h
  cases d
  cases e
  cases h
  rfl

/-- Reconciling is stable. To reconcile the same current document with the result gives a result
with the same content, and to reconcile a document with itself gives its content. Where no two plain
texts of the current document are next to each other, the same documents come out. -/
theorem reconcile_stable (current previous d : Document) (keep : Region → Bool) :
    (∃ result again, current.reconcile previous keep = .ok result ∧
      current.reconcile result keep = .ok again ∧ again.content = result.content ∧
        (current.segments.Spaced → again = result)) ∧
    ∃ same, d.reconcile d keep = .ok same ∧ same.content = d.content ∧
      (d.segments.Spaced → same = d) := by
  constructor
  · have hjoined : (current.reconciled (current.reconciled previous keep) keep).segments.joined =
        (current.reconciled previous keep).segments.joined := joined_reconciled_again rfl
    refine ⟨_, _, of?_eq_ok (current.reconciled previous keep).nodup,
      of?_eq_ok (current.reconciled _ keep).nodup, content_eq_of_joined hjoined, ?_⟩
    intro hspaced
    exact eq_of_joined hjoined hspaced.keepBodies hspaced.keepBodies
  · -- the document is what comes out of it if there is nothing to copy from
    let empty : Document := { segments := .nil, nodup := List.nodup_nil }
    have hself : d.segments = d.segments.keepBodies empty keep d.ids :=
      (Segments.keepBodies_of_no_regions rfl).symm
    have hjoined := joined_reconciled_again hself
    refine ⟨_, of?_eq_ok (d.reconciled d keep).nodup, content_eq_of_joined hjoined, ?_⟩
    intro hspaced
    exact eq_of_joined hjoined hspaced.keepBodies hspaced

/-- The region `z` is taken out of the copied body, and the texts around it are joined. Doing so
again changes nothing. -/
theorem reconcile_stable_moved_region :
    ∃ current previous result : Document, current.segments.Spaced ∧ previous.segments.Spaced ∧
      current.merge previous = .ok result ∧ current.merge result = .ok result ∧
        previous.merge previous = .ok previous ∧
        result.ids = ["a".toList, "n".toList, "z".toList] := by
  let region := fun id => Segments.region (.block id true)
  let current : Document :=
    { segments := region "a" .nil (region "n" (.plain ['n'] .nil) (region "z" .nil .nil))
      nodup := by decide }
  let previous : Document :=
    { segments :=
        region "a" (.plain ['x'] (region "z" (.plain ['z'] .nil) (.plain ['y'] .nil))) .nil
      nodup := by decide }
  have hcurrent : current.segments.Spaced := by
    simp [current, region, Segments.Spaced, Segments.startsPlain]
  have hprevious : previous.segments.Spaced := by
    simp [previous, region, Segments.Spaced, Segments.startsPlain]
  obtain ⟨⟨result, again, hresult, hagain, -, heq⟩, same, hsame, -, hself⟩ :=
    reconcile_stable current previous previous Region.enabled
  obtain rfl := heq hcurrent
  obtain rfl := hself hprevious
  have hids : (current.merge previous).map ids =
      .ok ["a".toList, "n".toList, "z".toList] := by decide
  rw [show current.merge previous = .ok again from hresult] at hids
  exact ⟨current, previous, again, hcurrent, hprevious, hresult, hagain, hsame, Except.ok.inj hids⟩

/-! ## Runs -/

/-- In the document the region `id` may take a body back that has the ids `inside`: the policy keeps
it and no region around it, and it is there that the document has these ids, if at all. -/
def TakesBack (d : Document) (keep : Region → Bool) (id : Text) (inside : List Text) : Prop :=
  ∃ r ∈ d.find? id, keep r = true ∧ (∀ a ∈ d.regions, id ∈ a.body.ids → keep a = false) ∧
    ∀ x ∈ inside, x ∈ d.ids → x ∈ r.ids

instance (d : Document) (keep : Region → Bool) (id : Text) (inside : List Text) :
    Decidable (d.TakesBack keep id inside) :=
  inferInstanceAs (Decidable (∃ r, r ∈ d.find? id ∧ _))

variable {previous current : Document} {id : Text} {old : Region}

/-- One run gives the region its previous body back. -/
theorem find?_reconciled (hold : previous.find? id = some old)
    (hcurrent : current.TakesBack keep id old.body.ids) :
    ∃ r ∈ current.find? id,
      (current.reconciled previous keep).find? id = some (r.withBody old.body.joined) := by
  rcases hcurrent with ⟨r, hr, hkeep, houter, hinside⟩
  rcases Segments.mem_regions_of_find? hr with ⟨hmem, rfl⟩
  have hsource : r.source? previous keep = some old :=
    Region.source?_eq_some_iff.2 ⟨hkeep, hold⟩
  have hfree : ∀ a ∈ current.regions, r ∈ a.body.regions → a.source? previous keep = none := by
    intro a ha hra
    exact if_neg (by simp [houter a ha (Segments.id_mem_ids hra)])
  have hcopy := Segments.mem_copies_of_source hmem hsource hfree
  have hresult : r.withBody (old.body.without (r.isElsewhere current.ids)) ∈
      (current.reconciled previous keep).regions := Segments.withBody_mem_keepBodies hcopy
  -- nothing in the body belongs elsewhere
  have haway : ∀ x ∈ old.body.ids, r.isElsewhere current.ids x = false := by
    intro x hx
    by_cases hxc : x ∈ current.ids
    · simp [Region.isElsewhere, hinside x hx hxc]
    · simp [Region.isElsewhere, hxc]
  rw [Segments.without_eq_joined haway] at hresult
  exact ⟨r, hr, Segments.find?_of_mem_regions (current.reconciled previous keep).nodup hresult⟩

/-- Any number of runs gives the region its first body back, between the markers of the last run. -/
theorem exists_joined_of_foldlM_reconcile (hold : previous.find? id = some old)
    (runs : List Document) (hruns : ∀ d ∈ runs, d.TakesBack keep id old.body.ids) :
    ∃ result, runs.foldlM (fun d next => next.reconcile d keep) previous = .ok result ∧
      ∃ new ∈ result.find? id, new.body.joined = old.body.joined ∧
        ∀ last ∈ runs.getLast?, ∃ r ∈ last.find? id, new.fence = r.fence := by
  induction runs using List.reverseRecOn with
  | nil => exact ⟨previous, rfl, old, hold, rfl, by simp⟩
  | append_singleton runs last ih =>
    rcases ih fun d hd => hruns d (List.mem_append_left _ hd) with ⟨d, hrun, new, hnew, hbody, -⟩
    -- the ids in the body are still the first ones
    have hids : new.body.ids = old.body.ids := by
      rw [← Segments.ids_joined, hbody, Segments.ids_joined]
    have hlast := hruns last (List.mem_append_right _ List.mem_cons_self)
    rw [← hids] at hlast
    rcases find?_reconciled hnew hlast with ⟨r, hr, hfind⟩
    refine ⟨last.reconciled d keep, ?_, _, hfind, ?_, ?_⟩
    · rw [List.foldlM_append, hrun]
      exact congrArg (· >>= pure) (of?_eq_ok (last.reconciled d keep).nodup)
    · rw [Region.withBody, Segments.joined_joined, hbody]
    · simp only [List.getLast?_concat, Option.mem_some_iff, forall_eq']
      exact ⟨r, hr, rfl⟩

/-- The text of the body survives any number of runs under one policy. -/
theorem exists_foldlM_reconcile (hold : previous.find? id = some old) (runs : List Document)
    (hruns : ∀ d ∈ runs, d.TakesBack keep id old.body.ids) :
    ∃ result, runs.foldlM (fun d next => next.reconcile d keep) previous = .ok result ∧
      ∃ new ∈ result.find? id, new.body.content = old.body.content ∧
        ∀ last ∈ runs.getLast?, ∃ r ∈ last.find? id, new.fence = r.fence := by
  rcases exists_joined_of_foldlM_reconcile hold runs hruns with
    ⟨result, hrun, new, hnew, hbody, hlast⟩
  refine ⟨result, hrun, new, hnew, ?_, hlast⟩
  rw [← Segments.content_joined, hbody, Segments.content_joined]

/-- A body survives any number of runs of merging, if each of them has its region enabled, in no
enabled one, and none of the ids in the body elsewhere. The markers and the flag are those of the
last run. The same holds of filling in, for disabled regions. -/
theorem body_survives_runs (hold : previous.find? id = some old) (runs : List Document) :
    ((∀ d ∈ runs, d.TakesBack Region.enabled id old.body.ids) →
      ∃ result, runs.foldlM (fun d next => next.merge d) previous = .ok result ∧
        ∃ new ∈ result.find? id, new.body.content = old.body.content ∧
          ∀ last ∈ runs.getLast?, ∃ r ∈ last.find? id, new.fence = r.fence) ∧
    ((∀ d ∈ runs, d.TakesBack (fun r => !r.enabled) id old.body.ids) →
      ∃ result, runs.foldlM (fun d next => next.fillIn d) previous = .ok result ∧
        ∃ new ∈ result.find? id, new.body.content = old.body.content ∧
          ∀ last ∈ runs.getLast?, ∃ r ∈ last.find? id, new.fence = r.fence) := by
  constructor
  · intro hruns
    exact exists_foldlM_reconcile hold runs hruns
  · intro hruns
    exact exists_foldlM_reconcile hold runs hruns

/-- Two runs of each kind: in the first one the region is in another one that is not kept, in the
second it has a new region `n` in place of its inner region `t`. -/
theorem body_survives_two_runs :
    let region := fun id enabled => Segments.region (.block id enabled)
    let edited := Segments.plain ['x'] (region "t" true (.plain ['y'] .nil) .nil)
    ∃ previous : Document, previous.segments = region "s" true edited .nil ∧
      (∃ first last result : Document, [first, last].foldlM (fun d next => next.merge d) previous =
        .ok result ∧ ∃ new ∈ result.find? "s".toList, new.body.content = edited.content ∧
          new.fence = .block "s" true) ∧
      ∃ first last result : Document, [first, last].foldlM (fun d next => next.fillIn d) previous =
        .ok result ∧ ∃ new ∈ result.find? "s".toList, new.body.content = edited.content ∧
          new.fence = .block "s" false := by
  intro region edited
  let previous : Document := { segments := region "s" true edited .nil, nodup := by decide }
  have hold : previous.find? "s".toList = some { fence := .block "s" true, body := edited } := by
    decide
  refine ⟨previous, rfl, ?_, ?_⟩
  · let first : Document :=
      { segments := region "o" false (region "s" true (.plain ['g'] .nil) .nil) .nil
        nodup := by decide }
    let last : Document :=
      { segments := .plain ['h'] (region "s" true (region "n" true .nil .nil) .nil)
        nodup := by decide }
    obtain ⟨result, hrun, new, hnew, hbody, hlast⟩ :=
      (body_survives_runs hold [first, last]).1 (by decide)
    obtain ⟨r, hr, hfence⟩ := hlast last rfl
    have hmarkers : r.fence = .block "s" true := by
      have hlastregion : last.find? "s".toList = some _ := rfl
      cases hr.symm.trans hlastregion
      rfl
    exact ⟨first, last, result, hrun, new, hnew, hbody, hfence.trans hmarkers⟩
  · let first : Document :=
      { segments := region "o" true (region "s" false (.plain ['g'] .nil) .nil) .nil
        nodup := by decide }
    let last : Document :=
      { segments := .plain ['h'] (region "s" false (region "n" true .nil .nil) .nil)
        nodup := by decide }
    obtain ⟨result, hrun, new, hnew, hbody, hlast⟩ :=
      (body_survives_runs hold [first, last]).2 (by decide)
    obtain ⟨r, hr, hfence⟩ := hlast last rfl
    have hmarkers : r.fence = .block "s" false := by
      have hlastregion : last.find? "s".toList = some _ := rfl
      cases hr.symm.trans hlastregion
      rfl
    exact ⟨first, last, result, hrun, new, hnew, hbody, hfence.trans hmarkers⟩

end Document

end KeptRegions
