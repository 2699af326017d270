import KeptRegions.Proofs.Document.Marks
import KeptRegions.Proofs.Document.Standing

namespace KeptRegions

/-!
# Reading reconciled text again

A copied body comes to stand between markers that it was not written between. If these are comments
of another kind, its first line may become part of the start marker, and an end marker behind it may
be lost. So the text of a reconciled document need not be read with the ids of this document. It is
exactly if the comments and markers that are found in the text say so (`read_reconciled_iff`).
-/

namespace RegionReader

variable {reader : RegionReader} {currentText previousText : Text} {current previous : Document}

/-- When the text of a reconciled document is read again with the same content and ids, and when it
is read as the very same document. The former depends on the markers that are found in the text, the
latter on the plain texts between them as well. Where markers are comments, the document is read
again exactly if each of its markers and plain texts stands at its new place. -/
theorem read_reconciled_iff (hcurrent : reader.read currentText = .ok current)
    (hprevious : reader.read previousText = .ok previous) (keep : Region → Bool) :
    ∃ result, current.reconcile previous keep = .ok result ∧
      ((∃ d, reader.read result.content = .ok d ∧ d.content = result.content ∧
          d.ids = result.ids) ↔
        (reader.style.scan result.content).unclosed = none ∧
          Mark.depthAfter? 0 (reader.marks result.content) = some 0 ∧
          Mark.openedIds reader.rules (reader.marks result.content) = result.ids.map some) ∧
      (reader.read result.content = .ok result ↔
        (reader.style.scan result.content).unclosed = none ∧
          reader.marks result.content = result.segments.marks) ∧
      (reader.inverse = false →
        (reader.read result.content = .ok result ↔
          result.segments.Stands reader.style reader.rules [])) := by
  have hcanonical := canonical_reconciled hcurrent hprevious keep
  have hfollows := follows_reconciled hcurrent hprevious keep
  refine ⟨current.reconciled previous keep, Document.of?_eq_ok _, ?_, ?_, ?_⟩
  · exact exists_read_iff hfollows
  · exact read_eq_ok_iff_marks hfollows
  · intro hinverse
    exact read_content_iff_stands hinverse hcanonical hfollows

/-- The body of a region between block comments is copied between line comments. Its line ends keep
it apart from the markers. -/
theorem read_merged_between_kinds :
    let reader := slashes .flat false
    let currentText :=
      "// PROTECTED REGION ID(a) ENABLED START\nnew\n// PROTECTED REGION END\n".toList
    let previousText :=
      "/* PROTECTED REGION ID(a) ENABLED START */\nold\n/* PROTECTED REGION END */".toList
    ∃ current previous result,
      reader.read currentText = .ok current ∧ reader.read previousText = .ok previous ∧
        current.merge previous = .ok result ∧ result.ids = ["a".toList] ∧
        reader.read result.content = .ok result := by
  intro reader currentText previousText
  have hcheck : ((do
      let current ← reader.read currentText
      let previous ← reader.read previousText
      let result ← current.merge previous
      return (result.ids, (reader.style.scan result.content).unclosed.isNone,
        decide (reader.marks result.content = result.segments.marks))) :
      Except RegionFault (List Text × Bool × Bool)) = .ok (["a".toList], true, true) := by
    decide +kernel
  obtain ⟨current, previous, merged, hcurrent, hprevious, hmerge, hfound⟩ :=
    exists_of_read_merge hcheck
  simp only [Prod.mk.injEq, Option.isNone_iff_eq_none, decide_eq_true_eq] at hfound
  obtain ⟨result, hresult, -, hmarks, -⟩ :=
    read_reconciled_iff hcurrent hprevious Region.enabled
  obtain rfl : merged = result := Except.ok.inj (hmerge.symm.trans hresult)
  exact ⟨current, previous, merged, hcurrent, hprevious, hmerge, hfound.1, hmarks.2 hfound.2⟩

/-- Reconciled text is not always read with the same ids: a body within a line, copied behind a line
comment, becomes part of it together with the end marker. -/
theorem merge_loses_region :
    ¬ ∀ (reader : RegionReader) (currentText previousText : Text)
      (current previous result : Document),
      reader.read currentText = .ok current → reader.read previousText = .ok previous →
      current.merge previous = .ok result →
      ∃ d, reader.read result.content = .ok d ∧ d.content = result.content ∧
        d.ids = result.ids := by
  intro h
  let reader := slashes .flat false
  let currentText :=
    "// PROTECTED REGION ID(a) ENABLED START\nnew\n// PROTECTED REGION END\n".toList
  let previousText :=
    "/* PROTECTED REGION ID(a) ENABLED START */ old /* PROTECTED REGION END */".toList
  have hcheck : ((do
      let current ← reader.read currentText
      let previous ← reader.read previousText
      let result ← current.merge previous
      return (result.ids, (reader.read result.content).map Document.ids)) :
      Except RegionFault (List Text × Except RegionFault (List Text))) =
        .ok (["a".toList], .ok []) := by
    decide +kernel
  obtain ⟨current, previous, result, hcurrent, hprevious, hmerge, hfound⟩ :=
    exists_of_read_merge hcheck
  rcases Prod.mk.inj hfound with ⟨hresult, hagain⟩
  rcases h reader _ _ current previous result hcurrent hprevious hmerge with ⟨d, hread, -, hids⟩
  -- the text is read again, but without the region
  rw [hread] at hagain
  rw [hresult, Except.ok.inj hagain] at hids
  exact absurd hids (by decide)

end RegionReader

end KeptRegions
