import KeptRegions.Proofs.Files.Intact

namespace KeptRegions

/-!
# Trees of texts

What is written to files is text. So a tree in which all files hold text stays one if all bytes are
stored, and nothing but text is read from it. A path that is made of a string has no character that the
string does not have, up to slashes and dots.
-/

theorem Utf8.decode_encode (s : Text) : decode (encode s) = .ok s := by
  have hvalid : (encode s).IsValidUTF8 := (String.ofList s).isValidUTF8
  have hstring : String.fromUTF8? (encode s) = some (String.ofList s) := by
    unfold String.fromUTF8?
    rw [dif_pos hvalid]
    rfl
  unfold decode
  rw [hstring]
  simp

namespace FileTree

variable {t t' : FileTree} {path : String} {text : Text}

/-- Whether all files hold text. -/
def AllText (t : FileTree) : Prop :=
  ∀ l bytes, t.entry? l = some (.file bytes) → ∃ s, Utf8.decode bytes = .ok s

theorem SameFiles.allText (h : t.SameFiles t') (ht : t.AllText) : t'.AllText :=
  fun l bytes hl => ht l bytes ((h l bytes).2 hl)

/-- Whether the system stores all bytes that are written to files it has opened. -/
def StoresAll (t : FileTree) : Prop :=
  ∀ entries l bytes, t.refusals.store entries l bytes = none

theorem AllText.written {r : Except Failure Unit} (ht : t.AllText) (hall : t.StoresAll)
    (h : t.written path text = (r, t')) : t'.AllText := by
  rcases written_cases h with ⟨-, -, rfl⟩ | ⟨-, fault, hwrites, -⟩
  · exact ht
  · cases hwrites with
    | closed => exact ht
    | cut _ hstore =>
      rw [hall] at hstore
      cases hstore
    | whole =>
      intro m bytes hm
      rw [entry?_put] at hm
      split at hm
      · cases hm
        exact ⟨text, Utf8.decode_encode text⟩
      · exact ht m bytes hm

theorem textAt_of_encoded (hnull : hasNull path = false)
    (hread : t.read path = .ok (Utf8.encode text)) : t.textAt path = .ok text := by
  rw [textAt_of_read hnull hread, Utf8.decode_encode]
  rfl

/-- Bytes are read from a file that the system lets be opened and hands out. -/
theorem read_eq_ok {bytes : ByteArray} :
    t.read path = .ok bytes ↔
      ∃ l, t.locate path = .ok l ∧ t.entry? l = some (.file bytes) ∧ t.refusals.read l = none ∧
        t.refusals.fetch l = none := by
  unfold read openToRead
  cases hlocate : t.locate path with
  | error cause => simp [bind, Except.bind]
  | ok l =>
    rcases hentry : t.entry? l with _ | _ | held <;> cases hread : t.refusals.read l <;>
      cases hfetch : t.refusals.fetch l <;>
        simp [bind, Except.bind, pure, Except.pure, throw, throwThe, MonadExceptOf.throw, hentry, hread,
          hfetch]

theorem textAt_eq_ok :
    t.textAt path = .ok text ↔
      hasNull path = false ∧ ∃ bytes, t.read path = .ok bytes ∧ Utf8.decode bytes = .ok text := by
  cases hnull : hasNull path with
  | true => simp [textAt_of_hasNull hnull]
  | false =>
    cases hread : t.read path with
    | error fault => simp [textAt_of_read_error hnull hread]
    | ok bytes =>
      rw [textAt_of_read hnull hread]
      simp only [true_and, Except.ok.injEq, exists_eq_left']
      cases Utf8.decode bytes <;> simp [Except.mapError]

theorem AllText.not_garbles (ht : t.AllText) (hnull : hasNull path = false) : ¬ t.Garbles path := by
  rintro (hnull' | ⟨bytes, fault, hread, hdecode⟩)
  · rw [hnull] at hnull'
    cases hnull'
  · obtain ⟨l, -, hentry, -⟩ := read_eq_ok.1 hread
    obtain ⟨s, hs⟩ := ht l bytes hentry
    rw [hs] at hdecode
    cases hdecode

end FileTree

/-- Bringing a file up to date leaves texts in all files. -/
theorem Syncs.allText {reader : RegionReader} {mode : String} {dryRun : Bool} {path : Path}
    {generated : Text} {t t' : FileTree} {r : Except Failure Action}
    (h : Syncs reader mode dryRun path generated t r t') (ht : t.AllText) (hall : t.StoresAll) :
    t'.AllText := by
  cases h with
  | unseen | unreadable | refused | unchanged | foreseen | foreseenNew => exact ht
  | unwritten _ _ _ _ _ hwrite | updated _ _ _ _ _ hwrite => exact ht.written hall hwrite
  | noDirectory _ _ hdirs => exact (FileTree.grown_withDirectories hdirs).sameFiles.allText ht
  | uncreated _ _ hdirs hwrite | created _ _ hdirs hwrite =>
    have hgrown := FileTree.grown_withDirectories hdirs
    refine (hgrown.sameFiles.allText ht).written (fun entries l bytes => ?_) hwrite
    rw [hgrown.refusals]
    exact hall entries l bytes

/-! ## Characters of paths -/

section Characters

variable {c : Char}

/-- The pieces of a split text are made of its characters other than the separators. -/
theorem mem_of_mem_splitOnP {p : Char → Bool} {s piece : Text} (hpiece : piece ∈ s.splitOnP p)
    (hc : c ∈ piece) : c ∈ s ∧ p c = false := by
  induction s generalizing piece with
  | nil =>
    rw [List.splitOnP_nil, List.mem_singleton] at hpiece
    rw [hpiece] at hc
    cases hc
  | cons x s ih =>
    -- only the first piece can have got the new character
    have hrest : ∀ piece ∈ s.splitOnP p, c ∈ piece → c ∈ x :: s ∧ p c = false :=
      fun piece hpiece hc => ⟨List.mem_cons_of_mem x (ih hpiece hc).1, (ih hpiece hc).2⟩
    rw [List.splitOnP_cons_eq_if_modifyHead] at hpiece
    split at hpiece
    · rcases List.mem_cons.1 hpiece with rfl | hpiece
      · cases hc
      · exact hrest piece hpiece hc
    · rename_i hx
      cases hpieces : s.splitOnP p with
      | nil =>
        rw [hpieces] at hpiece
        cases hpiece
      | cons first pieces =>
        rw [hpieces] at hrest
        rw [hpieces, List.modifyHead_cons] at hpiece
        rcases List.mem_cons.1 hpiece with rfl | hpiece
        · rcases List.mem_cons.1 hc with rfl | hc
          · exact ⟨List.mem_cons_self, by simpa using hx⟩
          · exact hrest first List.mem_cons_self hc
        · exact hrest piece (List.mem_cons_of_mem first hpiece) hc

theorem mem_of_mem_intercalate {sep : Text} {pieces : List Text} (hc : c ∈ sep.intercalate pieces) :
    c ∈ sep ∨ ∃ piece ∈ pieces, c ∈ piece := by
  induction pieces with
  | nil => cases hc
  | cons piece pieces ih =>
    cases pieces with
    | nil => exact .inr ⟨piece, List.mem_cons_self, by simpa using hc⟩
    | cons next pieces =>
      rw [List.intercalate_cons_cons] at hc
      rcases List.mem_append.1 hc with hc | hc
      · rcases List.mem_append.1 hc with hc | hc
        · exact .inr ⟨piece, List.mem_cons_self, hc⟩
        · exact .inl hc
      · rcases ih hc with hc | ⟨piece', hpiece', hc⟩
        · exact .inl hc
        · exact .inr ⟨piece', List.mem_cons_of_mem piece hpiece', hc⟩

namespace Path

/-- What the characters of a path come from, up to slashes and dots. -/
theorem mem_of_mem_toString {p : Path} (hc : c ∈ p.toString.toList) :
    c = '.' ∨ c = '/' ∨ c ∈ p.root.toList ∨ ∃ name ∈ p.names, c ∈ name.toList := by
  unfold toString at hc
  split at hc
  · exact .inl (by simpa using hc)
  · rw [String.toList_append, String.toList_intercalate] at hc
    rcases List.mem_append.1 hc with hc | hc
    · exact .inr (.inr (.inl hc))
    · rcases mem_of_mem_intercalate hc with hc | ⟨piece, hpiece, hc⟩
      · exact .inr (.inl (by simpa using hc))
      · obtain ⟨name, hname, rfl⟩ := List.mem_map.1 hpiece
        exact .inr (.inr (.inr ⟨name, hname, hc⟩))

theorem mem_of_mem_ofString_names {s name : String} (hname : name ∈ (ofString s).names)
    (hc : c ∈ name.toList) : c ∈ s.toList := by
  have hcomponent : name ∈ components s := List.mem_of_mem_filter hname
  obtain ⟨piece, hpiece, rfl⟩ := List.mem_map.1 hcomponent
  exact (mem_of_mem_splitOnP hpiece (by simpa using hc)).1

/-- A path, or the one above it, has no character that no file name can have, if the string that it is
made of has none. -/
theorem hasNull_eq_false {s : String} {p : Path} (hs : hasNull s = false)
    (hroot : p.root = (ofString s).root) (hnames : ∀ name ∈ p.names, name ∈ (ofString s).names) :
    hasNull p.toString = false := by
  rw [Bool.eq_false_iff]
  intro hnull
  have hc : '\x00' ∈ p.toString.toList := by simpa [hasNull] using hnull
  have hs' : '\x00' ∉ s.toList := by simpa [hasNull] using hs
  rcases mem_of_mem_toString hc with hc | hc | hc | ⟨name, hname, hc⟩
  · cases hc
  · cases hc
  · rw [hroot] at hc
    unfold ofString at hc
    revert hc
    dsimp only
    split
    · decide
    · split <;> decide
  · exact hs' (mem_of_mem_ofString_names (hnames name hname) hc)

end Path

end Characters

end KeptRegions
