import KeptRegions.Sync
import KeptRegions.Proofs.Document.Copying
import KeptRegions.Proofs.Document.Layout

namespace KeptRegions

/-!
# Steps of sessions

No step looks at the journal, so what steps come to is decided by the file tree they start from. For
each step it is said here how it ends and which tree it leaves.
-/

namespace Session

variable {α β : Type} {x : Session α} {f : α → Session β} {a : α} {t t' t₁ : FileTree}
  {r : Except Failure α}

/-- From the tree `t` the steps end with the result `r` and the tree `t'`, whatever the journal. -/
def Ends (x : Session α) (t : FileTree) (r : Except Failure α) (t' : FileTree) : Prop :=
  ∀ journal, ∃ journal', x.run.run { tree := t, journal } = (r, { tree := t', journal := journal' })

theorem Ends.unique {r' : Except Failure α} (h : x.Ends t r t₁) (h' : x.Ends t r' t') :
    r = r' ∧ t₁ = t' := by
  obtain ⟨_, h⟩ := h []
  obtain ⟨_, h'⟩ := h' []
  obtain ⟨hr, hw⟩ := Prod.mk.inj (h.symm.trans h')
  exact ⟨hr, (World.mk.inj hw).1⟩

theorem Ends.exists_runOn (h : x.Ends t r t') :
    ∃ journal, x.runOn t = (r, { tree := t', journal }) :=
  h []

theorem Ends.eq_of_runOn {r' : Except Failure α} {w : World} (h : x.Ends t r t')
    (hrun : x.runOn t = (r', w)) : r' = r ∧ w.tree = t' := by
  obtain ⟨journal, hrun'⟩ := h.exists_runOn
  rw [hrun] at hrun'
  cases hrun'
  exact ⟨rfl, rfl⟩

theorem run_bind (x : Session α) (f : α → Session β) (w : World) :
    (x >>= f).run.run w =
      match x.run.run w with
      | (.ok a, w) => (f a).run.run w
      | (.error e, w) => (.error e, w) := by
  show (match x.run.run w with | (r, w) => ExceptT.bindCont f r w) = _
  rcases x.run.run w with ⟨r, w⟩
  cases r <;> rfl

theorem run_outcome (x : Session α) (w : World) :
    (outcome x).run.run w = (.ok (x.run.run w).1, (x.run.run w).2) := rfl

theorem ends_pure (a : α) (t : FileTree) : (pure a : Session α).Ends t (.ok a) t :=
  fun journal => ⟨journal, rfl⟩

theorem ends_throw (e : Failure) (t : FileTree) : (throw e : Session α).Ends t (.error e) t :=
  fun journal => ⟨journal, rfl⟩

theorem Ends.bind {r : Except Failure β} (h : x.Ends t (.ok a) t₁) (hf : (f a).Ends t₁ r t') :
    (x >>= f).Ends t r t' := by
  intro journal
  obtain ⟨journal₁, h₁⟩ := h journal
  obtain ⟨journal', h'⟩ := hf journal₁
  exact ⟨journal', by rw [run_bind, h₁]; exact h'⟩

theorem Ends.bind_error {e : Failure} (h : x.Ends t (.error e) t') :
    (x >>= f).Ends t (.error e) t' := by
  intro journal
  obtain ⟨journal', h'⟩ := h journal
  exact ⟨journal', by rw [run_bind, h']⟩

theorem ends_get_bind {f : World → Session β} {r : Except Failure β}
    (h : ∀ journal, (f { tree := t, journal }).Ends t r t') : (get >>= f : Session β).Ends t r t' := by
  intro journal
  obtain ⟨journal', h'⟩ := h journal journal
  exact ⟨journal', h'⟩

theorem ends_setTree (t t' : FileTree) :
    (modify ({ · with tree := t' }) : Session Unit).Ends t (.ok ()) t' :=
  fun journal => ⟨journal, rfl⟩

theorem ends_note (events : List Event) (t : FileTree) : (note events).Ends t (.ok ()) t :=
  fun journal => ⟨journal ++ events, rfl⟩

theorem Ends.outcome (h : x.Ends t r t') : (outcome x).Ends t (.ok r) t' := by
  intro journal
  obtain ⟨journal', h'⟩ := h journal
  exact ⟨journal', by rw [run_outcome, h']⟩

theorem ends_lift {ε : Type} (wrap : ε → Failure) (e : Except ε α) (t : FileTree) :
    (lift wrap e).Ends t (e.mapError wrap) t := by
  cases e with
  | ok a => exact ends_pure a t
  | error e => exact ends_throw (wrap e) t

/-- Steps that leave the tree, followed by others that leave it. -/
theorem Ends.andThen {s : α → Except Failure β} (h : x.Ends t r t)
    (hf : ∀ a, (f a).Ends t (s a) t) : (x >>= f).Ends t (r >>= s) t := by
  cases r with
  | ok a => exact h.bind (hf a)
  | error e => exact h.bind_error

theorem ends_mapM {g : α → β} (h : ∀ a, (f a).Ends t (.ok (g a)) t) (l : List α) :
    (l.mapM f).Ends t (.ok (l.map g)) t := by
  induction l with
  | nil => exact ends_pure [] t
  | cons a l ih =>
    rw [List.mapM_cons]
    exact (h a).bind (ih.bind (ends_pure _ t))

end Session

/-! ## What is in the files -/

/-- Paths that a file can have. -/
def usable (path : String) : Except Failure Unit :=
  if hasNull path then .error .nullInPath else .ok ()

/-- Success, unless there is a fault. -/
def unlessFault : Option FileFault → Except Failure Unit
  | none => .ok ()
  | some fault => .error (.file fault)

namespace FileTree

/-- The bytes of the file at a path. -/
def bytesAt (t : FileTree) (path : String) : Except Failure ByteArray := do
  usable path
  (t.read path).mapError .file

/-- The text of the file at a path. -/
def textAt (t : FileTree) (path : String) : Except Failure Text := do
  (Utf8.decode (← t.bytesAt path)).mapError .decode

/-- The document in the file at a path. -/
def documentAt (t : FileTree) (reader : RegionReader) (path : String) : Except Failure Document := do
  (reader.read (← t.textAt path)).mapError .region

/-- Whether there is something at a path. -/
def seenAt (t : FileTree) (path : String) : Except Failure Bool :=
  (t.has path).mapError fun cause => .file (.of cause path)

/-- What a change of the files comes to, for a path that a file can have, and the tree it leaves. -/
def changed (t : FileTree) (path : String) (f : FileTree → FileTree × Option FileFault) :
    Except Failure Unit × FileTree :=
  if hasNull path then (.error .nullInPath, t) else (unlessFault (f t).2, (f t).1)

/-- What it comes to to write a text to the file at a path. -/
def written (t : FileTree) (path : String) (text : Text) : Except Failure Unit × FileTree :=
  t.changed path (·.write path (Utf8.encode text))

/-- What it comes to to make the directory at a path and those above it. -/
def withDirectories (t : FileTree) (path : Path) : Except Failure Unit × FileTree :=
  t.changed path.toString (·.makeDirectories (path.names.length + 1) path)

/-- Whether nothing but garbage can be read at a path: no file can have it, or the bytes of its file
are no text. -/
def Garbles (t : FileTree) (path : String) : Prop :=
  hasNull path = true ∨ ∃ bytes fault, t.read path = .ok bytes ∧ Utf8.decode bytes = .error fault

section Access

variable {t t' : FileTree} {path : String} {text : Text} {e : Failure}
  {f : FileTree → FileTree × Option FileFault}

/-! ### Reading -/

theorem textAt_of_hasNull (hnull : hasNull path = true) : t.textAt path = .error .nullInPath := by
  unfold textAt bytesAt usable
  rw [if_pos hnull]
  rfl

theorem textAt_of_read_error {fault : FileFault} (hnull : hasNull path = false)
    (hread : t.read path = .error fault) : t.textAt path = .error (.file fault) := by
  unfold textAt bytesAt usable
  rw [if_neg (by simp [hnull]), hread]
  rfl

theorem textAt_of_read {bytes : ByteArray} (hnull : hasNull path = false)
    (hread : t.read path = .ok bytes) :
    t.textAt path = (Utf8.decode bytes).mapError .decode := by
  unfold textAt bytesAt usable
  rw [if_neg (by simp [hnull]), hread]
  rfl

/-- Why no text can be read: garbage, or a file whose bytes the system does not hand out. -/
theorem textAt_error_cases (h : t.textAt path = .error e) :
    t.Garbles path ∧ (e = .nullInPath ∨ ∃ fault, e = .decode fault) ∨
      ¬ t.Garbles path ∧ ∃ fault, e = .file fault := by
  cases hnull : hasNull path with
  | true =>
    rw [textAt_of_hasNull hnull] at h
    cases h
    exact .inl ⟨.inl hnull, .inl rfl⟩
  | false =>
    unfold Garbles
    cases hread : t.read path with
    | error fault =>
      rw [textAt_of_read_error hnull hread] at h
      cases h
      exact .inr ⟨by simp [hnull], fault, rfl⟩
    | ok bytes =>
      rw [textAt_of_read hnull hread] at h
      cases hdecode : Utf8.decode bytes with
      | ok text =>
        rw [hdecode] at h
        cases h
      | error fault =>
        rw [hdecode] at h
        cases h
        exact .inl ⟨.inr ⟨bytes, fault, rfl, hdecode⟩, .inr ⟨fault, rfl⟩⟩

theorem not_garbles_of_textAt (h : t.textAt path = .ok text) : ¬ t.Garbles path := by
  rintro (hnull | ⟨bytes, fault, hread, hdecode⟩)
  · rw [textAt_of_hasNull hnull] at h
    cases h
  · cases hnull : hasNull path with
    | true =>
      rw [textAt_of_hasNull hnull] at h
      cases h
    | false =>
      rw [textAt_of_read hnull hread, hdecode] at h
      cases h

theorem documentAt_of_textAt (reader : RegionReader) (h : t.textAt path = .ok text) :
    t.documentAt reader path = (reader.read text).mapError .region := by
  unfold documentAt
  rw [h]
  rfl

theorem documentAt_of_textAt_error (reader : RegionReader) (h : t.textAt path = .error e) :
    t.documentAt reader path = .error e := by
  unfold documentAt
  rw [h]
  rfl

/-! ### Looking -/

theorem seenAt_eq_error :
    t.seenAt path = .error e ↔ ∃ cause, t.has path = .error cause ∧ e = .file (.of cause path) := by
  unfold seenAt
  cases t.has path <;> simp [Except.mapError, eq_comm]

/-! ### Changing -/

theorem unlessFault_eq_ok {fault : Option FileFault} : unlessFault fault = .ok () ↔ fault = none := by
  cases fault <;> simp [unlessFault]

theorem unlessFault_eq_error {fault : Option FileFault} :
    unlessFault fault = .error e ↔ ∃ reason, fault = some reason ∧ e = .file reason := by
  cases fault <;> simp [unlessFault, eq_comm]

/-- What can be wrong with a change: no file can have the path, or an operation on files fails. -/
theorem changed_error_cases (h : t.changed path f = (.error e, t')) :
    hasNull path = true ∧ e = .nullInPath ∧ t' = t ∨
      hasNull path = false ∧ ∃ fault, e = .file fault ∧ f t = (t', some fault) := by
  unfold changed at h
  split at h
  · rename_i hnull
    cases h
    exact .inl ⟨hnull, rfl, rfl⟩
  · rename_i hnull
    obtain ⟨hresult, rfl⟩ := Prod.mk.inj h
    obtain ⟨fault, hfault, rfl⟩ := unlessFault_eq_error.1 hresult
    exact .inr ⟨by simpa using hnull, fault, rfl, Prod.ext rfl hfault⟩

theorem changed_eq_ok :
    t.changed path f = (.ok (), t') ↔ hasNull path = false ∧ f t = (t', none) := by
  unfold changed
  cases hnull : hasNull path with
  | true => simp
  | false => simp [unlessFault_eq_ok, Prod.ext_iff, and_comm]

end Access

end FileTree

/-- The generated text with the bodies that the mode keeps from an existing one. -/
def RegionReader.renewed (reader : RegionReader) (mode : String) (generated existing : Text) :
    Except Failure Text :=
  match Mode.ofName? mode with
  | none => .error (.unknownMode mode)
  | some mode => do
    let current ← (reader.read generated).mapError .region
    let previous ← (reader.read existing).mapError .region
    return (current.reconciled previous mode.keeps).content

namespace Session

/-! ## Steps on files -/

theorem ends_checkPath (path : String) (t : FileTree) : (checkPath path).Ends t (usable path) t := by
  unfold checkPath usable
  split
  · exact ends_throw _ t
  · exact ends_pure _ t

theorem ends_readBytes (path : String) (t : FileTree) :
    (readBytes path).Ends t (t.bytesAt path) t :=
  (ends_checkPath path t).andThen fun _ => ends_get_bind fun _ => ends_lift _ _ t

theorem ends_readText (path : String) (t : FileTree) :
    (readText .utf8 path).Ends t (t.textAt path) t :=
  (ends_readBytes path t).andThen fun bytes => ends_lift _ (Utf8.decode bytes) t

theorem ends_there (path : String) (t : FileTree) : (there path).Ends t (t.seenAt path) t :=
  ends_get_bind fun _ => ends_lift _ _ t

theorem ends_changed (path : String) (f : FileTree → FileTree × Option FileFault) (t : FileTree) :
    Ends (do checkPath path; change f) t (t.changed path f).1 (t.changed path f).2 := by
  have hcheck := ends_checkPath path t
  unfold FileTree.changed
  unfold usable at hcheck
  split
  · rename_i hnull
    rw [if_pos hnull] at hcheck
    exact hcheck.bind_error
  · rename_i hnull
    rw [if_neg hnull] at hcheck
    refine hcheck.bind (ends_get_bind fun journal => ?_)
    dsimp only
    rcases f t with ⟨t', _ | fault⟩
    · exact (ends_setTree t t').bind (ends_pure () t')
    · exact (ends_setTree t t').bind (ends_throw (.file fault) t')

theorem ends_writeText {path : String} {text : Text} {t t' : FileTree} {r : Except Failure Unit}
    (h : t.written path text = (r, t')) : (writeText path text).Ends t r t' := by
  have hends := ends_changed path (·.write path (Utf8.encode text)) t
  rwa [show t.changed path _ = _ from h] at hends

theorem ends_makeDirectories {path : Path} {t t' : FileTree} {r : Except Failure Unit}
    (h : t.withDirectories path = (r, t')) : (makeDirectories path).Ends t r t' := by
  have hends := ends_changed path.toString (·.makeDirectories (path.names.length + 1) path) t
  rwa [show t.changed path.toString _ = _ from h] at hends

/-! ## Steps on documents -/

theorem ends_read (reader : RegionReader) (text : Text) (t : FileTree) :
    (read reader text).Ends t ((reader.read text).mapError .region) t := by
  have h := ends_lift Failure.region (reader.read text) t
  unfold read
  cases hread : reader.read text with
  | error fault =>
    rw [hread] at h
    exact h.bind_error
  | ok d =>
    rw [hread] at h
    exact h.bind ((ends_note [.ofDocument d] t).bind (ends_pure d t))

theorem ends_readDocument (reader : RegionReader) (path : String) (t : FileTree) :
    (readDocument reader .utf8 path).Ends t (t.documentAt reader path) t :=
  (ends_readText path t).andThen fun text => ends_read reader text t

theorem ends_reconcile (keep : Region → Bool) (current previous : Document) (t : FileTree) :
    (reconcile keep current previous).Ends t (.ok (current.reconciled previous keep)) t := by
  have hok : current.reconcile previous keep = .ok (current.reconciled previous keep) :=
    Document.of?_eq_ok _
  have h := ends_lift Failure.region (current.reconcile previous keep) t
  refine (ends_note _ t).bind ?_
  rwa [hok] at h ⊢

theorem ends_reconcileTexts (reader : RegionReader) (mode : String) (generated existing : Text)
    (t : FileTree) :
    (reconcileTexts reader mode generated existing).Ends t
      (reader.renewed mode generated existing) t := by
  unfold reconcileTexts RegionReader.renewed
  cases Mode.ofName? mode with
  | none => exact ends_throw _ t
  | some mode =>
    exact (ends_read reader generated t).andThen fun current =>
      (ends_read reader existing t).andThen fun previous =>
        (ends_reconcile mode.keeps current previous t).bind (ends_pure _ t)

end Session

end KeptRegions
