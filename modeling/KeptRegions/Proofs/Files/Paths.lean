import KeptRegions.Proofs.Files.Texts

namespace KeptRegions

/-!
# Where paths lead

What a path leads to is decided by the directories of the tree alone, and a path in normal form leads
to the same place as the string that it was made of. Two trees with the same directories can thus be
compared file by file.
-/

/-! ## Normal forms -/

namespace Path

/-- Whether a name of a path can be passed over: it is empty or a single dot. -/
def Skipped (name : String) : Prop :=
  name = "" ∨ name = "."

instance (name : String) : Decidable (Skipped name) :=
  inferInstanceAs (Decidable (_ ∨ _))

/-- Whether a path is in normal form. -/
structure Normal (p : Path) : Prop where
  root : p.root = "" ∨ p.root = "/" ∨ p.root = "//"
  noSlash : ∀ name ∈ p.names, '/' ∉ name.toList
  notSkipped : ∀ name ∈ p.names, ¬ Skipped name

section Components

variable {p : Path} {s : String}

theorem components_ne_nil (s : String) : components s ≠ [] := by
  unfold components
  simp [List.splitOnP_ne_nil]

theorem components_slash (s : String) : components ("/" ++ s) = "" :: components s := by
  unfold components
  rw [String.toList_append, show "/".toList = ['/'] from rfl, List.singleton_append,
    List.splitOnP_cons_eq_if_modifyHead, if_pos (by decide)]
  rfl

theorem components_append_slash (s : String) : components (s ++ "/") = components s ++ [""] := by
  unfold components
  rw [String.toList_append, show "/".toList = ['/'] from rfl,
    List.splitOnP_append_cons s.toList [] (by decide), List.splitOnP_nil, List.map_append]
  rfl

theorem noSlash_of_mem_components {name : String} (h : name ∈ components s) :
    '/' ∉ name.toList := by
  obtain ⟨piece, hpiece, rfl⟩ := List.mem_map.1 h
  intro hslash
  exact absurd (mem_of_mem_splitOnP hpiece (by simpa using hslash)).2 (by decide)

theorem components_intercalate {names : List String} (hne : names ≠ [])
    (h : ∀ name ∈ names, '/' ∉ name.toList) :
    components (String.intercalate "/" names) = names := by
  have hsplit : List.splitOn '/' (['/'].intercalate (names.map String.toList)) =
      names.map String.toList :=
    List.splitOn_intercalate '/' (by simpa using h) (by simpa using hne)
  unfold components
  rw [String.toList_intercalate]
  exact (congrArg (List.map String.ofList) hsplit).trans (by simp [Function.comp_def])

theorem normal_ofString (s : String) : (ofString s).Normal where
  root := by
    unfold ofString
    dsimp only
    split
    · exact .inl rfl
    · split
      · exact .inr (.inr rfl)
      · exact .inr (.inl rfl)
  noSlash name hname := noSlash_of_mem_components (List.mem_of_mem_filter hname)
  notSkipped name hname := by
    have hkept := (List.mem_filter.1 hname).2
    unfold Skipped
    simpa using hkept

theorem Normal.parent (h : p.Normal) : p.parent.Normal where
  root := h.root
  noSlash name hname := h.noSlash name (List.dropLast_subset _ hname)
  notSkipped name hname := h.notSkipped name (List.dropLast_subset _ hname)

/-- A path without names is its own parent. -/
theorem parent_eq_self (h : p.names = []) : p.parent = p := by
  unfold parent
  rw [h]
  exact congrArg (Path.mk p.root) h.symm

theorem exists_of_startsWith_slash (h : s.startsWith "/" = true) : ∃ rest, s = "/" ++ rest := by
  obtain ⟨rest, hrest⟩ := String.startsWith_string_iff.1 h
  exact ⟨String.ofList rest, by rw [← String.toList_inj, String.toList_append, ← hrest]; simp⟩

theorem exists_of_endsWith_slash (h : s.endsWith "/" = true) : ∃ rest, s = rest ++ "/" := by
  obtain ⟨rest, hrest⟩ := String.Slice.endsWith_string_iff.1
    ((String.endsWith_toSlice (s := s)).trans h)
  exact ⟨String.ofList rest, by
    rw [← String.toList_inj, String.toList_append]
    simpa using hrest.symm⟩

theorem startsWith_slash (rest : String) : ("/" ++ rest).startsWith "/" = true :=
  String.startsWith_string_iff.2 ⟨rest.toList, (String.toList_append).symm⟩

/-- The names between the slashes of a normal path as it is written are its own ones, after some empty
ones or, for the working directory itself, a dot. -/
theorem Normal.components_toString (h : p.Normal) :
    ∃ skipped, components p.toString = skipped ++ p.names ∧ (skipped = [] → p.names ≠ []) ∧
      ∀ name ∈ skipped, name = "" ∨ name = "." ∧ p.root = "" ∧ p.names = [] := by
  obtain ⟨root, names⟩ := p
  have hjoined : ∃ skipped, components (String.intercalate "/" names) = skipped ++ names ∧
      ∀ name ∈ skipped, name = "" := by
    by_cases hne : names = []
    · exact ⟨[""], by rw [hne]; decide, by decide⟩
    · exact ⟨[], components_intercalate hne h.noSlash, by simp⟩
  obtain ⟨skipped, hnames, hskipped⟩ := hjoined
  unfold toString
  rcases h.root with hroot | hroot | hroot <;> dsimp only at hroot <;> subst hroot
  · by_cases hne : names = []
    · exact ⟨["."], by rw [hne]; decide, by simp, by simp [hne]⟩
    · refine ⟨[], ?_, fun _ => hne, by simp⟩
      rw [if_neg (by simpa using hne), String.empty_append]
      exact components_intercalate hne h.noSlash
  · refine ⟨"" :: skipped, ?_, by simp, fun name hname => .inl ?_⟩
    · rw [if_neg (by simp), components_slash, hnames]
      rfl
    · rcases List.mem_cons.1 hname with hname | hname
      · exact hname
      · exact hskipped name hname
  · refine ⟨"" :: "" :: skipped, ?_, by simp, fun name hname => .inl ?_⟩
    · rw [if_neg (by simp), show "//" = "/" ++ "/" from rfl, String.append_assoc, components_slash,
        components_slash, hnames]
      rfl
    · simp only [List.mem_cons] at hname
      rcases hname with hname | hname | hname
      · exact hname
      · exact hname
      · exact hskipped name hname

/-- A normal path is written with a slash at its end only if it has no names. -/
theorem Normal.names_eq_nil (h : p.Normal) (hslash : p.toString.endsWith "/" = true) :
    p.names = [] := by
  obtain ⟨rest, hrest⟩ := exists_of_endsWith_slash hslash
  obtain ⟨skipped, hnames, -⟩ := h.components_toString
  rw [hrest, components_append_slash] at hnames
  by_contra hne
  have hlast := congrArg List.getLast? hnames
  rw [List.getLast?_append_of_ne_nil _ hne, List.getLast?_concat] at hlast
  exact h.notSkipped "" (List.mem_of_getLast? hlast.symm) (.inl rfl)

/-- A normal path is written with a slash in front exactly if it is one from the root. -/
theorem Normal.startsWith_toString (h : p.Normal) :
    p.toString.startsWith "/" = true ↔ p.root ≠ "" := by
  constructor
  · intro hstart hroot
    obtain ⟨rest, hrest⟩ := exists_of_startsWith_slash hstart
    have hempty : "" ∈ components p.toString := by
      rw [hrest, components_slash]
      exact List.mem_cons_self
    by_cases hne : p.names = []
    · rw [toString, if_pos (by simp [hroot, hne])] at hempty
      exact absurd hempty (by decide)
    · rw [toString, if_neg (by simp [hne]), hroot, String.empty_append,
        components_intercalate hne h.noSlash] at hempty
      exact h.notSkipped "" hempty (.inl rfl)
  · intro hroot
    rw [toString, if_neg (by simp [hroot])]
    rcases h.root with hempty | hone | htwo
    · exact absurd hempty hroot
    · rw [hone]
      exact startsWith_slash _
    · rw [htwo, show "//" = "/" ++ "/" from rfl, String.append_assoc]
      exact startsWith_slash _

theorem Normal.toString_ne_empty (h : p.Normal) : p.toString ≠ "" := by
  intro hempty
  have hroot : p.root = "" := by
    by_contra hroot
    have hstart := h.startsWith_toString.2 hroot
    rw [hempty] at hstart
    exact absurd hstart (by decide)
  by_cases hne : p.names = []
  · rw [toString, if_pos (by simp [hroot, hne])] at hempty
    exact absurd hempty (by decide)
  · rw [toString, if_neg (by simp [hne]), hroot, String.empty_append] at hempty
    have hnames := components_intercalate hne h.noSlash
    rw [hempty] at hnames
    exact h.notSkipped "" (hnames ▸ by decide) (.inl rfl)

/-- The first name of a string is empty only if nothing or a slash comes first. -/
theorem head_components_ne_empty (hne : s ≠ "") (hslash : s.startsWith "/" = false) :
    ∃ name names, components s = name :: names ∧ name ≠ "" := by
  obtain ⟨c, cs, hcs⟩ : ∃ c cs, s.toList = c :: cs :=
    List.exists_cons_of_ne_nil (by simpa using hne)
  have hc : c ≠ '/' := by
    rintro rfl
    rw [show s = "/" ++ String.ofList cs by rw [← String.toList_inj, hcs]; simp,
      startsWith_slash] at hslash
    cases hslash
  obtain ⟨piece, pieces, hpieces⟩ := List.exists_cons_of_ne_nil
    (List.splitOnP_ne_nil (fun c => decide (c = '/')) cs)
  refine ⟨String.ofList (c :: piece), pieces.map String.ofList, ?_, ?_⟩
  · unfold components
    rw [hcs, List.splitOnP_cons_eq_if_modifyHead, if_neg (by simpa using hc), hpieces]
    rfl
  · rw [Ne, ← String.toList_inj]
    simp

theorem ofString_root (s : String) : (ofString s).root ≠ "" ↔ s.startsWith "/" = true := by
  rw [String.startsWith_string_iff, show "/".toList = ['/'] from rfl]
  unfold ofString
  rcases s.toList with _ | ⟨c, cs⟩
  · simp
  · by_cases hc : c = '/'
    · simp [hc]
      split <;> decide
    · simp [hc, eq_comm]

end Components

end Path

/-! ## Following names -/

namespace FileTree

open KeptRegions.Path (Skipped)

/-- Whether a name can be followed from a location. -/
def Follows (t : FileTree) (l : Location) (name : String) : Prop :=
  t.isDirectory l = true ∧ (name ≠ "" → t.refusals.follow l name = none)

variable {t t' : FileTree} {l m d : Location} {name path : String} {names : List String} {p : Path}

theorem next_of_skipped (h : Skipped name) (l : Location) : next l name = l := by
  unfold next
  rw [if_pos (by simpa [Skipped] using h)]

theorem entry?_eq_directory : t.entry? l = some .directory ↔ t.isDirectory l = true := by
  simp [isDirectory]

/-- What a name leads to from a directory depends on nothing else that is in a tree. -/
theorem follow_congr (h : t.isDirectory l = true) (h' : t'.isDirectory l = true)
    (hrefusals : t'.refusals = t.refusals) (name : String) : t'.follow l name = t.follow l name := by
  unfold follow
  rw [entry?_eq_directory.2 h, entry?_eq_directory.2 h', hrefusals]

theorem follow_eq_ok : t.follow l name = .ok m ↔ t.Follows l name ∧ next l name = m := by
  unfold Follows
  rw [← entry?_eq_directory, follow]
  split <;> simp_all
  cases hname : decide (name = "") <;> cases hrefusal : t.refusals.follow l name <;> simp_all

@[simp]
theorem walk_nil : t.walk l [] = .ok m ↔ l = m := by
  simp [walk, pure, Except.pure]

theorem walk_cons :
    t.walk l (name :: names) = .ok m ↔ t.Follows l name ∧ t.walk (next l name) names = .ok m := by
  unfold walk
  rw [List.foldlM_cons]
  cases hfollow : t.follow l name with
  | error cause =>
    refine iff_of_false (by simp [bind, Except.bind]) ?_
    rintro ⟨hfollows, -⟩
    rw [follow_eq_ok.2 ⟨hfollows, rfl⟩] at hfollow
    cases hfollow
  | ok k =>
    obtain ⟨hfollows, rfl⟩ := follow_eq_ok.1 hfollow
    simp [bind, Except.bind, hfollows]

/-- Names are followed one after the other. -/
theorem walk_append (t : FileTree) (l : Location) (first second : List String) :
    t.walk l (first ++ second) = t.walk l first >>= fun k => t.walk k second :=
  List.foldlM_append

theorem walk_append_eq_ok {first second : List String} :
    t.walk l (first ++ second) = .ok m ↔
      ∃ k, t.walk l first = .ok k ∧ t.walk k second = .ok m := by
  rw [walk_append]
  cases t.walk l first <;> simp [bind, Except.bind]

theorem walk_skipped (h : ∀ name ∈ names, Skipped name) (hne : names ≠ []) :
    t.walk l names = .ok m ↔
      t.isDirectory l = true ∧ ("." ∈ names → t.refusals.follow l "." = none) ∧ l = m := by
  induction names with
  | nil => exact absurd rfl hne
  | cons name names ih =>
    obtain ⟨hname, hnames⟩ := List.forall_mem_cons.1 h
    rw [walk_cons, next_of_skipped hname]
    unfold Follows
    rcases eq_or_ne names [] with rfl | hne'
    · rcases hname with rfl | rfl <;> simp [and_assoc]
    · rw [ih hnames hne']
      rcases hname with rfl | rfl
      · simp
      · simp
        tauto

/-- Names that are passed over can be left out. They can be put in only where a directory is. -/
theorem walk_filter (h : t.walk l names = .ok m) :
    t.walk l (names.filter fun name => name ≠ "" && name ≠ ".") = .ok m := by
  induction names generalizing l with
  | nil => exact h
  | cons name names ih =>
    obtain ⟨hfollows, hrest⟩ := walk_cons.1 h
    by_cases hname : Skipped name
    · rw [next_of_skipped hname] at hrest
      rw [List.filter_cons_of_neg (by simpa [Skipped, or_iff_not_imp_left] using hname)]
      exact ih hrest
    · rw [List.filter_cons_of_pos (by simpa [Skipped] using hname)]
      exact walk_cons.2 ⟨hfollows, ih hrest⟩

/-! ## Locations of paths -/

/-- Where the names of a path are followed from. -/
def base (t : FileTree) (p : Path) : Location :=
  if p.root = "" then t.cwd else []

theorem locate_eq_ok :
    t.locate path = .ok l ↔
      path ≠ "" ∧
        t.walk (if path.startsWith "/" then [] else t.cwd) (Path.components path) = .ok l := by
  unfold locate
  split <;> simp_all

/-- Whether the names of a path can be followed from where they start. For the working directory
itself, which is written as a dot, this takes a name to follow. -/
def Enters (t : FileTree) (p : Path) : Prop :=
  t.isDirectory (t.base p) = true ∧
    (p.root = "" → p.names = [] → t.refusals.follow (t.base p) "." = none)

theorem locate_toString (h : p.Normal) :
    t.locate p.toString = .ok l ↔ t.Enters p ∧ t.walk (t.base p) p.names = .ok l := by
  obtain ⟨skipped, hnames, hne, hskipped⟩ := h.components_toString
  have hstart : (if p.toString.startsWith "/" then [] else t.cwd) = t.base p := by
    unfold base
    simp only [h.startsWith_toString, ite_not]
  have hskip : ∀ name ∈ skipped, Skipped name :=
    fun name hname => (hskipped name hname).imp id And.left
  rw [locate_eq_ok, hstart, hnames, walk_append_eq_ok, and_iff_right h.toString_ne_empty]
  unfold Enters
  rcases eq_or_ne skipped [] with rfl | hskipped'
  · -- then there is a first name, and that it can be followed says that a directory is there
    obtain ⟨name, names, hcons⟩ := List.exists_cons_of_ne_nil (hne rfl)
    simp only [walk_nil, exists_eq_left', hcons, reduceCtorEq, false_imp_iff, implies_true, and_true,
      iff_and_self]
    exact fun hwalk => (walk_cons.1 hwalk).1.1
  · have hdot : "." ∈ skipped ↔ p.root = "" ∧ p.names = [] := by
      constructor
      · intro hmem
        exact (hskipped "." hmem).resolve_left (by decide) |>.2
      · rintro ⟨hroot, hnil⟩
        by_contra hmem
        have hempty : ∀ name ∈ skipped, name = "" := by
          intro name hname
          rcases hskipped name hname with hname' | ⟨rfl, -⟩
          · exact hname'
          · exact absurd hname hmem
        obtain ⟨name, names, hhead, hname⟩ := Path.head_components_ne_empty h.toString_ne_empty
          (by simpa [hroot] using mt h.startsWith_toString.1)
        rw [hnames, hnil, List.append_nil] at hhead
        exact hname (hempty name (hhead ▸ List.mem_cons_self))
    simp only [walk_skipped hskip hskipped', hdot, and_imp, and_assoc]
    constructor
    · rintro ⟨k, hdir, hfollow, rfl, hwalk⟩
      exact ⟨hdir, hfollow, hwalk⟩
    · rintro ⟨hdir, hfollow, hwalk⟩
      exact ⟨_, hdir, hfollow, rfl, hwalk⟩

/-- A string leads nowhere else than its path in normal form. -/
theorem locate_ofString (h : t.locate path = .ok l) :
    t.locate (Path.ofString path).toString = .ok l := by
  obtain ⟨hne, hwalk⟩ := locate_eq_ok.1 h
  have hstart : (if path.startsWith "/" then [] else t.cwd) = t.base (Path.ofString path) := by
    unfold base
    simp only [← Path.ofString_root, ite_not]
  rw [hstart] at hwalk
  refine (locate_toString (Path.normal_ofString path)).2 ⟨⟨?_, fun hroot hnil => ?_⟩,
    walk_filter hwalk⟩
  · obtain ⟨name, names, hnames⟩ := List.exists_cons_of_ne_nil (Path.components_ne_nil path)
    rw [hnames] at hwalk
    exact (walk_cons.1 hwalk).1.1
  · -- all names are passed over, and the first is not empty, so it is a dot
    have hskipped : ∀ name ∈ Path.components path, Skipped name := by
      intro name hname
      have hout := List.filter_eq_nil_iff.1 hnil name hname
      simpa [Skipped, or_iff_not_imp_left] using hout
    obtain ⟨name, names, hhead, hname⟩ := Path.head_components_ne_empty hne (by
      by_contra hslash
      exact (Path.ofString_root path).2 (by simpa using hslash) hroot)
    have hdot : name = "." :=
      (hskipped name (hhead ▸ List.mem_cons_self)).resolve_left hname
    exact ((walk_skipped hskipped (Path.components_ne_nil path)).1 hwalk).2.1
      (hhead ▸ hdot ▸ List.mem_cons_self)

/-- The last name of a path is followed from where the names before it lead. -/
theorem locate_of_last (h : p.Normal) (hnames : p.names = names ++ [name])
    (hbase : t.isDirectory (t.base p) = true) (hwalk : t.walk (t.base p) names = .ok d) :
    t.locate p.toString = t.follow d name := by
  obtain ⟨skipped, hcomponents, -, hskipped⟩ := h.components_toString
  have hstart : (if p.toString.startsWith "/" then [] else t.cwd) = t.base p := by
    unfold base
    simp only [h.startsWith_toString, ite_not]
  have hskip : ∀ name ∈ skipped, name = "" := by
    intro name hname
    rcases hskipped name hname with hname' | ⟨-, -, hnil⟩
    · exact hname'
    · rw [hnames] at hnil
      simp at hnil
  have hover : t.walk (t.base p) skipped = .ok (t.base p) := by
    rcases eq_or_ne skipped [] with rfl | hne
    · exact walk_nil.2 rfl
    · refine (walk_skipped (fun name hname => .inl (hskip name hname)) hne).2 ⟨hbase, ?_, rfl⟩
      exact fun hdot => absurd (hskip "." hdot) (by decide)
  unfold locate
  rw [if_neg h.toString_ne_empty, hstart, hcomponents, hnames, walk_append, hover]
  show t.walk (t.base p) (names ++ [name]) = _
  rw [walk_append, hwalk]
  show t.walk d [name] = _
  simp [walk]

/-- A path with a slash at its end leads to directories only. -/
theorem isDirectory_of_endsWith_slash (hslash : path.endsWith "/" = true)
    (h : t.locate path = .ok l) : t.isDirectory l = true := by
  obtain ⟨rest, hrest⟩ := Path.exists_of_endsWith_slash hslash
  obtain ⟨-, hwalk⟩ := locate_eq_ok.1 h
  rw [hrest, Path.components_append_slash, walk_append_eq_ok] at hwalk
  obtain ⟨k, -, hlast⟩ := hwalk
  obtain ⟨hdir, -, rfl⟩ := (walk_skipped (by simp [Skipped]) (by simp)).1 hlast
  exact hdir

/-! ## What is found at a location -/

theorem find_of_locate (hnull : hasNull path = false) (h : t.locate path = .ok l) :
    t.find path = .ok (t.entry? l) := by
  unfold find
  rw [if_neg (by simp [hnull]), h]

theorem seenAt_of_locate (hnull : hasNull path = false) (h : t.locate path = .ok l) :
    t.seenAt path = .ok (t.entry? l).isSome := by
  unfold seenAt has
  rw [find_of_locate hnull h]
  rfl

theorem hasDirectory_eq_true :
    t.hasDirectory path = .ok true ↔
      hasNull path = false ∧ ∃ l, t.locate path = .ok l ∧ t.isDirectory l = true := by
  unfold hasDirectory find
  cases hnull : hasNull path with
  | true => simp [Functor.map, Except.map]
  | false =>
    cases hlocate : t.locate path with
    | error cause => cases hcause : cause.meansAbsent <;> simp [Functor.map, Except.map, hcause]
    | ok l => simp [Functor.map, Except.map, isDirectory]

/-- Text is read from a file, at the location of the path. -/
theorem exists_file_of_textAt {text : Text} (h : t.textAt path = .ok text) :
    ∃ l bytes, hasNull path = false ∧ t.locate path = .ok l ∧ t.entry? l = some (.file bytes) ∧
      Utf8.decode bytes = .ok text := by
  obtain ⟨hnull, bytes, hread, hdecode⟩ := textAt_eq_ok.1 h
  obtain ⟨l, hl, hentry, -⟩ := read_eq_ok.1 hread
  exact ⟨l, bytes, hnull, hl, hentry, hdecode⟩

theorem not_isDirectory_of_file {bytes : ByteArray} (h : t.entry? l = some (.file bytes)) :
    t.isDirectory l = false := by
  simp [isDirectory, h]

/-- A text can as well be read from the path in normal form. -/
theorem textAt_ofString {text : Text} (h : t.textAt path = .ok text) :
    t.textAt (Path.ofString path).toString = .ok text := by
  obtain ⟨hnull, bytes, hread, hdecode⟩ := textAt_eq_ok.1 h
  obtain ⟨l, hl, hentry⟩ := read_eq_ok.1 hread
  exact textAt_eq_ok.2 ⟨Path.hasNull_eq_false hnull rfl fun _ hname => hname, bytes,
    read_eq_ok.2 ⟨l, locate_ofString hl, hentry⟩, hdecode⟩

theorem ne_empty_of_textAt {text : Text} (h : t.textAt path = .ok text) : path ≠ "" := by
  obtain ⟨l, -, -, hl, -⟩ := exists_file_of_textAt h
  exact (locate_eq_ok.1 hl).1

theorem endsWith_slash_of_textAt {text : Text} (h : t.textAt path = .ok text) :
    path.endsWith "/" = false := by
  obtain ⟨l, bytes, -, hl, hfile, -⟩ := exists_file_of_textAt h
  rw [Bool.eq_false_iff]
  intro hslash
  have hdir := isDirectory_of_endsWith_slash hslash hl
  rw [not_isDirectory_of_file hfile] at hdir
  cases hdir

theorem seenAt_of_textAt {text : Text} (h : t.textAt path = .ok text) :
    t.seenAt path = .ok true := by
  obtain ⟨l, bytes, hnull, hl, hfile, -⟩ := exists_file_of_textAt h
  rw [seenAt_of_locate hnull hl, hfile]
  rfl

/-! ## What is changed at a location -/

/-- Where paths lead to the same location, writing does the same and fails for the same cause. -/
theorem write_congr {path' : String} (hslash : path.endsWith "/" = false)
    (hslash' : path'.endsWith "/" = false) (h : t.locate path = .ok l) (h' : t.locate path' = .ok l)
    (bytes : ByteArray) :
    (t.write path bytes).1 = (t.write path' bytes).1 ∧
      (t.write path bytes).2.map FileFault.cause = (t.write path' bytes).2.map FileFault.cause := by
  unfold write openToWrite
  simp only [hslash, hslash', h, h', Bool.false_eq_true, if_false, bind, Except.bind]
  cases t.writeRefusal? l with
  | some cause => exact ⟨rfl, rfl⟩
  | none => exact ⟨rfl, rfl⟩

/-- A directory that is there is not made again. -/
theorem withDirectories_of_hasDirectory (h : t.hasDirectory p.toString = .ok true) :
    t.withDirectories p = (.ok (), t) := by
  obtain ⟨hnull, l, hl, hdir⟩ := hasDirectory_eq_true.1 h
  have hmake : t.makeDirectory p.toString = .error .alreadyThere := by
    unfold makeDirectory
    rw [hl]
    simp only [bind, Except.bind, entry?_eq_directory.2 hdir]
    rfl
  have hmade : t.makeDirectories (p.names.length + 1) p = (t, none) := by
    unfold makeDirectories unlessThere
    simp [hmake, h, FileFault.Cause.isNotFound, FileFault.Cause.alreadyThere,
      FileFault.Cause.notFound]
  exact changed_eq_ok.2 ⟨hnull, hmade⟩

/-- To put what is there already changes nothing. -/
theorem entry?_put_self {e : Entry} (h : t.entry? l = some e) (m : Location) :
    FileTree.entry? (t.put l e) m = t.entry? m := by
  rw [entry?_put]
  split
  · rename_i hm
    rw [hm.2, h]
  · rfl

/-! ## Trees with the same directories -/

/-- Whether two trees have the same directories and the same is refused in them, whatever files they
have. -/
structure SameDirectories (t t' : FileTree) : Prop where
  cwd : t'.cwd = t.cwd
  refusals : t'.refusals = t.refusals
  isDirectory : ∀ l, t'.isDirectory l = t.isDirectory l

theorem SameDirectories.refl (t : FileTree) : t.SameDirectories t :=
  ⟨rfl, rfl, fun _ => rfl⟩

theorem SameDirectories.trans {t₁ : FileTree} (h : t.SameDirectories t₁)
    (h' : t₁.SameDirectories t') : t.SameDirectories t' :=
  ⟨h'.cwd.trans h.cwd, h'.refusals.trans h.refusals,
    fun l => (h'.isDirectory l).trans (h.isDirectory l)⟩

theorem SameDirectories.walk (h : t.SameDirectories t') (hl : t.walk l names = .ok m) :
    t'.walk l names = .ok m := by
  induction names generalizing l with
  | nil => exact walk_nil.2 (walk_nil.1 hl)
  | cons name names ih =>
    obtain ⟨⟨hdir, hfollow⟩, hrest⟩ := walk_cons.1 hl
    rw [← h.isDirectory] at hdir
    rw [← h.refusals] at hfollow
    exact walk_cons.2 ⟨⟨hdir, hfollow⟩, ih hrest⟩

/-- Paths lead to the same locations in trees with the same directories. -/
theorem SameDirectories.locate (h : t.SameDirectories t') (hl : t.locate path = .ok l) :
    t'.locate path = .ok l := by
  obtain ⟨hne, hwalk⟩ := locate_eq_ok.1 hl
  exact locate_eq_ok.2 ⟨hne, h.cwd ▸ h.walk hwalk⟩

theorem SameDirectories.hasDirectory (h : t.SameDirectories t')
    (hdir : t.hasDirectory path = .ok true) : t'.hasDirectory path = .ok true := by
  obtain ⟨hnull, l, hl, hdir⟩ := hasDirectory_eq_true.1 hdir
  exact hasDirectory_eq_true.2 ⟨hnull, l, h.locate hl, (h.isDirectory l).trans hdir⟩

/-- Where the path above leads to a directory, the path leads to the same location in trees with the same
directories, or is refused for the same cause. -/
theorem SameDirectories.locate_eq (h : t.SameDirectories t') (hp : p.Normal)
    (hparent : t.hasDirectory p.parent.toString = .ok true) :
    t'.locate p.toString = t.locate p.toString := by
  obtain ⟨-, d, hd, hdir⟩ := hasDirectory_eq_true.1 hparent
  obtain ⟨hbase, hwalk⟩ := (locate_toString hp.parent).1 hd
  rcases List.eq_nil_or_concat p.names with hnil | ⟨names, name, hnames⟩
  · rw [Path.parent_eq_self hnil] at hd
    exact (h.locate hd).trans hd.symm
  · rw [List.concat_eq_append] at hnames
    rw [show p.parent.names = names by simp [Path.parent, hnames]] at hwalk
    have hbase' : t'.base p = t.base p := by
      unfold base
      rw [h.cwd]
    have hlocate := locate_of_last hp hnames hbase.1 hwalk
    have hlocate' : t'.locate p.toString = t'.follow d name := by
      refine locate_of_last hp hnames ?_ ?_
      · rw [hbase', h.isDirectory]
        exact hbase.1
      · rw [hbase']
        exact h.walk hwalk
    rw [hlocate, hlocate', follow_congr hdir
      ((h.isDirectory d).trans hdir) h.refusals]

/-- Files can be put anywhere but in place of a directory. -/
theorem sameDirectories_put (hfile : t.isDirectory l = false) (bytes : ByteArray) :
    t.SameDirectories (t.put l (.file bytes)) := by
  refine ⟨rfl, rfl, fun m => ?_⟩
  unfold FileTree.isDirectory at hfile ⊢
  rw [entry?_put]
  split
  · rename_i hm
    rw [hm.2, hfile]
    rfl
  · rfl

/-- What is seen at a path is told by where it leads and the entry there. -/
theorem seenAt_congr (hlocate : t'.locate path = t.locate path)
    (hentry : ∀ l, t.locate path = .ok l → t'.entry? l = t.entry? l) :
    t'.seenAt path = t.seenAt path := by
  unfold seenAt has find
  rw [hlocate]
  cases hl : t.locate path with
  | error cause => rfl
  | ok l =>
    dsimp only
    rw [hentry l hl]

theorem textAt_congr (hrefusals : t'.refusals = t.refusals)
    (hlocate : t'.locate path = t.locate path)
    (hentry : ∀ l, t.locate path = .ok l → t'.entry? l = t.entry? l) :
    t'.textAt path = t.textAt path := by
  have hread : t'.read path = t.read path := by
    unfold read openToRead
    rw [hlocate, hrefusals]
    cases hl : t.locate path with
    | error cause => rfl
    | ok l =>
      dsimp only [bind, Except.bind]
      rw [hentry l hl]
  unfold textAt bytesAt
  rw [hread]

end FileTree

end KeptRegions
