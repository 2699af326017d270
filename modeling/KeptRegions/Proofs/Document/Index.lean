import KeptRegions.Proofs.Document.Nesting
import Mathlib.Data.List.Lex
import Mathlib.Order.Bounds.Basic

namespace KeptRegions

/-!
# The index of a document

A region is told from all others by its address, the way to it from the outermost level inwards. In
document order a region stands in front of those in its body, and these in front of what is behind it;
that is the lexicographic order of addresses (`pairwise_addresses`). Segments are refused as a document
exactly if two addresses have regions with the same id, and the id that is reported is that of the
first region that repeats an earlier one. If they are accepted, then what is found under an id is the
only region that has it (`index_exact`).
-/

/-! ## The first repeated entry -/

section FirstRepeat

variable {α : Type} [DecidableEq α] {seen seen' xs : List α} {x : α}

/-- Which entries count as earlier ones matters, not their order. -/
theorem firstRepeat?_congr (h : ∀ y, y ∈ seen ↔ y ∈ seen') :
    firstRepeat? seen xs = firstRepeat? seen' xs := by
  induction xs generalizing seen seen' with
  | nil => rfl
  | cons y xs ih =>
    have hcons : ∀ z, z ∈ y :: seen ↔ z ∈ y :: seen' := fun z => by simp [h z]
    simp only [firstRepeat?, h y, ih hcons]

/-- In front of the first entry that is repeated there are no repetitions. -/
theorem exists_of_firstRepeat? (h : firstRepeat? seen xs = some x) :
    ∃ before after, xs = before ++ x :: after ∧ (x ∈ before ∨ x ∈ seen) ∧ before.Nodup ∧
      ∀ y ∈ before, y ∉ seen := by
  fun_induction firstRepeat? seen xs with
  | case1 => cases h
  | case2 seen y xs hy =>
    cases h
    exact ⟨[], xs, rfl, .inr hy, List.nodup_nil, by simp⟩
  | case3 seen y xs hy ih =>
    obtain ⟨before, after, rfl, hx, hnodup, hseen⟩ := ih h
    refine ⟨y :: before, after, rfl, ?_, List.nodup_cons.2 ⟨fun hyb => ?_, hnodup⟩, ?_⟩
    · simp only [List.mem_cons] at hx ⊢
      tauto
    · exact hseen y hyb List.mem_cons_self
    · exact List.forall_mem_cons.2 ⟨hy, fun z hz hzs => hseen z hz (List.mem_cons_of_mem _ hzs)⟩

end FirstRepeat

namespace Segments

variable {s : Segments} {p q path : List Nat} {r : Region} {x : Text}

/-! ## Addresses -/

/-- The region at an address. The first number of an address says which segment of the outermost level
to go to, with plain texts counted, and the numbers behind it lead on in the body of that region. -/
def at? : Segments → List Nat → Option Region
  | plain _ rest, (n + 1) :: path => rest.at? (n :: path)
  | region fence body _, [0] => some { fence, body }
  | region _ body _, 0 :: n :: path => body.at? (n :: path)
  | region _ _ rest, (n + 1) :: path => rest.at? (n :: path)
  | _, _ => none

/-- The id of the region at an address. -/
def idAt? (s : Segments) (p : List Nat) : Option Text :=
  (s.at? p).map (·.fence.id)

/-- The address of the same region if there is one more segment in front. -/
def next : List Nat → List Nat :=
  List.modifyHead (· + 1)

/-- The addresses of all regions in document order. -/
def addresses : Segments → List (List Nat)
  | nil => []
  | plain _ rest => rest.addresses.map next
  | region _ body rest => [0] :: (body.addresses.map (0 :: ·) ++ rest.addresses.map next)

@[simp] theorem at?_empty (s : Segments) : s.at? [] = none := by
  cases s <;> rfl

theorem next_eq_cons_iff {n : Nat} : next p = n :: path ↔ ∃ m, n = m + 1 ∧ p = m :: path := by
  cases p with
  | nil => simp [next]
  | cons m p => simp [next, eq_comm]

theorem cons_mem_map_next {n : Nat} {ps : List (List Nat)} :
    n :: path ∈ ps.map next ↔ ∃ m, n = m + 1 ∧ m :: path ∈ ps := by
  simp only [List.mem_map, next_eq_cons_iff]
  constructor
  · rintro ⟨p, hp, m, rfl, rfl⟩
    exact ⟨m, rfl, hp⟩
  · rintro ⟨m, rfl, hp⟩
    exact ⟨_, hp, m, rfl, rfl⟩

theorem nil_not_mem_addresses (s : Segments) : [] ∉ s.addresses := by
  induction s with
  | nil => exact List.not_mem_nil
  | plain text rest ih => simpa [addresses, next] using ih
  | region fence body rest ihb ihr => simpa [addresses, next] using ihr

/-- The addresses are those at which there is a region. -/
theorem mem_addresses_iff : p ∈ s.addresses ↔ ∃ r, s.at? p = some r := by
  induction s generalizing p with
  | nil => simp [addresses, at?]
  | plain text rest ih =>
    match p with
    | [] => simp [nil_not_mem_addresses]
    | 0 :: path => simp [addresses, at?, cons_mem_map_next]
    | (n + 1) :: path => simp [addresses, at?, cons_mem_map_next, ih]
  | region fence body rest ihb ihr =>
    match p with
    | [] => simp [nil_not_mem_addresses]
    | [0] => simp [addresses, at?]
    | 0 :: n :: path => simp [addresses, at?, cons_mem_map_next, ihb]
    | (n + 1) :: path => simp [addresses, at?, cons_mem_map_next, ihr]

theorem exists_cons_of_mem_addresses (hp : p ∈ s.addresses) : ∃ n path, p = n :: path := by
  cases p with
  | nil => exact absurd hp (nil_not_mem_addresses s)
  | cons n path => exact ⟨n, path, rfl⟩

/-- The addresses lead to all regions, one after the other. -/
theorem map_at?_addresses (s : Segments) : s.addresses.map s.at? = s.regions.map some := by
  induction s with
  | nil => rfl
  | plain text rest ih =>
    have hnext : ∀ p, (plain text rest).at? (next p) = rest.at? p := by
      intro p
      cases p <;> simp [next, at?]
    simpa [addresses, regions, Function.comp_def, hnext] using ih
  | region fence body rest ihb ihr =>
    have hnext : ∀ p, (region fence body rest).at? (next p) = rest.at? p := by
      intro p
      cases p <;> simp [next, at?]
    have hinside : body.addresses.map ((region fence body rest).at? ∘ (0 :: ·)) =
        body.addresses.map body.at? := by
      refine List.map_congr_left fun p hp => ?_
      obtain ⟨n, path, rfl⟩ := exists_cons_of_mem_addresses hp
      rfl
    rw [addresses, regions, List.map_cons, List.map_cons, List.map_append, List.map_append,
      List.map_map, List.map_map, hinside, ihb, ← ihr]
    simp only [Function.comp_def, hnext]
    rfl

/-- The addresses are listed in their lexicographic order, so this is document order. -/
theorem pairwise_addresses (s : Segments) : s.addresses.Pairwise (· < ·) := by
  -- moving on by one part changes the first number of both addresses alike
  have hnext : ∀ {s : Segments}, s.addresses.Pairwise (· < ·) →
      (s.addresses.map next).Pairwise (· < ·) := by
    intro s hs
    refine List.pairwise_map.2 (hs.imp_of_mem fun {p q} hp hq hlt => ?_)
    obtain ⟨m, p, rfl⟩ := exists_cons_of_mem_addresses hp
    obtain ⟨n, q, rfl⟩ := exists_cons_of_mem_addresses hq
    simpa [next, List.cons_lt_cons_iff] using hlt
  induction s with
  | nil => exact List.Pairwise.nil
  | plain text rest ih => exact hnext ih
  | region fence body rest ihb ihr =>
    have hbody : (body.addresses.map (0 :: ·)).Pairwise (· < ·) :=
      List.pairwise_map.2 (ihb.imp fun hlt => List.cons_lt_cons_iff.2 (.inr ⟨rfl, hlt⟩))
    -- an address in the body, or of the region itself, starts with 0 and none behind it does
    have hbehind : ∀ (path : List Nat), ∀ q ∈ rest.addresses.map next, 0 :: path < q := by
      intro path q hq
      obtain ⟨p, hp, rfl⟩ := List.mem_map.1 hq
      obtain ⟨n, p, rfl⟩ := exists_cons_of_mem_addresses hp
      simp [next, List.cons_lt_cons_iff]
    refine List.pairwise_cons.2 ⟨fun q hq => ?_, List.pairwise_append.2 ⟨hbody, hnext ihr, ?_⟩⟩
    · rcases List.mem_append.1 hq with hq | hq
      · obtain ⟨p, hp, rfl⟩ := List.mem_map.1 hq
        obtain ⟨n, p, rfl⟩ := exists_cons_of_mem_addresses hp
        simp
      · exact hbehind [] q hq
    · intro p hp q hq
      obtain ⟨p, -, rfl⟩ := List.mem_map.1 hp
      exact hbehind p q hq

theorem nodup_addresses (s : Segments) : s.addresses.Nodup :=
  (pairwise_addresses s).imp fun hlt => ne_of_lt hlt

theorem map_idAt?_addresses (s : Segments) : s.addresses.map s.idAt? = s.ids.map some := by
  have h := congrArg (List.map (Option.map fun r : Region => r.fence.id)) (map_at?_addresses s)
  rw [List.map_map, List.map_map] at h
  rw [ids_eq_map_regions, List.map_map]
  exact h

/-- The regions are those at the addresses. -/
theorem mem_regions_iff_at? : r ∈ s.regions ↔ ∃ p, s.at? p = some r := by
  have h : some r ∈ s.addresses.map s.at? ↔ r ∈ s.regions := by
    rw [map_at?_addresses]
    simp
  rw [← h, List.mem_map]
  exact ⟨fun ⟨p, _, hp⟩ => ⟨p, hp⟩, fun ⟨p, hp⟩ => ⟨p, mem_addresses_iff.2 ⟨r, hp⟩, hp⟩⟩

theorem mem_addresses_of_idAt? (h : s.idAt? p = some x) : p ∈ s.addresses := by
  obtain ⟨r, hr, -⟩ := Option.map_eq_some_iff.1 h
  exact mem_addresses_iff.2 ⟨r, hr⟩

/-! ## Repeated ids -/

/-- Ids are unique if no two addresses have the same one. -/
theorem nodup_ids_iff :
    s.ids.Nodup ↔ ∀ p q x, s.idAt? p = some x → s.idAt? q = some x → p = q := by
  have hmap : s.ids.Nodup ↔ (s.addresses.map s.idAt?).Nodup := by
    rw [map_idAt?_addresses, List.nodup_map_iff (Option.some_injective _)]
  rw [hmap]
  constructor
  · intro hnodup p q x hp hq
    exact List.inj_on_of_nodup_map hnodup (mem_addresses_of_idAt? hp) (mem_addresses_of_idAt? hq)
      (hp.trans hq.symm)
  · intro hunique
    refine (nodup_addresses s).map_on fun p hp q _ heq => ?_
    obtain ⟨r, hr⟩ := mem_addresses_iff.1 hp
    have hid : s.idAt? p = some r.fence.id := by rw [idAt?, hr]; rfl
    exact hunique p q _ hid (heq ▸ hid)

/-- The region at the address has the id of one that stands in front of it. -/
def Repeats (s : Segments) (q : List Nat) : Prop :=
  ∃ p < q, ∃ x, s.idAt? p = some x ∧ s.idAt? q = some x

/-- The first id that is repeated is that of the first region that repeats one. -/
theorem isLeast_of_firstRepeat? (h : firstRepeat? [] s.ids = some x) :
    ∃ q, IsLeast {q | s.Repeats q} q ∧ s.idAt? q = some x := by
  obtain ⟨before, after, hids, hx, hnodup, -⟩ := exists_of_firstRepeat? h
  have haddresses := map_idAt?_addresses s
  rw [hids, List.map_append, List.map_cons] at haddresses
  obtain ⟨ps, _, hsplit, hps, htail⟩ := List.map_eq_append_iff.1 haddresses
  obtain ⟨q, qs, rfl, hq, -⟩ := List.map_eq_cons_iff.1 htail
  have hsorted := hsplit ▸ pairwise_addresses s
  obtain ⟨-, htail, hfront⟩ := List.pairwise_append.1 hsorted
  refine ⟨q, ⟨?_, ?_⟩, hq⟩
  · -- the id has been met at one of the addresses in front
    have hmem : some x ∈ ps.map s.idAt? := by
      rw [hps]
      exact List.mem_map_of_mem (by simpa using hx)
    obtain ⟨p, hp, hpx⟩ := List.mem_map.1 hmem
    exact ⟨p, hfront p hp q List.mem_cons_self, x, hpx, hq⟩
  · rintro q' ⟨p', hlt, y, hp', hq'⟩
    -- an address that comes in front of `q` is one of those where no id is repeated
    have hmem : ∀ p, p < q → p ∈ s.addresses → p ∈ ps := by
      intro p hpq hp
      rw [hsplit] at hp
      rcases List.mem_append.1 hp with hp | hp
      · exact hp
      · rcases List.mem_cons.1 hp with rfl | hp
        · exact absurd hpq (lt_irrefl _)
        · exact absurd hpq (lt_asymm ((List.pairwise_cons.1 htail).1 p hp))
    refine le_of_not_gt fun hgt => ?_
    have hinj : (ps.map s.idAt?).Nodup := by
      rw [hps]
      exact hnodup.map (Option.some_injective _)
    have heq := List.inj_on_of_nodup_map hinj
      (hmem p' (hlt.trans hgt) (mem_addresses_of_idAt? hp'))
      (hmem q' hgt (mem_addresses_of_idAt? hq')) (hp'.trans hq'.symm)
    exact absurd heq (ne_of_lt hlt)

theorem firstRepeat?_ids_eq_some_iff :
    firstRepeat? [] s.ids = some x ↔
      ∃ q, IsLeast {q | s.Repeats q} q ∧ s.idAt? q = some x := by
  refine ⟨isLeast_of_firstRepeat?, ?_⟩
  rintro ⟨q, hleast, hq⟩
  obtain ⟨p, hlt, y, hp, hy⟩ := hleast.1
  cases hfirst : firstRepeat? [] s.ids with
  | none =>
    have hnodup := (firstRepeat?_eq_none.1 hfirst).1
    exact absurd (nodup_ids_iff.1 hnodup p q y hp hy) (ne_of_lt hlt)
  | some x' =>
    obtain ⟨q', hleast', hq'⟩ := isLeast_of_firstRepeat? hfirst
    obtain rfl := hleast.unique hleast'
    rw [← hq, ← hq']

end Segments

/-! ## Entering regions under their ids -/

/-- The entry of a region. -/
def Region.entry (r : Region) : Text × Region :=
  (r.fence.id, r)

/-- An index with entries for more regions, made one after the other. The first region whose id has an
entry already is refused, and its id is reported. -/
def entered (index : List (Text × Region)) : List Region → Except Text (List (Text × Region))
  | [] => .ok index
  | r :: rs =>
    if (index.lookup r.fence.id).isSome then .error r.fence.id
    else entered (index ++ [r.entry]) rs

theorem isSome_lookup_iff {index : List (Text × Region)} {x : Text} :
    (index.lookup x).isSome ↔ x ∈ index.map Prod.fst := by
  rw [List.lookup_isSome_iff, List.mem_map]
  exact exists_congr fun e => and_congr_right fun _ => by rw [beq_iff_eq, eq_comm]

/-- Entering fails at the first id that repeats one that has an entry, or else enters all regions. -/
theorem entered_eq (index : List (Text × Region)) (rs : List Region) :
    entered index rs =
      match firstRepeat? (index.map Prod.fst) (rs.map (·.fence.id)) with
      | some x => .error x
      | none => .ok (index ++ rs.map Region.entry) := by
  fun_induction entered index rs with
  | case1 index => simp [firstRepeat?]
  | case2 index r rs hsome =>
    rw [List.map_cons, firstRepeat?, if_pos (isSome_lookup_iff.1 hsome)]
  | case3 index r rs hsome ih =>
    have hmem : r.fence.id ∉ index.map Prod.fst := mt isSome_lookup_iff.2 hsome
    -- a new entry is added at the end and a seen id in front, so only membership agrees
    have hcongr : ∀ y, y ∈ (index ++ [r.entry]).map Prod.fst ↔
        y ∈ r.fence.id :: index.map Prod.fst := fun y => by
      simp [Region.entry, or_comm]
    rw [ih, List.map_cons, firstRepeat?, if_neg hmem, firstRepeat?_congr hcongr, List.append_assoc,
      List.singleton_append, List.map_cons]

/-- What is found under an id is its first entry. -/
theorem Segments.lookup_entries (s : Segments) (x : Text) :
    (s.regions.map Region.entry).lookup x = s.find? x := by
  induction s with
  | nil => rfl
  | plain text rest ih => exact ih
  | region fence body rest ihb ihr =>
    rw [regions, List.map_cons, List.map_append, Region.entry, List.lookup_cons, List.lookup_append,
      ihb, ihr, find?]
    by_cases hid : fence.id = x
    · simp [hid]
    · simp [hid, beq_false_of_ne (Ne.symm hid)]

namespace Document

variable {s : Segments} {fault : RegionFault} {d : Document}

theorem of?_eq_error_iff :
    Document.of? s = .error fault ↔
      ∃ x, firstRepeat? [] s.ids = some x ∧ fault = .of (.duplicateId x) none none := by
  unfold of?
  split
  · rename_i y hy
    simp [hy, eq_comm]
  · rename_i hnone
    simp [hnone]

/-- Segments are refused as a document if two addresses have the same id, and only then. -/
theorem exists_error_iff :
    (∃ fault, Document.of? s = .error fault) ↔
      ∃ p q x, p ≠ q ∧ s.idAt? p = some x ∧ s.idAt? q = some x := by
  constructor
  · rintro ⟨fault, hfault⟩
    have hdup : ¬ s.ids.Nodup := fun hnodup => by
      rw [of?_eq_ok hnodup] at hfault
      cases hfault
    rw [Segments.nodup_ids_iff] at hdup
    simp only [not_forall] at hdup
    obtain ⟨p, q, x, hp, hq, hne⟩ := hdup
    exact ⟨p, q, x, hne, hp, hq⟩
  · rintro ⟨p, q, x, hne, hp, hq⟩
    cases hof : Document.of? s with
    | error fault => exact ⟨fault, rfl⟩
    | ok d =>
      have hnodup := segments_of_of?_eq_ok hof ▸ d.nodup
      exact absurd (Segments.nodup_ids_iff.1 hnodup p q x hp hq) hne

/-- A document has an index, which holds its ids in document order. Under each id it has the region
that is found there. -/
theorem exists_entered (d : Document) :
    ∃ index, entered [] d.regions = .ok index ∧ index.map Prod.fst = d.ids ∧
      ∀ x, index.lookup x = d.find? x := by
  have hids : d.regions.map (·.fence.id) = d.ids := (Segments.ids_eq_map_regions _).symm
  have hnone : firstRepeat? [] d.ids = none := firstRepeat?_eq_none.2 ⟨d.nodup, by simp⟩
  refine ⟨d.regions.map Region.entry, ?_, ?_, d.segments.lookup_entries⟩
  · rw [entered_eq, hids, List.map_nil, hnone, List.nil_append]
  · rw [← hids, List.map_map]
    rfl

/-- What is found under an id is at the only address with that id. -/
theorem find?_of_idAt? {p : List Nat} {x : Text} (d : Document) (h : d.segments.idAt? p = some x) :
    d.find? x = d.segments.at? p ∧ ∀ q, d.segments.idAt? q = some x → q = p := by
  obtain ⟨r, hr, rfl⟩ := Option.map_eq_some_iff.1 h
  refine ⟨?_, fun q hq => Segments.nodup_ids_iff.1 d.nodup q p _ hq h⟩
  rw [hr]
  exact Segments.find?_of_mem_regions d.nodup (Segments.mem_regions_iff_at?.2 ⟨p, hr⟩)

theorem find?_eq_none_of_idAt? {x : Text} (d : Document) (h : ∀ p, d.segments.idAt? p ≠ some x) :
    d.find? x = none := by
  refine Option.eq_none_iff_forall_ne_some.2 fun r hr => ?_
  obtain ⟨hmem, rfl⟩ := Segments.mem_regions_of_find? hr
  obtain ⟨p, hp⟩ := Segments.mem_regions_iff_at?.1 hmem
  refine h p ?_
  rw [Segments.idAt?, hp, Option.map_some]

/-- Segments are refused as a document exactly if two addresses have the same id. The fault is about
the id of the first region, in the order of the addresses, that has the id of one in front of it. If
they are accepted, no id is listed twice, and the index that is made by entering one region after the
other has exactly the listed ids. Under an id that some region has, this region is found, which is the
only one with the id, and under any other id there is none. -/
theorem index_exact (s : Segments) :
    ((∃ fault, Document.of? s = .error fault) ↔
      ∃ p q x, p ≠ q ∧ s.idAt? p = some x ∧ s.idAt? q = some x) ∧
    (∀ fault, Document.of? s = .error fault ↔
      ∃ q x, IsLeast {q | s.Repeats q} q ∧ s.idAt? q = some x ∧
        fault = .of (.duplicateId x) none none) ∧
    ∀ d, Document.of? s = .ok d →
      d.segments = s ∧ d.ids.Nodup ∧
      (∃ index, entered [] s.regions = .ok index ∧ (∀ x, x ∈ d.ids ↔ x ∈ index.map Prod.fst) ∧
        ∀ x, index.lookup x = d.find? x) ∧
      (∀ p x, s.idAt? p = some x → d.find? x = s.at? p ∧ ∀ q, s.idAt? q = some x → q = p) ∧
      ∀ x, (∀ p, s.idAt? p ≠ some x) → d.find? x = none := by
  refine ⟨exists_error_iff, fun fault => ?_, ?_⟩
  · rw [of?_eq_error_iff]
    simp only [Segments.firstRepeat?_ids_eq_some_iff]
    tauto
  · intro d hd
    obtain rfl := segments_of_of?_eq_ok hd
    obtain ⟨index, hindex, hkeys, hlookup⟩ := d.exists_entered
    exact ⟨rfl, d.nodup, ⟨index, hindex, fun x => by rw [hkeys], hlookup⟩,
      fun p x => d.find?_of_idAt?, fun x => d.find?_eq_none_of_idAt?⟩

end Document

end KeptRegions
