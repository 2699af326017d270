import KeptRegions.Proofs.Comment.Tokenization
import KeptRegions.Proofs.Document.Grammar
import KeptRegions.Proofs.Document.Lossless

namespace KeptRegions

/-!
# Where faults are reported

The pieces of a text lie one behind the other, so a piece stands at the length of all pieces in front
of it. A fault that reading reports has the position of the piece it is about, and its place is the
line and the column of that position (`read_error_located`).
-/

/-! ## The positions of pieces -/

namespace Piece

/-- Pieces that lie one behind the other, the first at the position `i`. -/
def Consecutive (i : Nat) : List Piece → Prop
  | [] => True
  | p :: ps => p.start = i ∧ Consecutive (i + p.text.length) ps

variable {ps qs before after : List Piece} {p : Piece} {i : Nat}

theorem consecutive_append :
    Consecutive i (ps ++ qs) ↔
      Consecutive i ps ∧ Consecutive (i + (ps.flatMap Piece.text).length) qs := by
  induction ps generalizing i with
  | nil => simp [Consecutive]
  | cons p ps ih => simp [Consecutive, ih, and_assoc, Nat.add_assoc]

theorem Consecutive.start_eq (h : Consecutive i (before ++ p :: after)) :
    p.start = i + (before.flatMap Piece.text).length :=
  (consecutive_append.1 h).2.1

theorem consecutive_ofText (candidate : Bool) (i : Nat) (text : Text) :
    Consecutive i (ofText candidate i text) := by
  unfold ofText
  split
  · trivial
  · exact ⟨rfl, trivial⟩

theorem consecutive_ofLines (i : Nat) (ls : List (Text × Text)) :
    Consecutive i (ofLines i ls) := by
  induction ls generalizing i with
  | nil => trivial
  | cons l ls ih =>
    rw [ofLines, consecutive_append, consecutive_append, List.flatMap_append, List.length_append,
      flatMap_text_ofText, flatMap_text_ofText, ← Nat.add_assoc]
    exact ⟨⟨consecutive_ofText .., consecutive_ofText ..⟩, ih _⟩

theorem consecutive_ofToken (inverse : Bool) (t : Token) :
    Consecutive t.start (ofToken inverse t) := by
  unfold ofToken
  split
  · exact ⟨rfl, trivial⟩
  · exact ⟨rfl, trivial⟩
  · exact consecutive_ofLines ..

theorem mem_ofText {candidate : Bool} {text : Text} :
    p ∈ ofText candidate i text ↔ text ≠ [] ∧ p = { candidate, start := i, text } := by
  unfold ofText
  split <;> simp_all

/-- A candidate among the pieces of lines is a line. -/
theorem exists_line_of_mem_ofLines {ls : List (Text × Text)} (hp : p ∈ ofLines i ls)
    (hcandidate : p.candidate = true) : p.text ≠ [] ∧ ∃ l ∈ ls, p.text = l.1 := by
  induction ls generalizing i with
  | nil => cases hp
  | cons l ls ih =>
    rw [ofLines, List.mem_append, List.mem_append] at hp
    rcases hp with (hp | hp) | hp
    · obtain ⟨hne, rfl⟩ := mem_ofText.1 hp
      exact ⟨hne, l, List.mem_cons_self, rfl⟩
    · -- a line end is no candidate
      obtain ⟨-, rfl⟩ := mem_ofText.1 hp
      cases hcandidate
    · obtain ⟨hne, l', hl', htext⟩ := ih hp
      exact ⟨hne, l', List.mem_cons_of_mem _ hl', htext⟩

end Piece

namespace RegionReader

variable {reader : RegionReader} {text marker : Text} {fault : RegionFault}
  {cause : RegionFault.Cause} {position : Nat}

/-- The pieces of tokens without gaps lie one behind the other. -/
theorem consecutive_pieces {tokens : List Token} {i k : Nat} (h : Contiguous i tokens k) :
    Piece.Consecutive i (reader.pieces tokens) := by
  induction tokens generalizing i with
  | nil => trivial
  | cons t tokens ih =>
    obtain ⟨rfl, hbehind⟩ := h
    rw [pieces_cons, Piece.consecutive_append, Piece.flatMap_text_ofToken]
    exact ⟨Piece.consecutive_ofToken reader.inverse t, ih hbehind⟩

/-- The position of a piece is the length of the pieces in front of it. -/
theorem start_eq_of_pieces {before after : List Piece} {p : Piece}
    (h : reader.pieces (reader.style.scan text).tokens = before ++ p :: after) :
    p.start = ((before.map Piece.slice).flatMap Slice.text).length := by
  obtain ⟨k, htokens⟩ := reader.style.exists_tokenizes text
  have hconsecutive : Piece.Consecutive 0 (before ++ p :: after) :=
    h ▸ consecutive_pieces htokens.contiguous
  rw [hconsecutive.start_eq, Nat.zero_add, List.flatMap_map]
  rfl

/-! ## What is wrong, and where -/

/-- The piece of a text that a cause is about, and its position: the start or end marker that does
not fit, the start marker of the innermost region that is not closed, or the delimiter of a comment
that never ends. The position counts the characters of all pieces in front of it. -/
inductive Offends (reader : RegionReader) (text : Text) : RegionFault.Cause → Nat → Text → Prop where
  | marker {before after : List Slice} {q : Slice} {cause : RegionFault.Cause}
      (hslices : reader.slices text = before ++ q :: after)
      (h : reader.rules.Violates before q cause) :
      Offends reader text cause (before.flatMap Slice.text).length q.text
  | region {before after : List Slice} {start : Slice} {id : Text}
      (hslices : reader.slices text = before ++ start :: after)
      (hstart : reader.rules.roleOf start = .opens) (hid : reader.rules.idOf start.text = some id)
      (hafter : reader.rules.Balanced after) :
      Offends reader text (.unclosedRegion id) (before.flatMap Slice.text).length start.text
  | comment {opener : Text} {nested : Bool} {position : Nat}
      (hposition : position = ((reader.slices text).flatMap Slice.text).length)
      (hopener : LongestAt reader.style.openers text position opener)
      (hends : ∀ stop, ¬ reader.style.EndsAt text position opener stop) :
      Offends reader text (.unclosedComment opener nested) position opener

/-- A fault is reported at the position of the piece that it is about. -/
theorem Fails.exists_offends (h : reader.Fails text fault) :
    ∃ cause position marker, fault = .found cause position text ∧
      reader.Offends text cause position marker := by
  cases h with
  | @marker before after piece cause hpieces hbefore h =>
    have hslices : reader.slices text =
        before.map Piece.slice ++ piece.slice :: after.map Piece.slice := by
      rw [slices, hpieces, List.map_append, List.map_cons]
    refine ⟨cause, piece.start, piece.text, rfl, ?_⟩
    rw [start_eq_of_pieces hpieces]
    exact .marker hslices h
  | @comment c hsound hunclosed =>
    have hstops := (slices_reach reader text).2
    rw [hunclosed, CommentStyle.stopsAt_some_iff] at hstops
    obtain ⟨hstart, hopener, hends, -⟩ := hstops
    rw [← hstart] at hopener hends
    exact ⟨_, c.start, c.opener, rfl, .comment hstart hopener hends⟩
  | @region before after start id hsound hclosed hpieces hstart hid hafter =>
    have hslices : reader.slices text =
        before.map Piece.slice ++ start.slice :: after.map Piece.slice := by
      rw [slices, hpieces, List.map_append, List.map_cons]
    refine ⟨_, start.start, start.text, rfl, ?_⟩
    rw [start_eq_of_pieces hpieces]
    exact .region hslices hstart hid hafter

/-! ## The offending piece in the text -/

/-- The offending piece stands at its position. -/
theorem Offends.stands (h : reader.Offends text cause position marker) :
    marker <+: text.drop position := by
  -- what is behind some pieces starts with the next one
  have behind : ∀ {before after : List Slice} {q : Slice}, reader.slices text = before ++ q :: after →
      q.text <+: text.drop (before.flatMap Slice.text).length := by
    intro before after q hslices
    obtain ⟨rest, htext⟩ := (slices_reach reader text).1
    rw [hslices, List.flatMap_append, List.flatMap_cons, List.append_assoc, List.append_assoc]
      at htext
    rw [← htext, List.drop_left]
    exact List.prefix_append ..
  cases h with
  | marker hslices h => exact behind hslices
  | region hslices hstart hid hafter => exact behind hslices
  | comment hposition hopener hends => exact hopener.stands

/-- Comments start with a delimiter. -/
theorem exists_opener_of_mem_tokens {t : Token} (ht : t ∈ (reader.style.scan text).tokens)
    (hkind : t.kind = .comment) : ∃ opener ∈ reader.style.openers, opener <+: t.text := by
  obtain ⟨k, htokens⟩ := reader.style.exists_tokenizes text
  have htoken := htokens.isToken t ht
  obtain ⟨opener, hopener, hends⟩ := htoken.comment hkind
  obtain ⟨n, hstop⟩ := hends.exists_add
  -- the comment reaches past its delimiter
  have hlen : opener.length ≤ t.text.length := by
    rw [Token.stop] at hstop
    omega
  exact ⟨opener, hopener.mem, List.prefix_of_prefix_length_le hopener.stands htoken.stands hlen⟩

section Candidates

variable (hopeners : ∀ d ∈ reader.style.openers, ∀ c ∈ d, isLineEnd c = false)

include hopeners

/-- If no delimiter has a line end in it, candidates start in a line. -/
theorem startsInLine_of_candidate {q : Slice} (hq : q ∈ reader.slices text)
    (hcandidate : q.candidate = true) : q.text.StartsInLine := by
  obtain ⟨p, hp, rfl⟩ := List.mem_map.1 hq
  obtain ⟨t, ht, hp⟩ := List.mem_flatMap.1 hp
  unfold Piece.ofToken at hp
  split at hp
  · rw [List.mem_singleton] at hp
    subst hp
    obtain ⟨opener, hopener, hstarts⟩ :=
      exists_opener_of_mem_tokens ht (of_decide_eq_true hcandidate)
    have hne := CommentStyle.ne_nil_of_mem_openers hopener
    exact (Text.startsInLine_of_free hne (hopeners opener hopener)).mono hstarts
  · -- with inverse reading a comment is no candidate
    rw [List.mem_singleton] at hp
    subst hp
    cases hcandidate
  · obtain ⟨hne, l, hl, htext⟩ := Piece.exists_line_of_mem_ofLines hp hcandidate
    have hfree := (Text.hasLines_iff.2 rfl).free_of_mem hl
    rw [← htext] at hfree
    exact Text.startsInLine_of_free hne hfree

theorem startsInLine_of_role {q : Slice} (hq : q ∈ reader.slices text)
    (hrole : reader.rules.roleOf q ≠ .plain) : q.text.StartsInLine :=
  startsInLine_of_candidate hopeners hq (MarkerRules.candidate_of_roleOf_ne_plain hrole)

theorem Offends.startsInLine (h : reader.Offends text cause position marker) :
    marker.StartsInLine := by
  cases h with
  | @marker before after q cause hslices h =>
    have hq : q ∈ reader.slices text := by simp [hslices]
    cases h with
    | missingId hrole => exact startsInLine_of_role hopeners hq (by rw [hrole]; decide)
    | duplicateId hrole => exact startsInLine_of_role hopeners hq (by rw [hrole]; decide)
    | strayEnd hrole => exact startsInLine_of_role hopeners hq (by rw [hrole]; decide)
  | @region before after start id hslices hrole hid hafter =>
    have hq : start ∈ reader.slices text := by simp [hslices]
    exact startsInLine_of_role hopeners hq (by rw [hrole]; decide)
  | comment hposition hopener hends =>
    have hne := CommentStyle.ne_nil_of_mem_openers hopener.mem
    exact Text.startsInLine_of_free hne (hopeners _ hopener.mem)

end Candidates

/-- If no delimiter that opens comments has a line end in it, every fault of reading has a position
and a place. The text at the position starts with the piece that the fault is about, and the place is
the line and the column of the position. -/
theorem read_error_located (hopeners : ∀ d ∈ reader.style.openers, ∀ c ∈ d, isLineEnd c = false)
    (h : reader.read text = .error fault) :
    ∃ position marker place, reader.Offends text fault.cause position marker ∧
      fault.position = some (position : Int) ∧ fault.place = some place ∧
      marker ≠ [] ∧ marker <+: text.drop position ∧ place.IsAt text position := by
  obtain ⟨cause, position, marker, rfl, hoffends⟩ := (read_eq_error_iff.1 h).exists_offends
  have hinside := hoffends.startsInLine hopeners
  have hstands := hoffends.stands
  have hat : (Place.of text position).IsAt text position :=
    Place.isAt_of (hinside.mono hstands)
  exact ⟨position, marker, _, hoffends, rfl, rfl, hinside.ne_nil, hstands, hat⟩

/-- A region that is never closed, in a text with line ends of all kinds. Its start marker stands on
the fourth line, behind the end of a comment, and the region in it is closed. -/
theorem read_error_located_inner_line :
    let reader := slashes .flat true
    let text := ("a\rb\r\n/* c\n*/PROTECTED REGION ID(x) START\r\n" ++
      "/**/PROTECTED REGION ID(y) START\rPROTECTED REGION END\n").toList
    ∃ fault marker, reader.read text = .error fault ∧
      fault.message = "Unterminated marked region: x (line 4, column 3)" ∧
      reader.Offends text (.unclosedRegion ['x']) 12 marker ∧ marker <+: text.drop 12 ∧
      Place.IsAt { line := 4, column := 3 } text 12 := by
  intro reader text
  have hopeners : ∀ d ∈ reader.style.openers, ∀ c ∈ d, isLineEnd c = false := by
    have hall : reader.style.openers.all (·.all (!isLineEnd ·)) = true := by decide
    simpa only [List.all_eq_true, Bool.not_eq_true'] using hall
  have hread : (reader.read text).map Document.ids =
      .error (.found (.unclosedRegion ['x']) 12 text) := by
    decide +kernel
  cases h : reader.read text with
  | ok d => rw [h] at hread; cases hread
  | error fault =>
    rw [h] at hread
    cases hread
    obtain ⟨position, marker, place, hoffends, hposition, hplace, -, hstands, hat⟩ :=
      read_error_located hopeners h
    obtain rfl : position = 12 := by
      have hcast : ((12 : Nat) : Int) = position := Option.some.inj hposition
      omega
    obtain rfl : place = { line := 4, column := 3 } :=
      (Option.some.inj hplace).symm.trans (by decide +kernel)
    exact ⟨_, marker, rfl, by decide +kernel, hoffends, hstands, hat⟩

end RegionReader

end KeptRegions
