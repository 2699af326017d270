import KeptRegions.Yaml.Source

namespace KeptRegions.Yaml

/-!
# Tokens of Yaml

A Yaml text is cut into tokens. Indentation opens and closes block collections, and a colon makes a
key of the node in front of it; since that node has been read by then, the cursor remembers where a
possible key began and puts the key mark there when the colon comes. Anchors, aliases, tags, block
scalars and directives are not part of the language read here.

Tokens are handed on one by one, and a fault of the text after them is met only when the next token
is asked for. So a fault stands in the place of that token.
-/

/-- A token. -/
inductive YamlToken where
  | documentStart
  | documentEnd
  | blockSequence
  | blockMapping
  | blockEnd
  | blockEntry
  | key
  | value
  | flowSequence
  | flowSequenceEnd
  | flowMapping
  | flowMappingEnd
  | flowEntry
  | scalar (plain : Bool) (text : Text)
  /-- A fault of the text; nothing follows it. -/
  | broken (fault : YamlFault)
deriving DecidableEq

/-! ## Characters -/

/-- A character that ends a line. -/
def isBreak (c : Char) : Bool :=
  c = '\n' || c = '\r' || c = '\x85' || c = '\u2028' || c = '\u2029'

/-- A character that separates tokens. -/
def isGap (c : Char) : Bool :=
  c = ' ' || c = '\t' || isBreak c

/-- Whether the text is at its end or goes on with a gap. -/
def atGap (s : Text) : Bool :=
  s.head?.all isGap

/-- The byte order mark, which takes no column. -/
def byteOrderMark : Char :=
  '\ufeff'

/-- Whether the text starts with three equal signs and then a gap. -/
def atMark (c : Char) (s : Text) : Bool :=
  [c, c, c].isPrefixOf s && atGap (s.drop 3)

/-- Whether the text starts with a mark between documents. -/
def atDocumentMark (s : Text) : Bool :=
  atMark '-' s || atMark '.' s

/-! ## The cursor -/

/-- Where a possible key began: how many tokens came before it, its place, and whether a key has to
stand there. -/
structure KeySlot where
  count : Nat
  required : Bool
  index : Nat
  line : Nat
  column : Nat

/-- Where reading stands: the text left and its place, the depth of flow collections, which falls
below zero if more are closed than were opened, the columns of the open block collections, whether a
key may start here, the possible keys by flow depth, and the tokens so far, last first. -/
structure Cursor where
  rest : Text
  index : Nat
  line : Nat
  column : Nat
  flow : Int
  indent : Int
  indents : List Int
  keyAllowed : Bool
  slots : List (Int × KeySlot)
  tokens : List YamlToken

namespace Cursor

/-- A step of reading. -/
abbrev Result := Except YamlFault

/-- The cursor at the start of a text. -/
def start (s : Text) : Cursor :=
  { rest := s, index := 0, line := 0, column := 0, flow := 0, indent := -1, indents := []
    keyAllowed := true, slots := [], tokens := [] }

/-- Passes over the first `n` characters. -/
def advance : Nat → Cursor → Cursor
  | 0, s => s
  | n + 1, s =>
    match s.rest with
    | [] => s
    | c :: rest =>
      let ends := isBreak c && !(c = '\r' && rest.head? = some '\n')
      advance n
        { s with
          rest
          index := s.index + 1
          line := if ends then s.line + 1 else s.line
          column := if ends then 0 else if c = byteOrderMark then s.column else s.column + 1 }

/-- Passes over all characters of a class. -/
def skipWhile (p : Char → Bool) (s : Cursor) : Cursor :=
  s.advance (s.rest.takeWhile p).length

/-- Passes over one line end if there is one. Most line ends count as a line feed. -/
def takeBreak? (s : Cursor) : Option (Char × Cursor) :=
  match s.rest with
  | '\r' :: '\n' :: _ => some ('\n', s.advance 2)
  | c :: _ =>
    if isBreak c then
      some (if c = '\u2028' || c = '\u2029' then c else '\n', s.advance 1)
    else none
  | [] => none

/-- Adds a token. -/
def emit (token : YamlToken) (s : Cursor) : Cursor :=
  { s with tokens := token :: s.tokens }

/-- Puts a token after the first `count` tokens. -/
def insertAt (count : Nat) (token : YamlToken) (s : Cursor) : Cursor :=
  let later := s.tokens.length - count
  { s with tokens := s.tokens.take later ++ token :: s.tokens.drop later }

/-- Passes over spaces, remarks and line ends. Outside of flow collections a key may start after a
line end. -/
def skipGaps : Nat → Cursor → Cursor
  | 0, s => s
  | bound + 1, s =>
    let s := s.skipWhile (· = ' ')
    let s := if s.rest.head? = some '#' then s.skipWhile (!isBreak ·) else s
    match s.takeBreak? with
    | none => s
    | some (_, s) => skipGaps bound (if s.flow = 0 then { s with keyAllowed := true } else s)

/-! ## Possible keys -/

/-- Forgets possible keys that began on another line or too far back. -/
def dropStaleKeys (s : Cursor) : Result Cursor :=
  let stale (slot : KeySlot) : Bool := slot.line ≠ s.line || 1024 < s.index - slot.index
  if s.slots.any fun (_, slot) => stale slot && slot.required then .error .malformed
  else .ok { s with slots := s.slots.filter fun (_, slot) => !stale slot }

/-- Forgets the possible key at the present flow depth. -/
def dropKey (s : Cursor) : Result Cursor :=
  match s.slots.lookup s.flow with
  | none => .ok s
  | some slot =>
    if slot.required then .error .malformed
    else .ok { s with slots := s.slots.filter fun (level, _) => level ≠ s.flow }

/-- Notes that a key may begin here. -/
def saveKey (s : Cursor) : Result Cursor :=
  let required := s.flow = 0 && s.indent = s.column
  if s.keyAllowed then do
    let s ← s.dropKey
    let slot : KeySlot :=
      { count := s.tokens.length, required, index := s.index, line := s.line, column := s.column }
    return { s with slots := (s.flow, slot) :: s.slots }
  else .ok s

/-! ## Indentation -/

/-- Closes the block collections that are indented deeper than the column. -/
def unwind (column : Int) (s : Cursor) : Cursor :=
  if s.flow = 0 then close s.indents s else s
where
  /-- Closes collections as long as the present one is indented deeper. -/
  close : List Int → Cursor → Cursor
    | [], s => s
    | outer :: indents, s =>
      if column < s.indent then
        close indents { s with indent := outer, indents, tokens := .blockEnd :: s.tokens }
      else s

/-- Opens a block collection at the column if it is indented deeper than the present one. -/
def indentTo (column : Nat) (s : Cursor) : Option Cursor :=
  if s.indent < column then
    some { s with indent := column, indents := s.indent :: s.indents }
  else none

/-! ## Plain scalars -/

/-- Whether a colon before this text ends a plain scalar. -/
def endsPlain (inFlow : Bool) (after : Text) : Bool :=
  atGap after || (inFlow && after.head?.any (",[]\x7b\x7d".toList.contains ·))

/-- How many characters of a plain scalar follow without a gap. -/
def plainRun (inFlow : Bool) : Text → Nat
  | [] => 0
  | c :: rest =>
    if isGap c || (c = ':' && endsPlain inFlow rest)
        || (inFlow && ",?[]\x7b\x7d".toList.contains c) then 0
    else plainRun inFlow rest + 1

/-- Passes over the spaces and line ends that follow the first line end within a scalar; gives the
line ends, or nothing if the document ends there. -/
def plainBreaks (found : Text) : Nat → Cursor → Option Text × Cursor
  | 0, s => (some found, s)
  | bound + 1, s =>
    if s.rest.head? = some ' ' then plainBreaks found bound (s.advance 1)
    else
      match s.takeBreak? with
      | none => (some found, s)
      | some (c, s) =>
        if atDocumentMark s.rest then (none, s) else plainBreaks (found ++ [c]) bound s

/-- What a folded line end leaves in a scalar: a lone line feed becomes a space, and of several line
ends the first is dropped if it is a line feed. -/
def fold (first : Char) (others : Text) : Text :=
  (if first ≠ '\n' then [first] else if others.isEmpty then [' '] else []) ++ others

/-- The spaces or folded line ends after a part of a plain scalar. Nothing means that the scalar ends
there. -/
def plainSpaces (s : Cursor) : Text × Cursor :=
  let spaces := s.rest.takeWhile (· = ' ')
  let s := s.advance spaces.length
  match s.takeBreak? with
  | none => (spaces, s)
  | some (first, s) =>
    let s := { s with keyAllowed := true }
    if atDocumentMark s.rest then ([], s)
    else
      match plainBreaks [] s.rest.length s with
      | (none, s) => ([], s)
      | (some others, s) => (fold first others, s)

/-- The rest of a plain scalar. Its later lines have to be indented deeper than the collection around
it. -/
def plainFrom (indent : Int) (found spaces : Text) : Nat → Cursor → Text × Cursor
  | 0, s => (found, s)
  | bound + 1, s =>
    let run := if s.rest.head? = some '#' then 0 else plainRun (s.flow ≠ 0) s.rest
    if run = 0 then (found, s)
    else
      let found := found ++ spaces ++ s.rest.take run
      let s := { s.advance run with keyAllowed := false }
      let (spaces, s) := s.plainSpaces
      if spaces.isEmpty || s.rest.head? = some '#' || (s.flow = 0 && s.column < indent) then
        (found, s)
      else plainFrom indent found spaces bound s

/-- Whether a plain scalar can start here. -/
def atPlain (s : Cursor) : Bool :=
  match s.rest with
  | [] => false
  | c :: rest =>
    !(isGap c || "-?:,[]\x7b\x7d#&*!|>'\"%@\x60".toList.contains c)
      || (!atGap rest && (c = '-' || (s.flow = 0 && (c = '?' || c = ':'))))

/-! ## Quoted scalars -/

/-- The character that a one-letter escape stands for. -/
def simpleEscape? (c : Char) : Option Char :=
  [('0', '\x00'), ('a', '\x07'), ('b', '\x08'), ('t', '\t'), ('\t', '\t'), ('n', '\n'),
    ('v', '\x0b'), ('f', '\x0c'), ('r', '\r'), ('e', '\x1b'), (' ', ' '), ('"', '"'), ('\\', '\\'),
    ('/', '/'), ('N', '\x85'), ('_', '\xa0'), ('L', '\u2028'), ('P', '\u2029')].lookup c

/-- The number of hexadecimal digits that an escape takes. -/
def escapeWidth? (c : Char) : Option Nat :=
  [('x', 2), ('u', 4), ('U', 8)].lookup c

/-- The value of a hexadecimal digit. -/
def hexValue? (c : Char) : Option Nat :=
  if c.isDigit then some (c.toNat - 48)
  else if 'a' ≤ c && c ≤ 'f' then some (c.toNat - 87)
  else if 'A' ≤ c && c ≤ 'F' then some (c.toNat - 55)
  else none

/-- The number that exactly `width` hexadecimal digits write. -/
def hexNumber? (width : Nat) (s : Text) : Option Nat := do
  let digits := s.take width
  if digits.length < width then none
  digits.foldlM (fun n c => return 16 * n + (← hexValue? c)) 0

/-- Passes over line ends and the gaps in front of lines within a quoted scalar. No mark between
documents may start a line there. -/
def quotedBreaks (found : Text) : Nat → Cursor → Result (Text × Cursor)
  | 0, s => .ok (found, s)
  | bound + 1, s =>
    if atDocumentMark s.rest then .error .malformed
    else
      let s := s.skipWhile fun c => c = ' ' || c = '\t'
      match s.takeBreak? with
      | none => .ok (found, s)
      | some (c, s) => quotedBreaks (found ++ [c]) bound s

/-- One escape after a backslash in a double-quoted scalar. -/
def escape (s : Cursor) : Result (Text × Cursor) :=
  match s.rest with
  | [] => .error .unfinished
  | c :: rest =>
    match simpleEscape? c, escapeWidth? c with
    | some d, _ => .ok ([d], s.advance 1)
    | none, some width =>
      match hexNumber? width rest with
      | none => .error .malformed
      | some n =>
        if 0x10ffff < n then .error .noSuchCharacter
        else .ok ([Char.ofNat n], s.advance (width + 1))
    | none, none =>
      match s.takeBreak? with
      | none => .error .malformed
      | some (_, s) => quotedBreaks [] (s.rest.length + 1) s

/-- The rest of a quoted scalar and its closing quote. -/
def quotedFrom (quote : Char) (found : Text) : Nat → Cursor → Result (Text × Cursor)
  | 0, _ => .error .malformed
  | bound + 1, s =>
    match s.rest with
    | [] => .error .unfinished
    | c :: rest =>
      if c = quote then
        if quote = '\'' && rest.head? = some '\'' then
          quotedFrom quote (found ++ ['\'']) bound (s.advance 2)
        else .ok (found, s.advance 1)
      else if quote = '"' && c = '\\' then do
        let (text, s) ← (s.advance 1).escape
        quotedFrom quote (found ++ text) bound s
      else if isGap c then
        let spaces := s.rest.takeWhile fun c => c = ' ' || c = '\t'
        let s := s.advance spaces.length
        match s.takeBreak? with
        | none => quotedFrom quote (found ++ spaces) bound s
        | some (first, s) => do
          let (others, s) ← quotedBreaks [] (s.rest.length + 1) s
          quotedFrom quote (found ++ fold first others) bound s
      else quotedFrom quote (found ++ [c]) bound (s.advance 1)

/-! ## Tokens -/

/-- A scalar where a key may begin, read by `read`. -/
def scalar (plain : Bool) (read : Cursor → Result (Text × Cursor)) (s : Cursor) :
    Result Cursor := do
  let s ← s.saveKey
  let (text, s) ← read { s with keyAllowed := false }
  return s.emit (.scalar plain text)

/-- A mark between documents. -/
def documentMark (token : YamlToken) (s : Cursor) : Result Cursor := do
  let s ← (s.unwind (-1)).dropKey
  return ({ s with keyAllowed := false }.advance 3).emit token

/-- The start of a flow collection. -/
def openFlow (token : YamlToken) (s : Cursor) : Result Cursor := do
  let s ← s.saveKey
  return ({ s with flow := s.flow + 1, keyAllowed := true }.advance 1).emit token

/-- The end of a flow collection. -/
def closeFlow (token : YamlToken) (s : Cursor) : Result Cursor := do
  let s ← s.dropKey
  return ({ s with flow := s.flow - 1, keyAllowed := false }.advance 1).emit token

/-- The comma of a flow collection. -/
def flowEntry (s : Cursor) : Result Cursor := do
  let s ← { s with keyAllowed := true }.dropKey
  return (s.advance 1).emit .flowEntry

/-- The hyphen of a block sequence. -/
def blockEntry (s : Cursor) : Result Cursor := do
  let s ←
    if s.flow = 0 then
      if s.keyAllowed then
        match s.indentTo s.column with
        | some s => pure (s.emit .blockSequence)
        | none => pure s
      else throw .malformed
    else pure s
  let s ← { s with keyAllowed := true }.dropKey
  return (s.advance 1).emit .blockEntry

/-- The question mark of a key. -/
def explicitKey (s : Cursor) : Result Cursor := do
  let s ←
    if s.flow = 0 then
      if s.keyAllowed then
        match s.indentTo s.column with
        | some s => pure (s.emit .blockMapping)
        | none => pure s
      else throw .malformed
    else pure s
  let s ← { s with keyAllowed := s.flow = 0 }.dropKey
  return (s.advance 1).emit .key

/-- The colon of a value. -/
def value (s : Cursor) : Result Cursor := do
  match s.slots.lookup s.flow with
  | some slot =>
    let s := { s with slots := s.slots.filter fun (level, _) => level ≠ s.flow }
    let s := s.insertAt slot.count .key
    let s :=
      if s.flow = 0 then
        match s.indentTo slot.column with
        | some s => s.insertAt slot.count .blockMapping
        | none => s
      else s
    return ({ s with keyAllowed := false }.advance 1).emit .value
  | none =>
    let s ←
      if s.flow = 0 then
        if s.keyAllowed then
          match s.indentTo s.column with
          | some s => pure (s.emit .blockMapping)
          | none => pure s
        else throw .malformed
      else pure s
    let s ← { s with keyAllowed := s.flow = 0 }.dropKey
    return (s.advance 1).emit .value

/-- The next token that starts with the character `c`, which is followed by `rest`. -/
def token (c : Char) (rest : Text) (s : Cursor) : Result Cursor :=
  let bound := s.rest.length + 1
  if s.column = 0 && c = '%' then .error .malformed
  else if s.column = 0 && atMark '-' s.rest then s.documentMark .documentStart
  else if s.column = 0 && atMark '.' s.rest then s.documentMark .documentEnd
  else if c = '[' then s.openFlow .flowSequence
  else if c = '\x7b' then s.openFlow .flowMapping
  else if c = ']' then s.closeFlow .flowSequenceEnd
  else if c = '\x7d' then s.closeFlow .flowMappingEnd
  else if c = ',' then s.flowEntry
  else if c = '-' && atGap rest then s.blockEntry
  else if c = '?' && (s.flow ≠ 0 || atGap rest) then s.explicitKey
  else if c = ':' && (s.flow ≠ 0 || atGap rest) then s.value
  else if c = '\'' || c = '"' then
    s.scalar false fun s => quotedFrom c [] bound (s.advance 1)
  else if s.atPlain then
    s.scalar true fun s => .ok (plainFrom (s.indent + 1) [] [] bound s)
  else .error .malformed

/-- Passes over gaps to where the next token starts, and closes what ends there. -/
def toToken (s : Cursor) : Result Cursor := do
  let s ← (s.skipGaps (s.rest.length + 1)).dropStaleKeys
  return s.unwind s.column

/-- The tokens that have been handed on when the next one is found to be broken. The node at a
possible key is not handed on before it is known whether it is a key. -/
def brokenOff (s : Cursor) (fault : YamlFault) : List YamlToken :=
  let settled := s.slots.foldl (fun n (_, slot) => min n slot.count) s.tokens.length
  s.tokens.reverse.take settled ++ [.broken fault]

/-- All tokens, of which the cursor has those up to here. After the text comes the fault `last`, if
there is one. -/
def run (last : Option YamlFault) : Nat → Cursor → List YamlToken
  | 0, s => s.brokenOff .malformed
  | bound + 1, s =>
    match s.dropStaleKeys with
    | .error fault => s.brokenOff fault
    | .ok s =>
      match s.toToken with
      | .error fault => s.brokenOff fault
      | .ok next =>
        match next.rest, last with
        | [], some fault => s.brokenOff fault
        | [], none =>
          match (next.unwind (-1)).dropKey with
          | .error fault => s.brokenOff fault
          | .ok s => s.tokens.reverse
        | c :: rest, last =>
          match next.token c rest, last with
          | .error .unfinished, some fault => s.brokenOff fault
          | .error fault, _ => s.brokenOff fault
          | .ok next, some fault =>
            if next.rest.isEmpty then s.brokenOff fault else run last bound next
          | .ok next, none => run last bound next

end Cursor

/-- The tokens of a source. A byte order mark may come first. -/
def YamlToken.ofSource (source : Source) : List YamlToken :=
  let s := Cursor.start source.text
  let s := if s.rest.head? = some byteOrderMark then s.advance 1 else s
  s.run source.fault (s.rest.length + 1)

end KeptRegions.Yaml
