import KeptRegions.Number.Limits
import KeptRegions.Pattern.Basic
import KeptRegions.Text.Name
import KeptRegions.Text.Quoted

namespace KeptRegions

/-!
# The written form of patterns

Patterns are written as regular expressions. A backslash and the character after it are one sign, and
every other character is a sign of its own. Reading goes from left to right and stops at the first
fault; a backslash with nothing after it is noticed when the sign before it is taken.
-/

/-! ## Faults -/

/-- Why a written pattern cannot be read. -/
inductive PatternFault.Cause where
  | unclosedGroup
  | unclosedSet
  | unclosedRemark
  | unopenedGroup
  | nothingToRepeat
  | multipleRepeat
  | reversedBounds
  | reversedRange (lo hi : Text)
  | badEscape (sign : Text)
  | incompleteEscape (sign : Text)
  | danglingEscape
  | missingName
  | unclosedName
  | badName (name : Text)
  | repeatedName (name : Text) (group earlier : Nat)
  | unknownExtension (sign : Text)
  | unexpectedEnd
  /-- The sign belongs to the written form, but what it stands for is not read here. This is no fault of
  the pattern. -/
  | unsupported
  /-- The bound of a repetition is not taken as a number. This is no fault of the written form. -/
  | number (fault : NumberFault)
deriving DecidableEq

/-- The wording of a cause. -/
def PatternFault.Cause.wording : PatternFault.Cause → String
  | unclosedGroup => "missing ), unterminated subpattern"
  | unclosedSet => "unterminated character set"
  | unclosedRemark => "missing ), unterminated comment"
  | unopenedGroup => "unbalanced parenthesis"
  | nothingToRepeat => "nothing to repeat"
  | multipleRepeat => "multiple repeat"
  | reversedBounds => "min repeat greater than max repeat"
  | reversedRange lo hi => "bad character range " ++ Text.toStr lo ++ "-" ++ Text.toStr hi
  | badEscape sign => "bad escape " ++ Text.toStr sign
  | incompleteEscape sign => "incomplete escape " ++ Text.toStr sign
  | danglingEscape => "bad escape (end of pattern)"
  | missingName => "missing group name"
  | unclosedName => "missing >, unterminated name"
  | badName name => "bad character in group name " ++ Text.quoted name
  | repeatedName name group earlier =>
    "redefinition of group name " ++ Text.quoted name ++ " as group " ++ toString group
      ++ "; was group " ++ toString earlier
  | unknownExtension sign => "unknown extension " ++ Text.toStr sign
  | unexpectedEnd => "unexpected end of pattern"
  | unsupported => "unsupported construct"
  | number fault => fault.message

/-- A cause and the position in the written pattern that it is reported for. -/
structure PatternFault where
  cause : PatternFault.Cause
  position : Nat
deriving DecidableEq

/-- The message of a fault of the written pattern `s`. The line and the column are given only if the
pattern has several lines; here only a line feed ends a line. -/
def PatternFault.message (s : Text) (fault : PatternFault) : String :=
  let before := s.take fault.position
  let column := (before.reverse.takeWhile (· ≠ '\n')).length + 1
  fault.cause.wording ++ " at position " ++ toString fault.position ++
    if s.contains '\n' then
      " (line " ++ toString (before.count '\n' + 1) ++ ", column " ++ toString column ++ ")"
    else ""

namespace Pattern

/-! ## Signs -/

/-- A sign of a written pattern: one character, or a backslash with the character after it. -/
structure Sign where
  position : Nat
  text : Text
deriving DecidableEq

/-- The signs of a text that starts at position `i`. A last backslash is a sign by itself. -/
def signs (i : Nat) : Text → List Sign
  | [] => []
  | '\\' :: c :: s => { position := i, text := ['\\', c] } :: signs (i + 2) s
  | c :: s => { position := i, text := [c] } :: signs (i + 1) s

/-- What is left to read of a pattern of `length` characters, and the names of the groups that were
opened, the latest first, `none` for a group without a name. -/
structure Reading where
  left : List Sign
  length : Nat
  groups : List (Option Text)

/-- A step of reading. -/
abbrev Read := StateT Reading (Except PatternFault)

namespace Read

/-- The next sign. -/
def peek : Read (Option Text) := do
  return (← get).left.head?.map Sign.text

/-- The position of the next sign, or the length of the pattern at its end. -/
def position : Read Nat := do
  let r ← get
  return (r.left.head?.map Sign.position).getD r.length

/-- Fails for a cause at a position. -/
def fail {α : Type} (cause : PatternFault.Cause) (position : Nat) : Read α :=
  throw { cause, position }

/-- Fails if the next sign is a backslash with nothing after it. -/
def checkNext : Read Unit := do
  if (← peek) = some ['\\'] then
    fail .danglingEscape (← position)

/-- Takes the next sign. -/
def take : Read (Option Text) := do
  match (← get).left with
  | [] => return none
  | sign :: left =>
    modify ({ · with left })
    checkNext
    return some sign.text

/-- Takes the next sign if it is the character `c`. -/
def takeIf (c : Char) : Read Bool := do
  if (← peek) = some [c] then
    let _ ← take
    return true
  else return false

/-- Takes signs as long as they are single characters of a class, at most `bound` of them. -/
def takeWhile (p : Char → Bool) : Nat → Read Text
  | 0 => return []
  | bound + 1 => do
    match ← peek with
    | some [c] =>
      if p c then
        let _ ← take
        return c :: (← takeWhile p bound)
      else return []
    | _ => return []

end Read

/-! ## Escapes -/

/-- What one escape stands for: a code point, or the characters of a kind. -/
inductive Escape where
  | code (n : Nat)
  | kind (kind : CharKind) (negated : Bool)
deriving DecidableEq

/-- The member of a set that an escape stands for. -/
def Escape.item : Escape → CharItem
  | code n => .range n n
  | kind k negated => .kind k negated

/-- The value of an ASCII hexadecimal digit. -/
def hexValue (c : Char) : Nat :=
  if c.isDigit then c.toNat - 48 else if c.isUpper then c.toNat - 55 else c.toNat - 87

/-- Whether a character is an ASCII hexadecimal digit. -/
def isHexDigit (c : Char) : Bool :=
  c.isDigit || ('a' ≤ c && c ≤ 'f') || ('A' ≤ c && c ≤ 'F')

/-- The number written by hexadecimal digits. -/
def hexNumber (digits : Text) : Nat :=
  digits.foldl (fun n c => 16 * n + hexValue c) 0

/-- Reads the rest of an escape of a code point by exactly `width` hexadecimal digits. -/
def readHex (start : Nat) (sign : Text) (width : Nat) : Read Escape := do
  let digits ← Read.takeWhile isHexDigit width
  if digits.length < width then
    Read.fail (.incompleteEscape (sign ++ digits)) start
  else if 0x10FFFF < hexNumber digits then
    Read.fail (.badEscape (sign ++ digits)) start
  else
    return .code (hexNumber digits)

/-- Reads the escape that starts with the backslash and the character `c` at `start`. Inside a set
`b` stands for the backspace character. -/
def readEscape (start : Nat) (inSet : Bool) (c : Char) : Read Escape :=
  match c with
  | 'a' => return .code 7
  | 'f' => return .code 12
  | 'n' => return .code 10
  | 'r' => return .code 13
  | 't' => return .code 9
  | 'v' => return .code 11
  | 'd' => return .kind .digit false
  | 'D' => return .kind .digit true
  | 's' => return .kind .blank false
  | 'S' => return .kind .blank true
  | 'w' => return .kind .word false
  | 'W' => return .kind .word true
  | 'x' => readHex start ['\\', c] 2
  | 'u' => readHex start ['\\', c] 4
  | 'U' => readHex start ['\\', c] 8
  | 'b' => if inSet then return .code 8 else Read.fail .unsupported start
  | 'A' | 'B' | 'Z' =>
    Read.fail (if inSet then .badEscape ['\\', c] else .unsupported) start
  | 'N' => Read.fail .unsupported start
  | _ =>
    if c.isDigit then Read.fail .unsupported start
    else if c.isAlpha then Read.fail (.badEscape ['\\', c]) start
    else return .code c.toNat

/-! ## Sets -/

/-- Reads what one sign of a set stands for. -/
def readSetSign (start : Nat) (sign : Text) : Read Escape :=
  match sign with
  | ['\\', c] => readEscape start true c
  | c :: _ => return .code c.toNat
  | [] => Read.fail .unclosedSet start

/-- Reads the members of a set that was opened at `start`. A closing bracket in first place is a
member, and so is a hyphen in last place. -/
def readSet (start : Nat) (items : List CharItem) : Nat → Read (List CharItem)
  | 0 => Read.fail .unclosedSet start
  | bound + 1 => do
    let here ← Read.position
    match ← Read.take with
    | none => Read.fail .unclosedSet start
    | some sign =>
      if sign = [']'] && !items.isEmpty then return items.reverse
      let lo ← readSetSign here sign
      if ← Read.takeIf '-' then
        let there ← Read.position
        match ← Read.take with
        | none => Read.fail .unclosedSet start
        | some other =>
          if other = [']'] then return (.range 45 45 :: lo.item :: items).reverse
          let hi ← readSetSign there other
          let reversed : Read (List CharItem) := do
            Read.fail (.reversedRange sign other)
              ((← Read.position) - (sign.length + 1 + other.length))
          match lo, hi with
          | .code m, .code n =>
            if n < m then reversed else readSet start (.range m n :: items) bound
          | _, _ => reversed
      else readSet start (lo.item :: items) bound

/-! ## Repetitions -/

/-- How often an item is to be repeated. -/
structure Bounds where
  min : Nat
  max : Option Nat
deriving DecidableEq

/-- The number written by decimal digits. -/
def decimalNumber (digits : Text) : Nat :=
  digits.foldl (fun n c => 10 * n + (c.toNat - 48)) 0

/-- The bound that some digits write, none of them being zero. What the digits are taken for is settled
before the number is compared with anything. -/
def readBound (here : Nat) (digits : Text) : Read Nat :=
  if maxDigits < digits.length then Read.fail (.number (.unreadable digits.length)) here
  else if boundLimit ≤ decimalNumber digits then Read.fail (.number .hugeBound) here
  else return decimalNumber digits

/-- Reads the rest of a repetition that starts with an opening brace, whose next position is `here`.
What does not have the form of bounds is no repetition: then nothing is taken. -/
def readBounds (here : Nat) : Read (Option Bounds) := do
  let before ← get
  if (← Read.peek) = some ['\x7d'] then return none
  let lo ← Read.takeWhile Char.isDigit before.left.length
  let hi ← if ← Read.takeIf ',' then Read.takeWhile Char.isDigit before.left.length else pure lo
  if ← Read.takeIf '\x7d' then
    let min ← readBound here lo
    if hi.isEmpty then return some { min, max := none }
    let max ← readBound here hi
    if max < min then Read.fail .reversedBounds here
    return some { min, max := some max }
  else
    set before
    return none

/-- The bounds that the sign of a repetition stands for. -/
def readRepetition (c : Char) : Read (Option Bounds) := do
  match c with
  | '?' => return some { min := 0, max := some 1 }
  | '*' => return some { min := 0, max := none }
  | '+' => return some { min := 1, max := none }
  | _ => readBounds (← Read.position)

/-! ## Groups -/

/-- Reads a group name that starts at `start` up to its closing bracket. -/
def readName (start : Nat) (name : Text) : Nat → Read Text
  | 0 => Read.fail .missingName start
  | bound + 1 => do
    let here ← Read.position
    match ← Read.take with
    | none => Read.fail (if name.isEmpty then .missingName else .unclosedName) start
    | some sign =>
      if sign = ['>'] then
        if name.isEmpty then Read.fail .missingName here
        else if isName name then return name
        else Read.fail (.badName name) start
      else readName start (name ++ sign) bound

/-- Skips a remark up to its closing parenthesis. -/
def skipRemark (start : Nat) : Nat → Read Unit
  | 0 => Read.fail .unclosedRemark start
  | bound + 1 => do
    match ← Read.take with
    | none => Read.fail .unclosedRemark start
    | some sign => if sign = [')'] then return () else skipRemark start bound

/-- Opens a group. A name may be used once. -/
def openGroup (name : Option Text) (position : Nat) : Read Unit := do
  let r ← get
  let number := r.groups.length + 1
  match name with
  | none => pure ()
  | some n =>
    match r.groups.reverse.findIdx? (· = some n) with
    | some i => Read.fail (.repeatedName n number (i + 1)) position
    | none => pure ()
  set { r with groups := name :: r.groups }

/-- What an opening parenthesis starts. -/
inductive Opening where
  | group (name : Option Text)
  | plain
  | remark
deriving DecidableEq

/-- Reads what follows an opening parenthesis at `start`, up to the content of the group. -/
def readOpening (start : Nat) : Read Opening := do
  let mark ← Read.position
  if ← Read.takeIf '?' then
    let bound := (← get).left.length + 1
    match ← Read.take with
    | none => Read.fail .unexpectedEnd (← Read.position)
    | some ['P'] =>
      if ← Read.takeIf '<' then
        let here ← Read.position
        let name ← readName here [] bound
        openGroup (some name) here
        return .group (some name)
      else if (← Read.peek) = some ['='] then Read.fail .unsupported start
      else
        match ← Read.take with
        | none => Read.fail .unexpectedEnd (← Read.position)
        | some sign => Read.fail (.unknownExtension (['?', 'P'] ++ sign)) mark
    | some [':'] => return .plain
    | some ['#'] =>
      skipRemark start bound
      return .remark
    | some ['<'] =>
      match ← Read.take with
      | none => Read.fail .unexpectedEnd (← Read.position)
      | some sign =>
        if sign = ['='] || sign = ['!'] then Read.fail .unsupported start
        else Read.fail (.unknownExtension (['?', '<'] ++ sign)) mark
    | some sign =>
      if sign.all ("=!(>-iLmsxatu".toList.contains ·) then Read.fail .unsupported start
      else Read.fail (.unknownExtension (['?'] ++ sign)) mark
  else
    openGroup none start
    return .group none

/-! ## Sequences and choices -/

/-- An item of a sequence, and whether it is a repetition already. -/
structure Item where
  pattern : Pattern
  repeated : Bool

/-- The sequence of some items that are given last first. -/
def sequence (items : List Item) : Pattern :=
  items.foldl (fun p item => if p = .empty then item.pattern else .seq item.pattern p) .empty

/-- Repeats the last item. -/
def repeatLast (position : Nat) (bounds : Bounds) (items : List Item) : Read (List Item) := do
  match items with
  | [] => Read.fail .nothingToRepeat position
  | item :: items =>
    if item.repeated then Read.fail .multipleRepeat position
    let lazy ← Read.takeIf '?'
    if (← Read.peek) = some ['+'] && !lazy then Read.fail .unsupported position
    return { pattern := .times item.pattern bounds.min bounds.max (!lazy), repeated := true } :: items

mutual

/-- Reads a choice: sequences with bars between them. -/
def readChoice : Nat → Read Pattern
  | 0 => Read.fail .unexpectedEnd 0
  | bound + 1 => do
    let first ← readSequence bound []
    if ← Read.takeIf '|' then return .alt first (← readChoice bound) else return first

/-- Reads a sequence, of which `items` have been read, the latest first. It ends before a bar, before
a closing parenthesis, or with the pattern. -/
def readSequence : Nat → List Item → Read Pattern
  | 0, _ => Read.fail .unexpectedEnd 0
  | bound + 1, items => do
    let start ← Read.position
    let add (p : Pattern) : Read Pattern :=
      readSequence bound ({ pattern := p, repeated := false } :: items)
    match ← Read.peek with
    | none | some ['|'] | some [')'] => return sequence items
    | some sign =>
      let _ ← Read.take
      match sign with
      | ['\\', c] => add (.one { negated := false, items := [(← readEscape start false c).item] })
      | ['.'] => add (.one .all)
      | ['['] =>
        let negated ← Read.takeIf '^'
        add (.one { negated, items := ← readSet start [] ((← get).left.length + 1) })
      | ['('] =>
        match ← readOpening start with
        | .remark => readSequence bound items
        | opening =>
          let content ← readChoice bound
          if !(← Read.takeIf ')') then Read.fail .unclosedGroup start
          match opening with
          | .group (some name) => add (.named name content)
          | _ => add content
      | [c] =>
        if c = '^' || c = '$' then Read.fail .unsupported start
        else if c = '?' || c = '*' || c = '+' || c = '\x7b' then
          match ← readRepetition c with
          | none => add (.one (.single c.toNat))
          | some bounds => readSequence bound (← repeatLast start bounds items)
        else add (.one (.single c.toNat))
      | _ => Read.fail .unsupported start

end

/-- Reads a whole written pattern. -/
def readAll : Read Pattern := do
  Read.checkNext
  let p ← readChoice (2 * (← get).left.length + 2)
  if (← Read.peek).isSome then Read.fail .unopenedGroup (← Read.position)
  return p

/-- The pattern that a text writes. -/
def read (s : Text) : Except PatternFault Pattern :=
  (readAll.run { left := signs 0 s, length := s.length, groups := [] }).map Prod.fst

/-- The pattern of a text that is known to write one. -/
def ofText (s : Text) (h : (read s).isOk = true) : Pattern :=
  match hs : read s with
  | .ok p => p
  | .error _ => by simp [hs, Except.isOk, Except.toBool] at h

theorem read_ofText (s : Text) (h : (read s).isOk = true) : read s = .ok (ofText s h) := by
  unfold ofText
  split
  · assumption
  · rename_i hs
    simp [hs, Except.isOk, Except.toBool] at h

end Pattern

end KeptRegions
