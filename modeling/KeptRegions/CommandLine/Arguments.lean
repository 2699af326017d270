import KeptRegions.Text.Basic
import KeptRegions.Text.Digit

namespace KeptRegions

/-!
# Arguments

The words of a command line are options, values of options, and plain words. An option has a short
name of one letter, a long name, or both; a long name may be shortened as long as it stays unique. A
value follows as the next word, after an equals sign, or directly after a short name, and short names
of options without a value can be written together. After a mark, a word of two hyphens, all words
are plain. A mark where a value should be leaves the value out.
-/

/-- An option of a command. -/
structure Switch where
  /-- The long name, without hyphens, under which the option is noted. -/
  long : String
  short : Option Char
  takesValue : Bool
deriving DecidableEq

/-- What the plain words of a command are for. -/
inductive Operands where
  /-- So many words, no fewer and no more. -/
  | exactly (n : Nat)
  /-- At least one word. -/
  | some
  /-- The name of a command, with all words after it, options or not. -/
  | command
deriving DecidableEq

/-- What a command takes. -/
structure Grammar where
  switches : List Switch
  operands : Operands
deriving DecidableEq

/-- Why words are not carried out as a command: help was asked for, or they are used wrongly. -/
inductive Refusal where
  | help
  | misuse
deriving DecidableEq

/-- What a word is taken for. -/
inductive WordKind where
  | plain
  /-- An option by its short name or by its long one, perhaps with more in the same word. -/
  | switch (switch : Switch) (byLetter : Bool) (attached : Option Text)
  /-- Something that looks like an option but is none of the command's. -/
  | stranger
deriving DecidableEq

/-- The option that asks for help; every command has it. -/
def helpSwitch : Switch :=
  { long := "help", short := some 'h', takesValue := false }

namespace Grammar

/-- All options, help among them. -/
def allSwitches (g : Grammar) : List Switch :=
  helpSwitch :: g.switches

/-- A word with two hyphens as an option: by its full name, or by a part of it that fits one name
only. -/
def longKind (g : Grammar) (name : Text) (attached : Option Text) : Except Refusal WordKind :=
  match g.allSwitches.find? fun s => s.long.toList == name with
  | some s => .ok (.switch s false attached)
  | none =>
    match g.allSwitches.filter fun s => name.isPrefixOf s.long.toList with
    | [] => .ok .stranger
    | [s] => .ok (.switch s false attached)
    | _ => .error .misuse

/-- The option with the short name. -/
def letter? (g : Grammar) (c : Char) : Option Switch :=
  g.allSwitches.find? (·.short = some c)

/-- Whether a word is a negative number. A line feed may end it. -/
def isNegativeNumber (s : Text) : Bool :=
  let s := if s.getLast? = some '\n' then s.dropLast else s
  match s with
  | '-' :: digits =>
    let before := digits.takeWhile isDecimalDigit
    match digits.dropWhile isDecimalDigit with
    | [] => !before.isEmpty
    | '.' :: after => !after.isEmpty && after.all isDecimalDigit
    | _ => false
  | _ => false

/-- A word that may be a plain one after all. -/
def orPlain (s : Text) (kind : WordKind) : WordKind :=
  match kind with
  | .stranger => if isNegativeNumber s || s.contains ' ' then .plain else .stranger
  | kind => kind

/-- What a word is taken for. Right after a short name an equals sign is left out once. -/
def kindOf (g : Grammar) (word : String) : Except Refusal WordKind :=
  match word.toList with
  | '-' :: '-' :: rest =>
    let name := rest.takeWhile (· ≠ '=')
    let attached := (rest.dropWhile (· ≠ '=')).tail?
    (g.longKind name attached).map (orPlain word.toList)
  | '-' :: c :: rest =>
    match g.letter? c, rest with
    | none, _ => .ok (orPlain word.toList .stranger)
    | some s, [] => .ok (.switch s true none)
    | some s, '=' :: attached => .ok (.switch s true (some attached))
    | some s, attached => .ok (.switch s true (some attached))
  | _ => .ok .plain

end Grammar

/-! ## Reading the words -/

/-- The options that were given, in order, with their values, what stands in the places of plain
words, and whether words were left over. -/
structure Words where
  switches : List (String × Option String)
  operands : List (Option String)
  strays : Bool
deriving DecidableEq

namespace Words

/-- The mark before which words may be options and after which they are plain. -/
def mark : String :=
  "--"

/-- What stands in the place of a word: the word, or nothing if it is a mark. -/
def unlessMark (word : String) : Option String :=
  if word = mark then none else some word

/-- Nothing read. -/
def empty : Words :=
  { switches := [], operands := [], strays := false }

/-- The value that was given last for an option. -/
def value? (w : Words) (long : String) : Option String :=
  (w.switches.reverse.find? fun (name, _) => name == long).bind Prod.snd

/-- Whether an option was given. -/
def has (w : Words) (long : String) : Bool :=
  w.switches.any fun (name, _) => name == long

/-- The plain words. -/
def present (w : Words) : List String :=
  w.operands.filterMap id

/-- Notes an option. -/
def note (w : Words) (s : Switch) (value : Option String) : Except Refusal Words :=
  if s.long = "help" then .error .help
  else .ok { w with switches := w.switches ++ [(s.long, value)] }

/-- Notes options in turn. -/
def noteAll (w : Words) (given : List (Switch × Option String)) : Except Refusal Words :=
  given.foldlM (fun w (s, value) => w.note s value) w

end Words

/-- What one word of options stands for: options with their values, and an option whose value is to
follow in the next word. -/
structure Cluster where
  given : List (Switch × Option String)
  awaiting : Option Switch

namespace Cluster

/-- An option with nothing after it in its word. -/
def alone (s : Switch) : Cluster :=
  if s.takesValue then { given := [], awaiting := some s }
  else { given := [(s, none)], awaiting := none }

/-- An option with its value in the same word. -/
def withValue (s : Switch) (value : Text) : Cluster :=
  { given := [(s, Words.unlessMark (String.ofList value))], awaiting := none }

/-- The options with another one in front, which takes no value. -/
def after (s : Switch) (c : Cluster) : Cluster :=
  { c with given := (s, none) :: c.given }

end Cluster

namespace Grammar

/-- Short names that are written together, after the name of `s`, which takes no value. -/
def letters (g : Grammar) (s : Switch) : Text → Except Refusal Cluster
  | [] => .error .misuse
  | c :: rest =>
    match g.letter? c with
    | none => .error .misuse
    | some next =>
      if rest.isEmpty then .ok (.after s (.alone next))
      else if next.takesValue then .ok (.after s (.withValue next rest))
      else (letters g next rest).map (.after s)

/-- The options that one word stands for. -/
def cluster (g : Grammar) (s : Switch) (byLetter : Bool) : Option Text → Except Refusal Cluster
  | none => .ok (.alone s)
  | some attached =>
    if s.takesValue then .ok (.withValue s attached)
    else if byLetter then g.letters s attached
    else .error .misuse

/-- How many more plain words a command takes. -/
def room (g : Grammar) (taken : Nat) : Nat :=
  match g.operands with
  | .exactly n => n - taken
  | .some => if taken = 0 then 1 else 0
  | .command => 0

/-- Takes plain words that stand next to each other. A list of words is taken as a whole; of single
words as many as are needed, and the others are left over. -/
def takeRun (g : Grammar) (w : Words) (run : List (Option String)) : Words :=
  if run.isEmpty then w
  else
    match g.operands with
    | .some =>
      if w.operands.isEmpty then { w with operands := run } else { w with strays := true }
    | .exactly _ =>
      let room := g.room w.operands.length
      { w with
        operands := w.operands ++ run.take room
        strays := w.strays || room < run.length }
    | .command => { w with strays := true }

/-- What stands after the mark, where `run` is what stands in front of it. The mark belongs to the
single word before it, or else to the one after it; a later single word that looks like a mark leaves
its place empty. -/
def afterMark (g : Grammar) (run after : List String) : List (Option String) :=
  match g.operands, run, after with
  | .exactly _, [], word :: rest => some word :: rest.map Words.unlessMark
  | .exactly _, _, rest => rest.map Words.unlessMark
  | _, _, rest => rest.map some

/-- Takes the plain words after the last option, those after a mark included. A mark that belongs to
no word is left over. -/
def takeLast (g : Grammar) (w : Words) (run : List String) : Option (List String) → Words
  | none => g.takeRun w (run.map some)
  | some after =>
    let whole := run.map some ++ g.afterMark run after
    let missed := whole.isEmpty || g.room w.operands.length = 0
    let w := g.takeRun w whole
    { w with strays := w.strays || missed }

end Grammar

/-- Words with what each is taken for, up to a mark; after it come plain words only. -/
structure Sorted where
  words : List (String × WordKind)
  afterMark : Option (List String)

/-- Sorts words. -/
def Grammar.sort (g : Grammar) : List String → Except Refusal Sorted
  | [] => .ok { words := [], afterMark := none }
  | word :: rest =>
    if word = Words.mark then .ok { words := [], afterMark := some rest }
    else do
      let kind ← g.kindOf word
      let sorted ← g.sort rest
      return { sorted with words := (word, kind) :: sorted.words }

namespace Grammar

/-- Reads sorted words. The plain words that were met since the last option are in `run`. -/
def readWords (g : Grammar) (w : Words) (run : List String) (after : Option (List String)) :
    List (String × WordKind) → Except Refusal Words
  | [] => .ok (g.takeLast w run after)
  | (word, .plain) :: rest =>
    if g.operands = .command then
      let words := word :: rest.map Prod.fst ++ after.elim [] (Words.mark :: ·)
      .ok { w with operands := words.map some }
    else readWords g w (run ++ [word]) after rest
  | (_, .stranger) :: rest =>
    readWords g { g.takeRun w (run.map some) with strays := true } [] after rest
  | (_, .switch s byLetter attached) :: rest => do
    let w := g.takeRun w (run.map some)
    let cluster ← g.cluster s byLetter attached
    match cluster.awaiting with
    | none => readWords g (← w.noteAll cluster.given) [] after rest
    | some s =>
      match rest with
      | (value, .plain) :: rest =>
        readWords g (← w.noteAll (cluster.given ++ [(s, some value)])) [] after rest
      | _ => .error .misuse

/-- The words of a command, some of which may be left over or missing. -/
def readLoosely (g : Grammar) (words : List String) : Except Refusal Words := do
  let sorted ← g.sort words
  g.readWords .empty [] sorted.afterMark sorted.words

/-- The words of a command, which has to have the plain words it needs and no others. -/
def read (g : Grammar) (words : List String) : Except Refusal Words := do
  let w ← g.readLoosely words
  if w.strays || g.room w.operands.length ≠ 0 then .error .misuse else .ok w

end Grammar

end KeptRegions
