import KeptRegions.Yaml.Token

namespace KeptRegions.Yaml

/-!
# Nodes of Yaml

The tokens of a document form one node: a scalar, a list, or a mapping whose keys are nodes too. An
entry, a key or a value that is left out is an empty plain scalar.
-/

/-- A node as it is written. -/
inductive YamlNode where
  | scalar (plain : Bool) (text : Text)
  | list (items : List YamlNode)
  | map (entries : List (YamlNode × YamlNode))

namespace YamlNode

/-- The node where nothing is written. -/
def blank : YamlNode :=
  scalar true []

/-- Whether the tokens start with one of the kinds given, or are at their end. -/
def stopsAt (stops : List YamlToken) (ts : List YamlToken) : Bool :=
  ts.head?.all (stops.contains ·)

/-- Whether the tokens start with the token. -/
def startsWith (t : YamlToken) (ts : List YamlToken) : Bool :=
  ts.head? = some t

/-- What is wrong with tokens that cannot go on like this: their first one, if it is broken. -/
def unexpected : List YamlToken → YamlFault
  | .broken fault :: _ => fault
  | _ => .malformed

/-- The tokens after a separating comma. In first place there is none. -/
def afterComma (first : Bool) (ts : List YamlToken) : Except YamlFault (List YamlToken) :=
  match first, ts with
  | true, ts => .ok ts
  | false, .flowEntry :: ts => .ok ts
  | false, ts => .error (unexpected ts)

mutual

/-- Reads a node. Block collections are read only if `block` is true, and a sequence without an
indentation of its own only if `loose` is. -/
def node (block loose : Bool) : Nat → List YamlToken → Except YamlFault (YamlNode × List YamlToken)
  | 0, _ => .error .malformed
  | bound + 1, ts =>
    match ts with
    | .scalar plain text :: ts => .ok (scalar plain text, ts)
    | .flowSequence :: ts => do
      let (items, ts) ← flowItems true bound ts
      return (list items, ts)
    | .flowMapping :: ts => do
      let (entries, ts) ← flowEntries true bound ts
      return (map entries, ts)
    | .blockSequence :: ts => do
      if !block then throw .malformed
      let (items, ts) ← blockItems bound ts
      return (list items, ts)
    | .blockMapping :: ts => do
      if !block then throw .malformed
      let (entries, ts) ← blockEntries bound ts
      return (map entries, ts)
    | .blockEntry :: _ => do
      if !loose then throw .malformed
      let (items, ts) ← looseItems bound ts
      return (list items, ts)
    | ts => .error (unexpected ts)

/-- Reads a node unless one of the tokens `stops` comes first: then nothing is written. -/
def nodeUnless (stops : List YamlToken) (block loose : Bool) :
    Nat → List YamlToken → Except YamlFault (YamlNode × List YamlToken)
  | 0, _ => .error .malformed
  | bound + 1, ts => if stopsAt stops ts then .ok (blank, ts) else node block loose bound ts

/-- Reads the value of an entry, which may be left out together with its mark. -/
def valueUnless (stops : List YamlToken) (block : Bool) :
    Nat → List YamlToken → Except YamlFault (YamlNode × List YamlToken)
  | 0, _ => .error .malformed
  | bound + 1, ts =>
    match ts with
    | .value :: ts => nodeUnless stops block block bound ts
    | ts => .ok (blank, ts)

/-- The items of an indented block sequence, up to its end. -/
def blockItems : Nat → List YamlToken → Except YamlFault (List YamlNode × List YamlToken)
  | 0, _ => .error .malformed
  | bound + 1, ts =>
    match ts with
    | .blockEntry :: ts => do
      let (item, ts) ← nodeUnless [.blockEntry, .blockEnd] true false bound ts
      let (items, ts) ← blockItems bound ts
      return (item :: items, ts)
    | .blockEnd :: ts => .ok ([], ts)
    | ts => .error (unexpected ts)

/-- The items of a block sequence at the column of the key it belongs to. -/
def looseItems : Nat → List YamlToken → Except YamlFault (List YamlNode × List YamlToken)
  | 0, _ => .error .malformed
  | bound + 1, ts =>
    match ts with
    | .blockEntry :: ts => do
      let (item, ts) ← nodeUnless [.blockEntry, .key, .value, .blockEnd] true false bound ts
      let (items, ts) ← looseItems bound ts
      return (item :: items, ts)
    | ts => .ok ([], ts)

/-- The entries of a block mapping, up to its end. -/
def blockEntries :
    Nat → List YamlToken → Except YamlFault (List (YamlNode × YamlNode) × List YamlToken)
  | 0, _ => .error .malformed
  | bound + 1, ts =>
    match ts with
    | .key :: ts => do
      let (k, ts) ← nodeUnless [.key, .value, .blockEnd] true true bound ts
      let (v, ts) ← valueUnless [.key, .value, .blockEnd] true bound ts
      let (entries, ts) ← blockEntries bound ts
      return ((k, v) :: entries, ts)
    | .blockEnd :: ts => .ok ([], ts)
    | ts => .error (unexpected ts)

/-- The items of a flow sequence, up to its end. An item may be a mapping of one entry without
braces. -/
def flowItems (first : Bool) :
    Nat → List YamlToken → Except YamlFault (List YamlNode × List YamlToken)
  | 0, _ => .error .malformed
  | bound + 1, ts =>
    if startsWith .flowSequenceEnd ts then .ok ([], ts.tail)
    else do
      let ts ← afterComma first ts
      match ts with
      | .flowSequenceEnd :: ts => return ([], ts)
      | .key :: ts =>
        let (k, ts) ← nodeUnless [.value, .flowEntry, .flowSequenceEnd] false false bound ts
        let (v, ts) ← valueUnless [.flowEntry, .flowSequenceEnd] false bound ts
        let (items, ts) ← flowItems false bound ts
        return (map [(k, v)] :: items, ts)
      | ts =>
        let (item, ts) ← node false false bound ts
        let (items, ts) ← flowItems false bound ts
        return (item :: items, ts)

/-- The entries of a flow mapping, up to its end. An entry may be a key alone. -/
def flowEntries (first : Bool) :
    Nat → List YamlToken → Except YamlFault (List (YamlNode × YamlNode) × List YamlToken)
  | 0, _ => .error .malformed
  | bound + 1, ts =>
    if startsWith .flowMappingEnd ts then .ok ([], ts.tail)
    else do
      let ts ← afterComma first ts
      match ts with
      | .flowMappingEnd :: ts => return ([], ts)
      | .key :: ts =>
        let (k, ts) ← nodeUnless [.value, .flowEntry, .flowMappingEnd] false false bound ts
        let (v, ts) ← valueUnless [.flowEntry, .flowMappingEnd] false bound ts
        let (entries, ts) ← flowEntries false bound ts
        return ((k, v) :: entries, ts)
      | ts =>
        let (k, ts) ← node false false bound ts
        let (entries, ts) ← flowEntries false bound ts
        return ((k, blank) :: entries, ts)

end

/-- The node of a document, `none` if there is no document. There is at most one, and marks may stand
before and after it. -/
def ofTokens (ts : List YamlToken) : Except YamlFault (Option YamlNode) :=
  let isEnd (t : YamlToken) : Bool := t = .documentEnd
  let bound := 3 * ts.length + 3
  let finish (step : Except YamlFault (YamlNode × List YamlToken)) :
      Except YamlFault (Option YamlNode) := do
    let (n, ts) ← step
    match ts.dropWhile isEnd with
    | [] => return some n
    | ts => throw (unexpected ts)
  match ts with
  | [] => .ok none
  | .documentStart :: ts =>
    finish (nodeUnless [.documentStart, .documentEnd] true false bound ts)
  | ts => finish (node true false bound ts)

end YamlNode

end KeptRegions.Yaml
