import KeptRegions.Yaml.Node
import KeptRegions.Yaml.Scalar

namespace KeptRegions.Yaml

/-!
# Values of Yaml

A quoted scalar is a text, and a plain scalar has the value of its form. A list holds the values of
its items. A mapping holds the values of its entries, where a later entry replaces an earlier one with
the same key, and other mappings may be merged into it.

Parts without a value are met level by level: first those directly in the outermost collection, then
those in the collections in it, and so on.
-/

namespace YamlNode

/-- Whether a node as a key merges other mappings into its own. -/
def isMerge : YamlNode → Bool
  | scalar plain text => plain && text = ['<', '<']
  | _ => false

/-- Whether a node is a mapping. -/
def isMap : YamlNode → Bool
  | map _ => true
  | _ => false

/-- Whether a node can be merged into a mapping: if it is one, or a list of some. -/
def isMergeable : YamlNode → Bool
  | map _ => true
  | list items => items.all isMap
  | scalar _ _ => false

end YamlNode

/-! ## Values -/

/-- The entries of a mapping that is to be merged into another: those of a mapping, or those of a list
of mappings, later ones first. -/
def mergedEntries? : Value → Option (List (Value × Value))
  | .map entries => some entries
  | .list items =>
    items.foldlM (fun found item =>
      match item with
      | .map entries => some (entries ++ found)
      | _ => none) []
  | _ => none

mutual

/-- The value of a node, if all its parts have one. -/
def YamlNode.value? : YamlNode → Option Value
  | .scalar true text => (plainValue text).toOption
  | .scalar false text => some (.text text)
  | .list items => (listValue? items).map .list
  | .map entries => do
    let (merged, own) ← entryValues? entries
    some (.map ((merged ++ own).foldl (fun found (k, v) => Value.setEntry k v found) []))

/-- The values of the items of a list. -/
def listValue? : List YamlNode → Option (List Value)
  | [] => some []
  | item :: rest => do
    let v ← item.value?
    let vs ← listValue? rest
    some (v :: vs)

/-- The entries of a mapping: those merged into it, and its own. A compound value is no key. -/
def entryValues? : List (YamlNode × YamlNode) → Option (List (Value × Value) × List (Value × Value))
  | [] => some ([], [])
  | (k, v) :: rest => do
    let value ← v.value?
    let (merged, own) ← entryValues? rest
    if k.isMerge then
      let entries ← mergedEntries? value
      some (entries ++ merged, own)
    else
      let key ← match k with
        | .scalar true ['='] => some (.text ['='])
        | k => k.value?
      if key.isCompound then none else some (merged, (key, value) :: own)

end

/-! ## Faults -/

namespace YamlNode

/-- Why a scalar has no value. -/
def scalarFault? : YamlNode → Option YamlFault
  | scalar true text =>
    match plainValue text with
    | .ok _ => none
    | .error fault => some fault
  | _ => none

/-- Why a node is no key. -/
def keyFault? : YamlNode → Option YamlFault
  | scalar true ['='] => none
  | scalar plain text => (scalar plain text).scalarFault?
  | _ => some .malformed

/-- The first fault directly in a collection. -/
def partFault? : YamlNode → Option YamlFault
  | scalar _ _ => none
  | list items => items.findSome? scalarFault?
  | map entries =>
    if entries.any fun (k, v) => k.isMerge && !v.isMergeable then some .malformed
    else
      entries.findSome? fun (k, v) =>
        if k.isMerge then none else k.keyFault?.or v.scalarFault?

/-- The nodes in a collection, keys apart. -/
def parts : YamlNode → List YamlNode
  | scalar _ _ => []
  | list items => items
  | map entries => entries.map Prod.snd

/-- The first fault in some nodes of the same level, or in those of the next `bound` levels. -/
def levelFault? : Nat → List YamlNode → Option YamlFault
  | 0, _ => none
  | bound + 1, level => (level.findSome? partFault?).or (levelFault? bound (level.flatMap parts))

end YamlNode

/-- What a fault of a source of Yaml is for a configuration. -/
def YamlFault.toLoadFault : YamlFault → LoadFault
  | malformed => .form
  | unfinished => .form
  | noSuchCharacter => .noValue "chr() arg not in range(0x110000)"
  | tooManyDigits count => .noValue (NumberFault.unreadable count).message
  | noDigits base =>
    .noValue ("invalid literal for int() with base " ++ toString base ++ ": ''")
  | undecodable fault => .undecodable fault

/-- The value that a source of Yaml denotes; without a document in it that is null. -/
def valueOf (source : Source) : Except YamlFault Value := do
  let tokens := YamlToken.ofSource source
  match ← YamlNode.ofTokens tokens with
  | none => return .null
  | some n =>
    match n.value? with
    | some v => return v
    | none => throw ((n.scalarFault?.or (YamlNode.levelFault? tokens.length [n])).getD .malformed)

/-- A loader for the part of Yaml that is read here: block and flow collections, plain and quoted
scalars. -/
def load : Loader :=
  fun bytes => (valueOf (.ofBytes bytes.toList)).mapError YamlFault.toLoadFault

end KeptRegions.Yaml
