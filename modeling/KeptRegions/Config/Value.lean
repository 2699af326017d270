import KeptRegions.Number.Binary
import KeptRegions.Number.Limits
import KeptRegions.Text.Decoding

namespace KeptRegions

/-!
# Configuration values

A configuration is a tree of values. Its form is not known in advance, so each reader of a value has
to ask what it is.
-/

/-- A configuration value. A mapping lists its entries in the order in which their keys first came. -/
inductive Value where
  | null
  | bool (b : Bool)
  | int (n : Int)
  | real (x : BinaryNumber)
  | text (s : Text)
  | list (items : List Value)
  | map (entries : List (Value × Value))
deriving Inhabited

namespace Value

/-- What kind of value it is, as messages name it. -/
def kind : Value → String
  | null => "NoneType"
  | bool _ => "bool"
  | int _ => "int"
  | real _ => "float"
  | text _ => "str"
  | list _ => "list"
  | map _ => "dict"

/-- Whether the value is neither absent, false, zero nor empty. -/
def holds : Value → Bool
  | null => false
  | bool b => b
  | int n => n ≠ 0
  | real x => !x.isZero
  | text s => !s.isEmpty
  | list items => !items.isEmpty
  | map entries => !entries.isEmpty

/-- Whether the value is a list or a mapping. -/
def isCompound : Value → Bool
  | list _ => true
  | map _ => true
  | _ => false

/-- The text of a value that is one. -/
def text? : Value → Option Text
  | text s => some s
  | _ => none

/-! ## Written form -/

/-- Texts with a comma between neighbours. -/
def commaSeparated (parts : List String) : String :=
  String.intercalate ", " parts

mutual

/-- The value as messages show it. -/
def shown : Value → String
  | null => "None"
  | bool b => if b then "True" else "False"
  | int n => toString n
  | real x => x.text
  | text s => Text.quoted s
  | list items => "[" ++ commaSeparated (shownList items) ++ "]"
  | map entries => "\x7b" ++ commaSeparated (shownEntries entries) ++ "\x7d"

/-- The items of a list as messages show them. -/
def shownList : List Value → List String
  | [] => []
  | v :: rest => v.shown :: shownList rest

/-- The entries of a mapping as messages show them. -/
def shownEntries : List (Value × Value) → List String
  | [] => []
  | (k, v) :: rest => (k.shown ++ ": " ++ v.shown) :: shownEntries rest

end

mutual

/-- Whether the value can be shown: it has no whole number with too many digits. -/
def isWritable : Value → Bool
  | int n => n.natAbs < Nat.pow 10 maxDigits
  | list items => areWritable items
  | map entries => areWritableEntries entries
  | _ => true

/-- Whether all items of a list can be shown. -/
def areWritable : List Value → Bool
  | [] => true
  | v :: rest => v.isWritable && areWritable rest

/-- Whether all entries of a mapping can be shown. -/
def areWritableEntries : List (Value × Value) → Bool
  | [] => true
  | (k, v) :: rest => k.isWritable && v.isWritable && areWritableEntries rest

end

/-- The value as a text: a text itself, and any other value as messages show it. -/
def plain : Value → Text
  | text s => s
  | v => v.shown.toList

/-! ## Comparison -/

/-- The value as a fraction if it is a number. Truth counts as one and falsehood as zero. -/
def toRatio? : Value → Option (Int × Nat)
  | bool b => some (if b then 1 else 0, 1)
  | int n => some (n, 1)
  | real x => x.toRatio?
  | _ => none

/-- Whether two values are the same key of a mapping. Numbers are the same if they are equal. Lists
and mappings are no keys. -/
def sameKey (a b : Value) : Bool :=
  match a.toRatio?, b.toRatio? with
  | some (m, c), some (n, d) => m * d = n * c
  | _, _ =>
    match a, b with
    | null, null => true
    | text s, text t => s = t
    | real (.infinite p), real (.infinite q) => p = q
    | real .undefined, real .undefined => true
    | _, _ => false

/-- Whether the value is a number, truth values among them. -/
def isNumber : Value → Bool
  | bool _ => true
  | int _ => true
  | real _ => true
  | _ => false

/-- The place of a number in the order of numbers: on which side infinitely far away, or nowhere
infinite and then a fraction. An undefined number has none. -/
def rank? (v : Value) : Option (Int × Int × Nat) :=
  match v with
  | real (.infinite negative) => some (if negative then -1 else 1, 0, 1)
  | v => v.toRatio?.map fun (m, d) => (0, m, d)

/-- Whether one number is less than another. -/
def isLess (a b : Value) : Bool :=
  match a.rank?, b.rank? with
  | some (i, m, c), some (j, n, d) => i < j || (i = j && m * d < n * c)
  | _, _ => false

/-- An entry added to the end of a mapping. If the key is there already its value is replaced. -/
def setEntry (key value : Value) : List (Value × Value) → List (Value × Value)
  | [] => [(key, value)]
  | (k, v) :: rest =>
    if k.sameKey key then (k, value) :: rest else (k, v) :: setEntry key value rest

/-- The value of a textual key in a mapping. -/
def entry? (key : String) (entries : List (Value × Value)) : Option Value :=
  (entries.find? fun (k, _) => k.sameKey (text key.toList)).map Prod.snd

end Value

/-! ## Loaders -/

/-- Why no value comes of the bytes of a configuration. -/
inductive LoadFault where
  /-- The text does not have the form of a configuration. What is wrong with it is not told. -/
  | form
  /-- The form is right, but a part of the text has no value. -/
  | noValue (message : String)
  /-- Some bytes are no text. -/
  | undecodable (fault : DecodeFault)

/-- The message of a fault. -/
def LoadFault.message : LoadFault → String
  | form => "<yaml error>"
  | noValue message => message
  | undecodable fault => fault.message

/-- A reader of configurations, which takes bytes to the value that is written there. -/
abbrev Loader := ByteArray → Except LoadFault Value

end KeptRegions
