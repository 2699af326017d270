import KeptRegions.Config.Value
import KeptRegions.Yaml.Token

namespace KeptRegions.Yaml

/-!
# Plain scalars of Yaml

A plain scalar is a null, a truth value or a number if it has the form of one, and a text otherwise.
Underscores may separate the digits of numbers, and colons the parts of numbers to base sixty.
-/

/-! ## Forms of numbers -/

/-- A text without its sign: whether it is negative, and the rest. -/
def splitSign : Text → Bool × Text
  | '-' :: s => (true, s)
  | '+' :: s => (false, s)
  | s => (false, s)

/-- The text without underscores. -/
def withoutUnderscores (s : Text) : Text :=
  s.filter (· ≠ '_')

/-- Whether a character is a decimal digit or an underscore. -/
def isDigitOrUnderscore (c : Char) : Bool :=
  c.isDigit || c = '_'

/-- The number that digits write to a base. -/
def numberOf (base : Nat) (s : Text) : Nat :=
  s.foldl (fun n c => base * n + (Cursor.hexValue? c).getD 0) 0

/-- The parts of a text between colons. -/
def colonParts (s : Text) : List Text :=
  s.splitOnP (· = ':')

/-- Whether a text is a number below sixty, of one or two digits. -/
def isSixtieth : Text → Bool
  | [a] => a.isDigit
  | [a, b] => '0' ≤ a && a ≤ '5' && b.isDigit
  | _ => false

/-- The number that parts to base sixty write. -/
def sixtyNumber (parts : List Text) : Nat :=
  parts.foldl (fun n part => 60 * n + numberOf 10 (withoutUnderscores part)) 0

/-- The whole number that a text without sign writes: to base two, eight, sixteen, ten or sixty. -/
def natural? : Text → Option Nat
  | '0' :: 'b' :: s =>
    if !s.isEmpty && s.all fun c => c = '0' || c = '1' || c = '_' then
      some (numberOf 2 (withoutUnderscores s))
    else none
  | '0' :: 'x' :: s =>
    if !s.isEmpty && s.all fun c => (Cursor.hexValue? c).isSome || c = '_' then
      some (numberOf 16 (withoutUnderscores s))
    else none
  | ['0'] => some 0
  | '0' :: s =>
    if s.all fun c => ('0' ≤ c && c ≤ '7') || c = '_' then
      some (numberOf 8 (withoutUnderscores s))
    else none
  | c :: s =>
    if !c.isDigit then none
    else
      match colonParts (c :: s) with
      | [digits] =>
        if digits.all isDigitOrUnderscore then some (numberOf 10 (withoutUnderscores digits)) else none
      | first :: others =>
        if first.all isDigitOrUnderscore && others.all isSixtieth then
          some (sixtyNumber (first :: others))
        else none
      | [] => none
  | [] => none

/-- Why a text that has the form of a whole number without sign is not read as one. -/
def wholeFault? : Text → Option YamlFault
  | '0' :: 'b' :: s => if (withoutUnderscores s).isEmpty then some (.noDigits 2) else none
  | '0' :: 'x' :: s => if (withoutUnderscores s).isEmpty then some (.noDigits 16) else none
  | '0' :: _ => none
  | s =>
    let counts := (colonParts s).map fun part => (withoutUnderscores part).length
    (counts.find? (maxDigits < ·)).map .tooManyDigits

/-- An exponent with a sign, or nothing. -/
def exponent? : Text → Option Int
  | [] => some 0
  | e :: sign :: digits =>
    if (e = 'e' || e = 'E') && (sign = '+' || sign = '-') && !digits.isEmpty
        && digits.all Char.isDigit then
      let n : Int := numberOf 10 digits
      some (if sign = '-' then -n else n)
    else none
  | _ => none

/-- A number with a point in it, without sign. Before the point there may be parts to base sixty, and
then no exponent may follow. -/
def fraction? (negative signed : Bool) (s : Text) : Option BinaryNumber := do
  let before := s.takeWhile (· ≠ '.')
  let after ← (s.dropWhile (· ≠ '.')).tail?
  let places := after.takeWhile isDigitOrUnderscore
  let e ← exponent? (after.dropWhile isDigitOrUnderscore)
  let digits := withoutUnderscores places
  let scaled (whole : Nat) : BinaryNumber :=
    .ofDecimal negative (whole * Nat.pow 10 digits.length + numberOf 10 digits) (e - digits.length)
  match before with
  | [] => if !signed && places.head?.any Char.isDigit then some (scaled 0) else none
  | c :: _ =>
    if !c.isDigit then none
    else
      match colonParts before with
      | [whole] =>
        if whole.all isDigitOrUnderscore then some (scaled (numberOf 10 (withoutUnderscores whole)))
        else none
      | first :: others =>
        if first.all isDigitOrUnderscore && others.all isSixtieth
            && (after.dropWhile isDigitOrUnderscore).isEmpty then
          some (scaled (sixtyNumber (first :: others)))
        else none
      | [] => none

/-- A number that is no whole number. -/
def real? (s : Text) : Option BinaryNumber :=
  let (negative, unsigned) := splitSign s
  let word := String.ofList unsigned
  if [".inf", ".Inf", ".INF"].contains word then some (.infinite negative)
  else if [".nan", ".NaN", ".NAN"].contains (String.ofList s) then some .undefined
  else fraction? negative (unsigned.length < s.length) unsigned

/-! ## Plain scalars -/

/-- The truth value that a word names. -/
def truth? (s : String) : Option Bool :=
  if ["yes", "Yes", "YES", "true", "True", "TRUE", "on", "On", "ON"].contains s then some true
  else if ["no", "No", "NO", "false", "False", "FALSE", "off", "Off", "OFF"].contains s then
    some false
  else none

/-- The value of a plain scalar. The signs `=` and `<<` have a meaning of their own that no value
has. -/
def plainValue (s : Text) : Except YamlFault Value :=
  let word := String.ofList s
  match truth? word with
  | some b => .ok (.bool b)
  | none =>
    if ["~", "null", "Null", "NULL", ""].contains word then .ok .null
    else if word = "=" || word = "<<" then .error .malformed
    else
      match real? s with
      | some x => .ok (.real x)
      | none =>
        let (negative, unsigned) := splitSign s
        match natural? unsigned, wholeFault? unsigned with
        | some _, some fault => .error fault
        | some n, none => .ok (.int (if negative then -(n : Int) else n))
        | none, _ => .ok (.text s)

end KeptRegions.Yaml
