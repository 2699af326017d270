namespace KeptRegions

/-!
# Binary numbers

Numbers with a fraction are kept to 53 binary digits, as a sign, a whole number and a power of two. A
decimal number is rounded to the nearest of them, and in a tie to the one whose last digit is even. A
number is written with the fewest decimal digits that round back to it.
-/

/-- A binary number with 53 digits at most and an exponent from -1074 to 971, an infinity, or no
number at all. -/
inductive BinaryNumber where
  | finite (negative : Bool) (mantissa : Nat) (exponent : Int)
  | infinite (negative : Bool)
  | undefined
deriving DecidableEq

namespace BinaryNumber

/-! ## Rounding -/

/-- A ratio of natural numbers, multiplied by a power of two. -/
def scaleTwo (num den : Nat) (e : Int) : Nat × Nat :=
  if 0 ≤ e then (num * Nat.pow 2 e.toNat, den) else (num, den * Nat.pow 2 (-e).toNat)

/-- The whole number nearest to a ratio; of two equally near ones the even one. -/
def roundRatio (num den : Nat) : Nat :=
  let q := num / den
  let twice := 2 * (num % den)
  if twice < den then q else if den < twice then q + 1 else q + q % 2

/-- The exponent with which a positive ratio has 53 binary digits before the point. -/
def exponentOf (num den : Nat) : Int :=
  let e : Int := (num.log2 : Int) - den.log2 - 52
  let (n, d) := scaleTwo num den (-e)
  let e := if n / d < Nat.pow 2 52 then e - 1 else e
  max e (-1074)

/-- The binary number nearest to a ratio. -/
def ofRatio (negative : Bool) (num den : Nat) : BinaryNumber :=
  if num = 0 then finite negative 0 (-1074)
  else
    let e := exponentOf num den
    let (n, d) := scaleTwo num den (-e)
    let m := roundRatio n d
    let (m, e) := if m = Nat.pow 2 53 then (Nat.pow 2 52, e + 1) else (m, e)
    if 971 < e then infinite negative else finite negative m e

/-- The number of decimal digits of a positive number. -/
def digitCount (n : Nat) : Nat :=
  (Nat.toDigits 10 n).length

/-- The binary number nearest to `digits` times a power of ten. Powers that are out of reach of any
binary number are not computed. -/
def ofDecimal (negative : Bool) (digits : Nat) (exponent : Int) : BinaryNumber :=
  if digits = 0 then ofRatio negative 0 1
  else if 400 < exponent then infinite negative
  else if exponent + digitCount digits < -400 then ofRatio negative 0 1
  else if 0 ≤ exponent then ofRatio negative (digits * Nat.pow 10 exponent.toNat) 1
  else ofRatio negative digits (Nat.pow 10 (-exponent).toNat)

/-! ## Comparison -/

/-- The finite number as a fraction. -/
def toRatio? : BinaryNumber → Option (Int × Nat)
  | finite negative m e =>
    let (n, d) := scaleTwo m 1 e
    some (if negative then -(n : Int) else n, d)
  | _ => none

/-- Whether the number is zero. -/
def isZero : BinaryNumber → Bool
  | finite _ m _ => m = 0
  | _ => false

/-! ## Writing -/

/-- The power of ten of the first digit of a positive ratio. -/
def magnitude (num den : Nat) : Int :=
  if den ≤ num then digitCount (num / den) - 1
  else
    let places := digitCount (den / num)
    if den ≤ num * Nat.pow 10 (places - 1) then 1 - (places : Int) else -(places : Int)

/-- The decimal digits and the exponent of the last of them, of one of the two decimals with the last
digit at exponent `k` next to a positive ratio, the nearer one first, if it rounds to the number. -/
def neighbour? (self : BinaryNumber) (num den : Nat) (k : Int) : Option (Nat × Int) :=
  let (n, d) :=
    if 0 ≤ k then (num, den * Nat.pow 10 k.toNat) else (num * Nat.pow 10 (-k).toNat, den)
  let near := roundRatio n d
  let far := if near = n / d then near + 1 else near - 1
  [near, far].findSome? fun digits =>
    if ofDecimal false digits k = self then some (digits, k) else none

/-- The shortest decimal of at most `17` digits that rounds to the number: its digits and the exponent
of the last of them. -/
def shortest (m : Nat) (e : Int) : Nat × Int :=
  let (num, den) := scaleTwo m 1 e
  let top := magnitude num den
  let candidates := (List.range 17).findSome? fun (i : Nat) =>
    neighbour? (finite false m e) num den (top - (i : Int))
  candidates.getD (num, 0)

/-- Digits without the zeros at their end. -/
def dropZeros (digits : List Char) : List Char :=
  (digits.reverse.dropWhile (· = '0')).reverse

/-- A decimal as text. From 0.0001 up to 10^16 the point stands in its place; beyond, a power of ten
follows. -/
def decimalText (digits : Nat) (k : Int) : String :=
  let all := Nat.toDigits 10 digits
  let top : Int := all.length - 1 + k
  let ds := dropZeros all
  let body : List Char :=
    if -4 ≤ top && top < 16 then
      if top < 0 then ['0', '.'] ++ List.replicate (-top - 1).toNat '0' ++ ds
      else
        let whole := (top + 1).toNat
        let fraction := ds.drop whole
        ds.take whole ++ List.replicate (whole - ds.length) '0' ++ ['.']
          ++ if fraction.isEmpty then ['0'] else fraction
    else
      let power := Nat.toDigits 10 top.natAbs
      ds.take 1 ++ (if ds.length = 1 then [] else '.' :: ds.drop 1)
        ++ ['e', if top < 0 then '-' else '+']
        ++ List.replicate (2 - power.length) '0' ++ power
  String.ofList body

/-- The number as text. -/
def text : BinaryNumber → String
  | finite negative m e =>
    let (digits, k) := shortest m e
    (if negative then "-" else "") ++ if m = 0 then "0.0" else decimalText digits k
  | infinite negative => if negative then "-inf" else "inf"
  | undefined => "nan"

end BinaryNumber

end KeptRegions
