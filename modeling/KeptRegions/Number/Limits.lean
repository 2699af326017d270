namespace KeptRegions

/-!
# Limits of whole numbers

A whole number can be of any size, but it is not read from too many decimal digits, nor written with
too many, and the bounds of a repetition have to be small.
-/

/-- The most decimal digits that a whole number, or a part of one to base sixty, is read from or
written with. -/
def maxDigits : Nat :=
  4300

/-- What the bounds of a repetition have to be less than. -/
def boundLimit : Nat :=
  4294967295

/-- Why a whole number is not taken. -/
inductive NumberFault where
  /-- It is written with too many digits. -/
  | unreadable (digits : Nat)
  /-- It would have to be written with too many digits. -/
  | unwritable
  /-- It is too large for a bound of a repetition. -/
  | hugeBound
deriving DecidableEq

/-- The message of a fault of a number. -/
def NumberFault.message : NumberFault → String
  | unreadable digits =>
    "Exceeds the limit (4300 digits) for integer string conversion: value has " ++ toString digits
      ++ " digits; use sys.set_int_max_str_digits() to increase the limit"
  | unwritable =>
    "Exceeds the limit (4300 digits) for integer string conversion; use "
      ++ "sys.set_int_max_str_digits() to increase the limit"
  | hugeBound => "the repetition number is too large"

end KeptRegions
