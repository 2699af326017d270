import KeptRegions.Text.Printable
import KeptRegions.Text.Basic

namespace KeptRegions

/-!
# Quoted text

Messages show a text between quotes, on one line. The quote is the single one unless the text holds
a single quote and no double one. The quote itself, the backslash, tab, line feed and carriage
return are escaped by a backslash; every other character that is not printable is written as the
hexadecimal number of its code point, in two, four or eight digits as it needs.
-/

namespace Quoted

/-- The lowercase hexadecimal digit of value `n`. -/
def hexDigit (n : Nat) : Char :=
  if n < 10 then Char.ofNat (48 + n) else Char.ofNat (87 + n)

/-- The last `width` hexadecimal digits of `n`. -/
def hex : Nat → Nat → Text
  | 0, _ => []
  | width + 1, n => hex width (n / 16) ++ [hexDigit (n % 16)]

/-- The quote that encloses the text. -/
def quoteOf (s : Text) : Char :=
  if s.contains '\'' && !s.contains '"' then '"' else '\''

/-- How one character is written between the quotes `quote`. -/
def escape (quote c : Char) : Text :=
  if c = quote || c = '\\' then ['\\', c]
  else if c = '\t' then ['\\', 't']
  else if c = '\n' then ['\\', 'n']
  else if c = '\r' then ['\\', 'r']
  else if isPrintable c then [c]
  else if c.toNat < 0x100 then ['\\', 'x'] ++ hex 2 c.toNat
  else if c.toNat < 0x10000 then ['\\', 'u'] ++ hex 4 c.toNat
  else ['\\', 'U'] ++ hex 8 c.toNat

/-- The quoted form of a text. -/
def encode (s : Text) : Text :=
  [quoteOf s] ++ s.flatMap (escape (quoteOf s)) ++ [quoteOf s]

end Quoted

/-- The quoted form of a text, as a string. -/
def Text.quoted (s : Text) : String :=
  Text.toStr (Quoted.encode s)

end KeptRegions
