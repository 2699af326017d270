import KeptRegions.Text.Decoding

namespace KeptRegions.Yaml

/-!
# Sources of Yaml

A Yaml text comes from bytes in portions: bytes are decoded 8192 at a time, and characters are handed
on 4096 at a time, the first two lots together. What is wrong with a lot is noticed only when reading
gets there, so a source is the text that can be handed on and the fault that ends it, if one does.
-/

/-- Why a text is not read as Yaml. -/
inductive YamlFault where
  /-- The text is not of the form read here. -/
  | malformed
  /-- The text ends within a quoted scalar. -/
  | unfinished
  /-- An escape asks for a code point beyond the last one. -/
  | noSuchCharacter
  /-- A whole number has more decimal digits than are read. -/
  | tooManyDigits (count : Nat)
  /-- A whole number to the base has no digits. -/
  | noDigits (base : Nat)
  /-- Some bytes are no text. -/
  | undecodable (fault : DecodeFault)
deriving DecidableEq

/-- A text, and the fault of what comes after it, if it is not the end. -/
structure Source where
  text : Text
  fault : Option YamlFault

/-! ## Characters -/

/-- Whether a character may stand in a Yaml text at all. -/
def isAllowed (c : Char) : Bool :=
  let n := c.toNat
  n = 0x9 || n = 0xa || n = 0xd || (0x20 ≤ n && n ≤ 0x7e) || n = 0x85
    || (0xa0 ≤ n && n ≤ 0xd7ff) || (0xe000 ≤ n && n ≤ 0xfffd) || 0x10000 ≤ n

/-- A text in which every line ends with a line feed. -/
def unifyLineEnds : Text → Text
  | [] => []
  | '\r' :: '\n' :: s => '\n' :: unifyLineEnds s
  | c :: s => (if c = '\r' then '\n' else c) :: unifyLineEnds s

/-! ## Portions -/

namespace Source

/-- The number of bytes that are decoded at a time. -/
def byteLot : Nat :=
  8192

/-- The number of characters that are handed on at a time. -/
def charLot : Nat :=
  4096

/-- The text of bytes that are decoded in lots, as far as it goes. The bytes of an unfinished
character, `left`, are decoded again with the next lot; a fault counts its position from there. -/
def decodeLots (left : List UInt8) : Nat → List UInt8 → Text × Option DecodeFault
  | 0, _ => ([], none)
  | bound + 1, bytes =>
    let lot := left ++ bytes.take byteLot
    match Utf8.decode lot.toByteArray with
    | .ok text =>
      if bytes.isEmpty then (text, none)
      else
        let (more, fault) := decodeLots [] bound (bytes.drop byteLot)
        (text ++ more, fault)
    | .error fault =>
      if fault.cause = .unexpectedEnd && !bytes.isEmpty then
        let text := (Utf8.decode (lot.take fault.start).toByteArray).toOption.getD []
        let (more, fault) := decodeLots (lot.drop fault.start) bound (bytes.drop byteLot)
        (text ++ more, fault)
      else ([], some fault)

/-- The number of characters in the whole lots among the first `n`, if they are handed on at all. -/
def wholeLots (n : Nat) : Nat :=
  if n < 2 * charLot then 0 else n / charLot * charLot

/-- The source of some bytes. -/
def ofBytes (bytes : List UInt8) : Source :=
  let (decoded, fault) := decodeLots [] (bytes.length + 2) bytes
  let all := unifyLineEnds decoded
  let text := if fault.isSome then all.take (wholeLots all.length) else all
  match text.findIdx? fun c => !isAllowed c with
  | some i => { text := text.take (wholeLots i), fault := some .malformed }
  | none => { text, fault := fault.map .undecodable }

end Source

end KeptRegions.Yaml
