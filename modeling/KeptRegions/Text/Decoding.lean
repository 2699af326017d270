import KeptRegions.Text.Basic
import KeptRegions.Text.Quoted

namespace KeptRegions

/-!
# Text and bytes

Files hold bytes, and a text is written to them in UTF-8. Bytes that are not the form of any text are
refused with the first bytes that are wrong: those of an unfinished character, or a byte that can
start none.
-/

/-- The encodings in which a file can be read. -/
inductive Encoding where
  | utf8
  /-- UTF-8 in which a mark of three bytes may come first. -/
  | markedUtf8
  | latin1
  | ascii
deriving DecidableEq

/-- What is wrong with some bytes. -/
inductive DecodeFault.Cause where
  | badStart
  | badContinuation
  | unexpectedEnd
  | notAscii
deriving DecidableEq

/-- The wording of a cause. -/
def DecodeFault.Cause.wording : DecodeFault.Cause → String
  | badStart => "invalid start byte"
  | badContinuation => "invalid continuation byte"
  | unexpectedEnd => "unexpected end of data"
  | notAscii => "ordinal not in range(128)"

/-- The bytes at which decoding fails: where they start, how many they are, and the first of them. -/
structure DecodeFault where
  cause : DecodeFault.Cause
  start : Nat
  count : Nat
  first : UInt8
deriving DecidableEq

/-- The message of a fault. -/
def DecodeFault.message (fault : DecodeFault) : String :=
  let encoding := if fault.cause = .notAscii then "ascii" else "utf-8"
  let place :=
    if fault.count = 1 then
      "byte 0x" ++ String.ofList (Quoted.hex 2 fault.first.toNat) ++ " in position "
        ++ toString fault.start
    else
      "bytes in position " ++ toString fault.start ++ "-"
        ++ toString (fault.start + fault.count - 1)
  "'" ++ encoding ++ "' codec can't decode " ++ place ++ ": " ++ fault.cause.wording

namespace Utf8

/-- What may follow the first byte of a character: the number of bytes still owed, and the least and
the greatest value of the next one. -/
def owed? (b : UInt8) : Option (Nat × UInt8 × UInt8) :=
  if b < 0x80 then some (0, 0, 0)
  else if b < 0xc2 then none
  else if b < 0xe0 then some (1, 0x80, 0xbf)
  else if b = 0xe0 then some (2, 0xa0, 0xbf)
  else if b = 0xed then some (2, 0x80, 0x9f)
  else if b < 0xf0 then some (2, 0x80, 0xbf)
  else if b = 0xf0 then some (3, 0x90, 0xbf)
  else if b < 0xf4 then some (3, 0x80, 0xbf)
  else if b = 0xf4 then some (3, 0x80, 0x8f)
  else none

/-- The first fault of some bytes. The character that is being read began at `start` with the byte
`first`; of it `read` bytes have come and `owed` are still to come, the next one between `lo` and
`hi`. -/
def faultFrom? (start : Nat) (first : UInt8) (read owed : Nat) (lo hi : UInt8) :
    List UInt8 → Option DecodeFault
  | [] =>
    if owed = 0 then none else some { cause := .unexpectedEnd, start, count := read, first }
  | b :: rest =>
    if owed = 0 then
      let start := start + read
      match owed? b with
      | none => some { cause := .badStart, start, count := 1, first := b }
      | some (owed, lo, hi) => faultFrom? start b 1 owed lo hi rest
    else if lo ≤ b && b ≤ hi then faultFrom? start first (read + 1) (owed - 1) 0x80 0xbf rest
    else some { cause := .badContinuation, start, count := read, first }

/-- The first fault of some bytes. -/
def fault? (bytes : List UInt8) : Option DecodeFault :=
  faultFrom? 0 0 0 0 0 0 bytes

/-- The bytes of a text. There are some for every text, as no text holds a surrogate. -/
def encode (s : Text) : ByteArray :=
  (String.ofList s).toUTF8

/-- The text of some bytes. -/
def decode (bytes : ByteArray) : Except DecodeFault Text :=
  match String.fromUTF8? bytes with
  | some s => .ok s.toList
  | none =>
    .error ((fault? bytes.toList).getD { cause := .badStart, start := 0, count := 1, first := 0 })

/-- The three bytes of the mark that may come first. -/
def mark : List UInt8 :=
  [0xef, 0xbb, 0xbf]

/-- The text of some bytes without the mark that may come first. Bytes that end within the mark are
no text yet, and no fault either. -/
def decodeMarked (bytes : ByteArray) : Except DecodeFault Text :=
  if bytes.size < 3 && bytes.toList.isPrefixOf mark then .ok []
  else if mark.isPrefixOf bytes.toList then decode (bytes.extract 3 bytes.size)
  else decode bytes

theorem encode_of_decode {bytes : ByteArray} {s : Text} (h : decode bytes = .ok s) :
    encode s = bytes := by
  unfold decode at h
  split at h
  · rename_i t ht
    cases h
    unfold String.fromUTF8? at ht
    split at ht
    · cases ht
      simp [encode, String.fromUTF8, String.toUTF8]
    · simp at ht
  · simp at h

end Utf8

/-- The text of bytes that stand for the first 256 code points, one each. -/
def latin1Decode (bytes : ByteArray) : Text :=
  bytes.toList.map fun b => Char.ofNat b.toNat

/-- The text of bytes that stand for the first 128 code points, one each. -/
def asciiDecode (bytes : ByteArray) : Except DecodeFault Text :=
  match bytes.toList.findIdx? (0x80 ≤ ·) with
  | none => .ok (latin1Decode bytes)
  | some i =>
    .error { cause := .notAscii, start := i, count := 1, first := bytes.toList.getD i 0 }

/-- The text of some bytes. -/
def Encoding.decode : Encoding → ByteArray → Except DecodeFault Text
  | utf8, bytes => Utf8.decode bytes
  | markedUtf8, bytes => Utf8.decodeMarked bytes
  | latin1, bytes => .ok (latin1Decode bytes)
  | ascii, bytes => asciiDecode bytes

end KeptRegions
