import Spreadsheet.Text.Fold

/-!
# Sets of characters as sequences of bytes

In UTF-8 a character is a sequence of one to four bytes.  A set of characters
is a list of sequences of *byte ranges*: one of its sequences holds a character
when every byte of the character lies in the range at its place.

`byteSequences` gives the sequences of the characters in a list, where
neighbours that differ in their last bytes only share one.  `lineSequences` are
those of all characters but the line break.
-/

namespace Spreadsheet.Text

/-- Neighbouring bytes. -/
structure ByteRange where
  /-- The least byte. -/
  first : Nat
  /-- The greatest byte. -/
  last : Nat
deriving DecidableEq, Repr

/-- The bytes of a character. -/
def bytesOf (c : Char) : List Nat := (String.utf8EncodeChar c).map (·.toNat)

/-- A sequence that also holds the bytes, if they come right before its first character and differ
from it in the last byte only. -/
def extend? : List Nat → List ByteRange → Option (List ByteRange)
  | [b], [r] => if b + 1 = r.first then some [⟨b, r.last⟩] else none
  | b :: bs, r :: rs => if r = ⟨b, b⟩ then (extend? bs rs).map (r :: ·) else none
  | _, _ => none

/-- The sequences of characters that are given in ascending order. -/
def byteSequences : List Char → List (List ByteRange)
  | [] => []
  | c :: cs =>
    let own := (bytesOf c).map fun b => ⟨b, b⟩
    match byteSequences cs with
    | [] => [own]
    | s :: rest =>
      match extend? (bytesOf c) s with
      | some longer => longer :: rest
      | none => own :: s :: rest

/-- The sequences of all characters but the line break. -/
def lineSequences : List (List ByteRange) :=
  let rest : ByteRange := ⟨0x80, 0xbf⟩
  [ [⟨0x00, 0x09⟩], [⟨0x0b, 0x7f⟩], [⟨0xc2, 0xdf⟩, rest],
    [⟨0xe0, 0xe0⟩, ⟨0xa0, 0xbf⟩, rest], [⟨0xe1, 0xec⟩, rest, rest],
    [⟨0xed, 0xed⟩, ⟨0x80, 0x9f⟩, rest], [⟨0xee, 0xef⟩, rest, rest],
    [⟨0xf0, 0xf0⟩, ⟨0x90, 0xbf⟩, rest, rest], [⟨0xf1, 0xf3⟩, rest, rest, rest],
    [⟨0xf4, 0xf4⟩, ⟨0x80, 0x8f⟩, rest, rest] ]

/-! ## Tests -/

example : byteSequences ['A', 'a'] = [[⟨65, 65⟩], [⟨97, 97⟩]] := by decide +kernel
example : byteSequences ['\u0100', '\u0101'] = [[⟨0xc4, 0xc4⟩, ⟨0x80, 0x81⟩]] := by decide +kernel
example : (byteSequences ['\u013f', '\u0140']).length = 2 := by decide +kernel

end Spreadsheet.Text
