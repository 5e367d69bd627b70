/-!
Reading bytes as UTF-8.

Bytes are cut from the left into pieces: a well-formed sequence gives its character, and what does
not continue to one gives a hole for the longest beginning of a well-formed sequence, or for one
byte where nothing can begin. A text is readable when it has no hole. The lossy reading puts
U+FFFD into each hole.
-/

namespace TwoTier.Text

/-- The bytes that may follow a first byte of a sequence of two, three or four bytes, and how many
bytes come after that one. -/
structure Lead where
  low : Nat
  high : Nat
  more : Nat
deriving DecidableEq, Repr

/-- What a first byte announces; `none` for a byte that begins no longer sequence. The bounds on
the second byte keep out overlong forms, surrogates and numbers beyond U+10FFFF. -/
def lead? (b : Nat) : Option Lead :=
  if 0xC2 ≤ b ∧ b ≤ 0xDF then some ⟨0x80, 0xBF, 0⟩
  else if b = 0xE0 then some ⟨0xA0, 0xBF, 1⟩
  else if b = 0xED then some ⟨0x80, 0x9F, 1⟩
  else if 0xE1 ≤ b ∧ b ≤ 0xEF then some ⟨0x80, 0xBF, 1⟩
  else if b = 0xF0 then some ⟨0x90, 0xBF, 2⟩
  else if b = 0xF4 then some ⟨0x80, 0x8F, 2⟩
  else if 0xF1 ≤ b ∧ b ≤ 0xF3 then some ⟨0x80, 0xBF, 2⟩
  else none

/-- The payload bits of a first byte. -/
def leadBits (b : Nat) : Nat :=
  if b < 0xE0 then b % 0x20 else if b < 0xF0 then b % 0x10 else b % 0x08

/-- A reading in progress: the number so far and what may come next. -/
structure Pending where
  value : Nat
  next : Lead
deriving DecidableEq, Repr

mutual

/-- Cuts bytes at a place where a character may begin. -/
def decodeStart : List Nat → List (Option Char)
  | [] => []
  | b :: rest =>
    if b < 0x80 then some (Char.ofNat b) :: decodeStart rest
    else match lead? b with
      | none => none :: decodeStart rest
      | some l => decodeRest ⟨leadBits b, l⟩ rest

/-- Cuts bytes inside a sequence: a byte that does not continue it leaves a hole and is read
again as a beginning. -/
def decodeRest (p : Pending) : List Nat → List (Option Char)
  | [] => [none]
  | b :: rest =>
    if p.next.low ≤ b ∧ b ≤ p.next.high then
      let value := p.value * 0x40 + b % 0x40
      match p.next.more with
      | 0 => some (Char.ofNat value) :: decodeStart rest
      | more + 1 => decodeRest ⟨value, ⟨0x80, 0xBF, more⟩⟩ rest
    else if b < 0x80 then none :: some (Char.ofNat b) :: decodeStart rest
    else match lead? b with
      | none => none :: none :: decodeStart rest
      | some l => none :: decodeRest ⟨leadBits b, l⟩ rest

end

/-- Text as it comes from outside: bytes that may or may not be UTF-8. -/
structure RawText where
  pieces : List (Option Char)
deriving DecidableEq, Repr, Inhabited

namespace RawText

def ofBytes (bytes : List Nat) : RawText := ⟨decodeStart bytes⟩

def ofString (s : String) : RawText := ⟨s.toList.map some⟩

/-- The text, if every byte belongs to a character. -/
def text? (t : RawText) : Option String := (t.pieces.mapM id).map String.ofList

/-- The text with U+FFFD in each hole. -/
def lossy (t : RawText) : String := String.ofList (t.pieces.map (·.getD '\ufffd'))

end RawText

end TwoTier.Text
