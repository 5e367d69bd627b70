/-!
Text without control sequences.

What a terminal would not show is taken out: control characters other than the ASCII blanks, and
escape sequences with all that belongs to them. A sequence begins with the escape character and ends
with its final character; a string of the terminal's ends with a bell, with a terminator or with the
next escape, by its kind. A blank inside a sequence is shown, and with it all that follows up to the
next control character, where the sequence goes on.
-/

namespace TwoTier.Text

/-- Where in a control sequence a text stands. -/
inductive Escape where
  /-- Outside. -/
  | outside
  /-- After the escape character. -/
  | begun
  /-- Inside, up to a final character. -/
  | short
  /-- After the escape character and `[`. -/
  | control
  /-- In a string that ends with a bell. -/
  | command
  /-- At the head of a device string, where no number has come. -/
  | device
  /-- At the head of a device string, in its numbers. -/
  | deviceNumbers
  /-- At the head of a device string, after its numbers. -/
  | deviceShort
  /-- In a string that ends with a terminator. -/
  | string
deriving DecidableEq, Repr

def introducer : Char := '\x1b'

/-- The two control characters that break a sequence off. -/
def breaksOff (c : Char) : Bool := c = '\x18' || c = '\x1a'

/-- The blanks among the control characters. -/
def isAsciiBlank (c : Char) : Bool := c ∈ ['\t', '\n', '\x0c', '\x0d']

def isControl (c : Char) : Bool := c.toNat < 0x20 || c.toNat = 0x7f

/-- Whether one of the bytes that write a character is the terminator of strings, 9C. -/
def holdsTerminator (c : Char) : Bool := (String.utf8EncodeChar c).contains 0x9c

namespace Escape

/-- Whether blanks are shown at a place. -/
def showsBlanks : Escape → Bool
  | .outside | .begun | .short | .control => true
  | _ => false

/-- Where a text stands after the first character that follows an escape. -/
def ofFirst (c : Char) : Escape :=
  if c = '[' then .control
  else if c = ']' then .command
  else if c = 'P' then .device
  else if c ∈ ['X', '^', '_'] then .string
  else if c.toNat < 0x30 then .short
  else .outside

/-- Where a text stands after a printable ASCII character that belongs to a sequence. -/
def afterPrintable (n : Nat) : Escape → Escape
  | .short => if 0x30 ≤ n then .outside else .short
  | .control => if 0x40 ≤ n then .outside else .control
  | .device => if 0x40 ≤ n then .string else if 0x30 ≤ n then .deviceNumbers else .deviceShort
  | .deviceNumbers => if 0x3c ≤ n then .string else if 0x30 ≤ n then .deviceNumbers else .deviceShort
  | .deviceShort => if 0x30 ≤ n then .string else .deviceShort
  | place => place

/-- Where a text stands after a character that belongs to a sequence. -/
def next (c : Char) (place : Escape) : Escape :=
  match place with
  | .begun => if isControl c || 0x80 ≤ c.toNat then .begun else ofFirst c
  | .command => if c = '\x07' then .outside else .command
  | .string => if holdsTerminator c then .outside else .string
  | place => if isControl c || 0x80 ≤ c.toNat then place else place.afterPrintable c.toNat

end Escape

/-- What is left of a text that begins at a place; `showing` while characters are shown although a
sequence has not ended. -/
def stripFrom (showing : Bool) (place : Escape) : List Char → List Char
  | [] => []
  | c :: rest =>
    if c = introducer then stripFrom false .begun rest
    else if breaksOff c then stripFrom false .outside rest
    else if showing || place = .outside then
      if 0x80 ≤ c.toNat then c :: stripFrom true .outside rest
      else if isControl c && !isAsciiBlank c then stripFrom false place rest
      else c :: stripFrom true place rest
    else if isAsciiBlank c && place.showsBlanks then c :: stripFrom true place rest
    else stripFrom false (place.next c) rest

def stripControls (s : String) : String := String.ofList (stripFrom false .outside s.toList)

end TwoTier.Text
