import TwoTier.Time

/-!
Reading machine words in decimal.

A numeral is an optional `+` and one or more ASCII digits, with a value below the word limit.
The text is read from the left and the first fault decides: a character that is no digit, or the
digit with which the value leaves the range.
-/

namespace TwoTier.Text

/-- Why a text is no machine word. -/
inductive NumeralFault where
  | empty
  | invalidDigit
  | tooLarge
deriving DecidableEq, Repr

def NumeralFault.message : NumeralFault → String
  | .empty => "cannot parse integer from empty string"
  | .invalidDigit => "invalid digit found in string"
  | .tooLarge => "number too large to fit in target type"

/-- The value of an ASCII digit. -/
def digitValue? (c : Char) : Option Nat :=
  if '0' ≤ c ∧ c ≤ '9' then some (c.toNat - '0'.toNat) else none

/-- Reads digits after `value`, the number that the digits so far make. -/
def readDigits (value : Nat) : List Char → Except NumeralFault Nat
  | [] => .ok value
  | c :: rest =>
    match digitValue? c with
    | none => .error .invalidDigit
    | some d =>
      if value * 10 + d < wordLimit then readDigits (value * 10 + d) rest else .error .tooLarge

/-- Reads a machine word. A sign alone has no digit, and a minus is no digit. -/
def readWordList : List Char → Except NumeralFault Nat
  | [] => .error .empty
  | ['+'] => .error .invalidDigit
  | '+' :: rest => readDigits 0 rest
  | cs => readDigits 0 cs

def readWord (s : String) : Except NumeralFault Nat := readWordList s.toList

end TwoTier.Text
