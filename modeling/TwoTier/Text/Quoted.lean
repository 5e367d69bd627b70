import TwoTier.Text.Blank
import TwoTier.Text.Unprintable
import TwoTier.Text.GraphemeExtend

/-!
Quoted text, as diagnostics show it.

Between double quotes, a quote, a backslash, a tab, a carriage return, a line feed and a null are
written with a backslash; a character that has no shape of its own or that extends the one before
it is written by its number in lower-case hexadecimal; every other character stands for itself.
-/

namespace TwoTier.Text

def isPrintable (c : Char) : Bool := !inRanges unprintableRanges c.toNat

def extendsGrapheme (c : Char) : Bool := inRanges graphemeExtendRanges c.toNat

/-- A character by its number: a backslash, `u` and the hexadecimal digits in braces. -/
def escapeByNumber (c : Char) : List Char :=
  ['\\', 'u', '\x7b'] ++ Nat.toDigits 16 c.toNat ++ ['\x7d']

def escapeChar (c : Char) : List Char :=
  if c = '"' then ['\\', '"']
  else if c = '\\' then ['\\', '\\']
  else if c = '\t' then ['\\', 't']
  else if c = '\r' then ['\\', 'r']
  else if c = '\n' then ['\\', 'n']
  else if c = '\x00' then ['\\', '0']
  else if extendsGrapheme c || !isPrintable c then escapeByNumber c
  else [c]

def quote (s : String) : String :=
  String.ofList ('"' :: s.toList.flatMap escapeChar ++ ['"'])

end TwoTier.Text
