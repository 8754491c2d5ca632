import BindingNames.Unicode.Printable

/-!
# Quoted texts

A text inside a message stands between apostrophes, or between quotation marks if it holds the
former and not the latter. What does not print is written by its code point, in two, four or
eight hexadecimal digits.
-/

namespace BindingNames.Text

open Unicode

abbrev apostrophe : Char := '\x27'
abbrev quotationMark : Char := '\x22'
abbrev backslash : Char := '\x5c'

/-- The mark that stands around a text. -/
def markFor (s : List Char) : Char :=
  if s.contains apostrophe && !s.contains quotationMark then quotationMark else apostrophe

def hexDigits (width : Nat) (c : Char) : List Char :=
  (Nat.toDigits 16 c.toNat).leftpad width '0'

def hexEscape (c : Char) : List Char :=
  if c.toNat ≤ 0xff then backslash :: 'x' :: hexDigits 2 c
  else if c.toNat ≤ 0xffff then backslash :: 'u' :: hexDigits 4 c
  else backslash :: 'U' :: hexDigits 8 c

/-- The form of one character between two marks. -/
def escape (mark c : Char) : List Char :=
  if c = mark ∨ c = backslash then [backslash, c]
  else if c = '\n' then [backslash, 'n']
  else if c = '\r' then [backslash, 'r']
  else if c = '\t' then [backslash, 't']
  else if isPrintable c then [c]
  else hexEscape c

def quotedChars (s : List Char) : List Char :=
  markFor s :: s.flatMap (escape (markFor s)) ++ [markFor s]

def quoted (s : String) : String := String.ofList (quotedChars s.toList)

end BindingNames.Text
