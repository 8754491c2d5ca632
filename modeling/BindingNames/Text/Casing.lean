import BindingNames.Unicode.CaseIgnorable
import BindingNames.Unicode.CaseMapping
import BindingNames.Unicode.LetterCase

/-!
# Casing of texts

Every character is mapped on its own, except that the capital sigma takes its final form after a
letter and before none. Case-ignorable characters between it and these letters do not count.
-/

namespace BindingNames.Text

open Unicode

/-- The first character that is not case-ignorable exists and is cased. -/
def leadsWithLetter (s : List Char) : Bool :=
  (s.dropWhile isCaseIgnorable).head?.any isCased

/-- The small form of a capital sigma after `before`, read backwards, and before `after`. -/
def smallSigma (before after : List Char) : Char :=
  if leadsWithLetter before && !leadsWithLetter after then '\u03c2' else '\u03c3'

def lowerAt (before : List Char) (c : Char) (after : List Char) : List Char :=
  if c = '\u03a3' then [smallSigma before after] else lowercase c

/-- The lower case of the rest of a text whose beginning, read backwards, is `before`. -/
def lowerFrom : List Char → List Char → List Char
  | _, [] => []
  | before, c :: after => lowerAt before c after ++ lowerFrom (c :: before) after

def lower (s : List Char) : List Char := lowerFrom [] s

/-- Titlecase of the first character and lower case of the rest. -/
def capitalize : List Char → List Char
  | [] => []
  | c :: rest => titlecase c ++ lowerFrom [c] rest

/-- Uppercase of the first character; the rest stays. -/
def withCapital : List Char → List Char
  | [] => []
  | c :: rest => uppercase c ++ rest

end BindingNames.Text
