import BindingNames.Unicode.Blank

/-!
# Trimming

Blank characters are removed from both ends of a text.
-/

namespace BindingNames.Text

open Unicode

def trimStart (s : List Char) : List Char := s.dropWhile isBlank

def trimEnd (s : List Char) : List Char := (trimStart s.reverse).reverse

def trim (s : List Char) : List Char := trimEnd (trimStart s)

end BindingNames.Text
