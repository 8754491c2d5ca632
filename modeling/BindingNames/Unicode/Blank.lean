import BindingNames.Unicode.CodeRange

/-!
# Blank characters

The characters that may be trimmed from the ends of a text: spaces of every width, line and
paragraph ends, and the separators among the controls.
-/

namespace BindingNames.Unicode

/-- White space and the information separators. -/
def blanks : List CodeRange := [
    ⟨0x0009, 0x000D⟩, ⟨0x001C, 0x0020⟩, ⟨0x0085, 0x0085⟩, ⟨0x00A0, 0x00A0⟩, ⟨0x1680, 0x1680⟩,
    ⟨0x2000, 0x200A⟩, ⟨0x2028, 0x2029⟩, ⟨0x202F, 0x202F⟩, ⟨0x205F, 0x205F⟩, ⟨0x3000, 0x3000⟩]

def isBlank (c : Char) : Bool := covers blanks c

end BindingNames.Unicode
