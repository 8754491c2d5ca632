import BindingNames.Koka.Speller
import BindingNames.Text.Trim
import BindingNames.Unicode.WordChar

/-!
# Koka comments

Documentation becomes the body of a block of line comments. A type is referred to by a backtick
and its name; such references follow the names in code. First the common beginning of all names
is dropped, then each renamed type in turn is given its new name where its old one stands whole.
-/

namespace BindingNames.Koka

open Text

/-- Marks every line but the first as a comment; a blank before a line's end is dropped. -/
def commentLines (s : List Char) : List Char :=
  replace [' ', '\n'] ['\n'] (replace ['\n'] ['\n', '/', '/', ' '] (trim s))

/-- No word goes on here. -/
def wordEnds (rest : List Char) : Bool := !rest.head?.any Unicode.isWordChar

/-- A reference to a name. -/
def reference (name : String) : List Char := '\x60' :: name.toList

namespace Speller

def stripReferences (s : Speller) (text : List Char) : List Char :=
  match s.sharedBeginning with
  | some beginning => replace (reference beginning) (reference "") text
  | none => text

/-- Gives a renamed type its new name. The name has to exist only if the old one occurs. -/
def renameReferences (s : Speller) (text : List Char) (e : Entity) :
    Except NamingError (List Char) :=
  let old := reference (s.stripped e.name)
  if e.rename.isEmpty || !occurs old text then .ok text
  else do
    let name ← s.nameOf e
    return substitute wordEnds old (reference name) text

def comment (s : Speller) (d : Documentation) : Except NamingError String := do
  let markdown ← d.markdown s.site
  let text := s.stripReferences (commentLines markdown.toList)
  let renamed ← (s.exports.all.map (fun entry => entry.2.entity)).foldlM s.renameReferences text
  return String.ofList renamed

end Speller

end BindingNames.Koka
