import BindingNames.Koka.Identifier
import BindingNames.Proofs.Words.SnakeForm

/-!
# Escaped names

Methods, accessors, fields and parameters are spelled in snake form, and one that would be a
reserved word is escaped. Where a name is called and where it is selected the same words are
reserved, so the spellings can be compared across the categories: they agree exactly where the snake
forms do.
-/

namespace BindingNames.Koka

open Identifier

/-- Words that cannot be called or cannot be selected. -/
def reserved : List String := uncallable ++ unselectable

/-- A name that is escaped where it would be reserved, by the way in which it is spelled. -/
inductive MemberName where
  | method (m : Method)
  | accessor (given : Option String) (m : Method)
  | param (name : String)

namespace MemberName

/-- The text whose words make up the name. -/
def source : MemberName → String
  | method m => m.rename.apply m.name
  | accessor given m => codeName given m
  | param name => lowerCase name

def spelling : MemberName → String
  | method m => methodName m
  | accessor given m => accessorName given m
  | param name => paramName name

/-- A method and a field that are reserved in different cases share their escaped name. -/
example : (method { name := "getNew", rename := ⟨some "New"⟩ }).spelling = "new_" ∧
    (param "NEW").spelling = "new_" := by
  decide +kernel

end MemberName

end BindingNames.Koka
