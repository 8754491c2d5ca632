import BindingNames.Entity
import BindingNames.Identifier

/-!
# Koka names of methods and members

Names in code follow the rename rule, or a name given in its place, and are written in the style
of what they name. A name that is a reserved word is escaped.
-/

namespace BindingNames.Koka

open Identifier

/-- Words that cannot be called. -/
def uncallable : List String := ["new", "static", "default"]

/-- Words that cannot be selected. -/
def unselectable : List String := ["new", "static", "default"]

/-- A name given for a method takes the place of its own. -/
def codeName (given : Option String) (m : Method) : String :=
  given.getD (m.rename.apply m.name)

def methodName (m : Method) : String :=
  avoid uncallable (snakeCase (m.rename.apply m.name))

/-- Constructors begin with a capital. -/
def constructorName (given : Option String) (m : Method) : String :=
  avoid uncallable (Identifier.withCapital (snakeCase (codeName given m)))

def accessorName (given : Option String) (m : Method) : String :=
  avoid unselectable (snakeCase (codeName given m))

/-- Fields and parameters keep their words but not their case, and follow no rule. -/
def paramName (name : String) : String :=
  avoid unselectable (snakeCase (lowerCase name))

def variantName (v : Variant) : String :=
  upperCamelCase (v.rename.apply v.name)

/-- The part of a type's spelling that may stand in an identifier. -/
def typeFragment : Option String → String
  | none => "unit"
  | some spelling => wordCharsOf spelling

end BindingNames.Koka
