import BindingNames.Abi

/-!
# Koka names of types

A speller holds what the spellings of a run depend on. A type's name loses the common beginning of
all names and is then renamed; what is left before the renaming has to be a name of its own. Symbols
are those of the binary interface, which alone decides on them.
-/

namespace BindingNames.Koka

structure Speller where
  exports : Exports := {}
  site : Site := {}
  sharedBeginning : Option String := none
  deriving DecidableEq

/-- Core types that no exported type may shadow. -/
def coreTypes : List String := ["Object", "String"]

/-- The name without this beginning, if it begins so. -/
def dropBeginning (beginning name : String) : String :=
  match beginning.toList.isPrefixOf? name.toList with
  | some rest => String.ofList rest
  | none => name

namespace Speller

def stripped (s : Speller) (name : String) : String :=
  match s.sharedBeginning with
  | some beginning => dropBeginning beginning name
  | none => name

/-- The spelling of a type in code. -/
def nameOf (s : Speller) (e : Entity) : Except NamingError String :=
  let candidate := s.stripped e.name
  if candidate = "" then .error (.nothingLeft e.name s.sharedBeginning)
  else if candidate ∈ coreTypes then .error (.coreTypeName e.name candidate)
  else .ok (e.rename.apply candidate)

def typeName (s : Speller) (ref : TypeRef) : Except NamingError String := do
  let decl ← s.exports.resolve ref
  s.nameOf decl.entity

/-- The name of a type in diagnostics, which neither loses a beginning nor is renamed. -/
def canonicalName (s : Speller) (ref : TypeRef) : Except NamingError String :=
  s.exports.canonicalName ref

def destructor (s : Speller) (ref : TypeRef) : Except NamingError String :=
  s.exports.destructor ref

def symbol (s : Speller) (ref : TypeRef) (m : Method) : Except NamingError String :=
  s.exports.symbol ref m

end Speller

end BindingNames.Koka
