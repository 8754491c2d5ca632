import BindingNames.Exports
import BindingNames.TypeExpr.Checked

/-!
# Symbols of the binary interface

Names that the linker sees. Only the rename rules for the binary interface apply to them, so the
names used in code may change without breaking a link.
-/

namespace BindingNames

namespace Exports

/-- The name of a type in the headers. -/
def abiName (x : Exports) (ref : TypeRef) : Except NamingError String := do
  let decl ← x.resolve ref
  return decl.entity.abiRename.apply decl.entity.name

/-- The name of a type in diagnostics, which no rule changes. -/
def canonicalName (x : Exports) (ref : TypeRef) : Except NamingError String := do
  let decl ← x.resolve ref
  return decl.entity.name

def destructor (x : Exports) (ref : TypeRef) : Except NamingError String := do
  let name ← x.abiName ref
  return name ++ "_destroy"

/-- The symbol of a method, to which the method's own rule applies as a whole. -/
def symbol (x : Exports) (ref : TypeRef) (m : Method) : Except NamingError String := do
  let name ← x.abiName ref
  return m.abiRename.apply (name ++ "_" ++ m.name)

end Exports

namespace Abi

def spelling : Primitive → String
  | .bool => "bool"
  | .char => "char32_t"
  | .byte => "uint8_t"
  | .int .signed width => "int" ++ width.bits ++ "_t"
  | .int .unsigned width => "uint" ++ width.bits ++ "_t"
  | .size .signed => "intptr_t"
  | .size .unsigned => "size_t"
  | .float .w32 => "float"
  | .float .w64 => "double"

/-- The spelling of a primitive in the headers. -/
def primitive (t : TypeExpr) : Except NamingError String :=
  (t.primitive .c).map spelling

/-- A side of a result that carries nothing. -/
def orVoid (side : Option String) : String :=
  match side with
  | none => "void"
  | some name => if name = "" then "void" else name

/-- The record that carries a result, named by both of its sides. -/
def resultName (success failure : Option String) : String :=
  "diplomat_result_" ++ orVoid success ++ "_" ++ orVoid failure

end Abi

end BindingNames
