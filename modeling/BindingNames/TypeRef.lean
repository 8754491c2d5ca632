/-!
# References to exported types

A reference names a kind of type and a position in the list of that kind. Both may be wrong, so
the kind is kept as it was written and the position is any integer.
-/

namespace BindingNames

/-- The kinds of exported types: records passed both ways, records only returned, types handled
through pointers, and enumerations. -/
inductive ExportKind where
  | struct
  | outStruct
  | handle
  | enum
  deriving DecidableEq

namespace ExportKind

/-- The kinds in the order in which their types are listed. -/
def all : List ExportKind := [struct, outStruct, handle, enum]

@[simp] theorem mem_all (k : ExportKind) : k ∈ all := by cases k <;> simp [all]

def name : ExportKind → String
  | struct => "struct"
  | outStruct => "out_struct"
  | handle => "opaque"
  | enum => "enum"

def ofName? (text : String) : Option ExportKind := all.find? (fun k => k.name == text)

@[simp] theorem ofName?_name (k : ExportKind) : ofName? k.name = some k := by
  cases k <;> decide

end ExportKind

structure TypeRef where
  kind : String
  index : Int
  deriving DecidableEq

/-- The reference to the type at a position of a known kind. -/
def TypeRef.at (k : ExportKind) (i : Nat) : TypeRef := ⟨k.name, i⟩

end BindingNames
