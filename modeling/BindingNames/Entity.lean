import BindingNames.Documentation.Markdown
import BindingNames.Lifetimes
import BindingNames.Rename

/-!
# Exported entities

Types, their methods and their members. Each has a canonical name and two rename rules: one for
the names used in code, the other for the symbols of the binary interface.
-/

namespace BindingNames

/-- Parameters are known by position and keep their names. -/
structure Param where
  name : String
  type : TypeExpr
  deriving DecidableEq

structure Method where
  name : String
  params : List Param := []
  rename : Rename := {}
  abiRename : Rename := {}
  docs : Documentation := {}
  lifetimes : Lifetimes := {}
  deriving DecidableEq

structure Field where
  name : String
  type : TypeExpr
  rename : Rename := {}
  abiRename : Rename := {}
  docs : Documentation := {}
  deriving DecidableEq

structure Variant where
  name : String
  discriminant : Int
  rename : Rename := {}
  abiRename : Rename := {}
  docs : Documentation := {}
  deriving DecidableEq

/-- What every exported type has. -/
structure Entity where
  name : String
  docs : Documentation := {}
  rename : Rename := {}
  abiRename : Rename := {}
  methods : List Method := []
  deriving DecidableEq

structure Record extends Entity where
  fields : List Field := []
  deriving DecidableEq

structure Enumeration extends Entity where
  variants : List Variant := []
  deriving DecidableEq

/-- An exported type together with its kind. -/
inductive TypeDecl where
  | struct (record : Record)
  | outStruct (record : Record)
  | handle (entity : Entity)
  | enum (enumeration : Enumeration)
  deriving DecidableEq

/-- An entity has a kind only once it is declared as one. -/
def Entity.kind (_ : Entity) : Except NamingError ExportKind := .error .kindless

namespace TypeDecl

def kind : TypeDecl → ExportKind
  | struct _ => .struct
  | outStruct _ => .outStruct
  | handle _ => .handle
  | enum _ => .enum

def entity : TypeDecl → Entity
  | struct record => record.toEntity
  | outStruct record => record.toEntity
  | handle entity => entity
  | enum enumeration => enumeration.toEntity

/-- The fields of a record. -/
def fields? : TypeDecl → Option (List Field)
  | struct record => some record.fields
  | outStruct record => some record.fields
  | _ => none

/-- The variants of an enumeration. -/
def variants? : TypeDecl → Option (List Variant)
  | enum enumeration => some enumeration.variants
  | _ => none

end TypeDecl

end BindingNames
