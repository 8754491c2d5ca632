import BindingNames.Koka.Comment
import BindingNames.Koka.Identifier
import BindingNames.Koka.Spelling

/-!
# Summary of all spellings

Every name that the exported types give rise to, type by type. A spelling that fails keeps its
error in its place, so the others can still be read.
-/

namespace BindingNames.Koka

abbrev Spelling := Except NamingError String

structure ParamSummary where
  name : String
  type : Spelling
  abiType : Spelling

structure MethodSummary where
  name : String
  constructor : String
  accessor : String
  symbol : Spelling
  comment : Spelling
  params : List ParamSummary
  edgeArrays : List Spelling

structure FieldSummary extends ParamSummary where
  comment : Spelling

structure VariantSummary where
  name : String
  discriminant : Int
  comment : Spelling

/-- Only records have fields and only enumerations have variants. -/
structure TypeSummary where
  ref : TypeRef
  name : Spelling
  canonical : Spelling
  abiName : Spelling
  destructor : Spelling
  comment : Spelling
  methods : List MethodSummary
  fields? : Option (List FieldSummary)
  variants? : Option (List VariantSummary)

namespace Speller

/-- The spelling of a type in a signature. -/
def signatureType (s : Speller) : TypeExpr → Spelling
  | .named ref => s.typeName ref
  | t => nativeType t

def abiSignatureType (s : Speller) : TypeExpr → Spelling
  | .named ref => s.exports.abiName ref
  | t => Abi.primitive t

def summarizeParam (s : Speller) (name : String) (type : TypeExpr) : ParamSummary :=
  ⟨paramName name, s.signatureType type, s.abiSignatureType type⟩

def summarizeMethod (s : Speller) (ref : TypeRef) (m : Method) : MethodSummary where
  name := methodName m
  constructor := constructorName none m
  accessor := accessorName none m
  symbol := s.symbol ref m
  comment := s.comment m.docs
  params := m.params.map (fun p => s.summarizeParam p.name p.type)
  edgeArrays := (List.range m.lifetimes.names.length).map
    (fun (i : Nat) => m.lifetimes.edgeArray i)

def summarizeField (s : Speller) (f : Field) : FieldSummary :=
  ⟨s.summarizeParam f.name f.type, s.comment f.docs⟩

def summarizeVariant (s : Speller) (v : Variant) : VariantSummary :=
  ⟨variantName v, v.discriminant, s.comment v.docs⟩

def summarizeType (s : Speller) (ref : TypeRef) (d : TypeDecl) : TypeSummary where
  ref := ref
  name := s.typeName ref
  canonical := s.canonicalName ref
  abiName := s.exports.abiName ref
  destructor := s.destructor ref
  comment := s.comment d.entity.docs
  methods := d.entity.methods.map (s.summarizeMethod ref)
  fields? := d.fields?.map (fun fs => fs.map s.summarizeField)
  variants? := d.variants?.map (fun vs => vs.map s.summarizeVariant)

def summary (s : Speller) : List TypeSummary :=
  s.exports.all.map (fun entry => s.summarizeType entry.1 entry.2)

end Speller

end BindingNames.Koka
