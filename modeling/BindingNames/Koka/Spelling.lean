import BindingNames.TypeExpr.Checked

/-!
# Koka spellings of primitives

Each position in code has a table. Values that are converted at the boundary and the elements of
lists only need the family; everything laid out in memory needs the width.
-/

namespace BindingNames.Koka

/-- The type that has exactly the width; Koka has no unsigned types. -/
def native : Primitive → String
  | .bool => "bool"
  | .char => "char"
  | .byte => "int8"
  | .int _ width => "int" ++ width.bits
  | .size .signed => "intptr_t"
  | .size .unsigned => "ssize_t"
  | .float width => "float" ++ width.bits

/-- The type of a converted value. -/
def converted : Primitive.Family → String
  | .bool => "bool"
  | .char => "char"
  | .byte => "int8"
  | .int => "int"
  | .float => "float64"

def list : Primitive.Family → String
  | .bool => "list<bool>"
  | .char => "list<char>"
  | .byte => "bytes"
  | .int => "list<int>"
  | .float => "list<float64>"

/-- The suffix that gives a typed view of a buffer; bytes need none. -/
def view : Primitive → String
  | .bool => ".boolView"
  | .char => ".uint32View"
  | .byte => ""
  | .int .signed width => ".int" ++ width.bits ++ "View"
  | .int .unsigned width => ".uint" ++ width.bits ++ "View"
  | .size .signed => ".isizeView"
  | .size .unsigned => ".usizeView"
  | .float width => ".float" ++ width.bits ++ "View"

/-- The record that holds a slice of such elements. -/
def slice : Primitive → String
  | .bool => "_SliceBool"
  | .char => "_SliceRune"
  | .byte => "_SliceUint8"
  | .int .signed width => "_SliceInt" ++ width.bits
  | .int .unsigned width => "_SliceUint" ++ width.bits
  | .size .signed => "_SliceIsize"
  | .size .unsigned => "_SliceUsize"
  | .float .w32 => "_SliceFloat"
  | .float .w64 => "_SliceDouble"

def nativeType (t : TypeExpr) : Except NamingError String := (t.primitive .koka).map native

def convertedType (t : TypeExpr) : Except NamingError String := (t.family .koka).map converted

def listType (t : TypeExpr) : Except NamingError String := (t.family .koka).map list

def listView (t : TypeExpr) : Except NamingError String := (t.primitive .koka).map view

def sliceType (t : TypeExpr) : Except NamingError String := (t.primitive .koka).map slice

/-- Sizes are unsigned. -/
def sizePrimitive : Primitive := .size .unsigned

/-- Enumerations cross the boundary as signed 32-bit integers. -/
def enumPrimitive : Primitive := .int .signed .w32

/-- A primitive in one of the two positions at the boundary. -/
def atBoundary (isConverted : Bool) (p : Primitive) : String :=
  if isConverted then converted p.family else native p

end BindingNames.Koka
