import BindingNames.Primitive
import BindingNames.Text.Quoted
import BindingNames.TypeRef

/-!
# Type expressions

What stands where a description of an interface calls for a type. It may name a primitive or an
exported type; it may also be a number of bits that no primitive has, or no type at all.
-/

namespace BindingNames

/-- A plain value found in the place of a type. -/
inductive Literal where
  | text (value : String)
  | number (value : Int)
  | truth (value : Bool)
  | absent
  deriving DecidableEq

namespace Literal

def describe : Literal → String
  | text value => Text.quoted value
  | number value => toString value
  | truth true => "True"
  | truth false => "False"
  | absent => "None"

/-- The truth values count as the numbers zero and one. -/
def number? : Literal → Option Int
  | number value => some value
  | truth value => some (if value then 1 else 0)
  | _ => none

def agrees : Literal → Literal → Bool
  | text a, text b => a == b
  | absent, absent => true
  | a, b => a.number?.isSome && a.number? == b.number?

end Literal

/-- The widths are kept as written. -/
inductive TypeExpr where
  | bool
  | char
  | byte
  | int (width : String)
  | wideInt (width : String)
  | sizeInt (width : String)
  | float (width : String)
  | somePrimitive
  | named (ref : TypeRef)
  | literal (value : Literal)
  deriving DecidableEq

def TypeRef.describe (r : TypeRef) : String :=
  "TypeId(kind=" ++ Text.quoted r.kind ++ ", index=" ++ toString r.index ++ ")"

namespace TypeExpr

def describeWidth (label width : String) : String :=
  label ++ "(width=" ++ Text.quoted width ++ ")"

/-- The form in which a message shows the expression. -/
def describe : TypeExpr → String
  | bool => "Bool()"
  | char => "Char()"
  | byte => "Byte()"
  | int width => describeWidth "Int" width
  | wideInt width => describeWidth "Int128" width
  | sizeInt width => describeWidth "IntSize" width
  | float width => describeWidth "Float" width
  | somePrimitive => "PrimitiveType()"
  | named ref => ref.describe
  | literal value => value.describe

/-- Equality of expressions, up to that of plain values. -/
def agrees : TypeExpr → TypeExpr → Bool
  | literal a, literal b => a.agrees b
  | a, b => a == b

/-- The expressions that a table of spellings has to know, the widest integers included. -/
def known : List TypeExpr :=
  [bool, char, byte, int "i8", int "u8", int "i16", int "u16", int "i32", int "u32", int "i64",
    int "u64", wideInt "i128", wideInt "u128", sizeInt "isize", sizeInt "usize", float "f32",
    float "f64"]

def integer? : String → Option Primitive
  | "i8" => some (.int .signed .w8)
  | "u8" => some (.int .unsigned .w8)
  | "i16" => some (.int .signed .w16)
  | "u16" => some (.int .unsigned .w16)
  | "i32" => some (.int .signed .w32)
  | "u32" => some (.int .unsigned .w32)
  | "i64" => some (.int .signed .w64)
  | "u64" => some (.int .unsigned .w64)
  | _ => none

def size? : String → Option Primitive
  | "isize" => some (.size .signed)
  | "usize" => some (.size .unsigned)
  | _ => none

def float? : String → Option Primitive
  | "f32" => some (.float .w32)
  | "f64" => some (.float .w64)
  | _ => none

/-- The primitive that the expression is, if its width is one that primitives have. -/
def primitive? : TypeExpr → Option Primitive
  | bool => some .bool
  | char => some .char
  | byte => some .byte
  | int width => integer? width
  | sizeInt width => size? width
  | float width => float? width
  | _ => none

/-- The family of the expression, whatever its width. -/
def family? : TypeExpr → Option Primitive.Family
  | bool => some .bool
  | char => some .char
  | byte => some .byte
  | int _ => some .int
  | sizeInt _ => some .int
  | float _ => some .float
  | _ => none

end TypeExpr

end BindingNames
