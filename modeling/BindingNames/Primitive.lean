/-!
# Primitive types

The primitives that can cross the boundary, and the families into which they fall where their
widths do not matter.
-/

namespace BindingNames

inductive Sign where
  | signed
  | unsigned
  deriving DecidableEq

inductive IntWidth where
  | w8
  | w16
  | w32
  | w64
  deriving DecidableEq

def IntWidth.bits : IntWidth → String
  | w8 => "8"
  | w16 => "16"
  | w32 => "32"
  | w64 => "64"

inductive FloatWidth where
  | w32
  | w64
  deriving DecidableEq

def FloatWidth.bits : FloatWidth → String
  | w32 => "32"
  | w64 => "64"

/-- A byte has the width of an unsigned 8-bit integer but is no number; a size is an integer as
wide as a pointer. -/
inductive Primitive where
  | bool
  | char
  | byte
  | int (sign : Sign) (width : IntWidth)
  | size (sign : Sign)
  | float (width : FloatWidth)
  deriving DecidableEq

namespace Primitive

/-- Primitives that are converted alike. -/
inductive Family where
  | bool
  | char
  | byte
  | int
  | float
  deriving DecidableEq

def family : Primitive → Family
  | bool => .bool
  | char => .char
  | byte => .byte
  | int _ _ => .int
  | size _ => .int
  | float _ => .float

end Primitive

end BindingNames
