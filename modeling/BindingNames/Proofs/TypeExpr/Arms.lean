import BindingNames.Proofs.TypeExpr.Tables

/-!
# Tables arm by arm

Each table can be written out as a list of arms, of which the first that fits decides: one arm for
each primitive or family in the order of the table, one that refuses the integers of 128 bits, and a
last one for everything else. So a table may lack an arm that the others have. None of them does, for
what reaches the last arm is no known expression.
-/

namespace BindingNames

open TypeExpr

namespace Koka

def nativeArms : TypeExpr → Except NamingError String
  | .bool => .ok "bool"
  | .char => .ok "char"
  | .int "i8" => .ok "int8"
  | .int "u8" | .byte => .ok "int8"
  | .int "i16" | .int "u16" => .ok "int16"
  | .int "i32" | .int "u32" => .ok "int32"
  | .int "i64" | .int "u64" => .ok "int64"
  | .sizeInt "isize" => .ok "intptr_t"
  | .sizeInt "usize" => .ok "ssize_t"
  | .float "f32" => .ok "float32"
  | .float "f64" => .ok "float64"
  | .wideInt width => .error (.wideInteger .koka width)
  | t => .error (.notPrimitive t)

def convertedArms : TypeExpr → Except NamingError String
  | .bool => .ok "bool"
  | .char => .ok "char"
  | .int _ | .sizeInt _ => .ok "int"
  | .byte => .ok "int8"
  | .float _ => .ok "float64"
  | .wideInt width => .error (.wideInteger .koka width)
  | t => .error (.notPrimitive t)

def listArms : TypeExpr → Except NamingError String
  | .bool => .ok "list<bool>"
  | .char => .ok "list<char>"
  | .byte => .ok "bytes"
  | .int _ | .sizeInt _ => .ok "list<int>"
  | .float _ => .ok "list<float64>"
  | .wideInt width => .error (.wideInteger .koka width)
  | t => .error (.notPrimitive t)

def viewArms : TypeExpr → Except NamingError String
  | .bool => .ok ".boolView"
  | .char => .ok ".uint32View"
  | .byte => .ok ""
  | .int "i8" => .ok ".int8View"
  | .int "u8" => .ok ".uint8View"
  | .int "i16" => .ok ".int16View"
  | .int "u16" => .ok ".uint16View"
  | .int "i32" => .ok ".int32View"
  | .int "u32" => .ok ".uint32View"
  | .int "i64" => .ok ".int64View"
  | .int "u64" => .ok ".uint64View"
  | .sizeInt "usize" => .ok ".usizeView"
  | .sizeInt "isize" => .ok ".isizeView"
  | .float "f32" => .ok ".float32View"
  | .float "f64" => .ok ".float64View"
  | .wideInt width => .error (.wideInteger .koka width)
  | t => .error (.notPrimitive t)

def sliceArms : TypeExpr → Except NamingError String
  | .bool => .ok "_SliceBool"
  | .char => .ok "_SliceRune"
  | .int "i8" => .ok "_SliceInt8"
  | .int "u8" | .byte => .ok "_SliceUint8"
  | .int "i16" => .ok "_SliceInt16"
  | .int "u16" => .ok "_SliceUint16"
  | .int "i32" => .ok "_SliceInt32"
  | .int "u32" => .ok "_SliceUint32"
  | .int "i64" => .ok "_SliceInt64"
  | .int "u64" => .ok "_SliceUint64"
  | .sizeInt "usize" => .ok "_SliceUsize"
  | .sizeInt "isize" => .ok "_SliceIsize"
  | .float "f32" => .ok "_SliceFloat"
  | .float "f64" => .ok "_SliceDouble"
  | .wideInt width => .error (.wideInteger .koka width)
  | t => .error (.notPrimitive t)

end Koka

namespace Abi

def headerArms : TypeExpr → Except NamingError String
  | .bool => .ok "bool"
  | .char => .ok "char32_t"
  | .byte => .ok "uint8_t"
  | .int "i8" => .ok "int8_t"
  | .int "u8" => .ok "uint8_t"
  | .int "i16" => .ok "int16_t"
  | .int "u16" => .ok "uint16_t"
  | .int "i32" => .ok "int32_t"
  | .int "u32" => .ok "uint32_t"
  | .int "i64" => .ok "int64_t"
  | .int "u64" => .ok "uint64_t"
  | .sizeInt "isize" => .ok "intptr_t"
  | .sizeInt "usize" => .ok "size_t"
  | .float "f32" => .ok "float"
  | .float "f64" => .ok "double"
  | .wideInt width => .error (.wideInteger .c width)
  | t => .error (.notPrimitive t)

end Abi

namespace TypeExpr

/-- A table by width refuses what is neither known nor of 128 bits. -/
theorem map_primitive_of_unknown {t : TypeExpr} (unknown : t ∉ known)
    (narrow : ∀ width, t ≠ wideInt width) (target : Target) (spelling : Primitive → String) :
    (t.primitive target).map spelling = .error (.notPrimitive t) := by
  have missing : t.primitive? = none :=
    Option.eq_none_iff_forall_ne_some.mpr fun p found => unknown (mem_known_of_primitive? found)
  rw [primitive, checked_of_none narrow missing]
  rfl

end TypeExpr

variable (t : TypeExpr)

-- both sides compute on every arm but the last

theorem Koka.nativeType_eq_arms : nativeType t = nativeArms t := by
  fun_cases nativeArms t with
  | case17 t => exact map_primitive_of_unknown (by simp_all [known]) (by assumption) .koka native
  | _ => rfl

theorem Koka.convertedType_eq_arms : convertedType t = convertedArms t := by
  cases t <;> rfl

theorem Koka.listType_eq_arms : listType t = listArms t := by
  cases t <;> rfl

theorem Koka.listView_eq_arms : listView t = viewArms t := by
  fun_cases viewArms t with
  | case17 t => exact map_primitive_of_unknown (by simp_all [known]) (by assumption) .koka view
  | _ => rfl

theorem Koka.sliceType_eq_arms : sliceType t = sliceArms t := by
  fun_cases sliceArms t with
  | case17 t => exact map_primitive_of_unknown (by simp_all [known]) (by assumption) .koka slice
  | _ => rfl

theorem Abi.primitive_eq_arms : Abi.primitive t = headerArms t := by
  fun_cases headerArms t with
  | case17 t => exact map_primitive_of_unknown (by simp_all [known]) (by assumption) .c spelling
  | _ => rfl

namespace SpellingTable

/-- The table written out. -/
def arms : SpellingTable → TypeExpr → Except NamingError String
  | native => Koka.nativeArms
  | converted => Koka.convertedArms
  | list => Koka.listArms
  | view => Koka.viewArms
  | slice => Koka.sliceArms
  | header => Abi.headerArms

/-- Looking up the primitive first comes to the same as going through the arms of the table. -/
theorem spell_eq_arms (table : SpellingTable) : table.spell t = table.arms t := by
  cases table with
  | native => exact Koka.nativeType_eq_arms t
  | converted => exact Koka.convertedType_eq_arms t
  | list => exact Koka.listType_eq_arms t
  | view => exact Koka.listView_eq_arms t
  | slice => exact Koka.sliceType_eq_arms t
  | header => exact Abi.primitive_eq_arms t

end SpellingTable

end BindingNames
