import BindingNames.NamingError

/-!
# Checked type expressions

A table of spellings is asked about any expression and answers for primitives only. Integers of
128 bits are refused by every target with an error of their own.
-/

namespace BindingNames.TypeExpr

/-- The value found for an expression, or the reason why there is none. -/
def checked {α : Type} (target : Target) (found? : TypeExpr → Option α) (t : TypeExpr) :
    Except NamingError α :=
  match t, found? t with
  | wideInt width, _ => .error (.wideInteger target width)
  | _, some found => .ok found
  | _, none => .error (.notPrimitive t)

/-- The primitive that an expression is, for a table that depends on widths. -/
def primitive (target : Target) (t : TypeExpr) : Except NamingError Primitive :=
  checked target primitive? t

/-- The family of an expression, for a table that does not depend on widths. -/
def family (target : Target) (t : TypeExpr) : Except NamingError Primitive.Family :=
  checked target family? t

theorem checked_of_some {α : Type} {target : Target} {found? : TypeExpr → Option α}
    {t : TypeExpr} {a : α} (narrow : ∀ width, t ≠ wideInt width) (h : found? t = some a) :
    checked target found? t = .ok a := by
  cases t <;> simp_all [checked]

theorem checked_of_none {α : Type} {target : Target} {found? : TypeExpr → Option α}
    {t : TypeExpr} (narrow : ∀ width, t ≠ wideInt width) (h : found? t = none) :
    checked target found? t = .error (.notPrimitive t) := by
  cases t <;> simp_all [checked]

end BindingNames.TypeExpr
