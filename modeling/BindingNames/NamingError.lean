import BindingNames.TypeExpr

/-!
# Errors

Each error carries its cause. Those that concern the spelling of one entity name it and say what
is wrong with it; the message of such an error is both.
-/

namespace BindingNames

/-- The languages for which spellings are made. -/
inductive Target where
  | c
  | koka
  deriving DecidableEq

inductive NamingError where
  | unknownKind (kind : String)
  | unresolved (ref : TypeRef)
  | kindless
  | wideInteger (target : Target) (width : String)
  | notPrimitive (type : TypeExpr)
  | nothingLeft (name : String) (sharedBeginning : Option String)
  | coreTypeName (name candidate : String)
  | lifetimeOutOfRange (index : Int)
  | emptyPath
  | notAnItemKind (text : String)
  | notAPresentation (text : String)
  | notAProseStyle (text : String)
  deriving DecidableEq

namespace NamingError

/-- What has no spelling, and why. -/
structure Diagnosis where
  entity : String
  problem : String
  deriving DecidableEq

def describeOptional : Option String → String
  | none => Literal.absent.describe
  | some text => Text.quoted text

/-- The diagnosis of an error that concerns one entity. -/
def diagnosis? : NamingError → Option Diagnosis
  | wideInteger .c width =>
    some ⟨width, "128-bit integers are not supported over the C ABI"⟩
  | wideInteger .koka width =>
    some ⟨(TypeExpr.wideInt width).describe, "128-bit integers are not supported in Koka"⟩
  | nothingLeft name sharedBeginning =>
    some ⟨name, "nothing is left after stripping prefix " ++ describeOptional sharedBeginning ++
      ". Please rename."⟩
  | coreTypeName name candidate =>
    some ⟨name, Text.quoted candidate ++ " is not a valid Koka type name. Please rename."⟩
  | _ => none

/-- Positions are counted in signed words of 64 bits, and an index may lie outside these too. -/
def isPosition (index : Int) : Bool :=
  decide (-0x8000000000000000 ≤ index) && decide (index < 0x8000000000000000)

def Diagnosis.message (d : Diagnosis) : String := d.entity ++ ": " ++ d.problem

def message (e : NamingError) : String :=
  match e with
  | unknownKind kind => "unknown type kind " ++ Text.quoted kind
  | unresolved ref => ref.describe ++ " does not resolve in this type context"
  | kindless => ""
  | notPrimitive type => "not a primitive type: " ++ type.describe
  | lifetimeOutOfRange index =>
    if isPosition index then "list index out of range"
    else "cannot fit 'int' into an index-sized integer"
  | emptyPath => "tuple index out of range"
  | notAnItemKind text => Text.quoted text ++ " is not a valid DocType"
  | notAPresentation text => Text.quoted text ++ " is not a valid LinkDisplay"
  | notAProseStyle text => Text.quoted text ++ " is not a valid MarkdownStyle"
  | wideInteger _ _ | nothingLeft _ _ | coreTypeName _ _ =>
    (e.diagnosis?.map Diagnosis.message).getD ""

end NamingError

instance decidableEqExcept {ε α : Type} [DecidableEq ε] [DecidableEq α] :
    DecidableEq (Except ε α)
  | .ok a, .ok b => decidable_of_iff (a = b) ⟨congrArg Except.ok, Except.ok.inj⟩
  | .error a, .error b => decidable_of_iff (a = b) ⟨congrArg Except.error, Except.error.inj⟩
  | .ok _, .error _ => isFalse nofun
  | .error _, .ok _ => isFalse nofun

section

variable {α β : Type} {f : α → β} {x y : Except NamingError α}

theorem map_eq_ok_iff {b : β} : x.map f = .ok b ↔ ∃ a, x = .ok a ∧ f a = b := by
  cases x <;> simp [Except.map]

theorem map_eq_error_iff {cause : NamingError} : x.map f = .error cause ↔ x = .error cause := by
  cases x <;> simp [Except.map]

theorem map_eq_map_iff (injective : ∀ {a b}, f a = f b ↔ a = b) : x.map f = y.map f ↔ x = y := by
  cases x <;> cases y <;> simp [Except.map, injective]

end

end BindingNames
