import BindingNames.Abi
import BindingNames.Koka.Spelling

/-!
# Tables of spellings

A primitive is spelled in six ways, five of them for code and one for the headers. Four tables go by
the width and cover the known primitives; the other two go by the family and cover every width,
also one that no primitive has. All of them refuse an integer of 128 bits for what it is, and
anything else that they do not cover for being no primitive.
-/

namespace BindingNames

namespace TypeExpr

def IsWide (t : TypeExpr) : Prop := ∃ width, t = wideInt width

/-- A known expression that is not refused by every table. -/
def IsPrimitive (t : TypeExpr) : Prop := ∃ k ∈ known, ¬k.IsWide ∧ t.agrees k = true

/-- The expressions that have a family. -/
inductive HasFamily : TypeExpr → Prop
  | bool : HasFamily .bool
  | char : HasFamily .char
  | byte : HasFamily .byte
  | int (width : String) : HasFamily (.int width)
  | sizeInt (width : String) : HasFamily (.sizeInt width)
  | float (width : String) : HasFamily (.float width)

theorem literal_not_mem_known (value : Literal) : literal value ∉ known := by
  simp [known]

/-- Agreement is wider than equality only between plain values, and none of these is known. -/
theorem agrees_iff_of_mem_known {t k : TypeExpr} (h : k ∈ known) :
    t.agrees k = true ↔ t = k := by
  unfold agrees
  split
  · exact absurd h (literal_not_mem_known _)
  · exact beq_iff_eq

theorem isPrimitive_iff {t : TypeExpr} : t.IsPrimitive ↔ t ∈ known ∧ ¬t.IsWide := by
  constructor
  · rintro ⟨k, listed, narrow, same⟩
    obtain rfl := (agrees_iff_of_mem_known listed).mp same
    exact ⟨listed, narrow⟩
  · rintro ⟨listed, narrow⟩
    exact ⟨t, listed, narrow, (agrees_iff_of_mem_known listed).mpr rfl⟩

theorem mem_known_of_primitive? {t : TypeExpr} {p : Primitive} (found : t.primitive? = some p) :
    t ∈ known := by
  cases t with
  | bool | char | byte => simp [known]
  | int width =>
    simp only [primitive?, integer?] at found
    split at found <;> simp [known] at found ⊢
  | sizeInt width =>
    simp only [primitive?, size?] at found
    split at found <;> simp [known] at found ⊢
  | float width =>
    simp only [primitive?, float?] at found
    split at found <;> simp [known] at found ⊢
  | wideInt | somePrimitive | named | literal => cases found

theorem primitive_or_wide_of_mem_known :
    ∀ t ∈ known, t.primitive?.isSome = true ∨ t = wideInt "i128" ∨ t = wideInt "u128" := by
  decide

theorem exists_primitive?_iff {t : TypeExpr} :
    (∃ p, t.primitive? = some p) ↔ t.IsPrimitive := by
  rw [isPrimitive_iff]
  constructor
  · rintro ⟨p, found⟩
    refine ⟨mem_known_of_primitive? found, ?_⟩
    rintro ⟨width, rfl⟩
    cases found
  · rintro ⟨listed, narrow⟩
    rcases primitive_or_wide_of_mem_known t listed with found | wide | wide
    · exact Option.isSome_iff_exists.mp found
    · exact absurd ⟨_, wide⟩ narrow
    · exact absurd ⟨_, wide⟩ narrow

theorem exists_family?_iff {t : TypeExpr} : (∃ f, t.family? = some f) ↔ t.HasFamily := by
  constructor
  · rintro ⟨f, found⟩
    cases t with
    | bool => exact .bool
    | char => exact .char
    | byte => exact .byte
    | int width => exact .int width
    | sizeInt width => exact .sizeInt width
    | float width => exact .float width
    | wideInt | somePrimitive | named | literal => cases found
  · rintro (_ | _) <;> exact ⟨_, rfl⟩

/-- What a table for this target answers for an expression, if it covers just the expressions of
which this holds. -/
structure Answers (target : Target) (t : TypeExpr) (covered : Prop)
    (answer : Except NamingError String) : Prop where
  exists_ok_iff : (∃ spelling, answer = .ok spelling) ↔ covered
  eq_error_iff (cause : NamingError) : answer = .error cause ↔
    (∃ width, t = wideInt width ∧ cause = .wideInteger target width) ∨
      (¬covered ∧ ¬t.IsWide ∧ cause = .notPrimitive t)

/-- A table answers as its search for the expression does, if that finds no integer of 128 bits. -/
theorem answers_map_checked {α : Type} {found? : TypeExpr → Option α} (target : Target)
    (narrow : ∀ width, found? (wideInt width) = none) (spelling : α → String) (t : TypeExpr) :
    Answers target t (∃ a, found? t = some a) ((checked target found? t).map spelling) := by
  by_cases wide : t.IsWide
  · obtain ⟨width, rfl⟩ := wide
    constructor <;> simp [checked, Except.map, narrow, IsWide, eq_comm]
  · have other : ∀ width, t ≠ wideInt width := fun width same => wide ⟨width, same⟩
    cases found : found? t with
    | some a =>
      rw [checked_of_some other found]
      constructor <;> simp [Except.map, other]
    | none =>
      rw [checked_of_none other found]
      constructor <;> simp [Except.map, other, wide, eq_comm]

end TypeExpr

open TypeExpr

/-- The tables in which the spelling of a primitive is looked up. -/
inductive SpellingTable where
  | native
  | converted
  | list
  | view
  | slice
  | header
  deriving DecidableEq

namespace SpellingTable

def target : SpellingTable → Target
  | header => .c
  | _ => .koka

def spell : SpellingTable → TypeExpr → Except NamingError String
  | native => Koka.nativeType
  | converted => Koka.convertedType
  | list => Koka.listType
  | view => Koka.listView
  | slice => Koka.sliceType
  | header => Abi.primitive

/-- What a table has a spelling for. Two of them do not look at the width. -/
def Covers : SpellingTable → TypeExpr → Prop
  | converted | list => HasFamily
  | native | view | slice | header => IsPrimitive

/-- How a table names an integer of 128 bits that it refuses. -/
def offender : SpellingTable → String → String
  | header, width => width
  | _, width => (wideInt width).describe

theorem answers (table : SpellingTable) (t : TypeExpr) :
    Answers table.target t (table.Covers t) (table.spell t) := by
  have byWidth (target : Target) (spelling : Primitive → String) :
      Answers target t t.IsPrimitive ((t.primitive target).map spelling) := by
    rw [← exists_primitive?_iff]
    exact answers_map_checked target (fun _ => rfl) spelling t
  have byFamily (spelling : Primitive.Family → String) :
      Answers .koka t t.HasFamily ((t.family .koka).map spelling) := by
    rw [← exists_family?_iff]
    exact answers_map_checked .koka (fun _ => rfl) spelling t
  cases table with
  | native => exact byWidth .koka Koka.native
  | converted => exact byFamily Koka.converted
  | list => exact byFamily Koka.list
  | view => exact byWidth .koka Koka.view
  | slice => exact byWidth .koka Koka.slice
  | header => exact byWidth .c Abi.spelling

theorem entity_wideInteger (table : SpellingTable) (width : String) :
    (NamingError.wideInteger table.target width).diagnosis?.map (·.entity) =
      some (table.offender width) := by
  cases table <;> rfl

variable {table : SpellingTable} {t : TypeExpr}

/-- Only integers of 128 bits are refused by an error that names what it is about. -/
theorem exists_error_named_iff {entity : String} :
    (∃ cause, table.spell t = .error cause ∧
      cause.diagnosis?.map (·.entity) = some entity) ↔
      ∃ width, t = wideInt width ∧ entity = table.offender width := by
  simp only [(table.answers t).eq_error_iff]
  constructor
  · rintro ⟨cause, ⟨width, rfl, rfl⟩ | ⟨-, -, rfl⟩, named⟩
    · rw [entity_wideInteger] at named
      exact ⟨width, rfl, (Option.some.inj named).symm⟩
    · cases named
  · rintro ⟨width, rfl, rfl⟩
    exact ⟨_, .inl ⟨width, rfl, rfl⟩, table.entity_wideInteger width⟩

theorem error_unnamed_iff {cause : NamingError} :
    table.spell t = .error cause ∧ cause.diagnosis? = none ↔
      ¬table.Covers t ∧ ¬t.IsWide ∧ cause = .notPrimitive t := by
  rw [(table.answers t).eq_error_iff]
  constructor
  · rintro ⟨⟨width, rfl, rfl⟩ | refused, unnamed⟩
    · have named := table.entity_wideInteger width
      simp [unnamed] at named
    · exact refused
  · rintro ⟨uncovered, narrow, rfl⟩
    exact ⟨.inr ⟨uncovered, narrow, rfl⟩, rfl⟩

/-- All tables have spellings for the same primitives, or for whatever has a family. They refuse the
integers of 128 bits, which they name, and everything else for being no primitive. -/
theorem tables_agree (table : SpellingTable) (t : TypeExpr) :
    ((∃ spelling, table.spell t = .ok spelling) ↔ table.Covers t) ∧
    (∀ entity, (∃ cause, table.spell t = .error cause ∧
        cause.diagnosis?.map (·.entity) = some entity) ↔
      ∃ width, t = wideInt width ∧ entity = table.offender width) ∧
    (∀ cause, (table.spell t = .error cause ∧ cause.diagnosis? = none) ↔
      ¬table.Covers t ∧ ¬t.IsWide ∧ cause = .notPrimitive t) :=
  ⟨(table.answers t).exists_ok_iff, fun _ => exists_error_named_iff, fun _ => error_unnamed_iff⟩

/-- A width that no primitive has is no matter for a list. -/
example : list.spell (.int "i7") = .ok "list<int>" ∧
    view.spell (.int "i7") = .error (.notPrimitive (.int "i7")) := by
  decide

end SpellingTable

end BindingNames
