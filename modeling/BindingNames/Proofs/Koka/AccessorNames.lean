import BindingNames.Koka.Identifier
import BindingNames.Proofs.Words.Runs

/-!
# Names of fields and of accessors

A field is lowered before it is cut and an accessor after, and each may be escaped without the
other. In ASCII both hold the same letters and digits in the same order, and they are alike just if
the words of the name are the runs between its separators. Escaping adds nothing to this: no snake
form ends like an escaped name.
-/

namespace BindingNames.Identifier

/-- The stretches of letters and digits between the separators of a name. -/
def runs (name : String) : List String := (Words.runs name.toList).map String.ofList

def withoutLowLines (name : String) : String :=
  String.ofList (name.toList.filter (fun c => c != '_'))

theorem withoutLowLines_avoid (reserved : List String) (name : String) :
    withoutLowLines (avoid reserved name) = withoutLowLines name := by
  by_cases taken : name ∈ reserved
  · simp [avoid_of_mem taken, withoutLowLines]
  · rw [avoid_of_not_mem taken]

theorem words_eq_runs_iff {name : String} :
    words name = runs name ↔ Words.split name.toList = Words.runs name.toList :=
  List.map_inj_right fun _ _ same => String.ofList_inj.mp same

end BindingNames.Identifier

namespace BindingNames.Koka

open Identifier

/-- A field and the accessor of a method with its name hold the same letters and digits; they are
spelled alike just if the name is cut into words at its separators only, which is to say that the
letter case turns nowhere between two neighbours without a separator between them. -/
theorem paramName_accessorName (m : Method) (ascii : Text.IsAscii m.name.toList)
    (unruled : m.rename.isEmpty = true) :
    withoutLowLines (paramName m.name) = withoutLowLines (accessorName none m) ∧
    (paramName m.name = accessorName none m ↔ words m.name = runs m.name) ∧
    (words m.name = runs m.name ↔ Words.NoTurns m.name.toList) := by
  have source : codeName none m = m.name := Rename.apply_of_isEmpty unruled m.name
  rw [paramName, accessorName, source]
  refine ⟨?_, ?_, ?_⟩
  · rw [withoutLowLines_avoid, withoutLowLines_avoid]
    simp [withoutLowLines, snakeCase, lowerCase, Words.filter_snake_lower ascii]
  · rw [avoid_eq_avoid_iff (not_endsInLowLine_snakeCase _) (not_endsInLowLine_snakeCase _),
      words_eq_runs_iff, ← Words.snake_lower_eq_iff ascii, snakeCase, lowerCase, snakeCase,
      String.toList_ofList, String.ofList_inj]
  · rw [words_eq_runs_iff, Words.split_eq_runs_iff]

/-- A capital inside a reserved word: only the field is escaped. -/
theorem paramName_accessorName_escaped :
    Text.IsAscii "deFault".toList ∧
    withoutLowLines (paramName "deFault") =
      withoutLowLines (accessorName none { name := "deFault" }) ∧
    paramName "deFault" = "default_" ∧
    paramName "deFault" ≠ accessorName none { name := "deFault" } ∧
    Text.IsAscii "_NEW-item2".toList ∧
    paramName "_NEW-item2" = accessorName none { name := "_NEW-item2" } := by
  have ascii : Text.IsAscii "deFault".toList := by decide
  have ascii' : Text.IsAscii "_NEW-item2".toList := by decide
  have turn : words "deFault" ≠ runs "deFault" := by decide +kernel
  have plain : words "_NEW-item2" = runs "_NEW-item2" := by decide +kernel
  obtain ⟨letters, alike, -⟩ := paramName_accessorName { name := "deFault" } ascii rfl
  obtain ⟨-, alike', -⟩ := paramName_accessorName { name := "_NEW-item2" } ascii' rfl
  exact ⟨ascii, letters, by decide +kernel, fun same => turn (alike.mp same), ascii',
    alike'.mpr plain⟩

end BindingNames.Koka
