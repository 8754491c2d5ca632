import BindingNames.Koka.Identifier
import BindingNames.Proofs.Words.WordChars

/-!
# Names with marks

Whatever a method, a constructor, an accessor or a variant is called, its words hold alphanumerics
only; still the spelling need not, because casing the words may bring combining marks. Main
statement: the letters of a name that bring marks, for each of the four spellings.
-/

namespace BindingNames.Identifier

open Unicode

/-- The low line that escapes a reserved word is a word character. -/
theorem wordOnly_avoid_iff {reserved : List String} {name : String} :
    WordOnly (avoid reserved name).toList ↔ WordOnly name.toList := by
  have low : isWordChar '_' = true := by simp [isWordChar]
  by_cases taken : name ∈ reserved
  · simp [avoid_of_mem taken, low]
  · rw [avoid_of_not_mem taken]

end BindingNames.Identifier

namespace BindingNames.Koka

open Unicode Identifier

/-- Small forms have a mark just where the name has a dotted capital I. A capital brings one if the
first letter has no capital of its own, and so does the titlecase of every word. -/
theorem spellings_wordOnly_iff (m : Method) (given : Option String) (v : Variant) :
    (WordOnly (methodName m).toList ↔ dottedI ∉ (m.rename.apply m.name).toList) ∧
    (WordOnly (accessorName given m).toList ↔ dottedI ∉ (codeName given m).toList) ∧
    (WordOnly (constructorName given m).toList ↔
      dottedI ∉ (codeName given m).toList ∧
        ∀ c ∈ (codeName given m).toList.find? isAlphanumeric, isUppercaseMarked c = false) ∧
    (WordOnly (variantName v).toList ↔
      ∀ w ∈ Words.split (v.rename.apply v.name).toList,
        (∀ c ∈ w.head?, isTitlecaseMarked c = false) ∧ dottedI ∉ w.tail) := by
  refine ⟨?_, ?_, ?_, ?_⟩
  · rw [methodName, wordOnly_avoid_iff, snakeCase, String.toList_ofList]
    exact Words.wordOnly_snake_iff _
  · rw [accessorName, wordOnly_avoid_iff, snakeCase, String.toList_ofList]
    exact Words.wordOnly_snake_iff _
  · rw [constructorName, wordOnly_avoid_iff, Identifier.withCapital, snakeCase,
      String.toList_ofList, String.toList_ofList]
    exact Words.wordOnly_withCapital_snake_iff _
  · rw [variantName, upperCamelCase, String.toList_ofList]
    exact Words.wordOnly_upperCamel_iff _

/-- Names of one letter, which is a word character, get a mark that is none. -/
theorem spellings_not_wordOnly :
    (WordOnly "\u0130".toList ∧ methodName { name := "\u0130" } = "i\u0307" ∧
      accessorName none { name := "\u0130" } = "i\u0307" ∧ ¬WordOnly "i\u0307".toList) ∧
    (WordOnly "\u01f0".toList ∧ constructorName none { name := "\u01f0" } = "J\u030c" ∧
      variantName { name := "\u01f0", discriminant := 0 } = "J\u030c" ∧
      ¬WordOnly "J\u030c".toList) := by
  have dotted : Identifier.snakeCase "\u0130" = "i\u0307" := by decide +kernel
  have caron : Identifier.snakeCase "\u01f0" = "\u01f0" := by decide +kernel
  refine ⟨⟨by decide +kernel, ?_, ?_, by decide +kernel⟩, by decide +kernel, ?_, ?_,
    by decide +kernel⟩
  · simp [methodName, dotted, avoid, uncallable]
  · simp [accessorName, codeName, dotted, avoid, unselectable]
  · have capital : Identifier.withCapital "\u01f0" = "J\u030c" := by decide +kernel
    simp [constructorName, codeName, caron, capital, avoid, uncallable]
  · decide +kernel

end BindingNames.Koka
