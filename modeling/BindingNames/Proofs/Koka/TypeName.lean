import BindingNames.Koka.Speller
import BindingNames.Proofs.Exports.Listing
import BindingNames.Proofs.Text.Marks
import BindingNames.Unicode.WordChar

/-!
# Names of exported types

The common beginning is dropped once, so a name ends with what is left of it. A type that is listed
is spelled as it is declared, and only if what is left of its name is not forbidden.
-/

namespace BindingNames.Koka

open Unicode

theorem dropBeginning_append (beginning rest : String) :
    dropBeginning beginning (beginning ++ rest) = rest := by
  have found : beginning.toList.isPrefixOf? (beginning ++ rest).toList = some rest.toList := by
    rw [String.toList_append, List.isPrefixOf?_eq_some_iff_append_eq]
  simp only [dropBeginning, found, String.ofList_toList]

theorem dropBeginning_of_not_starts {beginning name : String}
    (other : ¬beginning.toList <+: name.toList) : dropBeginning beginning name = name := by
  have missing : beginning.toList.isPrefixOf? name.toList = none := by
    rw [← Option.not_isSome_iff_eq_none, List.isSome_isPrefixOf?_eq_isPrefixOf,
      List.isPrefixOf_iff_prefix]
    exact other
  rw [dropBeginning, missing]

theorem dropBeginning_suffix (beginning name : String) :
    (dropBeginning beginning name).toList <:+ name.toList := by
  by_cases starts : beginning.toList <+: name.toList
  · obtain ⟨rest, rfl⟩ := Text.exists_append_of_starts starts
    rw [dropBeginning_append, String.toList_append]
    exact List.suffix_append _ _
  · simp only [dropBeginning_of_not_starts starts, List.suffix_rfl]

/-- No type may be called so in code: it is no name, or that of a core type. -/
def Forbidden (name : String) : Prop := name = "" ∨ name ∈ coreTypes

instance (name : String) : Decidable (Forbidden name) :=
  inferInstanceAs (Decidable (name = "" ∨ name ∈ coreTypes))

namespace Speller

theorem typeName_of_mem_all {s : Speller} {ref : TypeRef} {d : TypeDecl}
    (listed : (ref, d) ∈ s.exports.all) : s.typeName ref = s.nameOf d.entity := by
  simp [typeName, Exports.resolve_of_mem_all listed, bind, Except.bind]

/-- A type can be spelled exactly if a name is left that is not forbidden. -/
theorem nameOf_eq_ok_iff {s : Speller} {e : Entity} {name : String} :
    s.nameOf e = .ok name ↔
      ¬Forbidden (s.stripped e.name) ∧ name = e.rename.apply (s.stripped e.name) := by
  by_cases empty : s.stripped e.name = ""
  · simp [nameOf, Forbidden, empty]
  · by_cases core : s.stripped e.name ∈ coreTypes
    · simp [nameOf, Forbidden, empty, core]
    · simp [nameOf, Forbidden, empty, core, eq_comm]

theorem stripped_suffix (s : Speller) (name : String) :
    (s.stripped name).toList <:+ name.toList := by
  unfold stripped
  split
  next beginning _ => exact dropBeginning_suffix beginning name
  next => exact List.suffix_rfl

theorem chars_stripped {s : Speller} {name : String}
    (chars : ∀ c ∈ name.toList, isWordChar c = true) :
    ∀ c ∈ (s.stripped name).toList, isWordChar c = true :=
  fun c member => chars c ((s.stripped_suffix name).subset member)

end Speller

end BindingNames.Koka
