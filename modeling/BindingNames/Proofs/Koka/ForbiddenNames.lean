import BindingNames.Proofs.Koka.TypeName
import BindingNames.Proofs.Rename.Patterns

/-!
# Forbidden type names

What is left of the name of a type may neither be empty nor shadow a core type, but what its rename
rule then makes of it is not looked at again. So a type without a rule never has a forbidden name,
and one with a rule has it exactly if the rule itself is such a name, or puts around the name what
it lacks to be a core type. Rules that repeat the name are harmless, for no core type repeats a
letter.
-/

namespace BindingNames.Koka

theorem nodup_of_forbidden {name : String} (h : Forbidden name) : name.toList.Nodup := by
  have distinct : ∀ core ∈ coreTypes, core.toList.Nodup := by decide
  rcases h with rfl | core
  · exact List.nodup_nil
  · exact distinct name core

theorem brace_not_mem_of_mem_coreTypes {name : String} (core : name ∈ coreTypes) :
    '\x7b' ∉ name.toList := by
  have plain : ∀ core ∈ coreTypes, '\x7b' ∉ core.toList := by decide
  exact plain name core

theorem brace_not_mem_of_forbidden {name : String} (h : Forbidden name) : '\x7b' ∉ name.toList := by
  rcases h with rfl | core
  · simp
  · exact brace_not_mem_of_mem_coreTypes core

/-- A pattern makes a forbidden name of one that is not, if it is forbidden itself or completes it
to a core type. -/
theorem forbidden_apply_iff {name : String} (free : ¬Forbidden name) (pattern : String) :
    Forbidden (Rename.apply ⟨some pattern⟩ name) ↔ Forbidden pattern ∨
      ∃ before after, pattern = before ++ Rename.placeholder ++ after ∧
        before ++ name ++ after ∈ coreTypes := by
  have filled : name.toList ≠ [] := fun empty => free (.inl (String.toList_eq_nil_iff.mp empty))
  constructor
  · intro forbidden
    rcases Rename.apply_cases pattern name with same | ⟨before, after, wraps, applied⟩ |
      ⟨before, between, after, repeats⟩
    · exact .inl (same ▸ forbidden)
    · rcases applied ▸ forbidden with empty | core
      · have letters := congrArg String.toList empty
        simp [filled] at letters
      · exact .inr ⟨before, after, wraps, core⟩
    · -- the first letter of the name would occur twice
      have distinct := nodup_of_forbidden forbidden
      obtain ⟨c, letters, parts⟩ := List.exists_cons_of_ne_nil filled
      rw [repeats, parts] at distinct
      simp [List.nodup_append] at distinct
  · rintro (forbidden | ⟨before, after, rfl, core⟩)
    · rwa [Rename.apply_of_brace_not_mem (brace_not_mem_of_forbidden forbidden)]
    · have plain := brace_not_mem_of_mem_coreTypes core
      simp only [String.toList_append, List.mem_append, not_or] at plain
      rw [Rename.apply_wrapping plain.1.1 plain.2]
      exact .inr core

namespace Speller

/-- A forbidden name in code is always the work of a rename rule. -/
theorem typeName_forbidden_iff {s : Speller} {ref : TypeRef} {name : String}
    (spelled : s.typeName ref = .ok name) :
    ∃ d, s.exports.resolve ref = .ok d ∧ ¬Forbidden (s.stripped d.entity.name) ∧
      (Forbidden name ↔ ∃ pattern, d.entity.rename.pattern = some pattern ∧
        (Forbidden pattern ∨ ∃ before after, pattern = before ++ Rename.placeholder ++ after ∧
          before ++ s.stripped d.entity.name ++ after ∈ coreTypes)) := by
  cases resolved : s.exports.resolve ref with
  | error cause => simp [typeName, resolved, bind, Except.bind] at spelled
  | ok d =>
    have own := typeName_of_mem_all (Exports.mem_all_of_resolve resolved)
    obtain ⟨free, applied⟩ := nameOf_eq_ok_iff.mp (own.symm.trans spelled)
    refine ⟨d, rfl, free, ?_⟩
    rw [applied]
    obtain ⟨_ | pattern⟩ := d.entity.rename
    · simpa using free
    · simpa using forbidden_apply_iff free pattern

end Speller

/-- Two types with innocent names whose rules are forbidden names, and one that lacks a
beginning. -/
def misruled : Speller where
  exports := { handles := [
    { name := "Text", rename := ⟨some "String"⟩ },
    { name := "Blank", rename := ⟨some ""⟩ },
    { name := "Foo_ect", rename := ⟨some "Obj\x7b0\x7d"⟩ }] }
  sharedBeginning := some "Foo_"

/-- The last type is called like a core type, and its rule is what makes it so. -/
theorem typeName_forbidden_completed :
    misruled.typeName (.at .handle 2) = .ok "Object" ∧ ∃ d,
      misruled.exports.resolve (.at .handle 2) = .ok d ∧
        ∃ pattern, d.entity.rename.pattern = some pattern ∧
          (Forbidden pattern ∨ ∃ before after, pattern = before ++ Rename.placeholder ++ after ∧
            before ++ misruled.stripped d.entity.name ++ after ∈ coreTypes) := by
  have spelled : misruled.typeName (.at .handle 2) = .ok "Object" := by decide +kernel
  obtain ⟨d, resolved, -, forbidden⟩ := Speller.typeName_forbidden_iff spelled
  exact ⟨spelled, d, resolved, forbidden.mp (by decide)⟩

/-- Nothing keeps a rule from naming a type like a core type, or not at all. -/
theorem typeName_forbidden_unnoticed :
    misruled.typeName (.at .handle 0) = .ok "String" ∧ "String" ∈ coreTypes ∧
      misruled.typeName (.at .handle 1) = .ok "" := by
  decide +kernel

end BindingNames.Koka
