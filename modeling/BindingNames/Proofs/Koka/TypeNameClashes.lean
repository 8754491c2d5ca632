import BindingNames.Proofs.Koka.TypeName
import BindingNames.Proofs.Rename.KeptNames

/-!
# Clashes of type names

The common beginning is dropped once and only where it is present, so two canonical names can fall
together: one that has it and the other that is what is left. The other must then not have it
itself, or it would lose it too. A rename rule that keeps the name adds no clash of its own.
-/

namespace BindingNames.Koka

/-- The longer name is the shorter one behind this beginning, which the shorter one lacks. -/
structure OnlyAdds (beginning shorter longer : String) : Prop where
  longer_eq : longer = beginning ++ shorter
  lacks : ¬beginning.toList <+: shorter.toList

theorem OnlyAdds.dropBeginning_eq {beginning shorter longer : String}
    (h : OnlyAdds beginning shorter longer) :
    dropBeginning beginning shorter = dropBeginning beginning longer := by
  rw [h.longer_eq, dropBeginning_append, dropBeginning_of_not_starts h.lacks]

/-- Two names lose the beginning to the same rest. -/
theorem dropBeginning_eq_iff {beginning m n : String} :
    dropBeginning beginning m = dropBeginning beginning n ↔
      m = n ∨ OnlyAdds beginning m n ∨ OnlyAdds beginning n m := by
  constructor
  · intro same
    by_cases left : beginning.toList <+: m.toList <;>
      by_cases right : beginning.toList <+: n.toList
    · obtain ⟨a, rfl⟩ := Text.exists_append_of_starts left
      obtain ⟨b, rfl⟩ := Text.exists_append_of_starts right
      rw [dropBeginning_append, dropBeginning_append] at same
      exact .inl (by rw [same])
    · obtain ⟨a, rfl⟩ := Text.exists_append_of_starts left
      rw [dropBeginning_append, dropBeginning_of_not_starts right] at same
      exact .inr (.inr ⟨by rw [same], right⟩)
    · obtain ⟨b, rfl⟩ := Text.exists_append_of_starts right
      rw [dropBeginning_append, dropBeginning_of_not_starts left] at same
      exact .inr (.inl ⟨by rw [same], left⟩)
    · rw [dropBeginning_of_not_starts left, dropBeginning_of_not_starts right] at same
      exact .inl same
  · rintro (rfl | adds | adds)
    · rfl
    · exact adds.dropBeginning_eq
    · exact adds.dropBeginning_eq.symm

namespace Speller

/-- The common beginning falls away from one of two names, and what is left is the other. -/
def Merges (s : Speller) (m n : String) : Prop :=
  ∃ beginning, s.sharedBeginning = some beginning ∧ beginning ≠ "" ∧
    (OnlyAdds beginning m n ∨ OnlyAdds beginning n m)

theorem stripped_eq_iff {s : Speller} {m n : String} :
    s.stripped m = s.stripped n ↔ m = n ∨ s.Merges m n := by
  unfold stripped Merges
  cases given : s.sharedBeginning with
  | none => simp
  | some beginning =>
    -- every name has the empty beginning, so none lacks it
    have filled : ∀ {a b : String}, OnlyAdds beginning a b → beginning ≠ "" := by
      rintro a b adds rfl
      exact adds.lacks (List.nil_prefix)
    simp only [dropBeginning_eq_iff, Option.some.injEq, exists_eq_left']
    constructor
    · rintro (same | adds | adds)
      · exact .inl same
      · exact .inr ⟨filled adds, .inl adds⟩
      · exact .inr ⟨filled adds, .inr adds⟩
    · rintro (same | ⟨-, adds⟩)
      · exact .inl same
      · exact .inr adds

/-- Two types under one rule are called alike exactly if their names are the same, or one of them
is the other behind the common beginning. -/
theorem typeName_clash_iff {s : Speller} {a b : TypeRef} {d e : TypeDecl} {m n : String}
    (left : s.exports.resolve a = .ok d) (right : s.exports.resolve b = .ok e)
    (spelled : s.typeName a = .ok m) (spelled' : s.typeName b = .ok n)
    (ruled : d.entity.rename = e.entity.rename) (keeps : d.entity.rename.KeepsName) :
    m = n ↔ d.entity.name = e.entity.name ∨ s.Merges d.entity.name e.entity.name := by
  have own := typeName_of_mem_all (Exports.mem_all_of_resolve left)
  have other := typeName_of_mem_all (Exports.mem_all_of_resolve right)
  obtain ⟨-, rfl⟩ := nameOf_eq_ok_iff.mp (own.symm.trans spelled)
  obtain ⟨-, rfl⟩ := nameOf_eq_ok_iff.mp (other.symm.trans spelled')
  rw [← ruled, Rename.apply_inj keeps, stripped_eq_iff]

end Speller

/-- A type whose name is repeated in code. -/
def repeated (name : String) : Entity := { name, rename := ⟨some "\x7b0\x7d_or_\x7b0\x7d"⟩ }

/-- Three types under one rule, whose names have the common beginning once, not at all and twice. -/
def nested : Speller where
  exports := { handles := [repeated "FooBar", repeated "Bar", repeated "FooFooBar"] }
  sharedBeginning := some "Foo"

/-- The first two are called alike, and the third loses only one beginning of two. -/
theorem typeName_clash_iff_nested :
    (nested.typeName (.at .handle 0) = .ok "Bar_or_Bar" ∧
      nested.typeName (.at .handle 1) = .ok "Bar_or_Bar" ∧ nested.Merges "FooBar" "Bar") ∧
    nested.typeName (.at .handle 2) = .ok "FooBar_or_FooBar" ∧
      ¬nested.Merges "FooBar" "FooFooBar" := by
  have once : nested.typeName (.at .handle 0) = .ok "Bar_or_Bar" := by decide +kernel
  have never : nested.typeName (.at .handle 1) = .ok "Bar_or_Bar" := by decide +kernel
  have double : nested.typeName (.at .handle 2) = .ok "FooBar_or_FooBar" := by decide +kernel
  have first : nested.exports.resolve (.at .handle 0) = .ok (.handle (repeated "FooBar")) := rfl
  have second : nested.exports.resolve (.at .handle 1) = .ok (.handle (repeated "Bar")) := rfl
  have third : nested.exports.resolve (.at .handle 2) = .ok (.handle (repeated "FooFooBar")) := rfl
  have keeps : (repeated "FooBar").rename.KeepsName := by decide +kernel
  have alike := Speller.typeName_clash_iff first second once never rfl keeps
  have apart := Speller.typeName_clash_iff first third once double rfl keeps
  refine ⟨⟨once, never, ?_⟩, double, fun merges => ?_⟩
  · exact (alike.mp rfl).resolve_left (by decide)
  · exact absurd (apart.mpr (.inr merges)) (by decide)

end BindingNames.Koka
