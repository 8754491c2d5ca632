import BindingNames.Proofs.Exports.Listing

/-!
# Exports with one rule less

One type loses its rule for code, and everything else stays in its place. If no other type has such
a rule, none is left.
-/

namespace BindingNames

def Entity.withoutRule (e : Entity) : Entity := { e with rename := {} }

def Record.withoutRule (r : Record) : Record := { r with toEntity := r.toEntity.withoutRule }

def Enumeration.withoutRule (e : Enumeration) : Enumeration :=
  { e with toEntity := e.toEntity.withoutRule }

namespace TypeDecl

def withoutRule : TypeDecl → TypeDecl
  | struct record => struct record.withoutRule
  | outStruct record => outStruct record.withoutRule
  | handle entity => handle entity.withoutRule
  | enum enumeration => enum enumeration.withoutRule

@[simp] theorem entity_withoutRule (d : TypeDecl) :
    d.withoutRule.entity = d.entity.withoutRule := by
  cases d <;> rfl

end TypeDecl

namespace Exports

/-- The same types, of which the one at a position of a kind has no rule. -/
def withoutRule (x : Exports) (k : ExportKind) (i : Nat) : Exports :=
  match k with
  | .struct => { x with structs := x.structs.modify i Record.withoutRule }
  | .outStruct => { x with outStructs := x.outStructs.modify i Record.withoutRule }
  | .handle => { x with handles := x.handles.modify i Entity.withoutRule }
  | .enum => { x with enums := x.enums.modify i Enumeration.withoutRule }

theorem getElem?_ofKind_withoutRule (x : Exports) (k l : ExportKind) (i j : Nat) :
    ((x.withoutRule k i).ofKind l)[j]? =
      ((x.ofKind l)[j]?).map (fun d => if l = k ∧ j = i then d.withoutRule else d) := by
  by_cases here : j = i
  · subst here
    cases k <;> cases l <;> simp [ofKind, withoutRule, TypeDecl.withoutRule, Function.comp_def]
  · have elsewhere : i ≠ j := Ne.symm here
    cases k <;> cases l <;>
      simp [ofKind, withoutRule, Function.comp_def, here, elsewhere]

/-- Only the type that loses its rule had one. -/
theorem isEmpty_rename_of_mem_withoutRule {x : Exports} {k : ExportKind} {i : Nat}
    (only : ∀ entry ∈ x.all, entry.1 ≠ .at k i → entry.2.entity.rename.isEmpty = true)
    {ref : TypeRef} {d : TypeDecl} (h : (ref, d) ∈ (x.withoutRule k i).all) :
    d.entity.rename.isEmpty = true := by
  obtain ⟨l, j, rfl, found⟩ := mem_all.mp h
  rw [getElem?_ofKind_withoutRule] at found
  obtain ⟨original, listed, rfl⟩ := Option.map_eq_some_iff.mp found
  by_cases own : l = k ∧ j = i
  · rw [if_pos own, TypeDecl.entity_withoutRule]
    rfl
  · rw [if_neg own]
    refine only (.at l j, original) (mem_all.mpr ⟨l, j, rfl, listed⟩) ?_
    exact fun same => own (TypeRef.at_inj.mp same)

end Exports

end BindingNames
