import BindingNames.Entity

/-!
# Exported types

The types of each kind are listed in the order of their declaration. A reference resolves to the
type at its position, and all types are listed with the references that resolve to them.
-/

namespace BindingNames

structure Exports where
  structs : List Record := []
  outStructs : List Record := []
  handles : List Entity := []
  enums : List Enumeration := []
  deriving DecidableEq

namespace Exports

/-- The types of one kind. -/
def ofKind (x : Exports) : ExportKind → List TypeDecl
  | .struct => x.structs.map .struct
  | .outStruct => x.outStructs.map .outStruct
  | .handle => x.handles.map .handle
  | .enum => x.enums.map .enum

theorem kind_of_mem_ofKind {x : Exports} {k : ExportKind} {d : TypeDecl} (h : d ∈ x.ofKind k) :
    d.kind = k := by
  cases k <;> obtain ⟨_, _, rfl⟩ := List.mem_map.mp h <;> rfl

def resolve (x : Exports) (ref : TypeRef) : Except NamingError TypeDecl :=
  match ExportKind.ofName? ref.kind with
  | none => .error (.unknownKind ref.kind)
  | some kind =>
    if 0 ≤ ref.index then
      match (x.ofKind kind)[ref.index.toNat]? with
      | some decl => .ok decl
      | none => .error (.unresolved ref)
    else .error (.unresolved ref)

/-- All types with their references, kind by kind. -/
def all (x : Exports) : List (TypeRef × TypeDecl) :=
  ExportKind.all.flatMap (fun k => (x.ofKind k).zipIdx.map (fun (d, i) => (.at k i, d)))

theorem mem_all {x : Exports} {ref : TypeRef} {d : TypeDecl} :
    (ref, d) ∈ x.all ↔ ∃ k i, ref = .at k i ∧ (x.ofKind k)[i]? = some d := by
  simp only [all, List.mem_flatMap, List.mem_map, Prod.mk.injEq]
  constructor
  · rintro ⟨k, _, ⟨e, i⟩, member, rfl, rfl⟩
    exact ⟨k, i, rfl, List.mem_zipIdx_iff_getElem?.mp member⟩
  · rintro ⟨k, i, rfl, found⟩
    exact ⟨k, ExportKind.mem_all k, (d, i), List.mem_zipIdx_iff_getElem?.mpr found, rfl, rfl⟩

/-- The first type with this canonical name. -/
def lookup (x : Exports) (name : String) : Option TypeRef :=
  (x.all.find? (fun entry => entry.2.entity.name == name)).map (·.1)

theorem resolve_at (x : Exports) (k : ExportKind) (i : Nat) :
    x.resolve (.at k i) =
      match (x.ofKind k)[i]? with
      | some d => .ok d
      | none => .error (.unresolved (.at k i)) := by
  simp [resolve, TypeRef.at]

end Exports

end BindingNames
