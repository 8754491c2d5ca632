import BindingNames.Abi

/-!
# Annotations of exports

Every declared name carries the same annotations: a rule for code, a rule for the binary interface,
and documentation. They can be changed everywhere at once without moving a type, so a reference
resolves to the changed type, and a name stays the same unless it reads what has changed.
-/

namespace BindingNames

/-- What an author adds to a declared name. -/
structure Annotations where
  rename : Rename
  abiRename : Rename
  docs : Documentation

namespace Annotations

/-- Without the rule for code. -/
def unrenamed (a : Annotations) : Annotations := { a with rename := {} }

/-- Without the rule for the binary interface. -/
def forCode (a : Annotations) : Annotations := { a with abiRename := {} }

/-- Without the rule for code and without documentation. -/
def forLinker (a : Annotations) : Annotations := { a with rename := {}, docs := {} }

def KeepsRename (f : Annotations → Annotations) : Prop := ∀ a, (f a).rename = a.rename

def KeepsAbiRename (f : Annotations → Annotations) : Prop := ∀ a, (f a).abiRename = a.abiRename

theorem keepsRename_forCode : KeepsRename forCode := fun _ => rfl

theorem keepsAbiRename_forLinker : KeepsAbiRename forLinker := fun _ => rfl

end Annotations

open Annotations

variable {f : Annotations → Annotations}

def Method.mapAnnotations (f : Annotations → Annotations) (m : Method) : Method :=
  let changed := f ⟨m.rename, m.abiRename, m.docs⟩
  { m with rename := changed.rename, abiRename := changed.abiRename, docs := changed.docs }

def Field.mapAnnotations (f : Annotations → Annotations) (d : Field) : Field :=
  let changed := f ⟨d.rename, d.abiRename, d.docs⟩
  { d with rename := changed.rename, abiRename := changed.abiRename, docs := changed.docs }

def Variant.mapAnnotations (f : Annotations → Annotations) (v : Variant) : Variant :=
  let changed := f ⟨v.rename, v.abiRename, v.docs⟩
  { v with rename := changed.rename, abiRename := changed.abiRename, docs := changed.docs }

/-- Changes the annotations of a type and of its methods. -/
def Entity.mapAnnotations (f : Annotations → Annotations) (e : Entity) : Entity :=
  let changed := f ⟨e.rename, e.abiRename, e.docs⟩
  { e with
    rename := changed.rename, abiRename := changed.abiRename, docs := changed.docs
    methods := e.methods.map (Method.mapAnnotations f) }

def Record.mapAnnotations (f : Annotations → Annotations) (r : Record) : Record :=
  { r with
    toEntity := r.toEntity.mapAnnotations f
    fields := r.fields.map (Field.mapAnnotations f) }

def Enumeration.mapAnnotations (f : Annotations → Annotations) (e : Enumeration) : Enumeration :=
  { e with
    toEntity := e.toEntity.mapAnnotations f
    variants := e.variants.map (Variant.mapAnnotations f) }

namespace Method

@[simp] theorem name_mapAnnotations (m : Method) : (m.mapAnnotations f).name = m.name := rfl

theorem rename_mapAnnotations (keeps : KeepsRename f) (m : Method) :
    (m.mapAnnotations f).rename = m.rename := keeps _

theorem abiRename_mapAnnotations (keeps : KeepsAbiRename f) (m : Method) :
    (m.mapAnnotations f).abiRename = m.abiRename := keeps _

end Method

namespace Entity

@[simp] theorem name_mapAnnotations (e : Entity) : (e.mapAnnotations f).name = e.name := rfl

theorem rename_mapAnnotations (keeps : KeepsRename f) (e : Entity) :
    (e.mapAnnotations f).rename = e.rename := keeps _

theorem abiRename_mapAnnotations (keeps : KeepsAbiRename f) (e : Entity) :
    (e.mapAnnotations f).abiRename = e.abiRename := keeps _

end Entity

namespace TypeDecl

def mapAnnotations (f : Annotations → Annotations) : TypeDecl → TypeDecl
  | struct record => struct (record.mapAnnotations f)
  | outStruct record => outStruct (record.mapAnnotations f)
  | handle entity => handle (entity.mapAnnotations f)
  | enum enumeration => enum (enumeration.mapAnnotations f)

@[simp] theorem entity_mapAnnotations (d : TypeDecl) :
    (d.mapAnnotations f).entity = d.entity.mapAnnotations f := by
  cases d <;> rfl

end TypeDecl

namespace Exports

def mapAnnotations (f : Annotations → Annotations) (x : Exports) : Exports where
  structs := x.structs.map (Record.mapAnnotations f)
  outStructs := x.outStructs.map (Record.mapAnnotations f)
  handles := x.handles.map (Entity.mapAnnotations f)
  enums := x.enums.map (Enumeration.mapAnnotations f)

theorem ofKind_mapAnnotations (x : Exports) (k : ExportKind) :
    (x.mapAnnotations f).ofKind k = (x.ofKind k).map (TypeDecl.mapAnnotations f) := by
  cases k <;> simp [ofKind, mapAnnotations, TypeDecl.mapAnnotations]

theorem resolve_mapAnnotations (x : Exports) (ref : TypeRef) :
    (x.mapAnnotations f).resolve ref = (x.resolve ref).map (TypeDecl.mapAnnotations f) := by
  unfold resolve
  cases ExportKind.ofName? ref.kind with
  | none => rfl
  | some kind =>
    by_cases natural : 0 ≤ ref.index
    · simp only [natural, if_true, ofKind_mapAnnotations, List.getElem?_map]
      cases (x.ofKind kind)[ref.index.toNat]? <;> rfl
    · simp only [natural, if_false]
      rfl

/-- Whatever is read off a resolved type is read off the changed type. -/
theorem resolve_mapAnnotations_bind {α : Type} (x : Exports) (ref : TypeRef)
    (next : TypeDecl → Except NamingError α) :
    (x.mapAnnotations f).resolve ref >>= next =
      x.resolve ref >>= fun d => next (d.mapAnnotations f) := by
  rw [resolve_mapAnnotations]
  cases x.resolve ref <;> rfl

theorem all_mapAnnotations (x : Exports) :
    (x.mapAnnotations f).all = x.all.map (Prod.map id (TypeDecl.mapAnnotations f)) := by
  simp only [all, List.map_flatMap, List.map_map, ofKind_mapAnnotations, List.zipIdx_map]
  rfl

/-- The same types and members, none of which has another name in code. -/
def unrenamed (x : Exports) : Exports := x.mapAnnotations Annotations.unrenamed

theorem isEmpty_rename_of_mem_unrenamed {x : Exports} {ref : TypeRef} {d : TypeDecl}
    (h : (ref, d) ∈ x.unrenamed.all) : d.entity.rename.isEmpty = true := by
  rw [unrenamed, all_mapAnnotations] at h
  obtain ⟨⟨original, declared⟩, -, same⟩ := List.mem_map.mp h
  obtain ⟨-, rfl⟩ := Prod.mk.inj same
  rw [TypeDecl.entity_mapAnnotations]
  rfl

theorem canonicalName_mapAnnotations (x : Exports) (ref : TypeRef) :
    (x.mapAnnotations f).canonicalName ref = x.canonicalName ref := by
  simp only [canonicalName, resolve_mapAnnotations_bind, TypeDecl.entity_mapAnnotations,
    Entity.name_mapAnnotations]

theorem abiName_mapAnnotations (keeps : KeepsAbiRename f) (x : Exports) (ref : TypeRef) :
    (x.mapAnnotations f).abiName ref = x.abiName ref := by
  simp only [abiName, resolve_mapAnnotations_bind, TypeDecl.entity_mapAnnotations,
    Entity.name_mapAnnotations, Entity.abiRename_mapAnnotations keeps]

theorem destructor_mapAnnotations (keeps : KeepsAbiRename f) (x : Exports) (ref : TypeRef) :
    (x.mapAnnotations f).destructor ref = x.destructor ref := by
  rw [destructor, abiName_mapAnnotations keeps, destructor]

theorem symbol_mapAnnotations (keeps : KeepsAbiRename f) (x : Exports) (ref : TypeRef)
    (m : Method) : (x.mapAnnotations f).symbol ref (m.mapAnnotations f) = x.symbol ref m := by
  rw [symbol, abiName_mapAnnotations keeps, Method.abiRename_mapAnnotations keeps,
    Method.name_mapAnnotations, symbol]

end Exports

end BindingNames
