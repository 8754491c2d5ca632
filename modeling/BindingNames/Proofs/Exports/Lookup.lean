import BindingNames.Proofs.Exports.Listing

/-!
# Looking types up

There are three ways to a type: by a reference, by going through the listing, and by a name. The
listing goes through the kinds and, in each of them, through the positions from the first on. A
reference resolves to what the listing pairs it with and to nothing else, so a position before the
first one is no way to the last; and a name leads to the first type in the listing that has it,
whatever kinds the others with this name have.
-/

namespace BindingNames

/-- Why a reference resolves to nothing: there are no types of its kind, or none at its position. -/
inductive TypeRef.Miss (ref : TypeRef) : NamingError → Prop
  | kind (unknown : ∀ k : ExportKind, ref.kind ≠ k.name) : Miss ref (.unknownKind ref.kind)
  | position {k : ExportKind} (known : ref.kind = k.name) : Miss ref (.unresolved ref)

theorem TypeRef.Miss.unique {ref : TypeRef} {cause other : NamingError} (h : ref.Miss cause)
    (h' : ref.Miss other) : cause = other := by
  cases h with
  | kind unknown =>
    cases h' with
    | kind => rfl
    | position known => exact absurd known (unknown _)
  | position known =>
    cases h' with
    | kind unknown => exact absurd known (unknown _)
    | position => rfl

namespace Exports

variable {x : Exports} {ref : TypeRef} {name : String}

theorem miss_of_resolve {cause : NamingError} (fails : x.resolve ref = .error cause) :
    ref.Miss cause := by
  unfold resolve at fails
  split at fails
  next unknown =>
    obtain rfl := Except.error.inj fails
    refine .kind (fun k same => ?_)
    simp [same] at unknown
  next k known =>
    have missing : cause = .unresolved ref := by
      split at fails
      next natural =>
        split at fails
        next decl found => cases fails
        next missing => exact (Except.error.inj fails).symm
      next negative => exact (Except.error.inj fails).symm
    exact missing ▸ .position (ExportKind.eq_of_ofName? known)

/-- A reference fails exactly if it is not listed, and its kind decides on the error. -/
theorem resolve_eq_error_iff {cause : NamingError} :
    x.resolve ref = .error cause ↔ (∀ d, (ref, d) ∉ x.all) ∧ ref.Miss cause := by
  constructor
  · intro fails
    refine ⟨fun d listed => ?_, miss_of_resolve fails⟩
    simp [resolve_of_mem_all listed] at fails
  · rintro ⟨unlisted, miss⟩
    cases resolved : x.resolve ref with
    | ok d => exact absurd (mem_all_of_resolve resolved) (unlisted d)
    | error other => rw [miss.unique (miss_of_resolve resolved)]

/-- The references to the types of one kind, from the first position on. -/
def refsOf (x : Exports) (k : ExportKind) : List TypeRef :=
  (List.range (x.ofKind k).length).map (.at k)

theorem refs_all_eq_append (x : Exports) :
    x.all.map Prod.fst =
      x.refsOf .struct ++ x.refsOf .outStruct ++ x.refsOf .handle ++ x.refsOf .enum := by
  rw [refs_all]
  simp [ExportKind.all, refsOf]

/-- Every declared type is listed once, also if others are equal to it. -/
theorem decls_all (x : Exports) :
    x.all.map Prod.snd =
      x.structs.map .struct ++ x.outStructs.map .outStruct ++ x.handles.map .handle ++
        x.enums.map .enum := by
  have kindwise : x.all.map Prod.snd = ExportKind.all.flatMap x.ofKind := by
    simp only [all, List.map_flatMap, List.map_map]
    congr 1
    funext k
    exact List.zipIdx_map_fst 0 (x.ofKind k)
  rw [kindwise]
  simp [ExportKind.all, ofKind]

theorem kind_of_mem_all {d : TypeDecl} (h : (ref, d) ∈ x.all) : ref.kind = d.kind.name := by
  obtain ⟨k, i, rfl, found⟩ := mem_all.mp h
  rw [kind_of_mem_ofKind (List.mem_of_getElem? found)]
  rfl

theorem lookup_eq_some_iff :
    x.lookup name = some ref ↔ ∃ before d after, x.all = before ++ (ref, d) :: after ∧
      d.entity.name = name ∧ ∀ earlier ∈ before, earlier.2.entity.name ≠ name := by
  simp only [lookup, Option.map_eq_some_iff, List.find?_eq_some_iff_append]
  constructor
  · rintro ⟨⟨_, d⟩, ⟨named, before, after, parts, others⟩, rfl⟩
    exact ⟨before, d, after, parts, by simpa using named, by simpa using others⟩
  · rintro ⟨before, d, after, parts, named, others⟩
    exact ⟨(ref, d), ⟨by simpa using named, before, after, parts, by simpa using others⟩, rfl⟩

theorem lookup_eq_none_iff :
    x.lookup name = none ↔ ∀ entry ∈ x.all, entry.2.entity.name ≠ name := by
  simp [lookup]

theorem exists_resolve_of_lookup (found : x.lookup name = some ref) :
    ∃ d, x.resolve ref = .ok d ∧ d.entity.name = name := by
  obtain ⟨before, d, after, parts, named, -⟩ := lookup_eq_some_iff.mp found
  exact ⟨d, resolve_of_mem_all (by simp [parts]), named⟩

/-- References, listing and names lead to the same types. The listing has every type once, kind by
kind and in the order of the positions; what it lacks does not resolve; and a name is that of the
first type with it. -/
theorem listing_coherent (x : Exports) :
    (∀ ref d, x.resolve ref = .ok d ↔ (ref, d) ∈ x.all) ∧
    (∀ ref cause, x.resolve ref = .error cause ↔ (∀ d, (ref, d) ∉ x.all) ∧ ref.Miss cause) ∧
    (x.all.map Prod.fst).Nodup ∧
    x.all.map Prod.fst =
      x.refsOf .struct ++ x.refsOf .outStruct ++ x.refsOf .handle ++ x.refsOf .enum ∧
    x.all.map Prod.snd =
      x.structs.map .struct ++ x.outStructs.map .outStruct ++ x.handles.map .handle ++
        x.enums.map .enum ∧
    (∀ entry ∈ x.all, entry.1.kind = entry.2.kind.name) ∧
    (∀ name ref, x.lookup name = some ref ↔ ∃ before d after,
      x.all = before ++ (ref, d) :: after ∧ d.entity.name = name ∧
        ∀ earlier ∈ before, earlier.2.entity.name ≠ name) ∧
    (∀ name, x.lookup name = none ↔ ∀ entry ∈ x.all, entry.2.entity.name ≠ name) ∧
    (∀ name ref, x.lookup name = some ref → ∃ d, x.resolve ref = .ok d ∧ d.entity.name = name) :=
  ⟨fun _ _ => resolve_eq_ok_iff, fun _ _ => resolve_eq_error_iff, x.nodup_refs_all,
    x.refs_all_eq_append, x.decls_all, fun _ listed => kind_of_mem_all listed,
    fun _ _ => lookup_eq_some_iff, fun _ => lookup_eq_none_iff,
    fun _ _ found => exists_resolve_of_lookup found⟩

/-- Types of different kinds that share their names. -/
def namesakes : Exports where
  outStructs := [{ name := "Point" }]
  handles := [{ name := "Shape" }, { name := "Point" }]
  enums := [{ name := "Shape", variants := [{ name := "Round", discriminant := 0 }] }]

/-- A shared name leads to the type of the kind that is listed first. -/
theorem listing_coherent_namesakes :
    (∃ d, namesakes.resolve (.at .outStruct 0) = .ok d ∧ d.entity.name = "Point") ∧
      (TypeRef.at .outStruct 0, TypeDecl.outStruct { name := "Point" }) ∈ namesakes.all ∧
      (TypeRef.at .outStruct 0).kind = (TypeDecl.outStruct { name := "Point" }).kind.name := by
  obtain ⟨resolves, -, -, -, -, kinds, -, -, names⟩ := listing_coherent namesakes
  have listed := (resolves (.at .outStruct 0) (.outStruct { name := "Point" })).mp (by decide)
  exact ⟨names "Point" (.at .outStruct 0) (by decide), listed, kinds _ listed⟩

/-- No position is counted from the end. -/
example : namesakes.resolve ⟨"opaque", -1⟩ = .error (.unresolved ⟨"opaque", -1⟩) := by
  decide

end Exports

end BindingNames
