import BindingNames.Exports
import Mathlib.Data.List.Nodup

/-!
# The listing of exported types

A reference resolves to a type exactly if the listing pairs the two, and no reference is listed
twice. Hence the types listed after a given one are well determined.
-/

namespace BindingNames

theorem ExportKind.eq_of_ofName? {text : String} {k : ExportKind}
    (found : ExportKind.ofName? text = some k) : text = k.name := by
  unfold ExportKind.ofName? at found
  have same := List.find?_some found
  exact (eq_of_beq same).symm

theorem TypeRef.at_inj {k l : ExportKind} {i j : Nat} :
    TypeRef.at k i = TypeRef.at l j ↔ k = l ∧ i = j := by
  constructor
  · intro same
    obtain ⟨kinds, positions⟩ := TypeRef.mk.inj same
    refine ⟨?_, Int.ofNat.inj positions⟩
    have names := congrArg ExportKind.ofName? kinds
    simpa using names
  · rintro ⟨rfl, rfl⟩
    rfl

namespace Exports

theorem resolve_of_mem_all {x : Exports} {ref : TypeRef} {d : TypeDecl} (h : (ref, d) ∈ x.all) :
    x.resolve ref = .ok d := by
  obtain ⟨k, i, rfl, found⟩ := mem_all.mp h
  rw [resolve_at, found]

theorem mem_all_of_resolve {x : Exports} {ref : TypeRef} {d : TypeDecl}
    (h : x.resolve ref = .ok d) : (ref, d) ∈ x.all := by
  obtain ⟨kind, index⟩ := ref
  unfold resolve at h
  split at h
  next unknown => simp at h
  next k known =>
    split at h
    next natural =>
      split at h
      next decl found =>
        cases h
        refine mem_all.mpr ⟨k, index.toNat, ?_, found⟩
        simp only [TypeRef.at, TypeRef.mk.injEq]
        exact ⟨ExportKind.eq_of_ofName? known, (Int.toNat_of_nonneg natural).symm⟩
      next missing => simp at h
    next negative => simp at h

theorem resolve_eq_ok_iff {x : Exports} {ref : TypeRef} {d : TypeDecl} :
    x.resolve ref = .ok d ↔ (ref, d) ∈ x.all :=
  ⟨mem_all_of_resolve, resolve_of_mem_all⟩

theorem decl_unique {x : Exports} {ref : TypeRef} {d e : TypeDecl} (first : (ref, d) ∈ x.all)
    (second : (ref, e) ∈ x.all) : d = e :=
  Except.ok.inj ((resolve_of_mem_all first).symm.trans (resolve_of_mem_all second))

theorem refs_all (x : Exports) :
    x.all.map Prod.fst =
      ExportKind.all.flatMap (fun k => (List.range (x.ofKind k).length).map (.at k)) := by
  simp only [all, List.map_flatMap, List.map_map, List.range_eq_range']
  congr 1
  funext k
  rw [← List.zipIdx_map_snd, List.map_map]
  rfl

theorem nodup_refs_all (x : Exports) : (x.all.map Prod.fst).Nodup := by
  rw [refs_all, List.nodup_flatMap]
  constructor
  · intro k _
    exact List.nodup_range.map (fun i j same => (TypeRef.at_inj.mp same).2)
  · have kinds : ExportKind.all.Nodup := by decide
    refine kinds.imp (fun {k l} other => ?_)
    rintro ref left right
    obtain ⟨i, -, rfl⟩ := List.mem_map.mp left
    obtain ⟨j, -, same⟩ := List.mem_map.mp right
    exact other (TypeRef.at_inj.mp same).1.symm

/-- The types that come later in the listing than the one with this reference. -/
def listedAfter (x : Exports) (ref : TypeRef) : List (TypeRef × TypeDecl) :=
  (x.all.dropWhile (fun entry => entry.1 ≠ ref)).tail

theorem all_eq_append_listedAfter {x : Exports} {ref : TypeRef} {d : TypeDecl}
    (h : (ref, d) ∈ x.all) :
    ∃ before, x.all = before ++ (ref, d) :: x.listedAfter ref ∧
      ∀ entry ∈ before, entry.1 ≠ ref := by
  obtain ⟨before, after, parts⟩ := List.append_of_mem h
  have others : ∀ entry ∈ before, entry.1 ≠ ref := by
    have distinct := x.nodup_refs_all
    rw [parts, List.map_append, List.nodup_append] at distinct
    intro entry member
    exact distinct.2.2 entry.1 (List.mem_map_of_mem member) ref (by simp)
  refine ⟨before, ?_, others⟩
  rw [listedAfter, parts, List.dropWhile_append_of_pos (by simpa using others)]
  simp

end Exports

end BindingNames
