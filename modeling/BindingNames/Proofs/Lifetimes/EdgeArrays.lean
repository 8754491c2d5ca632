import BindingNames.Lifetimes
import Mathlib

/-!
# Clashes of edge arrays

An edge array is named after its lifetime. The name of an anonymous one is made from the index it is
asked for by, in decimal, so two of these never have one name, and an anonymous lifetime is called
otherwise if it is counted from the end. A declared lifetime is called the same from both sides, but
its name is free and may be one that an anonymous lifetime is given.
-/

namespace BindingNames.Lifetimes

/-- The index counts from the first lifetime on, or back from behind the last one. -/
def InRange (l : Lifetimes) (index : Int) : Prop :=
  -(l.names.length : Int) ≤ index ∧ index < l.names.length

def DeclaredAs (l : Lifetimes) (i : Nat) (name : String) : Prop := l.names[i]? = some (some name)

def IsAnonymous (l : Lifetimes) (i : Nat) : Prop := l.names[i]? = some none

/-- The second lifetime is declared with the name that the first one is given. -/
def Imitated (l : Lifetimes) (i j : Nat) : Prop :=
  l.IsAnonymous i ∧ l.DeclaredAs j ("anon_" ++ toString i)

variable {l : Lifetimes} {index : Int}

theorem anonymous_natCast (i : Nat) : anonymous i = "anon_" ++ toString i := rfl

theorem anonymous_inj {i j : Int} : anonymous i = anonymous j ↔ i = j := by
  rw [anonymous, anonymous, String.append_right_inj, Int.toString_eq_repr, Int.toString_eq_repr,
    Int.repr_inj]

theorem position?_eq_none_iff : position? l.names.length index = none ↔ ¬l.InRange index := by
  unfold position? InRange
  split
  · split <;> simp <;> omega
  · split <;> simp <;> omega

theorem position?_lt {length i : Nat} (found : position? length index = some i) : i < length := by
  unfold position? at found
  split at found
  · split at found <;> simp at found; omega
  · split at found <;> simp at found; omega

/-- Counted back from behind the last lifetime, every one is counted from the first on too. -/
theorem position?_of_neg {length : Nat} (ranged : -(length : Int) ≤ index) (negative : index < 0) :
    position? length index = some (index + length).toNat := by
  unfold position?
  rw [if_neg (by omega), if_pos (by omega)]

theorem declared_or_anonymous {i : Nat} (listed : i < l.names.length) :
    (∃ name, l.DeclaredAs i name) ∨ l.IsAnonymous i := by
  unfold DeclaredAs IsAnonymous
  rw [List.getElem?_eq_getElem listed]
  cases l.names[i] <;> simp

theorem DeclaredAs.declaredAs_iff {i : Nat} {declared name : String}
    (h : l.DeclaredAs i declared) : l.DeclaredAs i name ↔ declared = name := by
  unfold DeclaredAs at *
  simp [h]

theorem DeclaredAs.not_isAnonymous {i : Nat} {declared : String} (h : l.DeclaredAs i declared) :
    ¬l.IsAnonymous i := by
  unfold DeclaredAs at h
  simp [IsAnonymous, h]

theorem IsAnonymous.not_declaredAs {i : Nat} (h : l.IsAnonymous i) (name : String) :
    ¬l.DeclaredAs i name :=
  fun declared => declared.not_isAnonymous h

theorem DeclaredAs.name_eq {i : Nat} {declared : String} (h : l.DeclaredAs i declared)
    (found : position? l.names.length index = some i) : l.name index = .ok declared := by
  unfold DeclaredAs at h
  simp [name, found, h]

/-- The index, not the position that it leads to, enters the name. -/
theorem IsAnonymous.name_eq {i : Nat} (h : l.IsAnonymous i)
    (found : position? l.names.length index = some i) :
    l.name index = .ok (anonymous index) := by
  unfold IsAnonymous at h
  simp [name, found, h]

theorem name_eq_error_iff {cause : NamingError} :
    l.name index = .error cause ↔ cause = .lifetimeOutOfRange index ∧ ¬l.InRange index := by
  rw [← position?_eq_none_iff]
  cases found : position? l.names.length index with
  | none => simp [name, found, eq_comm]
  | some i =>
    rcases declared_or_anonymous (position?_lt found) with ⟨declared, entry⟩ | entry
    · simp [entry.name_eq found]
    · simp [entry.name_eq found]

theorem edgeArray_eq_iff {i j : Int} : l.edgeArray i = l.edgeArray j ↔ l.name i = l.name j :=
  map_eq_map_iff (String.append_left_inj "Edges")

/-- From the first lifetime on, two of them have one edge array if they are declared alike, or one
is declared with the name that the other one is given. -/
theorem edgeArray_natCast_iff {i j : Nat} (first : i < l.names.length)
    (second : j < l.names.length) (other : i ≠ j) :
    l.edgeArray i = l.edgeArray j ↔
      (∃ name, l.DeclaredAs i name ∧ l.DeclaredAs j name) ∨ l.Imitated i j ∨ l.Imitated j i := by
  have left := position?_natCast first
  have right := position?_natCast second
  rw [edgeArray_eq_iff]
  rcases declared_or_anonymous first with ⟨m, entry⟩ | entry
  · rcases declared_or_anonymous second with ⟨n, entry'⟩ | entry'
    · rw [entry.name_eq left, entry'.name_eq right]
      simp [Imitated, entry.declaredAs_iff, entry'.declaredAs_iff, entry.not_isAnonymous,
        entry'.not_isAnonymous, eq_comm]
    · rw [entry.name_eq left, entry'.name_eq right, anonymous_natCast]
      simp [Imitated, entry.declaredAs_iff, entry'.not_declaredAs, entry.not_isAnonymous, entry']
  · rcases declared_or_anonymous second with ⟨n, entry'⟩ | entry'
    · rw [entry.name_eq left, entry'.name_eq right, anonymous_natCast]
      simp [Imitated, entry, entry'.declaredAs_iff, entry.not_declaredAs, entry'.not_isAnonymous,
        eq_comm]
    · rw [entry.name_eq left, entry'.name_eq right, Except.ok.injEq, anonymous_inj]
      simp [Imitated, entry.not_declaredAs, entry'.not_declaredAs, other]

/-- Counted back from behind the last one, a lifetime keeps its edge array just if it is declared. -/
theorem edgeArray_of_neg_iff (ranged : -(l.names.length : Int) ≤ index) (negative : index < 0) :
    l.edgeArray index = l.edgeArray (index + l.names.length) ↔
      ∃ name, l.DeclaredAs (index + l.names.length).toNat name := by
  have back := position?_of_neg ranged negative
  have listed := position?_lt back
  have on : position? l.names.length (index + l.names.length) =
      some (index + l.names.length).toNat := by
    rw [← position?_natCast listed, Int.toNat_of_nonneg (by omega)]
  rw [edgeArray_eq_iff]
  rcases declared_or_anonymous listed with ⟨declared, entry⟩ | entry
  · rw [entry.name_eq back, entry.name_eq on]
    simp [entry.declaredAs_iff]
  · -- the names are made from two indices that lead to one lifetime
    rw [entry.name_eq back, entry.name_eq on, Except.ok.injEq, anonymous_inj]
    simp only [entry.not_declaredAs, exists_false, iff_false]
    omega

/-- Which indices have an edge array, and which of these share one. -/
theorem edgeArray_clash_iff (l : Lifetimes) :
    (∀ index cause, l.edgeArray index = .error cause ↔
      cause = .lifetimeOutOfRange index ∧ ¬l.InRange index) ∧
    (∀ i j : Nat, i < l.names.length → j < l.names.length → i ≠ j →
      (l.edgeArray i = l.edgeArray j ↔
        (∃ name, l.DeclaredAs i name ∧ l.DeclaredAs j name) ∨
          l.Imitated i j ∨ l.Imitated j i)) ∧
    (∀ index : Int, -(l.names.length : Int) ≤ index → index < 0 →
      (l.edgeArray index = l.edgeArray (index + l.names.length) ↔
        ∃ name, l.DeclaredAs (index + l.names.length).toNat name)) := by
  refine ⟨fun index cause => ?_, fun i j first second other => ?_, fun index ranged negative => ?_⟩
  · exact map_eq_error_iff.trans name_eq_error_iff
  · exact edgeArray_natCast_iff first second other
  · exact edgeArray_of_neg_iff ranged negative

/-- An anonymous lifetime, one declared with the name that it is given, and one declared freely. -/
def imitating : Lifetimes := ⟨[none, some "anon_0", some "a"]⟩

/-- The first two share an edge array. Counted from the end, the second one keeps it and the first
one does not. -/
theorem edgeArray_clash_iff_imitating :
    imitating.edgeArray 0 = imitating.edgeArray 1 ∧
      imitating.edgeArray 1 ≠ imitating.edgeArray 2 ∧
      imitating.edgeArray (-2) = imitating.edgeArray 1 ∧
      imitating.edgeArray (-3) ≠ imitating.edgeArray 0 := by
  obtain ⟨-, forth, back⟩ := edgeArray_clash_iff imitating
  have anonymous : imitating.IsAnonymous 0 := rfl
  have imitator : imitating.DeclaredAs 1 "anon_0" := rfl
  have free : imitating.DeclaredAs 2 "a" := rfl
  refine ⟨?_, fun same => ?_, ?_, fun same => ?_⟩
  · exact (forth 0 1 (by decide) (by decide) (by decide)).mpr (.inr (.inl ⟨anonymous, imitator⟩))
  · rcases (forth 1 2 (by decide) (by decide) (by decide)).mp same with
      ⟨name, first, second⟩ | ⟨first, -⟩ | ⟨second, -⟩
    · rw [imitator.declaredAs_iff] at first
      rw [free.declaredAs_iff] at second
      exact absurd (first.trans second.symm) (by decide)
    · exact imitator.not_isAnonymous first
    · exact free.not_isAnonymous second
  · exact (back (-2) (by decide) (by decide)).mpr ⟨"anon_0", imitator⟩
  · obtain ⟨name, declared⟩ := (back (-3) (by decide) (by decide)).mp same
    exact anonymous.not_declaredAs name declared

end BindingNames.Lifetimes
