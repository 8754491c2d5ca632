/-!
# Ranges of code points

Unicode properties are lists of ranges in increasing order. Scripts that alternate capital and
small letters are covered by a stride of two; a case mapping moves a whole stride by one offset.
-/

namespace BindingNames.Unicode

/-- The code points from `first` to `last`, both included. -/
structure CodeRange where
  first : Nat
  last : Nat
  deriving DecidableEq

def CodeRange.contains (r : CodeRange) (n : Nat) : Bool :=
  decide (r.first ≤ n) && decide (n ≤ r.last)

@[simp] theorem CodeRange.contains_iff {r : CodeRange} {n : Nat} :
    r.contains n = true ↔ r.first ≤ n ∧ n ≤ r.last := by
  simp [CodeRange.contains]

def covers (rs : List CodeRange) (c : Char) : Bool :=
  rs.any (fun r => r.contains c.toNat)

theorem covers_iff {rs : List CodeRange} {c : Char} :
    covers rs c = true ↔ ∃ r ∈ rs, r.first ≤ c.toNat ∧ c.toNat ≤ r.last := by
  simp [covers]

/-- Every `step`-th code point from `first` to `last`. -/
structure Stride where
  first : Nat
  last : Nat
  step : Nat
  deriving DecidableEq

def Stride.contains (s : Stride) (n : Nat) : Bool :=
  decide (s.first ≤ n) && decide (n ≤ s.last) && (n - s.first) % s.step == 0

@[simp] theorem Stride.contains_iff {s : Stride} {n : Nat} :
    s.contains n = true ↔ (s.first ≤ n ∧ n ≤ s.last) ∧ (n - s.first) % s.step = 0 := by
  simp [Stride.contains]

def meets (ss : List Stride) (c : Char) : Bool :=
  ss.any (fun s => s.contains c.toNat)

/-- A stride whose members all move by the offset that takes `first` to `target`. -/
structure CaseRun extends Stride where
  target : Nat
  deriving DecidableEq

/-- The image of a member of the run. -/
def CaseRun.image (r : CaseRun) (n : Nat) : Nat := r.target + (n - r.first)

/-- The image of `n` under the first run that holds it. -/
def moved? (rs : List CaseRun) (n : Nat) : Option Nat :=
  (rs.find? (fun r => r.contains n)).map (fun r => r.image n)

theorem moved?_eq_some {rs : List CaseRun} {n m : Nat} (h : moved? rs n = some m) :
    ∃ r ∈ rs, r.contains n = true ∧ r.image n = m := by
  obtain ⟨r, found, image⟩ := Option.map_eq_some_iff.mp h
  exact ⟨r, List.mem_of_find?_eq_some found, by simpa using List.find?_some found, image⟩

end BindingNames.Unicode
