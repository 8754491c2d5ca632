import BindingNames.Text.Casing

/-!
# Lower case and the low line

Lowering a text loses no character and brings no low line into it. Single characters are settled by
the tables, whose images all lie above the low line; the final sigma is the only character whose
form depends on the text around it.
-/

namespace BindingNames.Unicode

/-- An image is listed for its character, or it is that of the run which holds the character. -/
theorem mapped?_cases {growing : List (Nat × List Nat)} {runs : List CaseRun} {c : Char}
    {images : List Char} (found : mapped? growing runs c = some images) :
    (∃ entry ∈ growing, entry.1 = c.toNat ∧ images = entry.2.map Char.ofNat) ∨
      growing.lookup c.toNat = none ∧
        ∃ run ∈ runs, run.contains c.toNat = true ∧ images = [Char.ofNat (run.image c.toNat)] := by
  unfold mapped? at found
  split at found
  next codes listed =>
    obtain ⟨before, after, parts, -⟩ := List.lookup_eq_some_iff.mp listed
    exact .inl ⟨(c.toNat, codes), by simp [parts], rfl, (Option.some.inj found).symm⟩
  next absent =>
    obtain ⟨code, moved, rfl⟩ := Option.map_eq_some_iff.mp found
    obtain ⟨run, listed, holds, rfl⟩ := moved?_eq_some moved
    exact .inr ⟨absent, run, listed, holds, rfl⟩

theorem toNat_ofNat {n : Nat} (valid : n.isValidChar) : (Char.ofNat n).toNat = n := by
  rw [Char.ofNat, dif_pos valid]
  rfl

theorem ofNat_ne_low_line {n : Nat} (above : 0x5f < n) : Char.ofNat n ≠ '_' := by
  intro same
  by_cases valid : n.isValidChar
  · have code : n = 0x5f := (toNat_ofNat valid).symm.trans (congrArg Char.toNat same)
    omega
  · rw [Char.ofNat, dif_neg valid] at same
    exact absurd same (by decide)

/-- No image is empty unless one is listed so. -/
theorem mapped?_getD_ne_nil {growing : List (Nat × List Nat)} (runs : List CaseRun) (c : Char)
    (filled : ∀ entry ∈ growing, entry.2 ≠ []) : (mapped? growing runs c).getD [c] ≠ [] := by
  cases found : mapped? growing runs c with
  | none => simp
  | some images =>
    rcases mapped?_cases found with ⟨entry, listed, -, rfl⟩ | ⟨-, run, -, -, rfl⟩
    · simpa using filled entry listed
    · simp

theorem lowercase_ne_nil (c : Char) : lowercase c ≠ [] :=
  mapped?_getD_ne_nil lowercaseRuns c (by decide)

theorem low_line_not_mem_lowercase {c : Char} (other : c ≠ '_') : '_' ∉ lowercase c := by
  unfold lowercase
  cases found : mapped? lowercaseGrowing lowercaseRuns c with
  | none => simpa using other.symm
  | some images =>
    have listedAbove : ∀ entry ∈ lowercaseGrowing, ∀ n ∈ entry.2, 0x5f < n := by decide
    have movedAbove : ∀ run ∈ lowercaseRuns, 0x5f < run.target := by decide +kernel
    rcases mapped?_cases found with ⟨entry, listed, -, rfl⟩ | ⟨-, run, listed, -, rfl⟩
    · intro member
      obtain ⟨n, image, same⟩ := List.mem_map.mp member
      exact ofNat_ne_low_line (listedAbove entry listed n image) same
    · have above : 0x5f < run.image c.toNat :=
        Nat.lt_of_lt_of_le (movedAbove run listed) (Nat.le_add_right _ _)
      simpa using (ofNat_ne_low_line above).symm

end BindingNames.Unicode

namespace BindingNames.Text

open Unicode

theorem smallSigma_ne_low_line (before after : List Char) : smallSigma before after ≠ '_' := by
  unfold smallSigma
  split <;> decide

theorem lowerAt_ne_nil (before : List Char) (c : Char) (after : List Char) :
    lowerAt before c after ≠ [] := by
  unfold lowerAt
  split
  next => simp
  next => exact lowercase_ne_nil c

theorem low_line_not_mem_lowerAt {c : Char} (other : c ≠ '_') (before after : List Char) :
    '_' ∉ lowerAt before c after := by
  unfold lowerAt
  split
  next => simpa using (smallSigma_ne_low_line before after).symm
  next => exact low_line_not_mem_lowercase other

/-- Every character of a lowered text comes from one character of the text. -/
theorem mem_lowerFrom {before s : List Char} {d : Char} (h : d ∈ lowerFrom before s) :
    ∃ c ∈ s, ∃ earlier later, d ∈ lowerAt earlier c later := by
  induction s generalizing before with
  | nil => simp [lowerFrom] at h
  | cons c after inductionHypothesis =>
    rcases List.mem_append.mp h with here | further
    · exact ⟨c, List.mem_cons_self, before, after, here⟩
    · obtain ⟨e, member, origin⟩ := inductionHypothesis further
      exact ⟨e, List.mem_cons_of_mem c member, origin⟩

theorem lower_ne_nil {s : List Char} (filled : s ≠ []) : lower s ≠ [] := by
  cases s with
  | nil => exact absurd rfl filled
  | cons c after => simp [lower, lowerFrom, lowerAt_ne_nil]

theorem low_line_not_mem_lower {s : List Char} (absent : '_' ∉ s) : '_' ∉ lower s := by
  intro member
  obtain ⟨c, listed, earlier, later, image⟩ := mem_lowerFrom member
  have other : c ≠ '_' := fun same => absent (same ▸ listed)
  exact low_line_not_mem_lowerAt other earlier later image

end BindingNames.Text
