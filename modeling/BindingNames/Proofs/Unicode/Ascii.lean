import BindingNames.Text.Casing
import BindingNames.Unicode.Digit
import BindingNames.Unicode.WordChar
import Mathlib

/-!
# ASCII

In ASCII the letters are those of the English alphabet, each of them has one small and one capital
form, and no form depends on the text around it. This is read off the tables once, code by code,
from the few ranges that begin in ASCII; casing a text is then casing its characters.
-/

namespace BindingNames.Unicode

variable {α : Type} {c : Char}

/-- The ranges of a table that begin in ASCII. -/
def inAscii (first : α → Nat) (table : List α) : List α :=
  table.filter (fun entry => decide (first entry < 128))

/-- A test that fails on all ranges which begin later need not be made on them. -/
theorem inAscii_test {first : α → Nat} {test : α → Bool}
    (begins : ∀ entry, test entry = true → first entry < 128) :
    (fun entry => decide (first entry < 128) && test entry) = test := by
  funext entry
  cases holds : test entry with
  | false => simp
  | true => simp [begins entry holds]

theorem covers_inAscii (ascii : c.toNat < 128) (rs : List CodeRange) :
    covers rs c = covers (inAscii CodeRange.first rs) c := by
  rw [covers, covers, inAscii, List.any_filter, inAscii_test]
  exact fun r holds => Nat.lt_of_le_of_lt (CodeRange.contains_iff.mp holds).1 ascii

theorem meets_inAscii (ascii : c.toNat < 128) (ss : List Stride) :
    meets ss c = meets (inAscii Stride.first ss) c := by
  rw [meets, meets, inAscii, List.any_filter, inAscii_test]
  exact fun s holds => Nat.lt_of_le_of_lt (Stride.contains_iff.mp holds).1.1 ascii

theorem moved?_inAscii {n : Nat} (ascii : n < 128) (runs : List CaseRun) :
    moved? runs n = moved? (inAscii (·.first) runs) n := by
  simp only [moved?, inAscii, List.find?_filter, Bool.decide_and, Bool.decide_eq_true]
  rw [inAscii_test]
  exact fun run holds => Nat.lt_of_le_of_lt (Stride.contains_iff.mp holds).1.1 ascii

/-- No character of ASCII grows. -/
theorem mapped?_inAscii (ascii : c.toNat < 128) {growing : List (Nat × List Nat)}
    (later : ∀ entry ∈ growing, 128 ≤ entry.1) (runs : List CaseRun) :
    mapped? growing runs c =
      (moved? (inAscii (·.first) runs) c.toNat).map (fun n => [Char.ofNat n]) := by
  have unlisted : growing.lookup c.toNat = none := by
    rw [List.lookup_eq_none_iff]
    intro entry listed
    have above := later entry listed
    simpa using (by omega : c.toNat ≠ entry.1)
  rw [mapped?, unlisted, moved?_inAscii ascii]

theorem ascii_tables : ∀ n < 128, let c := Char.ofNat n
    covers (inAscii CodeRange.first alphanumerics) c = c.isAlphanum ∧
    meets (inAscii Stride.first capitals) c = c.isUpper ∧
    meets (inAscii Stride.first smalls) c = c.isLower ∧
    covers (inAscii CodeRange.first digits) c = c.isDigit ∧
    ((moved? (inAscii (·.first) lowercaseRuns) c.toNat).map Char.ofNat).getD c = c.toLower ∧
    ((moved? (inAscii (·.first) uppercaseRuns) c.toNat).map Char.ofNat).getD c = c.toUpper := by
  decide +kernel

/-- The properties of a character and its forms are those it has in ASCII. -/
structure IsPlain (c : Char) : Prop where
  alphanumeric : isAlphanumeric c = c.isAlphanum
  upper : isUpper c = c.isUpper
  lower : isLower c = c.isLower
  digit : isDigit c = c.isDigit
  smallForm : lowercase c = [c.toLower]
  capitalForm : titlecase c = [c.toUpper]
  noSigma : c ≠ '\u03a3'

/-- No character of ASCII has a titlecase of its own. -/
theorem titlecase_of_ascii (ascii : c.toNat < 128) : titlecase c = uppercase c := by
  have title : mapped? titlecaseGrowing titlecaseRuns c = none := by
    rw [mapped?_inAscii ascii (by decide)]
    rfl
  rw [titlecase, title, Option.getD_none]

theorem isPlain_of_ascii (ascii : c.toNat < 128) : IsPlain c := by
  have tables := ascii_tables c.toNat ascii
  simp only [Char.ofNat_toNat] at tables
  obtain ⟨alphanumeric, upper, lower, digit, small, capital⟩ := tables
  have single (image : Option Nat) : (image.map (fun n => [Char.ofNat n])).getD [c] =
      [(image.map Char.ofNat).getD c] := by
    cases image <;> rfl
  constructor
  · rw [isAlphanumeric, covers_inAscii ascii, alphanumeric]
  · rw [isUpper, meets_inAscii ascii, upper]
  · rw [isLower, meets_inAscii ascii, lower]
  · rw [isDigit, covers_inAscii ascii, digit]
  · rw [lowercase, mapped?_inAscii ascii (by decide), single, small]
  · rw [titlecase_of_ascii ascii, uppercase, mapped?_inAscii ascii (by decide), single, capital]
  · rintro rfl
    exact absurd ascii (by decide)

theorem ascii_of_isAlphanum (h : c.isAlphanum = true) : c.toNat < 128 := by
  simp only [Char.isAlphanum, Char.isAlpha, Char.isUpper, Char.isLower, Char.isDigit,
    Bool.or_eq_true, Bool.and_eq_true, decide_eq_true_eq, UInt32.le_iff_toNat_le, ge_iff_le,
    Char.toNat_val, Char.reduceVal, UInt32.reduceToNat] at h
  omega

theorem not_isDigit_of_isAlpha (h : c.isAlpha = true) : ¬c.isDigit := by
  simp only [Char.isAlpha, Char.isUpper, Char.isLower, Char.isDigit,
    Bool.or_eq_true, Bool.and_eq_true, decide_eq_true_eq, UInt32.le_iff_toNat_le, ge_iff_le,
    Char.toNat_val, Char.reduceVal, UInt32.reduceToNat] at h ⊢
  omega

theorem toUpper_eq_toLower_iff : c.toUpper = c.toLower ↔ c.isAlpha = false := by
  constructor
  · intro same
    rw [← Char.isUpper_toUpper_eq_isAlpha, same, Char.isUpper_toLower_eq_false]
  · intro other
    obtain ⟨noCapital, noSmall⟩ := Bool.or_eq_false_iff.mp other
    rw [Char.toUpper_eq_of_not_isLower (by simp [noSmall]),
      Char.toLower_eq_of_not_isUpper (by simp [noCapital])]

theorem ascii_forms (ascii : c.toNat < 128) : c.toLower.toNat < 128 ∧ c.toUpper.toNat < 128 := by
  have checked : ∀ n < 128,
      (Char.ofNat n).toLower.toNat < 128 ∧ (Char.ofNat n).toUpper.toNat < 128 := by
    decide +kernel
  simpa only [Char.ofNat_toNat] using checked c.toNat ascii

end BindingNames.Unicode

namespace BindingNames.Text

open Unicode

def IsAscii (s : List Char) : Prop := ∀ c ∈ s, c.toNat < 128

-- the search for an instance would go through all characters
instance (s : List Char) : Decidable (IsAscii s) :=
  List.decidableBAll (fun c : Char => c.toNat < 128) s

theorem lowerFrom_of_ascii {s : List Char} (ascii : IsAscii s) (before : List Char) :
    lowerFrom before s = s.map Char.toLower := by
  induction s generalizing before with
  | nil => rfl
  | cons c after inductionHypothesis =>
    obtain ⟨here, later⟩ := List.forall_mem_cons.mp ascii
    have plain := isPlain_of_ascii here
    rw [lowerFrom, inductionHypothesis later, lowerAt, if_neg plain.noSigma, plain.smallForm,
      List.map_cons, List.singleton_append]

theorem lower_of_ascii {s : List Char} (ascii : IsAscii s) : lower s = s.map Char.toLower :=
  lowerFrom_of_ascii ascii []

theorem capitalize_of_ascii {c : Char} {rest : List Char} (ascii : IsAscii (c :: rest)) :
    capitalize (c :: rest) = c.toUpper :: rest.map Char.toLower := by
  obtain ⟨here, later⟩ := List.forall_mem_cons.mp ascii
  rw [capitalize, lowerFrom_of_ascii later, (isPlain_of_ascii here).capitalForm,
    List.singleton_append]

/-- Only a letter has a capital form that is not small. -/
theorem capitalize_eq_lower_iff {c : Char} {rest : List Char} (ascii : IsAscii (c :: rest)) :
    capitalize (c :: rest) = lower (c :: rest) ↔ c.isAlpha = false := by
  rw [capitalize_of_ascii ascii, lower_of_ascii ascii, List.map_cons, List.cons_eq_cons,
    and_iff_left rfl, toUpper_eq_toLower_iff]

theorem isAscii_lower {s : List Char} (ascii : IsAscii s) : IsAscii (lower s) := by
  rw [lower_of_ascii ascii]
  intro d member
  obtain ⟨c, listed, rfl⟩ := List.mem_map.mp member
  exact (ascii_forms (ascii c listed)).1

theorem isAscii_capitalize {s : List Char} (ascii : IsAscii s) : IsAscii (capitalize s) := by
  cases s with
  | nil => exact ascii
  | cons c rest =>
    obtain ⟨here, later⟩ := List.forall_mem_cons.mp ascii
    rw [capitalize_of_ascii ascii]
    refine List.forall_mem_cons.mpr ⟨(ascii_forms here).2, ?_⟩
    rw [← lower_of_ascii later]
    exact isAscii_lower later

/-- Of two casings only the last counts. -/
theorem capitalize_lower {s : List Char} (ascii : IsAscii s) :
    capitalize (lower s) = capitalize s := by
  cases s with
  | nil => rfl
  | cons c rest =>
    have lowered : lower (c :: rest) = c.toLower :: rest.map Char.toLower := lower_of_ascii ascii
    rw [lowered, capitalize_of_ascii (lowered ▸ isAscii_lower ascii), capitalize_of_ascii ascii]
    simp

theorem lower_capitalize {s : List Char} (ascii : IsAscii s) : lower (capitalize s) = lower s := by
  cases s with
  | nil => rfl
  | cons c rest =>
    rw [lower_of_ascii (isAscii_capitalize ascii), capitalize_of_ascii ascii, lower_of_ascii ascii]
    simp

theorem capitalize_capitalize {s : List Char} (ascii : IsAscii s) :
    capitalize (capitalize s) = capitalize s := by
  rw [← capitalize_lower (isAscii_capitalize ascii), lower_capitalize ascii, capitalize_lower ascii]

end BindingNames.Text
