import BindingNames.Proofs.Text.LowerCase
import BindingNames.Unicode.WordChar

/-!
# Word characters under the case mappings

A case mapping may take a letter to a letter and a combining mark, and a mark is no word character.
Main statements: for each of the three mappings, which word characters have an image with a mark.
The rest have images of word characters only, which the tables are searched for, code by code;
ranges stand as bits of one number there.
-/

namespace BindingNames.Unicode

/-- Nothing but word characters. -/
def WordOnly (s : List Char) : Prop := ∀ c ∈ s, isWordChar c = true

instance (s : List Char) : Decidable (WordOnly s) :=
  decidable_of_iff (s.all isWordChar = true) List.all_eq_true

@[simp] theorem wordOnly_nil : WordOnly [] := by simp [WordOnly]

@[simp] theorem wordOnly_cons {c : Char} {s : List Char} :
    WordOnly (c :: s) ↔ isWordChar c = true ∧ WordOnly s := List.forall_mem_cons

@[simp] theorem wordOnly_append {s t : List Char} :
    WordOnly (s ++ t) ↔ WordOnly s ∧ WordOnly t := List.forall_mem_append

/-- The code points of a range in increasing order. -/
def CodeRange.codes (r : CodeRange) : List Nat := List.range' r.first (r.last + 1 - r.first)

theorem CodeRange.mem_codes {r : CodeRange} {n : Nat} (within : r.first ≤ n ∧ n ≤ r.last) :
    n ∈ r.codes := List.mem_range'_1.mpr ⟨within.1, by omega⟩

/-- The members of a stride in increasing order. -/
def Stride.members (s : Stride) : List Nat :=
  List.range' s.first ((s.last - s.first) / s.step + 1) s.step

theorem Stride.mem_members {s : Stride} {n : Nat} (holds : s.contains n = true) :
    n ∈ s.members := by
  obtain ⟨⟨low, high⟩, aligned⟩ := Stride.contains_iff.mp holds
  have index : (n - s.first) / s.step ≤ (s.last - s.first) / s.step :=
    Nat.div_le_div_right (Nat.sub_le_sub_right high _)
  have offset : s.step * ((n - s.first) / s.step) + (n - s.first) % s.step = n - s.first :=
    Nat.div_add_mod _ _
  exact List.mem_range'.mpr ⟨(n - s.first) / s.step, Nat.lt_succ_of_le index, by omega⟩

/-- The code points of the ranges, each a bit of one number. -/
def bits (rs : List CodeRange) : Nat :=
  rs.foldr (fun r rest => (1 <<< (r.last + 1 - r.first) - 1) <<< r.first ||| rest) 0

theorem testBit_bits (rs : List CodeRange) (n : Nat) :
    (bits rs).testBit n = rs.any (fun r => r.contains n) := by
  induction rs with
  | nil => simp [bits]
  | cons r rs inductionHypothesis =>
    have here : ((1 <<< (r.last + 1 - r.first) - 1) <<< r.first).testBit n = r.contains n := by
      rw [Nat.testBit_shiftLeft, Nat.one_shiftLeft, Nat.testBit_two_pow_sub_one, CodeRange.contains]
      by_cases low : r.first ≤ n
      · have high : n - r.first < r.last + 1 - r.first ↔ n ≤ r.last := by omega
        simp [low, high]
      · simp [low]
    rw [List.any_cons, ← inductionHypothesis, ← here]
    exact Nat.testBit_or _ _ n

theorem covers_eq_testBit (rs : List CodeRange) (c : Char) :
    covers rs c = (bits rs).testBit c.toNat := (testBit_bits rs c.toNat).symm

/-- Alphanumerics and the low line. -/
def wordRanges : List CodeRange := ⟨0x5F, 0x5F⟩ :: alphanumerics

def isWordCode (n : Nat) : Bool := (bits wordRanges).testBit n

theorem isWordChar_eq_isWordCode (c : Char) : isWordChar c = isWordCode c.toNat := by
  have low : c = '_' ↔ 0x5F ≤ c.toNat ∧ c.toNat ≤ 0x5F := by
    rw [← Nat.le_antisymm_iff, ← Char.toNat_inj, eq_comm]
    rfl
  rw [isWordCode, testBit_bits, Bool.eq_iff_iff]
  simp [isWordChar, isAlphanumeric, covers_iff, wordRanges, low]

/-- Every word code is that of a character other than the null character. -/
theorem isValidChar_of_isWordCode {n : Nat} (h : isWordCode n = true) : n.isValidChar ∧ n ≠ 0 := by
  have bounds : ∀ r ∈ wordRanges, 0 < r.first ∧
      (r.last < 0xD800 ∨ 0xDFFF < r.first ∧ r.last < 0x110000) := by decide +kernel
  rw [isWordCode, testBit_bits] at h
  obtain ⟨r, listed, holds⟩ := List.any_eq_true.mp h
  obtain ⟨low, high⟩ := CodeRange.contains_iff.mp holds
  obtain ⟨positive, below | ⟨above, within⟩⟩ := bounds r listed
  · exact ⟨.inl (by omega), by omega⟩
  · exact ⟨.inr ⟨by omega, by omega⟩, by omega⟩

theorem isWordChar_ofNat (n : Nat) : isWordChar (Char.ofNat n) = isWordCode n := by
  by_cases valid : n.isValidChar
  · rw [isWordChar_eq_isWordCode, toNat_ofNat valid]
  · -- an invalid code gives the null character
    have outside : isWordCode n = false :=
      Bool.eq_false_iff.mpr fun word => valid (isValidChar_of_isWordCode word).1
    have null : isWordCode 0 = false :=
      Bool.eq_false_iff.mpr fun word => (isValidChar_of_isWordCode word).2 rfl
    rw [outside, isWordChar_eq_isWordCode, Char.ofNat, dif_neg valid]
    exact null

theorem covers_ofNat (rs : List CodeRange) {n : Nat} (word : isWordCode n = true) :
    covers rs (Char.ofNat n) = (bits rs).testBit n := by
  rw [covers_eq_testBit, toNat_ofNat (isValidChar_of_isWordCode word).1]

/-- The tables of a mapping, and the characters whose images are held to have a mark. -/
structure CaseTables where
  growing : List (Nat × List Nat)
  runs : List CaseRun
  marked : List CodeRange

namespace CaseTables

/-- Word characters have images of word characters, except for the marked ones. -/
structure MarkExactly (t : CaseTables) : Prop where
  listed : ∀ entry ∈ t.growing, entry.2.all isWordCode = !(bits t.marked).testBit entry.1
  moved : ∀ run ∈ t.runs, ∀ n ∈ run.members, isWordCode n = true → isWordCode (run.image n) = true
  grows : ∀ r ∈ t.marked, ∀ n ∈ r.codes, (t.growing.lookup n).isSome = true

instance (t : CaseTables) : Decidable t.MarkExactly :=
  decidable_of_iff (_ ∧ _ ∧ _) ⟨fun h => ⟨h.1, h.2.1, h.2.2⟩, fun h => ⟨h.listed, h.moved, h.grows⟩⟩

namespace MarkExactly

variable {t : CaseTables}

theorem not_covers_of_lookup (tables : t.MarkExactly) {c : Char}
    (absent : t.growing.lookup c.toNat = none) : covers t.marked c = false := by
  refine Bool.eq_false_iff.mpr fun marks => ?_
  obtain ⟨r, listed, within⟩ := covers_iff.mp marks
  simpa [absent] using tables.grows r listed c.toNat (CodeRange.mem_codes within)

theorem image_iff (tables : t.MarkExactly) {c : Char} (word : isWordChar c = true)
    {images : List Char} (found : mapped? t.growing t.runs c = some images) :
    WordOnly images ↔ covers t.marked c = false := by
  rcases mapped?_cases found with ⟨entry, member, key, rfl⟩ | ⟨absent, run, member, holds, rfl⟩
  · have codes := tables.listed entry member
    rw [key, ← covers_eq_testBit] at codes
    rw [← Bool.not_eq_true', ← codes]
    simp [WordOnly, isWordChar_ofNat]
  · have single : isWordCode (run.image c.toNat) = true :=
      tables.moved run member _ (Stride.mem_members holds) (isWordChar_eq_isWordCode c ▸ word)
    simp [isWordChar_ofNat, single, tables.not_covers_of_lookup absent]

theorem not_covers_of_none (tables : t.MarkExactly) {c : Char}
    (missing : mapped? t.growing t.runs c = none) : covers t.marked c = false := by
  apply tables.not_covers_of_lookup
  cases entry : t.growing.lookup c.toNat with
  | none => rfl
  | some codes => simp [mapped?, entry] at missing

/-- What no table lists stays. -/
theorem getD_iff (tables : t.MarkExactly) {c : Char} (word : isWordChar c = true) :
    WordOnly ((mapped? t.growing t.runs c).getD [c]) ↔ covers t.marked c = false := by
  cases found : mapped? t.growing t.runs c with
  | some images => exact tables.image_iff word found
  | none => simp [word, tables.not_covers_of_none found]

end MarkExactly

end CaseTables

/-- The capital I with a dot keeps the dot as a mark in lowercase. -/
def dottedI : Char := '\u0130'

/-- Small letters with marks that no capital has: their uppercase is a capital and marks. -/
def uppercaseMarked : List CodeRange := [
    ⟨0x01F0, 0x01F0⟩, ⟨0x0390, 0x0390⟩, ⟨0x03B0, 0x03B0⟩, ⟨0x1E96, 0x1E99⟩, ⟨0x1F50, 0x1F50⟩,
    ⟨0x1F52, 0x1F52⟩, ⟨0x1F54, 0x1F54⟩, ⟨0x1F56, 0x1F56⟩, ⟨0x1FB6, 0x1FB7⟩, ⟨0x1FC6, 0x1FC7⟩,
    ⟨0x1FD2, 0x1FD3⟩, ⟨0x1FD6, 0x1FD7⟩, ⟨0x1FE2, 0x1FE4⟩, ⟨0x1FE6, 0x1FE7⟩, ⟨0x1FF6, 0x1FF7⟩]

/-- Their iota is a mark below in titlecase and a letter of its own in uppercase. -/
def iotaMarked : List CodeRange := [
    ⟨0x1FB2, 0x1FB2⟩, ⟨0x1FB4, 0x1FB4⟩, ⟨0x1FB7, 0x1FB7⟩, ⟨0x1FC2, 0x1FC2⟩, ⟨0x1FC4, 0x1FC4⟩,
    ⟨0x1FC7, 0x1FC7⟩, ⟨0x1FF2, 0x1FF2⟩, ⟨0x1FF4, 0x1FF4⟩, ⟨0x1FF7, 0x1FF7⟩]

def isUppercaseMarked (c : Char) : Bool := covers uppercaseMarked c

def isTitlecaseMarked (c : Char) : Bool := isUppercaseMarked c || covers iotaMarked c

def lowercaseTables : CaseTables :=
  ⟨lowercaseGrowing, lowercaseRuns, [⟨dottedI.toNat, dottedI.toNat⟩]⟩

def uppercaseTables : CaseTables := ⟨uppercaseGrowing, uppercaseRuns, uppercaseMarked⟩

def titlecaseTables : CaseTables := ⟨titlecaseGrowing, titlecaseRuns, iotaMarked⟩

theorem markExactly : ∀ t ∈ [lowercaseTables, uppercaseTables, titlecaseTables], t.MarkExactly := by
  decide +kernel

theorem wordOnly_lowercase_iff {c : Char} (word : isWordChar c = true) :
    WordOnly (lowercase c) ↔ c ≠ dottedI := by
  have tables : lowercaseTables.MarkExactly := markExactly _ (by simp)
  refine (tables.getD_iff word).trans ?_
  rw [← Bool.not_eq_true, covers_iff]
  simp [lowercaseTables, ← Nat.le_antisymm_iff, Char.toNat_inj, eq_comm]

theorem wordOnly_uppercase_iff {c : Char} (word : isWordChar c = true) :
    WordOnly (uppercase c) ↔ isUppercaseMarked c = false :=
  (markExactly uppercaseTables (by simp)).getD_iff word

theorem wordOnly_titlecase_iff {c : Char} (word : isWordChar c = true) :
    WordOnly (titlecase c) ↔ isTitlecaseMarked c = false := by
  have tables : titlecaseTables.MarkExactly := markExactly _ (by simp)
  rw [titlecase, isTitlecaseMarked, Bool.or_eq_false_iff]
  cases found : mapped? titlecaseGrowing titlecaseRuns c with
  | none =>
    have plain : covers iotaMarked c = false := tables.not_covers_of_none found
    simpa [plain] using wordOnly_uppercase_iff word
  | some images =>
    refine (tables.image_iff word found).trans ⟨fun plain => ⟨?_, plain⟩, And.right⟩
    -- a letter with another mark only has no titlecase but its uppercase
    have unlisted : ∀ r ∈ uppercaseMarked, ∀ n ∈ r.codes, (bits iotaMarked).testBit n = false →
        titlecaseGrowing.lookup n = none ∧ moved? titlecaseRuns n = none := by decide
    refine Bool.eq_false_iff.mpr fun marks => ?_
    obtain ⟨r, listed, within⟩ := covers_iff.mp marks
    obtain ⟨absent, still⟩ := unlisted r listed _ (CodeRange.mem_codes within)
      (covers_eq_testBit iotaMarked c ▸ plain)
    simp [mapped?, absent, still] at found

/-- A small letter that takes a mark in uppercase is the lowercase of itself alone. -/
theorem lowercase_head {c d : Char} {more : List Char} (word : isWordChar c = true)
    (image : lowercase c = d :: more) :
    isWordChar d = true ∧ isUppercaseMarked d = isUppercaseMarked c := by
  unfold lowercase at image
  cases found : mapped? lowercaseGrowing lowercaseRuns c with
  | none =>
    obtain ⟨rfl, -⟩ : c = d ∧ [] = more := by simpa [found] using image
    exact ⟨word, rfl⟩
  | some images =>
    obtain rfl : images = d :: more := by simpa [found] using image
    rcases mapped?_cases found with ⟨entry, listed, key, codes⟩ | ⟨-, run, listed, holds, codes⟩
    · obtain rfl : entry = (0x0130, [0x0069, 0x0307]) := by simpa [lowercaseGrowing] using listed
      obtain ⟨rfl, -⟩ : d = 'i' ∧ more = ['\u0307'] := by simpa using codes
      obtain rfl : c = dottedI := Char.toNat_inj.mp key.symm
      exact ⟨by decide, by decide⟩
    · have apart : ∀ run ∈ lowercaseRuns, ∀ n ∈ run.members,
          (bits uppercaseMarked).testBit (run.image n) = (bits uppercaseMarked).testBit n := by
        decide +kernel
      obtain ⟨rfl, -⟩ := List.cons_eq_cons.mp codes
      have inner : isWordCode (run.image c.toNat) = true :=
        (markExactly lowercaseTables (by simp)).moved run listed _ (Stride.mem_members holds)
          (isWordChar_eq_isWordCode c ▸ word)
      rw [isWordChar_ofNat, isUppercaseMarked, isUppercaseMarked, covers_ofNat _ inner,
        covers_eq_testBit]
      exact ⟨inner, apart run listed _ (Stride.mem_members holds)⟩

end BindingNames.Unicode
