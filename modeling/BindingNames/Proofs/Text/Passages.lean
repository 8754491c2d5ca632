import BindingNames.Proofs.Text.Segments
import BindingNames.Text.Trim
import Mathlib.Data.List.Forall2

/-!
# Passages that stay

A text holds some passages in order if they stand in it one after the other and without overlap. To
replace other texts keeps them there, so long as no occurrence begins inside of a passage or reaches
into one from before; to trim keeps those that neither begin nor end with a blank.
-/

namespace BindingNames.Text

open Unicode

/-- The passages stand in the text, one after the other and without overlap. -/
def HoldsInOrder : List (List Char) → List Char → Prop
  | [], _ => True
  | p :: ps, text => ∃ before after, text = before ++ (p ++ after) ∧ HoldsInOrder ps after

namespace HoldsInOrder

variable {ps qs : List (List Char)} {s t : List Char}

theorem nil (text : List Char) : HoldsInOrder [] text := trivial

end HoldsInOrder

/-- A passage is copied if no occurrence begins in it and none goes on with its first character. -/
theorem exists_substitute_append {follows : List Char → Bool} {c d : Char} {old new p : List Char}
    (start : c ∉ d :: p) (apart : d ∉ c :: old) (before after : List Char) {s : List Char}
    (parts : s = before ++ d :: (p ++ after)) :
    ∃ changed, substitute follows (c :: old) new s =
      changed ++ d :: (p ++ substitute follows (c :: old) new after) := by
  fun_induction substitute follows (c :: old) new s generalizing before with
  | case1 => simp at parts
  | case2 e rest found inductionHypothesis =>
    obtain ⟨starts, -⟩ := Bool.and_eq_true_iff.mp found
    rw [List.isPrefixOf_iff_prefix, parts, prefix_append_cons_iff apart] at starts
    obtain ⟨within, rfl⟩ := starts
    have dropped : rest.drop ((c :: old).length - 1) = within ++ d :: (p ++ after) := by
      obtain ⟨-, rfl⟩ := List.cons.inj parts
      simp
    obtain ⟨changed, rewritten⟩ := inductionHypothesis within dropped
    exact ⟨new ++ changed, by rw [rewritten, List.append_assoc]⟩
  | case3 e rest missed inductionHypothesis =>
    cases before with
    | nil =>
      obtain ⟨rfl, rfl⟩ := List.cons.inj parts
      refine ⟨[], ?_⟩
      rw [substitute_append_of_not_mem (List.not_mem_of_not_mem_cons start), List.nil_append]
    | cons first before =>
      obtain ⟨rfl, rfl⟩ := List.cons.inj parts
      obtain ⟨changed, rewritten⟩ := inductionHypothesis before rfl
      exact ⟨e :: changed, by rw [rewritten, List.cons_append]⟩

/-- To replace another text keeps the passages, whatever takes its place. -/
theorem HoldsInOrder.substitute {follows : List Char → Bool} {c d : Char} {old new s : List Char}
    {ps : List (List Char)} (h : HoldsInOrder ps s) (opens : ∀ p ∈ ps, p.head? = some d)
    (clear : ∀ p ∈ ps, c ∉ p) (apart : d ∉ c :: old) :
    HoldsInOrder ps (substitute follows (c :: old) new s) := by
  induction ps generalizing s with
  | nil => trivial
  | cons p ps inductionHypothesis =>
    obtain ⟨opensHere, opensLater⟩ := List.forall_mem_cons.mp opens
    obtain ⟨clearHere, clearLater⟩ := List.forall_mem_cons.mp clear
    obtain ⟨rest, rfl⟩ := List.head?_eq_some_iff.mp opensHere
    obtain ⟨before, after, parts, later⟩ := h
    obtain ⟨changed, rewritten⟩ := exists_substitute_append clearHere apart before after parts
    exact ⟨changed, _, rewritten, inductionHypothesis later opensLater clearLater⟩

theorem trimStart_append {s t : List Char} {c : Char} (first : t.head? = some c)
    (solid : isBlank c = false) : trimStart (s ++ t) = trimStart s ++ t := by
  obtain ⟨rest, rfl⟩ := List.head?_eq_some_iff.mp first
  have kept : (c :: rest).dropWhile isBlank = c :: rest := by simp [solid]
  rw [trimStart, trimStart, List.dropWhile_append, kept]
  split
  next gone => rw [List.isEmpty_iff.mp gone, List.nil_append]
  next => rfl

theorem trimEnd_append {s t : List Char} {c : Char} (last : s.getLast? = some c)
    (solid : isBlank c = false) : trimEnd (s ++ t) = s ++ trimEnd t := by
  have first : s.reverse.head? = some c := by rw [List.head?_reverse, last]
  rw [trimEnd, trimEnd, List.reverse_append, trimStart_append first solid, List.reverse_append,
    List.reverse_reverse]

/-- A passage that neither begins nor ends with a blank. -/
structure Solid (p : List Char) : Prop where
  first : ∃ c ∈ p.head?, isBlank c = false
  last : ∃ c ∈ p.getLast?, isBlank c = false

namespace HoldsInOrder

variable {ps : List (List Char)} {s : List Char}

theorem trimStart (h : HoldsInOrder ps s) (solid : ∀ p ∈ ps, Solid p) :
    HoldsInOrder ps (trimStart s) := by
  cases ps with
  | nil => trivial
  | cons p ps =>
    obtain ⟨before, after, rfl, later⟩ := h
    obtain ⟨c, first, filled⟩ := (solid p List.mem_cons_self).first
    have begins : (p ++ after).head? = some c := by simp [List.head?_append, Option.mem_def.mp first]
    exact ⟨Text.trimStart before, after, trimStart_append begins filled, later⟩

theorem trimEnd (h : HoldsInOrder ps s) (solid : ∀ p ∈ ps, Solid p) :
    HoldsInOrder ps (trimEnd s) := by
  induction ps generalizing s with
  | nil => trivial
  | cons p ps inductionHypothesis =>
    obtain ⟨here, further⟩ := List.forall_mem_cons.mp solid
    obtain ⟨before, after, rfl, later⟩ := h
    obtain ⟨c, last, filled⟩ := here.last
    have ends : (before ++ p).getLast? = some c := by
      simp [List.getLast?_append, Option.mem_def.mp last]
    refine ⟨before, Text.trimEnd after, ?_, inductionHypothesis later further⟩
    rw [← List.append_assoc, trimEnd_append ends filled, List.append_assoc]

theorem trim (h : HoldsInOrder ps s) (solid : ∀ p ∈ ps, Solid p) : HoldsInOrder ps (trim s) :=
  (h.trimStart solid).trimEnd solid

end HoldsInOrder

end BindingNames.Text
