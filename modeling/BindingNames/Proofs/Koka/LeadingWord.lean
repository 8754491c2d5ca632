import BindingNames.Koka.Comment
import BindingNames.Proofs.Text.Segments
import Mathlib.Data.List.TakeWhile

/-!
# The word after a backtick

The word characters right after a backtick are the reference that a segment begins with. Replacing
a name where it stands whole is the same as mapping these references.
-/

namespace BindingNames.Koka

open Text Unicode

/-- Some characters, all of them word characters. -/
structure IsWord (name : String) : Prop where
  ne_empty : name ≠ ""
  chars : ∀ c ∈ name.toList, isWordChar c = true

theorem isWord_iff {name : String} :
    IsWord name ↔ name ≠ "" ∧ name.toList.all isWordChar = true := by
  rw [List.all_eq_true]
  exact ⟨fun word => ⟨word.ne_empty, word.chars⟩, fun word => ⟨word.1, word.2⟩⟩

instance (name : String) : Decidable (IsWord name) := decidable_of_iff' _ isWord_iff

theorem backtick_not_mem {s : List Char} (chars : ∀ c ∈ s, isWordChar c = true) :
    backtick ∉ s := by
  intro member
  have impossible : isWordChar backtick = false := by decide +kernel
  exact absurd (chars backtick member) (by simp [impossible])

/-- Maps the word characters that a segment begins with; there may be none. -/
def onLeadingWord (f : String → String) (segment : List Char) : List Char :=
  (f (String.ofList (segment.takeWhile isWordChar))).toList ++ segment.dropWhile isWordChar

theorem onLeadingWord_of_fixed {f : String → String} {segment : List Char}
    (fixed : f (String.ofList (segment.takeWhile isWordChar)) =
      String.ofList (segment.takeWhile isWordChar)) : onLeadingWord f segment = segment := by
  rw [onLeadingWord, fixed, String.toList_ofList, List.takeWhile_append_dropWhile]

theorem wordEnds_iff {rest : List Char} :
    wordEnds rest = true ↔ rest.takeWhile isWordChar = [] := by
  cases rest with
  | nil => simp [wordEnds]
  | cons c rest => by_cases inner : isWordChar c = true <;> simp [wordEnds, inner]

theorem wordEnds_dropWhile (segment : List Char) :
    wordEnds (segment.dropWhile isWordChar) = true := by
  have stops := List.head?_dropWhile_not isWordChar segment
  cases rest : segment.dropWhile isWordChar with
  | nil => rfl
  | cons c rest =>
    have outer : isWordChar c = false := by simpa [rest] using stops
    simp [wordEnds, outer]

theorem takeWhile_append_wordEnds {word rest : List Char}
    (chars : ∀ c ∈ word, isWordChar c = true) (ends : wordEnds rest = true) :
    (word ++ rest).takeWhile isWordChar = word := by
  rw [List.takeWhile_append_of_pos chars, wordEnds_iff.mp ends, List.append_nil]

theorem dropWhile_append_wordEnds {word rest : List Char}
    (chars : ∀ c ∈ word, isWordChar c = true) (ends : wordEnds rest = true) :
    (word ++ rest).dropWhile isWordChar = rest := by
  have none := wordEnds_iff.mp ends
  rw [List.dropWhile_append_of_pos chars]
  simpa [none] using List.takeWhile_append_dropWhile (p := isWordChar) (l := rest)

theorem onLeadingWord_toList (f : String → String) {name : String}
    (chars : ∀ c ∈ name.toList, isWordChar c = true) :
    onLeadingWord f name.toList = (f name).toList := by
  have ends : wordEnds [] = true := rfl
  have whole := takeWhile_append_wordEnds chars ends
  have nothing := dropWhile_append_wordEnds chars ends
  rw [List.append_nil] at whole nothing
  rw [onLeadingWord, whole, nothing, String.ofList_toList, List.append_nil]

/-- A mapping that makes words of words. -/
def KeepsWords (f : String → String) : Prop :=
  ∀ name, (∀ c ∈ name.toList, isWordChar c = true) → ∀ c ∈ (f name).toList, isWordChar c = true

theorem KeepsWords.leading {f : String → String} (keeps : KeepsWords f) (segment : List Char) :
    ∀ c ∈ (f (String.ofList (segment.takeWhile isWordChar))).toList, isWordChar c = true := by
  apply keeps
  intro c member
  rw [String.toList_ofList] at member
  exact List.mem_takeWhile_imp member

theorem onLeadingWord_onLeadingWord (f : String → String) {g : String → String}
    (keeps : KeepsWords g) (segment : List Char) :
    onLeadingWord f (onLeadingWord g segment) = onLeadingWord (fun name => f (g name)) segment := by
  have chars := keeps.leading segment
  have ends := wordEnds_dropWhile segment
  rw [onLeadingWord, onLeadingWord, takeWhile_append_wordEnds chars ends,
    dropWhile_append_wordEnds chars ends, String.ofList_toList, onLeadingWord]

theorem backtick_not_mem_onLeadingWord {f : String → String} (keeps : KeepsWords f)
    {segment : List Char} (clear : backtick ∉ segment) : backtick ∉ onLeadingWord f segment := by
  rw [onLeadingWord, List.mem_append, not_or]
  refine ⟨backtick_not_mem (keeps.leading segment), fun member => clear ?_⟩
  exact (List.dropWhile_suffix isWordChar).subset member

theorem stopsAtBacktick_wordEnds : StopsAtBacktick wordEnds := by
  intro rest tail ends
  cases rest with
  | cons c rest => rfl
  | nil =>
    have outer : isWordChar backtick = false := by decide +kernel
    cases tail with
    | nil => rfl
    | cons c tail =>
      obtain rfl : c = backtick := ends c rfl
      simp [wordEnds, outer]

/-- Gives one name in place of another. -/
def exchange (old new name : String) : String := if name = old then new else name

@[simp] theorem exchange_self (old new : String) : exchange old new old = new := if_pos rfl

theorem exchange_of_ne {old name : String} (new : String) (other : name ≠ old) :
    exchange old new name = name := if_neg other

theorem keepsWords_exchange {old new : String} (chars : ∀ c ∈ new.toList, isWordChar c = true) :
    KeepsWords (exchange old new) := by
  intro name given
  by_cases own : name = old
  · rwa [own, exchange_self]
  · rwa [exchange_of_ne new own]

/-- A name stands whole at the beginning exactly if it is the leading word. -/
theorem replaceStart_wordEnds {old : String} (new : String)
    (chars : ∀ c ∈ old.toList, isWordChar c = true) (segment : List Char) :
    replaceStart wordEnds old.toList new.toList segment =
      onLeadingWord (exchange old new) segment := by
  by_cases leads : String.ofList (segment.takeWhile isWordChar) = old
  · have parts : old.toList ++ segment.dropWhile isWordChar = segment := by
      rw [← leads, String.toList_ofList, List.takeWhile_append_dropWhile]
    have rest : segment.drop old.toList.length = segment.dropWhile isWordChar := by
      have dropped := @List.drop_left _ old.toList (segment.dropWhile isWordChar)
      rwa [parts] at dropped
    have starts : old.toList.isPrefixOf segment = true :=
      List.isPrefixOf_iff_prefix.mpr ⟨_, parts⟩
    rw [replaceStart, starts, rest, wordEnds_dropWhile, Bool.and_self, if_pos rfl, onLeadingWord,
      leads, exchange_self]
  · rw [onLeadingWord_of_fixed (exchange_of_ne new leads), replaceStart, if_neg]
    intro matched
    obtain ⟨starts, ends⟩ := Bool.and_eq_true_iff.mp matched
    obtain ⟨rest, rfl⟩ := List.isPrefixOf_iff_prefix.mp starts
    rw [List.drop_left] at ends
    rw [takeWhile_append_wordEnds chars ends, String.ofList_toList] at leads
    exact leads rfl

theorem substitute_reference {old : String} (new : String)
    (chars : ∀ c ∈ old.toList, isWordChar c = true) (text : List Char) :
    substitute wordEnds (reference old) (reference new) text =
      mapSegments (onLeadingWord (exchange old new)) text := by
  rw [reference, reference, substitute_eq_mapSegments stopsAtBacktick_wordEnds
    (backtick_not_mem chars)]
  exact mapSegments_congr text (fun segment _ => replaceStart_wordEnds new chars segment)

end BindingNames.Koka
