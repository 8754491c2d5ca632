import BindingNames.Text.Substitution

/-!
# Texts between backticks

A text is what stands before its first backtick and a segment after each one. Replacing a text that
begins with a backtick, and holds no other, acts on the beginning of every segment at once.
-/

namespace BindingNames.Text

abbrev backtick : Char := '\x60'

/-- Rewrites what follows each backtick, up to the next one. -/
def mapSegments (f : List Char → List Char) (text : List Char) : List Char :=
  match text.splitOn backtick with
  | [] => []
  | first :: segments => first ++ segments.flatMap (fun segment => backtick :: f segment)

/-- The text with this beginning and these segments. -/
def assemble (first : List Char) (segments : List (List Char)) : List Char :=
  first ++ segments.flatMap (fun segment => backtick :: segment)

@[simp] theorem assemble_nil (first : List Char) : assemble first [] = first := by
  simp [assemble]

theorem assemble_cons (first segment : List Char) (segments : List (List Char)) :
    assemble first (segment :: segments) = first ++ backtick :: assemble segment segments := by
  simp [assemble]

theorem assemble_eq_append (first : List Char) (segments : List (List Char)) :
    assemble first segments = first ++ assemble [] segments := by
  simp [assemble]

/-- No part of the text has a backtick of its own. -/
structure Plain (first : List Char) (segments : List (List Char)) : Prop where
  first : backtick ∉ first
  segments : ∀ segment ∈ segments, backtick ∉ segment

theorem Plain.rest {first segment : List Char} {segments : List (List Char)}
    (h : Plain first (segment :: segments)) : Plain segment segments :=
  ⟨h.segments segment List.mem_cons_self,
    fun g member => h.segments g (List.mem_cons_of_mem _ member)⟩

theorem exists_assemble (text : List Char) :
    ∃ first segments, Plain first segments ∧ text = assemble first segments := by
  induction text with
  | nil => exact ⟨[], [], ⟨by simp, by simp⟩, rfl⟩
  | cons c rest inductionHypothesis =>
    obtain ⟨first, segments, plain, rfl⟩ := inductionHypothesis
    by_cases mark : c = backtick
    · refine ⟨[], first :: segments, ⟨by simp, ?_⟩, by rw [assemble_cons, mark, List.nil_append]⟩
      intro segment member
      rcases List.mem_cons.mp member with rfl | later
      · exact plain.first
      · exact plain.segments segment later
    · refine ⟨c :: first, segments, ⟨?_, plain.segments⟩, rfl⟩
      simpa [List.mem_cons, not_or] using ⟨fun h => mark h.symm, plain.first⟩

theorem splitOn_assemble {first : List Char} {segments : List (List Char)}
    (plain : Plain first segments) :
    (assemble first segments).splitOn backtick = first :: segments := by
  induction segments generalizing first with
  | nil => rw [assemble_nil, List.splitOn_eq_singleton plain.first]
  | cons segment segments inductionHypothesis =>
    rw [assemble_cons, List.splitOn_append_cons_self_of_not_mem plain.first,
      inductionHypothesis plain.rest]

theorem mapSegments_assemble (f : List Char → List Char) {first : List Char}
    {segments : List (List Char)} (plain : Plain first segments) :
    mapSegments f (assemble first segments) = assemble first (segments.map f) := by
  rw [mapSegments, splitOn_assemble plain, assemble, List.flatMap_map]

theorem mapSegments_id (text : List Char) : mapSegments id text = text := by
  obtain ⟨first, segments, plain, rfl⟩ := exists_assemble text
  rw [mapSegments_assemble id plain, List.map_id]

theorem mapSegments_congr {f g : List Char → List Char} (text : List Char)
    (agree : ∀ segment, backtick ∉ segment → f segment = g segment) :
    mapSegments f text = mapSegments g text := by
  obtain ⟨first, segments, plain, rfl⟩ := exists_assemble text
  rw [mapSegments_assemble f plain, mapSegments_assemble g plain,
    List.map_congr_left (fun segment member => agree segment (plain.segments segment member))]

theorem mapSegments_mapSegments (f : List Char → List Char) {g : List Char → List Char}
    (keeps : ∀ segment, backtick ∉ segment → backtick ∉ g segment) (text : List Char) :
    mapSegments f (mapSegments g text) = mapSegments (fun segment => f (g segment)) text := by
  obtain ⟨first, segments, plain, rfl⟩ := exists_assemble text
  have rewritten : Plain first (segments.map g) := by
    refine ⟨plain.first, fun segment member => ?_⟩
    obtain ⟨before, old, rfl⟩ := List.mem_map.mp member
    exact keeps before (plain.segments before old)
  rw [mapSegments_assemble g plain, mapSegments_assemble f rewritten,
    mapSegments_assemble _ plain, List.map_map, Function.comp_def]

/-- Replaces `old` at the beginning of a segment if what comes after it passes the test. -/
def replaceStart (follows : List Char → Bool) (old new segment : List Char) : List Char :=
  if old.isPrefixOf segment && follows (segment.drop old.length) then
    new ++ segment.drop old.length
  else segment

/-- A segment may stand before this text: it is empty or begins with a backtick. -/
def EndsSegment (tail : List Char) : Prop := ∀ c ∈ tail.head?, c = backtick

theorem endsSegment_assemble (segments : List (List Char)) :
    EndsSegment (assemble [] segments) := by
  cases segments with
  | nil => simp [EndsSegment]
  | cons segment segments => simp [EndsSegment, assemble_cons]

/-- A test that reads no further than the next backtick. -/
def StopsAtBacktick (follows : List Char → Bool) : Prop :=
  ∀ rest tail, EndsSegment tail → follows (rest ++ tail) = follows rest

/-- A text stays as it is if a character of the old text is missing in it. -/
theorem replace_of_not_mem {c : Char} {old s : List Char} (new : List Char) (member : c ∈ old)
    (absent : c ∉ s) : replace old new s = s := by
  refine substitute_of_not_occurs (Bool.eq_false_iff.mpr fun found => ?_)
  exact absent ((occurs_iff.mp found).subset member)

theorem substitute_append_of_not_mem {follows : List Char → Bool} {c : Char}
    {old new before : List Char} (absent : c ∉ before) (rest : List Char) :
    substitute follows (c :: old) new (before ++ rest) =
      before ++ substitute follows (c :: old) new rest := by
  induction before with
  | nil => rfl
  | cons d before inductionHypothesis =>
    have skipped : (c == d) = false := by simpa using List.ne_of_not_mem_cons absent
    rw [List.cons_append, substitute_cons_skip (by simp [List.isPrefixOf, skipped]),
      inductionHypothesis (List.not_mem_of_not_mem_cons absent), List.cons_append]

/-- What a text begins with is decided before a character that is missing in the beginning. -/
theorem prefix_append_cons_iff {d : Char} {old first rest : List Char} (absent : d ∉ old) :
    old <+: first ++ d :: rest ↔ old <+: first := by
  constructor
  · intro starts
    rcases List.prefix_or_prefix_of_prefix starts (List.prefix_append first _) with within | beyond
    · exact within
    · obtain ⟨more, rfl⟩ := beyond
      cases more with
      | nil => simp
      | cons c more =>
        have next := (List.prefix_append_right_inj first).mp starts
        obtain rfl := (List.cons_prefix_cons.mp next).1
        exact absurd (by simp) absent
  · exact fun within => within.trans (List.prefix_append first _)

/-- What a segment begins with is decided before the next backtick. -/
theorem isPrefixOf_append_of_endsSegment {old segment tail : List Char} (plain : backtick ∉ old)
    (ends : EndsSegment tail) : old.isPrefixOf (segment ++ tail) = old.isPrefixOf segment := by
  cases tail with
  | nil => rw [List.append_nil]
  | cons c tail =>
    obtain rfl : c = backtick := ends c rfl
    rw [Bool.eq_iff_iff, List.isPrefixOf_iff_prefix, List.isPrefixOf_iff_prefix]
    exact prefix_append_cons_iff plain

theorem matches_append_of_endsSegment {follows : List Char → Bool} {old tail : List Char}
    (stops : StopsAtBacktick follows) (plain : backtick ∉ old) (ends : EndsSegment tail)
    (segment : List Char) :
    (old.isPrefixOf (segment ++ tail) && follows ((segment ++ tail).drop old.length)) =
      (old.isPrefixOf segment && follows (segment.drop old.length)) := by
  rw [isPrefixOf_append_of_endsSegment plain ends]
  by_cases starts : old.isPrefixOf segment = true
  · obtain ⟨rest, rfl⟩ := List.isPrefixOf_iff_prefix.mp starts
    rw [List.append_assoc, List.drop_left, List.drop_left, stops rest tail ends]
  · simp [starts]

theorem substitute_segment {follows : List Char → Bool} {old new segment tail : List Char}
    (stops : StopsAtBacktick follows) (plain : backtick ∉ old) (clear : backtick ∉ segment)
    (ends : EndsSegment tail) :
    substitute follows (backtick :: old) (backtick :: new) (backtick :: (segment ++ tail)) =
      backtick :: (replaceStart follows old new segment ++
        substitute follows (backtick :: old) (backtick :: new) tail) := by
  have found := matches_append_of_endsSegment stops plain ends segment
  by_cases matched : (old.isPrefixOf segment && follows (segment.drop old.length)) = true
  · have test := (Bool.and_eq_true_iff.mp (found.trans matched)).2
    obtain ⟨rest, rfl⟩ := List.isPrefixOf_iff_prefix.mp (Bool.and_eq_true_iff.mp matched).1
    have untouched : backtick ∉ rest := fun member => clear (List.mem_append_right _ member)
    rw [substitute_cons_match (by simp) (by simpa using test),
      replaceStart, if_pos matched]
    simp [substitute_append_of_not_mem untouched]
  · have unmatched : (old.isPrefixOf segment && follows (segment.drop old.length)) = false := by
      simpa using matched
    rw [substitute_cons_skip (by simpa [List.isPrefixOf] using found.trans unmatched),
      replaceStart, if_neg matched, substitute_append_of_not_mem clear]

/-- Replacing a text that begins with a backtick rewrites the beginning of every segment. -/
theorem substitute_eq_mapSegments {follows : List Char → Bool} {old new : List Char}
    (stops : StopsAtBacktick follows) (plain : backtick ∉ old) (text : List Char) :
    substitute follows (backtick :: old) (backtick :: new) text =
      mapSegments (replaceStart follows old new) text := by
  obtain ⟨first, segments, clear, rfl⟩ := exists_assemble text
  rw [mapSegments_assemble _ clear]
  induction segments generalizing first with
  | nil => simpa using substitute_append_of_not_mem clear.first []
  | cons segment segments inductionHypothesis =>
    have later := inductionHypothesis [] ⟨by simp, clear.rest.segments⟩
    rw [assemble_cons, substitute_append_of_not_mem clear.first, assemble_eq_append segment,
      substitute_segment stops plain clear.rest.first (endsSegment_assemble segments), later,
      ← assemble_eq_append, List.map_cons, assemble_cons]

end BindingNames.Text
