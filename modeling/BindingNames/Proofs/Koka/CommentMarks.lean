import BindingNames.Proofs.Koka.References

/-!
# Comment marks

Every line of a comment but the first begins with two slashes, whatever the prose, the links, the
common beginning and the rules are. The marks are made with the lines, and no later rewriting
takes one away or begins a line without one: what it replaces begins with a blank or a backtick,
so it does not reach into the mark after a line feed, and it brings no line feed of its own.
-/

namespace BindingNames.Text

/-- Replacing keeps what the replacement of one occurrence keeps. -/
theorem substitute_preserves {follows : List Char → Bool} {c : Char} {old new : List Char}
    {Q : List Char → Prop}
    (step : ∀ before rest, Q (before ++ (c :: old ++ rest)) → Q (before ++ (new ++ rest)))
    (before : List Char) {s : List Char} (h : Q (before ++ s)) :
    Q (before ++ substitute follows (c :: old) new s) := by
  fun_induction substitute follows (c :: old) new s generalizing before with
  | case1 => exact h
  | case2 d rest found inductionHypothesis =>
    obtain ⟨starts, -⟩ := Bool.and_eq_true_iff.mp found
    obtain ⟨later, parts⟩ := List.isPrefixOf_iff_prefix.mp starts
    have dropped : rest.drop ((c :: old).length - 1) = later := by
      obtain ⟨-, rfl⟩ := List.cons.inj parts
      simp
    rw [dropped] at inductionHypothesis ⊢
    rw [← parts] at h
    have replaced := step before later h
    rw [← List.append_assoc] at replaced ⊢
    exact inductionHypothesis _ replaced
  | case3 d rest missed inductionHypothesis =>
    rw [List.append_cons] at h ⊢
    exact inductionHypothesis _ h

end BindingNames.Text

namespace BindingNames.Koka

open Text

/-- The mark of a comment stands right after each line feed. -/
def Marked (s : List Char) : Prop :=
  ∀ before after, s = before ++ '\n' :: after → ['/', '/'] <+: after

theorem marked_nil : Marked [] := by
  intro before after parts
  simp at parts

theorem marked_cons {c : Char} {s : List Char} :
    Marked (c :: s) ↔ (c = '\n' → ['/', '/'] <+: s) ∧ Marked s := by
  constructor
  · intro marked
    refine ⟨?_, fun before after parts => ?_⟩
    · rintro rfl
      exact marked [] s rfl
    · exact marked (c :: before) after (by rw [parts, List.cons_append])
  · rintro ⟨here, later⟩ before after parts
    cases before with
    | nil =>
      obtain ⟨rfl, rfl⟩ := List.cons.inj parts
      exact here rfl
    | cons d before => exact later before after (List.cons.inj parts).2

/-- A mark is complete before any character that is no slash. -/
theorem slashes_prefix_append_cons {c : Char} (other : c ≠ '/') (first rest : List Char) :
    ['/', '/'] <+: first ++ c :: rest ↔ ['/', '/'] <+: first :=
  prefix_append_cons_iff (by simp [other])

theorem marked_append_cons {c : Char} (other : c ≠ '/') (first rest : List Char) :
    Marked (first ++ c :: rest) ↔ Marked first ∧ Marked (c :: rest) := by
  induction first with
  | nil => simp [marked_nil]
  | cons d first inductionHypothesis =>
    rw [List.cons_append, marked_cons, marked_cons, inductionHypothesis,
      slashes_prefix_append_cons other, and_assoc]

theorem marked_append_of_not_mem {first rest : List Char} (oneLine : '\n' ∉ first) :
    Marked (first ++ rest) ↔ Marked rest := by
  induction first with
  | nil => rfl
  | cons c first inductionHypothesis =>
    have other : c ≠ '\n' := (List.ne_of_not_mem_cons oneLine).symm
    simp [marked_cons, other, inductionHypothesis (List.not_mem_of_not_mem_cons oneLine)]

theorem Marked.of_append {first rest : List Char} (h : Marked (first ++ rest)) : Marked rest :=
  fun before after parts => h (first ++ before) after (by rw [parts, List.append_assoc])

theorem marked_replace_newline (s : List Char) :
    Marked (replace ['\n'] ['\n', '/', '/', ' '] s) := by
  unfold replace
  induction s with
  | nil => exact (substitute_nil _ _ _).symm ▸ marked_nil
  | cons c rest inductionHypothesis =>
    by_cases newline : c = '\n'
    · subst newline
      rw [substitute_cons_match rfl rfl]
      simpa [marked_cons] using inductionHypothesis
    · have skipped : ('\n' == c) = false := by simpa using Ne.symm newline
      rw [substitute_cons_skip (by simp [List.isPrefixOf, skipped]), marked_cons]
      exact ⟨fun impossible => absurd impossible newline, inductionHypothesis⟩

theorem marked_commentLines (s : List Char) : Marked (commentLines s) := by
  refine substitute_preserves ?_ [] (marked_replace_newline (trim s))
  intro before rest marked
  obtain ⟨earlier, later⟩ := (marked_append_cons (by decide) before _).mp marked
  exact (marked_append_cons (by decide) before _).mpr ⟨earlier, (marked_cons.mp later).2⟩

/-- A reference begins after every mark, so another name may take its place. -/
theorem marked_substitute_reference {follows : List Char → Bool} (old : String) {new : String}
    (oneLine : '\n' ∉ new.toList) {s : List Char} (h : Marked s) :
    Marked (substitute follows (reference old) (reference new) s) := by
  refine substitute_preserves ?_ [] h
  intro before rest marked
  obtain ⟨earlier, later⟩ := (marked_append_cons (by decide) before _).mp marked
  refine (marked_append_cons (by decide) before _).mpr ⟨earlier, marked_cons.mpr ⟨by simp, ?_⟩⟩
  exact (marked_append_of_not_mem oneLine).mpr (marked_cons.mp later).2.of_append

namespace Speller

theorem marked_stripReferences (s : Speller) {text : List Char} (h : Marked text) :
    Marked (s.stripReferences text) := by
  unfold stripReferences
  split
  next beginning _ => exact marked_substitute_reference beginning (by simp) h
  next => exact h

theorem marked_renameReferences {s : Speller} {e : Entity} {text renamed : List Char}
    (oneLine : e.rename.isEmpty = false → ∀ name, s.nameOf e = .ok name → '\n' ∉ name.toList)
    (h : Marked text) (run : s.renameReferences text e = .ok renamed) : Marked renamed := by
  rcases renameReferences_cases run with rfl | ⟨ruled, name, spelled, rfl⟩
  · exact h
  · exact marked_substitute_reference _ (oneLine ruled name spelled) h

theorem marked_foldlM_renameReferences {s : Speller} {entities : List Entity}
    (oneLine : ∀ e ∈ entities, e.rename.isEmpty = false →
      ∀ name, s.nameOf e = .ok name → '\n' ∉ name.toList)
    {text renamed : List Char} (h : Marked text)
    (run : entities.foldlM s.renameReferences text = .ok renamed) : Marked renamed :=
  foldlM_renameReferences_keeps
    (fun e member _ _ kept step => marked_renameReferences (oneLine e member) kept step) h run

/-- No text leaves the comment: right after each line feed stands the mark. -/
theorem comment_marked {s : Speller}
    (oneLine : ∀ entry ∈ s.renamed, ∀ name, s.typeName entry.1 = .ok name → '\n' ∉ name.toList)
    {d : Documentation} {text : String} (written : s.comment d = .ok text) :
    Marked text.toList := by
  obtain ⟨markdown, renamed, -, run, parts⟩ := comment_eq_ok written
  rw [parts]
  refine marked_foldlM_renameReferences ?_ (s.marked_stripReferences (marked_commentLines _)) run
  intro e member ruled name spelled
  obtain ⟨entry, listed, rfl⟩ := List.mem_map.mp member
  exact oneLine entry (mem_renamed.mpr ⟨listed, ruled⟩) name
    ((typeName_of_mem_all listed).trans spelled)

/-- A common beginning that reaches over the end of a line. -/
def brokenBeginning : Speller where
  exports := { handles := [{ name := "Foo", rename := ⟨some "Renamed"⟩ }] }
  sharedBeginning := some "Foo\n// "

theorem comment_marked_broken_beginning :
    Marked "Wraps \x60Bar\x60,\n//\n// or \x60Renamed\x60.".toList := by
  have written : brokenBeginning.comment
      { text := "Wraps \x60Foo\nBar\x60, \n\nor \x60Foo\x60." } =
        .ok "Wraps \x60Bar\x60,\n//\n// or \x60Renamed\x60." := by
    decide +kernel
  have names : ∀ entry ∈ brokenBeginning.renamed,
      brokenBeginning.typeName entry.1 = .ok "Renamed" := by
    decide +kernel
  refine comment_marked ?_ written
  intro entry ruled name named
  obtain rfl := Except.ok.inj ((names entry ruled).symm.trans named)
  decide

end Speller

end BindingNames.Koka
