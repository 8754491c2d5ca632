import BindingNames.Proofs.Exports.WithoutRule
import BindingNames.Proofs.Koka.References
import Mathlib.Data.List.Infix

/-!
# Types that a comment does not mention

A comment mentions a type if the name of the type stands whole after a backtick. Rules act on whole
names only, so the rule of a type that is not mentioned changes nothing. But the new name is asked
for as soon as the old one stands after a backtick, be it as the beginning of a longer word; if the
old name is forbidden there is no new one, and the comment fails.
-/

namespace BindingNames.Text

/-- Occurrences after which the rest never passes the test are never replaced. -/
theorem substitute_of_never {follows : List Char → Bool} {c : Char} {old new s : List Char}
    (never : ∀ before after, s = before ++ (c :: old ++ after) → follows after = false) :
    substitute follows (c :: old) new s = s := by
  induction s with
  | nil => exact substitute_nil _ _ _
  | cons d rest inductionHypothesis =>
    have later : substitute follows (c :: old) new rest = rest := by
      apply inductionHypothesis
      intro before after parts
      exact never (d :: before) after (by rw [parts]; rfl)
    rw [substitute_cons_skip, later]
    by_cases starts : (c :: old).isPrefixOf (d :: rest) = true
    · obtain ⟨after, parts⟩ := List.isPrefixOf_iff_prefix.mp starts
      have fails := never [] after parts.symm
      obtain ⟨rfl, rfl⟩ := List.cons.inj parts
      simp [fails]
    · simp [starts]

end BindingNames.Text

namespace BindingNames.Koka

open Text

/-- The name stands whole after a backtick. -/
def Mentions (text : List Char) (name : String) : Prop :=
  ∃ before after, text = before ++ (reference name ++ after) ∧ wordEnds after = true

theorem mentions_iff {text : List Char} {name : String} :
    Mentions text name ↔ ∃ rest ∈ text.tails, (reference name).isPrefixOf rest = true ∧
      wordEnds (rest.drop (reference name).length) = true := by
  constructor
  · rintro ⟨before, after, rfl, ends⟩
    refine ⟨reference name ++ after, ?_, by simp, by simpa using ends⟩
    exact (List.mem_tails _ _).mpr (List.suffix_append before _)
  · rintro ⟨rest, member, starts, ends⟩
    obtain ⟨before, rfl⟩ := (List.mem_tails _ _).mp member
    obtain ⟨after, rfl⟩ := List.isPrefixOf_iff_prefix.mp starts
    exact ⟨before, after, rfl, by simpa using ends⟩

instance (text : List Char) (name : String) : Decidable (Mentions text name) :=
  decidable_of_iff' _ mentions_iff

namespace Speller

theorem substitute_of_not_mentions {text : List Char} {old : String} (new : String)
    (unmentioned : ¬Mentions text old) :
    substitute wordEnds (reference old) (reference new) text = text := by
  apply substitute_of_never
  intro before after parts
  by_contra ends
  exact unmentioned ⟨before, after, parts, by simpa using ends⟩

theorem exists_nameOf_eq_error_iff {s : Speller} {e : Entity} :
    (∃ cause, s.nameOf e = .error cause) ↔ Forbidden (s.stripped e.name) := by
  cases spelled : s.nameOf e with
  | error cause =>
    by_contra contrary
    have free : ¬Forbidden (s.stripped e.name) := fun forbidden => contrary (by simp [forbidden])
    simp [nameOf_eq_ok_iff.mpr ⟨free, rfl⟩] at spelled
  | ok name => simp [(nameOf_eq_ok_iff.mp spelled).1]

/-- A rule without a new name is needed: the old name is forbidden and stands after a backtick. -/
structure Breaks (s : Speller) (e : Entity) (text : List Char) : Prop where
  ruled : e.rename.isEmpty = false
  forbidden : Forbidden (s.stripped e.name)
  occurs : reference (s.stripped e.name) <:+: text

theorem renameReferences_of_breaks {s : Speller} {e : Entity} {text : List Char}
    (breaks : s.Breaks e text) :
    ∃ cause, s.nameOf e = .error cause ∧ s.renameReferences text e = .error cause := by
  obtain ⟨cause, missing⟩ := exists_nameOf_eq_error_iff.mpr breaks.forbidden
  refine ⟨cause, missing, ?_⟩
  simp [renameReferences, breaks.ruled, occurs_iff.mpr breaks.occurs, missing, bind, Except.bind]

theorem renameReferences_of_not_mentions {s : Speller} {e : Entity} {text : List Char}
    (unmentioned : ¬Mentions text (s.stripped e.name)) (unbroken : ¬s.Breaks e text) :
    s.renameReferences text e = .ok text := by
  cases ruled : e.rename.isEmpty with
  | true => exact renameReferences_of_isEmpty s text ruled
  | false =>
    by_cases forbidden : Forbidden (s.stripped e.name)
    · have absent : occurs (reference (s.stripped e.name)) text = false := by
        rw [← Bool.not_eq_true, occurs_iff]
        exact fun found => unbroken ⟨ruled, forbidden, found⟩
      simp [renameReferences, absent]
    · rw [renameReferences_of_nameOf text ruled (nameOf_eq_ok_iff.mpr ⟨forbidden, rfl⟩),
        substitute_of_not_mentions _ unmentioned]

/-- The same speller, in whose exports the type at a position of a kind has no rule. -/
def withoutRule (s : Speller) (k : ExportKind) (i : Nat) : Speller :=
  { s with exports := s.exports.withoutRule k i }

section

variable {s : Speller} {k : ExportKind} {i : Nat} {d : TypeDecl} {doc : Documentation}
  {text : String}

/-- The comment without the rule is what the rules find. -/
theorem exists_markdown_of_withoutRule
    (only : ∀ entry ∈ s.exports.all, entry.1 ≠ .at k i → entry.2.entity.rename.isEmpty = true)
    (written : (s.withoutRule k i).comment doc = .ok text) :
    ∃ markdown, doc.markdown s.site = .ok markdown ∧
      text.toList = s.stripReferences (commentLines markdown.toList) := by
  have unruled : ∀ entry ∈ (s.withoutRule k i).exports.all, entry.2.entity.rename.isEmpty = true :=
    fun _ listed => Exports.isEmpty_rename_of_mem_withoutRule only listed
  exact comment_of_isEmpty_eq_ok unruled written

theorem comment_of_not_mentions
    (only : ∀ entry ∈ s.exports.all, entry.1 ≠ .at k i → entry.2.entity.rename.isEmpty = true)
    (resolved : s.exports.resolve (.at k i) = .ok d)
    (written : (s.withoutRule k i).comment doc = .ok text)
    (unmentioned : ¬Mentions text.toList (s.stripped d.entity.name))
    (unbroken : ¬s.Breaks d.entity text.toList) : s.comment doc = .ok text := by
  obtain ⟨markdown, given, lines⟩ := exists_markdown_of_withoutRule only written
  have run : (s.exports.all.map (fun entry => entry.2.entity)).foldlM s.renameReferences
      text.toList = .ok text.toList := by
    apply foldlM_renameReferences_of_fixed
    intro e member
    obtain ⟨⟨ref, f⟩, listed, rfl⟩ := List.mem_map.mp member
    by_cases own : ref = .at k i
    · subst own
      obtain rfl := Exports.decl_unique (Exports.mem_all_of_resolve resolved) listed
      exact renameReferences_of_not_mentions unmentioned unbroken
    · exact renameReferences_of_isEmpty s _ (only (ref, f) listed own)
  rw [lines] at run
  rw [comment_of_foldlM given run, ← lines, String.ofList_toList]

theorem comment_of_breaks
    (only : ∀ entry ∈ s.exports.all, entry.1 ≠ .at k i → entry.2.entity.rename.isEmpty = true)
    (resolved : s.exports.resolve (.at k i) = .ok d)
    (written : (s.withoutRule k i).comment doc = .ok text)
    (breaks : s.Breaks d.entity text.toList) :
    ∃ cause, s.typeName (.at k i) = .error cause ∧ s.comment doc = .error cause := by
  obtain ⟨markdown, given, lines⟩ := exists_markdown_of_withoutRule only written
  obtain ⟨cause, missing, fails⟩ := renameReferences_of_breaks breaks
  have listed := Exports.mem_all_of_resolve resolved
  obtain ⟨before, parts, others⟩ := Exports.all_eq_append_listedAfter listed
  -- the types in front of it have no rule, so the text comes to it as it is
  have run : (s.exports.all.map (fun entry => entry.2.entity)).foldlM s.renameReferences
      text.toList = .error cause := by
    have first : (before.map (fun entry => entry.2.entity)).foldlM s.renameReferences
        text.toList = .ok text.toList := by
      apply foldlM_renameReferences_of_isEmpty
      intro e member
      obtain ⟨entry, inFront, rfl⟩ := List.mem_map.mp member
      exact only entry (parts ▸ List.mem_append_left _ inFront) (others entry inFront)
    rw [parts, List.map_append, List.foldlM_append, first, List.map_cons]
    simp [bind, Except.bind, fails]
  refine ⟨cause, (typeName_of_mem_all listed).trans missing, ?_⟩
  rw [lines] at run
  simp [comment, given, run, bind, Except.bind]

/-- The rule of a type that a comment does not mention leaves the comment alone, unless it has no
name to give and the old name begins a word after a backtick. -/
theorem comment_unmentioned
    (only : ∀ entry ∈ s.exports.all, entry.1 ≠ .at k i → entry.2.entity.rename.isEmpty = true)
    (resolved : s.exports.resolve (.at k i) = .ok d)
    (written : (s.withoutRule k i).comment doc = .ok text)
    (unmentioned : ¬Mentions text.toList (s.stripped d.entity.name)) :
    (s.comment doc = .ok text ↔ ¬s.Breaks d.entity text.toList) ∧
    (s.Breaks d.entity text.toList →
      ∃ cause, s.typeName (.at k i) = .error cause ∧ s.comment doc = .error cause) := by
  refine ⟨⟨fun same breaks => ?_, ?_⟩, comment_of_breaks only resolved written⟩
  · obtain ⟨cause, -, fails⟩ := comment_of_breaks only resolved written breaks
    simp [same] at fails
  · exact comment_of_not_mentions only resolved written unmentioned

end

end Speller

/-- A renamed type whose old name is that of a core type. -/
def misnomer : Speller where
  exports := { handles := [{ name := "Widget" }, { name := "Object", rename := ⟨some "Thing"⟩ }] }

/-- A longer word after a backtick asks for the new name, and other words do not. -/
theorem comment_unmentioned_longer_word :
    (misnomer.typeName (.at .handle 1) = .error (.coreTypeName "Object" "Object") ∧
      misnomer.comment { text := "Of \x60Objects\x60." } =
        .error (.coreTypeName "Object" "Object")) ∧
    misnomer.comment { text := "An Object, or \x60Obj\x60." } =
      .ok "An Object, or \x60Obj\x60." := by
  have only : ∀ entry ∈ misnomer.exports.all, entry.1 ≠ .at .handle 1 →
      entry.2.entity.rename.isEmpty = true := by
    decide +kernel
  have resolved : misnomer.exports.resolve (.at .handle 1) =
      .ok (.handle { name := "Object", rename := ⟨some "Thing"⟩ }) := rfl
  have spelled : misnomer.typeName (.at .handle 1) = .error (.coreTypeName "Object" "Object") := by
    decide +kernel
  have asked : misnomer.Breaks { name := "Object", rename := ⟨some "Thing"⟩ }
      "Of \x60Objects\x60.".toList := ⟨rfl, by decide, by decide⟩
  have unasked : ¬misnomer.Breaks { name := "Object", rename := ⟨some "Thing"⟩ }
      "An Object, or \x60Obj\x60.".toList := fun breaks => absurd breaks.occurs (by decide)
  have written : (misnomer.withoutRule .handle 1).comment { text := "Of \x60Objects\x60." } =
      .ok "Of \x60Objects\x60." := by
    decide +kernel
  have written' : (misnomer.withoutRule .handle 1).comment
      { text := "An Object, or \x60Obj\x60." } = .ok "An Object, or \x60Obj\x60." := by
    decide +kernel
  have longer := Speller.comment_unmentioned only resolved written (by decide +kernel)
  have shorter := Speller.comment_unmentioned only resolved written' (by decide +kernel)
  obtain ⟨cause, missing, fails⟩ := longer.2 asked
  obtain rfl := Except.error.inj (spelled.symm.trans missing)
  exact ⟨⟨spelled, fails⟩, shorter.1.mpr unasked⟩

/-- The comment does not mention the type, and still its rule makes it fail. -/
theorem comment_fails_unmentioned :
    (∀ entry ∈ misnomer.exports.all, entry.1 ≠ .at .handle 1 →
      entry.2.entity.rename.isEmpty = true) ∧ misnomer.Worded ∧
    (misnomer.withoutRule .handle 1).comment { text := "\x60Objects\x60" } =
      .ok "\x60Objects\x60" ∧
    ¬Mentions "\x60Objects\x60".toList (misnomer.stripped "Object") ∧
    misnomer.comment { text := "\x60Objects\x60" } ≠ .ok "\x60Objects\x60" :=
  ⟨by decide +kernel, by decide +kernel, by decide +kernel, by decide +kernel, by decide +kernel⟩

end BindingNames.Koka
