import BindingNames.Proofs.Exports.Annotations
import BindingNames.Proofs.Koka.Renaming

/-!
# References in comments

A comment rewrites every backtick reference on its own: the common beginning is dropped once, and
the word that the reference then begins with is followed along the rules of the renamed types.
Without rules a comment is the markdown in comment lines.
-/

namespace BindingNames.Koka

open Text Unicode

theorem replaceStart_beginning (beginning : String) (segment : List Char) :
    replaceStart (fun _ => true) beginning.toList [] segment =
      (dropBeginning beginning (String.ofList segment)).toList := by
  by_cases starts : beginning.toList <+: segment
  · obtain ⟨rest, rfl⟩ := starts
    have matched : beginning.toList.isPrefixOf (beginning.toList ++ rest) = true := by simp
    rw [replaceStart, matched, Bool.and_self, if_pos rfl, String.ofList_append,
      String.ofList_toList, dropBeginning_append, List.drop_left, String.toList_ofList,
      List.nil_append]
  · have unmatched : beginning.toList.isPrefixOf segment = false := by
      simpa [← List.isPrefixOf_iff_prefix] using starts
    rw [replaceStart, unmatched, Bool.false_and, if_neg Bool.false_ne_true,
      dropBeginning_of_not_starts (by simpa using starts), String.toList_ofList]

namespace Speller

theorem stripReferences_eq_mapSegments {s : Speller} (worded : s.Worded) (text : List Char) :
    s.stripReferences text =
      mapSegments (fun segment => (s.stripped (String.ofList segment)).toList) text := by
  unfold stripReferences stripped
  cases given : s.sharedBeginning with
  | none =>
    have same : (fun segment => (String.ofList segment).toList) = id := by
      funext segment
      exact String.toList_ofList
    simp only [same, mapSegments_id]
  | some beginning =>
    have clear := backtick_not_mem (worded.beginning beginning given)
    have stops : StopsAtBacktick (fun _ => true) := fun _ _ _ => rfl
    simp only [reference, replace]
    rw [String.toList_empty, substitute_eq_mapSegments stops clear]
    exact mapSegments_congr text (fun segment _ => replaceStart_beginning beginning segment)

theorem renameReferences_of_isEmpty (s : Speller) (text : List Char) {e : Entity}
    (plain : e.rename.isEmpty = true) : s.renameReferences text e = .ok text := by
  simp [renameReferences, plain]

/-- Whether the old name occurs makes no difference once the new one exists. -/
theorem renameReferences_of_nameOf {s : Speller} (text : List Char) {e : Entity} {name : String}
    (ruled : e.rename.isEmpty = false) (spelled : s.nameOf e = .ok name) :
    s.renameReferences text e =
      .ok (substitute wordEnds (reference (s.stripped e.name)) (reference name) text) := by
  cases found : occurs (reference (s.stripped e.name)) text with
  | true => simp [renameReferences, ruled, found, spelled, bind, Except.bind, pure, Except.pure]
  | false => simp [renameReferences, found, substitute_of_not_occurs found]

/-- What one type can do to a text. -/
theorem renameReferences_cases {s : Speller} {e : Entity} {text renamed : List Char}
    (run : s.renameReferences text e = .ok renamed) :
    renamed = text ∨ e.rename.isEmpty = false ∧ ∃ name, s.nameOf e = .ok name ∧
      renamed = substitute wordEnds (reference (s.stripped e.name)) (reference name) text := by
  cases ruled : e.rename.isEmpty with
  | true => exact .inl (Except.ok.inj (run.symm.trans (renameReferences_of_isEmpty s text ruled)))
  | false =>
    cases spelled : s.nameOf e with
    | ok name =>
      have done := run.symm.trans (renameReferences_of_nameOf text ruled spelled)
      exact .inr ⟨rfl, name, rfl, Except.ok.inj done⟩
    | error e =>
      -- a name that does not exist is asked for only where the old one occurs
      simp only [renameReferences, ruled, spelled, Bool.false_or, bind, Except.bind] at run
      split at run
      next absent => exact .inl (Except.ok.inj run).symm
      next => simp at run

/-- A run over the types keeps what each of them keeps. -/
theorem foldlM_renameReferences_keeps {s : Speller} {Q : List Char → Prop} {entities : List Entity}
    (keeps : ∀ e ∈ entities, ∀ text renamed, Q text → s.renameReferences text e = .ok renamed →
      Q renamed)
    {text renamed : List Char} (h : Q text)
    (run : entities.foldlM s.renameReferences text = .ok renamed) : Q renamed := by
  induction entities generalizing text with
  | nil => exact Except.ok.inj run ▸ h
  | cons e entities inductionHypothesis =>
    rw [List.foldlM_cons] at run
    cases step : s.renameReferences text e with
    | error cause => simp [step, bind, Except.bind] at run
    | ok next =>
      rw [step] at run
      exact inductionHypothesis (fun later member => keeps later (List.mem_cons_of_mem _ member))
        (keeps e List.mem_cons_self text next h step) run

/-- Each type in turn maps the leading word of every segment along its rule. -/
theorem foldlM_renameReferences {s : Speller} (worded : s.Worded)
    {entries : List (TypeRef × TypeDecl)} (listed : ∀ entry ∈ entries, entry ∈ s.exports.all)
    (spelled : s.SpellsInWords s.renamed) (text : List Char) :
    (entries.map (fun entry => entry.2.entity)).foldlM s.renameReferences text =
      .ok (mapSegments (onLeadingWord (follow (entries.filterMap s.renaming?))) text) := by
  induction entries generalizing text with
  | nil =>
    rw [List.filterMap_nil, mapSegments_follow_nil]
    rfl
  | cons entry entries inductionHypothesis =>
    have known := listed entry List.mem_cons_self
    have later := inductionHypothesis (fun e member => listed e (List.mem_cons_of_mem _ member))
    rw [List.map_cons, List.foldlM_cons]
    cases plain : entry.2.entity.rename.isEmpty with
    | true =>
      rw [renameReferences_of_isEmpty s text plain,
        List.filterMap_cons_none (by simp [renaming?, plain])]
      exact later text
    | false =>
      obtain ⟨name, named, word⟩ := spelled entry (mem_renamed.mpr ⟨known, plain⟩)
      have old := chars_stripped (s := s) (worded.canonical entry known).chars
      have rule : s.renaming? entry = some (s.stripped entry.2.entity.name, name) :=
        renaming?_eq_some.mpr ⟨plain, rfl, named⟩
      rw [renameReferences_of_nameOf text plain ((typeName_of_mem_all known).symm.trans named),
        List.filterMap_cons_some rule, substitute_reference name old,
        ← mapSegments_follow_cons _ word.chars]
      exact later _

theorem comment_of_foldlM {s : Speller} {d : Documentation} {markdown : String}
    {renamed : List Char} (written : d.markdown s.site = .ok markdown)
    (run : (s.exports.all.map (fun entry => entry.2.entity)).foldlM s.renameReferences
      (s.stripReferences (commentLines markdown.toList)) = .ok renamed) :
    s.comment d = .ok (String.ofList renamed) := by
  simp [comment, written, run, bind, Except.bind, pure, Except.pure]

/-- What a comment is made of: the markdown, and a run over all types. -/
theorem comment_eq_ok {s : Speller} {d : Documentation} {text : String}
    (h : s.comment d = .ok text) :
    ∃ markdown renamed, d.markdown s.site = .ok markdown ∧
      (s.exports.all.map (fun entry => entry.2.entity)).foldlM s.renameReferences
        (s.stripReferences (commentLines markdown.toList)) = .ok renamed ∧
      text.toList = renamed := by
  cases written : d.markdown s.site with
  | error e => simp [comment, written, bind, Except.bind] at h
  | ok markdown =>
    cases run : (s.exports.all.map (fun entry => entry.2.entity)).foldlM s.renameReferences
        (s.stripReferences (commentLines markdown.toList)) with
    | error e => simp [comment, written, run, bind, Except.bind] at h
    | ok renamed =>
      rw [comment_of_foldlM written run] at h
      exact ⟨markdown, renamed, rfl, run, by rw [← Except.ok.inj h, String.toList_ofList]⟩

/-- Drops the common beginning of a segment, once, and maps the word that it then begins with. -/
def onReference (s : Speller) (f : String → String) (segment : List Char) : List Char :=
  onLeadingWord f (s.stripped (String.ofList segment)).toList

theorem onReference_toList (s : Speller) (f : String → String) {name : String}
    (chars : ∀ c ∈ name.toList, isWordChar c = true) :
    s.onReference f name.toList = (f (s.stripped name)).toList := by
  rw [onReference, String.ofList_toList, onLeadingWord_toList f (chars_stripped chars)]

/-- A comment follows the rules of all renamed types at every reference. -/
theorem comment_eq_follow {s : Speller} (worded : s.Worded)
    (spelled : s.SpellsInWords s.renamed) {d : Documentation} {markdown : String}
    (written : d.markdown s.site = .ok markdown) :
    s.comment d = .ok (String.ofList
      (mapSegments (s.onReference (follow s.renamings)) (commentLines markdown.toList))) := by
  apply comment_of_foldlM written
  have keeps : ∀ segment, backtick ∉ segment →
      backtick ∉ (s.stripped (String.ofList segment)).toList := by
    intro segment clear member
    exact clear (by simpa using (s.stripped_suffix _).subset member)
  rw [foldlM_renameReferences worded (fun _ member => member) spelled,
    stripReferences_eq_mapSegments worded, mapSegments_mapSegments _ keeps]
  rfl

/-- A text that no type changes comes out as it is. -/
theorem foldlM_renameReferences_of_fixed {s : Speller} {entities : List Entity} {text : List Char}
    (fixed : ∀ e ∈ entities, s.renameReferences text e = .ok text) :
    entities.foldlM s.renameReferences text = .ok text := by
  induction entities with
  | nil => rfl
  | cons e entities inductionHypothesis =>
    rw [List.foldlM_cons, fixed e List.mem_cons_self]
    exact inductionHypothesis (fun later member => fixed later (List.mem_cons_of_mem _ member))

theorem foldlM_renameReferences_of_isEmpty (s : Speller) {entities : List Entity}
    (plain : ∀ e ∈ entities, e.rename.isEmpty = true) (text : List Char) :
    entities.foldlM s.renameReferences text = .ok text :=
  foldlM_renameReferences_of_fixed
    (fun e member => renameReferences_of_isEmpty s text (plain e member))

/-- Without rules a comment is the markdown in comment lines, less the common beginning. -/
theorem comment_of_isEmpty {s : Speller}
    (plain : ∀ entry ∈ s.exports.all, entry.2.entity.rename.isEmpty = true) (d : Documentation) :
    s.comment d = (d.markdown s.site).map
      (fun markdown => String.ofList (s.stripReferences (commentLines markdown.toList))) := by
  cases written : d.markdown s.site with
  | error e => simp [comment, written, bind, Except.bind, Except.map]
  | ok markdown =>
    refine comment_of_foldlM written (foldlM_renameReferences_of_isEmpty s ?_ _)
    intro e member
    obtain ⟨entry, listed, rfl⟩ := List.mem_map.mp member
    exact plain entry listed

theorem comment_of_isEmpty_eq_ok {s : Speller}
    (plain : ∀ entry ∈ s.exports.all, entry.2.entity.rename.isEmpty = true) {d : Documentation}
    {text : String} (h : s.comment d = .ok text) :
    ∃ markdown, d.markdown s.site = .ok markdown ∧
      text.toList = s.stripReferences (commentLines markdown.toList) := by
  rw [comment_of_isEmpty plain] at h
  cases written : d.markdown s.site with
  | error e => simp [written, Except.map] at h
  | ok markdown =>
    rw [written] at h
    refine ⟨markdown, rfl, ?_⟩
    rw [← Except.ok.inj h, String.toList_ofList]

/-- The same exports and site, but no common beginning and no rules. -/
def plain (s : Speller) : Speller :=
  { s with exports := s.exports.unrenamed, sharedBeginning := none }

theorem comment_plain_eq_ok {s : Speller} {d : Documentation} {text : String}
    (h : s.plain.comment d = .ok text) :
    ∃ markdown, d.markdown s.site = .ok markdown ∧ text.toList = commentLines markdown.toList :=
  comment_of_isEmpty_eq_ok
    (fun _ listed => Exports.isEmpty_rename_of_mem_unrenamed listed) h

end Speller

end BindingNames.Koka
