import BindingNames.Proofs.Documentation.Paragraphs
import BindingNames.Proofs.Documentation.UrlShape
import BindingNames.Proofs.Koka.UnmentionedTypes

/-!
# Comments that cannot be made

Markdown fails only for a link that is shown and has no path. A comment fails with its markdown, or
later at the first renamed type whose old name stands after a backtick by then and is forbidden, so
that there is no new one; the error names this type. So a failure is always that of a link or that
of one renamed type, and where neither is amiss there is a comment.
-/

namespace BindingNames

namespace Documentation

variable {site : Site} {d : Documentation} {cause : NamingError}

theorem seeAlso_eq_error_iff {l : Link} :
    seeAlso site l = .error cause ↔ cause = .emptyPath ∧ l.path = [] := by
  rw [seeAlso, bind_eq_error_iff, Site.url_eq_error_iff]
  simp [pure, Except.pure]

theorem exists_mem_linksAs_iff {p : Presentation} :
    (∃ l ∈ d.linksAs p, l.path = []) ↔ ∃ l ∈ d.links, l.presentation = p ∧ l.path = [] := by
  simp [linksAs, and_assoc]

/-- Markdown fails just if a link that is shown has no path. -/
theorem markdown_eq_error_iff {style : ProseStyle} :
    d.markdown site style = .error cause ↔
      cause = .emptyPath ∧ ∃ l ∈ d.links, l.presentation ≠ .hidden ∧ l.path = [] := by
  have alone (cause) : (d.linksAs .paragraph).mapM (seeAlso site) = .error cause ↔
      cause = .emptyPath ∧ ∃ l ∈ d.links, l.presentation = .paragraph ∧ l.path = [] := by
    rw [mapM_eq_error_iff (fun _ _ => seeAlso_eq_error_iff), exists_mem_linksAs_iff]
  have counted : (d.linksAs .numbered).mapM site.url = .error cause ↔
      cause = .emptyPath ∧ ∃ l ∈ d.links, l.presentation = .numbered ∧ l.path = [] := by
    rw [mapM_eq_error_iff (fun _ _ => Site.url_eq_error_iff), exists_mem_linksAs_iff]
  rw [markdown, bind_eq_error_iff]
  simp only [bind_eq_error_iff, alone, counted]
  constructor
  · rintro (⟨rfl, l, member, shown, empty⟩ |
      ⟨_, -, ⟨rfl, l, member, shown, empty⟩ | ⟨_, -, impossible⟩⟩)
    · exact ⟨rfl, l, member, by simp [shown], empty⟩
    · exact ⟨rfl, l, member, by simp [shown], empty⟩
    · cases impossible
  · rintro ⟨rfl, l, member, shown, empty⟩
    cases made : (d.linksAs .paragraph).mapM (seeAlso site) with
    | error other => exact .inl ⟨rfl, ((alone other).mp made).2⟩
    | ok paragraphs =>
      refine .inr ⟨paragraphs, rfl, .inl ⟨rfl, l, member, ?_, empty⟩⟩
      cases presented : l.presentation with
      | paragraph => simp [(alone .emptyPath).mpr ⟨rfl, l, member, presented, empty⟩] at made
      | numbered => rfl
      | hidden => exact absurd presented shown

end Documentation

end BindingNames

namespace BindingNames.Koka

open Text

namespace Speller

variable {s : Speller} {e : Entity} {text : List Char} {cause : NamingError}

/-- A type without a name to give is named by the error. -/
theorem entity_of_nameOf_eq_error (missing : s.nameOf e = .error cause) :
    ∃ diagnosis, cause.diagnosis? = some diagnosis ∧ diagnosis.entity = e.name := by
  simp only [nameOf] at missing
  split at missing
  next empty =>
    obtain rfl := Except.error.inj missing
    exact ⟨_, rfl, rfl⟩
  next left =>
    split at missing
    next core =>
      obtain rfl := Except.error.inj missing
      exact ⟨_, rfl, rfl⟩
    next free => cases missing

theorem exists_renameReferences_of_not_breaks (unbroken : ¬s.Breaks e text) :
    ∃ renamed, s.renameReferences text e = .ok renamed := by
  cases ruled : e.rename.isEmpty with
  | true => exact ⟨text, renameReferences_of_isEmpty s text ruled⟩
  | false =>
    by_cases forbidden : Forbidden (s.stripped e.name)
    · have absent : occurs (reference (s.stripped e.name)) text = false := by
        rw [← Bool.not_eq_true, occurs_iff]
        exact fun found => unbroken ⟨ruled, forbidden, found⟩
      exact ⟨text, by simp [renameReferences, absent]⟩
    · exact ⟨_, renameReferences_of_nameOf text ruled (nameOf_eq_ok_iff.mpr ⟨forbidden, rfl⟩)⟩

theorem renameReferences_eq_error_iff :
    s.renameReferences text e = .error cause ↔ s.Breaks e text ∧ s.nameOf e = .error cause := by
  constructor
  · intro fails
    have breaks : s.Breaks e text := by
      by_contra unbroken
      obtain ⟨renamed, made⟩ := exists_renameReferences_of_not_breaks unbroken
      simp [made] at fails
    obtain ⟨own, missing, same⟩ := renameReferences_of_breaks breaks
    obtain rfl := Except.error.inj (fails.symm.trans same)
    exact ⟨breaks, missing⟩
  · rintro ⟨breaks, missing⟩
    obtain ⟨own, named, fails⟩ := renameReferences_of_breaks breaks
    obtain rfl := Except.error.inj (missing.symm.trans named)
    exact fails

/-- The run over these types breaks off at this one, which has no name to give by then. -/
def BreaksOffAt (s : Speller) (entries : List (TypeRef × TypeDecl)) (text : List Char)
    (entry : TypeRef × TypeDecl) : Prop :=
  ∃ before after reached, entries = before ++ entry :: after ∧
    (before.map (fun entry => entry.2.entity)).foldlM s.renameReferences text = .ok reached ∧
    s.Breaks entry.2.entity reached

theorem breaksOffAt_cons {first entry : TypeRef × TypeDecl} {entries : List (TypeRef × TypeDecl)} :
    s.BreaksOffAt (first :: entries) text entry ↔
      (first = entry ∧ s.Breaks first.2.entity text) ∨
      ∃ next, s.renameReferences text first.2.entity = .ok next ∧
        s.BreaksOffAt entries next entry := by
  constructor
  · rintro ⟨before, after, reached, parts, run, breaks⟩
    cases before with
    | nil =>
      obtain ⟨rfl, rfl⟩ := List.cons.inj parts
      obtain rfl := Except.ok.inj run
      exact .inl ⟨rfl, breaks⟩
    | cons _ before =>
      obtain ⟨rfl, rfl⟩ := List.cons.inj parts
      rw [List.map_cons, List.foldlM_cons, bind_eq_ok_iff] at run
      obtain ⟨next, step, run⟩ := run
      exact .inr ⟨next, step, before, after, reached, rfl, run, breaks⟩
  · rintro (⟨rfl, breaks⟩ | ⟨next, step, before, after, reached, rfl, run, breaks⟩)
    · exact ⟨[], entries, text, rfl, rfl, breaks⟩
    · refine ⟨first :: before, after, reached, rfl, ?_, breaks⟩
      rw [List.map_cons, List.foldlM_cons, step]
      exact run

/-- A run fails where it breaks off, with the error of the name that is missing there. -/
theorem foldlM_renameReferences_eq_error_iff {entries : List (TypeRef × TypeDecl)} :
    (entries.map (fun entry => entry.2.entity)).foldlM s.renameReferences text = .error cause ↔
      ∃ entry, s.BreaksOffAt entries text entry ∧ s.nameOf entry.2.entity = .error cause := by
  induction entries generalizing text with
  | nil => simp [BreaksOffAt, pure, Except.pure]
  | cons first entries inductionHypothesis =>
    rw [List.map_cons, List.foldlM_cons, bind_eq_error_iff, renameReferences_eq_error_iff]
    simp only [inductionHypothesis, breaksOffAt_cons]
    constructor
    · rintro (⟨breaks, missing⟩ | ⟨next, step, entry, later, missing⟩)
      · exact ⟨first, .inl ⟨rfl, breaks⟩, missing⟩
      · exact ⟨entry, .inr ⟨next, step, later⟩, missing⟩
    · rintro ⟨entry, ⟨rfl, breaks⟩ | ⟨next, step, later⟩, missing⟩
      · exact .inl ⟨breaks, missing⟩
      · exact .inr ⟨next, step, entry, later, missing⟩

theorem BreaksOffAt.mem_renamed {entry : TypeRef × TypeDecl}
    (h : s.BreaksOffAt s.exports.all text entry) : entry ∈ s.renamed := by
  obtain ⟨before, after, reached, parts, -, breaks⟩ := h
  exact Speller.mem_renamed.mpr ⟨by simp [parts], breaks.ruled⟩

theorem BreaksOffAt.forbidden {entries : List (TypeRef × TypeDecl)} {entry : TypeRef × TypeDecl}
    (h : s.BreaksOffAt entries text entry) : Forbidden (s.stripped entry.2.entity.name) := by
  obtain ⟨before, after, reached, -, -, breaks⟩ := h
  exact breaks.forbidden

theorem BreaksOffAt.typeName_eq {entry : TypeRef × TypeDecl}
    (h : s.BreaksOffAt s.exports.all text entry) :
    s.typeName entry.1 = s.nameOf entry.2.entity :=
  typeName_of_mem_all (Speller.mem_renamed.mp h.mem_renamed).1

/-- A comment fails with its markdown, or where the run over all types breaks off. -/
theorem comment_eq_error_iff {d : Documentation} :
    s.comment d = .error cause ↔ d.markdown s.site = .error cause ∨
      ∃ markdown entry, d.markdown s.site = .ok markdown ∧
        s.BreaksOffAt s.exports.all (s.stripReferences (commentLines markdown.toList)) entry ∧
        s.typeName entry.1 = .error cause := by
  rw [comment, bind_eq_error_iff]
  refine or_congr_right (exists_congr fun markdown => ?_)
  rw [bind_eq_error_iff, foldlM_renameReferences_eq_error_iff]
  simp only [pure, Except.pure, reduceCtorEq, and_false, exists_false, or_false]
  constructor
  · rintro ⟨written, entry, breaks, missing⟩
    exact ⟨entry, written, breaks, breaks.typeName_eq.trans missing⟩
  · rintro ⟨entry, written, breaks, missing⟩
    exact ⟨written, entry, breaks, breaks.typeName_eq.symm.trans missing⟩

/-- The error of a comment is that of its markdown, or names a renamed type that has no name. -/
theorem comment_error_cases {d : Documentation} (fails : s.comment d = .error cause) :
    d.markdown s.site = .error cause ∨
      ∃ entry ∈ s.renamed, Forbidden (s.stripped entry.2.entity.name) ∧ ∃ diagnosis,
        cause.diagnosis? = some diagnosis ∧ diagnosis.entity = entry.2.entity.name := by
  rcases comment_eq_error_iff.mp fails with unwritten | ⟨markdown, entry, -, breaks, missing⟩
  · exact .inl unwritten
  · have named := entity_of_nameOf_eq_error (breaks.typeName_eq.symm.trans missing)
    exact .inr ⟨entry, breaks.mem_renamed, breaks.forbidden, named⟩

/-- Markdown fails for a shown link without a path. A comment fails with it, or for the first renamed
type that is asked for a new name and has none, which the error names; so if no renamed type has a
forbidden name and every shown link a path, there is a comment. -/
theorem comment_failures (s : Speller) (d : Documentation) :
    (∀ site style cause, d.markdown site style = .error cause ↔
      cause = .emptyPath ∧ ∃ l ∈ d.links, l.presentation ≠ .hidden ∧ l.path = []) ∧
    (s.comment d = .error .emptyPath ↔ d.markdown s.site = .error .emptyPath) ∧
    (∀ cause, s.comment d = .error cause ↔ d.markdown s.site = .error cause ∨
      ∃ markdown entry, d.markdown s.site = .ok markdown ∧
        s.BreaksOffAt s.exports.all (s.stripReferences (commentLines markdown.toList)) entry ∧
        s.typeName entry.1 = .error cause) ∧
    (∀ cause, s.comment d = .error cause → cause = .emptyPath ∨
      ∃ entry ∈ s.renamed, Forbidden (s.stripped entry.2.entity.name) ∧ ∃ diagnosis,
        cause.diagnosis? = some diagnosis ∧ diagnosis.entity = entry.2.entity.name) ∧
    ((∀ entry ∈ s.renamed, ¬Forbidden (s.stripped entry.2.entity.name)) →
      (∀ l ∈ d.links, l.presentation ≠ .hidden → l.path ≠ []) → ∃ text, s.comment d = .ok text) := by
  refine ⟨fun site style cause => Documentation.markdown_eq_error_iff, ⟨fun fails => ?_, ?_⟩,
    fun cause => comment_eq_error_iff, fun cause fails => ?_, fun free shown => ?_⟩
  · rcases comment_error_cases fails with unwritten | ⟨_, _, _, _, diagnosed, _⟩
    · exact unwritten
    · cases diagnosed
  · exact fun unwritten => comment_eq_error_iff.mpr (.inl unwritten)
  · exact (comment_error_cases fails).imp_left
      (fun unwritten => (Documentation.markdown_eq_error_iff.mp unwritten).1)
  · cases made : s.comment d with
    | ok text => exact ⟨text, rfl⟩
    | error cause =>
      rcases comment_error_cases made with unwritten | ⟨entry, ruled, forbidden, -⟩
      · obtain ⟨-, l, member, displayed, empty⟩ :=
          Documentation.markdown_eq_error_iff.mp unwritten
        exact absurd empty (shown l member displayed)
      · exact absurd forbidden (free entry ruled)

/-- Of these types, one is called after the other, which has no name in code. -/
def namesake : Speller where
  exports := { handles := [{ name := "A", rename := ⟨some "Object"⟩ },
    { name := "Object", rename := ⟨some "Thing"⟩ }] }

/-- The same without the other type. -/
def lone : Speller where
  exports := { handles := [{ name := "A", rename := ⟨some "Object"⟩ }] }

/-- The first type brings the reference for which the second one has no name. A type that is only
called so is no failure, and neither is a hidden link without a path. -/
theorem comment_failures_namesake :
    (namesake.comment { text := "\x60A\x60" } = .error (.coreTypeName "Object" "Object") ∧
      ∃ entry ∈ namesake.renamed, Forbidden (namesake.stripped entry.2.entity.name) ∧
        ∃ diagnosis, (NamingError.coreTypeName "Object" "Object").diagnosis? = some diagnosis ∧
          diagnosis.entity = entry.2.entity.name) ∧
    ∃ text, lone.comment { text := "\x60A\x60", links :=
      [{ path := [], kind := .module, presentation := .hidden }] } = .ok text := by
  have fails : namesake.comment { text := "\x60A\x60" } =
      .error (.coreTypeName "Object" "Object") := by
    decide +kernel
  have named := (comment_failures namesake { text := "\x60A\x60" }).2.2.2.1 _ fails
  have free : ∀ entry ∈ lone.renamed, ¬Forbidden (lone.stripped entry.2.entity.name) := by
    decide +kernel
  exact ⟨⟨fails, named.resolve_left (by decide)⟩,
    (comment_failures lone _).2.2.2.2 free (by decide)⟩

end Speller

end BindingNames.Koka
