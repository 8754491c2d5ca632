import BindingNames.Documentation.Markdown
import Mathlib.Data.List.Forall2

/-!
# Markdown as paragraphs

The markdown of a documentation is its paragraphs with a blank line between each two: the prose
unless it is empty, one paragraph for each link shown on its own, and one for all numbered links.
The same text comes from a single pass over the links in their order, which adds a paragraph or
puts a numbered link off; the invariant of the pass is that the text is the join of what was added.
-/

namespace BindingNames

namespace Text

theorem substitute_ne_nil {follows : List Char → Bool} {old new s : List Char} (given : new ≠ [])
    (filled : s ≠ []) : substitute follows old new s ≠ [] := by
  cases s with
  | nil => exact absurd rfl filled
  | cons c rest =>
    rw [substitute]
    split
    · simp [given]
    · simp

end Text

namespace ProseStyle

/-- No style makes a text empty. -/
theorem apply_eq_empty_iff (style : ProseStyle) (text : String) :
    style.apply text = "" ↔ text = "" := by
  cases style with
  | plain => rfl
  | evenBackticks =>
    constructor
    · intro empty
      have letters : pairBackticks text.toList = [] := by simpa [apply] using empty
      by_contra filled
      have halved : Text.substitute (fun _ => true) ['\x60', '\x60'] ['\x60'] text.toList ≠ [] :=
        Text.substitute_ne_nil (by simp) (by simpa using filled)
      exact Text.substitute_ne_nil (by simp) halved letters
    · rintro rfl
      simp [apply, pairBackticks]

end ProseStyle

section

variable {α β : Type} {f : α → Except NamingError β} {cause : NamingError}

/-- A computation in two parts succeeds just where both do. -/
theorem bind_eq_ok_iff {x : Except NamingError α} {b : β} :
    x >>= f = .ok b ↔ ∃ a, x = .ok a ∧ f a = .ok b := by
  cases x with
  | error e => simp [bind, Except.bind]
  | ok a => simp [bind, Except.bind]

/-- A computation in two parts fails in the first one, or in the second one after the first. -/
theorem bind_eq_error_iff {x : Except NamingError α} :
    x >>= f = .error cause ↔ x = .error cause ∨ ∃ a, x = .ok a ∧ f a = .error cause := by
  cases x with
  | error e => simp [bind, Except.bind]
  | ok a => simp [bind, Except.bind]

/-- Each element has an image, and the images are listed in order. -/
theorem mapM_eq_ok_iff {xs : List α} {ys : List β} :
    xs.mapM f = .ok ys ↔ List.Forall₂ (fun x y => f x = .ok y) xs ys := by
  induction xs generalizing ys with
  | nil => simp [pure, Except.pure, eq_comm]
  | cons x xs inductionHypothesis =>
    rw [List.mapM_cons, bind_eq_ok_iff, List.forall₂_cons_left_iff]
    simp only [bind_eq_ok_iff, inductionHypothesis]
    constructor
    · rintro ⟨y, image, rest, images, same⟩
      exact ⟨y, rest, image, images, (Except.ok.inj same).symm⟩
    · rintro ⟨y, rest, image, images, rfl⟩
      exact ⟨y, image, rest, images, rfl⟩

/-- Where all failures are of one cause, a list fails if an element does. -/
theorem mapM_eq_error_iff {only : NamingError} {Fails : α → Prop}
    (fails : ∀ x cause, f x = .error cause ↔ cause = only ∧ Fails x) {xs : List α} :
    xs.mapM f = .error cause ↔ cause = only ∧ ∃ x ∈ xs, Fails x := by
  induction xs with
  | nil => simp [pure, Except.pure]
  | cons x xs inductionHypothesis =>
    rw [List.mapM_cons, List.exists_mem_cons_iff]
    cases image : f x with
    | error other =>
      obtain ⟨rfl, here⟩ := (fails x other).mp image
      simp [bind, Except.bind, here, eq_comm]
    | ok y =>
      have fine : ¬Fails x := by
        intro here
        simp [(fails x only).mpr ⟨rfl, here⟩] at image
      have later : Except.ok y >>= (fun y => xs.mapM f >>= fun ys => pure (y :: ys)) =
          .error cause ↔ xs.mapM f = .error cause := by
        cases xs.mapM f <;> simp [bind, Except.bind, pure, Except.pure]
      rw [later, inductionHypothesis, or_iff_right fine]

end

namespace Documentation

theorem append_ne_empty {beginning rest : String} (filled : beginning ≠ "") :
    "" ≠ beginning ++ rest :=
  fun empty => filled (String.append_eq_empty_iff.mp empty.symm).1

/-- A text as paragraphs: none if it is empty. -/
def asParagraph (text : String) : List String := if text = "" then [] else [text]

/-- Paragraphs with a blank line between each two. -/
def join (paragraphs : List String) : String := "\n\n".intercalate paragraphs

theorem empty_not_mem_asParagraph (text : String) : "" ∉ asParagraph text := by
  unfold asParagraph
  split
  next => exact List.not_mem_nil
  next filled => simpa [eq_comm] using filled

theorem asParagraph_eq_nil_iff {text : String} : asParagraph text = [] ↔ text = "" := by
  simp [asParagraph]

theorem join_asParagraph (text : String) : join (asParagraph text) = text := by
  unfold asParagraph
  split
  next empty => simp [join, empty]
  next => simp [join]

theorem join_eq_empty_iff {paragraphs : List String} (filled : "" ∉ paragraphs) :
    join paragraphs = "" ↔ paragraphs = [] := by
  cases paragraphs with
  | nil => simp [join]
  | cons p ps =>
    cases ps with
    | nil => simpa [join, eq_comm] using filled
    | cons q ps => simp [join]

/-- What is added to a joined text stands after a blank line, unless there is nothing before it. -/
theorem addParagraph_join {paragraphs : List String} (filled : "" ∉ paragraphs) (p : String) :
    addParagraph (join paragraphs) p = join (paragraphs ++ [p]) := by
  unfold addParagraph
  split
  next empty => simp [(join_eq_empty_iff filled).mp empty, join]
  next written =>
    have some : paragraphs ≠ [] := fun none => written ((join_eq_empty_iff filled).mpr none)
    simp [join, String.intercalate_append_of_ne_nil some]

theorem foldl_addParagraph_join {paragraphs more : List String} (filled : "" ∉ paragraphs)
    (moreFilled : "" ∉ more) :
    more.foldl addParagraph (join paragraphs) = join (paragraphs ++ more) := by
  induction more generalizing paragraphs with
  | nil => simp
  | cons p more inductionHypothesis =>
    obtain ⟨pFilled, rest⟩ : "" ≠ p ∧ "" ∉ more := by simpa using moreFilled
    have both : "" ∉ paragraphs ++ [p] := by simp [filled, pFilled]
    rw [List.foldl_cons, addParagraph_join filled, inductionHypothesis both rest,
      List.append_assoc, List.singleton_append]

/-- What a pass over the links has made so far: the text, and the links put off to the end. -/
structure Draft where
  text : String
  numbered : List Link := []

namespace Draft

/-- Reads one link: adds its paragraph, puts it off, or passes it over. -/
def read (site : Site) (s : Draft) (l : Link) : Except NamingError Draft :=
  match l.presentation with
  | .paragraph => do
    let paragraph ← seeAlso site l
    return { s with text := addParagraph s.text paragraph }
  | .numbered => return { s with numbered := s.numbered ++ [l] }
  | .hidden => return s

/-- Adds the paragraph of the links that were put off. -/
def finish (site : Site) (s : Draft) : Except NamingError String := do
  let urls ← s.numbered.mapM site.url
  return if urls.isEmpty then s.text else addParagraph s.text (references urls)

/-- A run adds the paragraphs of the links shown on their own, and puts off the numbered ones. -/
theorem foldlM_read (site : Site) (s : Draft) (links : List Link) :
    links.foldlM (read site) s = (do
      let paragraphs ← (links.filter (·.presentation = .paragraph)).mapM (seeAlso site)
      return ⟨paragraphs.foldl addParagraph s.text,
        s.numbered ++ links.filter (·.presentation = .numbered)⟩) := by
  induction links generalizing s with
  | nil => simp
  | cons l links inductionHypothesis =>
    rw [List.foldlM_cons]
    cases shown : l.presentation with
    | paragraph => simp [read, shown, inductionHypothesis]
    | numbered => simp [read, shown, inductionHypothesis]
    | hidden => simp [read, shown, inductionHypothesis]

end Draft

/-- The markdown is what one pass over the links makes, in whatever order they stand. -/
theorem markdown_eq_pass (d : Documentation) (site : Site) (style : ProseStyle) :
    d.markdown site style = (d.links.foldlM (Draft.read site) ⟨style.apply d.text, []⟩ >>=
      Draft.finish site) := by
  rw [Draft.foldlM_read]
  simp [markdown, Draft.finish, linksAs]

/-- The sentence that sends the reader to the page of a link. -/
def IsSeeAlso (site : Site) (l : Link) (paragraph : String) : Prop :=
  ∃ item url, l.path.getLast? = some item ∧ site.url l = .ok url ∧
    paragraph = "See the [Rust documentation for `" ++ item ++ "`](" ++ url ++
      ") for more information."

/-- A page that is referred to by a number. -/
def reference (number : Nat) (url : String) : String :=
  "[" ++ toString number ++ "](" ++ url ++ ")"

/-- The last paragraph, if any page is referred to by a number. They count from one. -/
def additional (urls : List String) : List String :=
  if urls = [] then []
  else ["Additional information: " ++
    ", ".intercalate (urls.mapIdx (fun i url => reference (i + 1) url))]

theorem additional_eq_nil_iff {urls : List String} : additional urls = [] ↔ urls = [] := by
  simp [additional]

theorem empty_not_mem_additional (urls : List String) : "" ∉ additional urls := by
  unfold additional
  split
  next => exact List.not_mem_nil
  next => simp

theorem seeAlso_eq_ok_iff {site : Site} {l : Link} {paragraph : String} :
    seeAlso site l = .ok paragraph ↔ IsSeeAlso site l paragraph := by
  rw [seeAlso, bind_eq_ok_iff]
  constructor
  · rintro ⟨url, located, same⟩
    have nonempty : l.path ≠ [] := by
      intro empty
      simp [Site.url, empty] at located
    obtain ⟨item, last⟩ := Option.isSome_iff_exists.mp (List.getLast?_isSome.mpr nonempty)
    refine ⟨item, url, last, located, ?_⟩
    simpa [last] using (Except.ok.inj same).symm
  · rintro ⟨item, url, last, located, rfl⟩
    exact ⟨url, located, by simp [last, pure, Except.pure]⟩

theorem IsSeeAlso.ne_empty {site : Site} {l : Link} {paragraph : String}
    (h : IsSeeAlso site l paragraph) : "" ≠ paragraph := by
  obtain ⟨item, url, -, -, rfl⟩ := h
  simp only [String.append_assoc]
  exact append_ne_empty (by decide)

theorem empty_not_mem_of_forall₂ {site : Site} {links : List Link} {alone : List String}
    (written : List.Forall₂ (IsSeeAlso site) links alone) : "" ∉ alone := by
  induction written with
  | nil => exact List.not_mem_nil
  | cons here _ inductionHypothesis => simp [here.ne_empty, inductionHypothesis]

theorem mapIdx_eq_zipIdx_one {α β : Type} (f : α → Nat → β) (xs : List α) :
    xs.mapIdx (fun i x => f x (i + 1)) = (xs.zipIdx 1).map (fun (x, i) => f x i) := by
  rw [List.mapIdx_eq_zipIdx_map, List.zipIdx_eq_map_add (i := 1), List.map_map]
  simp only [Function.comp_def, Nat.add_comm]

theorem references_eq (urls : List String) :
    references urls = "Additional information: " ++
      ", ".intercalate (urls.mapIdx (fun i url => reference (i + 1) url)) := by
  rw [mapIdx_eq_zipIdx_one (fun url i => reference i url)]
  rfl

/-- The paragraph of the numbered links is the last of all. -/
theorem addParagraph_references {paragraphs : List String} (filled : "" ∉ paragraphs)
    (urls : List String) :
    (if urls.isEmpty then join paragraphs else addParagraph (join paragraphs) (references urls)) =
      join (paragraphs ++ additional urls) := by
  cases urls with
  | nil => simp [additional]
  | cons url urls =>
    have shown : additional (url :: urls) = [references (url :: urls)] := by
      rw [additional, if_neg (List.cons_ne_nil url urls), references_eq]
    rw [shown]
    exact addParagraph_join filled _

/-- The paragraphs of the links shown on their own follow the prose, and those of the numbered ones
both. -/
theorem markdown_eq_ok_iff {d : Documentation} {site : Site} {style : ProseStyle} {text : String} :
    d.markdown site style = .ok text ↔
      ∃ alone urls, List.Forall₂ (IsSeeAlso site) (d.linksAs .paragraph) alone ∧
        List.Forall₂ (fun l url => site.url l = .ok url) (d.linksAs .numbered) urls ∧
        text = join (asParagraph (style.apply d.text) ++ alone ++ additional urls) := by
  have body {alone : List String} (urls : List String)
      (written : List.Forall₂ (IsSeeAlso site) (d.linksAs .paragraph) alone) :
      (if urls.isEmpty then alone.foldl addParagraph (style.apply d.text)
        else addParagraph (alone.foldl addParagraph (style.apply d.text)) (references urls)) =
        join (asParagraph (style.apply d.text) ++ alone ++ additional urls) := by
    have prose : "" ∉ asParagraph (style.apply d.text) := empty_not_mem_asParagraph _
    have filled : "" ∉ alone := empty_not_mem_of_forall₂ written
    have joined : alone.foldl addParagraph (style.apply d.text) =
        join (asParagraph (style.apply d.text) ++ alone) := by
      rw [← foldl_addParagraph_join prose filled, join_asParagraph]
    rw [joined, addParagraph_references (by simp [prose, filled])]
  rw [markdown]
  simp only [bind_eq_ok_iff, mapM_eq_ok_iff, seeAlso_eq_ok_iff]
  constructor
  · rintro ⟨alone, written, urls, located, same⟩
    exact ⟨alone, urls, written, located, (Except.ok.inj same).symm.trans (body urls written)⟩
  · rintro ⟨alone, urls, written, located, rfl⟩
    exact ⟨alone, written, urls, located, congrArg Except.ok (body urls written)⟩

theorem linksAs_eq_nil_iff {d : Documentation} {p : Presentation} :
    d.linksAs p = [] ↔ ∀ l ∈ d.links, l.presentation ≠ p := by
  simp [linksAs, List.filter_eq_nil_iff]

theorem markdown_eq_empty_iff {d : Documentation} {site : Site} {style : ProseStyle} :
    d.markdown site style = .ok "" ↔ d.text = "" ∧ ∀ l ∈ d.links, l.presentation = .hidden := by
  rw [markdown_eq_ok_iff]
  constructor
  · rintro ⟨alone, urls, written, located, empty⟩
    have filled : "" ∉ asParagraph (style.apply d.text) ++ alone ++ additional urls := by
      simp [empty_not_mem_asParagraph, empty_not_mem_of_forall₂ written, empty_not_mem_additional]
    have nothing := (join_eq_empty_iff filled).mp empty.symm
    simp only [List.append_eq_nil_iff, asParagraph_eq_nil_iff, additional_eq_nil_iff,
      style.apply_eq_empty_iff] at nothing
    obtain ⟨⟨prose, rfl⟩, rfl⟩ := nothing
    have none := linksAs_eq_nil_iff.mp (List.forall₂_nil_right_iff.mp written)
    have unnumbered := linksAs_eq_nil_iff.mp (List.forall₂_nil_right_iff.mp located)
    refine ⟨prose, fun l member => ?_⟩
    cases shown : l.presentation with
    | paragraph => exact absurd shown (none l member)
    | numbered => exact absurd shown (unnumbered l member)
    | hidden => rfl
  · rintro ⟨prose, hidden⟩
    have none (p : Presentation) (displayed : p ≠ .hidden) : d.linksAs p = [] :=
      linksAs_eq_nil_iff.mpr fun l member => hidden l member ▸ displayed.symm
    refine ⟨[], [], ?_, ?_, ?_⟩
    · rw [none .paragraph (by decide)]
      exact .nil
    · rw [none .numbered (by decide)]
      exact .nil
    · simp [asParagraph, additional, join, style.apply_eq_empty_iff, prose]

/-- The markdown is the prose, a paragraph for each link shown on its own and one for all numbered
links, with a blank line between each two. One pass over the links makes it, in whatever order they
stand; so it depends on the prose and on the two sequences of displayed links only, and it is empty
just where there is neither prose nor a displayed link. -/
theorem markdown_joins_paragraphs (d : Documentation) (site : Site) (style : ProseStyle) :
    (∀ text, d.markdown site style = .ok text ↔
      ∃ alone urls, List.Forall₂ (IsSeeAlso site) (d.linksAs .paragraph) alone ∧
        List.Forall₂ (fun l url => site.url l = .ok url) (d.linksAs .numbered) urls ∧
        text = join (asParagraph (style.apply d.text) ++ alone ++ additional urls)) ∧
    d.markdown site style = (d.links.foldlM (Draft.read site) ⟨style.apply d.text, []⟩ >>=
      Draft.finish site) ∧
    (∀ e : Documentation, e.text = d.text → e.linksAs .paragraph = d.linksAs .paragraph →
      e.linksAs .numbered = d.linksAs .numbered → e.markdown site style = d.markdown site style) ∧
    (d.markdown site style = .ok "" ↔ d.text = "" ∧ ∀ l ∈ d.links, l.presentation = .hidden) := by
  refine ⟨fun text => markdown_eq_ok_iff, d.markdown_eq_pass site style, ?_, markdown_eq_empty_iff⟩
  intro e prose alone numbered
  simp only [markdown, prose, alone, numbered]

/-- A numbered link may come before the one shown on its own, and a hidden one needs no path. -/
theorem markdown_joins_paragraphs_interleaved :
    let page : Link := { path := ["icu", "Locale"], kind := .page .struct }
    let numbered : Link := { path := ["icu"], kind := .module, presentation := .numbered }
    let hidden : Link := { path := [], kind := .module, presentation := .hidden }
    let d : Documentation := { text := "`A`", links := [numbered, hidden, page] }
    let e : Documentation := { text := "`A`", links := [page, numbered] }
    (e.text = d.text ∧ e.linksAs .paragraph = d.linksAs .paragraph ∧
      e.linksAs .numbered = d.linksAs .numbered) ∧
    e.markdown {} .evenBackticks = d.markdown {} .evenBackticks ∧
    d.markdown {} .evenBackticks = .ok ("``A``\n\nSee the [Rust documentation for `Locale`]" ++
      "(https://docs.rs/icu/latest/icu/struct.Locale.html) for more information.\n\n" ++
      "Additional information: [1](https://docs.rs/icu/latest/icu/index.html)") := by
  intro page numbered hidden d e
  have alone : e.linksAs .paragraph = d.linksAs .paragraph := by decide
  have counted : e.linksAs .numbered = d.linksAs .numbered := by decide
  obtain ⟨written, -, depends, -⟩ := markdown_joins_paragraphs d {} .evenBackticks
  refine ⟨⟨rfl, alone, counted⟩, depends e rfl alone counted, (written _).mpr ?_⟩
  refine ⟨_, ["https://docs.rs/icu/latest/icu/index.html"], .cons ⟨"Locale", _, rfl, rfl, rfl⟩ .nil,
    .cons rfl .nil, ?_⟩
  decide +kernel

end Documentation

end BindingNames
