import BindingNames.Proofs.Documentation.UniqueUrls

/-!
# The shape of URLs

A URL is the base of the crate, the folders of the modules and the end that belongs to the item. The
item takes as many elements from the end of the path as its kind asks for, or all of them if there
are fewer, so each element has its place. The same URL is made step by step with positions in the
path, which may lie before its beginning, and with tables of words that lack the kinds without one:
no step leaves an element out, takes one twice or asks a table for what it lacks.
-/

namespace BindingNames

namespace ItemKind

/-- The table of the words that begin a page's file name. Modules are not in it. -/
def label? : ItemKind → Option String
  | module => none
  | page item => some item.label
  | member item => some item.owner.label

/-- The table of the words that begin an anchor. Only members are in it. -/
def anchor? : ItemKind → Option String
  | member item => some item.anchor
  | _ => none

theorem label_of_label? {kind : ItemKind} {word : String} (found : kind.label? = some word) :
    kind.label = word := by
  cases kind with
  | module => cases found
  | page item => exact Option.some.inj found
  | member item => exact Option.some.inj found

theorem anchor_of_anchor? {kind : ItemKind} {word : String} (found : kind.anchor? = some word) :
    kind.anchor = word := by
  cases kind with
  | module => cases found
  | page item => cases found
  | member item => exact Option.some.inj found

end ItemKind

namespace Site

/-- The address on record for a crate, else the default one, else the common host. An empty address
counts as none. -/
inductive HasBase (s : Site) (crate : String) : String → Prop
  | own {address : String} (listed : s.hosts.lookup crate = some address)
      (filled : address ≠ "") : HasBase s crate address
  | fallback {address : String} (unlisted : ∀ own ∈ s.hosts.lookup crate, own = "")
      (given : s.fallback = some address) (filled : address ≠ "") : HasBase s crate address
  | common (unlisted : ∀ own ∈ s.hosts.lookup crate, own = "")
      (nothing : ∀ address ∈ s.fallback, address = "") : HasBase s crate commonHost

theorem given?_of_ne {address : String} (filled : address ≠ "") :
    given? (some address) = some address := by
  simp [given?, filled]

theorem given?_eq_none {address : Option String} (nothing : ∀ a ∈ address, a = "") :
    given? address = none := by
  simpa [given?, Option.filter_eq_none_iff] using nothing

theorem HasBase.base_eq {s : Site} {crate base : String} (h : s.HasBase crate base) :
    s.base crate = base := by
  cases h with
  | own listed filled => simp [Site.base, listed, given?_of_ne filled]
  | fallback unlisted given filled =>
    simp [Site.base, given?_eq_none unlisted, given, given?_of_ne filled]
  | common unlisted nothing =>
    simp [Site.base, given?_eq_none unlisted, given?_eq_none nothing]

/-- Every crate has a base. -/
theorem hasBase_base (s : Site) (crate : String) : s.HasBase crate (s.base crate) := by
  by_cases unlisted : ∀ own ∈ s.hosts.lookup crate, own = ""
  · by_cases nothing : ∀ address ∈ s.fallback, address = ""
    · rw [(HasBase.common unlisted nothing).base_eq]
      exact .common unlisted nothing
    · push Not at nothing
      obtain ⟨address, given, filled⟩ := nothing
      rw [(HasBase.fallback unlisted given filled).base_eq]
      exact .fallback unlisted given filled
  · push Not at unlisted
    obtain ⟨address, listed, filled⟩ := unlisted
    rw [(HasBase.own listed filled).base_eq]
    exact .own listed filled

/-- The end of a URL, by the elements of the path that name the item. -/
inductive Ending (kind : ItemKind) : List String → String → Prop
  | index : Ending kind [] "index.html"
  | page {label : String} (labelled : kind.label? = some label) (item : String) :
      Ending kind [item] (label ++ item ++ ".html")
  | place {label anchor : String} (labelled : kind.label? = some label)
      (anchored : kind.anchor? = some anchor) (item part : String) :
      Ending kind [item, part] (label ++ item ++ ".html" ++ anchor ++ part)

theorem Ending.eq_page {kind : ItemKind} {item : List String} {ending : String}
    (h : Ending kind item ending) : ending = Site.page kind item := by
  cases h with
  | index => rfl
  | page labelled item => rw [Site.page, ItemKind.label_of_label? labelled]
  | place labelled anchored item part =>
    rw [Site.page, ItemKind.label_of_label? labelled, ItemKind.anchor_of_anchor? anchored]

/-- The tables have the words for as many elements as the kind asks for. -/
theorem ending_page {kind : ItemKind} {item : List String} (short : item.length ≤ kind.depth) :
    Ending kind item (Site.page kind item) := by
  match kind, item, short with
  | _, [], _ => exact .index
  | .page p, [item], _ => exact .page rfl item
  | .member m, [item], _ => exact .page rfl item
  | .member m, [item, part], _ => exact .place rfl rfl item part

/-- What a URL is made of. On the common host the crate and the version come before the modules. -/
def IsUrl (s : Site) (l : Link) (url : String) : Prop :=
  ∃ crate base modules item ending, l.path.head? = some crate ∧ s.HasBase crate base ∧
    l.path = modules ++ item ∧ item.length = min l.kind.depth l.path.length ∧
    Ending l.kind item ending ∧
    url = closed base ++ (if closed base = commonHost then crate ++ "/latest/" else "") ++
      String.join (modules.map (fun m => m ++ "/")) ++ ending

theorem url_eq_error_iff {s : Site} {l : Link} {cause : NamingError} :
    s.url l = .error cause ↔ cause = .emptyPath ∧ l.path = [] := by
  unfold url
  split
  next empty => simp [empty, eq_comm]
  next crate rest path => simp [path]

theorem root_eq_append (s : Site) (crate : String) :
    s.root crate = closed (s.base crate) ++
      (if closed (s.base crate) = commonHost then crate ++ "/latest/" else "") := by
  simp only [root]
  split
  · rw [String.append_assoc]
  · rw [String.append_empty]

/-- The seam between modules and item is where the lengths put it. -/
theorem eq_modules_item {l : Link} {modules item : List String} (parts : l.path = modules ++ item)
    (length : item.length = min l.kind.depth l.path.length) :
    modules = l.modules ∧ item = l.item := by
  have whole : modules ++ item = l.modules ++ l.item := by rw [← parts, l.modules_append_item]
  have items : item.length = l.item.length := by rw [length, l.length_item]
  exact List.append_inj' whole items

theorem url_eq_ok_iff {s : Site} {l : Link} {url : String} :
    s.url l = .ok url ↔ s.IsUrl l url := by
  constructor
  · intro located
    have nonempty : l.path ≠ [] := by
      intro empty
      simp [Site.url, empty] at located
    obtain ⟨crate, rest, path⟩ := List.exists_cons_of_ne_nil nonempty
    have short : l.item.length ≤ l.kind.depth := by
      rw [l.length_item]
      exact Nat.min_le_left _ _
    refine ⟨crate, s.base crate, l.modules, l.item, page l.kind l.item, by rw [path]; rfl,
      s.hasBase_base crate, l.modules_append_item.symm, l.length_item, ending_page short, ?_⟩
    simp only [Site.url, path, root_eq_append] at located
    exact (Except.ok.inj located).symm
  · rintro ⟨crate, base, modules, item, ending, first, based, parts, length, ends, rfl⟩
    obtain ⟨rfl, rfl⟩ := eq_modules_item parts length
    obtain ⟨rest, path⟩ := List.head?_eq_some_iff.mp first
    simp only [Site.url, path, root_eq_append, based.base_eq, ends.eq_page, folders]

section

variable {α : Type}

/-- Where a position lies in a list of this length. A negative one counts from the end, and what
comes before the beginning lies at the beginning. -/
def offset (length : Nat) (position : Int) : Nat :=
  (if position < 0 then position + length else position).toNat

/-- The elements before a position. -/
def before (position : Int) (xs : List α) : List α := xs.take (offset xs.length position)

/-- The elements from a position on. -/
def onward (position : Int) (xs : List α) : List α := xs.drop (offset xs.length position)

end

/-- The end of a URL from the tables. There is none if a table lacks the word. -/
def page? (kind : ItemKind) : List String → Option String
  | [] => some "index.html"
  | item :: rest => do
    let label ← kind.label?
    match rest with
    | [] => return label ++ item ++ ".html"
    | part :: _ => do
      let anchor ← kind.anchor?
      return label ++ item ++ ".html" ++ anchor ++ part

/-- A URL made step by step. The inner result is missing if a table lacks a word. -/
def urlByPosition (s : Site) (l : Link) : Except NamingError (Option String) :=
  match l.path with
  | [] => .error .emptyPath
  | crate :: _ =>
    let position : Int := l.path.length - l.kind.depth
    let start := (before position l.path).foldl (fun url m => url ++ (m ++ "/")) (s.root crate)
    .ok ((page? l.kind (onward position l.path)).map (fun ending => start ++ ending))

theorem depth_le_two (kind : ItemKind) : kind.depth ≤ 2 := by
  cases kind <;> simp [ItemKind.depth]

/-- A position counted back from the end is negative only for a member whose path has one element,
and then it is the beginning. -/
theorem offset_item {l : Link} (nonempty : l.path ≠ []) :
    offset l.path.length (l.path.length - l.kind.depth) = l.path.length - l.kind.depth := by
  have filled := List.length_pos_iff.mpr nonempty
  have shallow := depth_le_two l.kind
  unfold offset
  split <;> omega

theorem foldl_folders (modules : List String) (start : String) :
    modules.foldl (fun url m => url ++ (m ++ "/")) start = start ++ folders modules := by
  induction modules generalizing start with
  | nil => simp
  | cons m modules inductionHypothesis =>
    have first : folders (m :: modules) = m ++ "/" ++ folders modules := by
      simpa using folders_cons_append m modules ""
    rw [List.foldl_cons, inductionHypothesis, first, String.append_assoc]

theorem Ending.page?_eq {kind : ItemKind} {item : List String} {ending : String}
    (h : Ending kind item ending) : page? kind item = some ending := by
  cases h with
  | index => rfl
  | page labelled item => simp [page?, labelled]
  | place labelled anchored item part => simp [page?, labelled, anchored]

/-- No element is left out or taken twice, and no table lacks a word. -/
theorem urlByPosition_eq (s : Site) (l : Link) : s.urlByPosition l = (s.url l).map some := by
  by_cases empty : l.path = []
  · simp [urlByPosition, url, empty, Except.map]
  · obtain ⟨crate, rest, path⟩ := List.exists_cons_of_ne_nil empty
    have modules : before (l.path.length - l.kind.depth) l.path = l.modules := by
      rw [before, offset_item empty, Link.modules]
    have item : onward (l.path.length - l.kind.depth) l.path = l.item := by
      rw [onward, offset_item empty, Link.item]
    have found : page? l.kind l.item = some (page l.kind l.item) := by
      apply (ending_page _).page?_eq
      rw [l.length_item]
      exact Nat.min_le_left _ _
    simp only [urlByPosition, url, modules, item, found, foldl_folders]
    simp only [path, Option.map_some, Except.map]

/-- A URL consists of the base, the folders and the end of the item, in which every element of the
path has its place. Only the empty path has none, and to make it step by step fails just as well. -/
theorem url_shape (s : Site) (l : Link) :
    (∀ cause, s.url l = .error cause ↔ cause = .emptyPath ∧ l.path = []) ∧
    (∀ url, s.url l = .ok url ↔ s.IsUrl l url) ∧ ((∃ url, s.IsUrl l url) ↔ l.path ≠ []) ∧
    s.urlByPosition l = (s.url l).map some := by
  refine ⟨fun cause => url_eq_error_iff, fun url => url_eq_ok_iff, ?_, urlByPosition_eq s l⟩
  simp only [← url_eq_ok_iff]
  cases located : s.url l with
  | ok url =>
    have nonempty : l.path ≠ [] := by
      intro empty
      simp [url_eq_error_iff.mpr ⟨rfl, empty⟩] at located
    simp [nonempty]
  | error cause => simp [(url_eq_error_iff.mp located).2]

/-- A field without its structure is named like a page, and the crate is all of its path. -/
example : ({ hosts := [("icu", "")], fallback := some "a" } : Site).url
    { path := ["icu"], kind := .member .structField } = .ok "a/struct.icu.html" := by
  decide +kernel

end Site

end BindingNames
