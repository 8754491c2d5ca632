import BindingNames.Proofs.Documentation.ItemNames

/-!
# Items and their URLs

Under one base, the URL of a link determines the item. No folder and no page holds a slash, so the
first slash ends the first folder and the page is what follows the last one. On the common host the
crate and the version come before the path; whether they do depends on the base alone.
-/

namespace BindingNames

open Text Site

namespace Link

def crate (l : Link) : String := l.path.headD ""

/-- The elements are free of the characters that part a URL, and there are enough of them to name
an item of the kind. -/
structure Addressable (l : Link) : Prop where
  clear : ∀ element ∈ l.path, '/' ∉ element.toList ∧ '#' ∉ element.toList
  complete : max 1 l.kind.depth ≤ l.path.length

instance (l : Link) : Decidable l.Addressable :=
  decidable_of_iff ((∀ element ∈ l.path, '/' ∉ element.toList ∧ '#' ∉ element.toList) ∧
    max 1 l.kind.depth ≤ l.path.length) ⟨fun h => ⟨h.1, h.2⟩, fun h => ⟨h.clear, h.complete⟩⟩

namespace Addressable

variable {l : Link}

theorem path_ne_nil (h : l.Addressable) : l.path ≠ [] := by
  have complete := h.complete
  intro empty
  simp [empty] at complete

theorem crate_mem (h : l.Addressable) : l.crate ∈ l.path := by
  obtain ⟨first, rest, path⟩ := List.exists_cons_of_ne_nil h.path_ne_nil
  simp [Link.crate, path]

/-- The elements that name the item are the name of one, and free of slashes and hash signs. -/
theorem exists_itemName (h : l.Addressable) :
    ∃ x : ItemName, x.kind = l.kind ∧ x.elements = l.item ∧ x.Lacks '/' ∧ x.Lacks '#' := by
  have enough := h.complete
  obtain ⟨x, kind, elements⟩ := ItemName.exists_of_length
    (show l.item.length = l.kind.depth by rw [length_item]; omega)
  have inPath : ∀ element ∈ x.elements, element ∈ l.path := by
    intro element member
    rw [elements] at member
    exact List.mem_of_mem_drop member
  exact ⟨x, kind, elements, fun element member => (h.clear element (inPath element member)).1,
    fun element member => (h.clear element (inPath element member)).2⟩

end Addressable

end Link

namespace Site

@[simp] theorem folders_nil : folders [] = "" := rfl

theorem folders_cons_append (m : String) (ms : List String) (p : String) :
    folders (m :: ms) ++ p = m ++ "/" ++ (folders ms ++ p) := by
  simp [folders, String.append_assoc]

@[simp] theorem folders_append (ms ns : List String) :
    folders (ms ++ ns) = folders ms ++ folders ns := by
  simp [folders]

/-- What holds no slash has no folder before it. -/
theorem ne_folders_append {p : String} (clear : '/' ∉ p.toList) (m : String) (ms : List String)
    (q : String) : p ≠ folders (m :: ms) ++ q := by
  rintro rfl
  simp [folders_cons_append] at clear

/-- Folders and the page after them are read back from their text. -/
theorem folders_page_inj {ms ns : List String} {p q : String}
    (left : ∀ m ∈ ms, '/' ∉ m.toList) (right : ∀ n ∈ ns, '/' ∉ n.toList)
    (leftPage : '/' ∉ p.toList) (rightPage : '/' ∉ q.toList) :
    folders ms ++ p = folders ns ++ q ↔ ms = ns ∧ p = q := by
  have slash : "/".toList = ['/'] := rfl
  induction ms generalizing ns with
  | nil =>
    cases ns with
    | nil => simp
    | cons n ns =>
      have longer := ne_folders_append leftPage n ns q
      simp only [folders_nil, String.empty_append, longer, reduceCtorEq, false_and]
  | cons m ms inductionHypothesis =>
    cases ns with
    | nil =>
      have longer := (ne_folders_append rightPage m ms p).symm
      simp only [folders_nil, String.empty_append, longer, reduceCtorEq, false_and]
    | cons n ns =>
      obtain ⟨mClear, msClear⟩ := List.forall_mem_cons.mp left
      obtain ⟨nClear, nsClear⟩ := List.forall_mem_cons.mp right
      have rest : folders ms ++ p = folders ns ++ q ↔ ms = ns ∧ p = q :=
        inductionHypothesis msClear nsClear
      rw [folders_cons_append, folders_cons_append,
        (endsAtFirst_append slash mClear).append_inj (endsAtFirst_append slash nClear), rest,
        String.append_left_inj, List.cons.injEq, and_assoc]

/-- The folders between the base of a crate and its modules. -/
def hostFolders (s : Site) (crate : String) : List String :=
  if closed (s.base crate) = commonHost then [crate, "latest"] else []

theorem root_eq (s : Site) (crate : String) :
    s.root crate = closed (s.base crate) ++ folders (s.hostFolders crate) := by
  have latest : folders [crate, "latest"] = crate ++ "/latest/" := by
    simp [folders, String.append_assoc]
  simp only [root, hostFolders]
  split
  · rw [latest, String.append_assoc]
  · rw [folders_nil, String.append_empty]

/-- Every folder between the base of a link and its page. -/
def linkFolders (s : Site) (l : Link) : List String := s.hostFolders l.crate ++ l.modules

theorem url_eq (s : Site) {l : Link} (nonempty : l.path ≠ []) :
    s.url l =
      .ok (closed (s.base l.crate) ++ (folders (s.linkFolders l) ++ page l.kind l.item)) := by
  obtain ⟨crate, rest, path⟩ := List.exists_cons_of_ne_nil nonempty
  have first : l.crate = crate := by simp [Link.crate, path]
  simp only [url, path, root_eq, linkFolders, first, folders_append, String.append_assoc]

theorem slash_not_mem_linkFolders (s : Site) {l : Link} (h : l.Addressable) :
    ∀ folder ∈ s.linkFolders l, '/' ∉ folder.toList := by
  intro folder member
  rcases List.mem_append.mp member with host | inModules
  · unfold hostFolders at host
    split at host
    · rcases List.mem_pair.mp host with rfl | rfl
      · exact (h.clear _ h.crate_mem).1
      · decide
    · cases host
  · exact (h.clear folder (List.mem_of_mem_take inModules)).1

/-- Whether the crate and the version come first depends on the base alone. -/
theorem modules_eq_of_linkFolders_eq (s : Site) {a b : Link}
    (bases : closed (s.base a.crate) = closed (s.base b.crate))
    (same : s.linkFolders a = s.linkFolders b) : a.modules = b.modules := by
  unfold linkFolders hostFolders at same
  rw [bases] at same
  split at same
  · exact (List.append_inj same rfl).2
  · exact same

/-- Links under one base have one URL exactly if they name one item. -/
theorem url_eq_iff (s : Site) {a b : Link} (left : a.Addressable) (right : b.Addressable)
    (bases : closed (s.base a.crate) = closed (s.base b.crate)) :
    (∃ url, s.url a = .ok url ∧ s.url b = .ok url) ↔ a.path = b.path ∧ a.kind = b.kind := by
  rw [s.url_eq left.path_ne_nil, s.url_eq right.path_ne_nil]
  constructor
  · rintro ⟨url, urlLeft, urlRight⟩
    obtain ⟨x, xKind, xElements, xSlash, xHash⟩ := left.exists_itemName
    obtain ⟨y, yKind, yElements, ySlash, yHash⟩ := right.exists_itemName
    have texts := Except.ok.inj (urlLeft.trans urlRight.symm)
    rw [bases, String.append_right_inj, ← xKind, ← xElements, ← yKind, ← yElements,
      folders_page_inj (s.slash_not_mem_linkFolders left) (s.slash_not_mem_linkFolders right)
        (ItemName.slash_not_mem_page xSlash) (ItemName.slash_not_mem_page ySlash)] at texts
    obtain ⟨folders, pages⟩ := texts
    obtain rfl := ItemName.eq_of_page_eq xHash yHash pages
    have items : a.item = b.item := xElements.symm.trans yElements
    have modules := s.modules_eq_of_linkFolders_eq bases folders
    exact ⟨by rw [← a.modules_append_item, ← b.modules_append_item, modules, items],
      xKind.symm.trans yKind⟩
  · rintro ⟨paths, kinds⟩
    refine ⟨_, rfl, ?_⟩
    simp only [linkFolders, Link.crate, Link.modules, Link.item, paths, kinds]

/-- A method on a structure shares its URL with its hidden link, but not with a method of the same
path on an enumeration. -/
theorem url_eq_iff_methods :
    let shown : Link := { path := ["icu", "Locale", "new"], kind := .member .structMethod }
    let hidden : Link := { shown with presentation := .hidden }
    let onEnum : Link := { shown with kind := .member .enumMethod }
    (shown.Addressable ∧ hidden.Addressable ∧ onEnum.Addressable) ∧
      (∃ url, ({} : Site).url shown = .ok url ∧ ({} : Site).url hidden = .ok url) ∧
      ¬ ∃ url, ({} : Site).url shown = .ok url ∧ ({} : Site).url onEnum = .ok url := by
  intro shown hidden onEnum
  have shownAddressable : shown.Addressable := by decide
  have hiddenAddressable : hidden.Addressable := by decide
  have onEnumAddressable : onEnum.Addressable := by decide
  refine ⟨⟨shownAddressable, hiddenAddressable, onEnumAddressable⟩, ?_, ?_⟩
  · exact (url_eq_iff {} shownAddressable hiddenAddressable rfl).mpr ⟨rfl, rfl⟩
  · intro shared
    have same := (url_eq_iff {} shownAddressable onEnumAddressable rfl).mp shared
    exact absurd same.2 (by decide)

end Site

end BindingNames
