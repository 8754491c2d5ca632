import BindingNames.Documentation.Site
import BindingNames.Proofs.Text.Marks

/-!
# Names of items in their URLs

The last segment of a URL is read back to the item it was made for. A hash sign parts the page from
the anchor, the first full stop ends the word for the kind, on the page as in the anchor, and what
is left are the names.
-/

namespace BindingNames

open Text Site

/-- What a site shows: the index of a module, a page, or a place on a page. -/
inductive ItemName where
  | index
  | page (item : PageItem) (name : String)
  | member (item : MemberItem) (owner name : String)

theorem PageItem.label_endsAtFirst (p : PageItem) : EndsAtFirst '.' p.label := by
  refine ⟨p.label.toList.dropLast, ?_⟩
  cases p <;> decide

theorem MemberItem.anchor_endsAtFirst (m : MemberItem) : EndsAtFirst '.' m.anchor := by
  refine ⟨m.anchor.toList.dropLast, ?_⟩
  cases m <;> decide

theorem PageItem.label_injective {p q : PageItem} (same : p.label = q.label) : p = q := by
  revert same
  cases p <;> cases q <;> decide

/-- The page and the anchor together tell the members apart. -/
theorem MemberItem.owner_anchor_injective {m n : MemberItem} (owners : m.owner = n.owner)
    (anchors : m.anchor = n.anchor) : m = n := by
  revert owners anchors
  cases m <;> cases n <;> decide

theorem PageItem.label_append_inj {p q : PageItem} {a b : String} :
    p.label ++ (a ++ ".html") = q.label ++ (b ++ ".html") ↔ p = q ∧ a = b := by
  rw [p.label_endsAtFirst.append_inj q.label_endsAtFirst, String.append_left_inj]
  exact ⟨fun same => ⟨label_injective same.1, same.2⟩, fun same => by simp [same]⟩

/-- No label begins the index of a module. -/
theorem PageItem.label_append_ne_index (p : PageItem) (a : String) :
    p.label ++ a ≠ "index.html" := by
  intro same
  have letters := congrArg String.toList same
  cases p <;> simp [label] at letters

theorem MemberItem.anchor_append_ne_empty (m : MemberItem) (a : String) : m.anchor ++ a ≠ "" := by
  cases m <;> simp [anchor]

namespace ItemName

def kind : ItemName → ItemKind
  | index => .module
  | page item _ => .page item
  | member item _ _ => .member item

/-- The elements of a path that give this name. -/
def elements : ItemName → List String
  | index => []
  | page _ name => [name]
  | member _ owner name => [owner, name]

/-- As many elements as a kind asks for are a name of that kind. -/
theorem exists_of_length {kind : ItemKind} {elements : List String}
    (complete : elements.length = kind.depth) :
    ∃ name : ItemName, name.kind = kind ∧ name.elements = elements := by
  match kind, elements, complete with
  | .module, [], _ => exact ⟨index, rfl, rfl⟩
  | .page item, [name], _ => exact ⟨page item name, rfl, rfl⟩
  | .member item, [owner, name], _ => exact ⟨member item owner name, rfl, rfl⟩

/-- The file of the page. -/
def file : ItemName → String
  | index => "index.html"
  | page item name => item.label ++ (name ++ ".html")
  | member item owner _ => item.owner.label ++ (owner ++ ".html")

/-- The anchor on the page. -/
def fragment : ItemName → String
  | member item _ name => item.anchor ++ name
  | _ => ""

theorem page_eq (x : ItemName) : Site.page x.kind x.elements = x.file ++ x.fragment := by
  cases x with
  | index => rfl
  | page item name =>
    simp [Site.page, kind, elements, file, fragment, ItemKind.label, String.append_assoc]
  | member item owner name =>
    simp [Site.page, kind, elements, file, fragment, ItemKind.label, ItemKind.anchor,
      String.append_assoc]

/-- No element of the name holds this character. -/
def Lacks (c : Char) (x : ItemName) : Prop := ∀ element ∈ x.elements, c ∉ element.toList

theorem fragment_beginsAtMark (x : ItemName) : BeginsAtMark '#' x.fragment := by
  cases x with
  | index => exact .inl rfl
  | page item name => exact .inl rfl
  | member item owner name =>
    refine .inr ⟨(item.anchor ++ name).toList.tail, ?_⟩
    cases item <;> simp [fragment, MemberItem.anchor]

theorem not_mem_file {c : Char} (labels : ∀ p : PageItem, c ∉ p.label.toList)
    (index : c ∉ "index.html".toList) {x : ItemName} (clear : x.Lacks c) : c ∉ x.file.toList := by
  have suffix : c ∉ ".html".toList := fun member =>
    index ((List.suffix_append "index".toList ".html".toList).mem member)
  cases x with
  | index => exact index
  | page item name =>
    have nameClear : c ∉ name.toList := clear name (by simp [elements])
    simp only [file, String.toList_append, List.mem_append, not_or]
    exact ⟨labels item, nameClear, suffix⟩
  | member item owner name =>
    have ownerClear : c ∉ owner.toList := clear owner (by simp [elements])
    simp only [file, String.toList_append, List.mem_append, not_or]
    exact ⟨labels item.owner, ownerClear, suffix⟩

theorem hash_not_mem_file {x : ItemName} (clear : x.Lacks '#') : '#' ∉ x.file.toList := by
  have labels : ∀ p : PageItem, '#' ∉ p.label.toList := by
    intro p
    cases p <;> decide
  exact not_mem_file labels (by decide) clear

theorem slash_not_mem_fragment {x : ItemName} (clear : x.Lacks '/') :
    '/' ∉ x.fragment.toList := by
  cases x with
  | index => exact List.not_mem_nil
  | page item name => exact List.not_mem_nil
  | member item owner name =>
    have anchor : '/' ∉ item.anchor.toList := by
      cases item <;> decide
    have nameClear : '/' ∉ name.toList := clear name (by simp [elements])
    simp only [fragment, String.toList_append, List.mem_append, not_or]
    exact ⟨anchor, nameClear⟩

theorem slash_not_mem_page {x : ItemName} (clear : x.Lacks '/') :
    '/' ∉ (Site.page x.kind x.elements).toList := by
  have labels : ∀ p : PageItem, '/' ∉ p.label.toList := by
    intro p
    cases p <;> decide
  rw [page_eq, String.toList_append, List.mem_append, not_or]
  exact ⟨not_mem_file labels (by decide) clear, slash_not_mem_fragment clear⟩

theorem eq_of_page_eq {x y : ItemName} (left : x.Lacks '#') (right : y.Lacks '#')
    (same : Site.page x.kind x.elements = Site.page y.kind y.elements) : x = y := by
  rw [page_eq, page_eq] at same
  obtain ⟨files, fragments⟩ := (append_inj_of_beginsAtMark (hash_not_mem_file left)
    (hash_not_mem_file right) x.fragment_beginsAtMark y.fragment_beginsAtMark).mp same
  cases x with
  | index =>
    cases y with
    | index => rfl
    | page item name => exact absurd files.symm (item.label_append_ne_index _)
    | member item owner name => exact absurd files.symm (item.owner.label_append_ne_index _)
  | page item name =>
    cases y with
    | index => exact absurd files (item.label_append_ne_index _)
    | page other called =>
      obtain ⟨rfl, rfl⟩ := PageItem.label_append_inj.mp files
      rfl
    | member other owner called =>
      exact absurd fragments.symm (other.anchor_append_ne_empty called)
  | member item owner name =>
    cases y with
    | index => exact absurd files (item.owner.label_append_ne_index _)
    | page other called => exact absurd fragments (item.anchor_append_ne_empty name)
    | member other holder called =>
      obtain ⟨owners, rfl⟩ := PageItem.label_append_inj.mp files
      obtain ⟨anchors, rfl⟩ :=
        (item.anchor_endsAtFirst.append_inj other.anchor_endsAtFirst).mp fragments
      rw [MemberItem.owner_anchor_injective owners anchors]

end ItemName

end BindingNames
