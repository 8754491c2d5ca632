import BindingNames.NamingError

/-!
# Links to documented items

A link names an item by its path, which begins with the crate. A module has an index page, most
items have a page of their own, and members are anchors on the page of the item they belong to.
-/

namespace BindingNames

/-- Items with a page of their own. -/
inductive PageItem where
  | struct
  | enum
  | trait
  | function
  | macroRule
  | typeAlias
  | constant
  deriving DecidableEq

/-- Items that stand on the page of another item. -/
inductive MemberItem where
  | structField
  | structMethod
  | enumVariant
  | enumMethod
  | traitMethod
  deriving DecidableEq

inductive ItemKind where
  | module
  | page (item : PageItem)
  | member (item : MemberItem)
  deriving DecidableEq

/-- The beginning of a page's file name. -/
def PageItem.label : PageItem → String
  | struct => "struct."
  | enum => "enum."
  | trait => "trait."
  | function => "fn."
  | macroRule => "macro."
  | typeAlias => "type."
  | constant => "constant."

/-- The item on whose page a member stands. -/
def MemberItem.owner : MemberItem → PageItem
  | structField | structMethod => .struct
  | enumVariant | enumMethod => .enum
  | traitMethod => .trait

def MemberItem.anchor : MemberItem → String
  | structField => "#structfield."
  | enumVariant => "#variant."
  | structMethod | enumMethod | traitMethod => "#method."

namespace ItemKind

/-- How many elements at the end of a path name the item rather than a module. -/
def depth : ItemKind → Nat
  | module => 0
  | page _ => 1
  | member _ => 2

def label : ItemKind → String
  | module => ""
  | page item => item.label
  | member item => item.owner.label

def anchor : ItemKind → String
  | member item => item.anchor
  | _ => ""

/-- The words for the kinds of items. -/
def names : List (String × ItemKind) :=
  [("mod", module), ("struct", page .struct), ("struct_field", member .structField),
    ("struct_method", member .structMethod), ("enum", page .enum),
    ("enum_variant", member .enumVariant), ("enum_method", member .enumMethod),
    ("trait", page .trait), ("trait_method", member .traitMethod), ("fn", page .function),
    ("macro", page .macroRule), ("typedef", page .typeAlias), ("constant", page .constant)]

def ofName (text : String) : Except NamingError ItemKind :=
  match names.lookup text with
  | some kind => .ok kind
  | none => .error (.notAnItemKind text)

end ItemKind

/-- A link is a paragraph of its own, a number in a common last paragraph, or not shown. -/
inductive Presentation where
  | paragraph
  | numbered
  | hidden
  deriving DecidableEq

def Presentation.ofName (text : String) : Except NamingError Presentation :=
  match text with
  | "normal" => .ok paragraph
  | "compact" => .ok numbered
  | "hidden" => .ok hidden
  | _ => .error (.notAPresentation text)

structure Link where
  path : List String
  kind : ItemKind
  presentation : Presentation := .paragraph
  deriving DecidableEq

namespace Link

/-- The elements of the path that name modules. -/
def modules (l : Link) : List String := l.path.take (l.path.length - l.kind.depth)

/-- The elements of the path that name the item. -/
def item (l : Link) : List String := l.path.drop (l.path.length - l.kind.depth)

theorem modules_append_item (l : Link) : l.modules ++ l.item = l.path :=
  List.take_append_drop _ _

theorem length_item (l : Link) : l.item.length = min l.kind.depth l.path.length := by
  simp [item]
  omega

end Link

end BindingNames
