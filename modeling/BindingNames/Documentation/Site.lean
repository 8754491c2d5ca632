import BindingNames.Documentation.Link

/-!
# Documentation sites

Where the pages of a crate are found. The common host keeps every version of every crate, so its
URLs name the crate and the version before the path; any other base belongs to one set of pages.
-/

namespace BindingNames

/-- An empty address counts as none. -/
structure Site where
  fallback : Option String := none
  hosts : List (String × String) := []
  deriving DecidableEq

namespace Site

/-- The host of all published crates. -/
def commonHost : String := "https://docs.rs/"

def given? (address : Option String) : Option String := address.filter (fun a => a ≠ "")

/-- The address on record for a crate, or the default one, or that of the common host. -/
def base (s : Site) (crate : String) : String :=
  ((given? (s.hosts.lookup crate)).or (given? s.fallback)).getD commonHost

/-- Ends an address with a slash. -/
def closed (address : String) : String :=
  if address.toList.getLast? = some '/' then address else address ++ "/"

theorem getLast?_closed (address : String) : (closed address).toList.getLast? = some '/' := by
  unfold closed
  split
  · assumption
  · simp

/-- Where the modules of a crate begin. -/
def root (s : Site) (crate : String) : String :=
  let address := closed (s.base crate)
  if address = commonHost then address ++ crate ++ "/latest/" else address

/-- The page of an item named by these elements, with the anchor of a member. -/
def page (kind : ItemKind) : List String → String
  | [] => "index.html"
  | [item] => kind.label ++ item ++ ".html"
  | item :: part :: _ => kind.label ++ item ++ ".html" ++ kind.anchor ++ part

def folders (modules : List String) : String :=
  String.join (modules.map (fun m => m ++ "/"))

def url (s : Site) (l : Link) : Except NamingError String :=
  match l.path with
  | [] => .error .emptyPath
  | crate :: _ => .ok (s.root crate ++ folders l.modules ++ page l.kind l.item)

end Site

end BindingNames
