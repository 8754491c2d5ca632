import BindingNames.Documentation.Site
import BindingNames.Text.Substitution

/-!
# Documentation as markdown

Prose and links become paragraphs: the prose, one for each link shown on its own, and a last one
for the numbered links.
-/

namespace BindingNames

/-- Prose may be taken as it is, or with its runs of backticks made even. -/
inductive ProseStyle where
  | plain
  | evenBackticks
  deriving DecidableEq

namespace ProseStyle

def ofName (text : String) : Except NamingError ProseStyle :=
  match text with
  | "normal" => .ok plain
  | "rst_compat" => .ok evenBackticks
  | _ => .error (.notAProseStyle text)

/-- Halves the pairs of backticks, then doubles every backtick. -/
def pairBackticks (s : List Char) : List Char :=
  Text.replace ['\x60'] ['\x60', '\x60'] (Text.replace ['\x60', '\x60'] ['\x60'] s)

def apply (style : ProseStyle) (text : String) : String :=
  match style with
  | plain => text
  | evenBackticks => String.ofList (pairBackticks text.toList)

end ProseStyle

structure Documentation where
  text : String := ""
  links : List Link := []
  deriving DecidableEq

namespace Documentation

def isEmpty (d : Documentation) : Bool := d.text.isEmpty && d.links.isEmpty

/-- The links with this presentation, in order. -/
def linksAs (d : Documentation) (p : Presentation) : List Link :=
  d.links.filter (fun l => l.presentation = p)

/-- The paragraph of a link shown on its own. -/
def seeAlso (site : Site) (l : Link) : Except NamingError String := do
  let url ← site.url l
  return "See the [Rust documentation for `" ++ l.path.getLastD "" ++ "`](" ++ url ++
    ") for more information."

/-- The paragraph of the numbered links, which counts from one. -/
def references (urls : List String) : String :=
  "Additional information: " ++ ", ".intercalate
    ((urls.zipIdx 1).map (fun (url, i) => "[" ++ toString i ++ "](" ++ url ++ ")"))

/-- Adds a paragraph, after a blank line unless it is the first. -/
def addParagraph (text paragraph : String) : String :=
  if text = "" then paragraph else text ++ "\n\n" ++ paragraph

def markdown (d : Documentation) (site : Site) (style : ProseStyle := .plain) :
    Except NamingError String := do
  let paragraphs ← (d.linksAs .paragraph).mapM (seeAlso site)
  let urls ← (d.linksAs .numbered).mapM site.url
  let body := paragraphs.foldl addParagraph (style.apply d.text)
  return if urls.isEmpty then body else addParagraph body (references urls)

end Documentation

end BindingNames
