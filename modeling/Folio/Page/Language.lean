import Folio.Page.Pipeline

/-!
# Pages in a reader's language

A site ships bodies in some languages. A reader of another one gets the English body behind a notice
that a machine has put it into that language.
-/

namespace Folio

inductive Language where
  | zh
  | en
  | jp
  deriving DecidableEq

namespace Language

/-- The name of the language in the language itself. -/
def displayName : Language → String
  | zh => "简体中文"
  | en => "English"
  | jp => "日本語"

def key : Language → String
  | zh => "zh"
  | en => "en"
  | jp => "jp"

def ofKey? : String → Option Language
  | "zh" => some zh
  | "en" => some en
  | "jp" => some jp
  | _ => none

/-- The languages with bodies of their own, in the order in which they are offered. -/
def builtin : List Language :=
  [zh, en]

/-- The languages that a machine serves from English bodies. -/
def machineServed : List Language :=
  [jp]

def isBuiltin (l : Language) : Bool :=
  builtin.contains l

end Language

abbrev SiteContent := Language → Option PageContent

namespace SiteContent

/-- The languages offered: those with bodies of their own that are there, and those served by
a machine. -/
def languages (site : SiteContent) : List Language :=
  Language.builtin.filter (fun l => (site l).isSome) ++ Language.machineServed

def machineNotice (l : Language) : String :=
  "<div class=\"translate-hint\">Language \"" ++ l.displayName ++
    "\" is not provided. It was translated by machine</div>"

/-- The body for a language: its own, or else the English one behind the notice. -/
def contentFor (site : SiteContent) (l : Language) : Option PageContent :=
  (site l).or ((site .en).map fun english =>
    { english with html := machineNotice l ++ english.html })

def htmlFor (site : SiteContent) (l : Language) : Option String :=
  (site.contentFor l).map fun c => c.htmlWithToc Toc.defaultMaxLevel

end SiteContent

end Folio
