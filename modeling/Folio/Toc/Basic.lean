import Folio.Anchor.Basic
import Folio.Html.Escape

/-!
# Tables of contents

A table of contents lists the headings of a document as nested lists, each heading at the depth of
its level. From one heading to the next, as many lists are opened or closed as the levels differ by,
so the lists are always balanced.
-/

namespace Folio

structure TocEntry where
  level : UInt8
  label : String
  deriving DecidableEq

namespace Toc

def defaultMaxLevel : UInt8 := 3

def listOpen : String := "<ul class=\"toc-tree\">"

def listClose : String := "</ul>"

def item (e : TocEntry) : String :=
  let label := Html.escape e.label
  "<li class=\"toc-level" ++ e.level.toNat.repr ++ "-content\"><a class=\"toc-hyper-link\" href=\"" ++
    (Anchor.ofSection e.label).href ++ "\" title=\"" ++ label ++ "\">" ++ label ++ "</a></li>"

def times (n : Nat) (s : String) : String :=
  String.join (List.replicate n s)

/-- The items of the entries behind `depth` open lists, with the lists closed at the end. -/
def itemsFrom (depth : Nat) : List TocEntry → String
  | [] => times depth listClose
  | e :: rest =>
    let level := e.level.toNat
    times (level - depth) listOpen ++ times (depth - level) listClose ++ item e ++
      itemsFrom level rest

/-- Whether an entry is listed when `maxLevel` is the deepest level. Level zero is never listed. -/
def isListed (maxLevel : UInt8) (e : TocEntry) : Bool :=
  e.level != 0 && e.level ≤ maxLevel

def render (maxLevel : UInt8) (entries : List TocEntry) : String :=
  itemsFrom 0 (entries.filter (isListed maxLevel))

end Toc

end Folio
