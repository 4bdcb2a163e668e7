import Folio.Proofs.Html.Reading
import Folio.Proofs.Toc.Tags

/-!
# Anchors in attributes

An anchor is written twice: as the identifier of a heading or a figure, where attributes are escaped,
and as the target of a link, where it is not. Both come to the same, since an anchor has none of the
characters that escaping replaces. So the tags that it stands in are read in one way only, whatever
the label, and both attributes are read as the anchor itself.
-/

namespace Folio

open Html

namespace Html

theorem isSpecial_of_not_replaced {c : Char} (h : c ∉ Anchor.replacedChars) : isSpecial c = false := by
  simp only [Anchor.replacedChars, List.mem_cons, List.not_mem_nil, or_false, not_or] at h
  simp [isSpecial, h]

/-- What begins an element is read as one tag, with its attributes as they are written. -/
theorem reads_startTag_iff {name : String} {attrs : List (String × String)}
    (hname : name ∈ elementNames) (hattrs : KnownAttrs attrs) {tags : List Tag} :
    Reads (startTag name attrs).toList tags ↔
      tags = [.opening name (attrs.map writtenAttr)] := by
  have hreads : Reads (startTag name attrs).toList [.opening name (attrs.map writtenAttr)] := by
    rw [startTag_toList]
    exact reads_tag (isKnown_opening hname hattrs)
  constructor
  · exact fun h => h.unique hreads
  · rintro rfl
    exact hreads

end Html

namespace Anchor

/-! ## The characters of an anchor -/

theorem mem_stem_append {stem : String} (hstem : ∀ c ∈ stem.toList, c ∉ replacedChars)
    (cs : List Char) : ∀ c ∈ (stem ++ String.ofList (normalize cs)).toList, c ∉ replacedChars := by
  intro c hc
  rw [String.toList_append, String.toList_ofList] at hc
  rcases List.mem_append.mp hc with hc | hc
  · exact hstem c hc
  · exact normalize_avoids cs c hc

/-- The anchors that are made of a text. -/
def ofText (text : String) : List Anchor :=
  [ofSection text, ofFigure text]

theorem name_avoids {text : String} {a : Anchor} (h : a ∈ ofText text) :
    ∀ c ∈ a.name.toList, c ∉ replacedChars := by
  simp only [ofText, List.mem_cons, List.not_mem_nil, or_false] at h
  rcases h with rfl | rfl
  · exact mem_stem_append (by simp [sectionStem, replacedChars]) _
  · exact mem_stem_append (by simp [figureStem, replacedChars]) _

theorem escape_name {text : String} {a : Anchor} (h : a ∈ ofText text) : escape a.name = a.name :=
  escape_of_plain fun c hc => isSpecial_of_not_replaced (name_avoids h c hc)

theorem escape_href (text : String) : escape (ofSection text).href = (ofSection text).href := by
  have hname : escape (ofSection text).name = (ofSection text).name :=
    escape_name (List.mem_cons_self ..)
  have hsign : escape "#" = "#" := by decide
  rw [href, escape_append, hsign, hname]

theorem ofSection_ne_ofFigure (text caption : String) : ofSection text ≠ ofFigure caption := by
  intro h
  have hname := congrArg (fun a : Anchor => a.name.toList.head?) h
  simp [ofSection, ofFigure, sectionStem, figureStem] at hname

end Anchor

/-! ## The two places an anchor is written to -/

namespace Toc

def linkAttrs (label : String) : List (String × String) :=
  [("class", "toc-hyper-link"), ("href", (Anchor.ofSection label).href), ("title", label)]

/-- The link is the tag that escaping all its attributes would give. -/
theorem linkTag_eq (e : TocEntry) :
    linkTag e = .opening "a" ((linkAttrs e.label).map writtenAttr) := by
  have hclass : escape "toc-hyper-link" = "toc-hyper-link" := by decide
  simp [linkTag, linkAttrs, writtenAttr, hclass, Anchor.escape_href]

theorem itemTag_eq (e : TocEntry) :
    itemTag e = .opening "li" ([("class", itemClass e.level.toNat)].map writtenAttr) := by
  have hclass : escape (itemClass e.level.toNat) = itemClass e.level.toNat :=
    escape_of_plain (itemClass_plain _)
  simp [itemTag, writtenAttr, hclass]

theorem item_eq (e : TocEntry) :
    item e = startTag "li" [("class", itemClass e.level.toNat)] ++
      startTag "a" (linkAttrs e.label) ++ escape e.label ++ endTag "a" ++ endTag "li" := by
  have hend : ∀ name, (endTag name).toList = (Tag.closing name).chars := by
    intro name
    simp [endTag, Tag.chars, Tag.inside]
  simp only [← String.toList_inj, item_toList, String.toList_append, startTag_toList, hend,
    itemTag_eq, linkTag_eq]

theorem reads_item_iff (e : TocEntry) {tags : List Tag} :
    Reads (item e).toList tags ↔ tags = itemTags e := by
  constructor
  · exact fun h => h.unique (reads_item e)
  · rintro rfl
    exact reads_item e

end Toc

namespace Anchor

open Toc

/-- An identifier stands in a tag as it is, behind and before any other attributes. -/
theorem reads_id_iff {text : String} {a : Anchor} (ha : a ∈ ofText text) {element : String}
    (helement : element ∈ elementNames) {before behind : List (String × String)}
    (hbefore : KnownAttrs before) (hbehind : KnownAttrs behind) {tags : List Tag} :
    Reads (startTag element (before ++ ("id", a.name) :: behind)).toList tags ↔
      tags = [.opening element
        (before.map writtenAttr ++ ("id", some a.name) :: behind.map writtenAttr)] := by
  have hkey : "id" ∈ attributeNames := by decide
  have hid : KnownAttrs (("id", a.name) :: behind) := List.forall_mem_cons.mpr ⟨hkey, hbehind⟩
  have hwritten : writtenAttr ("id", a.name) = ("id", some a.name) := by
    rw [writtenAttr, escape_name ha]
  rw [reads_startTag_iff helement (knownAttrs_append.mpr ⟨hbefore, hid⟩), List.map_append,
    List.map_cons, hwritten]

/-- The anchors of a text have none of nine characters, whatever lower case makes of the text. So they
are what they are escaped to. An identifier is read as the anchor in every tag that it is written in.
The item of a table of contents, which is written without escaping its link, is the same as with, and
read in one way only: its link leads to the very identifier, and the label stays within its quotes. No
section has the anchor of a figure. -/
theorem attributes_read_anchor (text : String) :
    (∀ a ∈ [ofSection text, ofFigure text],
      (∀ c ∈ a.name.toList, c ∉ ['<', '>', '&', '\x22', '\x27', ' ', '-', ':', '.']) ∧
        escape a.name = a.name ∧ attrHtml ("id", a.name) = " id=\"" ++ a.name ++ "\"" ∧
        ∀ element ∈ elementNames, ∀ before behind, KnownAttrs before → KnownAttrs behind →
          ∀ tags, Reads (startTag element (before ++ ("id", a.name) :: behind)).toList tags ↔
            tags = [.opening element
              (before.map writtenAttr ++ ("id", some a.name) :: behind.map writtenAttr)]) ∧
      (∀ level : UInt8,
        item ⟨level, text⟩ = startTag "li" [("class", itemClass level.toNat)] ++
            startTag "a" [("class", "toc-hyper-link"), ("href", "#" ++ (ofSection text).name),
              ("title", text)] ++ escape text ++ endTag "a" ++ endTag "li" ∧
          ∀ tags, Reads (item ⟨level, text⟩).toList tags ↔
            tags = [.opening "li" [("class", some (itemClass level.toNat))],
              .opening "a" [("class", some "toc-hyper-link"),
                ("href", some ("#" ++ (ofSection text).name)), ("title", some (escape text))],
              .closing "a", .closing "li"]) ∧
      ∀ caption, ofSection text ≠ ofFigure caption := by
  refine ⟨?_, fun level => ⟨item_eq ⟨level, text⟩, fun tags => reads_item_iff ⟨level, text⟩⟩,
    ofSection_ne_ofFigure text⟩
  intro a ha
  refine ⟨name_avoids ha, escape_name ha, ?_, ?_⟩
  · rw [attrHtml, escape_name ha]
    rfl
  · intro element helement before behind hbefore hbehind tags
    exact reads_id_iff ha helement hbefore hbehind

/-- A label that looks like the end of a tag, with a letter that lower case makes two of. -/
def unruly : String := "\u0130\"> b"

theorem attributes_read_anchor_unruly :
    "h2" ∈ elementNames ∧ KnownAttrs [("class", "wide")] ∧ KnownAttrs [] ∧
      (ofSection unruly).name = "section_i\u0307___b" ∧
      ∀ tags, Reads (startTag "h2"
          ([("class", "wide")] ++ [("id", (ofSection unruly).name)])).toList tags ↔
        tags = [.opening "h2" [("class", some "wide"), ("id", some (ofSection unruly).name)]] := by
  have hbefore : KnownAttrs [("class", "wide")] := by
    simp [KnownAttrs, attributeNames]
  have hbehind : KnownAttrs [] := by
    simp [KnownAttrs]
  have hwide : [("class", "wide")].map writtenAttr = [("class", some "wide")] := by decide
  obtain ⟨hanchors, -⟩ := attributes_read_anchor unruly
  obtain ⟨-, -, -, hread⟩ := hanchors (ofSection unruly) (List.mem_cons_self ..)
  have htag := hread "h2" (by decide) _ _ hbefore hbehind
  rw [hwide] at htag
  exact ⟨by decide, hbefore, hbehind, by decide +kernel, htag⟩

end Anchor

end Folio
