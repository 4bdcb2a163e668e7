import Folio.Proofs.Heading.Anchors
import Folio.Proofs.Page.PassTags
import Folio.Proofs.Toc.KeptPlaces

/-!
# Passes that change single tokens keep the place

The passes for headings, figures and code leave the markers of paragraphs and all leaves of text as
they are, and what they write has known tags. A figure is no text before it is embedded, and none
afterwards. So the place of the table of contents stays where it was.
-/

namespace Folio

open Html Toc

/-! ## Headings -/

theorem Token.isQuiet_setAttr_opening {t : Token} (ht : Heading.isOpening t = true) {key : String}
    (hkey : key ∈ attributeNames) (value : String) (h : t.IsQuiet) :
    (t.setAttr key value).IsQuiet := by
  cases t with
  | mk kind tag content attrs children nesting =>
    cases kind with
    | headingOpen level => exact ⟨h.1, knownAttrs_replaceAttr hkey value h.2⟩
    | _ => simp [Heading.isOpening, Kind.isHeadingOpen] at ht

theorem keepsPlace_setAttr_opening {t : Token} (ht : Heading.isOpening t = true) {key : String}
    (hkey : key ∈ attributeNames) (value : String) : KeepsPlace [t] [t.setAttr key value] where
  read := .cons ⟨rfl, fun _ => rfl, rfl⟩ .nil
  quiet := keepsQuiet_of_bare rfl (Token.isQuiet_setAttr_opening ht hkey value)

theorem Heading.keepsPlace_assignAnchors (doc : Document) :
    KeepsPlace doc.tokens (assignAnchors doc).2.tokens :=
  related_assignAnchors congruence_keepsPlace KeepsPlace.trans
    (fun id ht => keepsPlace_setAttr_opening ht (by decide) id) doc

/-! ## Figures -/

namespace Figure

theorem isQuiet_setAttr_image {image : Token} (himage : image.kind = .image) {key : String}
    (hkey : key ∈ attributeNames) (value : String) (h : image.IsQuiet) :
    (image.setAttr key value).IsQuiet := by
  cases image with
  | mk kind tag content attrs children nesting =>
    obtain rfl : kind = .image := himage
    exact knownAttrs_replaceAttr hkey value h

theorem isMarkup_captionTags : IsMarkup captionOpen ∧ IsMarkup captionClose := by
  rw [captionOpen_eq, captionClose_eq]
  exact ⟨isMarkup_startTag (by decide) nofun, isMarkup_endTag (by decide)⟩

theorem keepsQuiet_withCaption {image : Token} (himage : image.kind = .image) (source : String) :
    KeepsQuiet [image] (withCaption source image) := by
  have hembedded : ∀ id, KeepsQuiet [image] [(image.setAttr "src" source).setAttr "id" id] := by
    intro id
    refine keepsQuiet_of_bare (t := image) rfl fun h => ?_
    have hsource := isQuiet_setAttr_image himage (by decide : "src" ∈ attributeNames) source h
    have hkind : (image.setAttr "src" source).kind = .image := himage
    exact isQuiet_setAttr_image hkind (by decide) id hsource
  have hcaption : ∀ words, KeepsQuiet []
      [.inlineHtml captionOpen, .text words, .inlineHtml captionClose] := by
    intro words _ t ht
    have hmem : t = .inlineHtml captionOpen ∨ t = .text words ∨ t = .inlineHtml captionClose := by
      simpa [siblingsInOrder, Token.inOrder, Token.inlineHtml, Token.text, Token.ofKind] using ht
    rcases hmem with rfl | rfl | rfl
    · exact isMarkup_captionTags.1
    · trivial
    · exact isMarkup_captionTags.2
  exact congruence_keepsQuiet.append (hembedded _) (hcaption _)

theorem keepsPlace_embed {resources : Provider} {figure embedded : Token}
    (hfigure : HasImage figure) (h : embed resources figure = .ok embedded) :
    KeepsPlace [figure] [embedded] := by
  obtain ⟨image, source, hchildren, rfl⟩ | rfl := embed_cases h
  · have himage := hfigure image hchildren
    have htext : plainText? (withCaption source image) = plainText? figure.children := by
      rw [hchildren]
      simp [withCaption, plainText?, Token.setAttr, himage]
    refine ⟨.cons ⟨rfl, fun _ => rfl, htext⟩ .nil, ?_⟩
    apply congruence_keepsQuiet.children
    rw [hchildren]
    exact keepsQuiet_withCaption himage source
  · exact congruence_keepsPlace.refl _

theorem keepsPlace_embedAll (resources : Provider) (doc : Document) :
    KeepsPlace doc.tokens (embedAll resources doc).2.tokens :=
  related_embedAll congruence_keepsPlace KeepsPlace.trans keepsPlace_embed doc

end Figure

/-! ## Code -/

namespace Code

theorem keepsPlace_wrap {span : Token} (hspan : span.kind = .codeInline) :
    KeepsPlace [span] [wrap span] := by
  have hread : (wrap span).ReadsAs span :=
    ⟨rfl, by simp [hspan], rfl⟩
  refine ⟨.cons hread .nil, keepsQuiet_of_bare rfl ?_⟩
  intro h
  cases span with
  | mk kind tag content attrs children nesting =>
    obtain rfl : kind = .codeInline := hspan
    have hattrs : KnownAttrs attrs := h
    have hpushed : KnownAttrs (attrs ++ [("class", wrappableClass)]) := by
      unfold KnownAttrs
      rw [List.forall_mem_append]
      exact ⟨hattrs, by simp [attributeNames]⟩
    exact hpushed

theorem keepsPlace_wrapAll (doc : Document) : KeepsPlace doc.tokens (wrapAll doc).2.tokens :=
  related_wrapAll congruence_keepsPlace KeepsPlace.trans keepsPlace_wrap doc

end Code

end Folio
