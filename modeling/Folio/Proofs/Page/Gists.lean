import Folio.Proofs.Figure.Rewriting
import Folio.Proofs.Heading.Anchors
import Folio.Proofs.Page.PassShape

/-!
# What the passes before the emphasis keep of a page

The passes for headings and code change attributes, and code itself. What is left of a token without
these is its gist, and on a flat page every top-level token keeps its gist and those of its leaves.
The pass for figures keeps them too, and puts the gist of a caption behind that of an image.
-/

namespace Folio

open Token

/-- The kind of a token and its words, which are the caption for an image, and left out for code. -/
structure Gist where
  kind : Kind
  words : String

def Token.gist (t : Token) : Gist where
  kind := t.kind
  words :=
    match t.kind with
    | .codeInline => ""
    | .image => Figure.caption t
    | _ => t.content

theorem Token.gist_image {image : Token} (h : image.kind = .image) :
    image.gist = ⟨.image, Figure.caption image⟩ := by
  simp [gist, h]

def Token.gists (t : Token) : Gist × List Gist :=
  (t.gist, t.children.map gist)

/-- Whether two sequences of siblings have the same gists, down to their children. -/
def SameGists (ts us : List Token) : Prop :=
  us.map gists = ts.map gists

theorem SameGists.trans {ts us vs : List Token} (h : SameGists ts us) (h' : SameGists us vs) :
    SameGists ts vs :=
  Eq.trans h' h

theorem gists_withChildren {t : Token} {us : List Token} (h : SameGists t.children us) :
    ({ t with children := us } : Token).gists = t.gists := by
  have hbelow : us.map gist = t.children.map gist := by
    have hfirst := congrArg (List.map Prod.fst) h
    rwa [List.map_map, List.map_map] at hfirst
  exact congrArg (Prod.mk t.gist) hbelow

theorem congruence_sameGists : Congruence SameGists where
  refl _ := rfl
  append := by
    intro ts ts' us us' h h'
    unfold SameGists at h h' ⊢
    rw [List.map_append, List.map_append, h, h']
  children t us h := congrArg (· :: []) (gists_withChildren h)

theorem sameGists_of_gist {t u : Token} (h : u.gist = t.gist)
    (hchildren : u.children = t.children) : SameGists [t] [u] := by
  simp [SameGists, gists, h, hchildren]

/-! ## Headings and code -/

theorem gist_setAttr {key : String} (hkey : "alt" ≠ key) (value : String) (t : Token) :
    (t.setAttr key value).gist = t.gist := by
  have hcaption := Figure.caption_setAttr hkey value t
  unfold gist
  cases hkind : t.kind with
  | image => simpa [setAttr, hkind] using hcaption
  | _ => simp [setAttr, hkind]

theorem Heading.sameGists_assignAnchors (doc : Document) :
    SameGists doc.tokens (assignAnchors doc).2.tokens :=
  related_assignAnchors congruence_sameGists SameGists.trans
    (fun id _ => sameGists_of_gist (gist_setAttr (by decide) id _) rfl) doc

theorem Code.sameGists_wrapAll (doc : Document) :
    SameGists doc.tokens (wrapAll doc).2.tokens := by
  refine related_wrapAll congruence_sameGists SameGists.trans ?_ doc
  intro span hkind
  have hwrapped : (wrap span).kind = .codeInline := hkind
  exact sameGists_of_gist (by simp [gist, hkind, hwrapped]) rfl

/-! ## Figures -/

namespace Gist

def isFigure (gists : Gist × List Gist) : Bool :=
  gists.1.kind == .inline && gists.2.map kind == [.image]

def caption (image : Gist) : List Gist :=
  [⟨.inlineHtml, Figure.captionOpen⟩, ⟨.text, image.words⟩, ⟨.inlineHtml, Figure.captionClose⟩]

/-- The gists of a token, with the caption that a figure is given. -/
def captioned (gists : Gist × List Gist) : Gist × List Gist :=
  (gists.1, gists.2 ++ if isFigure gists then gists.2.flatMap caption else [])

end Gist

namespace Figure

theorem isFigure_gists (t : Token) : Gist.isFigure t.gists = isFigure t := by
  have hkinds : (t.children.map gist).map Gist.kind = t.children.map Token.kind := by
    rw [List.map_map]
    rfl
  rw [isFigure_eq, ← hkinds]
  rfl

theorem figureImages_leaves {ts : List Token} (h : ∀ t ∈ ts, t.IsTextLeaf) :
    figureImages ts = [] := by
  have hfilter : ts.filter isFigure = [] := by
    simpa using fun t ht => isFigure_of_isLeaf t (h t ht).isLeaf
  rw [figureImages, siblingsInOrder_of_leaves h, hfilter]
  rfl

/-- The figures of a page stand at its top level. -/
theorem figureImages_page {t : Token} (ht : t.IsPageToken) :
    figureImages [t] = if isFigure t then t.children else [] := by
  rw [figureImages_singleton, figureImages_leaves ht.leaves, List.append_nil]

theorem gists_rewriteToken {t : Token} (hfigure : isFigure t = true) (source : String) :
    (rewriteToken [source] t).gists = Gist.captioned t.gists := by
  obtain ⟨image, hchildren, himage⟩ := exists_image_of_isFigure hfigure
  have hbelow :
      (captioned source [{ image with children := rewriteSiblings [] image.children }]).map gist =
        image.gist :: Gist.caption image.gist := by
    rw [captioned, List.map_cons, gist_setAttr (by decide), gist_setAttr (by decide),
      gist_image himage]
    exact congrArg (· :: _) (gist_image himage)
  have hcaptioned : Gist.captioned t.gists = (t.gist, image.gist :: Gist.caption image.gist) := by
    rw [Gist.captioned, isFigure_gists, if_pos hfigure]
    simp [gists, hchildren]
  rw [rewriteToken_figure hfigure hchildren himage (Nat.zero_le _), hcaptioned]
  exact congrArg (Prod.mk t.gist) hbelow

/-- Rewriting all figures of a page puts captions behind their images, and keeps what was there. -/
theorem gists_rewriteSiblings {ts : List Token} (hpage : ∀ t ∈ ts, t.IsPageToken)
    {sources : List String} (h : sources.length = (figureImages ts).length) :
    (rewriteSiblings sources ts).map gists = ts.map fun t => Gist.captioned t.gists := by
  induction ts generalizing sources with
  | nil => rfl
  | cons t rest ih =>
    obtain ⟨ht, hrest⟩ := List.forall_mem_cons.mp hpage
    rw [figureImages_cons, List.length_append] at h
    have hlength :
        (sources.drop (figureImages [t]).length).length = (figureImages rest).length := by
      rw [List.length_drop]
      omega
    have hlater := ih hrest hlength
    -- A figure takes one source. Nothing below it takes more, and no other token takes any.
    have hfirst : (rewriteToken (sources.take (figureImages [t]).length) t).gists =
        Gist.captioned t.gists := by
      cases hfigure : isFigure t with
      | false =>
        have hnone : figureImages [t] = [] := by simp [figureImages_page ht, hfigure]
        rw [hnone, List.length_nil, List.take_zero, rewriteToken_nil, Gist.captioned,
          isFigure_gists, hfigure]
        simp
      | true =>
        obtain ⟨image, hchildren, -⟩ := exists_image_of_isFigure hfigure
        have hone : (figureImages [t]).length = 1 := by
          simp [figureImages_page ht, hfigure, hchildren]
        obtain ⟨source, later, rfl⟩ := List.exists_cons_of_length_pos (l := sources) (by omega)
        rw [hone]
        exact gists_rewriteToken hfigure source
    rw [rewriteSiblings, List.map_cons, List.map_cons, hfirst, hlater]

theorem gists_embedAll {resources : Provider} {doc done : Document} {n : Nat} (hpage : doc.IsPage)
    (h : embedAll resources doc = (.ok n, done)) :
    n = doc.inOrder.countP isFigure ∧
      done.tokens.map gists = doc.tokens.map fun t => Gist.captioned t.gists := by
  obtain ⟨hcount, sources, hall, htokens⟩ := embedAll_ok h
  rw [htokens]
  exact ⟨hcount, gists_rewriteSiblings hpage hall.length_eq.symm⟩

end Figure

end Folio
