import Folio.Proofs.Document.Picked
import Folio.Proofs.Figure.Rewriting

/-!
# Documents with all figures embedded

When no figure fails, the pass gives every figure a source and a caption. That is a relation here,
built up from the parts of the tree, and what holds of the whole result is proved by induction on it:
no figure is left, not even below the image of another, and the images keep their order.
-/

namespace Folio.Figure

open Token

/-- Whether the second siblings are the first with all figures embedded. -/
inductive Embedded (resources : Provider) : List Token → List Token → Prop
  | nil : Embedded resources [] []
  | append {ts us ts' us' : List Token} (h : Embedded resources ts us)
      (h' : Embedded resources ts' us') : Embedded resources (ts ++ ts') (us ++ us')
  | figure {t image : Token} {source : String} {below : List Token} (ht : isFigure t = true)
      (hchildren : t.children = [image]) (himage : image.kind = .image)
      (hsource : Embeds resources image source) (h : Embedded resources image.children below) :
      Embedded resources [t]
        [{ t with children := captioned source [{ image with children := below }] }]
  | other {t : Token} {below : List Token} (ht : isFigure t = false)
      (h : Embedded resources t.children below) :
      Embedded resources [t] [{ t with children := below }]

section
variable {resources : Provider}

mutual

theorem embedded_rewriteToken (t : Token) {sources : List String}
    (h : List.Forall₂ (Embeds resources) (figureImages [t]) sources) :
    Embedded resources [t] [rewriteToken sources t] := by
  have hsize := t.sizeOf_children_lt
  rw [figureImages_singleton] at h
  cases hfigure : isFigure t with
  | false =>
    rw [hfigure] at h
    have hbelow := Embedded.other hfigure (embedded_rewriteSiblings t.children h)
    cases t
    simpa [rewriteToken, hfigure] using hbelow
  | true =>
    obtain ⟨image, hchildren, himage⟩ := exists_image_of_isFigure hfigure
    -- The image is no figure itself, so the sources behind the first are for what is below it.
    have himages : figureImages [image] = figureImages image.children := by
      simp [figureImages_singleton, isFigure_image himage]
    rw [if_pos hfigure, hchildren, himages] at h
    obtain ⟨source, later, hsource, hlater, rfl⟩ := List.forall₂_cons_left_iff.mp h
    have himageSize : sizeOf image.children < sizeOf t := by
      have hbelow := image.sizeOf_children_lt
      simp only [hchildren, List.cons.sizeOf_spec] at hsize
      omega
    rw [rewriteToken_figure hfigure hchildren himage (Nat.le_of_eq hlater.length_eq.symm)]
    exact .figure hfigure hchildren himage hsource (embedded_rewriteSiblings image.children hlater)
termination_by sizeOf t

theorem embedded_rewriteSiblings (ts : List Token) {sources : List String}
    (h : List.Forall₂ (Embeds resources) (figureImages ts) sources) :
    Embedded resources ts (rewriteSiblings sources ts) := by
  match ts with
  | [] => exact .nil
  | t :: rest =>
    rw [figureImages_cons] at h
    have hfirst := List.forall₂_take (figureImages [t]).length h
    have hrest := List.forall₂_drop (figureImages [t]).length h
    rw [List.take_left] at hfirst
    rw [List.drop_left] at hrest
    exact (embedded_rewriteToken t hfirst).append (embedded_rewriteSiblings rest hrest)
termination_by sizeOf ts

end

theorem embedded_embedAll {doc done : Document} {n : Nat}
    (h : embedAll resources doc = (.ok n, done)) : Embedded resources doc.tokens done.tokens := by
  obtain ⟨-, sources, hall, htokens⟩ := embedAll_ok h
  rw [htokens]
  exact embedded_rewriteSiblings doc.tokens hall

variable {ts us : List Token}

theorem Embedded.map_kind (h : Embedded resources ts us) : us.map kind = ts.map kind := by
  induction h with
  | nil => rfl
  | append _ _ ih ih' => rw [List.map_append, List.map_append, ih, ih']
  | figure => rfl
  | other => rfl

/-! ## No figure is left -/

def sourced (source : String) (image : Token) : Token :=
  (image.setAttr "src" source).setAttr "id" (Anchor.ofFigure (caption image)).name

theorem siblingsInOrder_captioned (source : String) (image : Token) :
    siblingsInOrder (captioned source [image]) =
      sourced source image :: (siblingsInOrder image.children ++
        [.inlineHtml captionOpen, .text (caption image), .inlineHtml captionClose]) := by
  simp [captioned, sourced, siblingsInOrder, Token.inOrder_eq, setAttr, Token.inlineHtml,
    Token.text, ofKind]

/-- An embedded figure holds its caption besides the image, and every other container holds what it
held before. -/
theorem Embedded.not_isFigure (h : Embedded resources ts us) :
    ∀ u ∈ siblingsInOrder us, isFigure u = false := by
  induction h with
  | nil => simp [siblingsInOrder]
  | append _ _ ih ih' =>
    rw [siblingsInOrder_append, List.forall_mem_append]
    exact ⟨ih, ih'⟩
  | @figure t image source below ht hchildren himage hsource h ih =>
    have hcontainer : ∀ us, isFigure { t with children := captioned source [us] } = false := by
      intro us
      rw [isFigure_eq]
      simp [captioned]
    have hsourced : isFigure (sourced source { image with children := below }) = false :=
      isFigure_image himage
    simp only [siblingsInOrder, Token.inOrder_eq, siblingsInOrder_captioned, List.append_nil,
      List.forall_mem_cons, List.forall_mem_append]
    exact ⟨hcontainer _, hsourced, ih, rfl, rfl, rfl, nofun⟩
  | @other t below ht h ih =>
    have hcontainer : isFigure { t with children := below } = false := by
      rw [isFigure_eq, h.map_kind]
      rwa [isFigure_eq] at ht
    simpa [siblingsInOrder, Token.inOrder_eq, hcontainer] using ih

end

theorem embedAll_of_no_figure (resources : Provider) {doc : Document}
    (h : ∀ t ∈ doc.inOrder, isFigure t = false) : embedAll resources doc = (.ok 0, doc) := by
  have hnone : doc.inOrder.filter isFigure = [] := List.filter_eq_nil_iff.mpr (by simpa using h)
  have himages : figureImages doc.tokens = [] := by
    show (doc.inOrder.filter isFigure).flatMap (·.children) = []
    rw [hnone]
    rfl
  rw [embedAll_eq_rewrite, himages, List.countP_eq_length_filter, hnone]
  exact congrArg (Prod.mk _) (congrArg Document.mk (rewriteSiblings_nil doc.tokens))

/-! ## Images -/

def isImageKind (kind : Kind) : Bool :=
  kind == .image

def images (doc : Document) : List Token :=
  picked isImageKind doc.tokens

mutual

/-- The bare images of a token and of all tokens below it, in document order, each with whether it is
the only child of an inline container. The token itself is if it is `alone`. -/
def tokenImages (alone : Bool) : Token → List (Token × Bool)
  | ⟨kind, tag, content, attrs, children, nesting⟩ =>
    (if isImageKind kind then [(⟨kind, tag, content, attrs, [], nesting⟩, alone)] else []) ++
      placedImages (isFigure ⟨kind, tag, content, attrs, children, nesting⟩) children

/-- The bare images of siblings and of all tokens below them, each with whether it is the only child
of an inline container. The siblings themselves are if they are `alone`. -/
def placedImages (alone : Bool) : List Token → List (Token × Bool)
  | [] => []
  | t :: rest => tokenImages alone t ++ placedImages alone rest

end

theorem placedImages_append (alone : Bool) (ts us : List Token) :
    placedImages alone (ts ++ us) = placedImages alone ts ++ placedImages alone us := by
  induction ts with
  | nil => rfl
  | cons t rest ih => simp [placedImages, ih]

theorem tokenImages_eq (alone : Bool) (t : Token) :
    tokenImages alone t =
      (if isImageKind t.kind then [(t.bare, alone)] else []) ++
        placedImages (isFigure t) t.children := by
  cases t
  rfl

theorem placedImages_singleton (alone : Bool) (t : Token) :
    placedImages alone [t] = tokenImages alone t :=
  List.append_nil _

theorem not_isImageKind_of_isFigure {t : Token} (h : isFigure t = true) :
    isImageKind t.kind = false := by
  rw [isFigure_eq, Bool.and_eq_true, beq_iff_eq] at h
  rw [h.1]
  rfl

mutual

theorem countP_tokenImages (alone : Bool) (t : Token) :
    (tokenImages alone t).countP (·.2) =
      t.inOrder.countP isFigure + if alone && isImageKind t.kind then 1 else 0 := by
  have hsize := t.sizeOf_children_lt
  have hself : (if isImageKind t.kind then [(t.bare, alone)] else []).countP (·.2) =
      if alone && isImageKind t.kind then 1 else 0 := by
    cases isImageKind t.kind <;> cases alone <;> rfl
  -- The one child of a figure is an image, so as many are marked below it as it counts for itself.
  have hone : (if isFigure t then t.children.countP (isImageKind ·.kind) else 0) =
      if isFigure t then 1 else 0 := by
    split
    · rename_i hfigure
      obtain ⟨image, hchildren, himage⟩ := exists_image_of_isFigure hfigure
      simp [hchildren, himage, isImageKind]
    · rfl
  rw [tokenImages_eq, Token.inOrder_eq, List.countP_append, List.countP_cons, hself,
    countP_placedImages (isFigure t) t.children, hone]
  omega
termination_by sizeOf t

/-- Images are marked below figures, one for each, and among the siblings if these are alone. -/
theorem countP_placedImages (alone : Bool) (ts : List Token) :
    (placedImages alone ts).countP (·.2) =
      (siblingsInOrder ts).countP isFigure +
        if alone then ts.countP (isImageKind ·.kind) else 0 := by
  match ts with
  | [] => cases alone <;> rfl
  | t :: rest =>
    have hfirst := countP_tokenImages alone t
    have hrest := countP_placedImages alone rest
    rw [placedImages, siblingsInOrder, List.countP_append, List.countP_append, hfirst, hrest]
    cases alone with
    | false => simp
    | true =>
      simp only [Bool.true_and, if_true, List.countP_cons]
      omega
termination_by sizeOf ts

end

/-- As many images stand alone in a container as there are figures. -/
theorem countP_alone (doc : Document) :
    (placedImages false doc.tokens).countP (·.2) = doc.inOrder.countP isFigure := by
  simpa [Document.inOrder] using countP_placedImages false doc.tokens

/-- What becomes of an image when figures are embedded. The only child of an inline container carries
its bytes and has its anchor, any other image is as it was. -/
inductive Becomes (resources : Provider) : Token × Bool → Token → Prop
  | embedded {image : Token} {source : String} (h : Embeds resources image source) :
      Becomes resources (image, true) (sourced source image)
  | kept (image : Token) : Becomes resources (image, false) image

theorem Embeds.bare {resources : Provider} {image : Token} {source : String}
    (h : Embeds resources image source) : Embeds resources image.bare source := by
  cases h with
  | intro hsource hload htype hpayload => exact .intro hsource hload htype hpayload

theorem Becomes.source {resources : Provider} {image final : Token}
    (h : Becomes resources (image, true) final) :
    ∃ rest, final.attr? "src" = some ("data:" ++ rest) := by
  cases h with
  | @embedded image source h =>
    have hsource : (sourced source image).attr? "src" = some source := by
      rw [sourced, attr?_setAttr, attr?_setAttr, if_neg (by decide), if_pos rfl]
    rw [hsource]
    cases h with
    | @intro path mediaType payload bytes _ _ _ _ =>
      exact ⟨mediaType ++ (";base64," ++ payload), by simp [String.append_assoc]⟩

theorem picked_captioned (source : String) (image : Token) (h : isImageKind image.kind = true) :
    picked isImageKind (captioned source [image]) =
      sourced source image.bare :: picked isImageKind image.children := by
  have hcaption : picked isImageKind
      [.inlineHtml captionOpen, .text (caption image), .inlineHtml captionClose] = [] := rfl
  have hsourced : isImageKind (sourced source image).kind = true := h
  calc picked isImageKind (captioned source [image])
      = picked isImageKind [sourced source image] ++ picked isImageKind
          [.inlineHtml captionOpen, .text (caption image), .inlineHtml captionClose] :=
        picked_append [sourced source image] _
    _ = sourced source image.bare :: picked isImageKind image.children := by
        rw [hcaption, List.append_nil, picked_singleton, if_pos hsourced]
        rfl

/-- The images of figures carry their bytes, and no image is added, left out or moved. -/
theorem Embedded.becomes {resources : Provider} {ts us : List Token}
    (h : Embedded resources ts us) :
    List.Forall₂ (Becomes resources) (placedImages false ts) (picked isImageKind us) := by
  induction h with
  | nil => exact .nil
  | append _ _ ih ih' =>
    rw [placedImages_append, picked_append]
    exact List.rel_append ih ih'
  | @figure t image source below ht hchildren himage hsource h ih =>
    -- The image is taken together with its container, so in the induction no siblings are alone.
    have hcontainer : isImageKind t.kind = false := not_isImageKind_of_isFigure ht
    have himageKind : isImageKind image.kind = true := by rw [himage]; rfl
    have hbefore : placedImages false [t] =
        (image.bare, true) :: placedImages false image.children := by
      rw [placedImages_singleton, tokenImages_eq, hcontainer, ht, hchildren, placedImages_singleton,
        tokenImages_eq, himageKind, isFigure_image himage]
      rfl
    have hafter : picked isImageKind
        [{ t with children := captioned source [{ image with children := below }] }] =
          sourced source image.bare :: picked isImageKind below := by
      rw [picked_singleton, hcontainer]
      exact picked_captioned source { image with children := below } himageKind
    rw [hbefore, hafter]
    exact .cons (.embedded hsource.bare) ih
  | @other t below ht h ih =>
    rw [placedImages_singleton, tokenImages_eq, picked_singleton, ht]
    by_cases hkind : isImageKind t.kind
    · rw [if_pos hkind, if_pos hkind]
      exact .cons (.kept t.bare) ih
    · rw [if_neg hkind, if_neg hkind]
      exact ih

end Folio.Figure
