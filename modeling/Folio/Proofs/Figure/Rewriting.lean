import Folio.Proofs.Bytes.Base64
import Folio.Proofs.Figure.Embedding

/-!
# Embedding as a rewriting of the tree

The pass for figures computes paths once and then follows them through a document that it changes.
What it does to the tree can be said without paths: the figures are numbered in document order, also
those below the images of others, and the first of them are rewritten with the sources that were
made of their images. If a figure cannot be embedded, the figures rewritten are those before it.
-/

namespace Folio.Figure

/-! ## The paths of figures -/

mutual

def figurePaths : Token → List Path
  | ⟨kind, tag, content, attrs, children, nesting⟩ =>
    (if isFigure ⟨kind, tag, content, attrs, children, nesting⟩ then [[]] else []) ++
      figurePathsFrom 0 children

def figurePathsFrom (i : Nat) : List Token → List Path
  | [] => []
  | t :: rest => (figurePaths t).map (i :: ·) ++ figurePathsFrom (i + 1) rest

end

theorem figurePaths_eq (t : Token) :
    figurePaths t = (if isFigure t then [[]] else []) ++ figurePathsFrom 0 t.children := by
  cases t
  simp [figurePaths]

theorem ne_nil_of_mem_figurePathsFrom {i : Nat} {ts : List Token} {path : Path}
    (h : path ∈ figurePathsFrom i ts) : path ≠ [] := by
  induction ts generalizing i with
  | nil => simp [figurePathsFrom] at h
  | cons t rest ih =>
    simp only [figurePathsFrom, List.mem_append, List.mem_map] at h
    rcases h with ⟨below, -, rfl⟩ | h
    · simp
    · exact ih h

mutual

theorem filter_paths (t : Token) {ts : List Token} {i : Nat} (ht : ts[i]? = some t) :
    (t.paths.map (i :: ·)).filter (Outline.holdsAt ⟨ts⟩ isFigure) =
      (figurePaths t).map (i :: ·) := by
  match t with
  | ⟨kind, tag, content, attrs, children, nesting⟩ =>
    have hself : Outline.holdsAt ⟨ts⟩ isFigure [i] =
        isFigure ⟨kind, tag, content, attrs, children, nesting⟩ := by
      simp [Outline.holdsAt, Document.get?, tokenAt?, ht]
    have hbelow : ((pathsFrom 0 children).map (i :: ·)).filter
        (Outline.holdsAt ⟨ts⟩ isFigure) = (figurePathsFrom 0 children).map (i :: ·) := by
      have hchildren := filter_pathsFrom children []
      rw [List.nil_append, List.length_nil] at hchildren
      rw [← hchildren, List.filter_map]
      congr 1
      apply List.filter_congr
      intro path hpath
      have hne : path ≠ [] := ne_nil_of_mem_pathsFrom hpath
      simp [Outline.holdsAt, Document.get?, tokenAt?_cons hne, ht]
    simp only [Token.paths, figurePaths, List.map_cons, List.map_append, List.filter_cons, hself,
      hbelow]
    split <;> simp

theorem filter_pathsFrom (ts front : List Token) :
    (pathsFrom front.length ts).filter (Outline.holdsAt ⟨front ++ ts⟩ isFigure) =
      figurePathsFrom front.length ts := by
  match ts with
  | [] => rfl
  | t :: rest =>
    have hrest := filter_pathsFrom rest (front ++ [t])
    rw [List.append_assoc, List.singleton_append, List.length_append,
      List.length_singleton] at hrest
    rw [pathsFrom, List.filter_append, filter_paths t (by simp), hrest, figurePathsFrom]

end

theorem pathsWhere_isFigure (doc : Document) :
    (Outline.ofDocument doc).pathsWhere doc isFigure = figurePathsFrom 0 doc.tokens :=
  filter_pathsFrom doc.tokens []

/-! ## The loop over paths -/

variable (resources : Provider)

theorem embedAt_append (doc : Document) (ps qs : List Path) :
    embedAt resources doc (ps ++ qs) =
      match embedAt resources doc ps with
      | (none, embedded) => embedAt resources embedded qs
      | (some e, left) => (some e, left) := by
  induction ps generalizing doc with
  | nil => rfl
  | cons path rest ih =>
    rw [List.cons_append]
    cases hfigure : doc.get? path with
    | none => rw [embedAt_cons_none hfigure, embedAt_cons_none hfigure, ih]
    | some figure =>
      cases hembed : embed resources figure with
      | error e => rw [embedAt_cons_error hfigure hembed, embedAt_cons_error hfigure hembed]
      | ok embedded => rw [embedAt_cons_ok hfigure hembed, embedAt_cons_ok hfigure hembed, ih]

theorem set_of_getElem? {ts : List Token} {i : Nat} {t : Token} (ht : ts[i]? = some t) :
    ts.set i t = ts := by
  obtain ⟨hi, rfl⟩ := List.getElem?_eq_some_iff.mp ht
  exact List.set_getElem_self hi

theorem modifyAt_below {change : Token → Token} {path : Path} (hpath : path ≠ []) {ts : List Token}
    {i : Nat} {t : Token} (ht : ts[i]? = some t) :
    modifyAt change ts (i :: path) =
      ts.set i { t with children := modifyAt change t.children path } := by
  cases path with
  | nil => exact absurd rfl hpath
  | cons j path =>
    rw [modifyAt, List.modify_eq_set_getElem?, ht]
    rfl

theorem embedAt_below {ps : List Path} (hps : ∀ path ∈ ps, path ≠ []) {ts : List Token} {i : Nat}
    {t : Token} (ht : ts[i]? = some t) :
    embedAt resources ⟨ts⟩ (ps.map (i :: ·)) =
      ((embedAt resources ⟨t.children⟩ ps).1,
        ⟨ts.set i { t with children := (embedAt resources ⟨t.children⟩ ps).2.tokens }⟩) := by
  induction ps generalizing ts t with
  | nil =>
    cases t
    exact congrArg (none, Document.mk ·) (set_of_getElem? ht).symm
  | cons path rest ih =>
    obtain ⟨hpath, hrest⟩ := List.forall_mem_cons.mp hps
    have hget : Document.get? ⟨ts⟩ (i :: path) = Document.get? ⟨t.children⟩ path := by
      show tokenAt? ts (i :: path) = tokenAt? t.children path
      rw [tokenAt?_cons hpath, ht, Option.bind_some]
    rw [List.map_cons]
    cases hfigure : Document.get? ⟨t.children⟩ path with
    | none => rw [embedAt_cons_none (hget.trans hfigure), embedAt_cons_none hfigure, ih hrest ht]
    | some figure =>
      cases hembed : embed resources figure with
      | error e =>
        rw [embedAt_cons_error (hget.trans hfigure) hembed, embedAt_cons_error hfigure hembed]
        cases t
        exact congrArg (some e, Document.mk ·) (set_of_getElem? ht).symm
      | ok embedded =>
        have hmodified : Document.modify ⟨ts⟩ (i :: path) (fun _ => embedded) =
            ⟨ts.set i { t with children := modifyAt (fun _ => embedded) t.children path }⟩ :=
          congrArg Document.mk (modifyAt_below hpath ht)
        have hlt : i < ts.length := (List.getElem?_eq_some_iff.mp ht).1
        rw [embedAt_cons_ok (hget.trans hfigure) hembed, embedAt_cons_ok hfigure hembed, hmodified,
          ih hrest (List.getElem?_set_self hlt)]
        simp [Document.modify]

/-! ## The sources of embedded images -/

/-- The new sources of images, up to the first image that cannot be embedded, and its error. -/
def loadSources (resources : Provider) : List Token → List String × Option EnrichError
  | [] => ([], none)
  | image :: rest =>
    match embeddedSource resources image with
    | .error e => ([], some e)
    | .ok source =>
      let (sources, e?) := loadSources resources rest
      (source :: sources, e?)

theorem length_loadSources_le (images : List Token) :
    (loadSources resources images).1.length ≤ images.length := by
  induction images with
  | nil => simp [loadSources]
  | cons image rest ih =>
    rw [loadSources]
    cases embeddedSource resources image with
    | error e => simp
    | ok source => simpa using ih

theorem length_loadSources {images : List Token} (h : (loadSources resources images).2 = none) :
    (loadSources resources images).1.length = images.length := by
  induction images with
  | nil => rfl
  | cons image rest ih =>
    rw [loadSources] at h ⊢
    cases hsource : embeddedSource resources image with
    | error e => simp [hsource] at h
    | ok source =>
      simp only [hsource] at h
      simp [ih h]

theorem loadSources_append (images others : List Token) :
    loadSources resources (images ++ others) =
      match loadSources resources images with
      | (sources, none) =>
        (sources ++ (loadSources resources others).1, (loadSources resources others).2)
      | (sources, some e) => (sources, some e) := by
  induction images with
  | nil => simp [loadSources]
  | cons image rest ih =>
    rw [List.cons_append, loadSources, loadSources]
    cases embeddedSource resources image with
    | error e => rfl
    | ok source =>
      rw [ih]
      obtain ⟨sources, e?⟩ := loadSources resources rest
      cases e? <;> rfl

/-! ## The rewriting -/

def figureImages (ts : List Token) : List Token :=
  ((siblingsInOrder ts).filter isFigure).flatMap (·.children)

/-- The children of a figure with the source and the anchor of the image set, and its caption
behind it. -/
def captioned (source : String) : List Token → List Token
  | [image] =>
    [(image.setAttr "src" source).setAttr "id" (Anchor.ofFigure (caption image)).name,
      .inlineHtml captionOpen, .text (caption image), .inlineHtml captionClose]
  | children => children

mutual

/-- A token with the first figures rewritten, one for each source. -/
def rewriteToken (sources : List String) : Token → Token
  | ⟨kind, tag, content, attrs, children, nesting⟩ =>
    if isFigure ⟨kind, tag, content, attrs, children, nesting⟩ then
      match sources with
      | [] => ⟨kind, tag, content, attrs, children, nesting⟩
      | source :: later =>
        ⟨kind, tag, content, attrs, captioned source (rewriteSiblings later children), nesting⟩
    else ⟨kind, tag, content, attrs, rewriteSiblings sources children, nesting⟩

def rewriteSiblings (sources : List String) : List Token → List Token
  | [] => []
  | t :: rest =>
    let figures := (figureImages [t]).length
    rewriteToken (sources.take figures) t :: rewriteSiblings (sources.drop figures) rest

end

theorem figureImages_cons (t : Token) (rest : List Token) :
    figureImages (t :: rest) = figureImages [t] ++ figureImages rest := by
  simp [figureImages, siblingsInOrder]

theorem figureImages_singleton (t : Token) :
    figureImages [t] = (if isFigure t then t.children else []) ++ figureImages t.children := by
  by_cases ht : isFigure t <;> simp [figureImages, siblingsInOrder, Token.inOrder_eq, ht]

theorem isFigure_of_isLeaf (t : Token) (h : t.kind.isLeaf = true) : isFigure t = false := by
  cases hkind : t.kind <;> simp_all [isFigure, Kind.isLeaf]

theorem isFigure_image {image : Token} (h : image.kind = .image) : isFigure image = false :=
  isFigure_of_isLeaf image (by rw [h]; rfl)

theorem exists_image_of_isFigure {t : Token} (h : isFigure t = true) :
    ∃ image, t.children = [image] ∧ image.kind = .image := by
  unfold isFigure at h
  split at h
  · rename_i image hchildren
    simp only [Bool.and_eq_true, beq_iff_eq] at h
    exact ⟨image, hchildren, h.2⟩
  · simp at h

theorem caption_setAttr {key : String} (hkey : "alt" ≠ key) (value : String) (image : Token) :
    caption (image.setAttr key value) = caption image := by
  have halternative : (image.setAttr key value).attr? "alt" = image.attr? "alt" := by
    simp [Token.attr?_setAttr, hkey]
  rw [caption, halternative]
  rfl

mutual

theorem rewriteToken_nil (t : Token) : rewriteToken [] t = t := by
  match t with
  | ⟨kind, tag, content, attrs, children, nesting⟩ =>
    rw [rewriteToken, rewriteSiblings_nil children]
    split <;> rfl

theorem rewriteSiblings_nil (ts : List Token) : rewriteSiblings [] ts = ts := by
  match ts with
  | [] => rfl
  | t :: rest =>
    simp [rewriteSiblings, rewriteToken_nil t, rewriteSiblings_nil rest]

end

/-- A figure is rewritten with the first source, and what is below its image with the others. -/
theorem rewriteToken_figure {t image : Token} (ht : isFigure t = true)
    (hchildren : t.children = [image]) (himage : image.kind = .image) {source : String}
    {later : List String} (hlater : later.length ≤ (figureImages image.children).length) :
    rewriteToken (source :: later) t =
      { t with
        children :=
          captioned source [{ image with children := rewriteSiblings later image.children }] } := by
  have hbelow : rewriteSiblings later [image] =
      [{ image with children := rewriteSiblings later image.children }] := by
    have hlength : (figureImages [image]).length = (figureImages image.children).length := by
      simp [figureImages_singleton, isFigure_image himage]
    have hfigure := isFigure_image himage
    rw [rewriteSiblings, hlength, List.take_of_length_le hlater]
    cases image
    simp [rewriteToken, rewriteSiblings, hfigure]
  cases t
  obtain rfl := hchildren
  rw [rewriteToken, if_pos ht, hbelow]

/-- Below the image of a figure, embedding goes on as it would without the caption. -/
theorem embedAt_withCaption (source : String) {image : Token} {sources : List String}
    {e? : Option EnrichError}
    (hbelow : embedAt resources ⟨image.children⟩ (figurePathsFrom 0 image.children) =
      (e?, ⟨rewriteSiblings sources image.children⟩)) :
    embedAt resources ⟨withCaption source image⟩
        ((figurePathsFrom 0 image.children).map (0 :: ·)) =
      (e?, ⟨captioned source
        [{ image with children := rewriteSiblings sources image.children }]⟩) := by
  have hpaths : ∀ path ∈ figurePathsFrom 0 image.children, path ≠ [] :=
    fun _ h => ne_nil_of_mem_figurePathsFrom h
  have hfirst : (withCaption source image)[0]? =
      some ((image.setAttr "src" source).setAttr "id" (Anchor.ofFigure (caption image)).name) := by
    rw [withCaption, caption_setAttr (by decide)]
    rfl
  rw [embedAt_below resources hpaths hfirst]
  have hchildren : ((image.setAttr "src" source).setAttr "id"
      (Anchor.ofFigure (caption image)).name).children = image.children := rfl
  rw [hchildren, hbelow, withCaption, caption_setAttr (by decide)]
  rfl

theorem embedAt_figure {t image : Token} (hfigure : isFigure t = true)
    (hchildren : t.children = [image]) (himage : image.kind = .image) {ts : List Token} {i : Nat}
    (ht : ts[i]? = some t)
    (hbelow : embedAt resources ⟨image.children⟩ (figurePathsFrom 0 image.children) =
      ((loadSources resources (figureImages image.children)).2,
        ⟨rewriteSiblings (loadSources resources (figureImages image.children)).1 image.children⟩)) :
    embedAt resources ⟨ts⟩ ((figurePaths t).map (i :: ·)) =
      ((loadSources resources (figureImages [t])).2,
        ⟨ts.set i (rewriteToken (loadSources resources (figureImages [t])).1 t)⟩) := by
  have hplain := isFigure_image himage
  have himages : figureImages [t] = image :: figureImages image.children := by
    simp [figureImages_singleton, hfigure, hchildren, hplain]
  have hpaths : figurePaths t = [] :: (figurePathsFrom 0 image.children).map (0 :: ·) := by
    simp [figurePaths_eq, hfigure, hchildren, figurePathsFrom, hplain]
  have hget : Document.get? ⟨ts⟩ [i] = some t := ht
  have hle := length_loadSources_le resources (figureImages image.children)
  rw [hpaths, himages, loadSources, List.map_cons]
  cases hsource : embeddedSource resources image with
  | error e =>
    have hembed : embed resources t = .error e := by
      simp [embed, hchildren, hsource, Except.map]
    rw [embedAt_cons_error hget hembed, rewriteToken_nil, set_of_getElem? ht]
  | ok source =>
    have hembed : embed resources t = .ok { t with children := withCaption source image } := by
      simp [embed, hchildren, hsource, Except.map]
    have hmodified :
        Document.modify ⟨ts⟩ [i] (fun _ => { t with children := withCaption source image }) =
          ⟨ts.set i { t with children := withCaption source image }⟩ :=
      congrArg Document.mk (List.set_eq_modify _ i ts).symm
    have hlt : i < ts.length := (List.getElem?_eq_some_iff.mp ht).1
    have hlonger : ∀ path ∈ (figurePathsFrom 0 image.children).map (0 :: ·), path ≠ [] := by simp
    have hrest := embedAt_withCaption resources source hbelow
    generalize loadSources resources (figureImages image.children) = loaded at hle hrest
    rw [embedAt_cons_ok hget hembed, hmodified,
      embedAt_below resources hlonger (List.getElem?_set_self hlt), hrest, List.set_set,
      rewriteToken_figure hfigure hchildren himage hle]

mutual

/-- Embedding the figures of one sibling rewrites it, and nothing else. -/
theorem embedAt_figurePaths (t : Token) {ts : List Token} {i : Nat} (ht : ts[i]? = some t) :
    embedAt resources ⟨ts⟩ ((figurePaths t).map (i :: ·)) =
      ((loadSources resources (figureImages [t])).2,
        ⟨ts.set i (rewriteToken (loadSources resources (figureImages [t])).1 t)⟩) := by
  cases hfigure : isFigure t with
  | false =>
    have himages : figureImages [t] = figureImages t.children := by
      simp [figureImages_singleton, hfigure]
    have hpaths : figurePaths t = figurePathsFrom 0 t.children := by
      simp [figurePaths_eq, hfigure]
    have hbelow : ∀ path ∈ figurePathsFrom 0 t.children, path ≠ [] :=
      fun _ h => ne_nil_of_mem_figurePathsFrom h
    have hsize := t.sizeOf_children_lt
    have hchildren := embedAt_figurePathsFrom t.children []
    rw [List.nil_append, List.length_nil, List.nil_append] at hchildren
    rw [himages, hpaths, embedAt_below resources hbelow ht, hchildren]
    cases t
    simp [rewriteToken, hfigure]
  | true =>
    obtain ⟨image, hchildren, himage⟩ := exists_image_of_isFigure hfigure
    have hsize : sizeOf image.children < sizeOf t := by
      have himageSize := image.sizeOf_children_lt
      have htSize := t.sizeOf_children_lt
      simp only [hchildren, List.cons.sizeOf_spec] at htSize
      omega
    exact embedAt_figure resources hfigure hchildren himage ht
      (embedAt_figurePathsFrom image.children [])
termination_by sizeOf t

theorem embedAt_figurePathsFrom (ts front : List Token) :
    embedAt resources ⟨front ++ ts⟩ (figurePathsFrom front.length ts) =
      ((loadSources resources (figureImages ts)).2,
        ⟨front ++ rewriteSiblings (loadSources resources (figureImages ts)).1 ts⟩) := by
  match ts with
  | [] => rfl
  | t :: rest =>
    have ht : (front ++ t :: rest)[front.length]? = some t := by simp
    have hset : ∀ u, (front ++ t :: rest).set front.length u = front ++ u :: rest := by simp
    have hfirst := embedAt_figurePaths t ht
    have hlater := fun u => embedAt_figurePathsFrom rest (front ++ [u])
    simp only [List.append_assoc, List.singleton_append, List.length_append,
      List.length_singleton] at hlater
    rw [figurePathsFrom, embedAt_append, hfirst, hset, figureImages_cons t rest, loadSources_append]
    have hle := length_loadSources_le resources (figureImages [t])
    have hlength : (loadSources resources (figureImages [t])).2 = none → _ :=
      length_loadSources resources
    generalize loadSources resources (figureImages [t]) = loaded at hle hlength
    obtain ⟨sources, e?⟩ := loaded
    cases e? with
    | none =>
      have hlength : sources.length = (figureImages [t]).length := hlength rfl
      simp [hlater, rewriteSiblings, ← hlength]
    | some e =>
      have hle : sources.length ≤ (figureImages [t]).length := hle
      simp [rewriteSiblings, List.take_of_length_le hle, List.drop_of_length_le hle,
        rewriteSiblings_nil]
termination_by sizeOf ts

end

/-- Embedding by paths is rewriting the figures in front of the first that cannot be embedded. -/
theorem embedAll_eq_rewrite (doc : Document) :
    embedAll resources doc =
      let loaded := loadSources resources (figureImages doc.tokens)
      (loaded.2.elim (.ok (doc.inOrder.countP isFigure)) .error,
        ⟨rewriteSiblings loaded.1 doc.tokens⟩) := by
  obtain ⟨tokens⟩ := doc
  have hresult := embedAt_figurePathsFrom resources tokens []
  rw [List.nil_append, List.length_nil, List.nil_append] at hresult
  have hlength : (figurePathsFrom 0 tokens).length = (siblingsInOrder tokens).countP isFigure := by
    rw [← pathsWhere_isFigure ⟨tokens⟩, Document.length_pathsWhere]
    rfl
  rw [embedAll_eq, pathsWhere_isFigure]
  simp only [hresult, hlength]
  rfl

/-! ## Images that can be embedded -/

/-- Whether an image names a source that can be loaded and is of a known type. -/
def IsEmbeddable (resources : Provider) (image : Token) : Prop :=
  ∃ path bytes mediaType, image.attr? "src" = some path ∧ resources.load path = .ok bytes ∧
    ImageType.mediaType? path = some mediaType

/-- The link that takes the place of an image's source. It carries the bytes that were loaded, under
the media type of the source. -/
inductive Embeds (resources : Provider) (image : Token) : String → Prop
  | intro {path mediaType payload : String} {bytes : List UInt8}
      (hsource : image.attr? "src" = some path) (hload : resources.load path = .ok bytes)
      (htype : ImageType.mediaType? path = some mediaType)
      (hpayload : Base64.decode payload.toList = some bytes) :
      Embeds resources image ("data:" ++ mediaType ++ ";base64," ++ payload)

inductive Offends (resources : Provider) (image : Token) : EnrichError → Prop
  | missing (hsource : image.attr? "src" = none) :
      Offends resources image (.missingSource image.content)
  | unloaded {path : String} {cause : ResourceError} (hsource : image.attr? "src" = some path)
      (hload : resources.load path = .error cause) : Offends resources image (.resource cause)
  | unknown {path : String} {bytes : List UInt8} (hsource : image.attr? "src" = some path)
      (hload : resources.load path = .ok bytes) (htype : ImageType.mediaType? path = none) :
      Offends resources image (.unknownExtension path (ImageType.extension path))

theorem embeddedSource_cases (image : Token) :
    (∃ source, embeddedSource resources image = .ok source ∧ Embeds resources image source ∧
        IsEmbeddable resources image) ∨
      ∃ e, embeddedSource resources image = .error e ∧ Offends resources image e ∧
        ¬ IsEmbeddable resources image := by
  unfold embeddedSource
  cases hsource : image.attr? "src" with
  | none => exact .inr ⟨_, rfl, .missing hsource, by simp [IsEmbeddable, hsource]⟩
  | some path =>
    simp only
    cases hload : resources.load path with
    | error cause =>
      exact .inr ⟨_, rfl, .unloaded hsource hload, by simp [IsEmbeddable, hsource, hload]⟩
    | ok bytes =>
      simp only
      cases htype : ImageType.mediaType? path with
      | none =>
        exact .inr ⟨_, rfl, .unknown hsource hload htype, by simp [IsEmbeddable, hsource, htype]⟩
      | some mediaType =>
        have hpayload :
            Base64.decode (String.ofList (Base64.encode bytes)).toList = some bytes := by
          rw [String.toList_ofList]
          exact Base64.decode_encode bytes
        exact .inl ⟨_, rfl, .intro hsource hload htype hpayload,
          path, bytes, mediaType, hsource, hload, htype⟩

theorem loadSources_cases (images : List Token) :
    (∃ sources, loadSources resources images = (sources, none) ∧
        List.Forall₂ (Embeds resources) images sources ∧
        ∀ image ∈ images, IsEmbeddable resources image) ∨
      ∃ before image behind sources e, images = before ++ image :: behind ∧
        loadSources resources images = (sources, some e) ∧
        List.Forall₂ (Embeds resources) before sources ∧ Offends resources image e ∧
        ¬ IsEmbeddable resources image := by
  induction images with
  | nil => exact .inl ⟨[], rfl, .nil, by simp⟩
  | cons image rest ih =>
    obtain ⟨source, hsource, hembeds, hembeddable⟩ | ⟨e, herror, hoffends, hnot⟩ :=
      embeddedSource_cases resources image
    · rcases ih with ⟨sources, hload, hall, hrest⟩ |
        ⟨before, other, behind, sources, e, rfl, hload, hall, hoffends, hnot⟩
      · refine .inl
          ⟨source :: sources, by simp [loadSources, hsource, hload], .cons hembeds hall, ?_⟩
        exact List.forall_mem_cons.mpr ⟨hembeddable, hrest⟩
      · exact .inr ⟨image :: before, other, behind, source :: sources, e, rfl,
          by simp [loadSources, hsource, hload], .cons hembeds hall, hoffends, hnot⟩
    · exact .inr ⟨[], image, rest, [], e, rfl, by simp [loadSources, herror], .nil, hoffends, hnot⟩

variable {resources} in
theorem embedAll_ok {doc done : Document} {n : Nat}
    (h : embedAll resources doc = (.ok n, done)) :
    n = doc.inOrder.countP isFigure ∧
      ∃ sources, List.Forall₂ (Embeds resources) (figureImages doc.tokens) sources ∧
        done.tokens = rewriteSiblings sources doc.tokens := by
  rw [embedAll_eq_rewrite] at h
  obtain ⟨sources, hload, hall, -⟩ | ⟨_, _, _, _, e, -, hload, -⟩ :=
    loadSources_cases resources (figureImages doc.tokens)
  · simp only [hload, Option.elim_none, Prod.mk.injEq, Except.ok.injEq] at h
    obtain ⟨rfl, rfl⟩ := h
    exact ⟨rfl, sources, hall, rfl⟩
  · simp [hload] at h

/-- Embedding succeeds exactly if the image of every figure can be embedded. Then all figures are
rewritten, and counted. Otherwise the error is that of the first image that cannot be embedded, the
figures before it are rewritten, and all else is as it was. -/
theorem embedAll_rewrites (resources : Provider) (doc : Document) :
    ((∃ n done, embedAll resources doc = (.ok n, done)) ↔
        ∀ image ∈ figureImages doc.tokens, IsEmbeddable resources image) ∧
      (∀ n done, embedAll resources doc = (.ok n, done) →
        n = doc.inOrder.countP isFigure ∧
          ∃ sources, List.Forall₂ (Embeds resources) (figureImages doc.tokens) sources ∧
            done.tokens = rewriteSiblings sources doc.tokens) ∧
      ∀ e left, embedAll resources doc = (.error e, left) →
        ∃ before image behind sources, figureImages doc.tokens = before ++ image :: behind ∧
          List.Forall₂ (Embeds resources) before sources ∧ Offends resources image e ∧
          left.tokens = rewriteSiblings sources doc.tokens := by
  rw [embedAll_eq_rewrite]
  obtain ⟨sources, hload, hall, hembeddable⟩ |
    ⟨before, image, behind, sources, e, himages, hload, hall, hoffends, hnot⟩ :=
      loadSources_cases resources (figureImages doc.tokens)
  · simp only [hload, Option.elim_none]
    refine ⟨by simpa using hembeddable, ?_, nofun⟩
    rintro n done ⟨⟩
    exact ⟨rfl, sources, hall, rfl⟩
  · simp only [hload, Option.elim_some]
    refine ⟨⟨nofun, fun h => absurd (h image (by simp [himages])) hnot⟩, nofun, ?_⟩
    rintro e left ⟨⟩
    exact ⟨before, image, behind, sources, himages, hall, hoffends, rfl⟩

/-- A figure whose image holds another one, which names no source. -/
def nestedFigures : Document where
  tokens := [.inline "" [{ Token.image "a.png" "outer" with
    children := [.inline "" [{ Token.ofKind .image with content := "inner" }]] }]]

def threeOctets : Provider :=
  ResourceStore.provider ⟨[("a.png", [1, 2, 3])]⟩

theorem embedAll_rewrites_nested :
    ∃ left, embedAll threeOctets nestedFigures = (.error (.missingSource "inner"), left) ∧
      ∃ before image behind sources,
        figureImages nestedFigures.tokens = before ++ image :: behind ∧
          List.Forall₂ (Embeds threeOctets) before sources ∧
          Offends threeOctets image (.missingSource "inner") ∧
          left.tokens = rewriteSiblings sources nestedFigures.tokens := by
  have hresult : (embedAll threeOctets nestedFigures).1 = .error (.missingSource "inner") := by
    decide +kernel
  have herror : embedAll threeOctets nestedFigures =
      (.error (.missingSource "inner"), (embedAll threeOctets nestedFigures).2) :=
    Prod.ext hresult rfl
  exact ⟨_, herror, (embedAll_rewrites threeOctets nestedFigures).2.2 _ _ herror⟩

end Folio.Figure
