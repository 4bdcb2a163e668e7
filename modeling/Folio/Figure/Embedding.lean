import Folio.Anchor.Basic
import Folio.Document.Outline
import Folio.Error
import Folio.Figure.ImageType

/-!
# Embedded figures

An inline container whose only child is an image is a figure. Embedding puts the bytes of the image
into its source, gives it an anchor and writes a caption behind it. Figures are embedded in document
order, and the first that cannot be ends the pass: those before it stay embedded, it and all behind
it stay as they are.
-/

namespace Folio.Figure

/-- Whether the token is an inline container of one image and nothing else. -/
def isFigure (t : Token) : Bool :=
  t.kind == .inline && match t.children with
    | [image] => image.kind == .image
    | _ => false

def captionOpen : String := "<figcaption>"

def captionClose : String := "</figcaption>"

/-- The caption of an image: its alternative attribute, or its content where that is empty or
missing. -/
def caption (image : Token) : String :=
  match image.attr? "alt" with
  | some alternative => if alternative.isEmpty then image.content else alternative
  | none => image.content

def embeddedSource (resources : Provider) (image : Token) : Except EnrichError String :=
  match image.attr? "src" with
  | none => .error (.missingSource image.content)
  | some source =>
    match resources.load source with
    | .error cause => .error (.resource cause)
    | .ok bytes =>
      match ImageType.mediaType? source with
      | none => .error (.unknownExtension source (ImageType.extension source))
      | some mediaType => .ok (ImageType.dataUri mediaType bytes)

def withCaption (source : String) (image : Token) : List Token :=
  let embedded := image.setAttr "src" source
  let words := caption embedded
  [embedded.setAttr "id" (Anchor.ofFigure words).name,
    .inlineHtml captionOpen, .text words, .inlineHtml captionClose]

/-- A figure with its image embedded. A token that is no figure stays as it is. -/
def embed (resources : Provider) (figure : Token) : Except EnrichError Token :=
  match figure.children with
  | [image] =>
    (embeddedSource resources image).map fun source =>
      { figure with children := withCaption source image }
  | _ => .ok figure

def embedAt (resources : Provider) (doc : Document) : List Path → Option EnrichError × Document
  | [] => (none, doc)
  | path :: rest =>
    match doc.get? path with
    | none => embedAt resources doc rest
    | some figure =>
      match embed resources figure with
      | .error e => (some e, doc)
      | .ok embedded => embedAt resources (doc.modify path fun _ => embedded) rest

/-- Embeds all figures of a document. Gives their number or the first error, and the document as it
is then. -/
def embedAll (resources : Provider) (doc : Document) : Except EnrichError Nat × Document :=
  let paths := (Outline.ofDocument doc).pathsWhere doc isFigure
  match embedAt resources doc paths with
  | (none, embedded) => (.ok paths.length, embedded)
  | (some e, embedded) => (.error e, embedded)

end Folio.Figure
