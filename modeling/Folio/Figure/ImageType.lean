import Folio.Bytes.Base64
import Folio.Resource.FilePath
import Folio.Text.Ascii

/-!
# Image types

The types of image that a page may embed are told by the extension of the file, in any case. An
embedded image is a link that carries the media type and the bytes themselves.
-/

namespace Folio.ImageType

open Folio.Text

def mediaTypes : List (String × String) := [
  ("gif", "image/gif"),
  ("png", "image/png"),
  ("jpg", "image/jpeg"),
  ("jpeg", "image/jpeg"),
  ("webp", "image/webp")]

/-- The extension of the file that a path names, empty if there is none. -/
def extension (path : String) : String :=
  (FilePath.extension? path).getD ""

def mediaType? (path : String) : Option String :=
  (mediaTypes.find? fun (known, _) =>
    eqIgnoringCase known.toList (extension path).toList).map (·.2)

def dataUri (mediaType : String) (bytes : List UInt8) : String :=
  "data:" ++ mediaType ++ ";base64," ++ String.ofList (Base64.encode bytes)

end Folio.ImageType
