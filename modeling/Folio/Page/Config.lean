import Folio.Json.Reader
import Folio.Resource.FileTree
import Folio.Toc.Basic

/-!
# Settings of a pipeline

The settings say where images are read from, how deep the table of contents goes and which passes
run. They are usually kept in a JSON file, in which everything may be left out. The depth must be a
level that a heading can have, which is checked after the text has been read.
-/

namespace Folio

open Json

structure PipelineConfig where
  sourceRoot : Option String
  tocMaxLevel : UInt8
  bionic : Bool
  wrapInlineCode : Bool
  embedFigures : Bool
  deriving DecidableEq

inductive ConfigError where
  | levelOutOfRange (level : UInt8)
  | rootNotDirectory (root : String)
  /-- Figures are to be embedded, but there is nowhere to read them from. -/
  | noFigureSource
  deriving DecidableEq

def ConfigError.message : ConfigError → String
  | levelOutOfRange level =>
    "tocMaxLevel must be between 1 and 6, got " ++ level.toNat.repr
  | rootNotDirectory root => "Source root '" ++ root ++ "' is not a directory"
  | noFigureSource =>
    "Figure embedding is enabled but no source root or resource provider was configured."

inductive ConfigLoadError where
  /-- The text is not JSON, or not of the form of settings. -/
  | json
  | invalid (cause : ConfigError)
  | unreadable (path : String) (cause : FileError)
  deriving DecidableEq

namespace PipelineConfig

def default : PipelineConfig where
  sourceRoot := none
  tocMaxLevel := Toc.defaultMaxLevel
  bionic := true
  wrapInlineCode := true
  embedFigures := true

def fieldNames : List String :=
  ["sourceRoot", "tocMaxLevel", "bionic", "wrapInlineCode", "embedFigures"]

def toJson (c : PipelineConfig) : Json :=
  .object [
    ("sourceRoot", c.sourceRoot.elim .null .string),
    ("tocMaxLevel", .integer c.tocMaxLevel.toNat),
    ("bionic", .bool c.bionic),
    ("wrapInlineCode", .bool c.wrapInlineCode),
    ("embedFigures", .bool c.embedFigures)]

def rootOfJson? : Json → Option (Option String)
  | .null => some none
  | .string path => some (some path)
  | _ => none

/-- Reads settings of any depth. -/
def ofJson? (j : Json) : Option PipelineConfig := do
  let fields ← fields? fieldNames j
  let sourceRoot ← optional rootOfJson? default.sourceRoot ["sourceRoot"] fields
  let tocMaxLevel ← optional uint8? default.tocMaxLevel ["tocMaxLevel"] fields
  let bionic ← optional bool? default.bionic ["bionic"] fields
  let wrapInlineCode ← optional bool? default.wrapInlineCode ["wrapInlineCode"] fields
  let embedFigures ← optional bool? default.embedFigures ["embedFigures"] fields
  some { sourceRoot, tocMaxLevel, bionic, wrapInlineCode, embedFigures }

def isValid (c : PipelineConfig) : Bool :=
  1 ≤ c.tocMaxLevel && c.tocMaxLevel ≤ 6

def validate (c : PipelineConfig) : Except ConfigError PipelineConfig :=
  if c.isValid then .ok c else .error (.levelOutOfRange c.tocMaxLevel)

def load (j : Json) : Except ConfigLoadError PipelineConfig :=
  match ofJson? j with
  | none => .error .json
  | some c => c.validate.mapError .invalid

def loadText (text : String) : Except ConfigLoadError PipelineConfig :=
  match Json.read? text with
  | none => .error .json
  | some j => load j

/-- The settings with a relative source root taken to begin at the directory of the file. -/
def relativeTo (path : String) (c : PipelineConfig) : PipelineConfig :=
  { c with sourceRoot := c.sourceRoot.map (FilePath.join ((FilePath.parent? path).getD "")) }

def loadFile (t : FileTree) (path : String) : Except ConfigLoadError PipelineConfig := do
  let text ← (t.readText path).mapError (.unreadable path)
  return (← loadText text).relativeTo path

end PipelineConfig

end Folio
