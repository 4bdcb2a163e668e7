import Folio.Page.Pipeline
import Folio.Resource.SourceRoot

/-!
# Building pipelines

A pipeline is built from settings, each of which may be replaced any number of times, and from a
provider and an emphasizer if others than the usual ones are wanted. Building checks the settings:
whoever wants figures embedded has to say where images come from.
-/

namespace Folio

structure PipelineBuilder where
  config : PipelineConfig
  resources : Option Provider
  emphasizer : Option Emphasizer

namespace PipelineBuilder

/-- Every pass runs, and nothing else has been chosen. -/
def new : PipelineBuilder where
  config := .default
  resources := none
  emphasizer := none

def withConfig (b : PipelineBuilder) (config : PipelineConfig) : PipelineBuilder :=
  { b with config }

def withConfigFile (b : PipelineBuilder) (t : FileTree) (path : String) :
    Except ConfigLoadError PipelineBuilder := do
  return b.withConfig (← PipelineConfig.loadFile t path)

def withSourceRoot (b : PipelineBuilder) (root : String) : PipelineBuilder :=
  { b with config := { b.config with sourceRoot := some root } }

/-- Reads images from a provider, whatever the source root. -/
def withResources (b : PipelineBuilder) (resources : Provider) : PipelineBuilder :=
  { b with resources := some resources }

def withEmphasizer (b : PipelineBuilder) (emphasizer : Emphasizer) : PipelineBuilder :=
  { b with emphasizer := some emphasizer }

def withTocMaxLevel (b : PipelineBuilder) (level : UInt8) : PipelineBuilder :=
  { b with config := { b.config with tocMaxLevel := level } }

def withBionic (b : PipelineBuilder) (enabled : Bool) : PipelineBuilder :=
  { b with config := { b.config with bionic := enabled } }

def withCodeWrapping (b : PipelineBuilder) (enabled : Bool) : PipelineBuilder :=
  { b with config := { b.config with wrapInlineCode := enabled } }

def withFigureEmbedding (b : PipelineBuilder) (enabled : Bool) : PipelineBuilder :=
  { b with config := { b.config with embedFigures := enabled } }

/-- What images are read from: the chosen provider, or else the source root, which must be a
directory. -/
def provider? (b : PipelineBuilder) (t : FileTree) : Except ConfigError (Option Provider) :=
  match b.resources, b.config.sourceRoot with
  | some resources, _ => .ok (some resources)
  | none, some root =>
    if t.isDirectory root then .ok (some ((SourceRoot.atPath t root).provider t))
    else .error (.rootNotDirectory root)
  | none, none => .ok none

def build (b : PipelineBuilder) (t : FileTree) : Except ConfigError Pipeline := do
  let config ← b.config.validate
  let resources ← b.provider? t
  if config.embedFigures && resources.isNone then .error .noFigureSource
  else
    return {
      config
      tocMaxLevel := config.tocMaxLevel
      resources
      emphasizer := b.emphasizer.getD Bionic.emphasizer }

end PipelineBuilder

end Folio
