import Folio.Error
import Folio.Page.Config

/-!
# Errors of pipelines

A page fails either because its pipeline cannot be set up or because its document cannot be enriched.
Errors that whoever wrote the settings or the document can mend are errors of configuration.
-/

namespace Folio

inductive PageError where
  | settings (cause : ConfigLoadError)
  | enrichment (cause : EnrichError)
  deriving DecidableEq

namespace PageError

def ofConfig (cause : ConfigError) : PageError :=
  .settings (.invalid cause)

/-- Whether the settings or the document are to blame. -/
def isConfiguration : PageError → Bool
  | settings _ => true
  | enrichment cause => cause.isConfiguration

/-- The message for the error. A text that holds no settings has none of its own: what is wrong with
it is up to its JSON reader. -/
def message? : PageError → Option String
  | settings .json => none
  | settings (.invalid cause) => some ("Invalid pipeline configuration: " ++ cause.message)
  | settings (.unreadable path cause) =>
    some ("I/O error: Failed to read config from '" ++ path ++ "': " ++ cause.message)
  | enrichment cause => some ("Enrichment failed: " ++ cause.message)

end PageError

end Folio
