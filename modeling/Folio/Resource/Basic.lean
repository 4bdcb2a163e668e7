/-!
# Resources

A provider reads the bytes behind a path that a document names. Its failures tell a path that names
nothing from one that cannot be read and from one that is refused.
-/

namespace Folio

inductive FileError where
  | notFound
  | notDirectory
  | isDirectory
  | tooManyLinks
  | nameTooLong
  | nulInPath
  /-- The bytes are not the encoding of any text. -/
  | notText
  deriving DecidableEq

/-- The message for the failure, with the number of the system error where there is one. -/
def FileError.message : FileError → String
  | notFound => "No such file or directory (os error 2)"
  | notDirectory => "Not a directory (os error 20)"
  | isDirectory => "Is a directory (os error 21)"
  | tooManyLinks => "Too many levels of symbolic links (os error 40)"
  | nameTooLong => "File name too long (os error 36)"
  | nulInPath => "file name contained an unexpected NUL byte"
  | notText => "stream did not contain valid UTF-8"

inductive ResourceError where
  | notFound (path : String)
  | loadFailed (path : String) (cause : FileError)
  | invalidPath (path : String)
  | io (cause : FileError)
  deriving DecidableEq

def ResourceError.message : ResourceError → String
  | notFound path => "Resource not found: " ++ path
  | loadFailed path cause => "Failed to load resource '" ++ path ++ "': " ++ cause.message
  | invalidPath path => "Invalid resource path: " ++ path
  | io cause => "I/O error: " ++ cause.message

structure Provider where
  name : String
  load : String → Except ResourceError (List UInt8)

/-- Resources held in memory, at most one for each path. -/
structure ResourceStore where
  entries : List (String × List UInt8)

namespace ResourceStore

def empty : ResourceStore :=
  ⟨[]⟩

/-- Puts a resource in the place of any that has the same path. -/
def insert (s : ResourceStore) (path : String) (bytes : List UInt8) : ResourceStore :=
  ⟨(path, bytes) :: s.entries.filter (·.1 != path)⟩

def size (s : ResourceStore) : Nat :=
  s.entries.length

/-- The provider that looks resources up by their exact path. -/
def provider (s : ResourceStore) : Provider where
  name := "InMemoryResourceProvider"
  load path := (s.entries.lookup path).elim (.error (.notFound path)) .ok

end ResourceStore

end Folio
