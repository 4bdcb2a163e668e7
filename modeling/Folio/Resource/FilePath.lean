/-!
# File paths

The text of a path is a sequence of names between slashes. A slash at its beginning makes it
absolute. Empty names and single dots say nothing, except that a dot at the very beginning of a
relative path is kept. Two dots lead to the parent directory.
-/

namespace Folio.FilePath

inductive Component where
  | root
  | current
  | parent
  | normal (name : String)
  deriving DecidableEq

/-- The pieces of a text between slashes, one more than it has slashes. -/
def splitSlash : List Char → List (List Char)
  | [] => [[]]
  | c :: rest =>
    if c = '/' then [] :: splitSlash rest
    else
      match splitSlash rest with
      | [] => [[c]]
      | piece :: pieces => (c :: piece) :: pieces

def names (path : String) : List String :=
  (splitSlash path.toList).map String.ofList

def isAbsolute (path : String) : Bool :=
  path.toList.head? == some '/'

def component? : String → Option Component
  | "" | "." => none
  | ".." => some .parent
  | name => some (.normal name)

def components (path : String) : List Component :=
  match names path with
  | [] => []
  | first :: rest =>
    let start := if isAbsolute path then some .root
      else if first = "." then some .current
      else component? first
    start.toList ++ rest.filterMap component?

def fileName? (path : String) : Option String :=
  match (components path).getLast? with
  | some (.normal name) => some name
  | _ => none

/-- What follows the last dot of a file name, none if the name has no dot past its first character.
-/
def nameExtension? (name : List Char) : Option (List Char) :=
  let reversed := name.reverse
  match reversed.dropWhile (· != '.') with
  | [] | [_] => none
  | _ :: _ :: _ => some (reversed.takeWhile (· != '.')).reverse

def extension? (path : String) : Option String :=
  (fileName? path).bind fun name => (nameExtension? name.toList).map String.ofList

/-- The names, given in reverse, without those at the end that say nothing. The first name of a
relative path may be a dot, which is kept. -/
def dropSilent (absolute : Bool) : List String → List String
  | [] => []
  | "" :: rest => dropSilent absolute rest
  | "." :: rest => if rest.isEmpty && !absolute then ["."] else dropSilent absolute rest
  | name :: rest => name :: rest

/-- The text of the path to the directory that holds what a path names, none for the empty path and
for the root. -/
def parent? (path : String) : Option String :=
  let absolute := isAbsolute path
  let listed := if absolute then (names path).tail else names path
  match dropSilent absolute listed.reverse with
  | [] => none
  | _ :: rest =>
    let kept := (dropSilent absolute rest).reverse
    some ((if absolute then "/" else "") ++ "/".intercalate kept)

/-- The path that leads along the first and from there along the second, which alone counts if it is
absolute. -/
def join (base path : String) : String :=
  if isAbsolute path then path
  else if base.isEmpty || base.toList.getLast? == some '/' then base ++ path
  else base ++ "/" ++ path

end Folio.FilePath
