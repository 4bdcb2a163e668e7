import Folio.Resource.FileTree

/-!
# Resources under a source root

Documents name their images relative to a root directory. A slash at the beginning of such a path
means the root too. A path that leads out of the root is refused, both when its names say so and
when links inside the root lead elsewhere; the second is known by comparing real places, which takes
that the root existed when the source root was made and that the file exists.
-/

namespace Folio

/-- A root directory by its path, with the place it denoted when it was chosen, if any. -/
structure SourceRoot where
  path : String
  place? : Option Place

namespace SourceRoot

def atPath (t : FileTree) (path : String) : SourceRoot where
  path := path
  place? := (t.resolve path).toOption

/-- The names that a document path leads through, none if a step is other than to a name. -/
def cleanNames? (path : String) : Option (List String) :=
  let relative := String.ofList (path.toList.dropWhile (· == '/'))
  (FilePath.components relative).filterMapM (m := Option) fun
    | .normal name => some (some name)
    | .current => some none
    | .parent | .root => none

/-- Whether a place really lies outside of the root, as far as both are known. -/
def leavesRoot (root : SourceRoot) (t : FileTree) (full : String) : Bool :=
  match t.resolve full, root.place? with
  | .ok place, some rootPlace => !rootPlace.isPrefixOf place
  | _, _ => false

/-- The file path for a document path, none if it is refused. -/
def resolve? (root : SourceRoot) (t : FileTree) (path : String) : Option String := do
  let names ← cleanNames? path
  if names.isEmpty then none
  else
    let full := FilePath.join root.path ("/".intercalate names)
    if root.leavesRoot t full then none else some full

def load (root : SourceRoot) (t : FileTree) (path : String) :
    Except ResourceError (List UInt8) :=
  match root.resolve? t path with
  | none => .error (.invalidPath path)
  | some full =>
    match t.read full with
    | .ok bytes => .ok bytes
    | .error .notFound => .error (.notFound path)
    | .error cause => .error (.loadFailed path cause)

def provider (root : SourceRoot) (t : FileTree) : Provider where
  name := "SourceRootProvider"
  load := root.load t

end SourceRoot

end Folio
