import Folio.Resource.Basic
import Folio.Resource.FilePath

/-!
# File trees

A file tree holds directories, files and symbolic links, each at the names that lead to it from the
root. Resolving a path follows links wherever they occur, a bounded number of them in all, and ends
at the place where a file or a directory really is.
-/

namespace Folio

inductive FileTree.Node where
  | directory
  | file (bytes : List UInt8)
  | link (target : String)

/-- The names that lead from the root to a place. -/
abbrev Place := List String

/-- The contents of a file system, and the directory at which relative paths begin. -/
structure FileTree where
  nodes : List (Place × FileTree.Node)
  workingDirectory : Place

namespace FileTree

def emptyAt (workingDirectory : Place) : FileTree where
  nodes := (List.range (workingDirectory.length + 1)).map fun n =>
    (workingDirectory.take n, .directory)
  workingDirectory := workingDirectory

/-- What stands at a place, links not followed. The root is a directory. -/
def node? (t : FileTree) : Place → Option Node
  | [] => some .directory
  | place => t.nodes.lookup place

def isDirectoryAt (t : FileTree) (place : Place) : Bool :=
  match t.node? place with
  | some .directory => true
  | _ => false

/-- How many symbolic links are followed on the way to one place. -/
def linkLimit : Nat := 40

/-- The length in bytes that no name may exceed. -/
def nameLimit : Nat := 255

/-- The length in bytes that every path stays below. -/
def pathLimit : Nat := 4096

/-- Where the names lead from a place, when at most `links` more links may be followed. -/
def walk (t : FileTree) (links : Nat) (place : Place) : List String → Except FileError Place
  | [] => .ok place
  | name :: rest =>
    if !t.isDirectoryAt place then .error .notDirectory
    else if name = "" ∨ name = "." then t.walk links place rest
    else if name = ".." then t.walk links place.dropLast rest
    else if nameLimit < name.utf8ByteSize then .error .nameTooLong
    else
      match t.node? (place ++ [name]) with
      | none => .error .notFound
      | some (.link target) =>
        match links with
        | 0 => .error .tooManyLinks
        | links + 1 =>
          t.walk links (if FilePath.isAbsolute target then [] else place)
            (FilePath.names target ++ rest)
      | some _ => t.walk links (place ++ [name]) rest
  termination_by names => (links, names.length)

/-- The place that a path denotes, all links followed. -/
def resolve (t : FileTree) (path : String) : Except FileError Place :=
  if '\x00' ∈ path.toList then .error .nulInPath
  else if pathLimit ≤ path.utf8ByteSize then .error .nameTooLong
  else if path.isEmpty then .error .notFound
  else
    t.walk linkLimit (if FilePath.isAbsolute path then [] else t.workingDirectory)
      (FilePath.names path)

def readAt (t : FileTree) (place : Place) : Except FileError (List UInt8) :=
  match t.node? place with
  | some (.file bytes) => .ok bytes
  | some .directory => .error .isDirectory
  | _ => .error .notFound

def read (t : FileTree) (path : String) : Except FileError (List UInt8) := do
  t.readAt (← t.resolve path)

def readText (t : FileTree) (path : String) : Except FileError String := do
  let bytes ← t.read path
  match String.fromUTF8? ⟨bytes.toArray⟩ with
  | some text => .ok text
  | none => .error .notText

def isDirectory (t : FileTree) (path : String) : Bool :=
  match t.resolve path with
  | .ok place => t.isDirectoryAt place
  | .error _ => false

def put (t : FileTree) (place : Place) (node : Node) : FileTree :=
  { t with nodes := (place, node) :: t.nodes.filter (·.1 != place) }

/-- Creates the directories that the names lead through from a place, and gives the last place. -/
def createNames (t : FileTree) (place : Place) : List String → Except FileError (FileTree × Place)
  | [] => .ok (t, place)
  | name :: rest => do
    match t.walk linkLimit place [name] with
    | .ok next => if t.isDirectoryAt next then t.createNames next rest else .error .notDirectory
    | .error .notFound => (t.put (place ++ [name]) .directory).createNames (place ++ [name]) rest
    | .error cause => .error cause

def createDirectories (t : FileTree) (path : String) : Except FileError (FileTree × Place) :=
  t.createNames (if FilePath.isAbsolute path then [] else t.workingDirectory) (FilePath.names path)

/-- Puts a node where a path leads, and creates the directories on the way. -/
def putAt (t : FileTree) (path : String) (node : Node) : Except FileError FileTree := do
  let (t, place) ← t.createDirectories ((FilePath.parent? path).getD "")
  match FilePath.fileName? path with
  | some name => .ok (t.put (place ++ [name]) node)
  | none => .error .isDirectory

/-- Writes a file. An existing path is written through, links followed. -/
def write (t : FileTree) (path : String) (bytes : List UInt8) : Except FileError FileTree :=
  match t.resolve path with
  | .ok place => if t.isDirectoryAt place then .error .isDirectory else .ok (t.put place (.file bytes))
  | .error _ => t.putAt path (.file bytes)

def makeLink (t : FileTree) (path target : String) : Except FileError FileTree :=
  t.putAt path (.link target)

end FileTree

end Folio
