import Highlighter.Registry

/-!
Access to files. What a program does with files is written over the operations of `Files`, so that the
same definition runs against the files of the machine and against a file tree that is a value.

A file tree is what is found under each path from the root, and a working directory. Its operations follow a path
from directory to directory, so that `a/../b` leads to `b` only where `a` is a directory.
-/

namespace Highlighter

/-! ## Access to files -/

/-- Why an operation on files failed. -/
inductive FileError where
  | notFound
  | isDirectory
  | notDirectory
  /-- The file does not hold text in UTF-8. -/
  | notText
  /-- Any other reason, in words. -/
  | other (reason : String)
  deriving DecidableEq, Repr

/-- The error in words. -/
def FileError.message : FileError → String
  | notFound => "no such file or directory"
  | isDirectory => "is a directory"
  | notDirectory => "not a directory"
  | notText => "file does not hold valid UTF-8"
  | other reason => reason

/-- Operations on files. Paths are texts. -/
structure Files (m : Type → Type) where
  /-- The text in a file. -/
  read : String → m (Except FileError String)
  /-- Whether a path leads to a file or a directory. -/
  isPresent : String → m Bool
  /-- Makes the directories that a path names, as far as they are missing. -/
  makeDirectories : String → m (Except FileError Unit)
  /-- Makes a text the content of a file. -/
  write : (path text : String) → m (Except FileError Unit)
  /-- Adds a text to the end of a file, which is created if it is missing. -/
  append : (path text : String) → m (Except FileError Unit)

/-- The listing in a file. -/
def Listing.load {m : Type → Type} [Monad m] (files : Files m) (path : String) :
    m (Except FileError Listing) := do
  return (← files.read path).map Listing.parse

/-- The listing that was read, or an empty one if it could not be. -/
def Listing.orEmpty : Except FileError Listing → Listing
  | .ok listing => listing
  | .error _ => empty

/-- The registry that goes with the listing in a file. -/
def Registry.load {m : Type → Type} [Monad m] (files : Files m) (path : String) :
    m (Except BuildError Registry) := do
  return Registry.ofListing (.orEmpty (← Listing.load files path))

/-! ## File trees -/

/-- What a path leads to. -/
inductive FileEntry where
  | directory
  | file (content : ByteArray)

/-- A file tree. Places in it are lists of names from the root, which is a directory itself. -/
structure FileTree where
  workingDirectory : List (List Char)
  entry : List (List Char) → Option FileEntry

namespace FileTree

/-- The tree that holds nothing but a working directory directly below the root. -/
def empty : FileTree where
  workingDirectory := [['w', 'o', 'r', 'k']]
  entry place := if place = [] ∨ place = [['w', 'o', 'r', 'k']] then some .directory else none

/-- The tree with something put at a place. -/
def put (t : FileTree) (place : List (List Char)) (e : FileEntry) : FileTree :=
  { t with entry := fun other => if other = place then some e else t.entry other }

/-- The place where a path starts. -/
def origin (t : FileTree) (path : List Char) : List (List Char) :=
  if Path.isAbsolute path then [] else t.workingDirectory

/-- Follows the pieces of a path from a directory. All but the last have to be directories. -/
def follow (t : FileTree) (place : List (List Char)) :
    List (List Char) → Except FileError (List (List Char))
  | [] => .ok place
  | piece :: pieces =>
    if !Path.isName piece then follow t place pieces
    else if piece = ['.', '.'] then follow t place.dropLast pieces
    else if pieces = [] then .ok (place ++ [piece])
    else
      match t.entry (place ++ [piece]) with
      | none => .error .notFound
      | some (.file _) => .error .notDirectory
      | some .directory => follow t (place ++ [piece]) pieces

/-- The place that a path leads to. The empty path leads nowhere. -/
def resolve (t : FileTree) (path : String) : Except FileError (List (List Char)) :=
  if path.isEmpty then .error .notFound
  else t.follow (t.origin path.toList) (Path.pieces path.toList)

/-- The content of a file. -/
def readBytes (t : FileTree) (path : String) : Except FileError ByteArray :=
  match t.resolve path with
  | .error e => .error e
  | .ok place =>
    match t.entry place with
    | none => .error .notFound
    | some .directory => .error .isDirectory
    | some (.file content) => .ok content

/-- The text in a file. -/
def read (t : FileTree) (path : String) : Except FileError String :=
  match t.readBytes path with
  | .error e => .error e
  | .ok content =>
    match String.fromUTF8? content with
    | none => .error .notText
    | some text => .ok text

/-- Whether a path leads to a file or a directory. -/
def isPresent (t : FileTree) (path : String) : Bool :=
  match t.resolve path with
  | .error _ => false
  | .ok place => (t.entry place).isSome

/-- Makes the directories on a way down from a directory, as far as they are missing. -/
def makeDirectoriesFrom (t : FileTree) (place : List (List Char)) :
    List (List Char) → Except FileError Unit × FileTree
  | [] => (.ok (), t)
  | name :: names =>
    if name = ['.', '.'] then makeDirectoriesFrom t place.dropLast names
    else
      match t.entry (place ++ [name]) with
      | some .directory => makeDirectoriesFrom t (place ++ [name]) names
      | some (.file _) => (.error .notDirectory, t)
      | none => makeDirectoriesFrom (t.put (place ++ [name]) .directory) (place ++ [name]) names

/-- Makes the directories that a path names, as far as they are missing. -/
def makeDirectories (t : FileTree) (path : String) : Except FileError Unit × FileTree :=
  t.makeDirectoriesFrom (t.origin path.toList) (Path.names path.toList)

/-- Makes the bytes the content of a file, after `change` has been applied to what the file held. -/
def update (t : FileTree) (path : String) (change : ByteArray → ByteArray) :
    Except FileError Unit × FileTree :=
  match t.resolve path with
  | .error e => (.error e, t)
  | .ok place =>
    match t.entry place with
    | some .directory => (.error .isDirectory, t)
    | some (.file content) => (.ok (), t.put place (.file (change content)))
    | none => (.ok (), t.put place (.file (change .empty)))

/-- The operations on a file tree. -/
def files : Files (StateM FileTree) where
  read path := fun t => (t.read path, t)
  isPresent path := fun t => (t.isPresent path, t)
  makeDirectories path := fun t => t.makeDirectories path
  write path text := fun t => t.update path fun _ => text.toUTF8
  append path text := fun t => t.update path fun content => content ++ text.toUTF8

end FileTree

end Highlighter
