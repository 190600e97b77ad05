import BucketVhosts.Data.Table
import BucketVhosts.Files.Path

/-!
# File trees

A file tree holds the files and directories of a file system by their places, the lists of names
from the root down. A path is followed from a current place one component at a time; what it
passes through must be a directory. The root is always one.
-/
namespace BucketVhosts

/-- What a file holds. -/
inductive Content where
  | text (s : String)
  /-- Bytes that are not text in UTF-8. -/
  | binary (bytes : List UInt8)
  deriving DecidableEq, Repr

/-- The content that bytes are. -/
def Content.ofBytes (bytes : ByteArray) : Content :=
  match String.fromUTF8? bytes with
  | some s => .text s
  | none => .binary bytes.toList

/-- What is at a place of a file tree. -/
inductive FileNode where
  | directory
  | file (content : Content)
  deriving DecidableEq, Repr

/-- The names from the root down to a file or directory. -/
abbrev Place := List String

/-- The files and directories by their places. The root is not listed. -/
abbrev FileTree := Table Place FileNode

/-- Why a path cannot be used. -/
inductive FileFault where
  | missing
  | notDirectory
  | isDirectory
  | alreadyExists
  | nameTooLong
  /-- The path holds the character U+0000. -/
  | nul
  deriving DecidableEq, Repr

namespace FileTree

/-- The most bytes a name may have. -/
def maxName : Nat := 255

/-- The number of bytes that a path must stay below. -/
def maxPath : Nat := 4096

/-- What is at a place. -/
def node? (tree : FileTree) (place : Place) : Option FileNode :=
  if place = [] then some .directory else tree.get? place

/-- The place that a component leads to from a directory. -/
def enter (place : Place) (part : String) : Place :=
  if part = ".." then place.dropLast else place ++ [part]

/-- Follows components from a place. Every place but the last must be a directory. -/
def follow (tree : FileTree) (place : Place) : List String → Except FileFault Place
  | [] => .ok place
  | part :: rest =>
    match tree.node? place with
    | none => .error .missing
    | some (.file _) => .error .notDirectory
    | some .directory =>
      if maxName < part.utf8ByteSize then .error .nameTooLong
      else follow tree (enter place part) rest

/-- The place that a path starts from. -/
def start (here : Place) (path : Path) : Place :=
  if path.root = .here then here else []

/-- The place that a path leads to, where there may be nothing. -/
def locate (tree : FileTree) (here : Place) (path : Path) : Except FileFault Place :=
  if path.text.toList.contains '\x00' then .error .nul
  else if maxPath ≤ path.text.utf8ByteSize then .error .nameTooLong
  else tree.follow (start here path) path.parts

/-- What a path leads to. -/
def find (tree : FileTree) (here : Place) (path : Path) : Except FileFault FileNode :=
  match tree.locate here path with
  | .error fault => .error fault
  | .ok place =>
    match tree.node? place with
    | none => .error .missing
    | some node => .ok node

/-- Whether a path leads to a file or directory. -/
def contains (tree : FileTree) (here : Place) (path : Path) : Except FileFault Bool :=
  match tree.find here path with
  | .ok _ => .ok true
  | .error .nameTooLong => .error .nameTooLong
  | .error _ => .ok false

/-- Whether a path leads to a directory. -/
def isDirectory (tree : FileTree) (here : Place) (path : Path) : Bool :=
  match tree.find here path with
  | .ok .directory => true
  | _ => false

/-- The content of the file that a path leads to. -/
def read (tree : FileTree) (here : Place) (path : Path) : Except FileFault Content :=
  match tree.find here path with
  | .error fault => .error fault
  | .ok .directory => .error .isDirectory
  | .ok (.file content) => .ok content

/-- Makes the file that a path leads to hold a text. -/
def write (tree : FileTree) (here : Place) (path : Path) (text : String) :
    Except FileFault FileTree :=
  match tree.locate here path with
  | .error fault => .error fault
  | .ok place =>
    match tree.node? place with
    | some .directory => .error .isDirectory
    | _ => .ok (tree.put place (.file (.text text)))

/-- Makes a directory where there is nothing yet. -/
def makeDirectory (tree : FileTree) (here : Place) (path : Path) : Except FileFault FileTree :=
  match tree.locate here path with
  | .error fault => .error fault
  | .ok place =>
    match tree.node? place with
    | some _ => .error .alreadyExists
    | none => .ok (tree.put place .directory)

/-- Makes a directory unless there is one. -/
def ensureDirectory (tree : FileTree) (here : Place) (path : Path) : Except FileFault FileTree :=
  match tree.makeDirectory here path with
  | .ok tree => .ok tree
  | .error .missing => .error .missing
  | .error fault => if tree.isDirectory here path then .ok tree else .error fault

/-- The tree after an attempt to make a directory and all directories above it that are missing,
and whether the attempt failed. `above` are the components in reverse order. Directories made
before a failure stay. -/
def ensureAll (tree : FileTree) (here : Place) (root : PathRoot) :
    (above : List String) → FileTree × Except FileFault Unit
  | [] =>
    match tree.ensureDirectory here ⟨root, []⟩ with
    | .ok tree => (tree, .ok ())
    | .error fault => (tree, .error fault)
  | part :: above =>
    let path : Path := ⟨root, (part :: above).reverse⟩
    match tree.ensureDirectory here path with
    | .ok tree => (tree, .ok ())
    | .error .missing =>
      match ensureAll tree here root above with
      | (tree, .error fault) => (tree, .error fault)
      | (tree, .ok ()) =>
        match tree.ensureDirectory here path with
        | .ok tree => (tree, .ok ())
        | .error fault => (tree, .error fault)
    | .error fault => (tree, .error fault)

/-- Makes a directory and all directories above it that are missing. -/
def ensureDirectories (tree : FileTree) (here : Place) (path : Path) :
    FileTree × Except FileFault Unit :=
  tree.ensureAll here path.root path.parts.reverse

/-- Removes the file that a path leads to. -/
def remove (tree : FileTree) (here : Place) (path : Path) : Except FileFault FileTree :=
  match tree.locate here path with
  | .error fault => .error fault
  | .ok place =>
    match tree.node? place with
    | none => .error .missing
    | some .directory => .error .isDirectory
    | some (.file _) => .ok (tree.erase place)

/-- The name of what is directly in a directory, given its place. -/
def nameIn? (directory place : Place) : Option String :=
  if place.dropLast = directory then place.getLast? else none

/-- The names of what is directly in the directory that a path leads to, in ascending order. -/
def list (tree : FileTree) (here : Place) (path : Path) : List String :=
  match tree.locate here path with
  | .error _ => []
  | .ok directory =>
    if tree.node? directory = some .directory then
      (tree.keys.filterMap (nameIn? directory)).mergeSort fun a b => decide (a ≤ b)
    else []

end FileTree
end BucketVhosts
