import Reckoner.Text.Decimal

/-!
# A tree of files

Directories and files by their paths, with the few operations that the program
needs: opening a path, writing a file, making directories.  Each operation
gives its result or says why there is none.

A path is a sequence of parts between slashes.  It is followed part by part,
from the root if it begins with a slash and otherwise from the place at which
the program works; an empty part or a single dot stays, two dots go up, and
every part but the last must lead to a directory.  The empty path leads nowhere.
-/

namespace Reckoner

/--
Why a file operation or the reading of text fails.  Reading is interrupted if
whoever types the text breaks off.  Any other fault of the system has a number
and a description.
-/
inductive FileFault where
  | notFound
  | alreadyExists
  | notADirectory
  | isADirectory
  | invalidEncoding
  | interrupted
  | system (code : Nat) (description : String)
  deriving DecidableEq, Repr

/-- The wording of a fault. -/
def FileFault.message : FileFault → String
  | notFound => "No such file or directory (os error 2)"
  | alreadyExists => "File exists (os error 17)"
  | notADirectory => "Not a directory (os error 20)"
  | isADirectory => "Is a directory (os error 21)"
  | invalidEncoding => "stream did not contain valid UTF-8"
  | interrupted => "Interrupted"
  | system code description =>
      description ++ " (os error " ++ Decimal.natural code ++ ")"

/-- What stands at a place in the tree. -/
inductive Entry where
  | directory
  | file (content : List UInt8)
  deriving DecidableEq, Repr

/-- A place in the tree: the names that lead to it from the root. -/
abbrev Place : Type :=
  List String

/--
The places of the tree, the root itself excepted, and what stands there.  Paths
that do not begin at the root begin at the origin.
-/
structure FileTree where
  origin : Place
  entries : List (Place × Entry)
  deriving DecidableEq, Repr

/-- The parts of a path, between its slashes. -/
def pathParts (path : String) : List String :=
  (path.toList.splitOn '/').map String.ofList

/-- The parts of a path that are not empty. -/
def pathNames (path : String) : List String :=
  (pathParts path).filter fun part => part ≠ ""

/--
The directory that holds a path, by name only: a single dot stands for nothing
unless it comes first.  A path without names is held by none.
-/
def parentNames? (path : String) : Option (List String) :=
  match pathNames path with
  | [] => none
  | first :: others =>
      some (first :: others.filter fun part => part ≠ ".").dropLast

namespace FileTree

/-- The tree that holds nothing but its origin and the directories above it. -/
def workingAt (origin : Place) : FileTree where
  origin := origin
  entries :=
    (List.range origin.length).map fun count =>
      (origin.take (count + 1), .directory)

/-- What stands at a place; the root is a directory. -/
def entryAt? (tree : FileTree) (place : Place) : Option Entry :=
  if place = [] then
    some .directory
  else
    tree.entries.lookup place

/-- Put an entry at a place, instead of what stood there. -/
def set (tree : FileTree) (place : Place) (entry : Entry) : FileTree :=
  { tree with
    entries :=
      (place, entry) :: tree.entries.filter fun known => known.1 ≠ place }

/-- The place at which a path begins. -/
def base (tree : FileTree) (path : String) : Place :=
  if (pathParts path).head? = some "" then [] else tree.origin

/-- The place that one part leads to from a directory. -/
def descend (place : Place) (part : String) : Place :=
  if part = "" || part = "." then
    place
  else if part = ".." then
    place.dropLast
  else
    place ++ [part]

/-- Whether a place is a directory, or why it cannot be passed through. -/
def pass (tree : FileTree) (place : Place) : Except FileFault Unit :=
  match tree.entryAt? place with
  | none => .error .notFound
  | some (.file _) => .error .notADirectory
  | some .directory => .ok ()

/-- Follow parts from a place; each must start at a directory. -/
def follow
    (tree : FileTree)
    (place : Place) :
    List String → Except FileFault Place
  | [] => .ok place
  | part :: rest => do
      tree.pass place
      tree.follow (descend place part) rest

/-- What a path leads to. -/
def openPath (tree : FileTree) (path : String) : Except FileFault Entry :=
  if path = "" then
    .error .notFound
  else do
    let place ← tree.follow (tree.base path) (pathParts path)
    match tree.entryAt? place with
    | none => .error .notFound
    | some entry => .ok entry

/-- The content of the file that a path leads to. -/
def contentAt
    (tree : FileTree)
    (path : String) :
    Except FileFault (List UInt8) := do
  match ← tree.openPath path with
  | .directory => .error .isADirectory
  | .file content => .ok content

/-- The last of some names, and the directory in which it is looked up. -/
def splitLast
    (tree : FileTree)
    (base : Place)
    (names : List String) :
    Except FileFault (Place × String) := do
  let place ← tree.follow base names.dropLast
  tree.pass place
  return (place, names.getLastD "")

/--
Write a file, new or not, in a directory that exists.  A path that ends in a
slash, or whose last name is made of dots, names a directory.
-/
def writeFile
    (tree : FileTree)
    (path : String)
    (content : List UInt8) :
    Except FileFault FileTree :=
  if path = "" then
    .error .notFound
  else do
    let (place, name) ← tree.splitLast (tree.base path) (pathNames path)
    if (pathParts path).getLast? = some "" || name = "." || name = ".." then
      .error .isADirectory
    else
      match tree.entryAt? (place ++ [name]) with
      | some .directory => .error .isADirectory
      | _ => .ok (tree.set (place ++ [name]) (.file content))

/-- Make one directory in a directory that exists. -/
def makeDirectory
    (tree : FileTree)
    (base : Place)
    (names : List String) :
    Except FileFault FileTree := do
  let (place, name) ← tree.splitLast base names
  if name = "." || name = ".." then
    .error .alreadyExists
  else
    match tree.entryAt? (place ++ [name]) with
    | some _ => .error .alreadyExists
    | none => .ok (tree.set (place ++ [name]) .directory)

/-- Whether names lead to a directory. -/
def isDirectory (tree : FileTree) (base : Place) (names : List String) : Bool :=
  match tree.follow base names with
  | .ok place => tree.entryAt? place == some .directory
  | .error _ => false

/-- The fault of making a directory, forgiven if there is one already. -/
def settle
    (tree : FileTree)
    (base : Place)
    (names : List String)
    (made : Except FileFault FileTree) :
    FileTree × Option FileFault :=
  match made with
  | .ok grown => (grown, none)
  | .error fault =>
      (tree, if tree.isDirectory base names then none else some fault)

/--
Make a directory and, where that is what is missing, the one around it first.
The names are given in reverse.  Directories made before a fault remain.
-/
def makeOutward
    (tree : FileTree)
    (base : Place) :
    List String → FileTree × Option FileFault
  | [] => (tree, none)
  | name :: around =>
      let names := (name :: around).reverse
      match tree.makeDirectory base names with
      | .error .notFound =>
          match tree.makeOutward base around with
          | (grown, none) =>
              grown.settle base names (grown.makeDirectory base names)
          | (grown, some fault) => (grown, some fault)
      | made => tree.settle base names made

/-- Make the directory that holds a path, with all the directories around it. -/
def makeParents
    (tree : FileTree)
    (path : String) :
    FileTree × Option FileFault :=
  match parentNames? path with
  | none => (tree, none)
  | some names => tree.makeOutward (tree.base path) names.reverse

end FileTree

end Reckoner
