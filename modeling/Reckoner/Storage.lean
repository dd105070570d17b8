import Reckoner.Source

/-!
# Storage

What the program asks of the place where its files are: that the directories
above a path be made, that the lines of a file be read, that a file be
written.  Each of these may fail at any time and for any reason; a directory
that was made, a file that could be read or written before says nothing about
the next time.

A tree of files is a storage, which fails only where the tree gives a reason.
Reading from a storage and writing to it can be forbidden besides.
-/

namespace Reckoner

/--
A world in which there may be files, and what comes of asking it for some.
-/
class Storage (World : Type) where
  /-- The world after making the directories above a path, and what failed. -/
  makeParents (files : World) (path : String) : World × Option FileFault
  /-- The lines of the file at a path. -/
  linesAt (files : World) (path : String) : Except FileFault (List Line)
  /-- The world after writing a file, and what failed. -/
  writeFile (files : World) (path : String) (content : List UInt8) :
    World × Option FileFault

instance : Storage FileTree where
  makeParents files path := files.makeParents path
  linesAt files path := (files.openPath path).map Entry.lines
  writeFile files path content :=
    match files.writeFile path content with
    | .ok written => (written, none)
    | .error fault => (files, some fault)

/-- A storage of which files may be forbidden to be read or to be written. -/
structure Guarded (World : Type) where
  files : World
  unreadable : Option FileFault
  unwritable : Option FileFault
  deriving DecidableEq, Repr

instance {World : Type} [Storage World] : Storage (Guarded World) where
  makeParents guarded path :=
    let made := Storage.makeParents guarded.files path
    ({ guarded with files := made.1 }, made.2)
  linesAt guarded path :=
    match guarded.unreadable with
    | some fault => .error fault
    | none => Storage.linesAt guarded.files path
  writeFile guarded path content :=
    match guarded.unwritable with
    | some fault => (guarded, some fault)
    | none =>
        let written := Storage.writeFile guarded.files path content
        ({ guarded with files := written.1 }, written.2)

end Reckoner
