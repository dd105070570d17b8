import Reckoner.Program

/-!
# The command line program

The outer layer: it gathers what a run finds around it, hands all of it to
`runProgram`, and writes out the report.  Of the files only the one that the
job names is looked at, together with the directories on the way to it.  The
input is read to its end before anything is done with it, so nobody breaks off
a line.
-/

namespace Reckoner.Machine

/-- The fault that an error of the machine tells of. -/
def faultOf : IO.Error → FileFault
  | .noFileOrDirectory _ _ _ => .notFound
  | .alreadyExists _ _ _ => .alreadyExists
  | .inappropriateType _ code _ =>
      if code = 21 then .isADirectory else .notADirectory
  | .permissionDenied _ code details
  | .resourceExhausted _ code details
  | .resourceBusy code details
  | .hardwareFault code details
  | .otherError code details => .system code.toNat details
  | _ => .system 5 "Input/output error"

/-- What stands in the way of an action, where a tree of files cannot tell. -/
def obstacle? (action : IO Unit) : IO (Option FileFault) := do
  try
    action
    return none
  catch error =>
    match faultOf error with
    | .system code description => return some (.system code description)
    | _ => return none

/-- The text of a path to a place, from the root of the machine. -/
def placePath (place : Place) : String :=
  "/" ++ String.intercalate "/" place

/--
Add to a tree what really stands at a place, if anything does.  What is in a
file does not matter yet.
-/
def observe (tree : FileTree) (place : Place) : IO FileTree := do
  let path := (← IO.currentDir) / placePath place
  try
    match (← path.metadata).type with
    | .dir => return tree.set place .directory
    | _ => return tree.set place (.file [])
  catch _ => return tree

/-- Add to a tree what really stands at a place and at all places above it. -/
def observeAll (tree : FileTree) (place : Place) : IO FileTree :=
  (List.range place.length).foldlM
    (fun known count => observe known (place.take (count + 1))) tree

/-- The places that following parts comes through. -/
def placesOn (place : Place) : List String → List Place
  | [] => [place]
  | part :: rest => place :: placesOn (FileTree.descend place part) rest

/--
The working directory, what stands on the way along a path and at its end, and
what forbids to read or to write there.  A file that cannot be read is there all
the same.
-/
def snapshot (path? : Option String) : IO (Guarded FileTree) := do
  let origin := pathNames (← IO.currentDir).toString
  let bare ← observeAll ⟨origin, []⟩ origin
  match path? with
  | none => return ⟨bare, none, none⟩
  | some path =>
      let places := placesOn (bare.base path) (pathParts path)
      let found ← places.foldlM observeAll bare
      let unwritable ← obstacle? (discard (IO.FS.Handle.mk path .readWrite))
      match found.openPath path with
      | .ok (.file _) =>
          try
            let content := (← IO.FS.readBinFile path).data.toList
            let read := found.set (places.getLastD []) (.file content)
            return ⟨read, none, unwritable⟩
          catch error =>
            return ⟨found, some (faultOf error), unwritable⟩
      | _ =>
          let unreadable ← obstacle? (discard (IO.FS.Handle.mk path .read))
          return ⟨found, unreadable, unwritable⟩

/--
Bring the machine in line with a tree, where it differs from the one observed.
-/
def bringInLine (observed tree : FileTree) : IO Unit :=
  for (place, entry) in tree.entries.reverse do
    unless observed.entryAt? place == some entry do
      match entry with
      | .directory => IO.FS.createDirAll (placePath place)
      | .file content =>
          IO.FS.writeBinFile (placePath place) ⟨content.toArray⟩

/-- All bytes of a stream. -/
partial def readAll
    (stream : IO.FS.Stream)
    (read : ByteArray) :
    IO ByteArray := do
  let chunk ← stream.read 65536
  if chunk.isEmpty then
    return read
  else
    readAll stream (read ++ chunk)

/--
Run the program on what is found on the machine.  The report is written out
before the files: a history that cannot be written after all is complained about
and takes no answer back.
-/
def run (arguments : List String) : IO UInt32 := do
  let surroundings : Surroundings :=
    ⟨← IO.getEnv "HOME", (← IO.getEnv "TERM").getD "",
      ← IO.getEnv "FORMULA_DEBUG"⟩
  let job := jobOf? arguments surroundings
  let input ←
    if (job.map Job.readsInput).getD false then
      readAll (← IO.getStdin) .empty
    else
      pure .empty
  let observed ← snapshot (job.bind Job.path?)
  let report :=
    runProgram arguments surroundings input.data.toList observed
  let output ← IO.getStdout
  output.putStr report.output
  output.flush
  (← IO.getStderr).putStr report.errors
  try
    bringInLine observed.files report.files.files
  catch error =>
    (← IO.getStderr).putStr (Notice.historyNotSaved (faultOf error)).text
  return report.exitCode.toUInt32

end Reckoner.Machine

def main (arguments : List String) : IO UInt32 :=
  Reckoner.Machine.run arguments
