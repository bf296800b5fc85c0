import HalBridge.CommandLine.Run

/-!
The command line program: it reads the files that a command names, runs the command, and prints
and writes its outcome.
-/

namespace HalBridge.CommandLine

/-- The text of a file, if it can be read. -/
def readText? (path : String) : IO (Option String) := do
  try
    return some (← IO.FS.readFile path)
  catch _ => return none

/-- The readable files directly in a directory, by their paths. -/
def readDirectory (directory : String) : IO (List (Path × String)) := do
  try
    let entries ← (← IO.FS.realPath directory).readDir
    let texts ← entries.toList.mapM fun entry => do
      let path := (Path.ofText directory).child entry.fileName
      return (← readText? path.toText).map fun text => (path, text)
    return texts.filterMap id
  catch _ => return []

/-- A disk with the given files and no others. -/
def diskOf (files : List (Path × String)) : Disk :=
  files.foldl (fun disk file => (disk.writeAll [file]).toOption.getD disk) {}

/-- The files that a command may read. -/
def readDisk : Command → IO Disk
  | .convert schemas _ _ replacedTypes _ => do
      let documents ← readDirectory schemas
      match replacedTypes with
      | none => return diskOf documents
      | some path =>
          let replaced := (← readText? path).toList.map fun text => (Path.ofText path, text)
          return diskOf (documents ++ replaced)
  | .info schemas _ _ _ => return diskOf (← readDirectory schemas)

def writeText (path : Path) (text : String) : IO Unit := do
  IO.FS.createDirAll path.parent.toText
  IO.FS.writeFile path.toText text

/-- Runs the program and gives its exit code. -/
def program (arguments : List String) : IO UInt32 := do
  match Command.read? arguments with
  | none =>
      IO.eprintln "Usage: convert|info --schemas DIR [OPTIONS] PACKAGE"
      return 2
  | some command =>
      match command.run (← readDisk command) with
      | .error fault =>
          IO.eprintln fault.message
          return 1
      | .ok outcome =>
          for (path, text) in outcome.written do
            writeText path text
          IO.print outcome.stdout
          IO.eprint outcome.stderr
          return outcome.exit.toUInt32

end HalBridge.CommandLine

def main (arguments : List String) : IO UInt32 :=
  HalBridge.CommandLine.program arguments
