import HalBridge.CommandLine.Options
import HalBridge.CommandLine.Report

/-!
Running a command on a disk. The outcome says what is printed and which files are written.
-/

namespace HalBridge.CommandLine

/-- The exit code, the texts for standard output and standard error, the files that were written in
their order, and the disk after that. -/
structure Outcome where
  exit : Nat
  stdout : String := ""
  stderr : String := ""
  written : List (Path × String) := []
  disk : Disk

def usageError (disk : Disk) : Outcome := { exit := 2, disk }

def linesText (lines : List String) : String :=
  String.join (lines.map (· ++ "\n"))

/-- The text of a file. What stands before a final slash or a final dot has to be a directory. -/
def readText (disk : Disk) (path : String) : Except PathError String := do
  let text ← disk.read (.ofText path)
  match (Text.split '/' path).getLast? with
  | none | some "" | some "." => throw .notADirectory
  | some _ => return text

/-- Reads the replaced types that a command names, on top of those known from the start. -/
def readRegistry (disk : Disk) : Option String → Except Fault Registry
  | none | some "" => .ok Registry.default
  | some path =>
      match readText disk path with
      | .error error => .error (.input (.inaccessibleReplacements path error))
      | .ok text =>
          match Registry.default.load path (some text) with
          | (registry, .ok ()) => .ok registry
          | (_, .error fault) => .error fault

def conversion (disk : Disk) (schemas package : String) (force : Bool)
    (replacedTypes : Option String) : Except Fault Conversion := do
  let registry ← readRegistry disk replacedTypes
  let repository : Repository := { disk, root := .ofText schemas }
  match Conversion.run package force registry { repository } with
  | .ok result _ => return result
  | .error fault _ => throw fault

/-- Writes the files of a conversion below a directory and reports on it. -/
def writeConversion (disk : Disk) (output : String) (result : Conversion) :
    Except Fault Outcome := do
  let output := Path.ofText output
  let written := result.files.entries.map fun entry => (output.join (.ofText entry.1), entry.2)
  match disk.writeAll written with
  | .error error => throw (.path error)
  | .ok disk =>
      let report ← convertReport result (written.map Prod.fst)
      return { exit := 0, stdout := linesText report, written, disk }

/-- Reports on a conversion without writing anything. -/
def describeConversion (disk : Disk) (json : Bool) (result : Conversion) :
    Except Fault Outcome := do
  if json then return { exit := 0, stdout := (jsonReport result).pretty 0 ++ "\n", disk }
  else return { exit := 0, stdout := linesText (← plainReport result), disk }

/-- Goes on with a conversion; a fault of the input is reported and gives exit code 1. -/
def reporting (disk : Disk) (result : Except Fault Conversion)
    (report : Conversion → Except Fault Outcome) : Except Fault Outcome := do
  match result with
  | .ok result => report result
  | .error (.input error) =>
      let lines ← shown ("[bold red]error:[/bold red] " ++ Console.escape error.message)
      return { exit := 1, stderr := linesText lines, disk }
  | .error fault => throw fault

def Command.run (disk : Disk) : Command → Except Fault Outcome
  | .convert schemas output force replacedTypes package =>
      reporting disk (conversion disk schemas package force replacedTypes)
        (writeConversion disk output)
  | .info schemas force json package =>
      reporting disk (conversion disk schemas package force none) (describeConversion disk json)

/-- Runs the command that the arguments give. -/
def run (disk : Disk) (arguments : List String) : Except Fault Outcome :=
  match Command.read? arguments with
  | none => .ok (usageError disk)
  | some command => command.run disk

end HalBridge.CommandLine
