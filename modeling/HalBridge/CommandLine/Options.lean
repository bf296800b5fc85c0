/-!
The grammar of the command line: `convert` and `info`, their options and the package name. Options
may stand anywhere, short flags may be joined, and of an option given twice the last one counts.
-/

namespace HalBridge.CommandLine

inductive Command where
  | convert (schemas output : String) (force : Bool) (replacedTypes : Option String)
      (package : String)
  | info (schemas : String) (force json : Bool) (package : String)
deriving DecidableEq

/-- An option by its long and, if it has one, its short name. -/
structure OptionSpec where
  long : String
  short : Option Char := none
  takesValue : Bool := false

def schemasOption : OptionSpec := { long := "--schemas", short := some 's', takesValue := true }

def outputOption : OptionSpec := { long := "--output", short := some 'o', takesValue := true }

def forceOption : OptionSpec := { long := "--force", short := some 'f' }

def replacedTypesOption : OptionSpec := { long := "--replaced-types", takesValue := true }

def jsonOption : OptionSpec := { long := "--json" }

/-- What the arguments give: options with their values, flags with an empty one, and the rest. -/
structure Arguments where
  options : List (String × String) := []
  positional : List String := []

namespace Arguments

/-- The last value given for an option. -/
def value? (arguments : Arguments) (spec : OptionSpec) : Option String :=
  arguments.options.reverse.lookup spec.long

def has (arguments : Arguments) (spec : OptionSpec) : Bool :=
  (arguments.value? spec).isSome

end Arguments

/-- One argument read as options: those that are complete, and one that takes the next argument as
its value. -/
structure Reading where
  complete : List (String × String)
  pending : Option String := none

/-- Reads `--name` or `--name=value`. -/
def readLong? (specs : List OptionSpec) (argument : List Char) : Option Reading := do
  let name := String.ofList (argument.takeWhile (· ≠ '='))
  let spec ← specs.find? (·.long = name)
  match argument.dropWhile (· ≠ '='), spec.takesValue with
  | [], true => return { complete := [], pending := some name }
  | [], false => return { complete := [(name, "")] }
  | _ :: value, true => return { complete := [(name, String.ofList value)] }
  | _ :: _, false => none

/-- Reads joined short options; the characters after one that takes a value are its value. -/
def readShort? (specs : List OptionSpec) : List Char → Option Reading
  | [] => some { complete := [] }
  | c :: rest => do
      let spec ← specs.find? (·.short = some c)
      if spec.takesValue then
        if rest.isEmpty then return { complete := [], pending := some spec.long }
        else return { complete := [(spec.long, String.ofList rest)] }
      else
        let reading ← readShort? specs rest
        return { reading with complete := (spec.long, "") :: reading.complete }

/-- Reads one argument that starts with a dash and is not a dash only. -/
def readOption? (specs : List OptionSpec) : List Char → Option Reading
  | '-' :: '-' :: rest => readLong? specs ('-' :: '-' :: rest)
  | _ :: rest => readShort? specs rest
  | [] => none

def isOption (argument : String) : Bool :=
  match argument.toList with
  | '-' :: _ :: _ => true
  | _ => false

/-- Reads arguments; after `--` all are positional. -/
def readArguments? (specs : List OptionSpec) : List String → Arguments → Option Arguments
  | [], arguments => some arguments
  | argument :: rest, arguments =>
      if argument = "--" then
        some { arguments with positional := arguments.positional ++ rest }
      else if isOption argument then
        match readOption? specs argument.toList, rest with
        | none, _ => none
        | some ⟨complete, none⟩, rest =>
            readArguments? specs rest
              { arguments with options := arguments.options ++ complete }
        | some ⟨_, some _⟩, [] => none
        | some ⟨complete, some name⟩, value :: rest =>
            readArguments? specs rest
              { arguments with options := arguments.options ++ complete ++ [(name, value)] }
      else
        readArguments? specs rest
          { arguments with positional := arguments.positional ++ [argument] }

def readConvert? (arguments : List String) : Option Command := do
  let specs := [schemasOption, outputOption, forceOption, replacedTypesOption]
  let arguments ← readArguments? specs arguments {}
  let schemas ← arguments.value? schemasOption
  let output ← arguments.value? outputOption
  match arguments.positional with
  | [package] =>
      return .convert schemas output (arguments.has forceOption)
        (arguments.value? replacedTypesOption) package
  | _ => none

def readInfo? (arguments : List String) : Option Command := do
  let specs := [schemasOption, forceOption, jsonOption]
  let arguments ← readArguments? specs arguments {}
  let schemas ← arguments.value? schemasOption
  match arguments.positional with
  | [package] =>
      return .info schemas (arguments.has forceOption) (arguments.has jsonOption) package
  | _ => none

/-- Reads a command and its arguments; `none` is a usage error. -/
def Command.read? : List String → Option Command
  | "--" :: "convert" :: arguments | "convert" :: arguments => readConvert? arguments
  | "--" :: "info" :: arguments | "info" :: arguments => readInfo? arguments
  | _ => none

end HalBridge.CommandLine
