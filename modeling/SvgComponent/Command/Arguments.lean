/-
This file reads the arguments of the command.
-/

namespace SvgComponent.Command

/-- What the arguments ask for. The last of several values counts. -/
structure Arguments where
  query : Option String
  config : Option String
  skipOptimization : Bool
  preserveWhitespace : Bool
  force : Bool
  verbose : Bool
  help : Bool
  positional : List String
  deriving DecidableEq, Inhabited

inductive UsageError where
  | unknownOption (name : String)
  | missingValue (name : String)
  | unwantedValue (name : String)
  | extraArgument (argument : String)
  | missingFile (argument : String)
  deriving DecidableEq

def UsageError.message : UsageError → String
  | unknownOption name => "No such option: " ++ name
  | missingValue name => "Option " ++ name ++ " requires an argument."
  | unwantedValue name => "Option " ++ name ++ " does not take a value."
  | extraArgument argument => "Got unexpected extra argument " ++ argument
  | missingFile argument => "Path " ++ argument ++ " does not exist."

inductive Flag where
  | skipOptimization
  | preserveWhitespace
  | force
  | verbose
  | help

inductive Setting where
  | query
  | config

/-- A switch is a flag by itself or takes a value. -/
inductive Switch where
  | flag (flag : Flag)
  | setting (setting : Setting)

namespace Switch

def ofLong? (name : String) : Option Switch :=
  if name = "--query" then some (.setting .query)
  else if name = "--config" then some (.setting .config)
  else if name = "--no-svgo" then some (.flag .skipOptimization)
  else if name = "--preserve-whitespace" then some (.flag .preserveWhitespace)
  else if name = "--force" then some (.flag .force)
  else if name = "--verbose" then some (.flag .verbose)
  else if name = "--help" then some (.flag .help)
  else none

def ofShort? (letter : Char) : Option Switch :=
  if letter = 'q' then some (.setting .query)
  else if letter = 'c' then some (.setting .config)
  else if letter = 'f' then some (.flag .force)
  else if letter = 'v' then some (.flag .verbose)
  else none

end Switch

namespace Arguments

def empty : Arguments := ⟨none, none, false, false, false, false, false, []⟩

def raise (arguments : Arguments) : Flag → Arguments
  | .skipOptimization => { arguments with skipOptimization := true }
  | .preserveWhitespace => { arguments with preserveWhitespace := true }
  | .force => { arguments with force := true }
  | .verbose => { arguments with verbose := true }
  | .help => { arguments with help := true }

def give (arguments : Arguments) (value : String) : Setting → Arguments
  | .query => { arguments with query := some value }
  | .config => { arguments with config := some value }

def place (arguments : Arguments) (argument : String) : Arguments :=
  { arguments with positional := arguments.positional ++ [argument] }

/-- A group of letters raises flags. The last letter may be a setting, whose name is returned
together with the value that is attached to it. -/
def group (arguments : Arguments) :
    List Char → Except UsageError (Arguments × Option (String × Setting × Option String))
  | [] => .ok (arguments, none)
  | letter :: rest =>
      let name := String.ofList ['-', letter]
      match Switch.ofShort? letter with
      | none => .error (.unknownOption name)
      | some (.flag flag) => group (arguments.raise flag) rest
      | some (.setting setting) =>
          let value := if rest.isEmpty then none else some (String.ofList rest)
          .ok (arguments, some (name, setting, value))

/-- A long switch may have a value attached to it by an equals sign. -/
def long (arguments : Arguments) (text : List Char) :
    Except UsageError (Arguments × Option (String × Setting × Option String)) :=
  let name := String.ofList (text.takeWhile (· ≠ '='))
  let value := (text.dropWhile (· ≠ '=')).tail?.map String.ofList
  match Switch.ofLong? name, value with
  | none, _ => .error (.unknownOption name)
  | some (.flag _), some _ => .error (.unwantedValue name)
  | some (.flag flag), none => .ok (arguments.raise flag, none)
  | some (.setting setting), value => .ok (arguments, some (name, setting, value))

/-- The switches of one argument. Anything else is positional, a lone minus sign included. -/
def readOne (arguments : Arguments) (argument : String) :
    Except UsageError (Arguments × Option (String × Setting × Option String)) :=
  match argument.toList with
  | '-' :: '-' :: rest => arguments.long ('-' :: '-' :: rest)
  | '-' :: letter :: rest => arguments.group (letter :: rest)
  | _ => .ok (arguments.place argument, none)

/-- A setting without an attached value takes the next argument, whatever that is. Two minus signs
end the switches. -/
def readFrom (arguments : Arguments) : List String → Except UsageError Arguments
  | [] => .ok arguments
  | argument :: rest =>
      if argument = "--" then .ok (rest.foldl place arguments)
      else
        match arguments.readOne argument with
        | .error error => .error error
        | .ok (arguments, none) => arguments.readFrom rest
        | .ok (arguments, some (_, setting, some value)) =>
            (arguments.give value setting).readFrom rest
        | .ok (arguments, some (name, setting, none)) =>
            match rest with
            | [] => .error (.missingValue name)
            | value :: others => (arguments.give value setting).readFrom others

def read (arguments : List String) : Except UsageError Arguments :=
  empty.readFrom arguments

end Arguments
end SvgComponent.Command
