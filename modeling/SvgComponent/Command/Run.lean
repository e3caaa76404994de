/-
This file runs the command on a file tree.
-/

import SvgComponent.Command.Arguments
import SvgComponent.Command.Job

namespace SvgComponent.Command

/-- The place that an argument names. -/
def place (working : Path) (argument : String) : Except Stop Path :=
  if (Path.join working argument).isValid then .ok (Path.resolve working argument)
  else .error (.fault .invalidPath)

/-- The place of a file that has to exist. -/
def existing (tree : FileTree) (working : Path) (argument : String) : Except Stop Path := do
  let path ← place working argument
  if tree.isPresent path then return path else .error (.usage (.missingFile argument))

/-- The job that the arguments describe. The configuration is read before the query, and a missing
argument is noticed last. -/
def prepare (tree : FileTree) (working : Path) (arguments : Arguments) (config : Option Path) :
    Except Fault Job := do
  let config ← match config with
    | none => .ok (.object [])
    | some path => readConfig tree path
  let options ← match arguments.query with
    | none => .ok []
    | some query => (Query.parse query).mapError .query
  match arguments.positional with
  | [path, output] =>
      return {
        path := Path.resolve working path
        output := Path.resolve working output
        config
        options
        skipOptimization := arguments.skipOptimization
        preserveWhitespace := arguments.preserveWhitespace
        mode := if arguments.force then .replace else .refuse }
  | _ => .error .missingArgument

/-- The arguments, and the path of the configuration file if there is one. -/
def check (tree : FileTree) (working : Path) (arguments : List String) :
    Except Stop (Arguments × Option Path) := do
  let arguments ← (Arguments.read arguments).mapError .usage
  if arguments.help then return (arguments, none)
  let config ← arguments.config.mapM (existing tree working)
  match arguments.positional with
  | [] => return (arguments, config)
  | path :: others =>
      let _ ← existing tree working path
      match others with
      | [] => return (arguments, config)
      | output :: extras =>
          let _ ← place working output
          match extras with
          | [] => return (arguments, config)
          | extra :: _ => .error (.usage (.extraArgument extra))

def usage : String :=
  "Usage: svg_component [--query TEXT] [--config PATH] [--no-svgo] [--preserve-whitespace] " ++
    "[--force] [--verbose] PATH OUTPUT"

/-- The command converts one file, or every source below a directory. -/
def run (library : Library) (tree : FileTree) (working : Path) (arguments : List String) :
    Result :=
  match check tree working arguments with
  | .error (.usage error) => ⟨tree, [], [usage, error.message], [], 2, none⟩
  | .error (.fault fault) => ⟨tree, [], [], [], 1, some fault⟩
  | .ok (arguments, config) =>
      if arguments.help then ⟨tree, [usage], [], [], 0, none⟩
      else
        match prepare tree working arguments config with
        | .error fault => ⟨tree, [], [], [], 1, some fault⟩
        | .ok job => (job.run library tree).plain

end SvgComponent.Command
