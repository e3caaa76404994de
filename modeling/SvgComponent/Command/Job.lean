/-
This file converts the sources of a run one after the other.
-/

import SvgComponent.Command.Source
import SvgComponent.Query.Parse
import SvgComponent.Text.Display

namespace SvgComponent.Command

/-- What a run prints, asks of the library and leaves behind. -/
structure Result where
  tree : FileTree
  printed : List String
  complaints : List String
  requests : List Request
  exitCode : Nat
  fault : Option Fault

/-- Lines are printed without control sequences. -/
def Result.plain (result : Result) : Result :=
  { result with
    printed := result.printed.map Text.Terminal.plain
    complaints := result.complaints.map Text.Terminal.plain }

/-- What all sources of a run have in common. -/
structure Job where
  path : Path
  output : Path
  config : Value
  options : Options
  skipOptimization : Bool
  preserveWhitespace : Bool
  mode : Output.Mode

/-- The query takes precedence over the configuration file, and the flags over both. -/
def Job.configuration (job : Job) (source : Path) :
    Except Configuration.Fault Configuration := do
  let read ← Configuration.ofValue job.config
  let placed := read.assign Settings.pathKey (.string source.text)
  let queried := match job.options.valueAt? Settings.optionName with
    | some optimization => placed.assign Settings.optimizationKey optimization
    | none => placed
  let switched := if job.skipOptimization then queried.assign Settings.optimizationKey (.bool false)
    else queried
  return if job.preserveWhitespace then switched.assign Settings.preserveKey (.bool true)
    else switched

/-- The settings and the markup of a source. The source is read before its settings are resolved. -/
def Job.inputs (job : Job) (tree : FileTree) (source : Path) :
    Except Fault (Settings × String) := do
  let configuration ← (job.configuration source).mapError .configuration
  let markup ← readSource tree source
  let settings ← configuration.settings.mapError .configuration
  return (settings, markup)

/-- One source is transformed and written. -/
structure Conversion where
  tree : FileTree
  requests : List Request
  result : Except Fault Unit

def Job.convert (job : Job) (library : Library) (tree : FileTree) (source : Path) : Conversion :=
  match job.inputs tree source with
  | .error fault => ⟨tree, [], .error fault⟩
  | .ok (settings, markup) =>
      let outcome := Transform.run settings (Optimizer.ofLibrary library) markup
      match outcome.result with
      | .error failure => ⟨tree, outcome.requests, .error (.transform failure)⟩
      | .ok content =>
          let place := target tree job.path job.output source
          match Output.write job.mode (some Output.structural) tree place content with
          | (tree, .ok ()) => ⟨tree, outcome.requests, .ok ()⟩
          | (tree, .error error) => ⟨tree, outcome.requests, .error (.output error)⟩

/-- A reported failure does not keep the remaining sources from being converted. -/
def Job.runFrom (job : Job) (library : Library) (result : Result) : List Path → Result
  | [] => result
  | source :: others =>
      let conversion := job.convert library result.tree source
      let next := { result with
        tree := conversion.tree
        requests := result.requests ++ conversion.requests }
      match conversion.result with
      | .ok () =>
          let place := target conversion.tree job.path job.output source
          job.runFrom library
            { next with printed := next.printed ++ [source.text ++ " -> " ++ place.text] } others
      | .error fault =>
          match fault.report? with
          | none => { next with exitCode := 1, fault := some fault }
          | some (name, message) =>
              let complaint := source.text ++ ": " ++ name ++ ": " ++ message
              job.runFrom library
                { next with complaints := next.complaints ++ [complaint] } others

def Job.run (job : Job) (library : Library) (tree : FileTree) : Result :=
  let all := sources tree job.path
  let result := job.runFrom library ⟨tree, [], [], [], 0, none⟩ all
  let failed := result.complaints.length
  if result.fault.isSome || failed = 0 then result
  else
    let summary := toString failed ++ " of " ++ toString all.length ++ " file(s) failed"
    { result with complaints := result.complaints ++ [summary], exitCode := 1 }

end SvgComponent.Command
