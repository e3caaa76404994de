/-
This file holds the faults of a run.
-/

import SvgComponent.Command.Arguments
import SvgComponent.Configuration
import SvgComponent.Output
import SvgComponent.Query.Token
import SvgComponent.Transform
import SvgComponent.Value.Reader

namespace SvgComponent.Command

/-- A fault ends the command at once. -/
inductive Fault where
  | invalidPath
  | missingArgument
  | configIsDirectory
  | configNotText
  | configMalformed (error : Value.ReadError)
  | configuration (fault : Configuration.Fault)
  | query (error : Query.Error)
  | sourceIsDirectory
  | sourceNotText
  | transform (failure : Transform.Failure)
  | output (error : Output.Error)
  deriving DecidableEq

def Fault.message : Fault → String
  | invalidPath => "A path has a null character"
  | missingArgument => "PATH and OUTPUT are required"
  | configIsDirectory => "The configuration is a directory"
  | configNotText => "The configuration is not valid text"
  | configMalformed .malformed => "The configuration is malformed"
  | configMalformed .oversizedNumeral => "The configuration has a number with too many digits"
  | configuration fault => fault.message
  | query error => error.message
  | sourceIsDirectory => "A source is a directory"
  | sourceNotText => "A source is not valid text"
  | transform (.optimizer (.rejected message)) => message
  | transform (.optimizer (.crashed message)) => message
  | transform (.markup error) => error.message
  | transform .bareNode => "A node cannot be rendered"
  | output error => error.message

/-- Why a run does not begin. -/
inductive Stop where
  | usage (error : UsageError)
  | fault (fault : Fault)
  deriving DecidableEq

/-- The name and message of a failure that concerns one source only. -/
def Fault.report? : Fault → Option (String × String)
  | .transform (.optimizer (.rejected message)) => some ("OptimizationError", message)
  | .transform (.markup .oversizedNumeral) => none
  | .transform (.markup error) => some ("CompilationError", error.message)
  | .output (.objection (.invalid message)) => some ("OutputValidationError", message)
  | _ => none

end SvgComponent.Command
